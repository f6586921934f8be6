import Mathlib.Data.List.Basic
import Mathlib.Tactic.Common

/-! # Packets over a stream

Packets of bytes are sent one after another over a stream that does not keep
their borders. Some of them carry tokens, which travel beside the bytes: in the
order in which they were sent, and so that none is still under way when its
packet is complete. A receiver buffers the bytes and queues the tokens. -/

namespace Delivery

variable {α τ : Type*}

structure Packet (α τ : Type*) where
  bytes : List α
  tokens : List τ

def wire (sent : List (Packet α τ)) : List α :=
  sent.flatMap (·.bytes)

def tokens (sent : List (Packet α τ)) : List τ :=
  sent.flatMap (·.tokens)

/-- With these bytes and tokens still under way, no token is behind its packet: once
the first packets have arrived in full, so that no more bytes are under way than
those of the others, no more tokens are under way than those of the others. -/
def OnTime (sent : List (Packet α τ)) (bytesLeft : List α) (tokensLeft : List τ) : Prop :=
  ∀ k, bytesLeft.length ≤ (wire (sent.drop k)).length →
    tokensLeft.length ≤ (tokens (sent.drop k)).length

/-- The chunks bring what is under way, as much of it as has arrived. -/
def Delivers (sent : List (Packet α τ)) :
    List α → List τ → List (List α × List τ) → Prop
  | _, _, [] => True
  | bytesLeft, tokensLeft, (bytes, tokens) :: chunks =>
    ∃ bytesLeft' tokensLeft', bytesLeft = bytes ++ bytesLeft' ∧
      tokensLeft = tokens ++ tokensLeft' ∧ OnTime sent bytesLeft' tokensLeft' ∧
      Delivers sent bytesLeft' tokensLeft' chunks

/-- The bytes that have not been read are buffered or under way, the tokens that
have not been taken are queued or under way, and the chunks to come bring them. -/
structure InStep (sent : List (Packet α τ)) (unread : List α) (untaken : List τ)
    (buffered : List α) (queued : List τ) (chunks : List (List α × List τ)) : Prop where
  exists_left : ∃ bytesLeft tokensLeft, unread = buffered ++ bytesLeft ∧
    untaken = queued ++ tokensLeft ∧ OnTime sent bytesLeft tokensLeft ∧
    Delivers sent bytesLeft tokensLeft chunks

variable {sent : List (Packet α τ)} {unread buffered bytes rest : List α}
  {untaken queued own later ts : List τ} {chunks : List (List α × List τ)} {k : Nat}

@[simp] theorem wire_cons (p : Packet α τ) : wire (p :: sent) = p.bytes ++ wire sent :=
  List.flatMap_cons

@[simp] theorem tokens_cons (p : Packet α τ) : tokens (p :: sent) = p.tokens ++ tokens sent :=
  List.flatMap_cons

theorem length_wire_drop_le (sent : List (Packet α τ)) (k : Nat) :
    (wire (sent.drop k)).length ≤ (wire sent).length := by
  induction sent generalizing k with
  | nil =>
    exact Nat.le_of_eq (congrArg (fun l => (wire l).length) List.drop_nil)
  | cons p sent ih =>
    cases k with
    | zero => exact Nat.le_refl _
    | succ k =>
      rw [List.drop_succ_cons, wire_cons, List.length_append]
      exact Nat.le_trans (ih k) (Nat.le_add_left _ _)

/-- At first everything is under way. -/
theorem onTime_all (hne : ∀ p ∈ sent, p.bytes ≠ []) : OnTime sent (wire sent) (tokens sent) := by
  intro k hk
  cases sent with
  | nil =>
    exact Nat.le_of_eq (congrArg (fun l => (tokens l).length) List.drop_nil.symm)
  | cons p sent =>
    cases k with
    | zero => exact Nat.le_refl _
    | succ k =>
      have hpos := List.length_pos_of_ne_nil (hne p List.mem_cons_self)
      have hle := length_wire_drop_le sent k
      rw [List.drop_succ_cons, wire_cons, List.length_append] at hk
      omega

namespace InStep

theorem start (hne : ∀ p ∈ sent, p.bytes ≠ [])
    (h : Delivers sent (wire sent) (tokens sent) chunks) :
    InStep sent (wire sent) (tokens sent) [] [] chunks :=
  ⟨wire sent, tokens sent, rfl, rfl, onTime_all hne, h⟩

/-- A chunk arrives for an empty buffer. -/
theorem arrive (h : InStep sent unread untaken [] queued ((bytes, ts) :: chunks)) :
    InStep sent unread untaken bytes (queued ++ ts) chunks := by
  obtain ⟨bytesLeft, tokensLeft, hunread, huntaken, -, bytesLeft', tokensLeft', rfl, rfl, hrest⟩ :=
    h
  exact ⟨bytesLeft', tokensLeft', hunread, by rw [huntaken, List.append_assoc], hrest⟩

/-- The first of the buffered bytes are read. -/
theorem read (h : InStep sent unread untaken (bytes ++ buffered) queued chunks) :
    ∃ unread', unread = bytes ++ unread' ∧ InStep sent unread' untaken buffered queued chunks := by
  obtain ⟨bytesLeft, tokensLeft, rfl, hrest⟩ := h
  exact ⟨buffered ++ bytesLeft, List.append_assoc .., bytesLeft, tokensLeft, rfl, hrest⟩

/-- The first of the queued tokens are taken. -/
theorem take (h : InStep sent unread (own ++ later) buffered (own ++ queued) chunks) :
    InStep sent unread later buffered queued chunks := by
  obtain ⟨bytesLeft, tokensLeft, hunread, huntaken, hrest⟩ := h
  rw [List.append_assoc, List.append_cancel_left_eq] at huntaken
  exact ⟨bytesLeft, tokensLeft, hunread, huntaken, hrest⟩

/-- When a packet has been read its tokens are queued. -/
theorem exists_queued
    (h : InStep sent (wire (sent.drop k)) (own ++ tokens (sent.drop k)) buffered queued chunks) :
    ∃ queued', queued = own ++ queued' ∧ queued' <+: tokens (sent.drop k) := by
  obtain ⟨bytesLeft, tokensLeft, hunread, huntaken, honTime, -⟩ := h
  have hlength := honTime k (by rw [hunread, List.length_append]; exact Nat.le_add_left _ _)
  rcases List.append_eq_append_iff.mp huntaken with ⟨queued', rfl, hlater⟩ | ⟨more, hown, rfl⟩
  · exact ⟨queued', rfl, tokensLeft, hlater.symm⟩
  · -- nothing of it can be left
    rw [List.length_append] at hlength
    obtain rfl := List.length_eq_zero_iff.mp (show more.length = 0 by omega)
    rw [List.append_nil] at hown
    exact ⟨[], by rw [hown, List.append_nil], List.nil_prefix⟩

end InStep

end Delivery
