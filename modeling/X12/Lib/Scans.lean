import Mathlib.Data.List.Basic
import Mathlib.Tactic.Common

/-! # Scans

A scan takes a value at a position of a list and moves on, or finds the list too
short. One that takes exactly what was written for a value fails on every proper part of
it, and so do several in a row. -/

/-- The list stays, the position moves. -/
abbrev Scan (β : Type) := ReaderT (List β) (StateT Nat Option)

namespace Scan

variable {β γ δ : Type} {take : Scan β γ} {next : γ → Scan β δ} {piece piece' : List β}
  {value : γ} {value' : δ} {size : Nat} {decode : List β → γ}

/-- A value of fixed size. -/
def field (size : Nat) (decode : List β → γ) : Scan β γ := fun list off =>
  if list.length < off + size then none
  else some (decode ((list.drop off).take size), off + size)

def optionally (present : Bool) (take : Scan β γ) : Scan β (Option γ) :=
  if present then do
    let value ← take
    return some value
  else return none

/-- The piece is taken as the value, and nothing less than it. -/
structure Takes (take : Scan β γ) (piece : List β) (value : γ) : Prop where
  all : ∀ before after, take (before ++ (piece ++ after)) before.length =
    some (value, before.length + piece.length)
  part : ∀ before start, start <+: piece → start ≠ piece →
    take (before ++ start) before.length = none

namespace Takes

theorem field (hsize : piece.length = size) (hdecode : decode piece = value) :
    Takes (Scan.field size decode) piece value where
  all before after := by
    have hlong : ¬ (before ++ (piece ++ after)).length < before.length + size := by
      rw [List.length_append, List.length_append]
      omega
    rw [Scan.field, if_neg hlong, List.drop_left, ← hsize, List.take_left, hdecode]
  part before start hstart hne := by
    have hlt : start.length < piece.length :=
      Nat.lt_of_le_of_ne hstart.length_le fun hlen => hne (hstart.eq_of_length hlen)
    have hshort : (before ++ start).length < before.length + size := by
      rw [List.length_append]
      omega
    rw [Scan.field, if_pos hshort]

/-- At the start of a list. -/
theorem fromStart (h : Takes take piece value) (rest : List β) :
    take (piece ++ rest) 0 = some (value, piece.length) := by
  have hall := h.all [] rest
  rwa [List.length_nil, Nat.zero_add] at hall

theorem nothing (value : γ) : Takes (pure value : Scan β γ) [] value where
  all _ _ := rfl
  part _ _ hstart hne := absurd (List.prefix_nil.mp hstart) hne

theorem andThen (h : Takes take piece value) (h' : Takes (next value) piece' value') :
    Takes (take >>= next) (piece ++ piece') value' where
  all before after := by
    have hfirst := h.all before (piece' ++ after)
    have hsecond := h'.all (before ++ piece) after
    rw [List.length_append, List.append_assoc] at hsecond
    show (take _ before.length).bind (fun p => next p.1 _ p.2) = _
    rw [List.append_assoc, hfirst, Option.bind_some, hsecond, List.length_append, Nat.add_assoc]
  part before start hstart hne := by
    show (take _ before.length).bind (fun p => next p.1 _ p.2) = _
    rcases Nat.lt_or_ge start.length piece.length with hlt | hge
    · have hprefix := List.prefix_of_prefix_length_le hstart (List.prefix_append piece piece')
        (Nat.le_of_lt hlt)
      have hstrict : start ≠ piece := fun heq => by
        rw [heq] at hlt
        exact Nat.lt_irrefl _ hlt
      rw [h.part before start hprefix hstrict]
      rfl
    · obtain ⟨mid, rfl⟩ :=
        List.prefix_of_prefix_length_le (List.prefix_append piece piece') hstart hge
      have hmid := (List.prefix_append_right_inj piece).mp hstart
      have hsecond := h'.part (before ++ piece) mid hmid fun heq => hne (by rw [heq])
      rw [List.length_append, List.append_assoc] at hsecond
      rw [h.all, Option.bind_some, hsecond]

theorem optionally (h : Takes take piece value) (present : Bool) :
    Takes (Scan.optionally present take) (if present then piece else [])
      (if present then some value else none) := by
  cases present with
  | false => exact .nothing none
  | true =>
    have hmapped : Takes (take >>= fun v => pure (some v)) (piece ++ []) (some value) :=
      h.andThen (.nothing (some value))
    rw [List.append_nil] at hmapped
    exact hmapped

end Takes

end Scan
