import Mathlib.Data.List.InsertIdx
import Mathlib.Data.List.Nodup

/-! # Stacking orders

A stack is the list of its elements from bottom to top. An element that changes
its place is taken out and put back; where it goes is said by a neighbour, or
by an element that is pinned to the top. -/

namespace Stacking

variable {α : Type*} {l lower upper rest : List α} {a b pin s : α}

/-- `a` lies immediately on `s`. -/
def DirectlyAbove (a s : α) (l : List α) : Prop :=
  ∃ lower upper, l = lower ++ s :: a :: upper

/-- The pinned element is on top whenever it is in the stack. -/
def Pinned (pin : α) (l : List α) : Prop :=
  pin ∈ l → l.getLast? = some pin

/-- `a` lies somewhere above `b`. -/
def Above (a b : α) (l : List α) : Prop :=
  ∃ lower upper, l = lower ++ b :: upper ∧ a ∈ upper

theorem above_iff : Above a b l ↔ ∃ i j : Nat, i < j ∧ l[i]? = some b ∧ l[j]? = some a := by
  constructor
  · rintro ⟨lower, upper, rfl, hmem⟩
    obtain ⟨k, hk⟩ := List.mem_iff_getElem?.mp hmem
    refine ⟨lower.length, lower.length + 1 + k, by omega, ?_, ?_⟩
    · rw [List.getElem?_append_right (Nat.le_refl _), Nat.sub_self, List.getElem?_cons_zero]
    · rw [List.append_cons, List.getElem?_append_right (by simp)]
      simpa using hk
  · rintro ⟨i, j, hij, hb, ha⟩
    obtain ⟨hi, rfl⟩ := List.getElem?_eq_some_iff.mp hb
    refine ⟨l.take i, l.drop (i + 1), ?_, List.mem_of_getElem? (i := j - (i + 1)) ?_⟩
    · rw [List.getElem_cons_drop, List.take_append_drop]
    · rw [List.getElem?_drop, ← ha]
      congr 1
      omega

/-- `a` is the topmost element with the property. -/
def Topmost (P : α → Prop) (a : α) (l : List α) : Prop :=
  ∃ lower upper, l = lower ++ a :: upper ∧ P a ∧ ∀ b ∈ upper, ¬ P b

theorem Topmost.mem {P : α → Prop} (h : Topmost P a l) : a ∈ l := by
  obtain ⟨lower, upper, rfl, -⟩ := h
  exact List.mem_append_right lower List.mem_cons_self

theorem Topmost.holds {P : α → Prop} (h : Topmost P a l) : P a := by
  obtain ⟨-, -, -, hP, -⟩ := h
  exact hP

theorem Topmost.unique {P : α → Prop} (ha : Topmost P a l) (hb : Topmost P b l) : a = b := by
  obtain ⟨lower, upper, rfl, hPa, hupper⟩ := ha
  obtain ⟨lower', upper', hl, hPb, hupper'⟩ := hb
  rcases List.append_eq_append_iff.mp hl with ⟨mid, rfl, hmid⟩ | ⟨mid, rfl, hmid⟩
  · cases mid with
    | nil => exact (List.cons.inj hmid).1
    | cons c mid =>
      rw [List.cons_append, List.cons.injEq] at hmid
      exact absurd hPb (hupper b (hmid.2 ▸ List.mem_append_right mid List.mem_cons_self))
  · cases mid with
    | nil => exact (List.cons.inj hmid).1.symm
    | cons c mid =>
      rw [List.cons_append, List.cons.injEq] at hmid
      exact absurd hPa (hupper' a (hmid.2 ▸ List.mem_append_right mid List.mem_cons_self))

theorem topmost_congr {P Q : α → Prop} (h : ∀ b ∈ l, P b ↔ Q b) :
    Topmost P a l ↔ Topmost Q a l := by
  constructor
  · rintro ⟨lower, upper, rfl, ha, hupper⟩
    refine ⟨lower, upper, rfl, (h a (by simp)).mp ha, fun b hb hQ => hupper b hb ?_⟩
    exact (h b (by simp [hb])).mpr hQ
  · rintro ⟨lower, upper, rfl, ha, hupper⟩
    refine ⟨lower, upper, rfl, (h a (by simp)).mpr ha, fun b hb hP => hupper b hb ?_⟩
    exact (h b (by simp [hb])).mp hP

/-- A property implied by another one that the topmost element has as well. -/
theorem Topmost.weaken {P Q : α → Prop} (h : Topmost P a l) (hQ : Q a) (hPQ : ∀ b, Q b → P b) :
    Topmost Q a l := by
  obtain ⟨lower, upper, hl, -, hupper⟩ := h
  exact ⟨lower, upper, hl, hQ, fun b hb hQb => hupper b hb (hPQ b hQb)⟩

theorem exists_topmost {P : α → Prop} (h : ∃ a ∈ l, P a) : ∃ a, Topmost P a l := by
  classical
  induction l with
  | nil =>
    obtain ⟨a, ha, -⟩ := h
    exact nomatch ha
  | cons c l ih =>
    by_cases hrest : ∃ a ∈ l, P a
    · obtain ⟨a, lower, upper, rfl, hP, hupper⟩ := ih hrest
      exact ⟨a, c :: lower, upper, rfl, hP, hupper⟩
    · obtain ⟨a, ha, hP⟩ := h
      rcases List.mem_cons.mp ha with rfl | hmem
      · exact ⟨a, [], l, rfl, hP, fun b hb hb' => hrest ⟨b, hb, hb'⟩⟩
      · exact absurd ⟨a, hmem, hP⟩ hrest

/-- Searching from the top. -/
theorem findSome?_reverse_eq_some_iff {β : Type*} {f : α → Option β} {b : β} :
    l.reverse.findSome? f = some b ↔
      ∃ a, Topmost (fun a => f a ≠ none) a l ∧ f a = some b := by
  rw [List.findSome?_eq_some_iff]
  constructor
  · rintro ⟨before, a, after, hl, ha, hbefore⟩
    refine ⟨a, ⟨after.reverse, before.reverse, ?_, by simp [ha], fun c hc => ?_⟩, ha⟩
    · simpa using congrArg List.reverse hl
    · simpa using hbefore c (List.mem_reverse.mp hc)
  · rintro ⟨a, ⟨lower, upper, rfl, -, hupper⟩, ha⟩
    refine ⟨upper.reverse, a, lower.reverse, by simp, ha, fun c hc => ?_⟩
    simpa using hupper c (List.mem_reverse.mp hc)

theorem find?_reverse_eq_some_iff {p : α → Bool} :
    l.reverse.find? p = some a ↔ Topmost (fun a => p a = true) a l := by
  rw [List.find?_eq_some_iff_append]
  constructor
  · rintro ⟨ha, before, after, hl, hbefore⟩
    refine ⟨after.reverse, before.reverse, ?_, ha, fun c hc => ?_⟩
    · simpa using congrArg List.reverse hl
    · simpa using hbefore c (List.mem_reverse.mp hc)
  · rintro ⟨lower, upper, rfl, ha, hupper⟩
    refine ⟨ha, upper.reverse, lower.reverse, by simp, fun c hc => ?_⟩
    simpa using hupper c (List.mem_reverse.mp hc)

theorem pinned_of_not_mem (h : pin ∉ l) : Pinned pin l :=
  fun hmem => absurd hmem h

theorem pinned_concat : Pinned pin (l ++ [pin]) :=
  fun _ => List.getLast?_concat

theorem Pinned.eq_concat (h : Pinned pin l) (hmem : pin ∈ l) : ∃ rest, l = rest ++ [pin] :=
  List.getLast?_eq_some_iff.mp (h hmem)

theorem Pinned.filter (h : Pinned pin l) (p : α → Bool) : Pinned pin (l.filter p) := by
  intro hmem
  obtain ⟨hpin, hp⟩ := List.mem_filter.mp hmem
  obtain ⟨rest, rfl⟩ := h.eq_concat hpin
  rw [List.filter_append, List.filter_cons_of_pos hp, List.filter_nil]
  exact List.getLast?_concat

theorem Pinned.append_left (h : Pinned pin (lower ++ upper)) (hmem : pin ∈ upper) :
    upper.getLast? = some pin := by
  have hlast := h (List.mem_append_right lower hmem)
  rw [List.getLast?_append, List.getLast?_eq_some_getLast (List.ne_nil_of_mem hmem),
    Option.some_or] at hlast
  rw [List.getLast?_eq_some_getLast (List.ne_nil_of_mem hmem), hlast]

/-- Another element may be put in anywhere but on top of the pinned one. -/
theorem Pinned.insert_iff (h : Pinned pin (lower ++ upper)) (hne : a ≠ pin) :
    Pinned pin (lower ++ a :: upper) ↔ (pin ∈ lower → upper ≠ []) := by
  constructor
  · rintro hafter hmem rfl
    have htop := hafter (List.mem_append_left [a] hmem)
    rw [List.getLast?_concat] at htop
    exact hne (Option.some.inj htop)
  · intro hroom hmem
    have hbefore : pin ∈ lower ++ upper := by
      simpa only [List.mem_append, List.mem_cons, hne.symm, false_or] using hmem
    have hupper : upper ≠ [] := by
      rcases List.mem_append.mp hbefore with hlower | hupper
      · exact hroom hlower
      · exact List.ne_nil_of_mem hupper
    have hlast := h hbefore
    rw [List.getLast?_append, List.getLast?_eq_some_getLast hupper] at hlast
    rw [List.getLast?_append, List.getLast?_cons_of_ne_nil hupper,
      List.getLast?_eq_some_getLast hupper]
    exact hlast

/-- The pinned element itself has to be put on top. -/
theorem pinned_insert_self_iff (hnew : pin ∉ upper) :
    Pinned pin (lower ++ pin :: upper) ↔ upper = [] := by
  constructor
  · intro h
    have hlast := h.append_left List.mem_cons_self
    by_contra hupper
    rw [List.getLast?_cons_of_ne_nil hupper] at hlast
    exact hnew (List.mem_of_getLast? hlast)
  · rintro rfl
    exact pinned_concat

theorem Pinned.cons (h : Pinned pin l) (hne : a ≠ pin) : Pinned pin (a :: l) :=
  (@Pinned.insert_iff _ [] l a pin h hne).mpr fun hmem => nomatch hmem

theorem pinned_cons_self_iff (hnew : pin ∉ l) : Pinned pin (pin :: l) ↔ l = [] :=
  @pinned_insert_self_iff _ [] l pin hnew

theorem insertIdx_append : (lower ++ upper).insertIdx lower.length a = lower ++ a :: upper := by
  induction lower with
  | nil => rfl
  | cons b lower ih => rw [List.cons_append, List.length_cons, List.insertIdx_succ_cons, ih]; rfl

theorem pinned_insertIdx_of_not_mem {place : Nat} (h : pin ∉ l) (hne : a ≠ pin) :
    Pinned pin (l.insertIdx place a) := by
  refine pinned_of_not_mem fun hmem => ?_
  rcases List.eq_or_mem_of_mem_insertIdx hmem with heq | hl
  · exact hne heq.symm
  · exact h hl

section
variable [DecidableEq α]

theorem Pinned.erase (h : Pinned pin l) (a : α) : Pinned pin (l.erase a) := by
  intro hmem
  obtain ⟨rest, rfl⟩ := h.eq_concat (List.mem_of_mem_erase hmem)
  by_cases ha : a ∈ rest
  · rw [List.erase_append_left [pin] ha]
    exact List.getLast?_concat
  · rw [List.erase_append_right [pin] ha] at hmem ⊢
    by_cases hpin : a = pin
    · subst hpin
      rw [List.erase_cons_head, List.append_nil] at hmem
      exact absurd hmem ha
    · rw [List.erase_cons_tail (by simpa using Ne.symm hpin), List.erase_nil]
      exact List.getLast?_concat

/-! ## Places -/

/-- The slot of a new top element: below the pinned one when that is on top. -/
def topIndex (pin : α) (l : List α) : Nat :=
  match l.getLast? with
  | some last => if last = pin then l.length - 1 else l.length
  | none => l.length

/-- Put `a` on top, or just below the pinned element. -/
def raise (pin a : α) (l : List α) : List α :=
  l.insertIdx (topIndex pin l) a

/-- Put `a` on `s`; on top when `s` is missing. -/
def putAbove (s a : α) (l : List α) : List α :=
  l.insertIdx ((l.idxOf? s).elim l.length (· + 1)) a

/-- Put `a` under `s`; at the bottom when `s` is missing. -/
def putBelow (s a : α) (l : List α) : List α :=
  l.insertIdx ((l.idxOf? s).getD 0) a

theorem idxOf?_append_cons (h : s ∉ lower) :
    (lower ++ s :: upper).idxOf? s = some lower.length := by
  induction lower with
  | nil => rw [List.nil_append, List.idxOf?_cons, if_pos (beq_self_eq_true s), List.length_nil]
  | cons b lower ih =>
    rw [List.mem_cons, not_or] at h
    rw [List.cons_append, List.idxOf?_cons, ih h.2, if_neg (by simpa using Ne.symm h.1)]
    rfl

theorem idxOf?_of_mem (h : s ∈ l) : l.idxOf? s = some (l.idxOf s) := by
  obtain ⟨lower, upper, rfl, hlower⟩ := List.eq_append_cons_of_mem h
  rw [idxOf?_append_cons hlower, List.idxOf_append, if_neg hlower, List.idxOf_cons_self,
    Nat.zero_add]

theorem topIndex_concat : topIndex pin (rest ++ [pin]) = rest.length := by
  simp [topIndex]

theorem raise_concat : raise pin a (rest ++ [pin]) = rest ++ [a, pin] := by
  rw [raise, topIndex_concat, insertIdx_append]

theorem raise_of_ne (h : l.getLast? ≠ some pin) : raise pin a l = l ++ [a] := by
  have htop : topIndex pin l = l.length := by
    unfold topIndex
    split
    · next last hlast => exact if_neg fun heq : last = pin => h (heq ▸ hlast)
    · rfl
  rw [raise, htop, List.insertIdx_length_self]

theorem raise_split (pin a : α) (l : List α) :
    ∃ lower upper, l = lower ++ upper ∧ raise pin a l = lower ++ a :: upper := by
  by_cases h : l.getLast? = some pin
  · obtain ⟨rest, rfl⟩ := List.getLast?_eq_some_iff.mp h
    exact ⟨rest, [pin], rfl, raise_concat⟩
  · exact ⟨l, [], (List.append_nil l).symm, raise_of_ne h⟩

theorem Pinned.raise (h : Pinned pin l) (a : α) : Pinned pin (raise pin a l) := by
  by_cases hmem : pin ∈ l
  · obtain ⟨rest, rfl⟩ := h.eq_concat hmem
    rw [raise_concat, List.append_cons]
    exact pinned_concat
  · rw [raise_of_ne fun hlast => hmem (List.mem_of_getLast? hlast)]
    by_cases ha : a = pin
    · rw [ha]
      exact pinned_concat
    · rw [← List.insertIdx_length_self]
      exact pinned_insertIdx_of_not_mem hmem ha

theorem putAbove_of_split (h : s ∉ lower) :
    putAbove s a (lower ++ s :: upper) = lower ++ s :: a :: upper := by
  have hplace : ((lower ++ s :: upper).idxOf? s).elim (lower ++ s :: upper).length (· + 1) =
      (lower ++ [s]).length := by
    rw [idxOf?_append_cons h, Option.elim_some, List.length_append, List.length_singleton]
  rw [putAbove, hplace, List.append_cons, insertIdx_append, List.append_assoc]
  rfl

theorem putAbove_of_not_mem (h : s ∉ l) : putAbove s a l = l ++ [a] := by
  rw [putAbove, List.idxOf?_eq_none_iff.mpr h, Option.elim_none, List.insertIdx_length_self]

theorem putBelow_of_split (h : s ∉ lower) :
    putBelow s a (lower ++ s :: upper) = lower ++ a :: s :: upper := by
  rw [putBelow, idxOf?_append_cons h, Option.getD_some, insertIdx_append]

theorem putBelow_of_not_mem (h : s ∉ l) : putBelow s a l = a :: l := by
  rw [putBelow, List.idxOf?_eq_none_iff.mpr h]
  rfl

theorem idxOf_of_getElem? {i : Nat} (hnodup : l.Nodup) (h : l[i]? = some a) : l.idxOf a = i := by
  obtain ⟨hi, rfl⟩ := List.getElem?_eq_some_iff.mp h
  exact hnodup.idxOf_getElem i hi

/-- `l'` is `l` with `a` at another place. -/
structure Rearranged (a : α) (l l' : List α) : Prop where
  perm : l'.Perm l
  others : l'.filter (· ≠ a) = l.filter (· ≠ a)

theorem Rearranged.refl (a : α) (l : List α) : Rearranged a l l where
  perm := .refl l
  others := rfl

theorem Rearranged.insert (hnodup : l.Nodup) (ha : a ∈ l) (h : l.erase a = lower ++ upper) :
    Rearranged a l (lower ++ a :: upper) where
  perm := List.perm_middle.trans (h ▸ (List.perm_cons_erase ha).symm)
  others := by
    have hrest : (lower ++ upper).filter (· ≠ a) = l.filter (· ≠ a) := by
      rw [← h, hnodup.erase_eq_filter, List.filter_filter]
      exact List.filter_congr fun x _ => by simp
    rw [← hrest, List.filter_append, List.filter_cons_of_neg (by simp), List.filter_append]

theorem Rearranged.bottom (hnodup : l.Nodup) (ha : a ∈ l) : Rearranged a l (a :: l.erase a) :=
  @Rearranged.insert _ l [] _ a _ hnodup ha rfl

/-! ## Rotations -/

/-- The element below the top slot goes to the bottom. -/
theorem Pinned.lowerTop (h : Pinned pin l) (htop : 2 ≤ topIndex pin l)
    (hc : l[topIndex pin l - 1]? = some a) :
    Pinned pin ((l.eraseIdx (topIndex pin l - 1)).insertIdx 0 a) := by
  by_cases hmem : pin ∈ l
  · obtain ⟨rest, rfl⟩ := h.eq_concat hmem
    rw [topIndex_concat] at htop hc ⊢
    rw [List.eraseIdx_append_of_lt_length (by omega), List.insertIdx_zero, ← List.cons_append]
    exact pinned_concat
  · have ha : a ≠ pin := fun heq => hmem (heq ▸ List.mem_of_getElem? hc)
    exact pinned_insertIdx_of_not_mem (fun hin => hmem (List.mem_of_mem_eraseIdx hin)) ha

/-- The bottom element goes to the top slot. -/
theorem Pinned.raiseBottom (h : Pinned pin l) (htop : 2 ≤ topIndex pin l)
    (hc : l[0]? = some a) :
    Pinned pin ((l.eraseIdx 0).insertIdx (topIndex pin l - 1) a) := by
  by_cases hmem : pin ∈ l
  · obtain ⟨rest, rfl⟩ := h.eq_concat hmem
    rw [topIndex_concat] at htop ⊢
    cases rest with
    | nil => simp at htop
    | cons first rest =>
      rw [List.cons_append, List.eraseIdx_cons_zero, List.length_cons, Nat.add_sub_cancel,
        insertIdx_append, List.append_cons]
      exact pinned_concat
  · have ha : a ≠ pin := fun heq => hmem (heq ▸ List.mem_of_getElem? hc)
    exact pinned_insertIdx_of_not_mem (fun hin => hmem (List.mem_of_mem_eraseIdx hin)) ha

end

end Stacking
