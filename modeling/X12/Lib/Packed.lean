import Mathlib.Algebra.Ring.Nat
import Mathlib.Data.List.Basic
import Mathlib.Tactic.Common

/-! # Packed lists

A list has a value for each marked place, in the order of the places, and
nothing for the others. The value of a place is found by counting the marked
places before it. -/

namespace Packed

variable {α β : Type*} {p : Nat → Bool} {read : Nat → Option α}

/-- The number of marked places before a place. -/
def position (p : Nat → Bool) (i : Nat) : Nat :=
  (List.range i).countP p

theorem position_succ (p : Nat → Bool) (i : Nat) :
    position p (i + 1) = position p i + if p i then 1 else 0 := by
  rw [position, List.range_succ, List.countP_append, List.countP_singleton]
  rfl

theorem position_le (p : Nat → Bool) {i j : Nat} (h : i ≤ j) : position p i ≤ position p j := by
  induction h with
  | refl => exact Nat.le_refl _
  | step h ih =>
    rw [Nat.succ_eq_add_one, position_succ]
    omega

theorem position_lt {i j : Nat} (hp : p i) (h : i < j) : position p i < position p j := by
  refine Nat.lt_of_lt_of_le ?_ (position_le p h)
  rw [Nat.succ_eq_add_one, position_succ, if_pos hp]
  omega

/-- The value of a place. -/
def value (p : Nat → Bool) (read : Nat → Option α) (i : Nat) : Option α :=
  if p i then read (position p i) else none

/-- Go through places with a head that moves on at each marked one, up to the
first answer. -/
def walk (p : Nat → Bool) (read : Nat → Option α) (f : Nat → α → Option β) :
    List Nat → Nat → Option β
  | [], _ => none
  | i :: is, k =>
    if p i then
      match read k with
      | none => none
      | some a =>
        match f i a with
        | some b => some b
        | none => walk p read f is (k + 1)
    else walk p read f is k

/-- The list ends somewhere: past a value that is missing there is no other. -/
def Ends (read : Nat → Option α) : Prop :=
  ∀ k l, k ≤ l → read k = none → read l = none

theorem Ends.value_eq_none (h : Ends read) {i j : Nat} (hij : i ≤ j)
    (hread : read (position p i) = none) : value p read j = none := by
  rw [value]
  split
  · exact h _ _ (position_le p hij) hread
  · rfl

/-- The walk is a search through the values of the places. -/
theorem walk_range'_eq_findSome? (h : Ends read) (f : Nat → α → Option β) (i n : Nat) :
    walk p read f (List.range' i n) (position p i) =
      (List.range' i n).findSome? fun j => (value p read j).bind (f j) := by
  induction n generalizing i with
  | zero => rfl
  | succ n ih =>
    rw [List.range'_succ, walk, List.findSome?_cons, ← ih, position_succ]
    cases hp : p i with
    | false =>
      have hvalue : value p read i = none := if_neg (by simp [hp])
      rw [hvalue, if_neg (by simp), if_neg (by simp)]
      rfl
    | true =>
      have hvalue : value p read i = read (position p i) := if_pos hp
      rw [hvalue, if_pos rfl, if_pos rfl]
      cases hread : read (position p i) with
      | none =>
        -- the list has ended, and so it has for the places that are left
        have hrest : (List.range' (i + 1) n).findSome? (fun j => (value p read j).bind (f j)) =
            none := by
          refine List.findSome?_eq_none_iff.mpr fun j hj => ?_
          have hij : i ≤ j := by
            have := (List.mem_range'_1.mp hj).1
            omega
          rw [h.value_eq_none hij hread]
          rfl
        rw [← ih, position_succ, hp] at hrest
        exact hrest.symm
      | some a => rfl

theorem walk_eq_findSome? (h : Ends read) (f : Nat → α → Option β) (n : Nat) :
    walk p read f (List.range n) 0 =
      (List.range n).findSome? fun j => (value p read j).bind (f j) := by
  rw [List.range_eq_range']
  exact walk_range'_eq_findSome? h f 0 n

theorem findSome?_single {is : List Nat} {i : Nat} (hi : i ∈ is) (b : Option β) :
    is.findSome? (fun j => if j = i then b else none) = b := by
  cases b with
  | none => exact List.findSome?_eq_none_iff.mpr fun _ _ => ite_self _
  | some b =>
    induction is with
    | nil => cases hi
    | cons j is ih =>
      rw [List.findSome?_cons]
      by_cases hji : j = i
      · rw [if_pos hji]
      · rw [if_neg hji]
        exact ih ((List.mem_cons.mp hi).resolve_left (Ne.symm hji))

/-- A walk for one place finds its value. -/
theorem walk_place (h : Ends read) {n i : Nat} (hi : i < n) :
    walk p read (fun j a => if j = i then some a else none) (List.range n) 0 = value p read i := by
  have hplace (j : Nat) : ((value p read j).bind fun a => if j = i then some a else none) =
      if j = i then value p read i else none := by
    by_cases hji : j = i
    · simp [hji]
    · simp [hji]
  rw [walk_eq_findSome? h]
  simp only [hplace]
  exact findSome?_single (List.mem_range.mpr hi) _

end Packed
