import Mathlib.Algebra.Ring.Nat
import Mathlib.Data.List.Basic
import Mathlib.Tactic.Common

/-! # Truncation

A reader of the beginning of some data does what it does with all of the data,
until it stops because something is missing. -/

namespace Truncation

universe u v

variable {ε : Type u} {α β : Type v} {stop : ε}

/-- The first computation stops, or it is the second. -/
def Follows (stop : ε) (x y : Except ε α) : Prop :=
  x = .error stop ∨ x = y

namespace Follows

theorem refl (x : Except ε α) : Follows stop x x :=
  .inr rfl

theorem bind {x y : Except ε α} {f g : α → Except ε β} (hxy : Follows stop x y)
    (hfg : ∀ a, Follows stop (f a) (g a)) : Follows stop (x >>= f) (y >>= g) := by
  rcases hxy with rfl | rfl
  · exact .inl rfl
  · cases x with
    | error e => exact .inr rfl
    | ok a => exact hfg a

theorem mapM {f g : α → Except ε β} (hfg : ∀ a, Follows stop (f a) (g a)) (as : List α) :
    Follows stop (as.mapM f) (as.mapM g) := by
  induction as with
  | nil => exact refl _
  | cons a as ih =>
    rw [List.mapM_cons, List.mapM_cons]
    exact bind (hfg a) fun _ => bind ih fun _ => refl _

end Follows

theorem ok_bind (a : α) (f : α → Except ε β) : (.ok a >>= f) = f a :=
  rfl

theorem bind_eq_ok {x : Except ε α} {f : α → Except ε β} {b : β} :
    x >>= f = .ok b ↔ ∃ a, x = .ok a ∧ f a = .ok b := by
  cases x with
  | error e => simp [bind, Except.bind]
  | ok a => simp [bind, Except.bind]

/-- Where a list of readings succeeds, each of them does. -/
theorem of_mapM_eq_ok {f : α → Except ε β} {as : List α} {bs : List β}
    (h : as.mapM f = .ok bs) : bs.length = as.length ∧ ∀ a ∈ as, ∃ b, f a = .ok b := by
  induction as generalizing bs with
  | nil =>
    cases h
    exact ⟨rfl, List.forall_mem_nil _⟩
  | cons a as ih =>
    rw [List.mapM_cons] at h
    obtain ⟨b, hb, h⟩ := bind_eq_ok.mp h
    obtain ⟨rest, hrest, h⟩ := bind_eq_ok.mp h
    cases h
    obtain ⟨hlength, hall⟩ := ih hrest
    exact ⟨congrArg (· + 1) hlength, List.forall_mem_cons.mpr ⟨⟨b, hb⟩, hall⟩⟩

theorem mapM_range'_eq_ok {f : Nat → Except ε β} {bs : List β} {start : Nat}
    (h : ∀ i b, bs[i]? = some b → f (start + i) = .ok b) :
    (List.range' start bs.length).mapM f = .ok bs := by
  induction bs generalizing start with
  | nil => rfl
  | cons b bs ih =>
    have hfirst : f start = .ok b := h 0 b rfl
    have hrest : (List.range' (start + 1) bs.length).mapM f = .ok bs := by
      refine ih fun i b hi => ?_
      rw [Nat.add_assoc, Nat.add_comm 1]
      exact h (i + 1) b hi
    rw [List.length_cons, List.range'_succ, List.mapM_cons, hfirst, hrest]
    rfl

theorem mapM_range_eq_ok {f : Nat → Except ε β} {bs : List β}
    (h : ∀ i b, bs[i]? = some b → f i = .ok b) : (List.range bs.length).mapM f = .ok bs := by
  rw [List.range_eq_range']
  refine mapM_range'_eq_ok fun i b hi => ?_
  rw [Nat.zero_add]
  exact h i b hi

end Truncation
