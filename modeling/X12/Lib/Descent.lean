import Mathlib.Logic.Relation

/-! # Walks without a choice

A walk that takes the only step there is for as long as there is one. It ends
in one place, and everything that it can reach is on the way there. -/

namespace Descent

open Relation

variable {σ : Type*} {step : σ → σ → Prop} {next : σ → Option σ} {a b q : σ} {fuel n bound : Nat}

/-- `b` is where the walk from `a` ends. -/
structure Ends (step : σ → σ → Prop) (a b : σ) : Prop where
  reaches : ReflTransGen step a b
  stops : ∀ c, ¬ step b c

theorem Ends.of_reaches (h : Ends step a b) (hunique : Relator.RightUnique step)
    (hq : ReflTransGen step a q) : ReflTransGen step q b := by
  rcases hq.total_of_right_unique hunique h.reaches with hqb | hbq
  · exact hqb
  · rcases ReflTransGen.cases_head hbq with rfl | ⟨c, hc, -⟩
    · exact .refl
    · exact absurd hc (h.stops c)

/-- The steps of a partial function. -/
def Next (next : σ → Option σ) (a b : σ) : Prop :=
  next a = some b

theorem next_rightUnique : Relator.RightUnique (Next next) := by
  intro a b c hb hc
  rw [Next] at hb hc
  exact Option.some.inj (hb.symm.trans hc)

/-- The place reached after some steps, or earlier if there is no step left. -/
def follow (next : σ → Option σ) : Nat → σ → σ
  | 0, a => a
  | fuel + 1, a => (next a).elim a (follow next fuel)

/-- Enough fuel for a walk that a measure bounds. -/
theorem follow_ends (measured : Nat → σ → Prop)
    (hstep : ∀ {n a b}, measured n a → next a = some b → measured (n + 1) b)
    (hbound : ∀ {n a}, measured n a → n < bound) (ha : measured n a) (hfuel : bound ≤ n + fuel) :
    Ends (Next next) a (follow next fuel a) := by
  induction fuel generalizing n a with
  | zero =>
    have := hbound ha
    omega
  | succ fuel ih =>
    rw [follow]
    cases hnext : next a with
    | none =>
      exact ⟨.refl, fun c hc => by
        rw [Option.elim_none, Next, hnext] at hc
        exact nomatch hc⟩
    | some b =>
      have hends := ih (hstep ha hnext) (by omega)
      exact ⟨.head hnext hends.reaches, hends.stops⟩

end Descent
