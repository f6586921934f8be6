import Mathlib.Data.Set.Card

/-! # Reference counts

Names stand for objects, and a table counts the names of each object. The table
has no entry for an object without a name. -/

namespace RefCounts

variable {α β : Type*} {names names' : α → Option β} {count count' : β → Option Nat}
  {a : α} {b c : β}

def namesOf (names : α → Option β) (b : β) : Set α :=
  {a | names a = some b}

structure Counted (names : α → Option β) (count : β → Option Nat) : Prop where
  exact : ∀ b, (count b).getD 0 = (namesOf names b).ncard
  noZero : ∀ b, count b ≠ some 0

/-- A new name for an object. -/
structure Put (names names' : α → Option β) (a : α) (b : β) : Prop where
  unused : names a = none
  put : names' a = some b
  others : ∀ x, x ≠ a → names' x = names x

/-- A name of an object that is given up. -/
structure Drop (names names' : α → Option β) (a : α) (b : β) : Prop where
  used : names a = some b
  dropped : names' a = none
  others : ∀ x, x ≠ a → names' x = names x

/-- An object that has lost its last name. -/
def Lost (names names' : α → Option β) (b : β) : Prop :=
  (namesOf names b).Nonempty ∧ namesOf names' b = ∅

/-- The names that are left when those of a list are given up. -/
def without [DecidableEq α] (names : α → Option β) (l : List α) (a : α) : Option β :=
  if a ∈ l then none else names a

theorem namesOf_mono (h : ∀ x, names' x = none ∨ names' x = names x) (b : β) :
    namesOf names' b ⊆ namesOf names b := by
  intro x (hx : names' x = some b)
  rcases h x with hnone | hsame
  · rw [hnone] at hx
    cases hx
  · exact hsame.symm.trans hx

namespace Put

theorem namesOf_self (h : Put names names' a b) :
    namesOf names' b = insert a (namesOf names b) := by
  ext x
  by_cases hx : x = a
  · simp [namesOf, hx, h.put]
  · simp [namesOf, hx, h.others x hx]

theorem namesOf_other (h : Put names names' a b) (hc : c ≠ b) :
    namesOf names' c = namesOf names c := by
  ext x
  by_cases hx : x = a
  · simp [namesOf, hx, h.put, h.unused, Ne.symm hc]
  · simp [namesOf, h.others x hx]

theorem counted [Finite α] (h : Put names names' a b) (hcount : Counted names count)
    (hself : count' b = some ((count b).getD 0 + 1)) (hothers : ∀ c, c ≠ b → count' c = count c) :
    Counted names' count' := by
  constructor
  · intro c
    by_cases hc : c = b
    · subst hc
      have hnew : a ∉ namesOf names c := by simp [namesOf, h.unused]
      rw [hself, Option.getD_some, h.namesOf_self, Set.ncard_insert_of_notMem hnew,
        hcount.exact]
    · rw [hothers c hc, h.namesOf_other hc, hcount.exact]
  · intro c
    by_cases hc : c = b
    · subst hc
      rw [hself]
      simp
    · rw [hothers c hc]
      exact hcount.noZero c

end Put

namespace Drop

/-- Giving up a name undoes the taking of it. -/
theorem symm (h : Drop names names' a b) : Put names' names a b :=
  ⟨h.dropped, h.used, fun x hx => (h.others x hx).symm⟩

theorem count_eq [Finite α] (h : Drop names names' a b) (hcount : Counted names count) :
    count b = some ((namesOf names' b).ncard + 1) := by
  have hnew : a ∉ namesOf names' b := by simp [namesOf, h.dropped]
  have hexact := hcount.exact b
  rw [h.symm.namesOf_self, Set.ncard_insert_of_notMem hnew] at hexact
  cases hb : count b with
  | none => simp [hb] at hexact
  | some n =>
    rw [hb, Option.getD_some] at hexact
    rw [hexact]

theorem counted [Finite α] (h : Drop names names' a b) (hcount : Counted names count)
    (hself : count' b =
      if (namesOf names' b).ncard = 0 then none else some (namesOf names' b).ncard)
    (hothers : ∀ c, c ≠ b → count' c = count c) : Counted names' count' := by
  constructor
  · intro c
    by_cases hc : c = b
    · subst hc
      rw [hself]
      split
      · next hzero => rw [hzero]; rfl
      · rfl
    · rw [hothers c hc, ← h.symm.namesOf_other hc, hcount.exact]
  · intro c
    by_cases hc : c = b
    · subst hc
      rw [hself]
      split
      · simp
      · next hzero => simpa using hzero
    · rw [hothers c hc]
      exact hcount.noZero c

/-- What is lost with a name and those given up after it. -/
theorem lost_iff {names'' : α → Option β} (h : Drop names names' a b)
    (hlater : ∀ x, names'' x = none ∨ names'' x = names' x) :
    Lost names names'' c ↔ c = b ∧ namesOf names' b = ∅ ∨ Lost names' names'' c := by
  by_cases hc : c = b
  · subst hc
    have hused : (namesOf names c).Nonempty := ⟨a, h.used⟩
    have hmono := namesOf_mono hlater c
    constructor
    · rintro ⟨-, hempty⟩
      rcases (namesOf names' c).eq_empty_or_nonempty with hnone | hsome
      · exact .inl ⟨rfl, hnone⟩
      · exact .inr ⟨hsome, hempty⟩
    · rintro (⟨-, hnone⟩ | ⟨-, hempty⟩)
      · exact ⟨hused, Set.subset_empty_iff.mp (hnone ▸ hmono)⟩
      · exact ⟨hused, hempty⟩
  · rw [Lost, h.symm.namesOf_other hc]
    exact ⟨.inr, fun hlost => hlost.resolve_left fun hb => hc hb.1⟩

end Drop

/-! ## Stray holds

A hold may be taken for no name, and a name may be overwritten while its hold is not
dropped. -/

/-- An object is held once for each of its names, and once each time it is in the list
of stray holds. -/
def Tallied [DecidableEq β] (names : α → Option β) (stray : List β) (held : β → Nat) : Prop :=
  ∀ b, held b = (namesOf names b).ncard + stray.count b

section Tallied

variable [DecidableEq β] {stray stray' : List β} {held : β → Nat}

theorem Tallied.perm (h : Tallied names stray held) (hperm : stray.Perm stray') :
    Tallied names stray' held :=
  fun c => (h c).trans (congrArg _ (hperm.count_eq c))

theorem Put.tallied [Finite α] (h : Put names names' a b) (ht : Tallied names stray held) :
    Tallied names' stray (Function.update held b (held b + 1)) := by
  intro c
  by_cases hc : c = b
  · subst hc
    have hnew : a ∉ namesOf names c := by simp [namesOf, h.unused]
    rw [Function.update_self, h.namesOf_self, Set.ncard_insert_of_notMem hnew, ht c]
    omega
  · rw [Function.update_of_ne hc, h.namesOf_other hc, ht c]

theorem Drop.forget [Finite α] (h : Drop names names' a b)
    (ht : Tallied names stray held) : Tallied names' (b :: stray) held := by
  intro c
  rw [ht c]
  by_cases hc : c = b
  · subst hc
    have hnew : a ∉ namesOf names' c := by simp [namesOf, h.dropped]
    rw [h.symm.namesOf_self, Set.ncard_insert_of_notMem hnew, List.count_cons_self]
    omega
  · rw [h.symm.namesOf_other hc, List.count_cons_of_ne (Ne.symm hc)]

theorem Tallied.take (ht : Tallied names stray held) (b : β) :
    Tallied names (b :: stray) (Function.update held b (held b + 1)) := by
  intro c
  by_cases hc : c = b
  · subst hc
    rw [Function.update_self, ht c, List.count_cons_self]
    omega
  · rw [Function.update_of_ne hc, ht c, List.count_cons_of_ne (Ne.symm hc)]

theorem Tallied.drop (ht : Tallied names (b :: stray) held) :
    Tallied names stray (Function.update held b (held b - 1)) := by
  intro c
  by_cases hc : c = b
  · subst hc
    rw [Function.update_self, ht c, List.count_cons_self]
    omega
  · rw [Function.update_of_ne hc, ht c, List.count_cons_of_ne (Ne.symm hc)]

theorem Drop.tallied [Finite α] (h : Drop names names' a b)
    (ht : Tallied names stray held) :
    Tallied names' stray (Function.update held b (held b - 1)) :=
  (h.forget ht).drop

theorem Tallied.pos_of_name [Finite α] (ht : Tallied names stray held)
    (ha : names a = some b) : 0 < held b := by
  have hpos : 0 < (namesOf names b).ncard := (Set.ncard_pos (Set.toFinite _)).mpr ⟨a, ha⟩
  rw [ht b]
  omega

theorem Tallied.pos_of_stray (ht : Tallied names stray held) (hb : b ∈ stray) :
    0 < held b := by
  have hpos : 0 < stray.count b := List.count_pos_iff.mpr hb
  rw [ht b]
  omega

end Tallied

theorem not_lost (names : α → Option β) (b : β) : ¬ Lost names names b :=
  fun h => h.1.ne_empty h.2

/-- Nothing is lost by giving a name to an object unless it was the last name of
another one. -/
theorem not_lost_assign_iff [DecidableEq α]
    (h : ∀ x, names' x = if x = a then some b else names x) :
    (∀ c, ¬ Lost names names' c) ↔
      ∀ c, names a = some c → c = b ∨ ∃ x, x ≠ a ∧ names x = some c := by
  constructor
  · intro hkept c hc
    by_contra hlast
    obtain ⟨hcb, hothers⟩ := not_or.mp hlast
    refine hkept c ⟨⟨a, hc⟩, Set.eq_empty_of_forall_notMem fun x hx => ?_⟩
    have hx : names' x = some c := hx
    rw [h] at hx
    split at hx
    · exact hcb (Option.some.inj hx).symm
    · next hxa => exact hothers ⟨x, hxa, hx⟩
  · rintro hkept c ⟨⟨x, hx⟩, hempty⟩
    have hx : names x = some c := hx
    have hnot : ∀ y, names' y ≠ some c := fun y hy => hempty.subset hy
    by_cases hxa : x = a
    · subst hxa
      rcases hkept c hx with rfl | ⟨y, hya, hy⟩
      · exact hnot x (by rw [h, if_pos rfl])
      · exact hnot y (by rw [h, if_neg hya, hy])
    · exact hnot x (by rw [h, if_neg hxa, hx])

theorem without_of_mem [DecidableEq α] {l : List α} (h : a ∈ l) : without names l a = none :=
  if_pos h

theorem without_of_notMem [DecidableEq α] {l : List α} (h : a ∉ l) :
    without names l a = names a :=
  if_neg h

theorem without_map {γ : Type*} [DecidableEq α] [DecidableEq γ] {f : γ → α}
    (hf : Function.Injective f) (names : α → Option β) (l : List γ) (c : γ) :
    without names (l.map f) (f c) = without (names ∘ f) l c :=
  if_congr (List.mem_map_of_injective hf) rfl rfl

theorem without_map_of_ne {γ : Type*} [DecidableEq α] {f : γ → α} (hf : ∀ c, f c ≠ a)
    (names : α → Option β) (l : List γ) : without names (l.map f) a = names a := by
  refine without_of_notMem fun hmem => ?_
  obtain ⟨c, -, hc⟩ := List.mem_map.mp hmem
  exact hf c hc

theorem drop_without [DecidableEq α] (h : names a = some b) :
    Drop names (without names [a]) a b :=
  ⟨h, without_of_mem (List.mem_singleton_self a),
    fun _ hx => without_of_notMem (by simpa using hx)⟩

theorem without_cons [DecidableEq α] (names : α → Option β) (a : α) (l : List α) :
    without names (a :: l) = without (without names [a]) l := by
  funext x
  simp only [without, List.mem_cons, List.not_mem_nil, or_false]
  grind

theorem without_eq_none_or [DecidableEq α] (names : α → Option β) (l : List α) (x : α) :
    without names l x = none ∨ without names l x = names x := by
  unfold without
  split
  · exact .inl rfl
  · exact .inr rfl

theorem without_nil [DecidableEq α] (names : α → Option β) : without names [] = names :=
  funext fun _ => without_of_notMem List.not_mem_nil

theorem without_of_none [DecidableEq α] (h : names a = none) : without names [a] = names := by
  funext x
  by_cases hx : x = a <;> simp [without, hx, h]

/-- The holds of names that are forgotten are stray. -/
theorem Tallied.without [Finite α] [DecidableEq α] [DecidableEq β] {stray : List β}
    {held : β → Nat} (ht : Tallied names stray held) {l : List α} (hl : l.Nodup) :
    Tallied (without names l) (l.filterMap names ++ stray) held := by
  induction l generalizing names stray with
  | nil => rwa [without_nil]
  | cons a l ih =>
    obtain ⟨ha, hl⟩ := List.nodup_cons.mp hl
    rw [without_cons]
    cases hname : names a with
    | none =>
      rw [List.filterMap_cons_none hname, without_of_none hname]
      exact ih ht hl
    | some b =>
      have hrest : l.filterMap (RefCounts.without names [a]) = l.filterMap names :=
        List.filterMap_congr fun x hx =>
          without_of_notMem fun hmem => ha (List.mem_singleton.mp hmem ▸ hx)
      have hforgot := ih ((drop_without hname).forget ht) hl
      rw [hrest] at hforgot
      rw [List.filterMap_cons_some hname]
      exact hforgot.perm List.perm_middle

end RefCounts
