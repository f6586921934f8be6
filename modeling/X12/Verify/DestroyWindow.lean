import Mathlib.Logic.Relation
import X12.Core.WindowTree

/-! # What destroying a window removes

The recursion of `destroy_window_inner` is a depth-first search that removes
what it visits. In any table, well formed or not, it removes exactly the
windows that can be reached from its start through child lists, and it takes a
removed window out of the child list of its parent and out of no other. -/

namespace X12

namespace Window

variable {w : Window} {keep keep' : ResourceId → Bool}

theorem retainChildren_congr (h : ∀ c ∈ w.children, keep c = keep' c) :
    w.retainChildren keep = w.retainChildren keep' := by
  rw [retainChildren, retainChildren, List.filter_congr h]

theorem retainChildren_all (h : ∀ c ∈ w.children, keep c) : w.retainChildren keep = w := by
  rw [retainChildren, List.filter_eq_self.mpr h]

theorem retainChildren_retainChildren :
    (w.retainChildren keep).retainChildren keep' =
      w.retainChildren fun c => keep c && keep' c := by
  rw [retainChildren, retainChildren, retainChildren, List.filter_filter]
  congr 2
  funext c
  exact Bool.and_comm ..

end Window

namespace ResourceTable

def parentOf (t : ResourceTable) (id : ResourceId) : Option ResourceId :=
  t.windows[id]?.map (·.parent)

def childrenOf (t : ResourceTable) (id : ResourceId) : List ResourceId :=
  t.windows[id]?.elim [] (·.children)

/-- A window that can be destroyed. -/
def Destroyable (t : ResourceTable) (id : ResourceId) : Prop :=
  id ≠ ROOT_WINDOW ∧ t.windows[id]? ≠ none

/-- The record of a window after some windows have been destroyed. -/
def keepChildren (t : ResourceTable) (destroyed : List ResourceId) (id : ResourceId)
    (w : Window) : Window :=
  w.retainChildren fun c => ¬ (c ∈ destroyed ∧ t.parentOf c = some id)

/-- `t'` is what is left of `t` after the listed windows have been destroyed. -/
structure Pruned (t t' : ResourceTable) (destroyed : List ResourceId) : Prop where
  others : t' = { t with windows := t'.windows }
  get : ∀ a, t'.windows[a]? =
    if a ∈ destroyed then none else t.windows[a]?.map (t.keepChildren destroyed a)

/-- From `before` to `after`, a search from `starts` has destroyed whatever it
could reach. -/
structure Swept (t : ResourceTable) (starts before after : List ResourceId) : Prop where
  subset : before ⊆ after
  start : ∀ s ∈ starts, t.Destroyable s → s ∈ after
  closed : ∀ x ∈ after, x ∈ before ∨ ∀ c ∈ t.childrenOf x, t.Destroyable c → c ∈ after
  destroyable : ∀ x ∈ after, x ∈ before ∨ t.Destroyable x
  reached : ∀ x ∈ after, x ∈ before ∨
    ∃ s ∈ starts, t.Destroyable s ∧
      Relation.ReflTransGen (fun p c => c ∈ t.childrenOf p ∧ t.Destroyable c) s x

variable {t t' : ResourceTable} {destroyed starts starts' before mid after : List ResourceId}
  {id a : ResourceId} {w : Window} {fuel : Nat}

theorem parentOf_eq_none : t.parentOf id = none ↔ t.windows[id]? = none := by
  rw [parentOf, Option.map_eq_none_iff]

theorem Pruned.refl (t : ResourceTable) : Pruned t t [] where
  others := rfl
  get a := by
    cases h : t.windows[a]? with
    | none => rfl
    | some w =>
      rw [Option.map_some, keepChildren, Window.retainChildren_all (by simp)]
      rfl

namespace Pruned

theorem parentOf_eq (h : Pruned t t' destroyed) :
    t'.parentOf a = if a ∈ destroyed then none else t.parentOf a := by
  rw [parentOf, h.get]
  split
  · rfl
  · rw [Option.map_map]
    rfl

theorem childrenOf_eq (h : Pruned t t' destroyed) :
    t'.childrenOf a = if a ∈ destroyed then [] else
      (t.childrenOf a).filter fun c => ¬ (c ∈ destroyed ∧ t.parentOf c = some a) := by
  rw [childrenOf, h.get]
  split
  · rfl
  · rw [childrenOf]
    cases t.windows[a]? <;> rfl

/-- A window that is left can be destroyed, and lists all its children but those
that are gone. -/
theorem live (h : Pruned t t' destroyed) (hroot : id ≠ ROOT_WINDOW)
    (hw : t'.windows[id]? = some w) :
    t.Destroyable id ∧ w.children ⊆ t.childrenOf id ∧
      ∀ c ∈ t.childrenOf id, c ∈ w.children ∨ c ∈ destroyed := by
  have hkept : id ∉ destroyed := fun hmem => by
    rw [h.get, if_pos hmem] at hw
    cases hw
  have hchildren := h.childrenOf_eq (a := id)
  rw [if_neg hkept, childrenOf, hw, Option.elim_some] at hchildren
  refine ⟨⟨hroot, fun hnone => ?_⟩, fun c hc => ?_, fun c hc => ?_⟩
  · rw [h.get, if_neg hkept, hnone] at hw
    cases hw
  · rw [hchildren] at hc
    exact (List.mem_filter.mp hc).1
  · by_cases hmem : c ∈ destroyed
    · exact .inr hmem
    · rw [hchildren, List.mem_filter]
      exact .inl ⟨hc, by simp [hmem]⟩

/-- One round of the recursion: the record goes, and its parent forgets it. -/
theorem destroyOne (h : Pruned t t' destroyed) (ha : t'.windows[id]? = some w) :
    Pruned t ({ t' with windows := t'.windows.erase id }.modifyWindow w.parent (·.dropChild id))
      (destroyed ++ [id]) where
  others := by
    conv_lhs => rw [h.others]
    rfl
  get x := by
    have hkept : id ∉ destroyed := fun hmem => by
      rw [h.get, if_pos hmem] at ha
      cases ha
    have hparent : t.parentOf id = some w.parent := by
      have := h.parentOf_eq (a := id)
      rw [if_neg hkept, parentOf, ha] at this
      exact this.symm
    rw [get_modifyWindow, ResourceMap.get_erase]
    by_cases hx : x = id
    · simp [hx]
    by_cases hmem : x ∈ destroyed
    · simp [h.get, hx, hmem]
    have hmem' : x ∉ destroyed ++ [id] := by simp [hx, hmem]
    rw [if_neg hx, if_neg hmem', h.get, if_neg hmem]
    cases t.windows[x]? with
    | none => simp
    | some v =>
      simp only [Option.map_some, keepChildren, Window.dropChild]
      split
      · next hxp =>
        subst hxp
        rw [Window.retainChildren_retainChildren]
        refine congrArg some (Window.retainChildren_congr fun c _ => ?_)
        by_cases hc : c = id <;> simp [hc, hparent]
      · next hxp =>
        refine congrArg some (Window.retainChildren_congr fun c _ => ?_)
        by_cases hc : c = id
        · simp [hc, hparent, hkept, Ne.symm hxp]
        · simp [hc]

end Pruned

namespace Swept

theorem refl (t : ResourceTable) (before : List ResourceId) : Swept t [] before before where
  subset := List.Subset.refl before
  start _ hs := by cases hs
  closed _ hx := .inl hx
  destroyable _ hx := .inl hx
  reached _ hx := .inl hx

theorem trans (h : Swept t starts before mid) (h' : Swept t starts' mid after) :
    Swept t (starts ++ starts') before after where
  subset := List.Subset.trans h.subset h'.subset
  start s hs hd := by
    rcases List.mem_append.mp hs with hs | hs
    · exact h'.subset (h.start s hs hd)
    · exact h'.start s hs hd
  closed x hx := by
    rcases h'.closed x hx with hx | hx
    · exact (h.closed x hx).imp_right fun hc c hmem hd => h'.subset (hc c hmem hd)
    · exact .inr hx
  destroyable x hx := by
    rcases h'.destroyable x hx with hx | hx
    · exact h.destroyable x hx
    · exact .inr hx
  reached x hx := by
    rcases h'.reached x hx with hx | ⟨s, hs, hr⟩
    · exact (h.reached x hx).imp_right fun ⟨s, hs, hr⟩ => ⟨s, List.mem_append_left _ hs, hr⟩
    · exact .inr ⟨s, List.mem_append_right _ hs, hr⟩

/-- A start that cannot be destroyed, or is gone already. -/
theorem skip (h : t.Destroyable id → id ∈ before) : Swept t [id] before before where
  subset := List.Subset.refl before
  start s hs hd := by
    cases List.mem_singleton.mp hs
    exact h hd
  closed _ hx := .inl hx
  destroyable _ hx := .inl hx
  reached _ hx := .inl hx

/-- Destroying a window and then searching from those of its children that it
still lists. -/
theorem visit (hid : t.Destroyable id) {listed : List ResourceId} (hlisted : listed ⊆ t.childrenOf id)
    (hgone : ∀ c ∈ t.childrenOf id, c ∈ listed ∨ c ∈ before)
    (h : Swept t listed (before ++ [id]) after) : Swept t [id] before after where
  subset := fun x hx => h.subset (List.mem_append_left _ hx)
  start s hs _ := by
    cases List.mem_singleton.mp hs
    exact h.subset (List.mem_append_right _ (.head _))
  closed x hx := by
    rcases h.closed x hx with hx | hx
    · rcases List.mem_append.mp hx with hx | hx
      · exact .inl hx
      · cases List.mem_singleton.mp hx
        refine .inr fun c hc hd => ?_
        rcases hgone c hc with hc | hc
        · exact h.start c hc hd
        · exact h.subset (List.mem_append_left _ hc)
    · exact .inr hx
  destroyable x hx := by
    rcases h.destroyable x hx with hx | hx
    · rcases List.mem_append.mp hx with hx | hx
      · exact .inl hx
      · cases List.mem_singleton.mp hx
        exact .inr hid
    · exact .inr hx
  reached x hx := by
    rcases h.reached x hx with hx | ⟨s, hs, hd, hr⟩
    · rcases List.mem_append.mp hx with hx | hx
      · exact .inl hx
      · cases List.mem_singleton.mp hx
        exact .inr ⟨id, .head _, hid, .refl⟩
    · exact .inr ⟨id, .head _, hid, .head ⟨hlisted hs, hd⟩ hr⟩

/-- A finished search from nothing has found exactly what can be reached. -/
theorem mem_iff (h : Swept t starts [] after) {x : ResourceId} :
    x ∈ after ↔ ∃ s ∈ starts, t.Destroyable s ∧
      Relation.ReflTransGen (fun p c => c ∈ t.childrenOf p ∧ t.Destroyable c) s x := by
  refine ⟨fun hx => (h.reached x hx).resolve_left (List.not_mem_nil), ?_⟩
  rintro ⟨s, hs, hd, hr⟩
  induction hr with
  | refl => exact h.start s hs hd
  | tail _ hstep ih =>
    exact (h.closed _ ih).resolve_left List.not_mem_nil _ hstep.1 hstep.2

end Swept

/-! ## The recursion -/

/-- What a call of the recursion is for: the table stays pruned, and what has
been destroyed is swept from the starts. -/
structure Destroys (t t' : ResourceTable) (starts before : List ResourceId)
    (result : ResourceTable × List ResourceId) : Prop where
  pruned : Pruned t result.1 result.2
  swept : Swept t starts before result.2
  size_le : result.1.windows.size ≤ t'.windows.size

theorem Destroys.foldl {bound : Nat}
    {step : ResourceTable × List ResourceId → ResourceId → ResourceTable × List ResourceId}
    (hstep : ∀ {t' : ResourceTable} {before : List ResourceId} (id : ResourceId),
      Pruned t t' before → t'.windows.size ≤ bound → Destroys t t' [id] before (step (t', before) id))
    (h : Pruned t t' before) (hbound : t'.windows.size ≤ bound) (ids : List ResourceId) :
    Destroys t t' ids before (ids.foldl step (t', before)) := by
  induction ids generalizing t' before with
  | nil => exact ⟨h, .refl t before, Nat.le_refl _⟩
  | cons id ids ih =>
    have hone := hstep id h hbound
    have hrest := ih hone.pruned (Nat.le_trans hone.size_le hbound)
    exact ⟨hrest.pruned, hone.swept.trans hrest.swept, Nat.le_trans hrest.size_le hone.size_le⟩

/-- Nothing is done for the root or for a window that is gone. -/
theorem Destroys.skip (h : Pruned t t' before)
    (hgone : t'.windows[id]? = none ∨ id = ROOT_WINDOW) :
    Destroys t t' [id] before (t', before) := by
  refine ⟨h, .skip fun hd => ?_, Nat.le_refl _⟩
  have hnone := hgone.resolve_right hd.1
  rw [h.get] at hnone
  by_contra hmem
  rw [if_neg hmem, Option.map_eq_none_iff] at hnone
  exact hd.2 hnone

theorem size_erase_lt (hw : t.windows[id]? = some w) :
    (t.windows.erase id).size < t.windows.size := by
  have hmem : id ∈ t.windows := ResourceMap.mem_iff.mpr (by simp [hw])
  have hpos : t.windows.size ≠ 0 := fun hzero => by
    rw [Std.ExtTreeMap.eq_empty_iff_size_eq_zero.mpr hzero] at hmem
    exact Std.ExtTreeMap.not_mem_empty hmem
  rw [Std.ExtTreeMap.size_erase, if_pos (Std.ExtTreeMap.contains_iff_mem.mpr hmem)]
  omega

/-- Fuel for the windows that are left is enough. -/
theorem destroyWindowInner_destroys (h : Pruned t t' before) (hfuel : t'.windows.size ≤ fuel)
    (id : ResourceId) : Destroys t t' [id] before (destroyWindowInner fuel (t', before) id) := by
  induction fuel generalizing t' before id with
  | zero =>
    have hempty : t'.windows = ∅ :=
      Std.ExtTreeMap.eq_empty_iff_size_eq_zero.mpr (Nat.le_zero.mp hfuel)
    exact .skip h (.inl (by rw [hempty, Std.ExtTreeMap.getElem?_empty]))
  | succ fuel ih =>
    rw [destroyWindowInner]
    split
    · next hroot => exact .skip h (.inr hroot)
    · next hroot =>
      split
      · next hnone => exact .skip h (.inl hnone)
      · next w hw =>
        have hsize := size_erase_lt hw
        obtain ⟨hdestroyable, hlisted, hgone⟩ := h.live hroot hw
        have hchildren := Destroys.foldl (fun id hp hs => ih hp hs id) (h.destroyOne hw)
          (by rw [size_modifyWindow]; exact Nat.le_of_lt_succ (Nat.lt_of_lt_of_le hsize hfuel))
          w.children
        refine ⟨hchildren.pruned, .visit hdestroyable hlisted hgone hchildren.swept, ?_⟩
        have := hchildren.size_le
        rw [size_modifyWindow] at this
        exact Nat.le_trans this (Nat.le_of_lt hsize)

theorem destroyWindow_destroys (t : ResourceTable) (id : ResourceId) :
    Destroys t t [id] [] (t.destroyWindow id) :=
  destroyWindowInner_destroys (.refl t) (Nat.le_refl _) id

end ResourceTable

end X12
