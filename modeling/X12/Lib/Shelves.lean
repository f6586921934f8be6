import Mathlib.Data.List.Basic

/-! # Shelf packing

Boxes are put side by side on shelves, and the shelves are stacked. A box that has been
put stays, so all that is needed of the past is how far each shelf is filled. -/

namespace Shelves

/-- A half-open box. -/
structure Slot where
  x : Nat
  y : Nat
  width : Nat
  height : Nat
  deriving DecidableEq, Repr

namespace Slot

variable {s t : Slot} {width height : Nat}

def Inside (s : Slot) (width height : Nat) : Prop :=
  s.x + s.width ≤ width ∧ s.y + s.height ≤ height

/-- The point lies in the box. -/
def Has (s : Slot) (px py : Nat) : Prop :=
  (s.x ≤ px ∧ px < s.x + s.width) ∧ s.y ≤ py ∧ py < s.y + s.height

def Disjoint (s t : Slot) : Prop :=
  ∀ px py, ¬ (s.Has px py ∧ t.Has px py)

theorem disjoint_of_right (h : s.x + s.width ≤ t.x) : s.Disjoint t := by
  rintro px py ⟨⟨⟨-, hs⟩, -⟩, ⟨⟨ht, -⟩, -⟩⟩
  omega

theorem disjoint_of_below (h : s.y + s.height ≤ t.y) : s.Disjoint t := by
  rintro px py ⟨⟨-, -, hs⟩, ⟨-, ht, -⟩⟩
  omega

theorem Disjoint.symm (h : s.Disjoint t) : t.Disjoint s :=
  fun px py hboth => h px py hboth.symm

end Slot

/-- From `top` on, filled from the left. -/
structure Shelf where
  top : Nat
  height : Nat
  used : Nat

namespace Shelf

variable {s t : Shelf} {slot other : Slot}

def bottom (s : Shelf) : Nat := s.top + s.height

/-- The box stands on the shelf. -/
structure Holds (s : Shelf) (slot : Slot) : Prop where
  y : slot.y = s.top
  height : slot.height ≤ s.height
  right : slot.x + slot.width ≤ s.used

theorem Holds.mono (h : s.Holds slot) (htop : t.top = s.top) (hheight : t.height = s.height)
    (hused : s.used ≤ t.used) : t.Holds slot :=
  ⟨h.y.trans htop.symm, hheight ▸ h.height, Nat.le_trans h.right hused⟩

theorem Holds.disjoint (h : s.Holds slot) (h' : t.Holds other) (hst : s.bottom ≤ t.top) :
    slot.Disjoint other := by
  have hheight := h.height
  refine Slot.disjoint_of_below ?_
  rw [bottom] at hst
  rw [h.y, h'.y]
  omega

end Shelf

/-- Where the next shelf starts. -/
def nextTop (shelves : List Shelf) : Nat :=
  (shelves.getLast?.map Shelf.bottom).getD 0

variable {width height : Nat} {shelves before after : List Shelf} {s : Shelf} {slots : List Slot}

/-- The shelves are stacked within the extent, and every box stands on one. -/
structure Packed (width height : Nat) (shelves : List Shelf) (slots : List Slot) : Prop where
  stacked : shelves.Pairwise fun s t => s.bottom ≤ t.top
  used : ∀ s ∈ shelves, s.used ≤ width
  bottom : ∀ s ∈ shelves, s.bottom ≤ height
  held : ∀ slot ∈ slots, ∃ s ∈ shelves, s.Holds slot
  disjoint : slots.Pairwise Slot.Disjoint

namespace Packed

theorem nil : Packed width height [] [] where
  stacked := .nil
  used _ h := absurd h List.not_mem_nil
  bottom _ h := absurd h List.not_mem_nil
  held _ h := absurd h List.not_mem_nil
  disjoint := .nil

theorem inside (h : Packed width height shelves slots) {slot : Slot} (hslot : slot ∈ slots) :
    slot.Inside width height := by
  obtain ⟨s, hs, hheld⟩ := h.held slot hslot
  have hused := h.used s hs
  have hbottom := h.bottom s hs
  have hright := hheld.right
  have hheight := hheld.height
  rw [Shelf.bottom] at hbottom
  constructor
  · omega
  · rw [hheld.y]
    omega

theorem bottom_le_nextTop (h : Packed width height shelves slots) (hs : s ∈ shelves) :
    s.bottom ≤ nextTop shelves := by
  obtain ⟨front, last, rfl⟩ := List.eq_nil_or_concat shelves |>.resolve_left (List.ne_nil_of_mem hs)
  rw [List.concat_eq_append] at hs ⊢
  rw [nextTop, List.getLast?_concat, Option.map_some, Option.getD_some]
  rcases List.mem_append.mp hs with hs | hs
  · have hle : s.bottom ≤ last.top :=
      (List.pairwise_append.mp (List.concat_eq_append ▸ h.stacked)).2.2 s hs last
        List.mem_cons_self
    exact Nat.le_trans hle (Nat.le_add_right ..)
  · obtain rfl := List.mem_singleton.mp hs
    exact Nat.le_refl _

theorem mem_replace {s t a : Shelf} (h : a ∈ before ++ t :: after) :
    a = t ∨ a ∈ before ++ s :: after := by
  rcases List.mem_cons.mp (List.perm_middle.mem_iff.mp h) with rfl | h
  · exact .inl rfl
  · exact .inr (List.perm_middle.mem_iff.mpr (List.mem_cons_of_mem _ h))

/-- A box is put beside the others of a shelf. -/
theorem put (h : Packed width height (before ++ s :: after) slots) {w ht : Nat}
    (hheight : ht ≤ s.height) (hfit : s.used + w ≤ width) :
    Packed width height (before ++ { s with used := s.used + w } :: after)
      (slots ++ [⟨s.used, s.top, w, ht⟩]) := by
  have hnew : ({ s with used := s.used + w } : Shelf).Holds ⟨s.used, s.top, w, ht⟩ :=
    ⟨rfl, hheight, Nat.le_refl _⟩
  obtain ⟨hbefore, hrest, hcross⟩ := List.pairwise_append.mp h.stacked
  obtain ⟨hs, hafter⟩ := List.pairwise_cons.mp hrest
  refine ⟨?_, fun a ha => ?_, fun a ha => ?_, fun slot hslot => ?_, ?_⟩
  · refine List.pairwise_append.mpr ⟨hbefore, List.pairwise_cons.mpr ⟨hs, hafter⟩, ?_⟩
    intro a ha b hb
    rcases List.mem_cons.mp hb with rfl | hb
    · exact hcross a ha s List.mem_cons_self
    · exact hcross a ha b (List.mem_cons_of_mem _ hb)
  · rcases mem_replace ha with rfl | ha
    · exact hfit
    · exact h.used a ha
  · rcases mem_replace ha with rfl | ha
    · exact h.bottom s List.mem_append_cons_self
    · exact h.bottom a ha
  · rcases List.mem_append.mp hslot with hslot | hslot
    · obtain ⟨a, ha, hheld⟩ := h.held slot hslot
      rcases mem_replace ha with rfl | ha
      · exact ⟨_, List.mem_append_cons_self, hheld.mono rfl rfl (Nat.le_add_right ..)⟩
      · exact ⟨a, ha, hheld⟩
    · obtain rfl := List.mem_singleton.mp hslot
      exact ⟨_, List.mem_append_cons_self, hnew⟩
  · refine List.pairwise_append.mpr ⟨h.disjoint, List.pairwise_singleton .., ?_⟩
    intro slot hslot new hmem
    obtain rfl := List.mem_singleton.mp hmem
    obtain ⟨a, ha, hheld⟩ := h.held slot hslot
    rcases List.mem_append.mp ha with ha | ha
    · exact hheld.disjoint hnew (hcross a ha s List.mem_cons_self)
    rcases List.mem_cons.mp ha with rfl | ha
    · exact Slot.disjoint_of_right hheld.right
    · exact (hnew.disjoint hheld (hs a ha)).symm

/-- A shelf is opened below the others. -/
theorem openShelf (h : Packed width height shelves slots) {w ht : Nat} (hwidth : w ≤ width)
    (hfit : nextTop shelves + ht ≤ height) :
    Packed width height (shelves ++ [⟨nextTop shelves, ht, w⟩])
      (slots ++ [⟨0, nextTop shelves, w, ht⟩]) := by
  have hnew : (⟨nextTop shelves, ht, w⟩ : Shelf).Holds ⟨0, nextTop shelves, w, ht⟩ :=
    ⟨rfl, Nat.le_refl _, Nat.le_of_eq (Nat.zero_add w)⟩
  refine ⟨?_, ?_, ?_, ?_, ?_⟩
  · refine List.pairwise_append.mpr ⟨h.stacked, List.pairwise_singleton .., fun a ha b hb => ?_⟩
    obtain rfl := List.mem_singleton.mp hb
    exact h.bottom_le_nextTop ha
  · intro a ha
    rcases List.mem_append.mp ha with ha | ha
    · exact h.used a ha
    · exact (List.mem_singleton.mp ha) ▸ hwidth
  · intro a ha
    rcases List.mem_append.mp ha with ha | ha
    · exact h.bottom a ha
    · exact (List.mem_singleton.mp ha) ▸ hfit
  · intro slot hslot
    rcases List.mem_append.mp hslot with hslot | hslot
    · obtain ⟨a, ha, hheld⟩ := h.held slot hslot
      exact ⟨a, List.mem_append_left _ ha, hheld⟩
    · obtain rfl := List.mem_singleton.mp hslot
      exact ⟨_, List.mem_append_right _ (List.mem_singleton_self _), hnew⟩
  · refine List.pairwise_append.mpr ⟨h.disjoint, List.pairwise_singleton .., ?_⟩
    intro slot hslot new hmem
    obtain rfl := List.mem_singleton.mp hmem
    obtain ⟨a, ha, hheld⟩ := h.held slot hslot
    exact hheld.disjoint hnew (h.bottom_le_nextTop ha)

end Packed

end Shelves
