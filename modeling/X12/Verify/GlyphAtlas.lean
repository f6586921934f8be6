import X12.Core.GlyphAtlas
import X12.Lib.Shelves

/-! # Glyphs do not overlap

What has been handed out is right of nothing that is free: the shelves are filled from the
left and stacked from the top. -/

namespace X12

open Shelves (Packed Slot)

/-! ## Numbers -/

theorem addOrOverflow_eq {a b : UInt32} (h : a.toNat + b.toNat < UInt32.size) :
    addOrOverflow a b = .ok (a + b) :=
  if_pos h

theorem toNat_add_of_lt {a b : UInt32} (h : a.toNat + b.toNat < UInt32.size) :
    (a + b).toNat = a.toNat + b.toNat :=
  (UInt32.toNat_add ..).trans (Nat.mod_eq_of_lt h)

/-! ## Shelves -/

def Shelf.plain (s : Shelf) : Shelves.Shelf where
  top := s.yTop.toNat
  height := s.height.toNat
  used := s.xUsed.toNat

namespace ShelfPacker

variable {p p' : ShelfPacker} {w h x y : UInt32} {place : Option (UInt32 × UInt32)}
  {shelves shelves' : List Shelf} {width : UInt32}

/-- No sum of two sides overflows. -/
def Bounded (extent : Extent2D) : Prop :=
  2 * extent.width.toNat < UInt32.size ∧ 2 * extent.height.toNat < UInt32.size

/-- What is handed out for a request, where the glyph is not empty. -/
def slot (request : UInt32 × UInt32) (place : Option (UInt32 × UInt32)) : Option Slot :=
  if request.1 = 0 ∨ request.2 = 0 then none
  else place.map fun (x, y) => ⟨x.toNat, y.toNat, request.1.toNat, request.2.toNat⟩

/-- The slots have been handed out by the packer. -/
def Keeps (p : ShelfPacker) (slots : List Slot) : Prop :=
  Packed p.extent.width.toNat p.extent.height.toNat (p.shelves.map Shelf.plain) slots

/-- A shelf is found, or none has room. Nothing overflows. -/
theorem packOnShelf_spec (hwidth : 2 * width.toNat < UInt32.size) (hw : w ≤ width)
    (hused : ∀ s ∈ shelves, s.xUsed ≤ width) :
    packOnShelf width w h shelves = .ok none ∨
    ∃ before s after, shelves = before ++ s :: after ∧ h ≤ s.height ∧ s.xUsed + w ≤ width ∧
      packOnShelf width w h shelves =
        .ok (some (before ++ { s with xUsed := s.xUsed + w } :: after, s.xUsed, s.yTop)) := by
  induction shelves with
  | nil => exact .inl rfl
  | cons shelf rest ih =>
    have hsum : shelf.xUsed.toNat + w.toNat < UInt32.size := by
      have hw := UInt32.le_iff_toNat_le.mp hw
      have hshelf := UInt32.le_iff_toNat_le.mp (hused shelf List.mem_cons_self)
      omega
    have hskip := ih fun s hs => hused s (List.mem_cons_of_mem _ hs)
    -- what the shelves after this one give
    have hrest : keepShelf shelf <$> packOnShelf width w h rest = .ok none ∨
        ∃ before s after, shelf :: rest = before ++ s :: after ∧ h ≤ s.height ∧
          s.xUsed + w ≤ width ∧ keepShelf shelf <$> packOnShelf width w h rest =
            .ok (some (before ++ { s with xUsed := s.xUsed + w } :: after, s.xUsed, s.yTop)) := by
      rcases hskip with hnone | ⟨before, s, after, rfl, hheight, hfit, hfound⟩
      · rw [hnone]
        exact .inl rfl
      · rw [hfound]
        exact .inr ⟨shelf :: before, s, after, rfl, hheight, hfit, rfl⟩
    rw [packOnShelf]
    split
    · next hheight =>
      rw [addOrOverflow_eq hsum]
      change (if shelf.xUsed + w ≤ width then _ else _) = _ ∨ ∃ before s after, _ ∧ _ ∧ _ ∧
        (if shelf.xUsed + w ≤ width then _ else _) = _
      split
      · next hfit => exact .inr ⟨[], shelf, rest, rfl, hheight, hfit, rfl⟩
      · exact hrest
    · exact hrest

variable {slots : List Slot}

theorem Keeps.used (hkeeps : p.Keeps slots) : ∀ s ∈ p.shelves, s.xUsed ≤ p.extent.width :=
  fun _ hs => UInt32.le_iff_toNat_le.mpr (Packed.used hkeeps _ (List.mem_map_of_mem hs))

/-- Nothing is handed out. -/
theorem Keeps.nothing (hkeeps : p.Keeps slots) (hslot : slot (w, h) place = none) :
    p.Keeps (slots ++ (slot (w, h) place).toList) := by
  rw [hslot, Option.toList_none, List.append_nil]
  exact hkeeps

theorem Keeps.put (hkeeps : p.Keeps slots) (hbound : Bounded p.extent)
    {before after : List Shelf} {s : Shelf} (hshelves : p.shelves = before ++ s :: after)
    (hne : ¬ (w = 0 ∨ h = 0)) (hw : w ≤ p.extent.width) (hheight : h ≤ s.height)
    (hfit : s.xUsed + w ≤ p.extent.width) :
    Keeps { p with shelves := before ++ { s with xUsed := s.xUsed + w } :: after }
      (slots ++ (slot (w, h) (some (s.xUsed, s.yTop))).toList) := by
  have hused := UInt32.le_iff_toNat_le.mp
    (hkeeps.used s (hshelves ▸ List.mem_append_right _ List.mem_cons_self))
  have hw := UInt32.le_iff_toNat_le.mp hw
  have hsum := toNat_add_of_lt (a := s.xUsed) (b := w) (by have := hbound.1; omega)
  have hfit := UInt32.le_iff_toNat_le.mp hfit
  rw [hsum] at hfit
  rw [Keeps, hshelves, List.map_append, List.map_cons] at hkeeps
  have hput := Packed.put hkeeps (UInt32.le_iff_toNat_le.mp hheight) hfit
  rw [Keeps, List.map_append, List.map_cons, Shelf.plain, hsum, slot, if_neg hne]
  exact hput

/-- Where the next shelf starts. -/
theorem nextY_spec (hkeeps : p.Keeps slots) (hbound : Bounded p.extent) :
    ∃ nextY : UInt32, p.nextY = .ok nextY ∧
      nextY.toNat = Shelves.nextTop (p.shelves.map Shelf.plain) ∧
      nextY ≤ p.extent.height := by
  rw [nextY]
  cases hlast : p.shelves.getLast? with
  | none =>
    refine ⟨0, rfl, ?_, UInt32.zero_le⟩
    rw [Shelves.nextTop, List.getLast?_map, hlast]
    rfl
  | some s =>
    have hbottom := hkeeps.bottom _ (List.mem_map_of_mem (List.mem_of_getLast? hlast))
    have hfits : s.yTop.toNat + s.height.toNat ≤ p.extent.height.toNat := hbottom
    have hsum : s.yTop.toNat + s.height.toNat < UInt32.size := by
      have := hbound.2
      omega
    refine ⟨s.yTop + s.height, addOrOverflow_eq hsum, ?_, ?_⟩
    · rw [toNat_add_of_lt hsum, Shelves.nextTop, List.getLast?_map, hlast]
      rfl
    · rw [UInt32.le_iff_toNat_le, toNat_add_of_lt hsum]
      exact hfits

theorem Keeps.openShelf (hkeeps : p.Keeps slots) {nextY : UInt32}
    (htop : nextY.toNat = Shelves.nextTop (p.shelves.map Shelf.plain))
    (hsum : nextY.toNat + h.toNat < UInt32.size) (hne : ¬ (w = 0 ∨ h = 0))
    (hw : w ≤ p.extent.width) (hfit : nextY + h ≤ p.extent.height) :
    Keeps { p with shelves := p.shelves ++ [⟨nextY, h, w⟩] }
      (slots ++ (slot (w, h) (some (0, nextY))).toList) := by
  have hfit := UInt32.le_iff_toNat_le.mp hfit
  rw [toNat_add_of_lt hsum, htop] at hfit
  have hopen := Packed.openShelf hkeeps (UInt32.le_iff_toNat_le.mp hw) hfit
  rw [← htop] at hopen
  rw [Keeps, List.map_append, List.map_singleton, slot, if_neg hne]
  exact hopen

/-- A request is answered without an overflow, and a refusal changes nothing. -/
theorem pack_spec (hkeeps : p.Keeps slots) (hbound : Bounded p.extent) (w h : UInt32) :
    ∃ p' place, p.pack w h = .ok (p', place) ∧ p'.extent = p.extent ∧
      p'.Keeps (slots ++ (slot (w, h) place).toList) ∧ (place = none → p' = p) := by
  rw [pack]
  split
  · next hempty =>
    exact ⟨p, some (0, 0), rfl, rfl, hkeeps.nothing (if_pos hempty), fun _ => rfl⟩
  next hne =>
  split
  · exact ⟨p, none, rfl, rfl, hkeeps.nothing (ite_self none), fun _ => rfl⟩
  next hlarge =>
  obtain ⟨hw, hh⟩ := not_or.mp hlarge
  have hw := UInt32.not_lt.mp hw
  have hh := UInt32.not_lt.mp hh
  rcases packOnShelf_spec (h := h) hbound.1 hw hkeeps.used with
    hnone | ⟨before, s, after, hshelves, hheight, hfit, hfound⟩
  · rw [hnone]
    obtain ⟨nextY, hnext, htop, hle⟩ := nextY_spec hkeeps hbound
    have hsum : nextY.toNat + h.toNat < UInt32.size := by
      have hle := UInt32.le_iff_toNat_le.mp hle
      have hh := UInt32.le_iff_toNat_le.mp hh
      have := hbound.2
      omega
    simp only [bind, Except.bind, hnext, addOrOverflow_eq hsum]
    split
    · exact ⟨p, none, rfl, rfl, hkeeps.nothing (ite_self none), fun _ => rfl⟩
    · next hfit =>
      exact ⟨_, _, rfl, rfl, hkeeps.openShelf htop hsum hne hw (UInt32.not_lt.mp hfit),
        fun hnone => by cases hnone⟩
  · rw [hfound]
    exact ⟨_, _, rfl, rfl, hkeeps.put hbound hshelves hne hw hheight hfit, fun hnone => by cases hnone⟩

theorem pack_refused (hpack : p.pack w h = .ok (p', none)) : p' = p := by
  rw [pack] at hpack
  split at hpack
  · cases hpack
  split at hpack
  · cases hpack
    rfl
  simp only [bind, Except.bind] at hpack
  split at hpack
  · cases hpack
  split at hpack
  · cases hpack
  split at hpack
  · cases hpack
  split at hpack
  · cases hpack
  split at hpack
  · cases hpack
    rfl
  · cases hpack

/-- The slots that are handed out for the requests. -/
def handedOut (requests : List (UInt32 × UInt32)) (places : List (Option (UInt32 × UInt32))) :
    List Slot :=
  (requests.zip places).filterMap fun answer => slot answer.1 answer.2

theorem handedOut_cons {request : UInt32 × UInt32} {requests : List (UInt32 × UInt32)}
    {places : List (Option (UInt32 × UInt32))} :
    handedOut (request :: requests) (place :: places) =
      (slot request place).toList ++ handedOut requests places := by
  rw [handedOut, List.zip_cons_cons, List.filterMap_cons]
  dsimp only
  cases slot request place <;> rfl

theorem packAll_spec (hkeeps : p.Keeps slots) (requests : List (UInt32 × UInt32))
    (hbound : Bounded p.extent) :
    ∃ final places, p.packAll requests = .ok (final, places) ∧ places.length = requests.length ∧
      final.extent = p.extent ∧ final.Keeps (slots ++ handedOut requests places) := by
  induction requests generalizing p slots with
  | nil => exact ⟨p, [], rfl, rfl, rfl, (List.append_nil slots).symm ▸ hkeeps⟩
  | cons request requests ih =>
    obtain ⟨w, h⟩ := request
    obtain ⟨next, place, hpack, hextent, hnext, -⟩ := pack_spec hkeeps hbound w h
    obtain ⟨final, places, hall, hlength, hfinal, hslots⟩ := ih hnext (hextent ▸ hbound)
    refine ⟨final, place :: places, ?_, congrArg (· + 1) hlength, hfinal.trans hextent, ?_⟩
    · rw [packAll]
      simp only [bind, Except.bind, hpack, hall]
      rfl
    · rw [handedOut_cons, ← List.append_assoc]
      exact hslots

/-- Every request is answered without an overflow, what has been handed out lies in the
extent and does not overlap, and a refusal changes nothing. The sides of the atlas are
`ATLAS_SIDE`. -/
theorem packAll_lawful (extent : Extent2D) (hbound : Bounded extent)
    (requests : List (UInt32 × UInt32)) :
    (∃ final places, (new extent).packAll requests = .ok (final, places) ∧
      places.length = requests.length ∧
      (∀ slot ∈ handedOut requests places,
        slot.Inside extent.width.toNat extent.height.toNat) ∧
      (handedOut requests places).Pairwise Slot.Disjoint) ∧
    ∀ (p p' : ShelfPacker) (w h : UInt32), p.pack w h = .ok (p', none) → p' = p := by
  obtain ⟨final, places, hall, hlength, hextent, hkeeps⟩ :=
    packAll_spec (p := new extent) (Packed.nil : Packed _ _ [] []) requests hbound
  refine ⟨⟨final, places, hall, hlength, fun slot hslot => ?_, hkeeps.disjoint⟩,
    fun _ _ _ _ => pack_refused⟩
  have hinside := Packed.inside hkeeps hslot
  rwa [hextent] at hinside

theorem packAll_lawful_atlas :
    ∃ final places, atlas.packAll [(3000, 20), (2000, 10), (0, 5), (5000, 1), (1000, 20)] =
        .ok (final, places) ∧
      places.length = 5 ∧
      (∀ slot ∈ handedOut [(3000, 20), (2000, 10), (0, 5), (5000, 1), (1000, 20)] places,
        slot.Inside 4096 4096) ∧
      (handedOut [(3000, 20), (2000, 10), (0, 5), (5000, 1), (1000, 20)] places).Pairwise
        Slot.Disjoint :=
  (packAll_lawful ⟨ATLAS_SIDE, ATLAS_SIDE⟩ ⟨by decide, by decide⟩
    [(3000, 20), (2000, 10), (0, 5), (5000, 1), (1000, 20)]).1

example : (atlas.packAll [(3000, 20), (2000, 10), (0, 5), (5000, 1), (1000, 20)]).map (·.2) =
    .ok [some (0, 0), some (0, 20), some (0, 0), none, some (3000, 0)] := by
  decide

end ShelfPacker

end X12
