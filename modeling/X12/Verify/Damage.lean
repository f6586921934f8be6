import X12.Core.Damage
import X12.Verify.Region

/-! # Damage is conserved

Drawing and Add only append to the region of a damage object and Subtract cuts
it by its repair region. One step is exact at every point of the coordinate
domain, and along a run a recorded point is lost to a Subtract only. -/

namespace X12

open Boxes (Box)

/-! ## Saturation -/

theorem saturateI16_toInt {v : Int} (h : -32768 ≤ v) : (saturateI16 v).toInt = min v 32767 := by
  unfold saturateI16
  split
  · next hv =>
    rw [Int16.toInt_ofInt_of_le hv.1 (by omega)]
    omega
  · next hv =>
    have hmax : (32767 : Int16).toInt = 32767 := by decide
    omega

theorem saturateU16_toNat {v : Int} (h : 0 ≤ v) : ((saturateU16 v).toNat : Int) = min v 65535 := by
  unfold saturateU16
  split
  · next hv =>
    rw [UInt16.toNat_ofNat', Nat.mod_eq_of_lt (by omega)]
    omega
  · next hv =>
    have hmax : (65535 : UInt16).toNat = 65535 := by decide
    omega

namespace LevelRect

/-- The edges of a damaged rectangle, before saturation. -/
def toBox (l : LevelRect) : Box Int :=
  ⟨l.rx, l.rx + l.rw, l.ry, l.ry + l.rh⟩

/-- The rectangles the walk meets: only their origin can be too large for its
field. -/
structure Fits (l : LevelRect) : Prop where
  left : -32768 ≤ l.rx
  top : -32768 ≤ l.ry
  width : 0 ≤ l.rw ∧ l.rw ≤ 65535
  height : 0 ≤ l.rh ∧ l.rh ≤ 65535

/-- A saturated origin lies outside of the domain, as the true one does. -/
theorem mem_saturated {l : LevelRect} {p : Point} (h : l.Fits) (hp : InDomain p) :
    p ∈ l.saturated ↔ p ∈ l.toBox := by
  obtain ⟨⟨_, _⟩, _, _⟩ := hp
  obtain ⟨hl, ht, ⟨hw, _⟩, hh, _⟩ := h
  have hx := saturateI16_toInt hl
  have hy := saturateI16_toInt ht
  have hw := saturateU16_toNat hw
  have hh := saturateU16_toNat hh
  rw [RegionRect.mem_iff, Box.mem_iff]
  simp only [saturated, toBox, RegionRect.left, RegionRect.right, RegionRect.top, RegionRect.bottom]
  omega

end LevelRect

theorem leafRect_fits (drawable : ResourceId) (x y : Int16) (width height : UInt16) :
    (leafRect drawable x y width height).Fits := by
  have := x.le_toInt
  have := y.le_toInt
  have := width.toNat_lt
  have := height.toNat_lt
  refine ⟨?_, ?_, ?_, ?_⟩ <;> simp only [leafRect] <;> omega

/-! ## The levels of the ancestor walk -/

namespace ResourceTable

variable {t : ResourceTable} {l above : LevelRect}

theorem levelAbove_eq_some (h : t.levelAbove l = some above) :
    above.Fits ∧ 0 < above.rw ∧ 0 < above.rh ∧ above.rw ≤ l.rw ∧ above.rh ≤ l.rh := by
  simp only [levelAbove, Option.bind_eq_bind, Option.bind_eq_some_iff,
    Option.ite_none_left_eq_some, Option.some.injEq] at h
  obtain ⟨current, -, -, parent, -, hclip, rfl⟩ := h
  have := parent.width.toNat_lt
  have := parent.height.toNat_lt
  refine ⟨⟨?_, ?_, ?_, ?_⟩, ?_, ?_, ?_, ?_⟩ <;> simp only <;> omega

/-- The rectangles of the walk above a level, with the steps that are left. -/
def levelsAbove (t : ResourceTable) : Nat → LevelRect → List LevelRect
  | 0, _ => []
  | steps + 1, l => (t.levelAbove l).elim [] fun above => above :: t.levelsAbove steps above

/-- The rectangle of a drawing operation on its drawable and on each ancestor
that shows a part of it. -/
def drawnLevels (t : ResourceTable) (drawable : ResourceId) (x y : Int16)
    (width height : UInt16) : List LevelRect :=
  let leaf := leafRect drawable x y width height
  leaf :: t.levelsAbove ANCESTOR_WALK_MAX_DEPTH leaf

theorem exists_levelAbove {steps : Nat} (h : above ∈ t.levelsAbove steps l) :
    ∃ below, t.levelAbove below = some above := by
  induction steps generalizing l with
  | zero => cases h
  | succ steps ih =>
    rw [levelsAbove] at h
    cases hl : t.levelAbove l with
    | none =>
      rw [hl] at h
      cases h
    | some next =>
      rw [hl] at h
      rcases List.mem_cons.mp h with rfl | h
      · exact ⟨l, hl⟩
      · exact ih h

theorem fits_of_mem_levelsAbove {steps : Nat} (h : above ∈ t.levelsAbove steps l) :
    above.Fits := by
  obtain ⟨below, hbelow⟩ := exists_levelAbove h
  exact (levelAbove_eq_some hbelow).1

theorem fits_of_mem_drawnLevels {drawable : ResourceId} {x y : Int16} {width height : UInt16}
    (h : l ∈ t.drawnLevels drawable x y width height) : l.Fits := by
  rcases List.mem_cons.mp h with rfl | h
  · exact leafRect_fits drawable x y width height
  · exact fits_of_mem_levelsAbove h

/-- An empty rectangle damages nothing at any level. -/
theorem not_mem_drawnLevels_of_empty {drawable : ResourceId} {x y : Int16} {width height : UInt16}
    {p : Point} (hempty : width = 0 ∨ height = 0)
    (h : l ∈ t.drawnLevels drawable x y width height) : p ∉ l.toBox := by
  have hleaf : (leafRect drawable x y width height).rw = 0 ∨
      (leafRect drawable x y width height).rh = 0 := by
    rcases hempty with rfl | rfl
    · exact .inl rfl
    · exact .inr rfl
  rcases List.mem_cons.mp h with rfl | h
  · rw [Box.mem_iff]
    simp only [LevelRect.toBox]
    omega
  · rw [ANCESTOR_WALK_MAX_DEPTH, levelsAbove] at h
    cases hl : t.levelAbove (leafRect drawable x y width height) with
    | none =>
      rw [hl] at h
      cases h
    | some next =>
      have := levelAbove_eq_some hl
      omega

end ResourceTable

/-! ## What an operation does to one object -/

namespace ServerState

/-- The drawable and the region of a damage object, without the state of its
notifications. -/
def damageContent (s : ServerState) (id : ResourceId) : Option (ResourceId × List RegionRect) :=
  s.damageObjects[id]?.map fun d => (d.drawable, d.rects)

def damageDrawable (s : ServerState) (id : ResourceId) : Option ResourceId :=
  (s.damageContent id).map Prod.fst

def damageRects (s : ServerState) (id : ResourceId) : List RegionRect :=
  (s.damageContent id).elim [] Prod.snd

/-- Rectangles appended by an operation that leaves the drawable alone. -/
def appendRects (rects : ResourceId → List RegionRect) (content : ResourceId × List RegionRect) :
    ResourceId × List RegionRect :=
  (content.1, content.2 ++ rects content.1)

variable {s : ServerState} {id damageId : ResourceId} {l : LevelRect} {p : Point}
  {acc : ServerState × List PendingNotify}

/-- A recorded rectangle is appended; else only the notification changes. -/
theorem accumulateInObject_eq {dmg : DamageObject} (h : acc.1.damageObjects[damageId]? = some dmg) :
    ∃ fired geometry pending, accumulateInObject l acc damageId =
      ({ acc.1 with
        damageObjects := acc.1.damageObjects.insert damageId
          { dmg with
            rects := dmg.rects ++ [l.saturated]
            pendingNotifyFired := fired
            lastReportedGeometry := geometry } }, pending) := by
  simp only [accumulateInObject, h]
  generalize (if dmg.level = REPORT_RAW_RECTANGLES ∨ dmg.level = REPORT_DELTA_RECTANGLES ∨
      dmg.level = REPORT_BOUNDING_BOX then true
    else if dmg.level = REPORT_NON_EMPTY then _ else false) = levelAllowsEmit
  split
  · exact ⟨true, _, _, rfl⟩
  · exact ⟨dmg.pendingNotifyFired, dmg.lastReportedGeometry, _, rfl⟩

theorem accumulateInObject_eq_self (h : acc.1.damageObjects[damageId]? = none) :
    accumulateInObject l acc damageId = acc := by
  simp only [accumulateInObject, h]

theorem accumulateInObject_resources :
    (accumulateInObject l acc damageId).1.resources = acc.1.resources := by
  cases h : acc.1.damageObjects[damageId]? with
  | none => rw [accumulateInObject_eq_self h]
  | some dmg =>
    obtain ⟨fired, geometry, pending, heq⟩ := accumulateInObject_eq (l := l) h
    rw [heq]

theorem accumulateInObject_content :
    (accumulateInObject l acc damageId).1.damageContent id =
      if id = damageId then (acc.1.damageContent id).map (appendRects fun _ => [l.saturated])
      else acc.1.damageContent id := by
  cases h : acc.1.damageObjects[damageId]? with
  | none =>
    rw [accumulateInObject_eq_self h]
    split
    · next hid => simp only [hid, damageContent, h, Option.map_none]
    · rfl
  | some dmg =>
    obtain ⟨fired, geometry, pending, heq⟩ := accumulateInObject_eq (l := l) h
    simp only [heq, damageContent, ResourceMap.get_insert]
    split
    · next hid =>
      rw [hid, h]
      rfl
    · rfl

theorem foldl_accumulateInObject_resources (ids : List ResourceId) :
    (ids.foldl (accumulateInObject l) acc).1.resources = acc.1.resources := by
  induction ids generalizing acc with
  | nil => rfl
  | cons head rest ih => rw [List.foldl_cons, ih, accumulateInObject_resources]

/-- Every listed object gets the rectangle once. -/
theorem foldl_accumulateInObject_content {ids : List ResourceId} (hnodup : ids.Nodup) :
    (ids.foldl (accumulateInObject l) acc).1.damageContent id =
      if id ∈ ids then (acc.1.damageContent id).map (appendRects fun _ => [l.saturated])
      else acc.1.damageContent id := by
  induction ids generalizing acc with
  | nil => rfl
  | cons head rest ih =>
    obtain ⟨hhead, hrest⟩ := List.nodup_cons.mp hnodup
    rw [List.foldl_cons, ih hrest, accumulateInObject_content]
    by_cases hid : id = head
    · subst hid
      simp only [hhead, if_true, if_false, List.mem_cons_self]
    · simp only [hid, List.mem_cons, false_or, if_false]

theorem keys_nodup {β : Type} (m : ResourceMap β) : m.keys.Nodup := by
  simpa [List.Nodup] using m.distinct_keys

theorem accumulateAtLevel_resources :
    (accumulateAtLevel acc l).1.resources = acc.1.resources :=
  foldl_accumulateInObject_resources _

theorem accumulateAtLevel_content :
    (accumulateAtLevel acc l).1.damageContent id =
      (acc.1.damageContent id).map
        (appendRects fun drawable => if l.drawable = drawable then [l.saturated] else []) := by
  rw [accumulateAtLevel, foldl_accumulateInObject_content ((keys_nodup _).filter _)]
  simp only [List.mem_filter, ResourceMap.mem_keys_iff, damageContent]
  cases acc.1.damageObjects[id]? with
  | none => rfl
  | some d =>
    by_cases hd : d.drawable = l.drawable
    · simp [appendRects, hd]
    · simp [appendRects, hd, Ne.symm hd]

/-- The saturated rectangles of those levels that a drawable is on. -/
def recordedRects (levels : List LevelRect) (drawable : ResourceId) : List RegionRect :=
  (levels.filter (·.drawable = drawable)).map (·.saturated)

theorem appendRects_recordedRects_nil :
    appendRects (recordedRects []) = fun content => content := by
  funext content
  exact Prod.ext rfl (List.append_nil _)

theorem appendRects_recordedRects_cons {levels : List LevelRect}
    (content : ResourceId × List RegionRect) :
    appendRects (recordedRects levels)
        (appendRects (fun drawable => if l.drawable = drawable then [l.saturated] else []) content) =
      appendRects (recordedRects (l :: levels)) content := by
  by_cases hl : l.drawable = content.1
  · simp [appendRects, recordedRects, hl]
  · simp [appendRects, recordedRects, hl]

theorem accumulateInAncestors_content {steps : Nat} :
    (accumulateInAncestors steps acc l).1.damageContent id =
      (acc.1.damageContent id).map
        (appendRects (recordedRects (acc.1.resources.levelsAbove steps l))) := by
  induction steps generalizing acc l with
  | zero =>
    simp only [accumulateInAncestors, ResourceTable.levelsAbove, appendRects_recordedRects_nil,
      Option.map_id']
  | succ steps ih =>
    rw [accumulateInAncestors, ResourceTable.levelsAbove]
    cases acc.1.resources.levelAbove l with
    | none =>
      simp only [Option.elim_none, appendRects_recordedRects_nil, Option.map_id']
    | some above =>
      dsimp only
      rw [ih, accumulateAtLevel_content, accumulateAtLevel_resources, Option.map_map,
        Option.elim_some]
      congr 1
      funext content
      exact appendRects_recordedRects_cons content

variable {drawable region repair parts : ResourceId} {client : ClientId} {x y : Int16}
  {width height : UInt16}

/-- Drawing records the rectangle at each level whose drawable the object
watches. -/
theorem accumulateDamageToState_content (hw : width ≠ 0) (hh : height ≠ 0) :
    (s.accumulateDamageToState drawable x y width height).1.damageContent id =
      (s.damageContent id).map
        (appendRects (recordedRects (s.resources.drawnLevels drawable x y width height))) := by
  rw [accumulateDamageToState, if_neg (not_or.mpr ⟨hw, hh⟩)]
  dsimp only
  rw [accumulateInAncestors_content, accumulateAtLevel_content, accumulateAtLevel_resources,
    Option.map_map]
  congr 1
  funext content
  exact appendRects_recordedRects_cons content

theorem damageAdd_content :
    (s.damageAdd drawable region).damageContent id =
      (s.damageContent id).map fun content =>
        if content.1 = drawable then
          (content.1, normalizeRegionRects (content.2 ++ s.addedRects drawable region))
        else content := by
  rw [damageContent, damageAdd, Std.ExtTreeMap.getElem?_map, damageContent, Option.map_map,
    Option.map_map]
  congr 1
  funext d
  dsimp only [Function.comp_apply]
  split <;> rfl

/-- Reporting changes the state of the notifications only. -/
theorem reportExistingDamageToState_eq (s : ServerState) (damageId : ResourceId) :
    (s.reportExistingDamageToState damageId).1 = s ∨
      ∃ d, s.damageObjects[damageId]? = some d ∧ ∃ geometry,
        (s.reportExistingDamageToState damageId).1 = { s with
          damageObjects := s.damageObjects.insert damageId
            { d with pendingNotifyFired := true, lastReportedGeometry := geometry } } := by
  unfold reportExistingDamageToState
  split
  · exact .inl rfl
  · next d hd =>
    dsimp only
    repeat' split
    all_goals first | exact .inl rfl | exact .inr ⟨d, hd, _, rfl⟩

theorem reportExistingDamageToState_content :
    (s.reportExistingDamageToState damageId).1.damageContent id = s.damageContent id := by
  rcases reportExistingDamageToState_eq s damageId with h | ⟨d, hd, _, h⟩
  · rw [h]
  · simp only [h, damageContent, ResourceMap.get_insert]
    split
    · next hid =>
      rw [hid, hd]
      rfl
    · rfl

theorem reportExistingDamageToState_xfixesRegions :
    (s.reportExistingDamageToState damageId).1.xfixesRegions = s.xfixesRegions := by
  rcases reportExistingDamageToState_eq s damageId with h | ⟨d, hd, _, h⟩
  · rw [h]
  · rw [h]

theorem splitDamage_eq :
    s.splitDamage damageId repair =
      if repair = 0 then (normalizeRegionRects (s.damageRects damageId), [])
      else
        (intersectRegions (normalizeRegionRects (s.damageRects damageId)) (s.regionRects repair),
          subtractRegions (normalizeRegionRects (s.damageRects damageId))
            (s.regionRects repair)) := by
  have hold : (s.damageObjects[damageId]?.elim [] fun d => normalizeRegionRects d.rects) =
      normalizeRegionRects (s.damageRects damageId) := by
    rw [damageRects, damageContent]
    cases s.damageObjects[damageId]? with
    | none => rfl
    | some d => rfl
  rw [splitDamage, hold]

theorem damageSubtract_content :
    (s.damageSubtract client damageId repair parts).1.damageContent id =
      if id = damageId then
        (s.damageContent id).map fun content => (content.1, (s.splitDamage damageId repair).2)
      else s.damageContent id := by
  have hset (rects : List RegionRect) :
      (((s.writeParts client parts rects).setDamage damageId
        (s.splitDamage damageId repair).2).damageContent id) =
      if id = damageId then
        (s.damageContent id).map fun content => (content.1, (s.splitDamage damageId repair).2)
      else s.damageContent id := by
    have hparts : (s.writeParts client parts rects).damageObjects = s.damageObjects := by
      unfold writeParts
      split <;> rfl
    simp only [damageContent, setDamage, hparts, ResourceMap.get_modify]
    split
    · rw [Option.map_map, Option.map_map]
      rfl
    · rfl
  unfold damageSubtract
  dsimp only
  split
  · rw [reportExistingDamageToState_content, hset]
  · exact hset _

theorem damageSubtract_xfixesRegions :
    (s.damageSubtract client damageId repair parts).1.xfixesRegions =
      if parts = 0 then s.xfixesRegions
      else s.xfixesRegions.insert parts ⟨client, (s.splitDamage damageId repair).1⟩ := by
  have hset (rects : List RegionRect) :
      ((s.writeParts client parts (s.splitDamage damageId repair).1).setDamage damageId
        rects).xfixesRegions =
      if parts = 0 then s.xfixesRegions
      else s.xfixesRegions.insert parts ⟨client, (s.splitDamage damageId repair).1⟩ := by
    simp only [setDamage, writeParts]
    split <;> rfl
  unfold damageSubtract
  dsimp only
  split
  · rw [reportExistingDamageToState_xfixesRegions, hset]
  · exact hset _

/-! ## Points of the region -/

theorem damageRects_eq {content : ResourceId × List RegionRect}
    (h : s.damageContent id = some content) : s.damageRects id = content.2 := by
  rw [damageRects, h, Option.elim_some]

theorem damageRects_eq_nil (h : s.damageContent id = none) : s.damageRects id = [] := by
  rw [damageRects, h, Option.elim_none]

theorem covers_recordedRects {levels : List LevelRect} (hlevels : ∀ l ∈ levels, l.Fits)
    (hp : InDomain p) :
    Covers (recordedRects levels drawable) p ↔
      ∃ l ∈ levels, l.drawable = drawable ∧ p ∈ l.toBox := by
  simp only [Covers, recordedRects, List.mem_map, List.mem_filter, decide_eq_true_eq]
  constructor
  · rintro ⟨_, ⟨l, ⟨hl, hd⟩, rfl⟩, hmem⟩
    exact ⟨l, hl, hd, (LevelRect.mem_saturated (hlevels l hl) hp).mp hmem⟩
  · rintro ⟨l, hl, hd, hmem⟩
    exact ⟨_, ⟨l, ⟨hl, hd⟩, rfl⟩, (LevelRect.mem_saturated (hlevels l hl) hp).mpr hmem⟩

theorem covers_appendRects {rects : ResourceId → List RegionRect}
    {s' : ServerState} (h : s'.damageContent id = (s.damageContent id).map (appendRects rects)) :
    Covers (s'.damageRects id) p ↔
      Covers (s.damageRects id) p ∨
        ∃ drawable, s.damageDrawable id = some drawable ∧ Covers (rects drawable) p := by
  rw [damageDrawable]
  cases hs : s.damageContent id with
  | none =>
    rw [hs] at h
    simp [damageRects_eq_nil hs, damageRects_eq_nil h]
  | some content =>
    rw [hs] at h
    rw [damageRects_eq hs, damageRects_eq h, appendRects, covers_append]
    simp

/-! ## Runs -/

/-- The rectangle of a drawing operation reaches a point of the drawable the
object watches. -/
def Draws (s : ServerState) (id drawable : ResourceId) (x y : Int16) (width height : UInt16)
    (p : Point) : Prop :=
  ∃ l ∈ s.resources.drawnLevels drawable x y width height,
    s.damageDrawable id = some l.drawable ∧ p ∈ l.toBox

theorem covers_accumulateDamageToState (hp : InDomain p) :
    Covers ((s.accumulateDamageToState drawable x y width height).1.damageRects id) p ↔
      Covers (s.damageRects id) p ∨ s.Draws id drawable x y width height p := by
  by_cases hempty : width = 0 ∨ height = 0
  · have hdraws : ¬ s.Draws id drawable x y width height p := fun ⟨_, hl, _, hmem⟩ =>
      ResourceTable.not_mem_drawnLevels_of_empty hempty hl hmem
    rw [accumulateDamageToState, if_pos hempty, or_iff_left hdraws]
  · obtain ⟨hw, hh⟩ := not_or.mp hempty
    rw [covers_appendRects (accumulateDamageToState_content hw hh)]
    apply or_congr_right
    simp only [covers_recordedRects (fun _ => ResourceTable.fits_of_mem_drawnLevels) hp, Draws]
    constructor
    · rintro ⟨drawable, hd, l, hl, rfl, hmem⟩
      exact ⟨l, hl, hd, hmem⟩
    · rintro ⟨l, hl, hd, hmem⟩
      exact ⟨l.drawable, hd, l, hl, rfl, hmem⟩

/-- Creating another object seeds every object on a viewable window. -/
theorem covers_damageCreate {level : UInt8} (h : id ≠ damageId) (hp : InDomain p) :
    Covers ((s.damageCreate client damageId drawable level).1.damageRects id) p ↔
      Covers (s.damageRects id) p ∨
        (s.resources.windows[drawable]?.any (·.mapState = .Viewable) = true ∧
          s.Draws id drawable 0 0 (s.resources.drawableFullRect drawable).width
            (s.resources.drawableFullRect drawable).height p) := by
  have hcontent (d : DamageObject) :
      damageContent { s with damageObjects := s.damageObjects.insert damageId d } id =
        s.damageContent id := by
    rw [damageContent, ResourceMap.get_insert, if_neg h, damageContent]
  unfold damageCreate
  dsimp only
  split
  · next hviewable =>
    rw [accumulateDamageFullToState, covers_accumulateDamageToState hp]
    simp only [damageRects, Draws, damageDrawable, hcontent, hviewable, true_and]
  · next hviewable => simp only [damageRects, hcontent, hviewable, Bool.false_eq_true, false_and, or_false]

theorem damageDestroy_content (h : id ≠ damageId) :
    (s.damageDestroy damageId).damageContent id = s.damageContent id := by
  rw [damageContent, damageDestroy, ResourceMap.get_erase, if_neg h, damageContent]

theorem covers_damageAdd (hp : InDomain p) :
    Covers ((s.damageAdd drawable region).damageRects id) p ↔
      Covers (s.damageRects id) p ∨
        (s.damageDrawable id = some drawable ∧ Covers (s.addedRects drawable region) p) := by
  have h : (s.damageAdd drawable region).damageContent id = _ := damageAdd_content
  rw [damageDrawable]
  cases hs : s.damageContent id with
  | none =>
    rw [hs] at h
    simp [damageRects_eq_nil hs, damageRects_eq_nil h]
  | some content =>
    rw [hs] at h
    rw [damageRects_eq hs, damageRects_eq h, Option.map_some, Option.some.injEq]
    dsimp only
    split
    · next hd => rw [covers_normalizeRegionRects hp, covers_append, and_iff_right hd]
    · next hd => rw [iff_comm, or_iff_left fun hc => hd hc.1]

theorem covers_splitDamage_fst (hp : InDomain p) :
    Covers (s.splitDamage damageId repair).1 p ↔
      Covers (s.damageRects damageId) p ∧ (repair = 0 ∨ Covers (s.regionRects repair) p) := by
  rw [splitDamage_eq]
  split
  · next hr => simp only [covers_normalizeRegionRects hp, hr, true_or, and_true]
  · next hr =>
    rw [covers_intersectRegions hp, covers_normalizeRegionRects hp, or_iff_right hr]

theorem covers_splitDamage_snd (hp : InDomain p) :
    Covers (s.splitDamage damageId repair).2 p ↔
      Covers (s.damageRects damageId) p ∧ ¬ (repair = 0 ∨ Covers (s.regionRects repair) p) := by
  rw [splitDamage_eq]
  split
  · next hr => simp only [not_covers_nil, hr, true_or, not_true_eq_false, and_false]
  · next hr =>
    rw [covers_subtractRegions hp, covers_normalizeRegionRects hp, or_iff_right hr]

theorem covers_damageSubtract (hp : InDomain p) :
    Covers ((s.damageSubtract client damageId repair parts).1.damageRects id) p ↔
      Covers (s.damageRects id) p ∧
        ¬ (id = damageId ∧ (repair = 0 ∨ Covers (s.regionRects repair) p)) := by
  rw [damageRects, damageSubtract_content]
  split
  · next hid =>
    subst hid
    have hsplit : Covers (s.splitDamage id repair).2 p ↔ _ := covers_splitDamage_snd hp
    cases hs : s.damageContent id with
    | none =>
      rw [damageRects_eq_nil hs]
      simp [not_covers_nil]
    | some content => rw [Option.map_some, Option.elim_some, hsplit, and_iff_right rfl]
  · next hid => rw [← damageRects, iff_self_and]; exact fun _ hc => hid hc.1

end ServerState

/-- What can happen to a damage object while it exists. The last case is any
other step of the server: it leaves the object's region alone. -/
inductive DamageEvent
  | draw (drawable : ResourceId) (x y : Int16) (width height : UInt16)
  | create (client : ClientId) (damage drawable : ResourceId) (level : UInt8)
  | destroy (damage : ResourceId)
  | add (drawable region : ResourceId)
  | subtract (client : ClientId) (damageId repair parts : ResourceId)
  | other (next : ServerState)

namespace DamageEvent

def apply (s : ServerState) : DamageEvent → ServerState
  | draw drawable x y width height => (s.accumulateDamageToState drawable x y width height).1
  | create client damage drawable level => (s.damageCreate client damage drawable level).1
  | destroy damage => s.damageDestroy damage
  | add drawable region => s.damageAdd drawable region
  | subtract client damageId repair parts => (s.damageSubtract client damageId repair parts).1
  | other next => next

/-- The event does not end the life of the object. -/
def Spares (id : ResourceId) (s : ServerState) : DamageEvent → Prop
  | create _ damage _ _ => id ≠ damage
  | destroy damage => id ≠ damage
  | other next => next.damageContent id = s.damageContent id
  | _ => True

/-- The event damages a point of the object's drawable. -/
def Records (id : ResourceId) (s : ServerState) (p : Point) : DamageEvent → Prop
  | draw drawable x y width height => s.Draws id drawable x y width height p
  | create _ _ drawable _ =>
    s.resources.windows[drawable]?.any (·.mapState = .Viewable) = true ∧
      s.Draws id drawable 0 0 (s.resources.drawableFullRect drawable).width
        (s.resources.drawableFullRect drawable).height p
  | add drawable region =>
    s.damageDrawable id = some drawable ∧ Covers (s.addedRects drawable region) p
  | _ => False

/-- The event is a Subtract from the object that repairs a point. -/
def Removes (id : ResourceId) (s : ServerState) (p : Point) : DamageEvent → Prop
  | subtract _ damageId repair _ =>
    id = damageId ∧ (repair = 0 ∨ Covers (s.regionRects repair) p)
  | _ => False

variable {s : ServerState} {id : ResourceId} {p : Point} {e : DamageEvent}

/-- One step is exact: it adds what is damaged and takes away what is repaired. -/
theorem covers_apply (h : e.Spares id s) (hp : InDomain p) :
    Covers ((e.apply s).damageRects id) p ↔
      (Covers (s.damageRects id) p ∧ ¬ e.Removes id s p) ∨ e.Records id s p := by
  cases e with
  | draw drawable x y width height =>
    simp only [apply, Removes, Records, not_false_eq_true, and_true]
    exact ServerState.covers_accumulateDamageToState hp
  | create client damage drawable level =>
    simp only [apply, Removes, Records, not_false_eq_true, and_true]
    exact ServerState.covers_damageCreate h hp
  | destroy damage =>
    simp only [apply, Removes, Records, not_false_eq_true, and_true, or_false,
      ServerState.damageRects, ServerState.damageDestroy_content h]
  | add drawable region =>
    simp only [apply, Removes, Records, not_false_eq_true, and_true]
    exact ServerState.covers_damageAdd hp
  | subtract client damageId repair parts =>
    simp only [apply, Removes, Records, or_false]
    exact ServerState.covers_damageSubtract hp
  | other next =>
    have hnext : next.damageContent id = s.damageContent id := h
    simp only [apply, Removes, Records, not_false_eq_true, and_true, or_false,
      ServerState.damageRects, hnext]

end DamageEvent

def runDamage (s : ServerState) (events : List DamageEvent) : ServerState :=
  events.foldl DamageEvent.apply s

/-- A run in which the object lives. -/
def DamageRun (id : ResourceId) (s : ServerState) : List DamageEvent → Prop
  | [] => True
  | e :: events => e.Spares id s ∧ DamageRun id (e.apply s) events

/-- Some event of the run is a Subtract that repairs the point. -/
def RepairedIn (id : ResourceId) (s : ServerState) (events : List DamageEvent) (p : Point) : Prop :=
  ∃ before e after, events = before ++ e :: after ∧ e.Removes id (runDamage s before) p

/-- What one Subtract leaves in the object, writes to the parts region and
leaves alone. -/
structure SubtractExact (s s' : ServerState) (damageId repair parts : ResourceId) : Prop where
  remaining : ∀ p, InDomain p →
    (Covers (s'.damageRects damageId) p ↔
      Covers (s.damageRects damageId) p ∧ repair ≠ 0 ∧ ¬ Covers (s.regionRects repair) p)
  removed : parts ≠ 0 → ∀ p, InDomain p →
    (Covers (s'.regionRects parts) p ↔
      Covers (s.damageRects damageId) p ∧ (repair = 0 ∨ Covers (s.regionRects repair) p))
  others : ∀ region, region ≠ parts ∨ parts = 0 →
    s'.xfixesRegions[region]? = s.xfixesRegions[region]?

section

variable {s : ServerState} {id : ResourceId} {p : Point} {events before after : List DamageEvent}
  {e : DamageEvent}

theorem ServerState.damageSubtract_exact (client : ClientId) (damageId repair parts : ResourceId) :
    SubtractExact s (s.damageSubtract client damageId repair parts).1 damageId repair parts where
  remaining p hp := by
    rw [ServerState.covers_damageSubtract hp, and_iff_right rfl, not_or]
  removed hparts p hp := by
    rw [ServerState.regionRects, ServerState.damageSubtract_xfixesRegions, if_neg hparts,
      ResourceMap.get_insert, if_pos rfl, Option.elim_some, ServerState.covers_splitDamage_fst hp]
  others region h := by
    rw [ServerState.damageSubtract_xfixesRegions]
    split
    · rfl
    · next hparts => rw [ResourceMap.get_insert, if_neg (h.resolve_right hparts)]

theorem DamageRun.append_iff :
    DamageRun id s (before ++ after) ↔
      DamageRun id s before ∧ DamageRun id (runDamage s before) after := by
  induction before generalizing s with
  | nil => simp [DamageRun, runDamage]
  | cons head rest ih => simp only [List.cons_append, DamageRun, ih, and_assoc]; rfl

/-- A point stays in the region along a run until a Subtract repairs it. -/
theorem DamageRun.keeps (h : DamageRun id s events) (hp : InDomain p)
    (hcov : Covers (s.damageRects id) p) :
    Covers ((runDamage s events).damageRects id) p ∨ RepairedIn id s events p := by
  induction events generalizing s with
  | nil => exact .inl hcov
  | cons e rest ih =>
    by_cases hrem : e.Removes id s p
    · exact .inr ⟨[], e, rest, rfl, hrem⟩
    · rcases ih h.2 ((DamageEvent.covers_apply h.1 hp).mpr (.inl ⟨hcov, hrem⟩)) with
        hkept | ⟨before, f, after, rfl, hf⟩
      · exact .inl hkept
      · exact .inr ⟨e :: before, f, after, rfl, hf⟩

/-- Damage is conserved: in every run, a point that is damaged at the start or
by an event stays in the region unless a later Subtract repairs it, only a
Subtract that repairs a point removes it, and each Subtract splits the damage
exactly. -/
theorem damage_conserved (hrun : DamageRun id s events) :
    (∀ p, InDomain p → Covers (s.damageRects id) p →
      Covers ((runDamage s events).damageRects id) p ∨ RepairedIn id s events p) ∧
    ∀ before e after, events = before ++ e :: after →
      let t := runDamage s before
      (∀ p, InDomain p → e.Records id t p →
        Covers ((runDamage s events).damageRects id) p ∨ RepairedIn id (e.apply t) after p) ∧
      (∀ p, InDomain p →
        (Covers ((e.apply t).damageRects id) p ↔
          (Covers (t.damageRects id) p ∧ ¬ e.Removes id t p) ∨ e.Records id t p)) ∧
      ∀ client damageId repair parts, e = .subtract client damageId repair parts →
        SubtractExact t (e.apply t) damageId repair parts := by
  refine ⟨fun p hp => hrun.keeps hp, ?_⟩
  rintro before e after rfl t
  obtain ⟨-, hspares, hafter⟩ := DamageRun.append_iff.mp hrun
  have hstep (p : Point) (hp : InDomain p) := DamageEvent.covers_apply (p := p) hspares hp
  refine ⟨fun p hp hrec => ?_, hstep, ?_⟩
  · have hend : runDamage s (before ++ e :: after) = runDamage (e.apply t) after := by
      rw [runDamage, List.foldl_append, List.foldl_cons]
      rfl
    rw [hend]
    exact hafter.keeps hp ((hstep p hp).mpr (.inr hrec))
  · rintro client damageId repair parts rfl
    exact ServerState.damageSubtract_exact client damageId repair parts

/-- A state with one damage object, for a pixmap. -/
def watchedPixmap : ServerState :=
  { ServerState.new with
    damageObjects := (∅ : ResourceMap DamageObject).insert 0x200001
      { owner := 1
        drawable := 0x200000
        level := REPORT_NON_EMPTY
        rects := []
        pendingNotifyFired := false
        lastReportedGeometry := none } }

/-- Its client has a region to repair and one to add. -/
def watchedRegions : ServerState :=
  { watchedPixmap with
    xfixesRegions := ((∅ : ResourceMap XFixesRegion).insert 0x200002 ⟨1, [⟨3, 4, 1, 1⟩]⟩).insert
      0x200003 ⟨1, [⟨10, 10, 2, 2⟩]⟩ }

def watchedEvents : List DamageEvent :=
  [.draw 0x200000 3 4 2 1, .add 0x200000 0x200003, .subtract 1 0x200001 0x200002 0x200004]

/-- Of what is drawn one point is repaired and one stays, as does what is added. -/
theorem damage_conserved_repaired :
    Covers ((runDamage watchedRegions watchedEvents).damageRects 0x200001) (4, 4) ∧
      Covers ((runDamage watchedRegions watchedEvents).damageRects 0x200001) (11, 11) ∧
      ¬ Covers ((runDamage watchedRegions watchedEvents).damageRects 0x200001) (3, 4) ∧
      Covers ((runDamage watchedRegions watchedEvents).regionRects 0x200004) (3, 4) := by
  have hrun : DamageRun 0x200001 watchedRegions watchedEvents := ⟨trivial, trivial, trivial, trivial⟩
  obtain ⟨-, hsteps⟩ := damage_conserved hrun
  obtain ⟨-, hdraw, -⟩ := hsteps [] (.draw 0x200000 3 4 2 1) _ rfl
  obtain ⟨-, hadd, -⟩ := hsteps [.draw 0x200000 3 4 2 1] (.add 0x200000 0x200003) _ rfl
  obtain ⟨-, -, hsubtract⟩ := hsteps [.draw 0x200000 3 4 2 1, .add 0x200000 0x200003] _ [] rfl
  obtain ⟨hremaining, hremoved, -⟩ := hsubtract 1 0x200001 0x200002 0x200004 rfl
  have hdrawn (p : Point) (hp : InDomain p) (hleaf : p ∈ (leafRect 0x200000 3 4 2 1).toBox) :=
    (hadd p hp).mpr (.inl ⟨(hdraw p hp).mpr (.inr ⟨_, .head _, by decide, hleaf⟩), id⟩)
  have hadded := (hadd (11, 11) (by decide)).mpr
    (.inr ⟨by decide, ⟨10, 10, 2, 2⟩, .head _, by decide⟩)
  have hrepair : Covers [⟨3, 4, 1, 1⟩] (3, 4) := ⟨_, .head _, by decide⟩
  have hspared {p : Point} (hp : p ∉ (⟨3, 4, 1, 1⟩ : RegionRect).toBox) :
      ¬ Covers [⟨3, 4, 1, 1⟩] p := by
    rw [covers_cons]
    exact fun h => h.elim hp not_covers_nil
  refine ⟨?_, ?_, fun hcovers => ?_, ?_⟩
  · refine (hremaining _ (by decide)).mpr ⟨hdrawn _ (by decide) (by decide), by decide, ?_⟩
    exact hspared (by decide)
  · exact (hremaining _ (by decide)).mpr ⟨hadded, by decide, hspared (by decide)⟩
  · exact ((hremaining _ (by decide)).mp hcovers).2.2 hrepair
  · refine (hremoved (by decide) _ (by decide)).mpr ⟨?_, .inr hrepair⟩
    exact hdrawn _ (by decide) (by decide)

end

end X12
