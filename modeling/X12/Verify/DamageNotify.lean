import X12.Verify.Damage

/-! # Waking the owner of a NonEmpty object

An object of report level NonEmpty notifies its owner once, when its region
becomes non-empty, and again after a Subtract that leaves something. Every
operation on the region keeps this except Add, which reports nothing. -/

namespace X12

/-- A rectangle that has a row and a column keeps one of each. -/
theorem LevelRect.saturated_nonempty {l : LevelRect} (hw : 0 < l.rw) (hh : 0 < l.rh) :
    l.saturated.isEmpty = false := by
  have hw' := saturateU16_toNat hw.le
  have hh' := saturateU16_toNat hh.le
  rw [RegionRect.isEmpty_eq_false_iff]
  simp only [Boxes.Box.Proper, RegionRect.toBox, RegionRect.left, RegionRect.right, RegionRect.top,
    RegionRect.bottom, LevelRect.saturated]
  omega

namespace ServerState

/-- An object of level NonEmpty whose owner is connected. No empty rectangle is
recorded, and a notification is outstanding exactly while there is damage. -/
structure WatchedAs (s : ServerState) (owner : ClientId) (id : ResourceId) (d : DamageObject) :
    Prop where
  object : s.damageObjects[id]? = some d
  owner_eq : d.owner = owner
  connected : s.clients.contains owner = true
  level : d.level = REPORT_NON_EMPTY
  nonempty : ∀ r ∈ d.rects, r.isEmpty = false
  fired : d.pendingNotifyFired = !d.rects.isEmpty

def Watched (s : ServerState) (owner : ClientId) (id : ResourceId) : Prop :=
  ∃ d, s.WatchedAs owner id d

/-- The region of an object has a point. -/
def Damaged (s : ServerState) (id : ResourceId) : Prop :=
  ∃ p, Covers (s.damageRects id) p

/-- A notification for the object that is sent to its owner. -/
def Notifies (owner : ClientId) (id : ResourceId) (pending : List PendingNotify) : Prop :=
  ∃ n ∈ pending, n.damageId = id ∧ n.owner = owner

/-- What an operation that starts in `s` leaves and queues: the object is still
watched, and its owner is notified if the region has just become non-empty. -/
structure Wakes (owner : ClientId) (id : ResourceId) (s : ServerState)
    (acc : ServerState × List PendingNotify) : Prop where
  watched : acc.1.Watched owner id
  notified : acc.1.Damaged id → s.Damaged id ∨ Notifies owner id acc.2

variable {s s' : ServerState} {owner client : ClientId} {id damageId : ResourceId}
  {d : DamageObject} {l : LevelRect} {acc : ServerState × List PendingNotify}

theorem damageRects_of_object (h : s.damageObjects[id]? = some d) : s.damageRects id = d.rects := by
  have hcontent : s.damageContent id = some (d.drawable, d.rects) := by
    rw [damageContent, h, Option.map_some]
  rw [damageRects_eq hcontent]

namespace WatchedAs

/-- Without an empty rectangle, the region has a point once it has a rectangle. -/
theorem damaged_iff (h : s.WatchedAs owner id d) : s.Damaged id ↔ d.rects ≠ [] := by
  rw [Damaged, damageRects_of_object h.object, exists_covers_iff]
  constructor
  · rintro ⟨r, hr, -⟩
    exact List.ne_nil_of_mem hr
  · intro hrects
    obtain ⟨r, hr⟩ := List.exists_mem_of_ne_nil _ hrects
    exact ⟨r, hr, h.nonempty r hr⟩

theorem damaged_iff_fired (h : s.WatchedAs owner id d) :
    s.Damaged id ↔ d.pendingNotifyFired = true := by
  rw [h.damaged_iff, h.fired, Bool.not_eq_true', List.isEmpty_eq_false_iff]

/-- The object is looked at through the two tables it is found in. -/
theorem congr (h : s.WatchedAs owner id d) (hobject : s'.damageObjects[id]? = s.damageObjects[id]?)
    (hclients : s'.clients.contains owner = s.clients.contains owner) :
    s'.WatchedAs owner id d :=
  { h with object := hobject.trans h.object, connected := hclients.trans h.connected }

end WatchedAs

theorem Notifies.append {pending more : List PendingNotify} (h : Notifies owner id pending) :
    Notifies owner id (pending ++ more) := by
  obtain ⟨n, hn, hid⟩ := h
  exact ⟨n, List.mem_append_left _ hn, hid⟩

namespace Wakes

theorem refl (h : s.Watched owner id) : Wakes owner id s (s, []) :=
  ⟨h, .inl⟩

/-- A step that leaves the object and its owner alone and may queue more. -/
theorem frame (h : Wakes owner id s acc) (more : List PendingNotify)
    (hobject : s'.damageObjects[id]? = acc.1.damageObjects[id]?)
    (hclients : s'.clients.contains owner = acc.1.clients.contains owner) :
    Wakes owner id s (s', acc.2 ++ more) := by
  obtain ⟨d, hd⟩ := h.watched
  have hd' := hd.congr hobject hclients
  refine ⟨⟨d, hd'⟩, fun hdamaged => ?_⟩
  exact (h.notified (hd.damaged_iff.mpr (hd'.damaged_iff.mp hdamaged))).imp_right Notifies.append

end Wakes

/-! ## Drawing -/

theorem accumulateInObject_notifies (l : LevelRect) (acc : ServerState × List PendingNotify)
    (damageId : ResourceId) :
    ∃ more, (accumulateInObject l acc damageId).2 = acc.2 ++ more := by
  cases h : acc.1.damageObjects[damageId]? with
  | none => exact ⟨[], by rw [accumulateInObject_eq_self h, List.append_nil]⟩
  | some dmg =>
    simp only [accumulateInObject, h]
    generalize (if dmg.level = REPORT_RAW_RECTANGLES ∨ dmg.level = REPORT_DELTA_RECTANGLES ∨
        dmg.level = REPORT_BOUNDING_BOX then true
      else if dmg.level = REPORT_NON_EMPTY then _ else false) = levelAllowsEmit
    split
    · exact ⟨_, rfl⟩
    · exact ⟨[], (List.append_nil _).symm⟩

/-- Recording leaves the other objects alone. -/
theorem accumulateInObject_get_of_ne (h : id ≠ damageId) :
    (accumulateInObject l acc damageId).1.damageObjects[id]? = acc.1.damageObjects[id]? := by
  cases hobj : acc.1.damageObjects[damageId]? with
  | none => rw [accumulateInObject_eq_self hobj]
  | some dmg =>
    obtain ⟨fired, geometry, pending, heq⟩ := accumulateInObject_eq (l := l) hobj
    rw [heq, ResourceMap.get_insert, if_neg h]

theorem accumulateInObject_clients :
    (accumulateInObject l acc damageId).1.clients = acc.1.clients := by
  cases hobj : acc.1.damageObjects[damageId]? with
  | none => rw [accumulateInObject_eq_self hobj]
  | some dmg =>
    obtain ⟨fired, geometry, pending, heq⟩ := accumulateInObject_eq (l := l) hobj
    rw [heq]

/-- Recording in a watched object: the notification is outstanding afterwards,
and it has been queued now unless it was outstanding before. -/
theorem accumulateInObject_watched (h : acc.1.WatchedAs owner id d) :
    ∃ geometry more, accumulateInObject l acc id =
      ({ acc.1 with
        damageObjects := acc.1.damageObjects.insert id
          { d with
            rects := d.rects ++ [l.saturated]
            pendingNotifyFired := true
            lastReportedGeometry := geometry } }, acc.2 ++ more) ∧
      (d.pendingNotifyFired = false → Notifies owner id more) := by
  have hlevel : ¬ (d.level = REPORT_RAW_RECTANGLES ∨ d.level = REPORT_DELTA_RECTANGLES ∨
      d.level = REPORT_BOUNDING_BOX) := by
    rw [h.level]
    decide
  simp only [accumulateInObject, h.object, if_neg hlevel, if_pos h.level, h.owner_eq, h.connected,
    Bool.true_and]
  split
  · exact ⟨_, _, rfl, fun _ => ⟨_, List.mem_singleton_self _, rfl, rfl⟩⟩
  · next hemit =>
    -- Nothing is emitted only while a notification is outstanding.
    have hfired : d.pendingNotifyFired = true := by
      rw [Bool.or_eq_true, not_or, Bool.not_eq_true', Bool.not_eq_false] at hemit
      exact hemit.1
    refine ⟨d.lastReportedGeometry, [], ?_, fun hf => absurd hf (by simp [hfired])⟩
    rw [List.append_nil, ← hfired]

namespace Wakes

theorem accumulateInObject (h : Wakes owner id s acc) (hl : l.saturated.isEmpty = false) :
    Wakes owner id s (accumulateInObject l acc damageId) := by
  obtain ⟨d, hd⟩ := h.watched
  by_cases hid : id = damageId
  · subst hid
    obtain ⟨geometry, more, heq, hmore⟩ := accumulateInObject_watched (l := l) hd
    rw [heq]
    constructor
    · refine ⟨_, ResourceMap.get_insert.trans (if_pos rfl), hd.owner_eq, hd.connected, hd.level,
        ?_, ?_⟩
      · intro r hr
        rcases List.mem_append.mp hr with hr | hr
        · exact hd.nonempty r hr
        · rwa [List.mem_singleton.mp hr]
      · simp
    · intro _
      cases hfired : d.pendingNotifyFired with
      | false =>
        obtain ⟨n, hn, hid⟩ := hmore hfired
        exact .inr ⟨n, List.mem_append_right _ hn, hid⟩
      | true => exact (h.notified (hd.damaged_iff_fired.mpr hfired)).imp_right Notifies.append
  · obtain ⟨more, hmore⟩ := accumulateInObject_notifies l acc damageId
    have hframe := h.frame more (accumulateInObject_get_of_ne (l := l) hid)
      (congrArg (·.contains owner) accumulateInObject_clients)
    rwa [← hmore] at hframe

theorem accumulateAtLevel (h : Wakes owner id s acc) (hl : l.saturated.isEmpty = false) :
    Wakes owner id s (accumulateAtLevel acc l) := by
  unfold ServerState.accumulateAtLevel
  generalize acc.1.damageObjects.keys.filter _ = damageIds
  induction damageIds generalizing acc with
  | nil => exact h
  | cons damageId rest ih => exact ih (h.accumulateInObject hl)

theorem accumulateInAncestors {steps : Nat} (h : Wakes owner id s acc) :
    Wakes owner id s (accumulateInAncestors steps acc l) := by
  induction steps generalizing acc l with
  | zero => exact h
  | succ steps ih =>
    rw [ServerState.accumulateInAncestors]
    cases hl : acc.1.resources.levelAbove l with
    | none => exact h
    | some above =>
      obtain ⟨-, hw, hh, -, -⟩ := ResourceTable.levelAbove_eq_some hl
      exact ih (h.accumulateAtLevel (LevelRect.saturated_nonempty hw hh))

theorem accumulateDamageToState {drawable : ResourceId} {x y : Int16}
    {width height : UInt16} (h : Wakes owner id s (s', [])) :
    Wakes owner id s (s'.accumulateDamageToState drawable x y width height) := by
  unfold ServerState.accumulateDamageToState
  split
  · exact h
  · next hsize =>
    have hpos {n : UInt16} (hn : n ≠ 0) : 0 < (n.toNat : Int) :=
      Int.natCast_pos.mpr (UInt16.pos_iff_ne_zero.mpr hn)
    obtain ⟨hw, hh⟩ := not_or.mp hsize
    exact (h.accumulateAtLevel
      (LevelRect.saturated_nonempty (hpos hw) (hpos hh))).accumulateInAncestors

end Wakes

/-! ## Requests -/

/-- The object that Create inserts. -/
def createdObject (client : ClientId) (drawable : ResourceId) (level : UInt8) : DamageObject :=
  { owner := client
    drawable := drawable
    level := level
    rects := []
    pendingNotifyFired := false
    lastReportedGeometry := none }

theorem damageCreate_wakes {drawable : ResourceId} {level : UInt8}
    (h : Wakes owner id s ({ s' with
      damageObjects := s'.damageObjects.insert damageId (createdObject client drawable level) }, [])) :
    Wakes owner id s (s'.damageCreate client damageId drawable level) := by
  unfold damageCreate
  dsimp only
  split
  · exact h.accumulateDamageToState
  · exact h

/-- A new object of level NonEmpty is watched, and its owner is notified when
it starts out damaged. -/
theorem damageCreate_watched (id drawable : ResourceId) (h : s.clients.contains owner = true) :
    (s.damageCreate owner id drawable REPORT_NON_EMPTY).1.Watched owner id ∧
      ((s.damageCreate owner id drawable REPORT_NON_EMPTY).1.Damaged id →
        Notifies owner id (s.damageCreate owner id drawable REPORT_NON_EMPTY).2) := by
  let d := createdObject owner drawable REPORT_NON_EMPTY
  let t := { s with damageObjects := s.damageObjects.insert id d }
  have hd : t.WatchedAs owner id d :=
    { object := ResourceMap.get_insert.trans (if_pos rfl)
      owner_eq := rfl
      connected := h
      level := rfl
      nonempty := fun _ hr => nomatch hr
      fired := rfl }
  have hwakes : Wakes owner id t (s.damageCreate owner id drawable REPORT_NON_EMPTY) :=
    damageCreate_wakes (.refl ⟨d, hd⟩)
  have hclean : ¬ t.Damaged id := fun hdamaged => hd.damaged_iff.mp hdamaged rfl
  exact ⟨hwakes.watched, fun hdamaged => (hwakes.notified hdamaged).resolve_left hclean⟩

/-- Add keeps an object watched unless it is the first to damage it. -/
theorem Watched.damageAdd {drawable region : ResourceId} (h : s.Watched owner id)
    (hadd : s.damageDrawable id = some drawable → s.Damaged id ∨
      ¬ ∃ p, Covers (s.addedRects drawable region) p) :
    Wakes owner id s (s.damageAdd drawable region, []) := by
  obtain ⟨d, hd⟩ := h
  have hobject : (s.damageAdd drawable region).damageObjects[id]? = some
      (if d.drawable = drawable then
        { d with rects := normalizeRegionRects (d.rects ++ s.addedRects drawable region) }
      else d) := by
    rw [ServerState.damageAdd, Std.ExtTreeMap.getElem?_map, hd.object, Option.map_some]
  by_cases hdrawable : d.drawable = drawable
  · rw [if_pos hdrawable] at hobject
    have hcovers : normalizeRegionRects (d.rects ++ s.addedRects drawable region) ≠ [] ↔
        s.Damaged id ∨ ∃ p, Covers (s.addedRects drawable region) p := by
      simp only [normalizeRegionRects_ne_nil_iff, covers_append, exists_or, Damaged,
        damageRects_of_object hd.object]
    have hkept : normalizeRegionRects (d.rects ++ s.addedRects drawable region) ≠ [] ↔
        s.Damaged id := by
      rw [hcovers, or_iff_left_of_imp]
      have hd' : s.damageDrawable id = some drawable := by
        rw [damageDrawable, damageContent, hd.object, ← hdrawable]
        rfl
      exact fun hadded => (hadd hd').resolve_right (not_not.mpr hadded)
    have hd' : (s.damageAdd drawable region).WatchedAs owner id _ :=
      { hd with
        object := hobject
        nonempty := normalizeRegionRects_nonempty
        fired := by
          rw [Bool.eq_iff_iff, ← hd.damaged_iff_fired, ← hkept, Bool.not_eq_true',
            List.isEmpty_eq_false_iff] }
    exact ⟨⟨_, hd'⟩, fun hdamaged => .inl (hkept.mp (hd'.damaged_iff.mp hdamaged))⟩
  · rw [if_neg hdrawable, ← hd.object] at hobject
    exact (Wakes.refl ⟨d, hd⟩).frame [] hobject rfl

theorem reportExistingDamageToState_get_of_ne (h : id ≠ damageId) :
    (s.reportExistingDamageToState damageId).1.damageObjects[id]? = s.damageObjects[id]? := by
  rcases reportExistingDamageToState_eq s damageId with hs | ⟨d, hd, geometry, hs⟩
  · rw [hs]
  · rw [hs, ResourceMap.get_insert, if_neg h]

theorem reportExistingDamageToState_clients :
    (s.reportExistingDamageToState damageId).1.clients = s.clients := by
  rcases reportExistingDamageToState_eq s damageId with hs | ⟨d, hd, geometry, hs⟩
  · rw [hs]
  · rw [hs]

/-- What is left of a NonEmpty object after a Subtract is reported at once. -/
theorem reportExistingDamageToState_nonEmpty (hobject : s.damageObjects[id]? = some d)
    (hconnected : s.clients.contains d.owner = true) (hlevel : d.level = REPORT_NON_EMPTY)
    (hfired : d.pendingNotifyFired = false) (hrects : d.rects ≠ []) :
    ∃ geometry notify, s.reportExistingDamageToState id =
      ({ s with
        damageObjects := s.damageObjects.insert id
          { d with pendingNotifyFired := true, lastReportedGeometry := geometry } }, [notify]) ∧
      notify.damageId = id ∧ notify.owner = d.owner := by
  have hraw : ¬ (d.level = REPORT_RAW_RECTANGLES ∨ d.level = REPORT_DELTA_RECTANGLES) := by
    rw [hlevel]
    decide
  have hbox : ¬ d.level = REPORT_BOUNDING_BOX := by
    rw [hlevel]
    decide
  have hreport : ¬ (d.pendingNotifyFired || d.rects.isEmpty || !s.clients.contains d.owner) = true := by
    simp [hfired, hrects, hconnected]
  simp only [reportExistingDamageToState, hobject, if_neg hreport, if_neg hraw, if_neg hbox,
    if_pos hlevel]
  exact ⟨_, _, rfl, rfl, rfl⟩

theorem writeParts_damageObjects {parts : ResourceId} {rects : List RegionRect} :
    (s.writeParts client parts rects).damageObjects = s.damageObjects := by
  unfold writeParts
  split <;> rfl

theorem writeParts_clients {parts : ResourceId} {rects : List RegionRect} :
    (s.writeParts client parts rects).clients = s.clients := by
  unfold writeParts
  split <;> rfl

/-- A Subtract leaves no empty rectangle, and nothing without a repair region. -/
theorem splitDamage_snd_nonempty {repair : ResourceId} :
    ∀ r ∈ (s.splitDamage damageId repair).2, r.isEmpty = false := by
  rw [splitDamage_eq]
  split
  · exact fun _ hr => nomatch hr
  · exact normalizeRegionRects_nonempty

/-- Subtract from the object itself: what it leaves is either nothing or
reported. -/
theorem Watched.damageSubtract_self {repair parts : ResourceId} (h : s.Watched owner id) :
    Wakes owner id s (s.damageSubtract client id repair parts) := by
  obtain ⟨d, hd⟩ := h
  let rest := (s.splitDamage id repair).2
  let t := (s.writeParts client parts (s.splitDamage id repair).1).setDamage id rest
  let d' := { d with rects := rest, pendingNotifyFired := false }
  have hobject : t.damageObjects[id]? = some d' := by
    simp only [t, setDamage, ResourceMap.get_modify, writeParts_damageObjects, if_true, hd.object,
      Option.map_some, d']
  have hconnected : t.clients.contains owner = true := by
    simp only [t, setDamage, writeParts_clients, hd.connected]
  have hlevel : s.damageObjects[id]?.elim 0 (·.level) = REPORT_NON_EMPTY := by
    rw [hd.object, Option.elim_some, hd.level]
  have hsubtract : s.damageSubtract client id repair parts =
      if repair ≠ 0 ∧ rest ≠ [] then t.reportExistingDamageToState id else (t, []) := by
    have hraw : REPORT_NON_EMPTY ≠ REPORT_RAW_RECTANGLES := by decide
    have hany : (t.damageObjects[id]?.any fun d => !d.rects.isEmpty) = true ↔ rest ≠ [] := by
      rw [hobject, Option.any_some, Bool.not_eq_true', List.isEmpty_eq_false_iff]
    unfold damageSubtract
    simp only [hlevel]
    refine if_congr ?_ rfl rfl
    rw [hany, and_iff_right hraw]
  rw [hsubtract]
  split
  · next hreport =>
    obtain ⟨geometry, notify, heq, hid, howner⟩ := reportExistingDamageToState_nonEmpty hobject
      (by rw [show d'.owner = owner from hd.owner_eq, hconnected]) hd.level rfl hreport.2
    rw [heq]
    constructor
    · exact ⟨_, ResourceMap.get_insert.trans (if_pos rfl), hd.owner_eq, hconnected, hd.level,
        splitDamage_snd_nonempty, by simp [d', hreport.2]⟩
    · exact fun _ => .inr ⟨notify, List.mem_singleton_self _, hid, howner.trans hd.owner_eq⟩
  · next hreport =>
    -- Nothing is left: the next damage is the first again.
    have hrest : rest = [] := by
      by_contra hrest
      refine hreport ⟨fun hrepair => hrest ?_, hrest⟩
      simp only [rest, splitDamage_eq, if_pos hrepair]
    have hd' : t.WatchedAs owner id d' :=
      { object := hobject
        owner_eq := hd.owner_eq
        connected := hconnected
        level := hd.level
        nonempty := splitDamage_snd_nonempty
        fired := by simp [d', hrest] }
    exact ⟨⟨d', hd'⟩, fun hdamaged => absurd hrest (hd'.damaged_iff.mp hdamaged)⟩

theorem Watched.damageSubtract_of_ne {repair parts : ResourceId} (h : s.Watched owner id)
    (hid : id ≠ damageId) : Wakes owner id s (s.damageSubtract client damageId repair parts) := by
  let t := (s.writeParts client parts (s.splitDamage damageId repair).1).setDamage damageId
    (s.splitDamage damageId repair).2
  have hobject : t.damageObjects[id]? = s.damageObjects[id]? := by
    simp only [t, setDamage, ResourceMap.get_modify, if_neg hid, writeParts_damageObjects]
  have hclients : t.clients = s.clients := writeParts_clients
  have hreport : (t.reportExistingDamageToState damageId).1.damageObjects[id]? =
      s.damageObjects[id]? :=
    (reportExistingDamageToState_get_of_ne hid).trans hobject
  have hreported : (t.reportExistingDamageToState damageId).1.clients = s.clients :=
    reportExistingDamageToState_clients.trans hclients
  unfold ServerState.damageSubtract
  dsimp only
  split
  · exact (Wakes.refl h).frame _ hreport (congrArg (·.contains owner) hreported)
  · exact (Wakes.refl h).frame [] hobject (congrArg (·.contains owner) hclients)

theorem Watched.damageSubtract {repair parts : ResourceId} (h : s.Watched owner id) :
    Wakes owner id s (s.damageSubtract client damageId repair parts) := by
  by_cases hid : id = damageId
  · subst hid
    exact h.damageSubtract_self
  · exact h.damageSubtract_of_ne hid

end ServerState

/-! ## Runs -/

namespace DamageEvent

/-- The notifications an event queues. -/
def notifies (s : ServerState) : DamageEvent → List PendingNotify
  | draw drawable x y width height => (s.accumulateDamageToState drawable x y width height).2
  | create client damage drawable level => (s.damageCreate client damage drawable level).2
  | subtract client damageId repair parts => (s.damageSubtract client damageId repair parts).2
  | _ => []

/-- The event neither ends the life of the object nor disconnects its owner;
another step of the server leaves the object alone. -/
def Attends (owner : ClientId) (id : ResourceId) (s : ServerState) : DamageEvent → Prop
  | create _ damage _ _ => id ≠ damage
  | destroy damage => id ≠ damage
  | other next =>
    next.damageObjects[id]? = s.damageObjects[id]? ∧ next.clients.contains owner = true
  | _ => True

/-- An Add that is the first to damage the object. -/
def FillsEmpty (id : ResourceId) (s : ServerState) : DamageEvent → Prop
  | add drawable region =>
    s.damageDrawable id = some drawable ∧ ¬ s.Damaged id ∧
      ∃ p, Covers (s.addedRects drawable region) p
  | _ => False

variable {s : ServerState} {owner : ClientId} {id : ResourceId} {e : DamageEvent}

/-- Every other step that first damages the object notifies the owner. -/
theorem wakes (h : s.Watched owner id) (hattends : e.Attends owner id s)
    (hfills : ¬ e.FillsEmpty id s) : ServerState.Wakes owner id s (e.apply s, e.notifies s) := by
  cases e with
  | draw drawable x y width height => exact (ServerState.Wakes.refl h).accumulateDamageToState
  | create client damage drawable level =>
    apply ServerState.damageCreate_wakes
    refine (ServerState.Wakes.refl h).frame [] ?_ rfl
    rw [ResourceMap.get_insert, if_neg hattends]
  | destroy damage =>
    refine (ServerState.Wakes.refl h).frame [] ?_ rfl
    rw [apply, ServerState.damageDestroy, ResourceMap.get_erase, if_neg hattends]
  | add drawable region =>
    refine h.damageAdd fun hdrawable => ?_
    by_contra hnone
    obtain ⟨hclean, hadded⟩ := not_or.mp hnone
    exact hfills ⟨hdrawable, hclean, not_not.mp hadded⟩
  | subtract client damageId repair parts => exact h.damageSubtract
  | other next =>
    have hconnected : s.clients.contains owner = true := h.elim fun _ hd => hd.connected
    exact (ServerState.Wakes.refl h).frame [] hattends.1
      (hattends.2.trans hconnected.symm)

/-- Add is silent, and damages the object if it finds it empty. -/
theorem FillsEmpty.damaged (h : e.FillsEmpty id s) :
    e.notifies s = [] ∧ ¬ s.Damaged id ∧ (e.apply s).Damaged id := by
  cases e with
  | add drawable region =>
    obtain ⟨hdrawable, hclean, p, hp⟩ := h
    refine ⟨rfl, hclean, ?_⟩
    have hcontent : (s.damageAdd drawable region).damageContent id = _ :=
      ServerState.damageAdd_content
    obtain ⟨content, hcontent', rfl⟩ := Option.map_eq_some_iff.mp hdrawable
    rw [hcontent', Option.map_some, if_pos rfl] at hcontent
    have hrects : normalizeRegionRects (content.2 ++ s.addedRects content.1 region) ≠ [] :=
      normalizeRegionRects_ne_nil_iff.mpr ⟨p, covers_append.mpr (.inr hp)⟩
    obtain ⟨r, hr⟩ := List.exists_mem_of_ne_nil _ hrects
    rw [apply, ServerState.Damaged, ServerState.damageRects_eq hcontent, exists_covers_iff]
    exact ⟨r, hr, normalizeRegionRects_nonempty r hr⟩
  | _ => cases h

end DamageEvent

/-- A run in which the object lives and its owner stays connected. -/
def AttendedRun (owner : ClientId) (id : ResourceId) (s : ServerState) : List DamageEvent → Prop
  | [] => True
  | e :: events => e.Attends owner id s ∧ AttendedRun owner id (e.apply s) events

/-- The owner has been notified in a run, and the region has not been empty
since. -/
def NotifiedSinceEmpty (owner : ClientId) (id : ResourceId) (s : ServerState)
    (events : List DamageEvent) : Prop :=
  ∃ before e after, events = before ++ e :: after ∧
    ServerState.Notifies owner id (e.notifies (runDamage s before)) ∧
    ∀ rest, rest <+: after → (runDamage s (before ++ e :: rest)).Damaged id

section

variable {s : ServerState} {owner : ClientId} {id drawable : ResourceId}
  {events before after : List DamageEvent} {e : DamageEvent}

theorem runDamage_concat : runDamage s (events ++ [e]) = e.apply (runDamage s events) := by
  rw [runDamage, List.foldl_append]
  rfl

theorem AttendedRun.append_iff :
    AttendedRun owner id s (before ++ after) ↔
      AttendedRun owner id s before ∧ AttendedRun owner id (runDamage s before) after := by
  induction before generalizing s with
  | nil => exact ⟨fun hrun => ⟨trivial, hrun⟩, And.right⟩
  | cons head rest ih => rw [List.cons_append, AttendedRun, ih, ← and_assoc]; rfl

namespace NotifiedSinceEmpty

/-- The last event notifies. -/
theorem now (h : ServerState.Notifies owner id (e.notifies (runDamage s events)))
    (hdamaged : (runDamage s (events ++ [e])).Damaged id) :
    NotifiedSinceEmpty owner id s (events ++ [e]) := by
  refine ⟨events, e, [], rfl, h, fun rest hrest => ?_⟩
  rwa [List.prefix_nil.mp hrest]

/-- The notification stays valid while the region is not empty. -/
theorem concat (h : NotifiedSinceEmpty owner id s events)
    (hdamaged : (runDamage s (events ++ [e])).Damaged id) :
    NotifiedSinceEmpty owner id s (events ++ [e]) := by
  obtain ⟨before, f, after, rfl, hnotifies, hsince⟩ := h
  refine ⟨before, f, after ++ [e], by rw [List.append_assoc, List.cons_append], hnotifies, ?_⟩
  intro rest hrest
  rcases List.prefix_concat_iff.mp hrest with rfl | hrest
  · rwa [List.append_assoc, List.cons_append] at hdamaged
  · exact hsince rest hrest

/-- A silent event that fills an empty region leaves the owner waiting. -/
theorem not_concat (owner : ClientId) (hsilent : e.notifies (runDamage s events) = [])
    (hclean : ¬ (runDamage s events).Damaged id) :
    ¬ NotifiedSinceEmpty owner id s (events ++ [e]) := by
  rintro ⟨before, f, after, hsplit, ⟨n, hn, -⟩, hsince⟩
  rcases List.eq_nil_or_concat after with rfl | ⟨rest, last, rfl⟩
  · obtain ⟨rfl, hlast⟩ := List.append_inj' hsplit rfl
    rw [← List.singleton_inj.mp hlast, hsilent] at hn
    cases hn
  · rw [List.concat_eq_append, ← List.cons_append, ← List.append_assoc] at hsplit
    obtain ⟨rfl, -⟩ := List.append_inj' hsplit rfl
    exact hclean (hsince rest (by rw [List.concat_eq_append]; exact List.prefix_append _ _))

end NotifiedSinceEmpty

/-- The object is watched all along a run in which no Add fills an empty region,
and whenever it is damaged its owner has been notified. -/
theorem AttendedRun.watched (h : s.clients.contains owner = true)
    (hrun : AttendedRun owner id (s.damageCreate owner id drawable REPORT_NON_EMPTY).1 events)
    (hadds : ∀ before e after, events = before ++ e :: after →
      ¬ e.FillsEmpty id (runDamage s (.create owner id drawable REPORT_NON_EMPTY :: before))) :
    let run := .create owner id drawable REPORT_NON_EMPTY :: events
    (runDamage s run).Watched owner id ∧
      ((runDamage s run).Damaged id → NotifiedSinceEmpty owner id s run) := by
  induction events using List.reverseRecOn with
  | nil =>
    obtain ⟨hwatched, hnotified⟩ := ServerState.damageCreate_watched id drawable h
    refine ⟨hwatched, fun hdamaged => ?_⟩
    exact ⟨[], _, [], rfl, hnotified hdamaged, fun rest hrest => by rwa [List.prefix_nil.mp hrest]⟩
  | append_singleton events e ih =>
    obtain ⟨hbefore, hattends, -⟩ := AttendedRun.append_iff.mp hrun
    obtain ⟨hwatched, hnotified⟩ := ih hbefore fun before f after hsplit =>
      hadds before f (after ++ [e]) (by rw [hsplit, List.append_assoc, List.cons_append])
    have hstep := DamageEvent.wakes hwatched hattends (hadds events e [] rfl)
    have hlast : runDamage s (.create owner id drawable REPORT_NON_EMPTY :: (events ++ [e])) =
        e.apply (runDamage s (.create owner id drawable REPORT_NON_EMPTY :: events)) := by
      rw [← List.cons_append, runDamage_concat]
    refine ⟨hlast ▸ hstep.watched, fun hdamaged => ?_⟩
    rcases hstep.notified (hlast ▸ hdamaged) with hkept | hnow
    · exact (hnotified hkept).concat hdamaged
    · exact .now hnow hdamaged

/-- The owner of a NonEmpty object is notified of the damage in every state of
a run exactly when no Add of the run is the first to damage the object. -/
theorem nonEmpty_wakes_iff (h : s.clients.contains owner = true)
    (hrun : AttendedRun owner id (s.damageCreate owner id drawable REPORT_NON_EMPTY).1 events) :
    (∀ past, past <+: events →
      let run := .create owner id drawable REPORT_NON_EMPTY :: past
      (runDamage s run).Damaged id → NotifiedSinceEmpty owner id s run) ↔
    ∀ before e after, events = before ++ e :: after →
      ¬ e.FillsEmpty id (runDamage s (.create owner id drawable REPORT_NON_EMPTY :: before)) := by
  constructor
  · rintro hwakes before e after rfl hfills
    obtain ⟨hsilent, hclean, hdamaged⟩ := hfills.damaged
    refine NotifiedSinceEmpty.not_concat owner hsilent hclean ?_
    refine hwakes (before ++ [e]) ⟨after, by rw [List.append_assoc]; rfl⟩ ?_
    rwa [← List.cons_append, runDamage_concat]
  · rintro hadds past ⟨future, rfl⟩
    refine (AttendedRun.watched h (AttendedRun.append_iff.mp hrun).1 ?_).2
    rintro before e after rfl
    exact hadds before e (after ++ future) (by rw [List.append_assoc, List.cons_append])

/-- Client 1 is connected and has a pixmap. -/
def pixmapOwner : ServerState :=
  let s := (ServerState.new.connectClient 1).getD .new
  { s with
    resources := { s.resources with
      pixmaps := s.resources.pixmaps.insert 0x100001 ⟨0x100001, ROOT_WINDOW, 8, 8, 24, 1, none⟩ } }

theorem nonEmpty_wakes_draw :
    NotifiedSinceEmpty 1 0x100002 pixmapOwner
      [.create 1 0x100002 0x100001 REPORT_NON_EMPTY, .draw 0x100001 2 2 4 4] := by
  have hrun : AttendedRun 1 0x100002
      (pixmapOwner.damageCreate 1 0x100002 0x100001 REPORT_NON_EMPTY).1
      [.draw 0x100001 2 2 4 4] := ⟨trivial, trivial⟩
  refine (nonEmpty_wakes_iff rfl hrun).mpr ?_ _ (List.prefix_refl _) ⟨(3, 3), by decide⟩
  rintro before e after hsplit hfills
  rcases List.singleton_eq_append_iff.mp hsplit with ⟨rfl, hsplit⟩ | ⟨rfl, hsplit⟩
  · obtain ⟨rfl, -⟩ := List.cons.inj hsplit
    exact hfills
  · cases hsplit

/-- The whole pixmap is damaged, and nobody is told. -/
theorem add_not_notified :
    let run : List DamageEvent :=
      [.create 1 0x100002 0x100001 REPORT_NON_EMPTY, .add 0x100001 0]
    pixmapOwner.clients.contains 1 = true ∧
      AttendedRun 1 0x100002
        (pixmapOwner.damageCreate 1 0x100002 0x100001 REPORT_NON_EMPTY).1 [.add 0x100001 0] ∧
      (runDamage pixmapOwner run).Damaged 0x100002 ∧
      ¬ NotifiedSinceEmpty 1 0x100002 pixmapOwner run := by
  refine ⟨rfl, ⟨trivial, trivial⟩, ⟨(3, 3), by decide⟩, ?_⟩
  have hclean : ¬ (runDamage pixmapOwner
      [.create 1 0x100002 0x100001 REPORT_NON_EMPTY]).Damaged 0x100002 := by
    rintro ⟨p, r, hr, -⟩
    cases hr
  exact NotifiedSinceEmpty.not_concat 1 rfl hclean

end

end X12
