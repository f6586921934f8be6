import X12.Core.Server

/-! # DAMAGE

Damage to a drawable is recorded in every damage object on that drawable and,
translated and clipped, in those on its ancestors. Requests add to the
recorded region or subtract from it. Notifications are collected in the order
in which they are sent. -/

namespace X12

def REPORT_RAW_RECTANGLES : UInt8 := 0
def REPORT_DELTA_RECTANGLES : UInt8 := 1
def REPORT_BOUNDING_BOX : UInt8 := 2
def REPORT_NON_EMPTY : UInt8 := 3

/-- More notifications of the same report follow. -/
def MORE_FLAG : UInt8 := 0x80

def ANCESTOR_WALK_MAX_DEPTH : Nat := 32

structure PendingNotify where
  owner : ClientId
  damageId : ResourceId
  level : UInt8
  drawable : ResourceId
  area : DamageRectangle
  geometry : DamageRectangle
  deriving DecidableEq, Repr

/-- A damaged rectangle in the coordinates of one drawable. -/
structure LevelRect where
  drawable : ResourceId
  rx : Int
  ry : Int
  rw : Int
  rh : Int
  deriving DecidableEq, Repr

/-- `i16::try_from(v).unwrap_or(i16::MAX)` -/
def saturateI16 (v : Int) : Int16 :=
  if -32768 ≤ v ∧ v ≤ 32767 then Int16.ofInt v else 32767

/-- `u16::try_from(v).unwrap_or(u16::MAX)` -/
def saturateU16 (v : Int) : UInt16 :=
  if 0 ≤ v ∧ v ≤ 65535 then UInt16.ofNat v.toNat else 65535

namespace ResourceTable

def drawableFullRect (t : ResourceTable) (drawable : ResourceId) : RegionRect :=
  match t.windows[drawable]? with
  | some window => ⟨0, 0, window.width, window.height⟩
  | none =>
    match t.pixmaps[drawable]? with
    | some pixmap => ⟨0, 0, pixmap.width, pixmap.height⟩
    | none => ⟨0, 0, 0, 0⟩

/-- The rounds of the walk to the root that are left, and the offsets so far. -/
def absolutePositionFrom (t : ResourceTable) : Nat → ResourceId → Int × Int → Int × Int
  | 0, _, offset => offset
  | rounds + 1, current, (ax, ay) =>
    if current = ROOT_WINDOW then (ax, ay)
    else
      match t.windows[current]? with
      | none => (ax, ay)
      | some w =>
        let offset := (ax + w.x.toInt, ay + w.y.toInt)
        if w.parent = current then offset
        else t.absolutePositionFrom rounds w.parent offset

def windowAbsolutePosition (t : ResourceTable) (id : ResourceId) : Int × Int :=
  t.absolutePositionFrom 256 id (0, 0)

/-- The extent of a drawable, at its place on the screen when it is a window. -/
def reportGeometry (t : ResourceTable) (drawable : ResourceId) : DamageRectangle :=
  let full := t.drawableFullRect drawable
  let (ax, ay) :=
    if t.windows.contains drawable then t.windowAbsolutePosition drawable else (0, 0)
  { x := saturateI16 ax, y := saturateI16 ay, width := full.width, height := full.height }

/-- One step of the ancestor walk: the rectangle as the parent sees it. -/
def levelAbove (t : ResourceTable) (l : LevelRect) : Option LevelRect := do
  let current ← t.windows[l.drawable]?
  if current.parent = l.drawable then none
  else
    let parent ← t.windows[current.parent]?
    let rx := l.rx + current.x.toInt
    let ry := l.ry + current.y.toInt
    let x₀ := max rx 0
    let y₀ := max ry 0
    let x₁ := min (rx + l.rw) parent.width.toNat
    let y₁ := min (ry + l.rh) parent.height.toNat
    if x₁ ≤ x₀ ∨ y₁ ≤ y₀ then none
    else some ⟨current.parent, x₀, y₀, x₁ - x₀, y₁ - y₀⟩

end ResourceTable

/-- The rectangle that is recorded. -/
def LevelRect.saturated (l : LevelRect) : RegionRect where
  x := saturateI16 l.rx
  y := saturateI16 l.ry
  width := saturateU16 l.rw
  height := saturateU16 l.rh

/-- The level of the drawable that is drawn to. -/
def leafRect (drawable : ResourceId) (x y : Int16) (width height : UInt16) : LevelRect :=
  ⟨drawable, x.toInt, y.toInt, width.toNat, height.toNat⟩

namespace ServerState

/-- Record a rectangle in one damage object and queue its notification. -/
def accumulateInObject (l : LevelRect) (s : ServerState × List PendingNotify)
    (damageId : ResourceId) : ServerState × List PendingNotify :=
  match s.1.damageObjects[damageId]? with
  | none => s
  | some dmg =>
    let geometry := s.1.resources.reportGeometry l.drawable
    let geometryChanged := dmg.lastReportedGeometry.any (· ≠ geometry)
    let levelAllowsEmit :=
      if dmg.level = REPORT_RAW_RECTANGLES ∨ dmg.level = REPORT_DELTA_RECTANGLES ∨
          dmg.level = REPORT_BOUNDING_BOX then true
      else if dmg.level = REPORT_NON_EMPTY then !dmg.pendingNotifyFired || geometryChanged
      else false
    let dmg := { dmg with rects := dmg.rects ++ [l.saturated] }
    if s.1.clients.contains dmg.owner && levelAllowsEmit then
      let notify : PendingNotify :=
        { owner := dmg.owner
          damageId := damageId
          level := dmg.level
          drawable := l.drawable
          area :=
            if dmg.level = REPORT_NON_EMPTY then s.1.resources.drawableFullRect l.drawable
            else l.saturated
          geometry := geometry }
      let dmg := { dmg with pendingNotifyFired := true, lastReportedGeometry := some geometry }
      ({ s.1 with damageObjects := s.1.damageObjects.insert damageId dmg }, s.2 ++ [notify])
    else ({ s.1 with damageObjects := s.1.damageObjects.insert damageId dmg }, s.2)

def accumulateAtLevel (s : ServerState × List PendingNotify) (l : LevelRect) :
    ServerState × List PendingNotify :=
  let damageIds := s.1.damageObjects.keys.filter fun id =>
    s.1.damageObjects[id]?.any (·.drawable = l.drawable)
  damageIds.foldl (accumulateInObject l) s

/-- The ancestor walk, with the steps that are left. -/
def accumulateInAncestors :
    Nat → ServerState × List PendingNotify → LevelRect → ServerState × List PendingNotify
  | 0, s, _ => s
  | steps + 1, s, l =>
    match s.1.resources.levelAbove l with
    | none => s
    | some above => accumulateInAncestors steps (accumulateAtLevel s above) above

/-- The notifications are returned instead of being written to the clients. -/
def accumulateDamageToState (s : ServerState) (drawable : ResourceId) (x y : Int16)
    (width height : UInt16) : ServerState × List PendingNotify :=
  if width = 0 ∨ height = 0 then (s, [])
  else
    let leaf := leafRect drawable x y width height
    accumulateInAncestors ANCESTOR_WALK_MAX_DEPTH (accumulateAtLevel (s, []) leaf) leaf

def accumulateDamageFullToState (s : ServerState) (drawable : ResourceId) :
    ServerState × List PendingNotify :=
  let r := s.resources.drawableFullRect drawable
  s.accumulateDamageToState drawable 0 0 r.width r.height

/-- Report what an object has recorded, without recording anything. -/
def reportExistingDamageToState (s : ServerState) (damageId : ResourceId) :
    ServerState × List PendingNotify :=
  match s.damageObjects[damageId]? with
  | none => (s, [])
  | some dmg =>
    if dmg.pendingNotifyFired || dmg.rects.isEmpty || !s.clients.contains dmg.owner then (s, [])
    else
      let geometry := s.resources.reportGeometry dmg.drawable
      let notify (level : UInt8) (area : DamageRectangle) : PendingNotify :=
        { owner := dmg.owner
          damageId := damageId
          level := level
          drawable := dmg.drawable
          area := area
          geometry := geometry }
      let reported (pending : List PendingNotify) : ServerState × List PendingNotify :=
        let dmg := { dmg with pendingNotifyFired := true, lastReportedGeometry := some geometry }
        ({ s with damageObjects := s.damageObjects.insert damageId dmg }, pending)
      if dmg.level = REPORT_RAW_RECTANGLES ∨ dmg.level = REPORT_DELTA_RECTANGLES then
        reported (dmg.rects.zipIdx.map fun (rect, idx) =>
          notify (if idx + 1 < dmg.rects.length then dmg.level ||| MORE_FLAG else dmg.level) rect)
      else if dmg.level = REPORT_BOUNDING_BOX then
        reported [notify dmg.level (regionExtents dmg.rects)]
      else if dmg.level = REPORT_NON_EMPTY then
        reported [notify dmg.level (s.resources.drawableFullRect dmg.drawable)]
      else (s, [])

/-- The rectangles of a region; an unknown region has none. -/
def regionRects (s : ServerState) (region : ResourceId) : List RegionRect :=
  s.xfixesRegions[region]?.elim [] (·.rects)

/-- DAMAGE Create, for its three arguments. An object on a viewable window
starts with the whole window damaged. -/
def damageCreate (s : ServerState) (client : ClientId) (damage drawable : ResourceId)
    (level : UInt8) : ServerState × List PendingNotify :=
  let s := { s with
    damageObjects := s.damageObjects.insert damage
      { owner := client
        drawable := drawable
        level := level
        rects := []
        pendingNotifyFired := false
        lastReportedGeometry := none } }
  if s.resources.windows[drawable]?.any (·.mapState = .Viewable) then
    s.accumulateDamageFullToState drawable
  else (s, [])

/-- DAMAGE Destroy. -/
def damageDestroy (s : ServerState) (damage : ResourceId) : ServerState :=
  { s with damageObjects := s.damageObjects.erase damage }

/-- The rectangles of an Add: those of the region, or the whole drawable. -/
def addedRects (s : ServerState) (drawable region : ResourceId) : List RegionRect :=
  if region = 0 then [s.resources.drawableFullRect drawable] else s.regionRects region

/-- DAMAGE Add, for its two arguments. -/
def damageAdd (s : ServerState) (drawable region : ResourceId) : ServerState :=
  { s with
    damageObjects := s.damageObjects.map fun _ damage =>
      if damage.drawable = drawable then
        { damage with rects := normalizeRegionRects (damage.rects ++ s.addedRects drawable region) }
      else damage }

/-- The parts and the rest of an object's damage: Subtract takes away what the
repair region covers, or everything without one. -/
def splitDamage (s : ServerState) (damageId repair : ResourceId) :
    List RegionRect × List RegionRect :=
  let oldDamage := s.damageObjects[damageId]?.elim [] fun d => normalizeRegionRects d.rects
  if repair = 0 then (oldDamage, [])
  else
    (intersectRegions oldDamage (s.regionRects repair),
      subtractRegions oldDamage (s.regionRects repair))

/-- The parts region is created or replaced; 0 is None. -/
def writeParts (s : ServerState) (client : ClientId) (parts : ResourceId)
    (rects : List RegionRect) : ServerState :=
  if parts = 0 then s
  else { s with xfixesRegions := s.xfixesRegions.insert parts ⟨client, rects⟩ }

def setDamage (s : ServerState) (damageId : ResourceId) (rects : List RegionRect) : ServerState :=
  { s with
    damageObjects := s.damageObjects.modify damageId fun damage =>
      { damage with rects := rects, pendingNotifyFired := false } }

/-- DAMAGE Subtract, for its three arguments. -/
def damageSubtract (s : ServerState) (client : ClientId) (damageId repair parts : ResourceId) :
    ServerState × List PendingNotify :=
  let level := s.damageObjects[damageId]?.elim 0 (·.level)
  let (partsRects, newDamage) := s.splitDamage damageId repair
  let s := (s.writeParts client parts partsRects).setDamage damageId newDamage
  if repair ≠ 0 ∧ level ≠ REPORT_RAW_RECTANGLES ∧
      s.damageObjects[damageId]?.any fun d => !d.rects.isEmpty then
    s.reportExistingDamageToState damageId
  else (s, [])

end ServerState

end X12
