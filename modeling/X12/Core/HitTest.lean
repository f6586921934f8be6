import X12.Core.Damage

/-! # Hit testing

Which window a point is in. The walk for the pointer goes from parent to child
in the coordinates of the event, which are sixteen bits wide; the lookup for
TranslateCoordinates takes the screen position and wider numbers. -/

namespace X12

/-- `i16::try_from(v).unwrap_or(i16::MAX)` -/
def i16OrMax (v : UInt16) : Int16 :=
  if v.toNat ≤ 32767 then Int16.ofNat v.toNat else 32767

namespace ServerState

/-- A window without an input shape takes the pointer everywhere. -/
def windowInputContains (s : ServerState) (window : ResourceId) (x y : Int16) : Bool :=
  match s.shapeWindows[window]?.bind (·.input) with
  | none => true
  | some rects =>
    rects.any fun rect =>
      let rx := rect.x.toInt
      let ry := rect.y.toInt
      let rr := rx + rect.width.toNat
      let rb := ry + rect.height.toNat
      let px := x.toInt
      let py := y.toInt
      rx ≤ px && ry ≤ py && px < rr && py < rb

/-- The differences wrap around. -/
def hitTestChild (s : ServerState) (childId : ResourceId) (parentX parentY : Int16) :
    Option (ResourceId × Int16 × Int16) :=
  match s.resources.windows[childId]? with
  | none => none
  | some child =>
    if child.mapState = .Unmapped then none
    else
      let childX := parentX - child.x
      let childY := parentY - child.y
      if childX < 0 || childY < 0 || i16OrMax child.width ≤ childX ||
          i16OrMax child.height ≤ childY || !s.windowInputContains childId childX childY then
        none
      else some (childId, childX, childY)

/-- The first hit from the top of the stack. -/
def hitTestChildren (s : ServerState) (parent : ResourceId) (x y : Int16) :
    Option (ResourceId × Int16 × Int16) :=
  match s.resources.windows[parent]? with
  | none => none
  | some parentWindow =>
    parentWindow.children.reverse.findSome? fun childId => s.hitTestChild childId x y

/-- The walk down; the number of windows is enough fuel. -/
def pointerTargetAtInner (s : ServerState) :
    Nat → ResourceId × Int16 × Int16 → ResourceId × Int16 × Int16
  | 0, best => best
  | fuel + 1, (parent, x, y) =>
    match s.hitTestChildren parent x y with
    | none => (parent, x, y)
    | some hit => s.pointerTargetAtInner fuel hit

def pointerTargetAt (s : ServerState) (topLevel : ResourceId) (x y : Int16) :
    Option (ResourceId × Int16 × Int16) :=
  match s.resources.windows[topLevel]? with
  | none => none
  | some top =>
    if top.mapState = .Unmapped then none
    else some (s.pointerTargetAtInner s.resources.windows.size (topLevel, x, y))

end ServerState

namespace ResourceTable

/-- The topmost mapped child at a position on the screen. -/
def childContainingPoint (t : ResourceTable) (parent : ResourceId) (absX absY : Int) :
    Option ResourceId :=
  let (px, py) := t.windowAbsolutePosition parent
  let localX := absX - px
  let localY := absY - py
  match t.windows[parent]? with
  | none => none
  | some w =>
    w.children.reverse.find? fun childId =>
      match t.windows[childId]? with
      | none => false
      | some child =>
        let cx := child.x.toInt
        let cy := child.y.toInt
        child.mapState ≠ .Unmapped && cx ≤ localX && localX < cx + child.width.toNat &&
          cy ≤ localY && localY < cy + child.height.toNat

end ResourceTable

end X12
