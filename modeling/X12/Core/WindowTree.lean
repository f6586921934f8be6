import X12.Core.Resources

/-! # Operations on the window tree

Creating, destroying, restacking, mapping and reparenting windows. A window's
parent pointer and the child lists are stored separately, and every operation
updates both. Recursions that the source runs on the tree itself take an
amount of fuel here; the number of windows is always enough. -/

namespace X12

structure CreateWindowRequest where
  depth : UInt8
  window : ResourceId
  parent : ResourceId
  x : Int16
  y : Int16
  width : UInt16
  height : UInt16
  borderWidth : UInt16
  windowClass : UInt16
  visual : ResourceId
  valueMask : UInt32
  backgroundPixmap : Option ResourceId
  backgroundPixel : Option UInt32
  bitGravity : Option UInt8
  winGravity : Option UInt8
  backingStore : Option UInt8
  backingPlanes : Option UInt32
  backingPixel : Option UInt32
  overrideRedirect : Option Bool
  saveUnder : Option Bool
  eventMask : Option UInt32
  doNotPropagateMask : Option UInt16
  /-- `some none` is an explicit CopyFromParent. -/
  colormap : Option (Option ResourceId)
  deriving DecidableEq, Repr

/-- The derived `Default`: every field zero or absent. -/
def CreateWindowRequest.default : CreateWindowRequest where
  depth := 0
  window := 0
  parent := 0
  x := 0
  y := 0
  width := 0
  height := 0
  borderWidth := 0
  windowClass := 0
  visual := 0
  valueMask := 0
  backgroundPixmap := none
  backgroundPixel := none
  bitGravity := none
  winGravity := none
  backingStore := none
  backingPlanes := none
  backingPixel := none
  overrideRedirect := none
  saveUnder := none
  eventMask := none
  doNotPropagateMask := none
  colormap := none

structure ConfigureWindowRequest where
  window : ResourceId
  x : Option Int16
  y : Option Int16
  width : Option UInt16
  height : Option UInt16
  borderWidth : Option UInt16
  sibling : Option ResourceId
  stackMode : Option UInt8
  deriving DecidableEq, Repr

structure ReparentWindowRequest where
  window : ResourceId
  parent : ResourceId
  x : Int16
  y : Int16
  deriving DecidableEq, Repr

structure ReparentResult where
  window : ResourceId
  oldParent : ResourceId
  newParent : ResourceId
  x : Int16
  y : Int16
  overrideRedirect : Bool
  hostXid : Option Handle
  deriving DecidableEq, Repr

inductive ReparentWindowError where
  | BadWindow
  | BadMatch
  deriving DecidableEq, Repr

/-- Where a new top child goes: just below the overlay window when that is on
top, otherwise at the very end. -/
def cowAwareTopIndex (parent : Window) : Nat :=
  match parent.children.getLast? with
  | some last =>
    if last = COMPOSITE_OVERLAY_WINDOW then parent.children.length - 1
    else parent.children.length
  | none => parent.children.length

namespace Window

/-- Insert a child in the cow-aware top slot. -/
def pushChild (w : Window) (child : ResourceId) : Window :=
  { w with children := w.children.insertIdx (cowAwareTopIndex w) child }

def retainChildren (w : Window) (keep : ResourceId → Bool) : Window :=
  { w with children := w.children.filter keep }

/-- `children.retain(|c| *c != child)` -/
def dropChild (w : Window) (child : ResourceId) : Window :=
  w.retainChildren (· ≠ child)

/-- `children.remove(index)` -/
def removeAt (w : Window) (index : Nat) : Window :=
  { w with children := w.children.eraseIdx index }

def insertAt (w : Window) (index : Nat) (child : ResourceId) : Window :=
  { w with children := w.children.insertIdx index child }

end Window

/-! ## Overlap of siblings -/

/-- Left, top, right and bottom in the parent's coordinates, border included. -/
def windowBoundingBox (w : Window) : Int × Int × Int × Int :=
  let bw : Int := w.borderWidth.toNat
  let x₀ := w.x.toInt
  let y₀ := w.y.toInt
  (x₀, y₀, x₀ + w.width.toNat + 2 * bw, y₀ + w.height.toNat + 2 * bw)

def windowRectsOverlap (a b : Window) : Bool :=
  let (ax₀, ay₀, ax₁, ay₁) := windowBoundingBox a
  let (bx₀, by₀, bx₁, by₁) := windowBoundingBox b
  ax₀ < bx₁ && bx₀ < ax₁ && ay₀ < by₁ && by₀ < ay₁

inductive RestackAction where
  | NoOp
  | Top
  | Bottom
  | AboveSibling (sibling : ResourceId)
  | BelowSibling (sibling : ResourceId)
  deriving DecidableEq, Repr

namespace ResourceTable

/-! ## Creating and destroying -/

/-- The record that `create_window` inserts. -/
def newWindow (t : ResourceTable) (owner : ClientId) (request : CreateWindowRequest) : Window :=
  let parent := t.windows[request.parent]?
  { id := request.window
    parent := request.parent
    children := []
    x := request.x
    y := request.y
    width := request.width
    height := request.height
    borderWidth := request.borderWidth
    depth := if request.depth = 0 then parent.elim 24 (·.depth) else request.depth
    visual := if request.visual = 0 then parent.elim ROOT_VISUAL (·.visual) else request.visual
    windowClass :=
      if request.windowClass = 0 then parent.elim .InputOutput (·.windowClass)
      else .fromProtocol request.windowClass
    mapState := .Unmapped
    backgroundPixel := request.backgroundPixel.getD 0x00ffffff
    backgroundPixmap := request.backgroundPixmap.filter (· ≠ 0)
    backgroundPixmapHostXid :=
      (request.backgroundPixmap.filter (· > 1)).bind fun p => t.pixmaps[p]?.bind (·.hostXid)
    backgroundNone :=
      request.backgroundPixel.isNone && !(request.backgroundPixmap.any (· ≠ 0))
    borderPixmapHostXid := none
    overrideRedirect := request.overrideRedirect.getD false
    bitGravity := request.bitGravity.getD 0
    winGravity := request.winGravity.getD 1
    backingStore := request.backingStore.getD 0
    backingPlanes := request.backingPlanes.getD 0xffffffff
    backingPixel := request.backingPixel.getD 0
    saveUnder := request.saveUnder.getD false
    doNotPropagateMask := request.doNotPropagateMask.getD 0
    colormap :=
      match request.colormap with
      | some (some id) => id
      | some none | none => parent.elim ROOT_COLORMAP (·.colormap)
    cursor := none
    owner := owner
    hostXid := none
    redirectedBacking := none
    compositeNamedPixmaps := [] }

def createWindow (t : ResourceTable) (owner : ClientId) (request : CreateWindowRequest) :
    ResourceTable :=
  let parentEntry := (t.windows[request.parent]?).getD (.placeholder request.parent)
  let windows := t.windows.insert request.parent (parentEntry.pushChild request.window)
  { t with windows := windows.insert request.window (t.newWindow owner request) }

/-- The record of the overlay window. -/
def cowWindow (t : ResourceTable) (hostXid : Handle) : Window :=
  let root := t.windows[ROOT_WINDOW]?
  { Window.placeholder COMPOSITE_OVERLAY_WINDOW with
    parent := ROOT_WINDOW
    x := 0
    y := 0
    width := root.elim 1 (·.width)
    height := root.elim 1 (·.height)
    depth := 24
    visual := root.elim ROOT_VISUAL (·.visual)
    windowClass := .InputOutput
    mapState := .Viewable
    overrideRedirect := true
    hostXid := some hostXid }

/-- Panics when the overlay window is there already. -/
def materializeCowResource (t : ResourceTable) (hostXid : Handle) : Option ResourceTable :=
  if t.windows.contains COMPOSITE_OVERLAY_WINDOW then none
  else
    let t' := { t with
      windows := t.windows.insert COMPOSITE_OVERLAY_WINDOW (t.cowWindow hostXid) }
    some (t'.modifyWindow ROOT_WINDOW (·.pushChild COMPOSITE_OVERLAY_WINDOW))

def destroyCowResource (t : ResourceTable) : ResourceTable :=
  let t := t.modifyWindow ROOT_WINDOW (·.dropChild COMPOSITE_OVERLAY_WINDOW)
  { t with windows := t.windows.erase COMPOSITE_OVERLAY_WINDOW }

/-- The children are walked after the record has been moved out of the table. -/
def destroyWindowInner :
    Nat → ResourceTable × List ResourceId → ResourceId → ResourceTable × List ResourceId
  | 0, s, _ => s
  | fuel + 1, (t, destroyed), id =>
    if id = ROOT_WINDOW then (t, destroyed)
    else
      match t.windows[id]? with
      | none => (t, destroyed)
      | some window =>
        let t := { t with windows := t.windows.erase id }
        let t := t.modifyWindow window.parent (·.dropChild id)
        window.children.foldl (destroyWindowInner fuel) (t, destroyed ++ [id])

def destroyWindow (t : ResourceTable) (id : ResourceId) : ResourceTable × List ResourceId :=
  destroyWindowInner t.windows.size (t, []) id

/-! ## Restacking -/

/-- Both occlusion checks: some mapped sibling at one of the considered
positions overlaps the mapped window at `windowIndex`. -/
def overlapsSibling (t : ResourceTable) (considered : Nat → Bool) (parentId : ResourceId)
    (windowIndex : Nat) (sibling : Option ResourceId) : Bool :=
  match t.windows[parentId]? with
  | none => false
  | some parent =>
    match parent.children[windowIndex]?.bind fun id => t.windows[id]? with
    | none => false
    | some window =>
      window.mapState ≠ .Unmapped &&
        parent.children.zipIdx.any fun (otherId, i) =>
          considered i && sibling.all (· = otherId) &&
            match t.windows[otherId]? with
            | none => false
            | some other => other.mapState ≠ .Unmapped && windowRectsOverlap window other

def anySiblingOccludesWindow (t : ResourceTable) (parentId : ResourceId) (windowIndex : Nat)
    (sibling : Option ResourceId) : Bool :=
  t.overlapsSibling (fun i => i > windowIndex) parentId windowIndex sibling

def windowOccludesAnySibling (t : ResourceTable) (parentId : ResourceId) (windowIndex : Nat)
    (sibling : Option ResourceId) : Bool :=
  t.overlapsSibling (fun i => i < windowIndex) parentId windowIndex sibling

def resolveRestackAction (t : ResourceTable) (windowId parentId : ResourceId)
    (sibling : Option ResourceId) (stackMode : UInt8) : Option RestackAction := do
  let parent ← t.windows[parentId]?
  let windowIndex ← parent.children.idxOf? windowId
  if sibling.any fun id => !parent.children.contains id then none
  else if stackMode = 0 then
    some (match sibling with | some sib => .AboveSibling sib | none => .Top)
  else if stackMode = 1 then
    some (match sibling with | some sib => .BelowSibling sib | none => .Bottom)
  else if stackMode = 2 then
    some (if t.anySiblingOccludesWindow parentId windowIndex sibling then .Top else .NoOp)
  else if stackMode = 3 then
    some (if t.windowOccludesAnySibling parentId windowIndex sibling then .Bottom else .NoOp)
  else if stackMode = 4 then
    some (if t.anySiblingOccludesWindow parentId windowIndex sibling then .Top
      else if t.windowOccludesAnySibling parentId windowIndex sibling then .Bottom
      else .NoOp)
  else none

/-- Take the child at `index` out of the list and put it back where the action
says. -/
def applyRestack (parent : Window) (index : Nat) (window : ResourceId) : RestackAction → Window
  | .NoOp => parent
  | .Top =>
    let parent := parent.removeAt index
    parent.insertAt (cowAwareTopIndex parent) window
  | .Bottom => (parent.removeAt index).insertAt 0 window
  | .AboveSibling siblingId =>
    let parent := parent.removeAt index
    let insertAt :=
      if siblingId = COMPOSITE_OVERLAY_WINDOW then cowAwareTopIndex parent
      else (parent.children.idxOf? siblingId).elim parent.children.length (· + 1)
    parent.insertAt insertAt window
  | .BelowSibling siblingId =>
    let parent := parent.removeAt index
    parent.insertAt ((parent.children.idxOf? siblingId).getD 0) window

def restackWindow (t : ResourceTable) (windowId : ResourceId) (sibling : Option ResourceId)
    (stackMode : Option UInt8) : ResourceTable :=
  match stackMode with
  | none => t
  | some stackMode =>
    match t.windows[windowId]?.map (·.parent) with
    | none => t
    | some parentId =>
      match t.resolveRestackAction windowId parentId sibling stackMode with
      | none => t
      | some action =>
        t.modifyWindow parentId fun parent =>
          match parent.children.idxOf? windowId with
          | none => parent
          | some index => applyRestack parent index windowId action

def configureWindow (t : ResourceTable) (request : ConfigureWindowRequest) :
    ResourceTable × Option Window :=
  if t.windows.contains request.window then
    let t := t.modifyWindow request.window fun window =>
      { window with
        x := request.x.getD window.x
        y := request.y.getD window.y
        width := request.width.getD window.width
        height := request.height.getD window.height
        borderWidth := request.borderWidth.getD window.borderWidth }
    let t := t.restackWindow request.window request.sibling request.stackMode
    (t, t.windows[request.window]?)
  else (t, none)

/-- Rotate the child below the overlay window to the bottom, or the bottom
child to just below the overlay window. -/
def circulateWindow (t : ResourceTable) (container : ResourceId) (direction : UInt8) :
    ResourceTable × Option ResourceId :=
  match t.windows[container]? with
  | none => (t, none)
  | some parent =>
    let top :=
      if container = ROOT_WINDOW then cowAwareTopIndex parent else parent.children.length
    if top < 2 then (t, none)
    else if direction = 0 then
      match parent.children[top - 1]? with
      | none => (t, none)
      | some last =>
        (t.modifyWindow container fun p => (p.removeAt (top - 1)).insertAt 0 last, some last)
    else if direction = 1 then
      match parent.children[0]? with
      | none => (t, none)
      | some first =>
        (t.modifyWindow container fun p => (p.removeAt 0).insertAt (top - 1) first, some first)
    else (t, none)

/-! ## Mapping -/

def isViewable (t : ResourceTable) (id : ResourceId) : Bool :=
  t.windows[id]?.any (·.mapState = .Viewable)

/-- Promotion of one window: Unviewable becomes Viewable. -/
def promoteWindow (w : Window) : Window :=
  if w.mapState = .Unviewable then { w with mapState := .Viewable } else w

def promoteUnviewableDescendants : Nat → ResourceTable → ResourceId → ResourceTable
  | 0, t, _ => t
  | fuel + 1, t, root =>
    let children := t.windows[root]?.elim [] (·.children)
    children.foldl (fun t child =>
      let t := t.modifyWindow child promoteWindow
      if t.isViewable child then promoteUnviewableDescendants fuel t child else t) t

def mapWindow (t : ResourceTable) (id : ResourceId) : ResourceTable × Bool :=
  let parentViewable :=
    match t.windows[id]?.map (·.parent) with
    | some pid => if pid = id then true else t.isViewable pid
    | none => false
  match t.windows[id]? with
  | none => (t, false)
  | some window =>
    let wasUnmapped : Bool := window.mapState = .Unmapped
    let t := t.modifyWindow id fun w =>
      { w with mapState := if parentViewable then .Viewable else .Unviewable }
    if parentViewable then
      (promoteUnviewableDescendants t.windows.size t id, wasUnmapped)
    else (t, wasUnmapped)

def unmapWindow (t : ResourceTable) (id : ResourceId) : ResourceTable × Bool :=
  if id = ROOT_WINDOW then (t, false)
  else
    match t.windows[id]? with
    | none => (t, false)
    | some window =>
      (t.modifyWindow id fun w => { w with mapState := .Unmapped },
        window.mapState ≠ .Unmapped)

/-! ## Reparenting -/

/-- The rounds of the walk to the root that are left. -/
def isDescendantOfFrom (t : ResourceTable) (ancestor : ResourceId) : Nat → ResourceId → Bool
  | 0, _ => false
  | rounds + 1, current =>
    if current = ROOT_WINDOW then false
    else
      match t.windows[current]? with
      | none => false
      | some window =>
        if window.parent = ancestor then true
        else if window.parent = current then false
        else t.isDescendantOfFrom ancestor rounds window.parent

def isDescendantOf (t : ResourceTable) (candidate ancestor : ResourceId) : Bool :=
  t.isDescendantOfFrom ancestor (t.windows.size + 1) candidate

def reparentWindow (t : ResourceTable) (request : ReparentWindowRequest) :
    ResourceTable × Except ReparentWindowError ReparentResult :=
  if request.window = ROOT_WINDOW || request.window = request.parent ||
      t.isDescendantOf request.parent request.window then
    (t, .error .BadMatch)
  else
    match t.windows[request.window]? with
    | none => (t, .error .BadWindow)
    | some window =>
      if !t.windows.contains request.parent then (t, .error .BadWindow)
      else
        let t := t.modifyWindow window.parent (·.dropChild request.window)
        let t := t.modifyWindow request.parent (·.pushChild request.window)
        let t := t.modifyWindow request.window fun w =>
          { w with parent := request.parent, x := request.x, y := request.y }
        (t, .ok
          { window := request.window
            oldParent := window.parent
            newParent := request.parent
            x := request.x
            y := request.y
            overrideRedirect := window.overrideRedirect
            hostXid := window.hostXid })

end ResourceTable

end X12
