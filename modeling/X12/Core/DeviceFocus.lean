import X12.Core.Resources

/-! # The focus of the input devices

Each device has a focus of its own. It reverts when its window stops being viewable or is
about to be destroyed. The events that tell clients of it are left out. -/

namespace X12

def FOCUS_NONE : UInt32 := 0
def FOCUS_POINTER_ROOT : UInt32 := 1
def FOCUS_FOLLOW_KEYBOARD : UInt32 := 3

def REVERT_TO_NONE : UInt8 := 0
def REVERT_TO_POINTER_ROOT : UInt8 := 1
def REVERT_TO_PARENT : UInt8 := 2
def REVERT_TO_FOLLOW_KEYBOARD : UInt8 := 3

structure Xi1DeviceFocus where
  focus : UInt32
  revertTo : UInt8
  time : UInt32
  deriving DecidableEq, Repr

def Xi1DeviceFocus.default : Xi1DeviceFocus where
  focus := 1
  revertTo := 0
  time := 0

inductive Xi1FocusTarget where
  | None
  | PointerRoot
  | Window (id : ResourceId)
  deriving DecidableEq, Repr

/-- The stored focus as it is: `FollowKeyboard` does not stand for the window it follows. -/
def resolveRawWindowOnly (raw : UInt32) : Xi1FocusTarget :=
  if raw = FOCUS_NONE ∨ raw = FOCUS_FOLLOW_KEYBOARD then .None
  else if raw = FOCUS_POINTER_ROOT then .PointerRoot
  else .Window raw

structure DeviceFocusState where
  resources : ResourceTable
  xi1DeviceFocus : Std.ExtTreeMap UInt16 Xi1DeviceFocus

namespace ResourceTable

/-- The walk up from a window that ends at an unmapped one. -/
def mappedFrom (t : ResourceTable) : Nat → ResourceId → Bool
  | 0, _ => false
  | rounds + 1, current =>
    match t.windows[current]? with
    | none => false
    | some win =>
      if win.mapState = .Unmapped then false
      else if win.parent = current then true
      else t.mappedFrom rounds win.parent

def windowViewable (t : ResourceTable) (w : ResourceId) : Bool :=
  match t.windows[w]? with
  | none => false
  | some win => if win.mapState ≠ .Viewable then false else t.mappedFrom 256 w

def inSubtreeFrom (t : ResourceTable) (root : ResourceId) : Nat → ResourceId → Bool
  | 0, _ => false
  | rounds + 1, current =>
    if current = root then true
    else
      match t.windows[current]? with
      | none => false
      | some win => if win.parent ≠ current then t.inSubtreeFrom root rounds win.parent else false

/-- Whether `root` is `w` or one of its ancestors. -/
def inSubtree (t : ResourceTable) (w root : ResourceId) : Bool :=
  t.inSubtreeFrom root 256 w

/-- The walk up from a window to the first ancestor that can have the focus. -/
def viableFrom (t : ResourceTable) (dyingSubtree : Option ResourceId) :
    Nat → ResourceId → ResourceId
  | 0, _ => ROOT_WINDOW
  | rounds + 1, current =>
    match t.windows[current]? with
    | none => ROOT_WINDOW
    | some win =>
      let parent := win.parent
      if parent = current then ROOT_WINDOW
      else
        let dying := dyingSubtree.any fun root => t.inSubtree parent root
        if !dying && (parent = ROOT_WINDOW || t.windowViewable parent) then parent
        else t.viableFrom dyingSubtree rounds parent

def closestViableAncestor (t : ResourceTable) (w : ResourceId)
    (dyingSubtree : Option ResourceId) : ResourceId :=
  t.viableFrom dyingSubtree 256 w

end ResourceTable

namespace DeviceFocusState

def deviceFocus (s : DeviceFocusState) (deviceid : UInt16) : Xi1DeviceFocus :=
  s.xi1DeviceFocus.getD deviceid .default

/-- The focus and the revert-to that replace those of a device whose focus is the window `w`. -/
def revertTarget (t : ResourceTable) (f : Xi1DeviceFocus) (w : ResourceId)
    (dyingSubtree : Option ResourceId) : UInt32 × UInt8 :=
  if f.revertTo = REVERT_TO_PARENT then (t.closestViableAncestor w dyingSubtree, REVERT_TO_NONE)
  else if f.revertTo = REVERT_TO_POINTER_ROOT then (FOCUS_POINTER_ROOT, f.revertTo)
  else if f.revertTo = REVERT_TO_FOLLOW_KEYBOARD then (FOCUS_FOLLOW_KEYBOARD, f.revertTo)
  else (FOCUS_NONE, f.revertTo)

def doRevert (s : DeviceFocusState) (dev : UInt16) (w : ResourceId)
    (dyingSubtree : Option ResourceId) : DeviceFocusState :=
  let f := s.deviceFocus dev
  let (newRaw, newRevert) := revertTarget s.resources f w dyingSubtree
  { s with
    xi1DeviceFocus := s.xi1DeviceFocus.insert dev
      { focus := newRaw, revertTo := newRevert, time := f.time } }

/-- Revert a device whose focus is a window of this kind. -/
def revertDevice (reverts : ResourceTable → ResourceId → Bool)
    (dyingSubtree : Option ResourceId) (s : DeviceFocusState) (dev : UInt16) :
    DeviceFocusState :=
  match resolveRawWindowOnly (s.deviceFocus dev).focus with
  | .Window w => if reverts s.resources w then s.doRevert dev w dyingSubtree else s
  | _ => s

/-- The loop over the devices. -/
def revertDevices (s : DeviceFocusState) (reverts : ResourceTable → ResourceId → Bool)
    (dyingSubtree : Option ResourceId) : DeviceFocusState :=
  s.xi1DeviceFocus.keys.foldl (revertDevice reverts dyingSubtree) s

def revertUnviewableFocus (s : DeviceFocusState) : DeviceFocusState :=
  s.revertDevices (fun t w => !t.windowViewable w) none

/-- The tree is still whole when this runs. -/
def revertFocusForDyingSubtree (s : DeviceFocusState) (dyingRoot : ResourceId) :
    DeviceFocusState :=
  if dyingRoot = ROOT_WINDOW then s
  else s.revertDevices (fun t w => t.inSubtree w dyingRoot) (some dyingRoot)

end DeviceFocusState

end X12
