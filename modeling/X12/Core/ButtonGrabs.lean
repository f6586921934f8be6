import X12.Core.Create
import X12.Core.InputFreeze

/-! # Passive grabs of pointer buttons

The core requests that make and release them, and the search that a button
press makes. A request is given by its parsed fields. -/

namespace X12

def POINTER_GRAB_MASK : UInt32 := 0x7FFC
def ANY_BUTTON : UInt8 := 0
def ANY_MODIFIER : UInt16 := 0x8000
def ALL_MODIFIERS_MASK : UInt16 := 0x00FF

structure GrabButtonRequest where
  ownerEvents : UInt8
  grabWindow : ResourceId
  eventMask : UInt16
  pointerMode : UInt8
  keyboardMode : UInt8
  confineTo : ResourceId
  cursor : ResourceId
  button : UInt8
  modifiers : UInt16
  deriving DecidableEq, Repr

structure UngrabButtonRequest where
  button : UInt8
  grabWindow : ResourceId
  modifiers : UInt16
  deriving DecidableEq, Repr

def GrabButtonRequest.grab (request : GrabButtonRequest) (client : ClientId) :
    PassiveButtonGrab where
  owner := client
  grabWindow := request.grabWindow
  button := request.button
  modifiers := request.modifiers
  ownerEvents := request.ownerEvents ≠ 0
  eventMask := request.eventMask.toUInt32
  pointerMode := request.pointerMode
  keyboardMode := request.keyboardMode
  confineTo := request.confineTo
  viaXi2 := false

namespace PassiveButtonGrab

/-- The grab of another client that a new one would override. -/
def conflicts (g : PassiveButtonGrab) (client : ClientId) (request : GrabButtonRequest) : Bool :=
  g.grabWindow = request.grabWindow && g.owner ≠ client && !g.viaXi2 &&
    (g.button = request.button || g.button = ANY_BUTTON || request.button = ANY_BUTTON) &&
    (g.modifiers = request.modifiers || g.modifiers = ANY_MODIFIER ||
      request.modifiers = ANY_MODIFIER)

def replacedBy (g : PassiveButtonGrab) (client : ClientId) (request : GrabButtonRequest) : Bool :=
  g.owner = client && g.grabWindow = request.grabWindow && g.button = request.button &&
    g.modifiers = request.modifiers

def releasedBy (g : PassiveButtonGrab) (client : ClientId) (request : UngrabButtonRequest) :
    Bool :=
  g.owner = client && g.grabWindow = request.grabWindow &&
    (g.button = request.button || request.button = ANY_BUTTON) &&
    (g.modifiers = request.modifiers || request.modifiers = ANY_MODIFIER)

end PassiveButtonGrab

def badModifiers (modifiers : UInt16) : Bool :=
  modifiers ≠ ANY_MODIFIER && modifiers &&& ~~~ALL_MODIFIERS_MASK ≠ 0

namespace ServerState

/-- The checks of `handle_grab_button`, in their order. -/
def grabButtonRefusal (s : ServerState) (client : ClientId) (request : GrabButtonRequest) :
    Option Refusal :=
  if request.pointerMode > 1 then
    emitX11Error BAD_VALUE request.pointerMode.toUInt32 28
  else if request.keyboardMode > 1 then
    emitX11Error BAD_VALUE request.keyboardMode.toUInt32 28
  else if badModifiers request.modifiers then
    emitX11Error BAD_VALUE request.modifiers.toUInt32 28
  else if request.ownerEvents > 1 then
    emitX11Error BAD_VALUE request.ownerEvents.toUInt32 28
  else if request.eventMask.toUInt32 &&& ~~~POINTER_GRAB_MASK ≠ 0 then
    emitX11Error BAD_VALUE request.eventMask.toUInt32 28
  else if !s.resources.windows.contains request.grabWindow then
    emitX11Error BAD_WINDOW request.grabWindow 28
  else if request.confineTo ≠ 0 && !s.resources.windows.contains request.confineTo then
    emitX11Error BAD_WINDOW request.confineTo 28
  else if request.cursor ≠ 0 && !s.resources.cursors.contains request.cursor then
    emitX11Error BAD_CURSOR request.cursor 28
  else if s.buttonGrabs.any (·.conflicts client request) then
    emitX11Error BAD_ACCESS 0 28
  else none

def handleGrabButton (s : ServerState) (client : ClientId) (request : GrabButtonRequest) :
    ServerState × Option Refusal :=
  match s.grabButtonRefusal client request with
  | some refusal => (s, some refusal)
  | none =>
    let kept := s.buttonGrabs.filter fun g => !g.replacedBy client request
    ({ s with buttonGrabs := kept ++ [request.grab client] }, none)

/-- The checks of `handle_ungrab_button`, in their order. -/
def ungrabButtonRefusal (s : ServerState) (request : UngrabButtonRequest) : Option Refusal :=
  if badModifiers request.modifiers then
    emitX11Error BAD_VALUE request.modifiers.toUInt32 29
  else if !s.resources.windows.contains request.grabWindow then
    emitX11Error BAD_WINDOW request.grabWindow 29
  else none

def handleUngrabButton (s : ServerState) (client : ClientId) (request : UngrabButtonRequest) :
    ServerState × Option Refusal :=
  match s.ungrabButtonRefusal request with
  | some refusal => (s, some refusal)
  | none =>
    ({ s with buttonGrabs := s.buttonGrabs.filter fun g => !g.releasedBy client request }, none)

end ServerState

/-- A button press matches the grab. The grab is not activated while the window
that confines the pointer is not viewable. -/
def PassiveButtonGrab.matchesPress (g : PassiveButtonGrab) (t : ResourceTable) (button : UInt8)
    (stateMask : UInt16) : Bool :=
  (g.button = ANY_BUTTON || g.button = button) &&
    (g.modifiers = ANY_MODIFIER || g.modifiers = stateMask &&& ALL_MODIFIERS_MASK) &&
    (g.confineTo = 0 || t.isViewable g.confineTo)

namespace ServerState

/-- Bit `n - 1` of `buttonsDown` is set while button `n` is down. The windows are
searched from the root down. -/
def findPassiveGrab (s : ServerState) (buttonsDown : UInt16) (window : ResourceId)
    (button : UInt8) (stateMask : UInt16) : Option PassiveButtonGrab :=
  if button ≥ 1 ∧ buttonsDown &&& ~~~((1 : UInt16) <<< (button - 1).toUInt16) ≠ 0 then none
  else
    (s.resources.parentChain (fun _ => false) 256 window).reverse.findSome? fun current =>
      s.buttonGrabs.find? fun g =>
        g.grabWindow = current && g.matchesPress s.resources button stateMask

end ServerState

end X12
