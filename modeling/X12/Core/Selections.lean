import X12.Core.Atoms
import X12.Core.Disconnect
import X12.Protocol.Wire

/-! # Selections

A selection is owned by a window, and by the client that the window belongs to. The
entry of a selection has the time of its last acquisition. -/

namespace X12

def SELECTION_NOTIFY_SET_OWNER : UInt8 := 0

/-- What the owner that loses a selection is told. -/
structure SelectionClear where
  target : ClientId
  time : UInt32
  owner : ResourceId
  selection : AtomId
  deriving DecidableEq, Repr

/-- What a subscriber is told. -/
structure XFixesSelectionNotify where
  client : ClientId
  subtype : UInt8
  window : ResourceId
  owner : ResourceId
  selection : AtomId
  timestamp : UInt32
  selectionTimestamp : UInt32
  deriving DecidableEq, Repr

/-- `Handled` when nothing changes and no error is sent. -/
inductive SetSelectionOutcome where
  | Handled
  | BadWindow (window : ResourceId)
  | BadAtom (atom : AtomId)
  | Changed (clear : Option SelectionClear) (notifies : List XFixesSelectionNotify)
  deriving DecidableEq, Repr

namespace ServerState

/-- The window that owns a selection and its client, if that is connected. -/
def selectionOwnerTargetId (s : ServerState) (selection : AtomId) :
    Option (ResourceId × ClientId) := do
  let (ownerWindow, _) ← s.selections[selection]?
  let ownerClient ← s.resources.windowOwner ownerWindow
  if s.clients.contains ownerClient then some (ownerWindow, ownerClient) else none

/-- The reply to GetSelectionOwner, 0 for no owner. -/
def handleGetSelectionOwner (s : ServerState) (body : List UInt8) : ResourceId :=
  if 4 ≤ body.length then (s.selections[u32Le body 0]?.map (·.1)).getD 0 else 0

def fanoutXfixesSelectionNotify (s : ServerState) (selection : AtomId) (subtype : UInt8)
    (ownerWindow : ResourceId) (timestamp selectionTimestamp : UInt32) :
    List XFixesSelectionNotify :=
  let maskBit : UInt32 := 1 <<< subtype.toUInt32
  s.xfixesSelectionMasks.filterMap fun ((client, window, sel), mask) =>
    if sel = selection ∧ mask &&& maskBit ≠ 0 then
      some {
        client := client
        subtype := subtype
        window := window
        owner := ownerWindow
        selection := selection
        timestamp := timestamp
        selectionTimestamp := selectionTimestamp }
    else none

/-- `now` is the server time. -/
def handleSetSelectionOwner (s : ServerState) (atoms : AtomTable) (client : ClientId)
    (body : List UInt8) (now : UInt32) : ServerState × SetSelectionOutcome :=
  if body.length < 8 then (s, .Handled)
  else
    let window : ResourceId := u32Le body 0
    let selection : AtomId := u32Le body 4
    let time := if 12 ≤ body.length then u32Le body 8 else 0
    let resolvedTime := if time = 0 then now else time
    -- in the future
    if time ≠ 0 ∧ now < time then (s, .Handled)
    else if window ≠ 0 ∧ ¬ s.resources.windows.contains window then (s, .BadWindow window)
    else if ¬ atoms.atomExists selection then (s, .BadAtom selection)
    -- stale
    else if s.selections[selection]?.any fun (_, priorLastTime) => resolvedTime < priorLastTime then
      (s, .Handled)
    else
      let old := s.selectionOwnerTargetId selection
      let s := { s with
        selections :=
          if window = 0 then s.selections.erase selection
          else s.selections.insert selection (window, resolvedTime) }
      let clear := old.bind fun (oldWindow, oldTarget) =>
        if window = 0 ∨ oldTarget ≠ client then
          some {
            target := oldTarget
            time := resolvedTime
            owner := oldWindow
            selection := selection }
        else none
      (s, .Changed clear (s.fanoutXfixesSelectionNotify selection SELECTION_NOTIFY_SET_OWNER window
        now resolvedTime))

end ServerState

end X12
