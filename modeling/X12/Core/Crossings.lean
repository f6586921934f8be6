import X12.Core.Server

/-! # Pointer crossings and focus transitions

The EnterNotify and LeaveNotify events for the pointer moving from one window to
another, and the FocusIn and FocusOut events for the keyboard focus doing so, in
the order in which they are sent. -/

namespace X12

def NOTIFY_ANCESTOR : UInt8 := 0
def NOTIFY_VIRTUAL : UInt8 := 1
def NOTIFY_INFERIOR : UInt8 := 2
def NOTIFY_NONLINEAR : UInt8 := 3
def NOTIFY_NONLINEAR_VIRTUAL : UInt8 := 4
def NOTIFY_POINTER : UInt8 := 5
def NOTIFY_POINTER_ROOT : UInt8 := 6
def NOTIFY_DETAIL_NONE : UInt8 := 7

inductive CrossingKind where
  | Enter
  | Leave
  deriving DecidableEq, Repr

structure Crossings.CrossingEvent where
  window : ResourceId
  kind : CrossingKind
  detail : UInt8
  /-- None for the two endpoints, else the next window towards the endpoint
  inside `window`. -/
  child : ResourceId
  deriving DecidableEq, Repr

/-- First entry of `b` that also appears in `a`. -/
def lowestCommonAncestor (a b : List ResourceId) : Option ResourceId :=
  b.find? fun w => a.contains w

/-- The entries of a chain after the first, up to one that stops the walk, each
with the entry before it. -/
def chainSteps (chain : List ResourceId) (stop : ResourceId → Bool) :
    List (ResourceId × ResourceId) :=
  (chain.zip chain.tail).takeWhile fun step => !stop step.2

namespace ServerState

/-- The hops that are left; a window that is its own parent ends the walk. -/
def ancestorsFrom (s : ServerState) : Nat → ResourceId → List ResourceId
  | 0, _ => []
  | hops + 1, current =>
    match s.resources.windows[current]? with
    | none => []
    | some window =>
      if window.parent = current then []
      else window.parent :: s.ancestorsFrom hops window.parent

def ancestorChain (s : ServerState) (start : ResourceId) : List ResourceId :=
  start :: s.ancestorsFrom 256 start

def computeCrossingChain (s : ServerState) (source target : ResourceId) :
    List Crossings.CrossingEvent :=
  if source = target then []
  else
    let fromChain := s.ancestorChain source
    let toChain := s.ancestorChain target
    if fromChain.tail.contains target then
      -- up to an ancestor
      [⟨source, .Leave, NOTIFY_ANCESTOR, 0⟩] ++
        (chainSteps fromChain (· = target)).map
          (fun (child, w) => ⟨w, .Leave, NOTIFY_VIRTUAL, child⟩) ++
        [⟨target, .Enter, NOTIFY_INFERIOR, 0⟩]
    else if toChain.tail.contains source then
      -- down to a descendant
      [⟨source, .Leave, NOTIFY_INFERIOR, 0⟩] ++
        (chainSteps toChain (· = source)).reverse.map
          (fun (child, w) => ⟨w, .Enter, NOTIFY_VIRTUAL, child⟩) ++
        [⟨target, .Enter, NOTIFY_ANCESTOR, 0⟩]
    else
      let common := lowestCommonAncestor fromChain toChain
      [⟨source, .Leave, NOTIFY_NONLINEAR, 0⟩] ++
        (chainSteps fromChain (some · = common)).map
          (fun (child, w) => ⟨w, .Leave, NOTIFY_NONLINEAR_VIRTUAL, child⟩) ++
        (chainSteps toChain (some · = common)).reverse.map
          (fun (child, w) => ⟨w, .Enter, NOTIFY_NONLINEAR_VIRTUAL, child⟩) ++
        [⟨target, .Enter, NOTIFY_NONLINEAR, 0⟩]

/-- The events of a move without a grab. -/
def normalModeCrossings (s : ServerState) (source target : ResourceId) :
    List Crossings.CrossingEvent :=
  s.computeCrossingChain source target

end ServerState

/-! ## Focus transitions -/

structure Crossings.FocusEvent where
  window : ResourceId
  focusIn : Bool
  detail : UInt8
  deriving DecidableEq, Repr

/-- A focus value that is no window: 0 is None and 1 is PointerRoot. -/
def special (r : UInt32) : Bool :=
  r = 0 || r = 1

/-- The detail of the root's event for a focus value that is no window. -/
def rootDetail (r : UInt32) : UInt8 :=
  if r = 1 then NOTIFY_POINTER_ROOT else NOTIFY_DETAIL_NONE

/-- The entries of a chain up to `pwinParent`, which is one of them if `inclusive`. -/
def pointerRun (pwinParent : ResourceId) (inclusive : Bool) : List ResourceId → List ResourceId
  | [] => []
  | w :: chain =>
    if !inclusive && w = pwinParent then []
    else if inclusive && w = pwinParent then [w]
    else w :: pointerRun pwinParent inclusive chain

namespace ServerState

def isAnc (s : ServerState) (a b : ResourceId) : Bool :=
  a ≠ b && (s.ancestorChain b).tail.contains a

/-- The windows strictly between the first of a chain and one that stops the walk. -/
def focusMids (chain : List ResourceId) (stop : ResourceId → Bool) : List ResourceId :=
  chain.tail.takeWhile fun w => !stop w

/-- The FocusOut(NotifyPointer) events from the pointer window `p` up to `pwinParent`. -/
def outPointerRun (s : ServerState) (p pwinParent : ResourceId) (exclude : Option ResourceId)
    (inclusive : Bool) : List Crossings.FocusEvent :=
  if !(s.isAnc pwinParent p || (pwinParent = p && inclusive)) then []
  else if exclude.any fun x => s.isAnc x p || s.isAnc p x then []
  else (pointerRun pwinParent inclusive (s.ancestorChain p)).map (⟨·, false, NOTIFY_POINTER⟩)

/-- The FocusIn(NotifyPointer) events from `pwinParent` down to the pointer window `p`. -/
def inPointerRun (s : ServerState) (p pwinParent : ResourceId) (exclude : Option ResourceId)
    (inclusive : Bool) : List Crossings.FocusEvent :=
  if exclude = some p || (pwinParent ≠ p && !s.isAnc pwinParent p) then []
  else if exclude.any fun x => s.isAnc x p || s.isAnc p x then []
  else (pointerRun pwinParent inclusive (s.ancestorChain p)).reverse.map
    (⟨·, true, NOTIFY_POINTER⟩)

/-- `p` is the deepest window that contains the pointer. -/
def focusTransitionEvents (s : ServerState) (fromRaw toRaw : UInt32) (p : ResourceId) :
    List Crossings.FocusEvent :=
  let root := ROOT_WINDOW
  if fromRaw = toRaw then []
  else
    match special fromRaw, special toRaw with
    -- PointerRoot ↔ None
    | true, true =>
      (if fromRaw = 1 && toRaw ≠ 1 then s.outPointerRun p root none true else []) ++
        [⟨root, false, rootDetail fromRaw⟩] ++
        [⟨root, true, rootDetail toRaw⟩] ++
        (if toRaw = 1 then s.inPointerRun p root none true else [])
    -- window → PointerRoot or None
    | false, true =>
      let a := fromRaw
      s.outPointerRun p a none false ++
        [⟨a, false, NOTIFY_NONLINEAR⟩] ++
        (s.ancestorChain a).tail.map (⟨·, false, NOTIFY_NONLINEAR_VIRTUAL⟩) ++
        [⟨root, true, rootDetail toRaw⟩] ++
        (if toRaw = 1 then s.inPointerRun p root none true else [])
    -- PointerRoot or None → window
    | true, false =>
      let b := toRaw
      (if fromRaw = 1 then s.outPointerRun p root none true else []) ++
        [⟨root, false, rootDetail fromRaw⟩] ++
        (if b ≠ root then
          ⟨root, true, NOTIFY_NONLINEAR_VIRTUAL⟩ ::
            (focusMids (s.ancestorChain b) (· = root)).reverse.map
              (⟨·, true, NOTIFY_NONLINEAR_VIRTUAL⟩)
        else []) ++
        [⟨b, true, NOTIFY_NONLINEAR⟩] ++
        s.inPointerRun p b none false
    -- window → window
    | false, false =>
      let a := fromRaw
      let b := toRaw
      if s.isAnc b a then
        [⟨a, false, NOTIFY_ANCESTOR⟩] ++
          (focusMids (s.ancestorChain a) (· = b)).map (⟨·, false, NOTIFY_VIRTUAL⟩) ++
          [⟨b, true, NOTIFY_INFERIOR⟩] ++
          s.inPointerRun p b (some a) false
      else if s.isAnc a b then
        s.outPointerRun p a (some b) false ++
          [⟨a, false, NOTIFY_INFERIOR⟩] ++
          (focusMids (s.ancestorChain b) (· = a)).reverse.map (⟨·, true, NOTIFY_VIRTUAL⟩) ++
          [⟨b, true, NOTIFY_ANCESTOR⟩]
      else
        let aChain := s.ancestorChain a
        let bChain := s.ancestorChain b
        let common := lowestCommonAncestor aChain bChain
        s.outPointerRun p a none false ++
          [⟨a, false, NOTIFY_NONLINEAR⟩] ++
          (focusMids aChain (some · = common)).map (⟨·, false, NOTIFY_NONLINEAR_VIRTUAL⟩) ++
          (focusMids bChain (some · = common)).reverse.map
            (⟨·, true, NOTIFY_NONLINEAR_VIRTUAL⟩) ++
          [⟨b, true, NOTIFY_NONLINEAR⟩] ++
          s.inPointerRun p b none false

end ServerState

end X12
