import X12.Core.DrawableStore

/-! # Scanout buffers

A frame is rendered into a free buffer, and KMS is asked to flip to it. The buffer is
pending until the flip has completed, then on screen until the next one has. `none` is an
assertion that fails. -/

namespace X12

inductive BoPhase where
  | Free
  | Recording
  | Submitted
  | Pending
  | OnScreen
  | Retiring
  deriving DecidableEq, Repr

structure BoState where
  phase : BoPhase
  inFenceFd : Option Int
  releaseFenceFd : Option Int
  deriving DecidableEq, Repr

namespace BoState

def default : BoState := ⟨.Free, none, none⟩

def transitionToRecording (s : BoState) : Option BoState :=
  if s.phase = .Free then some { s with phase := .Recording } else none

def transitionToSubmitted (s : BoState) (inFenceFd : Int) : Option BoState :=
  if s.phase = .Recording then
    some { s with
      phase := .Submitted
      inFenceFd := if 0 ≤ inFenceFd then some inFenceFd else none }
  else none

/-- KMS has accepted the flip. The fence that it has waited for is returned. -/
def transitionToPending (s : BoState) (outFenceFd : Int) : Option (BoState × Option Int) :=
  if s.phase = .Submitted then
    some ({ s with
      phase := .Pending
      inFenceFd := none
      releaseFenceFd := if 0 ≤ outFenceFd then some outFenceFd else none }, s.inFenceFd)
  else none

def transitionToRecordingAfterAtomicReject (s : BoState) : Option (BoState × Option Int) :=
  if s.phase = .Submitted then
    some ({ s with phase := .Recording, inFenceFd := none }, s.inFenceFd)
  else none

def transitionToOnScreen (s : BoState) : Option BoState :=
  if s.phase = .Pending then some { s with phase := .OnScreen } else none

def transitionToRetiring (s : BoState) : Option BoState :=
  if s.phase = .OnScreen then some { s with phase := .Retiring } else none

def transitionToFreeAfterRetire (s : BoState) : Option (BoState × Option Int) :=
  if s.phase = .Retiring then
    some ({ s with phase := .Free, releaseFenceFd := none }, s.releaseFenceFd)
  else none

/-- The fences are returned, the one of the rendering first. -/
def transitionToFreeAfterModesetReset (s : BoState) : BoState × Option Int × Option Int :=
  (default, s.inFenceFd, s.releaseFenceFd)

end BoState

structure ScanoutBo where
  state : BoState
  fbHandle : Option UInt32
  deriving DecidableEq, Repr

structure BoGenerationEntry where
  lastPresentGeneration : Option Nat
  contentInvalidated : Bool
  deriving DecidableEq, Repr

structure ScanoutBoToken where
  boIdx : Nat
  lastPresentGeneration : Option Nat
  contentInvalidated : Bool
  deriving DecidableEq, Repr

structure PageFlipRetirement where
  retiredBoIdx : Option Nat
  presentedBoIdx : Nat
  deriving DecidableEq, Repr

/-- The buffers of one output. -/
structure ScanoutPool where
  bos : List ScanoutBo
  generations : List BoGenerationEntry
  deriving DecidableEq, Repr

namespace ScanoutPool

def setState (p : ScanoutPool) (i : Nat) (s : BoState) : ScanoutPool :=
  { p with bos := p.bos.modify i fun bo => { bo with state := s } }

/-- The first free buffer. -/
def acquireScanoutBo (p : ScanoutPool) : Option ScanoutBoToken := do
  let i ← p.bos.findIdx? fun bo => bo.state.phase = .Free
  let entry := (p.generations[i]?).getD ⟨none, false⟩
  return ⟨i, entry.lastPresentGeneration, entry.contentInvalidated⟩

def invalidateBo (p : ScanoutPool) (i : Nat) : ScanoutPool :=
  { p with generations := p.generations.modify i fun _ => ⟨none, true⟩ }

def recycleFailedSubmitBo (p : ScanoutPool) (i : Nat) : ScanoutPool :=
  p.setState i .default

/-- All buffers are freed. The fences that they had are returned. -/
def resetForSuspend (p : ScanoutPool) : ScanoutPool × List Int :=
  let released := p.bos.map (·.state.transitionToFreeAfterModesetReset)
  ({ bos := p.bos.map fun bo => { bo with state := bo.state.transitionToFreeAfterModesetReset.1 }
     generations := p.generations.map fun _ => ⟨none, true⟩ },
    released.flatMap fun r => r.2.1.toList ++ r.2.2.toList)

def findFlipStep (found : Option Nat × Option Nat) (bo : ScanoutBo × Nat) :
    Option Nat × Option Nat :=
  match bo.1.state.phase with
  | .Pending => (found.1.or (some bo.2), found.2)
  | .OnScreen => (found.1, some bo.2)
  | _ => found

/-- The first pending buffer and the last that is on screen. -/
def findFlip (p : ScanoutPool) : Option Nat × Option Nat :=
  p.bos.zipIdx.foldl findFlipStep (none, none)

/-- The buffer is no longer on screen. The fence of its release is returned. -/
def retire (p : ScanoutPool) (i : Nat) : Option (ScanoutPool × Option Int) := do
  let bo ← p.bos[i]?
  let retiring ← bo.state.transitionToRetiring
  let (freed, released) ← retiring.transitionToFreeAfterRetire
  return (p.setState i freed, released)

def present (p : ScanoutPool) (i : Nat) : Option ScanoutPool := do
  let bo ← p.bos[i]?
  return p.setState i (← bo.state.transitionToOnScreen)

/-- Nothing happens where no buffer is pending. The fences to close are returned. -/
def onPageFlipComplete (p : ScanoutPool) :
    Option (ScanoutPool × Option PageFlipRetirement × List Int) :=
  match p.findFlip with
  | (none, _) => some (p, none, [])
  | (some presented, none) => do
    return (← p.present presented, some ⟨none, presented⟩, [])
  | (some presented, some prev) => do
    let (p, released) ← p.retire prev
    return (← p.present presented, some ⟨some prev, presented⟩, released.toList)

def commitBoPresent (p : ScanoutPool) (i generation : Nat) : ScanoutPool :=
  { p with generations := p.generations.modify i fun _ => ⟨some generation, false⟩ }

/-- The buffer whose framebuffer a modeset commits: the one on screen, or the first that has a
framebuffer. -/
def modesetBo (p : ScanoutPool) : Option Nat :=
  let onScreen := p.bos.findIdx? fun bo => bo.state.phase = .OnScreen
  (onScreen.filter fun i => p.bos[i]?.any (·.fbHandle.isSome)).or
    (p.bos.findIdx? (·.fbHandle.isSome))

end ScanoutPool

/-! ## Descriptor pools -/

def RING_LEN : Nat := 3

structure SlotTracker where
  inUse : List Bool
  deriving DecidableEq, Repr

namespace SlotTracker

def new : SlotTracker := ⟨List.replicate RING_LEN false⟩

def acquire (t : SlotTracker) : Option (SlotTracker × Nat) := do
  let i ← t.inUse.findIdx? (!·)
  return (⟨t.inUse.set i true⟩, i)

def release (t : SlotTracker) (slot : Nat) : Option SlotTracker :=
  if t.inUse[slot]? = some true then some ⟨t.inUse.set slot false⟩ else none

end SlotTracker

end X12
