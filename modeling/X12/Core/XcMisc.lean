import X12.Core.Server

/-! # XC-MISC

A client that has used up its ids asks for a range of its ids that are free again. -/

namespace X12

namespace ResourceTable

/-- `(id & !mask) == base` -/
def inRange (base mask id : UInt32) : Bool :=
  id &&& ~~~mask = base

def collectXidsIn (t : ResourceTable) (base mask : UInt32) : List UInt32 :=
  t.windows.keys.filter (inRange base mask) ++ t.pixmaps.keys.filter (inRange base mask) ++
    t.gcs.keys.filter (inRange base mask) ++ t.fonts.keys.filter (inRange base mask) ++
    t.cursors.keys.filter (inRange base mask) ++ t.colormaps.keys.filter (inRange base mask) ++
    t.pictures.keys.filter (inRange base mask) ++ t.glyphsets.keys.filter (inRange base mask)

end ResourceTable

/-- `Vec::dedup`: of equal neighbours the first stays. -/
def dedup : List UInt32 → List UInt32
  | [] => []
  | [id] => [id]
  | id :: next :: ids => if id = next then dedup (next :: ids) else id :: dedup (next :: ids)

namespace ServerState

open ResourceTable in
/-- The ids that are in use, sorted and without repetitions. -/
def usedXidsIn (s : ServerState) (base mask : UInt32) : List UInt32 :=
  let out := s.resources.collectXidsIn base mask ++
    s.xfixesRegions.keys.filter (inRange base mask) ++
    s.syncCounters.keys.filter (inRange base mask) ++
    s.syncAlarms.keys.filter (inRange base mask) ++
    s.syncFences.keys.filter (inRange base mask) ++
    s.damageObjects.keys.filter (inRange base mask) ++
    s.mitShmSegments.keys.filter (inRange base mask) ++
    s.glxContexts.keys.filter (inRange base mask) ++
    s.glxDrawables.keys.filter (inRange base mask) ++
    s.presentEventSelections.keys.filter (inRange base mask)
  dedup (out.insertionSort (· ≤ ·))

end ServerState

/-! ## The largest gap -/

/-- `u32::saturating_add(1)` -/
def saturatingSucc (u : Nat) : Nat :=
  min (u + 1) (2 ^ 32 - 1)

structure GapScan where
  cursor : Nat
  bestStart : Nat
  bestLen : Nat
  deriving DecidableEq, Repr

/-- The run up to `stop`, if it is longer than the best one. -/
def GapScan.consider (g : GapScan) (stop : Nat) : GapScan :=
  if g.bestLen < stop - g.cursor then
    { g with bestStart := g.cursor, bestLen := stop - g.cursor }
  else g

/-- The scan goes past a used id. -/
def GapScan.pass (g : GapScan) (u : Nat) : GapScan :=
  let best := if u > g.cursor then g.consider u else g
  { best with cursor := max g.cursor (saturatingSucc u) }

def gapLoop (lo hi : Nat) : List UInt32 → GapScan → GapScan
  | [], g => g
  | u :: used, g =>
    let u := u.toNat
    if u < lo then gapLoop lo hi used g
    else if u > hi then g
    else gapLoop lo hi used (g.pass u)

/-- The first id and the length of the longest run of ids that are not among the used ones.
The exhausted range is the run of the one id 0. -/
def largestFreeXidGap (base mask : UInt32) (usedSorted : List UInt32) : UInt32 × UInt32 :=
  let lo := max base.toNat 1
  let hi := (base ||| mask).toNat
  let g := gapLoop lo hi usedSorted ⟨lo, 0, 0⟩
  let g := if g.cursor ≤ hi then g.consider (hi + 1) else g
  if g.bestLen = 0 then (0, 1)
  else (UInt32.ofNat g.bestStart, UInt32.ofNat g.bestLen)

/-- The range that GetXIDRange replies with, for a client that is still there. -/
def ServerState.getXidRange (s : ServerState) (client : ClientId) : Option (UInt32 × UInt32) :=
  s.clients[client]?.map fun c =>
    largestFreeXidGap c.resourceIdBase c.resourceIdMask
      (s.usedXidsIn c.resourceIdBase c.resourceIdMask)

end X12
