import X12.Core.Present
import X12.Lib.Fifo
import X12.Lib.Stacking

/-! # The queues of presented frames

Whatever is enqueued, picked and drained in whatever order, the frames of a window
leave its queue once and in order, and a pick takes everything up to the last
frame that is due. -/

namespace X12

open Fifo

namespace PresentScheduler

inductive Op where
  | enqueue (frame : QueuedPresent)
  | pickAtVblank (window : ResourceId) (currentMsc : UInt64)
  | drainWindow (window : ResourceId)
  deriving DecidableEq, Repr

/-- The window whose queue an operation works on. -/
def Op.window : Op → ResourceId
  | .enqueue frame => frame.window
  | .pickAtVblank window _ => window
  | .drainWindow window => window

def queue (queues : PresentScheduler) (window : ResourceId) : List QueuedPresent :=
  queues[window]?.getD []

def next (queues : PresentScheduler) : Op → PresentScheduler
  | .enqueue frame => queues.enqueue frame
  | .pickAtVblank window msc => (queues.pickAtVblank window msc).2.2
  | .drainWindow window => (queues.drainWindow window).2

/-- What an operation returns, the skipped frames before the chosen one. -/
def left (queues : PresentScheduler) : Op → List QueuedPresent
  | .enqueue _ => []
  | .pickAtVblank window msc =>
    let (chosen, skipped, _) := queues.pickAtVblank window msc
    skipped ++ chosen.toList
  | .drainWindow window => (queues.drainWindow window).1

def enqueuedTo (window : ResourceId) : List Op → List QueuedPresent
  | [] => []
  | .enqueue frame :: ops =>
    (if frame.window = window then [frame] else []) ++ enqueuedTo window ops
  | _ :: ops => enqueuedTo window ops

/-- What a run returns from the operations on a window. -/
def leftFrom (queues : PresentScheduler) (window : ResourceId) : List Op → List QueuedPresent
  | [] => []
  | op :: ops =>
    (if op.window = window then queues.left op else []) ++ leftFrom (queues.next op) window ops

/-- The queues after a run from the start. -/
def after (ops : List Op) : PresentScheduler :=
  ops.foldl next ∅

variable {queues : PresentScheduler} {window w : ResourceId} {msc : UInt64} {op : Op}
  {q : List QueuedPresent} {frame : QueuedPresent}

/-- The frame that is chosen is the last one that is due. -/
theorem exists_of_chosenIdx {idx : Nat} (h : chosenIdx q msc = some idx) :
    ∃ before frame rest, q = before ++ frame :: rest ∧ before.length = idx ∧
      frame.scheduleSatisfied msc = true ∧ ∀ f ∈ rest, f.scheduleSatisfied msc = false := by
  obtain ⟨⟨frame, i⟩, hfind, rfl⟩ := Option.map_eq_some_iff.mp h
  obtain ⟨lower, upper, hsplit, hdue, hupper⟩ := Stacking.find?_reverse_eq_some_iff.mp hfind
  have hq : q = lower.map Prod.fst ++ frame :: upper.map Prod.fst := by
    have := congrArg (List.map Prod.fst) hsplit
    rwa [List.zipIdx_map_fst, List.map_append, List.map_cons] at this
  have hidx : (lower.map Prod.fst).length = i := by
    have hget : q.zipIdx[lower.length]? = some (frame, i) := by
      rw [hsplit, List.getElem?_append_right (Nat.le_refl _), Nat.sub_self]
      rfl
    rw [List.getElem?_zipIdx] at hget
    obtain ⟨_, -, heq⟩ := Option.map_eq_some_iff.mp hget
    have hsecond := (Prod.mk.inj heq).2
    rw [List.length_map]
    omega
  refine ⟨_, frame, _, hq, hidx, hdue, fun f hf => ?_⟩
  obtain ⟨c, hc, rfl⟩ := List.mem_map.mp hf
  exact Bool.eq_false_iff.mpr (hupper c hc)

theorem not_due_of_chosenIdx (h : chosenIdx q msc = none) :
    ∀ f ∈ q, f.scheduleSatisfied msc = false := by
  intro f hf
  have hnone := List.find?_eq_none.mp (Option.map_eq_none_iff.mp h)
  obtain ⟨i, hi, rfl⟩ := List.mem_iff_getElem.mp hf
  have hmem : (q[i], i) ∈ q.zipIdx.reverse := by
    rw [List.mem_reverse, List.mem_iff_getElem?]
    exact ⟨i, by rw [List.getElem?_zipIdx, List.getElem?_eq_getElem hi]; simp⟩
  exact Bool.eq_false_iff.mpr (hnone _ hmem)

/-! ## One operation -/

/-- A pick takes everything up to the last frame that is due, or nothing. -/
structure Picks (queues : PresentScheduler) (window : ResourceId) (msc : UInt64)
    (result : Option QueuedPresent × List QueuedPresent × PresentScheduler) : Prop where
  due : ∀ frame ∈ result.1, frame.scheduleSatisfied msc = true
  rest : ∀ f ∈ result.2.2.queue window, f.scheduleSatisfied msc = false
  skipped : result.1 = none → result.2.1 = []
  split : queues.queue window = result.2.1 ++ result.1.toList ++ result.2.2.queue window
  others : ∀ w, w ≠ window → result.2.2.queue w = queues.queue w

theorem queue_insert (queues : PresentScheduler) (window : ResourceId) (q : List QueuedPresent)
    (w : ResourceId) :
    queue (queues.insert window q) w = if w = window then q else queues.queue w := by
  simp only [queue, ResourceMap.get_insert]
  split <;> rfl

theorem pickAtVblank_picks (queues : PresentScheduler) (window : ResourceId) (msc : UInt64) :
    queues.Picks window msc (queues.pickAtVblank window msc) := by
  unfold pickAtVblank
  cases hq : queues[window]? with
  | none =>
    have hempty : queues.queue window = [] := by rw [queue, hq]; rfl
    exact {
      due := fun _ hf => (nomatch hf)
      rest := fun f hf => by simp only [hempty, List.not_mem_nil] at hf
      skipped := fun _ => rfl
      split := rfl
      others := fun _ _ => rfl }
  | some q =>
    have hqueue : queues.queue window = q := by rw [queue, hq]; rfl
    cases hidx : chosenIdx q msc with
    | none =>
      simp only [hidx]
      exact {
        due := fun _ hf => (nomatch hf)
        rest := fun f hf => not_due_of_chosenIdx hidx f (by rwa [hqueue] at hf)
        skipped := fun _ => rfl
        split := rfl
        others := fun _ _ => rfl }
    | some idx =>
      obtain ⟨before, frame, rest, rfl, rfl, hdue, hrest⟩ := exists_of_chosenIdx hidx
      simp only [hidx, List.drop_left, List.take_left]
      refine {
        due := fun f hf => ?_
        rest := fun f hf => ?_
        skipped := fun h => (nomatch h)
        split := ?_
        others := fun w hw => ?_ }
      · cases hf
        exact hdue
      · rw [queue_insert, if_pos rfl] at hf
        exact hrest f hf
      · simp [hqueue, queue_insert]
      · rw [queue_insert, if_neg hw]

theorem queue_next_other (queues : PresentScheduler) (op : Op) (hw : w ≠ op.window) :
    (queues.next op).queue w = queues.queue w := by
  cases op with
  | enqueue frame => exact (queue_insert ..).trans (if_neg hw)
  | pickAtVblank window msc => exact (pickAtVblank_picks queues window msc).others w hw
  | drainWindow window =>
    simp only [next, drainWindow]
    cases queues[window]? with
    | none => rfl
    | some q =>
      simp only [queue, ResourceMap.get_erase]
      rw [if_neg (show w ≠ window from hw)]

variable {entered gone : List QueuedPresent}

/-- A frame enters at the back of the queue of its window, and what an operation
returns stood at the front of the queue of its window. -/
theorem conserves_next (h : Conserves entered gone (queues.queue w)) (op : Op) :
    Conserves (entered ++ enqueuedTo w [op])
      (gone ++ if op.window = w then queues.left op else []) ((queues.next op).queue w) := by
  by_cases hw : op.window = w
  · subst hw
    rw [if_pos rfl]
    cases op with
    | enqueue frame =>
      have hqueue : (queues.enqueue frame).queue frame.window =
          queues.queue frame.window ++ [frame] := (queue_insert ..).trans (if_pos rfl)
      simp only [enqueuedTo, Op.window, if_pos, left, next, hqueue, List.append_nil]
      exact h.enter [frame]
    | pickAtVblank window msc =>
      have hpick := pickAtVblank_picks queues window msc
      simp only [enqueuedTo, Op.window, left, next, List.append_nil] at h ⊢
      rw [hpick.split] at h
      exact h.leave
    | drainWindow window =>
      have hdrain : queues.queue window =
          (queues.drainWindow window).1 ++ (queues.drainWindow window).2.queue window := by
        simp only [queue, drainWindow]
        cases hq : queues[window]? with
        | none => simp [hq]
        | some q => simp
      simp only [enqueuedTo, Op.window, left, next, List.append_nil] at h ⊢
      rw [hdrain] at h
      exact h.leave
  · have hentered : enqueuedTo w [op] = [] := by
      cases op with
      | enqueue frame => exact congrArg (· ++ []) (if_neg hw)
      | pickAtVblank => rfl
      | drainWindow => rfl
    rw [if_neg hw, hentered, List.append_nil, List.append_nil,
      queue_next_other queues op (Ne.symm hw)]
    exact h

/-! ## Runs -/

theorem enqueuedTo_cons (op : Op) (ops : List Op) :
    enqueuedTo w (op :: ops) = enqueuedTo w [op] ++ enqueuedTo w ops := by
  cases op <;> simp [enqueuedTo]

theorem conserves_foldl (h : Conserves entered gone (queues.queue w)) (ops : List Op) :
    Conserves (entered ++ enqueuedTo w ops) (gone ++ leftFrom queues w ops)
      (queue (ops.foldl next queues) w) := by
  induction ops generalizing queues entered gone with
  | nil => simpa [enqueuedTo, leftFrom] using h
  | cons op ops ih =>
    rw [enqueuedTo_cons, leftFrom, ← List.append_assoc, ← List.append_assoc]
    exact ih (conserves_next h op)

/-- After any run the frames of a window that have left and those still queued
are those enqueued to it, in order. An operation leaves the queues of other
windows alone, and a pick takes everything up to the last frame that is due. -/
theorem after_conserves (ops : List Op) (w : ResourceId) :
    Conserves (enqueuedTo w ops) (leftFrom ∅ w ops) ((after ops).queue w) ∧
      (∀ op : Op, w ≠ op.window → ((after ops).next op).queue w = (after ops).queue w) ∧
      ∀ msc, (after ops).Picks w msc ((after ops).pickAtVblank w msc) := by
  refine ⟨?_, fun op => queue_next_other _ op, pickAtVblank_picks _ w⟩
  have hstart : Conserves [] [] (queue ∅ w) := by simpa [queue] using Conserves.nil
  exact conserves_foldl hstart ops

end PresentScheduler

end X12
