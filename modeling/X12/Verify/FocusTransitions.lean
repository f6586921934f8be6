import X12.Verify.Crossings

/-! # Focus transitions

Between two windows the focus passes the same windows as the pointer would, and
the pointer runs stand around these events. The way back is the same list read
from the other end, except that the two kinds of run treat the pointer in the
window that they exclude differently. -/

namespace X12

open Forest

namespace Crossings.FocusEvent

/-- The same event of the way back. -/
def exchanged (e : Crossings.FocusEvent) : Crossings.FocusEvent :=
  { e with focusIn := !e.focusIn }

/-- The focus event in the place of a crossing event. -/
def ofCrossing (e : Crossings.CrossingEvent) : Crossings.FocusEvent :=
  ⟨e.window, e.kind = .Enter, e.detail⟩

end Crossings.FocusEvent

open Crossings.FocusEvent

/-- The events of the way back. -/
def mirrored (events : List Crossings.FocusEvent) : List Crossings.FocusEvent :=
  (events.map exchanged).reverse

/-- `p` lies strictly below `a`. -/
def ResourceTable.InferiorOf (t : ResourceTable) (p a : ResourceId) : Prop :=
  t.links.Below a p ∧ p ≠ a

namespace ServerState

/-- A transition and the one back. -/
structure FocusExact (s : ServerState) (f g : UInt32) (p : ResourceId) : Prop where
  mirror : s.focusTransitionEvents g f p = mirrored (s.focusTransitionEvents f g p)
  pointer : ∀ {a b : ResourceId}, special a = false → special b = false →
    (f = a ∧ g = b ∨ f = b ∧ g = a) → s.resources.InferiorOf b a →
    ∀ e ∈ s.focusTransitionEvents f g p, e.detail = NOTIFY_POINTER →
      s.resources.InferiorOf p a ∧ p ≠ b ∧ ¬ s.resources.InferiorOf p b ∧
        ¬ s.resources.InferiorOf b p

/-- The focus moves between a window and the inferior of it that contains the pointer. -/
def PointerAtInferior (s : ServerState) (f g : UInt32) (p : ResourceId) : Prop :=
  special f = false ∧ special g = false ∧
    (p = g ∧ s.resources.InferiorOf g f ∨ p = f ∧ s.resources.InferiorOf f g)

end ServerState

section

variable {events events' : List Crossings.FocusEvent} {e : Crossings.FocusEvent}

@[simp] theorem mirrored_nil : mirrored [] = [] :=
  rfl

@[simp] theorem mirrored_append :
    mirrored (events ++ events') = mirrored events' ++ mirrored events := by
  simp [mirrored]

@[simp] theorem mirrored_cons : mirrored (e :: events) = mirrored events ++ [exchanged e] := by
  simp [mirrored]

@[simp] theorem length_mirrored : (mirrored events).length = events.length := by
  simp [mirrored]

@[simp] theorem mirrored_mirrored : mirrored (mirrored events) = events := by
  simp [mirrored, exchanged, Function.comp_def]

theorem mirrored_map_mk (l : List ResourceId) (focusIn : Bool) (detail : UInt8) :
    mirrored (l.map (⟨·, focusIn, detail⟩)) = l.reverse.map (⟨·, !focusIn, detail⟩) := by
  simp [mirrored, exchanged, Function.comp_def]

theorem mirrored_map_ofCrossing (crossings : List Crossings.CrossingEvent) :
    mirrored (crossings.map ofCrossing) =
      ((crossings.map Crossings.CrossingEvent.exchanged).reverse).map ofCrossing := by
  have hexchanged : ∀ e : Crossings.CrossingEvent,
      exchanged (ofCrossing e) = ofCrossing e.exchanged := fun e => by
    obtain ⟨window, kind, detail, child⟩ := e
    cases kind <;> rfl
  simp [mirrored, Function.comp_def, hexchanged]

end

/-! ## The windows in between -/

theorem map_snd_chainSteps (chain : List ResourceId) (stop : ResourceId → Bool) :
    (chainSteps chain stop).map Prod.snd = ServerState.focusMids chain stop := by
  have hsnd : (chain.zip chain.tail).map Prod.snd = chain.tail :=
    List.map_snd_zip (by simp)
  rw [ServerState.focusMids, ← hsnd, List.takeWhile_map]
  rfl

theorem map_ofCrossing_chainSteps (chain : List ResourceId) (stop : ResourceId → Bool)
    (kind : CrossingKind) (detail : UInt8) :
    ((chainSteps chain stop).map fun (child, w) =>
        (⟨w, kind, detail, child⟩ : Crossings.CrossingEvent)).map ofCrossing =
      (ServerState.focusMids chain stop).map (⟨·, kind = .Enter, detail⟩) := by
  rw [← map_snd_chainSteps, List.map_map, List.map_map]
  rfl

theorem map_ofCrossing_chainSteps_reverse (chain : List ResourceId) (stop : ResourceId → Bool)
    (kind : CrossingKind) (detail : UInt8) :
    ((chainSteps chain stop).reverse.map fun (child, w) =>
        (⟨w, kind, detail, child⟩ : Crossings.CrossingEvent)).map ofCrossing =
      (ServerState.focusMids chain stop).reverse.map (⟨·, kind = .Enter, detail⟩) := by
  rw [List.map_reverse, List.map_reverse, map_ofCrossing_chainSteps, List.map_reverse]

theorem detail_sideEvents {kind : CrossingKind} {endpoint : ResourceId}
    {path other : List ResourceId} {e : Crossings.CrossingEvent}
    (he : e ∈ sideEvents kind endpoint path other) : e.detail ≠ NOTIFY_POINTER := by
  cases path with
  | nil =>
    rw [List.mem_singleton.mp he]
    exact (by decide : NOTIFY_INFERIOR ≠ NOTIFY_POINTER)
  | cons w rest =>
    rcases List.mem_cons.mp he with rfl | he
    · dsimp only
      split <;> decide
    · obtain ⟨_, -, rfl⟩ := List.mem_map.mp he
      dsimp only
      split <;> decide

namespace ServerState

variable {s : ServerState} {a b f g p w : ResourceId} {l : List ResourceId}
  {exclude : Option ResourceId} {inclusive : Bool} {e : Crossings.FocusEvent}

/-! ## Pointer runs -/

theorem isAnc_self : s.isAnc a a = false := by
  simp [isAnc]

theorem isAnc_iff (h : s.resources.TreeWellFormed) (hl : s.resources.links.Chain ROOT_WINDOW b l)
    (hlen : l.length ≤ 257) : s.isAnc a b = true ↔ s.resources.InferiorOf b a := by
  rw [isAnc, ancestorChain_eq h hl hlen, Bool.and_eq_true, decide_eq_true_iff,
    List.contains_iff_mem, ResourceTable.InferiorOf, ← h.mem_chain_iff hl, and_comm]
  obtain ⟨rest, rfl⟩ := hl.head_eq
  constructor
  · exact fun ⟨hmem, hne⟩ => ⟨List.mem_cons_of_mem b hmem, hne.symm⟩
  · exact fun ⟨hmem, hne⟩ => ⟨(List.mem_cons.mp hmem).resolve_left hne.symm, hne.symm⟩

theorem pointerRun_self : pointerRun p false (s.ancestorChain p) = [] := by
  simp [ancestorChain, pointerRun]

theorem mem_outPointerRun (he : e ∈ s.outPointerRun p w exclude false) :
    e.detail = NOTIFY_POINTER ∧ s.isAnc w p = true ∧
      ∀ x ∈ exclude, s.isAnc x p = false ∧ s.isAnc p x = false := by
  unfold outPointerRun at he
  split at he
  next => exact nomatch he
  next hanc =>
    split at he
    next => exact nomatch he
    next hexclude =>
      obtain ⟨_, -, rfl⟩ := List.mem_map.mp he
      refine ⟨rfl, by simpa using hanc, ?_⟩
      rintro x rfl
      simpa using hexclude

/-- The two kinds of run differ only for the pointer in the excluded window. -/
theorem inPointerRun_eq (hexclude : exclude ≠ some p) :
    s.inPointerRun p w exclude inclusive = mirrored (s.outPointerRun p w exclude inclusive) := by
  by_cases hany : (exclude.any fun x => s.isAnc x p || s.isAnc p x) = true
  · simp [inPointerRun, outPointerRun, hany]
  · by_cases hanc : s.isAnc w p = true
    · simp [inPointerRun, outPointerRun, hany, hanc, hexclude, mirrored_map_mk]
    · by_cases hw : w = p
      · subst hw
        cases inclusive with
        | false => simp [inPointerRun, outPointerRun, hanc, pointerRun_self]
        | true => simp [inPointerRun, outPointerRun, hany, hanc, hexclude, mirrored_map_mk]
      · simp [inPointerRun, outPointerRun, hanc, hw]

theorem inPointerRun_excluded : s.inPointerRun p w (some p) inclusive = [] := by
  simp [inPointerRun]

theorem outPointerRun_excluded (hanc : s.isAnc w p = true) :
    s.outPointerRun p w (some p) false ≠ [] := by
  have hne : p ≠ w := by
    rintro rfl
    rw [isAnc_self] at hanc
    cases hanc
  simp [outPointerRun, hanc, isAnc_self, ancestorChain, pointerRun, hne]

/-! ## Between two windows -/

/-- The pointer run at the start of a transition between two windows. -/
def outRun (s : ServerState) (p a b : ResourceId) : List Crossings.FocusEvent :=
  if s.isAnc b a then []
  else s.outPointerRun p a (if s.isAnc a b then some b else none) false

/-- The pointer run at the end of a transition between two windows. -/
def inRun (s : ServerState) (p a b : ResourceId) : List Crossings.FocusEvent :=
  if s.isAnc b a then s.inPointerRun p b (some a) false
  else if s.isAnc a b then []
  else s.inPointerRun p b none false

/-- The focus passes the windows that the pointer would. -/
theorem focusTransitionEvents_windows (ha : special a = false) (hb : special b = false)
    (hne : a ≠ b) : s.focusTransitionEvents a b p =
      s.outRun p a b ++ (s.computeCrossingChain a b).map ofCrossing ++ s.inRun p a b := by
  have hanc : s.isAnc b a = (s.ancestorChain a).tail.contains b := by
    simp [isAnc, hne.symm]
  have hanc' : s.isAnc a b = (s.ancestorChain b).tail.contains a := by
    simp [isAnc, hne]
  unfold focusTransitionEvents computeCrossingChain outRun inRun
  simp only [if_neg hne, ha, hb, ← hanc, ← hanc']
  by_cases hup : s.isAnc b a = true
  · simp only [hup, if_true, List.map_append, List.map_cons, List.map_nil,
      map_ofCrossing_chainSteps, List.nil_append]
    rfl
  · by_cases hdown : s.isAnc a b = true
    · simp only [hup, hdown, if_false, if_true, Bool.false_eq_true, List.map_append,
        List.map_cons, List.map_nil, map_ofCrossing_chainSteps_reverse, List.append_nil,
        List.append_assoc]
      rfl
    · simp only [hup, hdown, if_false, Bool.false_eq_true, List.map_append, List.map_cons,
        List.map_nil, map_ofCrossing_chainSteps, map_ofCrossing_chainSteps_reverse,
        List.append_assoc]
      rfl

/-- The run at the end of the way back is the one at the start of the way there. -/
theorem inRun_eq (hasymm : ¬ (s.isAnc a b = true ∧ s.isAnc b a = true))
    (hp : s.isAnc a b = true → p ≠ b) : s.inRun p b a = mirrored (s.outRun p a b) := by
  unfold inRun outRun
  by_cases hdown : s.isAnc a b = true
  · have hup : s.isAnc b a = false := Bool.eq_false_iff.mpr fun hup => hasymm ⟨hdown, hup⟩
    have hne : some b ≠ some p := fun heq => hp hdown (Option.some.inj heq).symm
    simp only [hdown, hup, if_true, if_false, Bool.false_eq_true]
    exact inPointerRun_eq hne
  · by_cases hup : s.isAnc b a = true
    · simp only [hup, hdown, if_true, if_false, Bool.false_eq_true, mirrored_nil]
    · simp only [hup, hdown, if_false, Bool.false_eq_true]
      exact inPointerRun_eq (Option.some_ne_none p).symm

/-- Where the pointer is in the inferior, the way there has a run and the way back has none. -/
theorem inRun_inferior (hasymm : ¬ (s.isAnc a b = true ∧ s.isAnc b a = true))
    (hanc : s.isAnc a b = true) : s.outRun b a b ≠ [] ∧ s.inRun b a b = [] ∧
      s.outRun b b a = [] ∧ s.inRun b b a = [] := by
  have hup : s.isAnc b a = false := Bool.eq_false_iff.mpr fun hup => hasymm ⟨hanc, hup⟩
  unfold inRun outRun
  simp only [hanc, hup, if_true, if_false, Bool.false_eq_true]
  exact ⟨outPointerRun_excluded hanc, trivial, trivial, inPointerRun_excluded⟩

section

variable (ha : special a = false) (hb : special b = false) (hne : a ≠ b)
  (hasymm : ¬ (s.isAnc a b = true ∧ s.isAnc b a = true))
  (hcrossings : s.computeCrossingChain b a =
    ((s.computeCrossingChain a b).map Crossings.CrossingEvent.exchanged).reverse)

include ha hb hne hasymm hcrossings

theorem mirror_windows (hdown : s.isAnc a b = true → p ≠ b) (hup : s.isAnc b a = true → p ≠ a) :
    s.focusTransitionEvents b a p = mirrored (s.focusTransitionEvents a b p) := by
  have hasymm' : ¬ (s.isAnc b a = true ∧ s.isAnc a b = true) := fun h => hasymm h.symm
  rw [focusTransitionEvents_windows ha hb hne, focusTransitionEvents_windows hb ha hne.symm,
    mirrored_append, mirrored_append, mirrored_map_ofCrossing, ← hcrossings,
    inRun_eq hasymm hdown, inRun_eq hasymm' hup, mirrored_mirrored, List.append_assoc]

theorem not_mirror_windows (hanc : s.isAnc a b = true) :
    s.focusTransitionEvents b a b ≠ mirrored (s.focusTransitionEvents a b b) := by
  intro h
  obtain ⟨hout, hin, hout', hin'⟩ := inRun_inferior hasymm hanc
  have hlength := congrArg List.length h
  rw [focusTransitionEvents_windows ha hb hne, focusTransitionEvents_windows hb ha hne.symm,
    hin, hin', hout', hcrossings] at hlength
  have hpos := List.length_pos_iff.mpr hout
  simp only [List.length_append, List.length_map, List.length_reverse, length_mirrored,
    List.length_nil] at hlength
  omega

end

/-! ## Between a window and None or PointerRoot -/

theorem mirror_special (hf : special f = true) (hg : special g = true) (hne : f ≠ g) :
    s.focusTransitionEvents g f p = mirrored (s.focusTransitionEvents f g p) := by
  have hrun : s.inPointerRun p ROOT_WINDOW none true =
      mirrored (s.outPointerRun p ROOT_WINDOW none true) :=
    inPointerRun_eq (Option.some_ne_none p).symm
  unfold focusTransitionEvents
  simp only [if_neg hne, if_neg hne.symm, hf, hg, hrun]
  by_cases hf1 : f = 1
  · subst hf1
    simp [hne.symm, exchanged]
  · by_cases hg1 : g = 1
    · subst hg1
      simp [hf1, exchanged]
    · simp [hf1, hg1, exchanged]

/-- Above a window there are the windows in between and the root. -/
theorem tail_of_chain (hl : s.resources.links.Chain ROOT_WINDOW a l) :
    l.tail = if a ≠ ROOT_WINDOW then focusMids l (· = ROOT_WINDOW) ++ [ROOT_WINDOW] else [] := by
  cases hl with
  | root => rfl
  | step below _ rest =>
    rw [if_pos below, focusMids]
    simpa using rest.takeWhile_ne

theorem mirror_window_special (ha : special a = false) (hg : special g = true)
    (hl : s.resources.links.Chain ROOT_WINDOW a (s.ancestorChain a)) :
    s.focusTransitionEvents g a p = mirrored (s.focusTransitionEvents a g p) := by
  have hne : a ≠ g := by
    rintro rfl
    rw [ha] at hg
    cases hg
  have hrun : ∀ w inclusive, s.inPointerRun p w none inclusive =
      mirrored (s.outPointerRun p w none inclusive) := fun w inclusive =>
    inPointerRun_eq (Option.some_ne_none p).symm
  unfold focusTransitionEvents
  simp only [if_neg hne, if_neg hne.symm, ha, hg, hrun, tail_of_chain hl]
  by_cases hroot : a = ROOT_WINDOW
  · by_cases hg1 : g = 1
    · simp [hroot, hg1, exchanged]
    · simp [hroot, hg1, exchanged]
  · by_cases hg1 : g = 1
    · simp [hroot, hg1, exchanged, mirrored_map_mk]
    · simp [hroot, hg1, exchanged, mirrored_map_mk]

/-! ## Exactness -/

/-- No window of the tree lies deeper than the walks reach. -/
def WithinHops (s : ServerState) : Prop :=
  ∀ {w : ResourceId} {n : Nat}, s.resources.links.AtDepth ROOT_WINDOW w n → n ≤ 256

/-- None, PointerRoot or a window. -/
def IsFocus (s : ServerState) (f : UInt32) : Prop :=
  special f = true ∨ s.resources.windows[f]? ≠ none

section

variable (h : s.resources.TreeWellFormed) (hdepth : s.WithinHops)

include h hdepth

theorem exists_chain (hw : s.resources.windows[w]? ≠ none) :
    ∃ l, s.resources.links.Chain ROOT_WINDOW w l ∧ l.length ≤ 257 := by
  obtain ⟨n, hn⟩ := h.rooted (ResourceTable.present_iff.mpr hw)
  obtain ⟨l, hl, hlen⟩ := hn.exists_chain
  exact ⟨l, hl, by have := hdepth hn; omega⟩

theorem isAnc_iff_inferiorOf (hw : s.resources.windows[w]? ≠ none) :
    s.isAnc a w = true ↔ s.resources.InferiorOf w a := by
  obtain ⟨l, hl, hlen⟩ := exists_chain h hdepth hw
  exact isAnc_iff h hl hlen

theorem isAnc_asymm (ha : s.resources.windows[a]? ≠ none) (hb : s.resources.windows[b]? ≠ none) :
    ¬ (s.isAnc a b = true ∧ s.isAnc b a = true) := by
  rw [isAnc_iff_inferiorOf h hdepth ha, isAnc_iff_inferiorOf h hdepth hb]
  exact fun ⟨hab, hba⟩ => hab.2 (h.below_antisymm hba.1 hab.1)

/-- The events between two pointer runs read the same from the other end, and none of
them is a pointer event. -/
theorem computeCrossingChain_back (ha : s.resources.windows[a]? ≠ none)
    (hb : s.resources.windows[b]? ≠ none) (hne : a ≠ b) :
    s.computeCrossingChain b a =
        ((s.computeCrossingChain a b).map Crossings.CrossingEvent.exchanged).reverse ∧
      ∀ e ∈ (s.computeCrossingChain a b).map ofCrossing, e.detail ≠ NOTIFY_POINTER := by
  obtain ⟨la, hla, hlena⟩ := exists_chain h hdepth ha
  obtain ⟨lb, hlb, hlenb⟩ := exists_chain h hdepth hb
  obtain ⟨c, up, down, rest, rfl, rfl, hfork⟩ := h.exists_fork hla hlb
  have hup := ancestorChain_eq h hla hlena
  have hdown := ancestorChain_eq h hlb hlenb
  refine ⟨computeCrossingChain_mirror hfork hup hdown hne, fun e he => ?_⟩
  obtain ⟨e, he', rfl⟩ := List.mem_map.mp he
  rw [computeCrossingChain_eq hfork hup hdown hne] at he'
  rcases List.mem_append.mp he' with he' | he'
  · exact detail_sideEvents he'
  · exact detail_sideEvents (List.mem_reverse.mp he')

section

variable (ha : s.resources.windows[a]? ≠ none) (hb : s.resources.windows[b]? ≠ none)
  (hsa : special a = false) (hsb : special b = false) (hanc : s.isAnc a b = true)
  (hdetail : e.detail = NOTIFY_POINTER)

include ha hb hsa hsb hanc hdetail

theorem pointer_down (he : e ∈ s.focusTransitionEvents a b p) :
    s.isAnc a p = true ∧ s.isAnc b p = false ∧ s.isAnc p b = false := by
  have hup : s.isAnc b a = false :=
    Bool.eq_false_iff.mpr fun hup => isAnc_asymm h hdepth ha hb ⟨hanc, hup⟩
  have hne : a ≠ b := by
    rintro rfl
    rw [hanc] at hup
    cases hup
  rw [focusTransitionEvents_windows hsa hsb hne, inRun, outRun] at he
  simp only [hanc, hup, if_true, if_false, Bool.false_eq_true, List.append_nil] at he
  rcases List.mem_append.mp he with he | he
  · obtain ⟨-, hap, hexclude⟩ := mem_outPointerRun he
    exact ⟨hap, hexclude b rfl⟩
  · exact absurd hdetail ((computeCrossingChain_back h hdepth ha hb hne).2 e he)

theorem pointer_up (he : e ∈ s.focusTransitionEvents b a p) :
    s.isAnc a p = true ∧ p ≠ b ∧ s.isAnc b p = false ∧ s.isAnc p b = false := by
  have hne : b ≠ a := by
    rintro rfl
    rw [isAnc_self] at hanc
    cases hanc
  rw [focusTransitionEvents_windows hsb hsa hne, inRun, outRun] at he
  simp only [hanc, if_true, List.nil_append] at he
  rcases List.mem_append.mp he with he | he
  · exact absurd hdetail ((computeCrossingChain_back h hdepth hb ha hne).2 e he)
  · by_cases hpb : p = b
    · rw [hpb, inPointerRun_excluded] at he
      exact nomatch he
    · rw [inPointerRun_eq fun heq => hpb (Option.some.inj heq).symm, mirrored,
        List.mem_reverse] at he
      obtain ⟨e', he', rfl⟩ := List.mem_map.mp he
      obtain ⟨-, hap, hexclude⟩ := mem_outPointerRun he'
      exact ⟨hap, hpb, hexclude b rfl⟩

end

theorem mirror_windows_iff (hwf : s.resources.windows[f]? ≠ none)
    (hwg : s.resources.windows[g]? ≠ none) (hsf : special f = false) (hsg : special g = false)
    (hfg : f ≠ g) : s.focusTransitionEvents g f p = mirrored (s.focusTransitionEvents f g p) ↔
      ¬ s.PointerAtInferior f g p := by
  have hback := (computeCrossingChain_back h hdepth hwf hwg hfg).1
  have hasymm := isAnc_asymm h hdepth hwf hwg
  constructor
  · rintro hmirror ⟨-, -, ⟨rfl, hinferior⟩ | ⟨rfl, hinferior⟩⟩
    · rw [← isAnc_iff_inferiorOf h hdepth hwg] at hinferior
      exact not_mirror_windows hsf hsg hfg hasymm hback hinferior hmirror
    · rw [← isAnc_iff_inferiorOf h hdepth hwf] at hinferior
      have hback' := (computeCrossingChain_back h hdepth hwg hwf hfg.symm).1
      refine not_mirror_windows hsg hsf hfg.symm (fun hand => hasymm hand.symm) hback'
        hinferior ?_
      rw [hmirror, mirrored_mirrored]
  · intro hnot
    refine mirror_windows hsf hsg hfg hasymm hback (fun hanc hpg => ?_) fun hanc hpf => ?_
    · exact hnot ⟨hsf, hsg, .inl ⟨hpg, (isAnc_iff_inferiorOf h hdepth hwg).mp hanc⟩⟩
    · exact hnot ⟨hsf, hsg, .inr ⟨hpf, (isAnc_iff_inferiorOf h hdepth hwf).mp hanc⟩⟩

theorem pointer_windows (ha : s.resources.windows[a]? ≠ none)
    (hb : s.resources.windows[b]? ≠ none) (hp : s.resources.windows[p]? ≠ none)
    (hsa : special a = false) (hsb : special b = false) (hends : f = a ∧ g = b ∨ f = b ∧ g = a)
    (hinferior : s.resources.InferiorOf b a) (hnot : ¬ s.PointerAtInferior f g p)
    (he : e ∈ s.focusTransitionEvents f g p) (hdetail : e.detail = NOTIFY_POINTER) :
    s.resources.InferiorOf p a ∧ p ≠ b ∧ ¬ s.resources.InferiorOf p b ∧
      ¬ s.resources.InferiorOf b p := by
  have hanc := (isAnc_iff_inferiorOf h hdepth hb).mpr hinferior
  rw [← isAnc_iff_inferiorOf h hdepth hp, ← isAnc_iff_inferiorOf h hdepth hp,
    ← isAnc_iff_inferiorOf h hdepth hb, Bool.not_eq_true, Bool.not_eq_true]
  rcases hends with ⟨rfl, rfl⟩ | ⟨rfl, rfl⟩
  · obtain ⟨hap, hexclude⟩ := pointer_down h hdepth ha hb hsa hsb hanc hdetail he
    exact ⟨hap, fun hpg => hnot ⟨hsa, hsb, .inl ⟨hpg, hinferior⟩⟩, hexclude⟩
  · exact pointer_up h hdepth ha hb hsa hsb hanc hdetail he

/-- Where one of the values is no window, nothing is excluded from the runs. -/
theorem mirror_of_special (hf : s.IsFocus f) (hg : s.IsFocus g) (hfg : f ≠ g)
    (hspecial : ¬ (special f = false ∧ special g = false)) :
    s.focusTransitionEvents g f p = mirrored (s.focusTransitionEvents f g p) := by
  have hchain : ∀ {w}, special w = false → s.IsFocus w →
      s.resources.links.Chain ROOT_WINDOW w (s.ancestorChain w) := fun {w} hsw hw => by
    obtain ⟨l, hl, hlen⟩ := exists_chain h hdepth (hw.resolve_left (by simp [hsw]))
    rwa [ancestorChain_eq h hl hlen]
  cases hsf : special f with
  | false =>
    have hsg : special g = true := by
      simpa [hsf] using hspecial
    exact mirror_window_special hsf hsg (hchain hsf hf)
  | true =>
    cases hsg : special g with
    | true => exact mirror_special hsf hsg hfg
    | false => rw [mirror_window_special hsg hsf (hchain hsg hg), mirrored_mirrored]

end

/-- A transition and the one back mirror each other, and the pointer events are
those of the protocol, if and only if the focus does not move between a window
and the inferior that contains the pointer. -/
theorem focusExact_iff (h : s.resources.TreeWellFormed) (hdepth : s.WithinHops)
    (hf : s.IsFocus f) (hg : s.IsFocus g) (hp : s.resources.windows[p]? ≠ none) :
    s.FocusExact f g p ↔ ¬ s.PointerAtInferior f g p := by
  by_cases hfg : f = g
  · subst hfg
    have hnil : s.focusTransitionEvents f f p = [] := by
      simp [focusTransitionEvents]
    refine iff_of_true ⟨by rw [hnil]; rfl, fun _ _ _ _ e he => ?_⟩ ?_
    · rw [hnil] at he
      exact nomatch he
    · rintro ⟨-, -, ⟨-, -, hne⟩ | ⟨-, -, hne⟩⟩
      · exact hne rfl
      · exact hne rfl
  by_cases hspecial : special f = false ∧ special g = false
  · obtain ⟨hsf, hsg⟩ := hspecial
    have hwf := hf.resolve_left (by simp [hsf])
    have hwg := hg.resolve_left (by simp [hsg])
    have hmirror := mirror_windows_iff (p := p) h hdepth hwf hwg hsf hsg hfg
    refine ⟨fun hexact => hmirror.mp hexact.mirror, fun hnot => ⟨hmirror.mpr hnot, ?_⟩⟩
    intro a b hsa hsb hends hinferior e he hdetail
    have hwindows : s.resources.windows[a]? ≠ none ∧ s.resources.windows[b]? ≠ none := by
      rcases hends with ⟨rfl, rfl⟩ | ⟨rfl, rfl⟩
      · exact ⟨hwf, hwg⟩
      · exact ⟨hwg, hwf⟩
    exact pointer_windows h hdepth hwindows.1 hwindows.2 hp hsa hsb hends hinferior hnot he hdetail
  · refine iff_of_true ⟨mirror_of_special h hdepth hf hg hfg hspecial, fun hsa hsb hends => ?_⟩
      fun hat => hspecial ⟨hat.1, hat.2.1⟩
    rcases hends with ⟨rfl, rfl⟩ | ⟨rfl, rfl⟩
    · exact absurd ⟨hsa, hsb⟩ hspecial
    · exact absurd ⟨hsb, hsa⟩ hspecial

theorem withinHops_besideChild : besideChild.WithinHops := by
  intro w n hn
  have hnodes : ∀ x, besideChild.resources.links.Present x →
      x ∈ besideChild.resources.windows.keys := fun x hx =>
    ResourceMap.mem_keys_iff.mpr (ResourceTable.present_iff.mp hx)
  have hlt := hn.lt_length treeWellFormed_besideChild.root_present hnodes
  have hkeys : besideChild.resources.windows.keys.length ≤ 257 := by decide
  omega

/-- The focus moves from the root to a window and the pointer is in another one. -/
theorem focusExact_iff_besideChild : besideChild.FocusExact ROOT_WINDOW 0x200000 0x200002 ↔
    ¬ besideChild.PointerAtInferior ROOT_WINDOW 0x200000 0x200002 :=
  focusExact_iff treeWellFormed_besideChild withinHops_besideChild (.inr (by decide))
    (.inr (by decide)) (by decide)

/-- The focus moves from the root to the window that contains the pointer: the way
there has a pointer event for this window, the way back has none. -/
theorem pointer_unmirrored :
    (besideChild.resources.TreeWellFormed ∧ besideChild.WithinHops ∧
      besideChild.IsFocus ROOT_WINDOW ∧ besideChild.IsFocus 0x200000 ∧
      besideChild.resources.windows[(0x200000 : ResourceId)]? ≠ none) ∧
    besideChild.focusTransitionEvents ROOT_WINDOW 0x200000 0x200000 =
      [⟨0x200000, false, NOTIFY_POINTER⟩, ⟨ROOT_WINDOW, false, NOTIFY_INFERIOR⟩,
        ⟨0x200000, true, NOTIFY_ANCESTOR⟩] ∧
    besideChild.focusTransitionEvents 0x200000 ROOT_WINDOW 0x200000 =
      [⟨0x200000, false, NOTIFY_ANCESTOR⟩, ⟨ROOT_WINDOW, true, NOTIFY_INFERIOR⟩] ∧
    ¬ besideChild.FocusExact ROOT_WINDOW 0x200000 0x200000 := by
  refine ⟨⟨treeWellFormed_besideChild, withinHops_besideChild, .inr (by decide),
    .inr (by decide), by decide⟩, by decide, by decide, fun hexact => ?_⟩
  exact absurd hexact.mirror (by decide)

end ServerState

end X12
