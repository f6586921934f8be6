import X12.Core.Crossings
import X12.Verify.WindowTree

/-! # Pointer crossings

The path between two windows of the tree goes up to the lowest common window and
down again. The windows of the first part are left and those of the second part
are entered, and the way back is the same list read from the other end. -/

namespace X12

open Forest Crossings.CrossingEvent

namespace Crossings.CrossingEvent

/-- The event is for a window between the two endpoints. -/
def IsVirtual (e : Crossings.CrossingEvent) : Prop :=
  e.detail = NOTIFY_VIRTUAL ∨ e.detail = NOTIFY_NONLINEAR_VIRTUAL

/-- The same event of the way back. -/
def exchanged (e : Crossings.CrossingEvent) : Crossings.CrossingEvent :=
  { e with
    kind := match e.kind with
      | .Enter => .Leave
      | .Leave => .Enter }

end Crossings.CrossingEvent

/-- The windows that a move passes on the side of one of its endpoints, which
itself counts also when the other endpoint lies below it. -/
def passedWindows (endpoint other : ResourceId) (path : List ResourceId) : List ResourceId :=
  if path = [] ∧ endpoint ≠ other then [endpoint] else path

namespace ResourceTable

/-- The events of a move from `a` along `up` and then down along `down` to `b`,
where both paths are listed from their endpoint up. -/
structure Crosses (t : ResourceTable) (a b : ResourceId) (up down : List ResourceId)
    (events : List Crossings.CrossingEvent) : Prop where
  windows : events.map (fun e => (e.kind, e.window)) =
    (passedWindows a b up).map (CrossingKind.Leave, ·) ++
      ((passedWindows b a down).map (CrossingKind.Enter, ·)).reverse
  nodup : (events.map (·.window)).Nodup
  virtual_iff : ∀ e ∈ events, e.IsVirtual ↔ e.window ≠ a ∧ e.window ≠ b
  child : ∀ e ∈ events, e.IsVirtual → t.parentOf e.child = some e.window ∧
    t.links.Below e.child (match e.kind with
      | .Leave => a
      | .Enter => b)

end ResourceTable

/-! ## One side of a move -/

/-- The events of one side of a move, from its endpoint up. -/
def sideEvents (kind : CrossingKind) (endpoint : ResourceId) (path other : List ResourceId) :
    List Crossings.CrossingEvent :=
  match path with
  | [] => [⟨endpoint, kind, NOTIFY_INFERIOR, 0⟩]
  | w :: rest =>
    ⟨w, kind, if other = [] then NOTIFY_ANCESTOR else NOTIFY_NONLINEAR, 0⟩ ::
      (path.zip rest).map fun (child, w) =>
        ⟨w, kind, if other = [] then NOTIFY_VIRTUAL else NOTIFY_NONLINEAR_VIRTUAL, child⟩

section

variable {kind : CrossingKind} {endpoint a b c w x : ResourceId} {e : Crossings.CrossingEvent}
  {path other up down rest l : List ResourceId} {stop : ResourceId → Bool}

/-- A walk stops at the first window of the other chain. -/
theorem chainSteps_eq (hne : path ≠ []) (hpath : ∀ y ∈ path.tail, stop y = false)
    (hstop : stop c = true) : chainSteps (path ++ c :: rest) stop = path.zip path.tail := by
  induction path with
  | nil => exact absurd rfl hne
  | cons u path ih =>
    cases path with
    | nil => simp [chainSteps, hstop]
    | cons v path =>
      have hv : stop v = false := hpath v List.mem_cons_self
      have hrest := ih (List.cons_ne_nil v path) fun y hy => hpath y (List.mem_cons_of_mem v hy)
      simp only [chainSteps, List.cons_append, List.tail_cons] at hrest ⊢
      rw [List.zip_cons_cons, List.takeWhile_cons_of_pos (by simp [hv]), hrest]
      rfl

theorem map_sideEvents_window (hne : endpoint ≠ w) :
    (sideEvents kind endpoint path other).map (fun e => (e.kind, e.window)) =
      (passedWindows endpoint w path).map (kind, ·) := by
  cases path with
  | nil => simp [sideEvents, passedWindows, hne]
  | cons v rest =>
    have hsnd : ((v :: rest).zip rest).map Prod.snd = rest :=
      List.map_snd_zip (Nat.le_succ rest.length)
    calc (sideEvents kind endpoint (v :: rest) other).map (fun e => (e.kind, e.window))
        = (kind, v) :: (((v :: rest).zip rest).map Prod.snd).map (kind, ·) := by
          simp [sideEvents, Function.comp_def]
      _ = (passedWindows endpoint w (v :: rest)).map (kind, ·) := by
          rw [hsnd]
          simp [passedWindows]

/-- Going the other way does not change the side of an endpoint. -/
theorem map_exchanged_sideEvents :
    (sideEvents kind endpoint path other).map exchanged =
      sideEvents (match kind with
        | .Enter => .Leave
        | .Leave => .Enter) endpoint path other := by
  cases path <;> simp [sideEvents, exchanged, Function.comp_def]

/-- The virtual events of a side are for the windows above its endpoint, each
with the window before it on the path. -/
theorem mem_sideEvents (he : e ∈ sideEvents kind endpoint path other)
    (hhead : ∀ v ∈ path.head?, v = endpoint) :
    e.kind = kind ∧ (e.window = endpoint ∧ ¬ e.IsVirtual ∨
      e.IsVirtual ∧ (e.child, e.window) ∈ path.zip path.tail) := by
  cases path with
  | nil =>
    rw [List.mem_singleton.mp he]
    refine ⟨rfl, .inl ⟨rfl, ?_⟩⟩
    simp only [IsVirtual]
    decide
  | cons v rest =>
    rcases List.mem_cons.mp he with rfl | he
    · refine ⟨rfl, .inl ⟨hhead v rfl, ?_⟩⟩
      simp only [IsVirtual]
      split <;> decide
    · obtain ⟨⟨child, w⟩, hmem, rfl⟩ := List.mem_map.mp he
      refine ⟨rfl, .inr ⟨?_, hmem⟩⟩
      simp only [IsVirtual]
      split <;> decide

end

/-! ## The two sides together -/

namespace ServerState

variable {s : ServerState} {a b c : ResourceId} {up down rest l : List ResourceId}

/-- A chain within the limit on the number of hops is walked to the root. -/
theorem ancestorsFrom_eq (h : s.resources.TreeWellFormed)
    (hl : s.resources.links.Chain ROOT_WINDOW a l) {hops : Nat} (hlen : l.length ≤ hops + 1) :
    a :: s.ancestorsFrom hops a = l := by
  induction hl generalizing hops with
  | root =>
    obtain ⟨w, hw, hparent⟩ := ResourceTable.exists_of_parentOf h.root_parent
    cases hops with
    | zero => rfl
    | succ hops => simp only [ancestorsFrom, hw, hparent, if_true]
  | @step a p l below parent rest ih =>
    obtain ⟨w, hw, rfl⟩ := ResourceTable.exists_of_parentOf parent
    cases hops with
    | zero =>
      obtain ⟨l', rfl⟩ := rest.head_eq
      exact absurd hlen (by simp)
    | succ hops =>
      simp only [ancestorsFrom, hw, if_neg (h.parent_ne below parent)]
      rw [ih (Nat.le_of_succ_le_succ hlen)]

theorem ancestorChain_eq (h : s.resources.TreeWellFormed)
    (hl : s.resources.links.Chain ROOT_WINDOW a l) (hlen : l.length ≤ 257) :
    s.ancestorChain a = l :=
  ancestorsFrom_eq h hl hlen

section

variable (hfork : s.resources.links.Fork ROOT_WINDOW a b c up down rest)
  (hup : s.ancestorChain a = up ++ c :: rest) (hdown : s.ancestorChain b = down ++ c :: rest)

include hfork in
/-- The walk up from an endpoint ends at the meeting point. -/
theorem chainSteps_up (hne : up ≠ []) {stop : ResourceId → Bool} (hstop : ∀ x, stop x ↔ x = c) :
    chainSteps (up ++ c :: rest) stop = up.zip up.tail := by
  refine chainSteps_eq hne (fun y hy => Bool.eq_false_iff.mpr fun h => ?_) ((hstop c).mpr rfl)
  obtain rfl := (hstop y).mp h
  exact hfork.up_off y (List.mem_of_mem_tail hy) (List.mem_append_right down List.mem_cons_self)

include hfork hup hdown

/-- The other endpoint is above this one: it is the meeting point. -/
theorem computeCrossingChain_up (hne : a ≠ b) (hnil : down = []) :
    s.computeCrossingChain a b =
      sideEvents .Leave a up down ++ (sideEvents .Enter b down up).reverse := by
  subst hnil
  obtain rfl := hfork.symm.eq_of_up_nil
  have hup_ne : up ≠ [] := by
    rintro rfl
    exact hne hfork.eq_of_up_nil
  obtain ⟨tail, rfl⟩ := hfork.up_eq_cons hup_ne
  have hmem : (s.ancestorChain a).tail.contains b = true := by
    simp [hup]
  rw [computeCrossingChain, if_neg hne, if_pos hmem, hup,
    chainSteps_up hfork hup_ne fun _ => decide_eq_true_iff]
  simp [sideEvents]

/-- The other endpoint is below this one, which is the meeting point. -/
theorem computeCrossingChain_down (hne : a ≠ b) (hnil : up = []) :
    s.computeCrossingChain a b =
      sideEvents .Leave a up down ++ (sideEvents .Enter b down up).reverse := by
  subst hnil
  obtain rfl := hfork.eq_of_up_nil
  have hdown_ne : down ≠ [] := by
    rintro rfl
    exact hne hfork.symm.eq_of_up_nil.symm
  obtain ⟨tail, rfl⟩ := hfork.symm.up_eq_cons hdown_ne
  have hnotMem : ¬ (s.ancestorChain a).tail.contains b = true := fun h => by
    rw [hup, List.contains_iff_mem] at h
    exact hfork.down_off b List.mem_cons_self (List.mem_of_mem_tail h)
  have hmem : (s.ancestorChain b).tail.contains a = true := by
    simp [hdown]
  rw [computeCrossingChain, if_neg hne, if_neg hnotMem, if_pos hmem, hdown,
    chainSteps_up hfork.symm hdown_ne fun _ => decide_eq_true_iff]
  simp [sideEvents]

/-- Neither endpoint is above the other. -/
theorem computeCrossingChain_across (hne : a ≠ b) (hup_ne : up ≠ []) (hdown_ne : down ≠ []) :
    s.computeCrossingChain a b =
      sideEvents .Leave a up down ++ (sideEvents .Enter b down up).reverse := by
  obtain ⟨upTail, rfl⟩ := hfork.up_eq_cons hup_ne
  obtain ⟨downTail, rfl⟩ := hfork.symm.up_eq_cons hdown_ne
  have hnotMem : ¬ (s.ancestorChain a).tail.contains b = true := fun h => by
    rw [hup, List.contains_iff_mem] at h
    exact hfork.down_off b List.mem_cons_self (List.mem_of_mem_tail h)
  have hnotMem' : ¬ (s.ancestorChain b).tail.contains a = true := fun h => by
    rw [hdown, List.contains_iff_mem] at h
    exact hfork.up_off a List.mem_cons_self (List.mem_of_mem_tail h)
  have hcommon : lowestCommonAncestor (s.ancestorChain a) (s.ancestorChain b) = some c := by
    rw [lowestCommonAncestor, hup, hdown, List.find?_eq_some_iff_append]
    refine ⟨by simp, _, _, rfl, fun x hx => ?_⟩
    simpa using hfork.down_off x hx
  have hstop : ∀ x, decide (some x = some c) ↔ x = c := fun x => by simp
  rw [computeCrossingChain, if_neg hne, if_neg hnotMem, if_neg hnotMem']
  simp only [hcommon]
  rw [hup, hdown, chainSteps_up hfork hup_ne hstop, chainSteps_up hfork.symm hdown_ne hstop]
  simp [sideEvents]

/-- The events between two windows are those of either side. -/
theorem computeCrossingChain_eq (hne : a ≠ b) :
    s.computeCrossingChain a b =
      sideEvents .Leave a up down ++ (sideEvents .Enter b down up).reverse := by
  by_cases hup_ne : up = []
  · exact computeCrossingChain_down hfork hup hdown hne hup_ne
  · by_cases hdown_ne : down = []
    · exact computeCrossingChain_up hfork hup hdown hne hdown_ne
    · exact computeCrossingChain_across hfork hup hdown hne hup_ne hdown_ne

theorem computeCrossingChain_mirror (hne : a ≠ b) :
    s.computeCrossingChain b a = ((s.computeCrossingChain a b).map exchanged).reverse := by
  rw [computeCrossingChain_eq hfork hup hdown hne,
    computeCrossingChain_eq hfork.symm hdown hup (Ne.symm hne), List.map_append,
    List.reverse_append, List.map_reverse, List.reverse_reverse, map_exchanged_sideEvents,
    map_exchanged_sideEvents]

omit hup hdown in
theorem nodup_passedWindows (h : s.resources.TreeWellFormed) :
    (passedWindows a b up).Nodup := by
  unfold passedWindows
  split
  · exact List.nodup_singleton a
  · exact (List.nodup_append.mp (h.nodup_chain hfork.left)).1

omit hup hdown in
theorem mem_passedWindows {x : ResourceId} (hx : x ∈ passedWindows a b up) :
    x ∉ down ∧ (x ∈ up ∨ up = []) := by
  unfold passedWindows at hx
  split at hx
  next hnil =>
    obtain ⟨rfl, -⟩ := hnil
    obtain rfl := hfork.eq_of_up_nil
    rw [List.mem_singleton.mp hx]
    exact ⟨fun hmem => hfork.down_off a hmem List.mem_cons_self, .inr rfl⟩
  next => exact ⟨fun hmem => hfork.up_off x hx (List.mem_append_left _ hmem), .inl hx⟩

omit hup hdown in
/-- No window is passed on both sides, nor twice on one. -/
theorem nodup_passedWindows_append (h : s.resources.TreeWellFormed) (hne : a ≠ b) :
    (passedWindows a b up ++ (passedWindows b a down).reverse).Nodup := by
  refine List.nodup_append.mpr ⟨nodup_passedWindows hfork h,
    List.nodup_reverse.mpr (nodup_passedWindows hfork.symm h), ?_⟩
  rintro x hx y hy rfl
  obtain ⟨hdown_not, hup_or⟩ := mem_passedWindows hfork hx
  obtain ⟨hup_not, hdown_or⟩ := mem_passedWindows hfork.symm (List.mem_reverse.mp hy)
  -- only the meeting point could be on both sides, and then it is both endpoints
  obtain rfl := hup_or.resolve_left hup_not
  obtain rfl := hdown_or.resolve_left hdown_not
  exact hne (hfork.eq_of_up_nil.trans hfork.symm.eq_of_up_nil.symm)

omit hup hdown in
theorem mem_side {kind : CrossingKind} {e : Crossings.CrossingEvent}
    (h : s.resources.TreeWellFormed) (he : e ∈ sideEvents kind a up down) :
    e.kind = kind ∧ (e.window = a ∧ ¬ e.IsVirtual ∨
      e.IsVirtual ∧ (e.window ≠ a ∧ e.window ≠ b) ∧
        s.resources.parentOf e.child = some e.window ∧ s.resources.links.Below e.child a) := by
  have hhead : ∀ v ∈ up.head?, v = a := by
    intro v hv
    obtain ⟨tail, rfl⟩ := hfork.up_eq_cons (by rintro rfl; exact nomatch hv)
    exact (Option.some.inj hv).symm
  obtain ⟨hkind, hend | ⟨hvirtual, hzip⟩⟩ := mem_sideEvents he hhead
  · exact ⟨hkind, .inl hend⟩
  obtain ⟨hchild, hwindow⟩ := List.of_mem_zip hzip
  refine ⟨hkind, .inr ⟨hvirtual, ⟨?_, ?_⟩, (hfork.left.split rfl).2.parent_of_mem_zip hzip,
    h.below_of_mem_chain hfork.left (List.mem_append_left _ hchild)⟩⟩
  · rintro heq
    obtain ⟨tail, rfl⟩ := hfork.up_eq_cons (List.ne_nil_of_mem hchild)
    have hnodup := (List.nodup_append.mp (h.nodup_chain hfork.left)).1
    exact (List.nodup_cons.mp hnodup).1 (heq ▸ hwindow)
  · rintro heq
    obtain ⟨tail, htail⟩ := hfork.right.head_eq
    refine hfork.up_off e.window (List.mem_of_mem_tail hwindow) ?_
    rw [htail, heq]
    exact List.mem_cons_self

/-- The events lie on the two paths, each where its window does. -/
theorem computeCrossingChain_crosses (h : s.resources.TreeWellFormed) (hne : a ≠ b) :
    s.resources.Crosses a b up down (s.computeCrossingChain a b) := by
  rw [computeCrossingChain_eq hfork hup hdown hne]
  have hwindows : (sideEvents .Leave a up down ++ (sideEvents .Enter b down up).reverse).map
      (fun e => (e.kind, e.window)) = (passedWindows a b up).map (CrossingKind.Leave, ·) ++
        ((passedWindows b a down).map (CrossingKind.Enter, ·)).reverse := by
    rw [List.map_append, List.map_reverse, map_sideEvents_window hne,
      map_sideEvents_window (Ne.symm hne)]
  refine ⟨hwindows, ?_, fun e he => ?_, fun e he hvirtual => ?_⟩
  · have := congrArg (List.map Prod.snd) hwindows
    simp only [List.map_map, List.map_append, List.map_reverse, Function.comp_def,
      List.map_id_fun', id_eq] at this
    rw [List.map_append, List.map_reverse, this]
    exact nodup_passedWindows_append hfork h hne
  · rcases List.mem_append.mp he with he | he
    · rcases (mem_side hfork h he).2 with ⟨hwindow, hnot⟩ | ⟨hvirtual, hne, -⟩
      · exact ⟨fun hvirtual => absurd hvirtual hnot, fun hne => absurd hwindow hne.1⟩
      · exact ⟨fun _ => hne, fun _ => hvirtual⟩
    · rcases (mem_side hfork.symm h (List.mem_reverse.mp he)).2 with
        ⟨hwindow, hnot⟩ | ⟨hvirtual, hne, -⟩
      · exact ⟨fun hvirtual => absurd hvirtual hnot, fun hne => absurd hwindow hne.2⟩
      · exact ⟨fun _ => hne.symm, fun _ => hvirtual⟩
  · rcases List.mem_append.mp he with he | he
    · obtain ⟨hkind, ⟨-, hnot⟩ | ⟨-, -, hchild⟩⟩ := mem_side hfork h he
      · exact absurd hvirtual hnot
      · rw [hkind]
        exact hchild
    · obtain ⟨hkind, ⟨-, hnot⟩ | ⟨-, -, hchild⟩⟩ := mem_side hfork.symm h (List.mem_reverse.mp he)
      · exact absurd hvirtual hnot
      · rw [hkind]
        exact hchild

end

/-- Moving the pointer passes the windows of the path between the two windows, and
moving it back passes them the other way. -/
theorem normalModeCrossings_route (s : ServerState) {a b : ResourceId} {m n : Nat}
    (h : s.resources.TreeWellFormed) (ha : s.resources.links.AtDepth ROOT_WINDOW a m)
    (hb : s.resources.links.AtDepth ROOT_WINDOW b n) (hm : m ≤ 256) (hn : n ≤ 256) :
    (∃ c up down, s.resources.links.LowestCommon a b c ∧
      s.resources.links.PathTo ROOT_WINDOW c a up ∧
      s.resources.links.PathTo ROOT_WINDOW c b down ∧
      s.resources.Crosses a b up down (s.normalModeCrossings a b)) ∧
    s.normalModeCrossings b a =
      ((s.normalModeCrossings a b).map exchanged).reverse := by
  obtain ⟨la, hla, hlena⟩ := ha.exists_chain
  obtain ⟨lb, hlb, hlenb⟩ := hb.exists_chain
  have hup := ancestorChain_eq h hla (by omega)
  have hdown := ancestorChain_eq h hlb (by omega)
  obtain ⟨c, up, down, rest, rfl, rfl, hfork⟩ := h.exists_fork hla hlb
  by_cases hne : a = b
  · subst hne
    have hnil : s.normalModeCrossings a a = [] := if_pos rfl
    rw [hnil]
    exact ⟨⟨a, [], [], ⟨.refl, .refl, fun _ hd _ => hd⟩, .top, .top, by simp [passedWindows],
      List.nodup_nil, nofun, nofun⟩, rfl⟩
  · refine ⟨⟨c, up, down, h.fork_lowestCommon hfork, (hla.split rfl).2, (hlb.split rfl).2,
      computeCrossingChain_crosses hfork hup hdown h hne⟩, ?_⟩
    exact computeCrossingChain_mirror hfork hup hdown hne

/-- A window with a child, and another window next to it. -/
def besideChild : ServerState :=
  let t := ResourceTable.default
  let t := t.createWindow 1 (ResourceTable.childRequest 0x200000 ROOT_WINDOW)
  let t := t.createWindow 1 (ResourceTable.childRequest 0x200001 0x200000)
  let t := t.createWindow 1 (ResourceTable.childRequest 0x200002 ROOT_WINDOW)
  { new with resources := t }

theorem treeWellFormed_besideChild : besideChild.resources.TreeWellFormed := by
  refine ResourceTable.TreeWellFormed.createWindow ?_ 1 (by decide) (by decide)
  refine ResourceTable.TreeWellFormed.createWindow ?_ 1 (by decide) (by decide)
  exact ResourceTable.treeWellFormed_default.createWindow 1 (by decide) (by decide)

theorem normalModeCrossings_route_besideChild :
    (∃ c up down, besideChild.resources.links.LowestCommon 0x200001 0x200002 c ∧
      besideChild.resources.links.PathTo ROOT_WINDOW c 0x200001 up ∧
      besideChild.resources.links.PathTo ROOT_WINDOW c 0x200002 down ∧
      besideChild.resources.Crosses 0x200001 0x200002 up down
        (besideChild.normalModeCrossings 0x200001 0x200002)) ∧
    besideChild.normalModeCrossings 0x200002 0x200001 =
      ((besideChild.normalModeCrossings 0x200001 0x200002).map exchanged).reverse :=
  normalModeCrossings_route besideChild treeWellFormed_besideChild
    (m := 2) (n := 1)
    (.step (by decide) (p := 0x200000) (by decide) (.step (by decide) (by decide) .root))
    (.step (by decide) (by decide) .root) (by decide) (by decide)

example : besideChild.normalModeCrossings 0x200001 0x200002 =
    [⟨0x200001, .Leave, NOTIFY_NONLINEAR, 0⟩,
      ⟨0x200000, .Leave, NOTIFY_NONLINEAR_VIRTUAL, 0x200001⟩,
      ⟨0x200002, .Enter, NOTIFY_NONLINEAR, 0⟩] := by
  decide

end ServerState

end X12
