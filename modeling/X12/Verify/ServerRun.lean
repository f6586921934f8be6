import X12.Verify.Disconnect
import X12.Verify.MapState

/-! # Runs of the server

The window tree and the clients change by connections, disconnections and the
requests for windows; every other step leaves them alone. In all states that
are reached the tree is well formed and its root belongs to the server, so a
disconnect is described exactly. -/

namespace X12

namespace ResourceTable

variable {t t' : ResourceTable} {id a : ResourceId} {f : Window → Window}

/-! ## Fields of the records -/

section Field

variable {α : Type} {field : Window → α}

/-- The field says nothing of where the window is. -/
def IgnoresPlace (field : Window → α) : Prop :=
  ∀ (w : Window) parent children x y width height borderWidth,
    field { w with
      parent := parent
      children := children
      x := x
      y := y
      width := width
      height := height
      borderWidth := borderWidth } = field w

theorem field_modifyWindow (hf : ∀ w, field (f w) = field w) :
    (t.modifyWindow id f).windows[a]?.map field = t.windows[a]?.map field := by
  rw [get_modifyWindow_map, Option.map_map]
  congr 1
  funext w
  rw [Function.comp_apply]
  split
  · exact hf w
  · rfl

theorem applyRestack_eq {parent : Window} {index : Nat} {window : ResourceId}
    (action : RestackAction) : applyRestack parent index window action =
      { parent with children := (applyRestack parent index window action).children } := by
  cases action <;> rfl

theorem field_restackWindow (hfield : IgnoresPlace field) {sibling : Option ResourceId}
    {stackMode : Option UInt8} :
    (t.restackWindow id sibling stackMode).windows[a]?.map field = t.windows[a]?.map field := by
  unfold restackWindow
  split
  · rfl
  split
  · rfl
  split
  · rfl
  · refine field_modifyWindow fun w => ?_
    split
    · rfl
    · rw [applyRestack_eq]
      exact hfield w _ _ _ _ _ _ _

theorem field_configureWindow (hfield : IgnoresPlace field) {request : ConfigureWindowRequest} :
    (t.configureWindow request).1.windows[a]?.map field = t.windows[a]?.map field := by
  unfold configureWindow
  split
  · exact (field_restackWindow hfield).trans
      (field_modifyWindow fun w => hfield w _ _ _ _ _ _ _)
  · rfl

theorem field_circulateWindow (hfield : IgnoresPlace field) {container : ResourceId}
    {direction : UInt8} :
    (t.circulateWindow container direction).1.windows[a]?.map field =
      t.windows[a]?.map field := by
  unfold circulateWindow
  split
  · rfl
  next parent _ =>
  generalize (if container = ROOT_WINDOW then cowAwareTopIndex parent
    else parent.children.length) = top
  dsimp only
  split
  · rfl
  split
  · split
    · rfl
    · exact field_modifyWindow fun w => hfield w _ _ _ _ _ _ _
  split
  · split
    · rfl
    · exact field_modifyWindow fun w => hfield w _ _ _ _ _ _ _
  · rfl

theorem field_reparentWindow (hfield : IgnoresPlace field) {request : ReparentWindowRequest} :
    (t.reparentWindow request).1.windows[a]?.map field = t.windows[a]?.map field := by
  by_cases h : t.ReparentRefused request
  · rw [reparentWindow_refused h]
  · obtain ⟨window, -, heq⟩ := reparentWindow_accepted h
    rw [heq, reparented]
    exact (field_modifyWindow fun w => hfield w _ _ _ _ _ _ _).trans
      ((field_modifyWindow fun w => hfield w _ _ _ _ _ _ _).trans
        (field_modifyWindow fun w => hfield w _ _ _ _ _ _ _))

end Field

/-! ## Owners -/

theorem windowOwner_modifyWindow (hf : ∀ w, (f w).owner = w.owner) :
    (t.modifyWindow id f).windowOwner a = t.windowOwner a :=
  field_modifyWindow hf

theorem owner_ignoresPlace : IgnoresPlace (·.owner) := fun _ _ _ _ _ _ _ _ => rfl

theorem links_congr (h : t'.windows = t.windows) : t'.links = t.links := by
  rw [links, links, show t'.parentOf = t.parentOf from funext fun a => by rw [parentOf, h, parentOf],
    show t'.childrenOf = t.childrenOf from funext fun a => by rw [childrenOf, h, childrenOf]]

/-- A window that is left after others have been destroyed keeps its owner. -/
theorem Pruned.windowOwner_eq {destroyed : List ResourceId} (h : Pruned t t' destroyed)
    (ha : a ∉ destroyed) : t'.windowOwner a = t.windowOwner a := by
  rw [windowOwner, h.get, if_neg ha, Option.map_map]
  rfl

/-- No operation gives the root away. -/
theorem TreeOp.rootOwner {op : TreeOp} (hop : op.CreatesFresh t)
    (howner : t.windowOwner ROOT_WINDOW = some SERVER_OWNER) (ht : op.apply t = some t') :
    t'.windowOwner ROOT_WINDOW = some SERVER_OWNER := by
  cases op with
  | createWindow owner request =>
    cases ht
    obtain ⟨parent, hp⟩ := Option.ne_none_iff_exists'.mp hop.2
    rw [windowOwner, get_createWindow hp]
    split
    · next heq =>
      rw [windowOwner, heq, hop.1] at howner
      cases howner
    · split
      · next heq =>
        rw [windowOwner, heq, hp] at howner
        exact howner
      · exact howner
  | destroyWindow id =>
    cases ht
    obtain ⟨hpruned, hswept, -⟩ := destroyWindow_destroys t id
    rw [hpruned.windowOwner_eq fun hmem => ?_]
    · exact howner
    · exact ((hswept.destroyable _ hmem).resolve_left List.not_mem_nil).1 rfl
  | reparentWindow request =>
    cases ht
    exact (field_reparentWindow owner_ignoresPlace).trans howner
  | configureWindow request =>
    cases ht
    exact (field_configureWindow owner_ignoresPlace).trans howner
  | circulateWindow container direction =>
    cases ht
    exact (field_circulateWindow owner_ignoresPlace).trans howner
  | materializeCowResource hostXid =>
    rw [apply, ResourceTable.materializeCowResource] at ht
    split at ht
    · cases ht
    obtain rfl := Option.some.inj ht
    rw [windowOwner_modifyWindow, windowOwner, ResourceMap.get_insert, if_neg (by decide)]
    · exact howner
    · exact fun _ => rfl
  | destroyCowResource =>
    cases ht
    rw [windowOwner, get_destroyCowResource, if_neg (by decide), if_pos rfl, Option.map_map]
    exact howner

/-- A request for a window is made by a client in its own name. -/
def TreeOp.By (client : ClientId) : TreeOp → Prop
  | .createWindow owner _ => owner = client
  | _ => True

end ResourceTable

open ResourceTable (TreeOp)

/-- What can happen to the server. The last case is any step that leaves the
window tree and the clients alone. -/
inductive ServerOp where
  | connect (client : ClientId)
  | tree (client : ClientId) (op : TreeOp)
  | changeSaveSet (client : ClientId) (mode : UInt8) (win : ResourceId)
  | disconnect (client : ClientId) (choices : DisconnectChoices)
  | other (next : ServerState)

/-- The same windows in the same places, with the same owners, and the same
clients. -/
structure SameWindows (s s' : ServerState) : Prop where
  links : s'.resources.links = s.resources.links
  owners : ∀ id, s'.resources.windowOwner id = s.resources.windowOwner id
  clients : ∀ c : ClientId, s'.clients[c]? = none ↔ s.clients[c]? = none

namespace ServerOp

/-- The next state, unless no base is left or the server panics. -/
def apply (s : ServerState) : ServerOp → Option ServerState
  | connect client => s.connectClient client
  | tree _ op => (op.apply s.resources).map fun resources => { s with resources := resources }
  | changeSaveSet client mode win => some (s.changeSaveSet client mode win)
  | disconnect client choices => some (s.processDisconnect choices client)
  | other next => some next

/-- The steps that the server can take. The overlay window is only torn down
as a leaf below the root. -/
def Admitted (s : ServerState) : ServerOp → Prop
  | connect client => client ≠ SERVER_OWNER ∧ s.clients[client]? = none
  | tree client op => s.clients[client]? ≠ none ∧ op.By client ∧ op.ReleasesLeaf s.resources
  | changeSaveSet _ _ _ => True
  | disconnect client choices => choices.Allowed s client
  | other next => SameWindows s next

end ServerOp

inductive ServerReachable : ServerState → Prop
  | init : ServerReachable .new
  | step {s s' : ServerState} (op : ServerOp) (before : ServerReachable s) (allowed : op.Admitted s)
      (applied : op.apply s = some s') : ServerReachable s'

structure ServerInvariant (s : ServerState) : Prop where
  tree : s.resources.TreeWellFormed
  rootOwner : s.resources.windowOwner ROOT_WINDOW = some SERVER_OWNER
  clients : s.clients[SERVER_OWNER]? = none

namespace ServerInvariant

variable {s s' : ServerState} {c : ClientId} {record : ClientState}

theorem ne_server (h : ServerInvariant s) (hrec : s.clients[c]? = some record) :
    c ≠ SERVER_OWNER := by
  rintro rfl
  rw [h.clients] at hrec
  cases hrec

theorem root_not_owned (h : ServerInvariant s) (hrec : s.clients[c]? = some record) :
    s.resources.windowOwner ROOT_WINDOW ≠ some c := by
  rw [h.rootOwner]
  exact fun heq => h.ne_server hrec (Option.some.inj heq).symm

theorem new : ServerInvariant .new where
  tree := ResourceTable.treeWellFormed_default.modifyWindow (fun _ => rfl) fun _ _ => .refl _
  rootOwner := by decide
  clients := by decide

theorem connect (h : ServerInvariant s) (hc : c ≠ SERVER_OWNER)
    (hs : s.connectClient c = some s') : ServerInvariant s' := by
  unfold ServerState.connectClient at hs
  split at hs
  · obtain rfl := Option.some.inj hs
    exact ⟨h.tree, h.rootOwner, by rw [ResourceMap.get_insert, if_neg hc.symm, h.clients]⟩
  · cases hs

theorem disconnect (h : ServerInvariant s) {choices : DisconnectChoices}
    (hallowed : choices.Allowed s c) : ServerInvariant (s.processDisconnect choices c) := by
  cases hrec : s.clients[c]? with
  | none =>
    rw [ServerState.processDisconnect, hrec]
    exact h
  | some record =>
    have hclosed := h.tree.closesDown (h.root_not_owned hrec) hallowed.roots
    have hwindows := @ServerState.processDisconnect_windows s c record choices hrec
    refine ⟨hclosed.wellFormed.of_links (ResourceTable.links_congr hwindows), ?_, ?_⟩
    · rw [ResourceTable.windowOwner, hwindows, hclosed.get, if_neg fun hmem => ?_, Option.map_map]
      · exact h.rootOwner
      · obtain ⟨a, ha, hbelow⟩ := (hclosed.mem_iff _).mp hmem
        exact h.root_not_owned hrec (h.tree.below_root hbelow ▸ ha)
    · rw [ServerState.processDisconnect_clients hrec, h.clients]
      split <;> rfl

theorem step (h : ServerInvariant s) {op : ServerOp} (hop : op.Admitted s)
    (hs : op.apply s = some s') : ServerInvariant s' := by
  cases op with
  | connect client => exact h.connect hop.1 hs
  | tree client op =>
    obtain ⟨resources, ht, rfl⟩ := Option.map_eq_some_iff.mp hs
    exact ⟨h.tree.step hop.2.2 ht, op.rootOwner hop.2.2.1 h.rootOwner ht, h.clients⟩
  | changeSaveSet client mode win =>
    cases hs
    refine ⟨h.tree, h.rootOwner, ?_⟩
    rw [ServerState.changeSaveSet, ResourceMap.get_modify, h.clients]
    simp
  | disconnect client choices =>
    cases hs
    exact h.disconnect hop
  | other next =>
    cases hs
    exact ⟨h.tree.of_links hop.links, (hop.owners _).trans h.rootOwner,
      (hop.clients _).mpr h.clients⟩

end ServerInvariant

theorem ServerReachable.invariant {s : ServerState} (h : ServerReachable s) : ServerInvariant s := by
  induction h with
  | init => exact .new
  | step op _ hop hs ih => exact ih.step hop hs

section

variable {s : ServerState} {c : ClientId} {record : ClientState} {choices : DisconnectChoices}

/-- In every state reached, a client that retains nothing leaves nothing behind
exactly if no other client's record, and not the focus, names a window at or
below one of its own. -/
theorem disconnect_leaves_nothing_iff (h : ServerReachable s)
    (hrec : s.clients[c]? = some record) (hmode : s.retainsResources c = false) :
    (∀ choices : DisconnectChoices, choices.Allowed s c →
      ServerState.DisconnectClean s (s.processDisconnect choices c) c record) ↔
    ∀ w, s.resources.Dying c w → s.KeptFree (· ≠ c) w :=
  ServerState.disconnectClean_iff hrec h.invariant.tree (h.invariant.root_not_owned hrec) hmode

/-- In every state reached, the windows that a disconnecting client wants kept
survive exactly if no window in their subtrees lies below one of its own. -/
theorem disconnect_saveSet_iff (h : ServerReachable s) (hrec : s.clients[c]? = some record)
    (hallowed : choices.Allowed s c) :
    ServerState.SaveSetKept s (s.processDisconnect choices c) c record ↔
      ServerState.SaveSetClear s c record :=
  ServerState.saveSetKept_iff hrec h.invariant.tree (h.invariant.root_not_owned hrec) hallowed

end

/-! ## A window manager -/

/-- Client 2 has a frame, and wants the window of client 1 kept. -/
def framedState : ServerState :=
  let s := (ServerState.new.connectClient 1).getD .new
  let s := (s.connectClient 2).getD s
  let s := { s with
    resources := s.resources.createWindow 1 (ResourceTable.childRequest 0x100000 ROOT_WINDOW) }
  let s := { s with
    resources := s.resources.createWindow 2 (ResourceTable.childRequest 0x200000 ROOT_WINDOW) }
  s.changeSaveSet 2 0 0x100000

/-- In addition the window has been put into the frame. -/
def managedState : ServerState :=
  { framedState with
    resources := (framedState.resources.reparentWindow ⟨0x100000, 0x200000, 0, 0⟩).1 }

theorem framedState_reachable : ServerReachable framedState :=
  .step (.changeSaveSet 2 0 0x100000)
    (.step (.tree 2 (.createWindow 2 (ResourceTable.childRequest 0x200000 ROOT_WINDOW)))
      (.step (.tree 1 (.createWindow 1 (ResourceTable.childRequest 0x100000 ROOT_WINDOW)))
        (.step (.connect 2)
          (.step (.connect 1) .init ⟨by decide, by decide⟩ rfl)
          ⟨by decide, by decide⟩ rfl)
        ⟨by decide, rfl, ⟨by decide, by decide⟩, nofun⟩ rfl)
      ⟨by decide, rfl, ⟨by decide, by decide⟩, nofun⟩ rfl)
    trivial rfl

theorem managedState_reachable : ServerReachable managedState :=
  .step (.tree 2 (.reparentWindow ⟨0x100000, 0x200000, 0, 0⟩)) framedState_reachable
    ⟨by decide, trivial, trivial, nofun⟩ rfl

theorem framedState_clients {c : ClientId} {client : ClientState}
    (h : framedState.clients[c]? = some client) :
    c = 1 ∧ client = .connected 0x100000 PER_CLIENT_MASK ∨
      c = 2 ∧ client = { ClientState.connected 0x200000 PER_CLIENT_MASK with
        saveSet := [0x100000] } := by
  have hclients : framedState.clients = (((∅ : Std.ExtTreeMap ClientId ClientState).insert 1
      (.connected 0x100000 PER_CLIENT_MASK)).insert 2
        (.connected 0x200000 PER_CLIENT_MASK)).modify 2 fun c =>
          { c with saveSet := c.saveSet.insert 0x100000 } := rfl
  rw [hclients, ResourceMap.get_modify, ResourceMap.get_insert, ResourceMap.get_insert] at h
  split at h
  · next h2 => exact .inr ⟨h2, (Option.some.inj h).symm⟩
  · split at h
    · next h1 => exact .inl ⟨h1, (Option.some.inj h).symm⟩
    · cases h

theorem disconnect_leaves_nothing_framed :
    (framedState.processDisconnect (framedState.quietChoices 2) 2).ownerOf .Window 0x200000 ≠
      some 2 := by
  have hfree (w : ResourceId) : framedState.KeptFree (· ≠ 2) w := by
    have hrecord {d : ClientId} {client : ClientState} (hd : d ≠ 2)
        (hget : framedState.clients[d]? = some client) :
        client = .connected 0x100000 PER_CLIENT_MASK :=
      (framedState_clients hget).elim And.right fun h2 => absurd h2.1 hd
    refine ⟨fun hd hget m hm => ?_, fun hd hget => ?_, fun hd hget => ?_, nofun, nofun, nofun,
      fun hget => ?_, nofun, nofun, nofun, by nofun⟩
    · rw [hrecord hd hget] at hm
      cases hm
    · rw [hrecord hd hget]
      exact Std.ExtTreeMap.getElem?_empty
    · rw [hrecord hd hget]
      exact List.not_mem_nil
    · cases (Std.ExtTreeMap.getElem?_empty).symm.trans hget
  exact ((disconnect_leaves_nothing_iff framedState_reachable rfl rfl).mpr
    (fun w _ => hfree w) _ (framedState.quietChoices_allowed 2)).owned .Window 0x200000

/-- The save set of client 2 goes on to name the window of client 1. -/
theorem disconnect_leaves_record : ∃ record, framedState.clients[(1 : ClientId)]? = some record ∧
    ServerReachable framedState ∧ framedState.retainsResources 1 = false ∧
    ¬ ServerState.DisconnectClean framedState
      (framedState.processDisconnect (framedState.quietChoices 1) 1) 1 record := by
  refine ⟨_, rfl, framedState_reachable, by decide, fun hclean => ?_⟩
  have hrecords := hclean.records 0x100000 (by decide) (by decide)
  exact hrecords.2.saveSet (d := 2) trivial rfl (by decide)

/-- Beside the frame the window of client 1 survives client 2. -/
theorem disconnect_saveSet_framed :
    (framedState.processDisconnect (framedState.quietChoices 2) 2).resources.windows[
      (0x100000 : ResourceId)]? ≠ none := by
  have hclear : ServerState.SaveSetClear framedState 2
      { ClientState.connected 0x200000 PER_CLIENT_MASK with saveSet := [0x100000] } := by
    have htree := framedState_reachable.invariant.tree
    intro w hw v _ _ x hbelow hdying
    obtain rfl := List.mem_singleton.mp hw
    -- the window has no children, and only the root above it
    have hx : x = 0x100000 := by
      rcases ResourceTable.below_cases.mp hbelow with hx | ⟨child, hchild, -⟩
      · exact hx
      · have hleaf : framedState.resources.links.children 0x100000 = [] := by decide
        rw [Forest.Links.Child, hleaf] at hchild
        cases hchild.2
    subst hx
    obtain ⟨a, howner, hbelow⟩ := hdying
    by_cases ha : (0x100000 : ResourceId) = a
    · subst ha
      exact absurd howner (by decide)
    · have hroot := htree.below_root (htree.below_parent hbelow ha
        (p := ROOT_WINDOW) (by decide))
      subst hroot
      exact absurd howner (by decide)
  obtain ⟨v', hv', -⟩ := (disconnect_saveSet_iff framedState_reachable rfl
    (framedState.quietChoices_allowed 2)).mpr hclear 0x100000 (.head _) _
      (Option.some_get (by decide)).symm (by decide)
  rw [hv']
  exact Option.some_ne_none v'

/-- Inside the frame it is destroyed. -/
theorem disconnect_destroys_saved : ∃ record, managedState.clients[(2 : ClientId)]? = some record ∧
    ServerReachable managedState ∧
    ¬ ServerState.SaveSetKept managedState
      (managedState.processDisconnect (managedState.quietChoices 2) 2) 2 record := by
  refine ⟨_, rfl, managedState_reachable, fun hkept => ?_⟩
  obtain ⟨v', hv', -⟩ := hkept 0x100000 (.head _) _ (Option.some_get (by decide)).symm (by decide)
  revert hv'
  rw [show (managedState.processDisconnect (managedState.quietChoices 2) 2).resources.windows[
    (0x100000 : ResourceId)]? = none by decide]
  nofun

end X12
