import X12.Core.Connections
import X12.Lib.Leases
import X12.Verify.Disconnect

/-! # The id ranges of clients

In every run of setups, disconnects and KillClient requests, the ranges of resource
ids that setup threads, clients and zombies have are disjoint. -/

namespace X12

/-! ## The allocator -/

/-- What the allocator has handed out while the counter has come to `next`. -/
structure Issued (next : UInt32) (range : UInt32 × UInt32) : Prop where
  mask : range.2 = PER_CLIENT_MASK
  aligned : range.1 &&& PER_CLIENT_MASK = 0
  first : FIRST_CLIENT_BASE ≤ range.1
  before : range.1 < next

namespace IdAllocator

variable {a a' : IdAllocator} {base mask : UInt32}

def freeRanges (a : IdAllocator) : List (UInt32 × UInt32) :=
  a.freeBases.map (·, PER_CLIENT_MASK)

theorem freeRanges_nextBase {next : UInt32} :
    freeRanges { a with nextBase := next } = a.freeRanges :=
  rfl

/-- The next base of the counter. -/
structure Counts (a : IdAllocator) : Prop where
  aligned : a.nextBase &&& PER_CLIENT_MASK = 0
  first : FIRST_CLIENT_BASE ≤ a.nextBase

theorem Counts.succ (h : a.Counts) (hroom : a.nextBase.toNat + FIRST_CLIENT_BASE.toNat < 2 ^ 32) :
    (a.nextBase + FIRST_CLIENT_BASE) &&& PER_CLIENT_MASK = 0 ∧
      FIRST_CLIENT_BASE ≤ a.nextBase + FIRST_CLIENT_BASE ∧
      a.nextBase < a.nextBase + FIRST_CLIENT_BASE := by
  have hsum : (a.nextBase + FIRST_CLIENT_BASE).toNat = a.nextBase.toNat + 2 ^ 20 := by
    rw [UInt32.toNat_add, Nat.mod_eq_of_lt hroom]
    rfl
  have hmask (n : UInt32) : n &&& PER_CLIENT_MASK = 0 ↔ n.toNat % 2 ^ 20 = 0 := by
    rw [← UInt32.toNat_inj, UInt32.toNat_and]
    exact iff_of_eq (congrArg (· = 0) (Nat.and_two_pow_sub_one_eq_mod _ 20))
  have hfirst : FIRST_CLIENT_BASE.toNat = 2 ^ 20 := rfl
  rw [hmask, UInt32.le_iff_toNat_le, UInt32.lt_iff_toNat_lt, hsum, hfirst]
  have haligned := (hmask _).mp h.aligned
  omega

/-- A released base is reused before the counter moves on. -/
theorem allocate_cases (a : IdAllocator) :
    (∃ base rest, a.freeBases = base :: rest ∧
      a.allocate = ({ a with freeBases := rest }, some (base, PER_CLIENT_MASK))) ∨
    (a.nextBase.toNat + FIRST_CLIENT_BASE.toNat < 2 ^ 32 ∧
      a.allocate = ({ a with nextBase := a.nextBase + FIRST_CLIENT_BASE },
        some (a.nextBase, PER_CLIENT_MASK))) ∨
    a.allocate = (a, none) := by
  unfold allocate
  split
  · next base rest hfree => exact .inl ⟨base, rest, hfree, rfl⟩
  · split
    · exact .inr (.inl ⟨‹_›, rfl⟩)
    · exact .inr (.inr rfl)

/-- The ids of two ranges with the same mask and different bases. -/
theorem not_validateOwned_both {id base' : UInt32} (hne : base ≠ base')
    (h : validateOwned id base mask = true) : validateOwned id base' mask ≠ true := by
  intro h'
  rw [validateOwned, decide_eq_true_eq] at h h'
  exact hne (h.symm.trans h')

end IdAllocator

/-! ## What a step does to ranges -/

namespace ServerState

variable {s s' : ServerState} {c id : ClientId} {record : ClientState} {choices : DisconnectChoices}

def clientRange (s : ServerState) (id : ClientId) : Option (UInt32 × UInt32) :=
  s.clients[id]?.map fun client => (client.resourceIdBase, client.resourceIdMask)

theorem clientRange_eq_none : s.clientRange id = none ↔ s.clients[id]? = none :=
  Option.map_eq_none_iff

/-- The clients have the same ranges, nothing is allocated or released, and nobody
becomes a zombie. -/
structure KeepsRanges (s s' : ServerState) : Prop where
  idAllocator : s'.idAllocator = s.idAllocator
  clients : ∀ id, s'.clientRange id = s.clientRange id
  zombies : ∀ id, s'.zombieClients.contains id = true → s.zombieClients.contains id = true

theorem KeepsRanges.refl (s : ServerState) : KeepsRanges s s :=
  ⟨rfl, fun _ => rfl, fun _ => id⟩

theorem KeepsRanges.trans {s₁ s₂ s₃ : ServerState} (h : KeepsRanges s₁ s₂)
    (h' : KeepsRanges s₂ s₃) : KeepsRanges s₁ s₃ where
  idAllocator := h'.idAllocator.trans h.idAllocator
  clients id := (h'.clients id).trans (h.clients id)
  zombies id hid := h.zombies id (h'.zombies id hid)

theorem killZombie_keepsRanges (s : ServerState) (roots : List ResourceId) (zombie : ClientId) :
    KeepsRanges s (s.killZombie roots zombie) where
  idAllocator := rfl
  clients id := by
    simp only [clientRange, killZombie, destroyZombieResources, dropWindowSubscriptions,
      Std.ExtTreeMap.getElem?_map, Option.map_map]
    rfl
  zombies id hid := by
    rw [Std.ExtTreeMap.contains_iff_mem] at hid ⊢
    exact Std.ExtTreeMap.mem_of_mem_erase hid

theorem handleSetCloseDownMode_keepsRanges {mode : UInt8} :
    KeepsRanges s (s.handleSetCloseDownMode c mode).1 := by
  rw [handleSetCloseDownMode]
  split
  · exact .refl s
  split
  · exact ⟨rfl, fun _ => rfl, fun _ => id⟩
  · exact ⟨rfl, fun _ => rfl, fun _ => id⟩

theorem processDisconnect_ids (hrec : s.clients[c]? = some record) :
    (s.processDisconnect choices c).idAllocator =
      (if s.retainsResources c then s.idAllocator
        else s.idAllocator.release record.resourceIdBase) ∧
    (s.processDisconnect choices c).zombieClients =
      (if s.retainsResources c then s.zombieClients.insert c (s.closeDownModes[c]?.getD 0)
        else s.zombieClients) := by
  rw [processDisconnect, hrec]
  dsimp only
  rw [dropSelectionsOwnedByWindows, releaseDeviceGrabs_others, xfixesSelectionClientClose_others]
  simp only [dropGrabs, retainUnrelated, dropWindowSubscriptions, removeClient, retainsResources,
    Bool.or_eq_true, decide_eq_true_eq]
  split
  · exact ⟨rfl, rfl⟩
  · exact ⟨rfl, rfl⟩

theorem processDisconnect_clientRange (hrec : s.clients[c]? = some record) :
    (s.processDisconnect choices c).clientRange id = if id = c then none else s.clientRange id := by
  rw [clientRange, processDisconnect_clients hrec]
  split
  · rfl
  · rw [Option.map_map]
    rfl

/-- KillClient destroys zombies or disconnects the owner. -/
theorem handleKillClient_cases (s : ServerState) (client : ClientId) (body : List UInt8)
    (choices : KillChoices) :
    (∃ next outcome, s.handleKillClient client body choices = (next, outcome) ∧
      s.KeepsRanges next ∧ ∀ c, outcome ≠ .Disconnect c) ∨
    (∃ owner, s.handleKillClient client body choices =
      (s.processDisconnect choices.disconnect owner, .Handled)) ∨
    s.handleKillClient client body choices = (s, .Disconnect client) := by
  have hzombies (zombies : List ClientId) (s : ServerState) : s.KeepsRanges
      (zombies.foldl (fun s zombie => s.killZombie (choices.roots zombie) zombie) s) := by
    induction zombies generalizing s with
    | nil => exact .refl s
    | cons zombie zombies ih => exact (s.killZombie_keepsRanges _ zombie).trans (ih _)
  unfold handleKillClient
  split
  · exact .inl ⟨s, _, rfl, .refl s, by simp⟩
  dsimp only
  split
  · exact .inl ⟨_, _, rfl, hzombies choices.zombies s, by simp⟩
  split
  · exact .inl ⟨s, _, rfl, .refl s, by simp⟩
  split
  · exact .inl ⟨s, _, rfl, .refl s, by simp⟩
  split
  · exact .inl ⟨_, _, rfl, s.killZombie_keepsRanges _ _, by simp⟩
  split
  · exact .inr (.inr rfl)
  split
  · exact .inr (.inl ⟨_, rfl⟩)
  · exact .inl ⟨s, _, rfl, .refl s, by simp⟩

end ServerState

/-! ## Runs -/

/-- Who has a range. A setup thread has one from the answer of the core until it hands
the connection over. -/
inductive RangeHolder where
  | setupThread (thread : Nat)
  | client (id : ClientId)
  | zombie (id : ClientId)
  deriving DecidableEq, Repr

/-- The server, what the setup threads have been answered, and the ranges of the clients
whose resources were retained, which the server does not note. -/
structure Connections where
  server : ServerState
  settingUp : Nat → Option (UInt32 × UInt32)
  retained : ClientId → Option (UInt32 × UInt32)

/-- What can happen to the clients. A setup thread may end before it has handed its
connection over. The last case is any step that has to do with no range. -/
inductive ConnectionStep where
  | setupAllocate (thread : Nat) (screenWidth screenHeight : UInt16)
  | setupAbandoned (thread : Nat)
  | setupComplete (thread : Nat) (id : ClientId) (progress : SetupProgress)
      (choices : DisconnectChoices)
  | setCloseDownMode (client : ClientId) (mode : UInt8)
  | disconnect (client : ClientId) (choices : DisconnectChoices)
  | killClient (client : ClientId) (body : List UInt8) (choices : KillChoices)
  | other (next : ServerState)

namespace Connections

def new : Connections where
  server := .new
  settingUp _ := none
  retained _ := none

def range (c : Connections) : RangeHolder → Option (UInt32 × UInt32)
  | .setupThread thread => c.settingUp thread
  | .client id => c.server.clientRange id
  | .zombie id => if c.server.zombieClients.contains id then c.retained id else none

/-- The next state of the server. A client that goes and retains its resources leaves
its range to them. -/
def withServer (c : Connections) (next : ServerState) : Connections :=
  { c with
    server := next
    retained := fun id =>
      if c.server.retainsResources id ∧ next.clients[id]? = none then
        (c.server.clientRange id).or (c.retained id)
      else c.retained id }

def disconnect (c : Connections) (choices : DisconnectChoices) (client : ClientId) : Connections :=
  c.withServer (c.server.processDisconnect choices client)

def answer (c : Connections) (thread : Nat) (range : Option (UInt32 × UInt32)) : Connections :=
  { c with settingUp := fun t => if t = thread then range else c.settingUp t }

def setupAllocate (c : Connections) (thread : Nat) (screenWidth screenHeight : UInt16) :
    Connections :=
  let (next, response) := c.server.handleSetupAllocate screenWidth screenHeight
  -- a thread that gets no range refuses the connection
  { c with server := next }.answer thread
    (if response.resourceIdBase = 0 then none
      else some (response.resourceIdBase, response.resourceIdMask))

/-- A client that cannot be served is disconnected at once. -/
def setupComplete (c : Connections) (thread : Nat) (id : ClientId) (progress : SetupProgress)
    (choices : DisconnectChoices) : Connections :=
  match c.settingUp thread with
  | none => c
  | some (base, mask) =>
    let (next, served) := c.server.handleClientSetupComplete id base mask progress
    let c := { c with server := next }.answer thread none
    if served then c else c.disconnect choices id

def killClient (c : Connections) (client : ClientId) (body : List UInt8) (choices : KillChoices) :
    Connections :=
  let (next, outcome) := c.server.handleKillClient client body choices
  match outcome with
  | .Disconnect client => (c.withServer next).disconnect choices.disconnect client
  | _ => c.withServer next

end Connections

namespace ConnectionStep

def apply (c : Connections) : ConnectionStep → Connections
  | setupAllocate thread screenWidth screenHeight => c.setupAllocate thread screenWidth screenHeight
  | setupAbandoned thread => c.answer thread none
  | setupComplete thread id progress choices => c.setupComplete thread id progress choices
  | setCloseDownMode client mode => c.withServer (c.server.handleSetCloseDownMode client mode).1
  | disconnect client choices => c.disconnect choices client
  | killClient client body choices => c.killClient client body choices
  | other next => c.withServer next

/-- The orders in which hash maps are read are those of their entries. -/
def Admitted (c : Connections) : ConnectionStep → Prop
  | disconnect client choices => choices.Allowed c.server client
  | killClient _ _ choices => choices.zombies.Perm c.server.temporaryZombies
  | other next => c.server.KeepsRanges next
  | _ => True

end ConnectionStep

/-- The states that runs of the server reach. -/
inductive Connections.Reachable : Connections → Prop
  | init : Reachable .new
  | step {c : Connections} (step : ConnectionStep) (before : Reachable c)
      (admitted : step.Admitted c) : Reachable (step.apply c)

/-! ## The ranges are disjoint -/

namespace Connections

variable {c : Connections} {s next : ServerState} {holder : RangeHolder}
  {range : UInt32 × UInt32} {choices : DisconnectChoices} {client id : ClientId} {thread : Nat}
  {record : ClientState}

/-- Every range has one holder or is free, and has come from the counter. -/
structure Leased (c : Connections) : Prop where
  exclusive : Leases.Exclusive (Issued c.server.idAllocator.nextBase) c.range
    c.server.idAllocator.freeRanges
  counts : c.server.idAllocator.Counts

theorem leased_new : Leased new where
  exclusive := Leases.Exclusive.none.lose fun {holder range} h => by
    cases holder with
    | setupThread thread => cases h
    | client id => simp [Connections.range, new, ServerState.clientRange, ServerState.new] at h
    | zombie id => simp [Connections.range, new, ServerState.new] at h
  counts := ⟨by decide, by decide⟩

theorem range_zombie (h : c.range (.zombie id) = some range) :
    c.server.zombieClients.contains id = true ∧ c.retained id = some range := by
  rw [Connections.range] at h
  split at h
  · exact ⟨‹_›, h⟩
  · cases h

/-- A range is left to zombies only by a client that retains its resources. -/
theorem withServer_retained
    (h : c.server.retainsResources id = true → next.clientRange id = none →
      c.server.clientRange id = none) : (c.withServer next).retained id = c.retained id := by
  rw [withServer]
  dsimp only
  split
  · next hgone =>
    rw [h hgone.1 (ServerState.clientRange_eq_none.mpr hgone.2), Option.none_or]
  · rfl

theorem range_answer {answered : Option (UInt32 × UInt32)} :
    (c.answer thread answered).range holder =
      if holder = .setupThread thread then answered else c.range holder := by
  cases holder with
  | setupThread t => simp [Connections.range, answer]
  | client id => rfl
  | zombie id => rfl

/-- The state in which a setup thread has been answered. -/
def granted (c : Connections) (thread : Nat) (a : IdAllocator)
    (answered : Option (UInt32 × UInt32)) : Connections :=
  { c with server := { c.server with idAllocator := a } }.answer thread answered

theorem range_granted {a : IdAllocator} {answered : Option (UInt32 × UInt32)} :
    (c.granted thread a answered).range holder =
      if holder = .setupThread thread then answered else c.range holder := by
  rw [granted, range_answer]
  cases holder with
  | setupThread t => rfl
  | client id => rfl
  | zombie id => rfl

/-- What a setup thread makes of an answer. -/
def answered : Option (UInt32 × UInt32) → Option (UInt32 × UInt32)
  | some (base, mask) => if base = 0 then none else some (base, mask)
  | none => none

theorem setupAllocate_granted {screenWidth screenHeight : UInt16} :
    c.setupAllocate thread screenWidth screenHeight =
      c.granted thread c.server.idAllocator.allocate.1
        (answered c.server.idAllocator.allocate.2) := by
  rw [setupAllocate, ServerState.handleSetupAllocate]
  rcases c.server.idAllocator.allocate with ⟨a, _ | ⟨base, mask⟩⟩
  · rfl
  · rfl

theorem disconnect_clientRange (hrec : c.server.clients[client]? = some record) :
    (c.disconnect choices client).server.clientRange id =
      if id = client then none else c.server.clientRange id :=
  ServerState.processDisconnect_clientRange hrec

theorem range_disconnect_client (hrec : c.server.clients[client]? = some record)
    (h : (c.disconnect choices client).range (.client id) = some range) :
    id ≠ client ∧ c.range (.client id) = some range := by
  rw [Connections.range, disconnect_clientRange hrec] at h
  split at h
  · cases h
  · exact ⟨‹_›, h⟩

theorem disconnect_retained (hrec : c.server.clients[client]? = some record)
    (hid : c.server.retainsResources client = true → id ≠ client) :
    (c.disconnect choices client).retained id = c.retained id := by
  refine withServer_retained fun hretains hgone => ?_
  rw [ServerState.processDisconnect_clientRange hrec] at hgone
  split at hgone
  · next heq => exact absurd heq (hid (heq ▸ hretains))
  · exact hgone

theorem disconnect_retained_self (hrec : c.server.clients[client]? = some record)
    (hretains : c.server.retainsResources client = true) :
    (c.disconnect choices client).retained client =
      some (record.resourceIdBase, record.resourceIdMask) := by
  have hgone : (c.server.processDisconnect choices client).clients[client]? = none := by
    rw [ServerState.processDisconnect_clients hrec, if_pos rfl]
  rw [Connections.disconnect, withServer]
  dsimp only
  rw [if_pos ⟨hretains, hgone⟩, ServerState.clientRange, hrec]
  rfl

theorem range_disconnect_zombie (hrec : c.server.clients[client]? = some record)
    (hid : c.server.retainsResources client = true → id ≠ client)
    (h : (c.disconnect choices client).range (.zombie id) = some range) :
    c.range (.zombie id) = some range := by
  obtain ⟨hzombie, hleft⟩ := range_zombie h
  rw [disconnect_retained hrec hid] at hleft
  have hzombies := (@ServerState.processDisconnect_ids _ _ _ choices hrec).2
  have hwas : c.server.zombieClients.contains id = true := by
    rw [← hzombie]
    show _ = (c.server.processDisconnect choices client).zombieClients.contains id
    rw [hzombies]
    split
    · next hretains =>
      rw [Std.ExtTreeMap.contains_insert]
      simp [Ne.symm (hid hretains)]
    · rfl
  rw [Connections.range, if_pos hwas, hleft]

theorem range_client (hrec : c.server.clients[client]? = some record) :
    c.range (.client client) = some (record.resourceIdBase, record.resourceIdMask) := by
  rw [Connections.range, ServerState.clientRange, hrec]
  rfl

namespace Leased

theorem withServer (h : c.Leased) (hnext : c.server.KeepsRanges next) :
    (c.withServer next).Leased := by
  have hlose : ∀ {holder range}, (c.withServer next).range holder = some range →
      c.range holder = some range := by
    intro holder range hrange
    cases holder with
    | setupThread thread => exact hrange
    | client id => exact (hnext.clients id).symm.trans hrange
    | zombie id =>
      obtain ⟨hzombie, hretained⟩ := range_zombie hrange
      rw [withServer_retained fun _ hgone => (hnext.clients id).symm.trans hgone] at hretained
      rw [Connections.range, if_pos (hnext.zombies id hzombie), hretained]
  constructor
  · show Leases.Exclusive (Issued next.idAllocator.nextBase) _ next.idAllocator.freeRanges
    rw [hnext.idAllocator]
    exact h.exclusive.lose hlose
  · show next.idAllocator.Counts
    rw [hnext.idAllocator]
    exact h.counts

/-- The range of a client that retains its resources goes to them. -/
theorem disconnect_retaining (h : c.Leased) (hrec : c.server.clients[client]? = some record)
    (hretains : c.server.retainsResources client = true) (choices : DisconnectChoices) :
    (c.disconnect choices client).Leased := by
  have hids := (@ServerState.processDisconnect_ids _ _ _ choices hrec).1
  rw [if_pos hretains] at hids
  constructor
  · show Leases.Exclusive
      (Issued (c.server.processDisconnect choices client).idAllocator.nextBase) _
      (c.server.processDisconnect choices client).idAllocator.freeRanges
    rw [hids]
    refine h.exclusive.hand (.client client) (.zombie client) ?_
    intro holder range hholder
    cases holder with
    | setupThread thread => exact .inl ⟨by simp, hholder⟩
    | client id =>
      obtain ⟨hne, hid⟩ := range_disconnect_client hrec hholder
      exact .inl ⟨by simpa using hne, hid⟩
    | zombie id =>
      by_cases hid : id = client
      · subst hid
        have hleft := (range_zombie hholder).2
        rw [disconnect_retained_self hrec hretains] at hleft
        exact .inr ⟨rfl, (range_client hrec).trans hleft⟩
      · exact .inl ⟨by simp, range_disconnect_zombie hrec (fun _ => hid) hholder⟩
  · show (c.server.processDisconnect choices client).idAllocator.Counts
    rw [hids]
    exact h.counts

/-- The range of a client whose resources are destroyed is free. -/
theorem disconnect_destroying (h : c.Leased) (hrec : c.server.clients[client]? = some record)
    (hretains : c.server.retainsResources client = false) (choices : DisconnectChoices) :
    (c.disconnect choices client).Leased := by
  have hids := (@ServerState.processDisconnect_ids _ _ _ choices hrec).1
  rw [if_neg (by simp [hretains])] at hids
  have hissued := h.exclusive.held_issued (range_client hrec)
  have hrelease : c.server.idAllocator.release record.resourceIdBase =
      { c.server.idAllocator with
        freeBases := record.resourceIdBase :: c.server.idAllocator.freeBases } := by
    rw [IdAllocator.release, if_neg]
    rintro (hunaligned | hlow)
    · exact hunaligned hissued.aligned
    · exact absurd hissued.first (UInt32.not_le.mpr hlow)
  rw [hrelease] at hids
  constructor
  · show Leases.Exclusive
      (Issued (c.server.processDisconnect choices client).idAllocator.nextBase) _
      (c.server.processDisconnect choices client).idAllocator.freeRanges
    rw [hids]
    refine h.exclusive.giveBack ((range_client hrec).trans ?_) ?_
    · rw [show record.resourceIdMask = PER_CLIENT_MASK from hissued.mask]
    · intro holder range hholder
      cases holder with
      | setupThread thread => exact ⟨by simp, hholder⟩
      | client id =>
        obtain ⟨hne, hid⟩ := range_disconnect_client hrec hholder
        exact ⟨by simpa using hne, hid⟩
      | zombie id =>
        refine ⟨by simp, range_disconnect_zombie hrec (fun htrue => ?_) hholder⟩
        exact absurd (hretains.symm.trans htrue) Bool.false_ne_true
  · show (c.server.processDisconnect choices client).idAllocator.Counts
    rw [hids]
    exact ⟨h.counts.aligned, h.counts.first⟩

theorem disconnect (h : c.Leased) (choices : DisconnectChoices) (client : ClientId) :
    (c.disconnect choices client).Leased := by
  cases hrec : c.server.clients[client]? with
  | none =>
    -- a client that is disconnected twice
    have hnoop : c.server.processDisconnect choices client = c.server := by
      rw [ServerState.processDisconnect, hrec]
    rw [Connections.disconnect, hnoop]
    exact h.withServer (.refl _)
  | some record =>
    cases hretains : c.server.retainsResources client with
    | false => exact h.disconnect_destroying hrec hretains choices
    | true => exact h.disconnect_retaining hrec hretains choices

/-- A setup thread ends, or refuses its connection. -/
theorem abandon (h : c.Leased) (thread : Nat) : (c.answer thread none).Leased where
  exclusive := h.exclusive.lose fun hrange => by
    rw [range_answer] at hrange
    split at hrange
    · cases hrange
    · exact hrange
  counts := h.counts

/-- A setup thread is granted a range that nobody has. -/
theorem grant {a : IdAllocator} {answered : Option (UInt32 × UInt32)} (hcounts : a.Counts)
    (hgrant : ∀ {held : RangeHolder → Option (UInt32 × UInt32)},
      (∀ {holder range}, held holder = some range → c.range holder = some range ∨
        (holder = .setupThread thread ∧ some range = answered)) →
      Leases.Exclusive (Issued a.nextBase) held a.freeRanges) :
    (c.granted thread a answered).Leased where
  exclusive := hgrant fun {holder range} hrange => by
    rw [range_granted] at hrange
    split at hrange
    · exact .inr ⟨‹_›, hrange.symm⟩
    · exact .inl hrange
  counts := hcounts

theorem setupAllocate (h : c.Leased) (thread : Nat) (screenWidth screenHeight : UInt16) :
    (c.setupAllocate thread screenWidth screenHeight).Leased := by
  have hbase {next base : UInt32} (hissued : Issued next (base, PER_CLIENT_MASK)) : base ≠ 0 := by
    rintro rfl
    exact absurd hissued.first (by decide)
  rw [setupAllocate_granted]
  rcases c.server.idAllocator.allocate_cases with
    ⟨base, rest, hfree, heq⟩ | ⟨hroom, heq⟩ | heq
  · rw [heq]
    have hexclusive := h.exclusive
    rw [IdAllocator.freeRanges, hfree, List.map_cons] at hexclusive
    rw [answered, if_neg (hbase (hexclusive.free_issued List.mem_cons_self))]
    refine grant ⟨h.counts.aligned, h.counts.first⟩ fun hheld => ?_
    refine hexclusive.takeFree (.setupThread thread) fun hrange => ?_
    exact (hheld hrange).imp_right fun ⟨hholder, hrange⟩ => ⟨hholder, Option.some.inj hrange⟩
  · rw [heq]
    obtain ⟨haligned, hfirst, hlt⟩ := h.counts.succ hroom
    have hissued : Issued (c.server.idAllocator.nextBase + FIRST_CLIENT_BASE)
        (c.server.idAllocator.nextBase, PER_CLIENT_MASK) :=
      ⟨rfl, h.counts.aligned, h.counts.first, hlt⟩
    have hnew : ¬ Issued c.server.idAllocator.nextBase
        (c.server.idAllocator.nextBase, PER_CLIENT_MASK) :=
      fun hold => UInt32.lt_irrefl _ hold.before
    rw [answered, if_neg (hbase hissued)]
    refine grant ⟨haligned, hfirst⟩ fun hheld => ?_
    rw [IdAllocator.freeRanges_nextBase]
    refine h.exclusive.takeNew (.setupThread thread) hnew hissued ?_ fun hrange => ?_
    · exact fun hold => ⟨hold.mask, hold.aligned, hold.first, UInt32.lt_trans hold.before hlt⟩
    · exact (hheld hrange).imp_right fun ⟨hholder, hrange⟩ => ⟨hholder, Option.some.inj hrange⟩
  · rw [heq]
    exact h.abandon thread

theorem setupComplete (h : c.Leased) (thread : Nat) (id : ClientId) (progress : SetupProgress)
    (choices : DisconnectChoices) : (c.setupComplete thread id progress choices).Leased := by
  rw [Connections.setupComplete]
  split
  · exact h
  · next base mask hthread =>
    have hserved : ({ c with
        server := { c.server with
          clients := c.server.clients.insert id (.connected base mask) } }.answer thread none).Leased := by
      refine ⟨h.exclusive.hand (.setupThread thread) (.client id) ?_, h.counts⟩
      intro holder range hholder
      rw [range_answer] at hholder
      split at hholder
      · cases hholder
      next hne =>
      cases holder with
      | setupThread t => exact .inl ⟨hne, hholder⟩
      | zombie z => exact .inl ⟨hne, hholder⟩
      | client d =>
        rw [Connections.range, ServerState.clientRange, ResourceMap.get_insert] at hholder
        split at hholder
        · next hd => exact .inr ⟨hd ▸ rfl, hthread.trans hholder⟩
        · exact .inl ⟨hne, hholder⟩
    cases progress with
    | notCloned => exact (h.abandon thread).disconnect choices id
    | notServed => exact hserved.disconnect choices id
    | served => exact hserved

theorem killClient (h : c.Leased) (client : ClientId) (body : List UInt8) (choices : KillChoices) :
    (c.killClient client body choices).Leased := by
  rw [Connections.killClient]
  rcases c.server.handleKillClient_cases client body choices with
    ⟨next, outcome, heq, hkeeps, hclosed⟩ | ⟨owner, heq⟩ | heq
  · rw [heq]
    cases outcome with
    | Handled => exact h.withServer hkeeps
    | BadValue resource => exact h.withServer hkeeps
    | Disconnect client => exact absurd rfl (hclosed client)
  · rw [heq]
    exact h.disconnect choices.disconnect owner
  · rw [heq]
    exact (h.withServer (.refl _)).disconnect choices.disconnect client

end Leased

theorem Reachable.leased (h : Reachable c) : c.Leased := by
  induction h with
  | init => exact leased_new
  | step step _ hadmitted ih =>
    cases step with
    | setupAllocate thread screenWidth screenHeight => exact ih.setupAllocate _ _ _
    | setupAbandoned thread => exact ih.abandon thread
    | setupComplete thread id progress choices => exact ih.setupComplete _ _ _ _
    | setCloseDownMode client mode =>
      exact ih.withServer ServerState.handleSetCloseDownMode_keepsRanges
    | disconnect client choices => exact ih.disconnect choices client
    | killClient client body choices => exact ih.killClient client body choices
    | other next => exact ih.withServer hadmitted

/-- In every state that is reached, setup threads, clients and zombies have ranges of
their own: no id is in two of them. -/
theorem Reachable.ranges_disjoint (h : Reachable c) :
    (∀ holder base mask, c.range holder = some (base, mask) →
      mask = PER_CLIENT_MASK ∧ base &&& mask = 0 ∧ FIRST_CLIENT_BASE ≤ base) ∧
    ∀ holder holder' base base' mask mask', c.range holder = some (base, mask) →
      c.range holder' = some (base', mask') → holder ≠ holder' →
      base ≠ base' ∧ ∀ id, ¬ (IdAllocator.validateOwned id base mask = true ∧
        IdAllocator.validateOwned id base' mask' = true) := by
  have hexclusive := h.leased.exclusive
  constructor
  · intro holder base mask hrange
    have hissued := hexclusive.held_issued hrange
    have hmask : mask = PER_CLIENT_MASK := hissued.mask
    exact ⟨hmask, hmask ▸ hissued.aligned, hissued.first⟩
  · intro holder holder' base base' mask mask' hrange hrange' hne
    have hmask : mask = PER_CLIENT_MASK := (hexclusive.held_issued hrange).mask
    have hmask' : mask' = PER_CLIENT_MASK := (hexclusive.held_issued hrange').mask
    subst hmask
    subst hmask'
    have hbase : base ≠ base' := by
      rintro rfl
      exact hne (hexclusive.once hrange hrange')
    exact ⟨hbase, fun id hid => IdAllocator.not_validateOwned_both hbase hid.1 hid.2⟩

/-- Client 1 goes and retains its resources. Client 2 goes, which is noticed twice, and
client 3 gets its base. -/
def reusedConnections : Connections :=
  let choices : DisconnectChoices := ⟨[], [], fun _ => []⟩
  [.setupAllocate 1 800 600, .setupComplete 1 1 .served choices,
    .setupAllocate 2 800 600, .setupComplete 2 2 .served choices,
    .setCloseDownMode 1 1, .disconnect 1 choices, .disconnect 2 choices, .disconnect 2 choices,
    .setupAllocate 3 800 600, .setupComplete 3 3 .served choices].foldl ConnectionStep.apply .new

theorem reachable_reusedConnections : Reachable reusedConnections := by
  unfold reusedConnections
  dsimp only [List.foldl]
  refine .step _ (.step _ (.step _ (.step _ (.step _ (.step _ (.step _ (.step _ (.step _
    (.step _ .init ?_) ?_) ?_) ?_) ?_) ?_) ?_) ?_) ?_) ?_
  case refine_6 | refine_7 | refine_8 => exact ⟨by decide +kernel, by decide +kernel⟩
  all_goals trivial

theorem ranges_disjoint_reused :
    (reusedConnections.range (.zombie 1) = some (0x100000, 0xfffff) ∧
      reusedConnections.range (.client 3) = some (0x200000, 0xfffff)) ∧
    ∀ id, ¬ (IdAllocator.validateOwned id 0x100000 0xfffff = true ∧
      IdAllocator.validateOwned id 0x200000 0xfffff = true) := by
  have hzombie : reusedConnections.range (.zombie 1) = some (0x100000, 0xfffff) := by
    decide +kernel
  have hclient : reusedConnections.range (.client 3) = some (0x200000, 0xfffff) := by
    decide +kernel
  have hdisjoint := (reachable_reusedConnections.ranges_disjoint.2 _ _ _ _ _ _ hzombie hclient
    (by decide)).2
  exact ⟨⟨hzombie, hclient⟩, hdisjoint⟩

end Connections

end X12
