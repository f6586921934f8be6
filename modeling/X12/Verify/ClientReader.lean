import X12.Verify.Framing

/-! # Descriptors go to their own request

The reader takes more off the socket than one request, so descriptors of later
requests wait in the same queue. They stay with their requests as long as the
number of descriptors taken for each request is the number that came with it. -/

namespace X12

open Delivery

/-! ## Requests -/

/-- Only the bodies of core and XInput requests are swapped. -/
theorem expectedFdCount_swap (opcode data : UInt8) (order : ClientByteOrder) (body : List UInt8) :
    expectedFdCount opcode data (swapRequestBody opcode data order body) =
      expectedFdCount opcode data body := by
  cases order with
  | littleEndian => rfl
  | bigEndian =>
    by_cases hdri3 : opcode = 147
    · subst hdri3
      rfl
    · unfold expectedFdCount
      split
      · rfl
      · exact absurd rfl hdri3
      · rfl

/-- The number of descriptors that a request carries in the protocol. -/
def carriedFds (opcode data : UInt8) (body : List UInt8) : Nat :=
  if opcode = 130 then if data = 6 then 1 else 0
  else if opcode = 147 then
    if data = 7 then byteAt body 8
    else if data = 2 ∨ data = 4 ∨ data = 10 then 1
    else 0
  else 0

/-- A request as a client sends it. -/
structure ClientRequest where
  opcode : UInt8
  data : UInt8
  body : List UInt8
  /-- The frame has a length of its own after the header. -/
  extended : Bool
  fds : List RawFd
  whole : body.length % 4 = 0
  fits : if extended then body.length / 4 + 2 < 2 ^ 32 else body.length / 4 + 1 < 2 ^ 16
  attached : fds.length = carriedFds opcode data body

namespace ClientRequest

variable (r : ClientRequest)

def encode (order : ClientByteOrder) : List UInt8 :=
  if r.extended then
    r.opcode :: r.data :: 0 :: 0 ::
      (writeU32 order (UInt32.ofNat (r.body.length / 4 + 2)) ++ r.body)
  else r.opcode :: r.data :: (writeU16 order (UInt16.ofNat (r.body.length / 4 + 1)) ++ r.body)

def packet (order : ClientByteOrder) : Packet UInt8 RawFd :=
  ⟨r.encode order, r.fds⟩

/-- The request is longer than the server allows, so its body is not kept. -/
def Drained : Prop :=
  r.extended ∧ maxRequestUnits true < r.body.length / 4 + 2

instance : Decidable r.Drained :=
  inferInstanceAs (Decidable (_ ∧ _))

def keptBody : List UInt8 :=
  if r.Drained then [] else r.body

/-- The number of descriptors of a PixmapFromBuffers is one that the reader counts. -/
def FdsCounted : Prop :=
  r.opcode = 147 → r.data = 7 →
    1 ≤ byteAt r.body 8 ∧ byteAt r.body 8 ≤ 4 ∧ (r.Drained → byteAt r.body 8 = 1)

instance : Decidable r.FdsCounted :=
  inferInstanceAs (Decidable (_ → _ → _))

variable {r}

/-- The frame of a request, for a reader that can read it. -/
def frame (r : ClientRequest) (big : Bool) (h : r.extended → big) : Frame :=
  ⟨big, r.opcode, r.data, r.body, r.extended, r.whole, r.fits, h⟩

theorem encode_frame (order : ClientByteOrder) {big : Bool} (h : r.extended → big) :
    (r.frame big h).encode order = r.encode order := by
  rw [Frame.encode, encode, Frame.units]
  cases hext : r.extended with
  | false => simp only [frame, hext, Bool.false_eq_true, if_false]
  | true => simp only [frame, hext, if_true]

/-- Only frames with a length of their own can be too long. -/
theorem tooLong_frame {big : Bool} (h : r.extended → big) :
    (r.frame big h).TooLong ↔ r.Drained := by
  have hfits := r.fits
  rw [Frame.TooLong, Drained, Frame.units]
  cases hext : r.extended with
  | false =>
    have hmax : 2 ^ 16 - 1 ≤ maxRequestUnits big := by
      cases big <;> decide
    simp only [hext, Bool.false_eq_true, if_false] at hfits
    simp only [frame, hext, Bool.false_eq_true, if_false, false_and, iff_false, Nat.not_lt]
    omega
  | true =>
    obtain rfl : big = true := h hext
    simp only [frame, hext, if_true, true_and]

/-- A request that has been read is the next one of the client. -/
theorem readRequest_encode {order : ClientByteOrder} {big : Bool} {header : RequestHeader}
    {body rest rest' : List UInt8}
    (h : readRequest order big (r.encode order ++ rest) = .request header body rest') :
    header.opcode = r.opcode ∧ header.data = r.data ∧ body = r.keptBody ∧ rest' = rest := by
  by_cases hallowed : r.extended → big = true
  · rw [← encode_frame order hallowed] at h
    have hread := ((r.frame big hallowed).readRequest_encode order rest).symm.trans h
    cases hread
    rw [Frame.request, keptBody]
    by_cases hdrained : r.Drained
    · rw [if_pos ((tooLong_frame hallowed).mpr hdrained), if_pos hdrained]
      exact ⟨rfl, rfl, rfl, rfl⟩
    · rw [if_neg fun hlong => hdrained ((tooLong_frame hallowed).mp hlong), if_neg hdrained]
      exact ⟨rfl, rfl, rfl, rfl⟩
  · -- a reader in the other mode does not survive the length zero
    obtain ⟨hext, hbig⟩ := Classical.not_imp.mp hallowed
    have hzero : readU16 order [r.opcode, r.data, 0, 0] 2 = 0 := by
      cases order <;> rfl
    rw [encode, if_pos hext, List.cons_append, List.cons_append, List.cons_append,
      List.cons_append, Frame.readRequest_cons, hzero, if_neg fun hboth => hbig hboth.2,
      if_pos Nat.one_pos] at h
    cases h

/-! ## Counting -/

theorem expectedFdCount_eq_carried (h : ¬ (r.opcode = 147 ∧ r.data = 7)) (body : List UInt8) :
    expectedFdCount r.opcode r.data body = r.fds.length := by
  rw [r.attached]
  unfold carriedFds expectedFdCount
  split
  next h130 => simp [h130]
  next h147 =>
    have hdata : r.data ≠ 7 := fun hdata => h ⟨h147, hdata⟩
    simp only [h147, hdata]
    split <;> simp_all
  next h130 h147 =>
    rw [if_neg h130, if_neg h147]

theorem expectedFdCount_pixmapFromBuffers (hopcode : r.opcode = 147) (hdata : r.data = 7)
    (body : List UInt8) :
    expectedFdCount r.opcode r.data body =
      if 9 ≤ body.length then max 1 (min (byteAt body 8) 4) else 1 := by
  rw [hopcode, hdata]
  rfl

/-- The reader counts the descriptors of every request but those kinds of
PixmapFromBuffers, and takes one for a request that comes without. -/
theorem expectedFdCount_cases (r : ClientRequest) :
    r.FdsCounted ∧ expectedFdCount r.opcode r.data r.keptBody = r.fds.length ∨
      ¬ r.FdsCounted ∧ (r.fds = [] ∧ expectedFdCount r.opcode r.data r.keptBody = 1 ∨
        0 < expectedFdCount r.opcode r.data r.keptBody ∧
          expectedFdCount r.opcode r.data r.keptBody < r.fds.length) := by
  by_cases h : r.opcode = 147 ∧ r.data = 7
  · obtain ⟨hopcode, hdata⟩ := h
    have hattached : r.fds.length = byteAt r.body 8 := by
      rw [r.attached, carriedFds, hopcode, hdata]
      rfl
    have hcounted : r.FdsCounted ↔ 1 ≤ r.fds.length ∧ r.fds.length ≤ 4 ∧
        (r.Drained → r.fds.length = 1) := by
      rw [hattached]
      exact ⟨fun h => h hopcode hdata, fun h _ _ => h⟩
    have hnil : r.fds = [] ↔ r.fds.length = 0 := List.length_eq_zero_iff.symm
    have hexpected := expectedFdCount_pixmapFromBuffers hopcode hdata r.keptBody
    rw [hcounted, hnil]
    by_cases hdrained : r.Drained
    · have hone : expectedFdCount r.opcode r.data r.keptBody = 1 := by
        rw [hexpected, keptBody, if_pos hdrained]
        rfl
      simp only [hdrained, true_imp_iff]
      omega
    · have hkept : r.keptBody = r.body := if_neg hdrained
      rw [hkept] at hexpected ⊢
      simp only [hdrained, false_imp_iff, and_true]
      by_cases hlong : 9 ≤ r.body.length
      · rw [if_pos hlong, ← hattached] at hexpected
        omega
      · have habsent : byteAt r.body 8 = 0 := by
          rw [byteAt, List.getD_eq_getElem?_getD, List.getElem?_eq_none (by omega)]
          rfl
        rw [if_neg hlong] at hexpected
        omega
  · exact .inl ⟨fun hopcode hdata => absurd ⟨hopcode, hdata⟩ h, expectedFdCount_eq_carried h _⟩

end ClientRequest

theorem popFds_some (count : Nat) (r : FdReader) (raw : RawFd) (closed : List RawFd) :
    popFds count r (some raw) closed =
      (some raw, closed ++ r.fds.take count, { r with fds := r.fds.drop count }) := by
  induction count generalizing r closed with
  | zero => simp [popFds]
  | succ count ih =>
    obtain ⟨stream, buf, pos, fds⟩ := r
    cases fds with
    | nil => simp [popFds, FdReader.popFd]
    | cons fd fds => simp [popFds, FdReader.popFd, ih]

/-- The first descriptors are taken, of which the very first is attached. -/
theorem popFds_eq (count : Nat) (r : FdReader) :
    popFds count r none [] = ((r.fds.take count).head?, (r.fds.take count).tail,
      { r with fds := r.fds.drop count }) := by
  cases count with
  | zero => simp [popFds]
  | succ count =>
    obtain ⟨stream, buf, pos, fds⟩ := r
    cases fds with
    | nil => simp [popFds, FdReader.popFd]
    | cons fd fds => simp [popFds, FdReader.popFd, popFds_some]

/-! ## The thread -/

namespace ClientReader

variable {c c' : ClientReader} {core : CoreSide} {step : Handover} {next : Option ClientReader}
  {header : RequestHeader} {body : List UInt8}

/-- What is handed over with a request, and what stays in the queue. -/
structure HandsOver (c : ClientReader) (header : RequestHeader) (count : Nat) (step : Handover)
    (next : Option ClientReader) : Prop where
  header : step.message.header = header
  attachedFd : step.message.attachedFd = (c.reader.inner.fds.take count).head?
  arrived : step.arrived = c.reader.inner.fds
  closed : step.closed = (c.reader.inner.fds.take count).tail
  queued : step.queued = c.reader.inner.fds.drop count
  next : ∀ c' ∈ next, c'.byteOrder = c.byteOrder ∧
    c'.reader.inner = { c.reader.inner with fds := c.reader.inner.fds.drop count }

theorem handOver_spec (h : c.handOver core header body = some (step, next)) :
    c.HandsOver header (expectedFdCount header.opcode header.data body) step next := by
  unfold handOver at h
  simp only [expectedFdCount_swap, popFds_eq] at h
  split at h
  · split at h
    · split at h <;> cases h
      · exact ⟨rfl, rfl, rfl, rfl, rfl, fun c' hc' => by cases hc'; exact ⟨rfl, rfl⟩⟩
      · exact ⟨rfl, rfl, rfl, rfl, rfl, fun c' hc' => by cases hc'; exact ⟨rfl, rfl⟩⟩
      · exact ⟨rfl, rfl, rfl, rfl, rfl, nofun⟩
      · exact ⟨rfl, rfl, rfl, rfl, rfl, nofun⟩
    · cases h
      exact ⟨rfl, rfl, rfl, rfl, rfl, fun c' hc' => by cases hc'; exact ⟨rfl, rfl⟩⟩
  · exact nomatch h

/-- A round that hands a request over has read it. -/
theorem round_spec (h : c.round core = some (step, next)) :
    ∃ header body reader, c.reader.readRequest c.byteOrder c.big =
        .ok (some (header, body)) reader ∧
      { c with reader }.HandsOver header (expectedFdCount header.opcode header.data body)
        step next := by
  unfold round at h
  split at h
  · exact nomatch h
  · exact nomatch h
  · split at h
    next header body reader hread => exact ⟨header, body, reader, hread, handOver_spec h⟩
    next => exact nomatch h

variable {sent : List ClientRequest} {order : ClientByteOrder} {k : Nat}

/-- The descriptors of requests, in the order in which they were sent. -/
def fdsOf (sent : List ClientRequest) : List RawFd :=
  sent.flatMap (·.fds)

theorem tokens_packets (sent : List ClientRequest) (order : ClientByteOrder) :
    tokens (sent.map (·.packet order)) = fdsOf sent := by
  rw [tokens, List.flatMap_map]
  rfl

/-- The reader is about to read the request of this number. -/
def AtRequest (c : ClientReader) (sent : List ClientRequest) (k : Nat) : Prop :=
  c.reader.inner.InStep (sent.map (·.packet c.byteOrder))
    (wire ((sent.map (·.packet c.byteOrder)).drop k))
    (tokens ((sent.map (·.packet c.byteOrder)).drop k))

end ClientReader

/-- The request that is handed over has its own descriptors: the first of them is
attached and the others are closed, and only later ones stay in the queue. -/
structure Handover.OwnFds (step : Handover) (r : ClientRequest) (later : List RawFd) : Prop where
  opcode : step.message.header.opcode = r.opcode
  data : step.message.header.data = r.data
  attached : step.message.attachedFd = r.fds.head?
  closed : step.closed = r.fds.tail
  queued : step.queued <+: later

namespace ClientReader

variable {c c' : ClientReader} {core : CoreSide} {step : Handover} {next : Option ClientReader}
  {sent : List ClientRequest} {k : Nat}

/-- What is queued when a request has been read, and how it is taken. -/
theorem ownFds_iff {r : ClientRequest} {header : RequestHeader} {queued later : List RawFd}
    (hopcode : header.opcode = r.opcode) (hdata : header.data = r.data)
    (hstep : c.HandsOver header (expectedFdCount r.opcode r.data r.keptBody) step next)
    (hfds : c.reader.inner.fds = r.fds ++ queued) (hlater : queued <+: later) :
    step.OwnFds r later ↔ r.FdsCounted ∨ r.fds = [] ∧ step.arrived = [] := by
  have hattached := hstep.attachedFd
  have hclosed := hstep.closed
  have hqueued := hstep.queued
  rw [hfds] at hattached hclosed hqueued
  rw [hstep.arrived, hfds]
  have hheader : step.message.header.opcode = r.opcode ∧ step.message.header.data = r.data := by
    rw [hstep.header]
    exact ⟨hopcode, hdata⟩
  rcases r.expectedFdCount_cases with ⟨hcounted, hcount⟩ | ⟨hnot, ⟨hnil, hcount⟩ | ⟨hpos, hlt⟩⟩
  · rw [hcount, List.take_left] at hattached hclosed
    rw [hcount, List.drop_left] at hqueued
    exact ⟨fun _ => .inl hcounted,
      fun _ => ⟨hheader.1, hheader.2, hattached, hclosed, hqueued ▸ hlater⟩⟩
  · rw [hcount, hnil, List.nil_append] at hattached hclosed hqueued
    simp only [hnot, hnil, List.nil_append, false_or, true_and]
    cases queued with
    | nil =>
      exact ⟨fun _ => rfl, fun _ => ⟨hheader.1, hheader.2, by rw [hattached, hnil]; rfl,
        by rw [hclosed, hnil]; rfl, hqueued ▸ List.nil_prefix⟩⟩
    | cons fd queued =>
      refine ⟨fun hown => ?_, fun h => (nomatch h)⟩
      have := hown.attached
      rw [hattached, hnil] at this
      exact nomatch this
  · -- some of its own descriptors are neither attached nor closed
    refine ⟨fun hown => ?_, fun h => ?_⟩
    · have := congrArg List.length (hclosed.symm.trans hown.closed)
      simp only [List.length_tail, List.length_take, List.length_append] at this
      omega
    · rcases h with h | ⟨h, -⟩
      · exact absurd h hnot
      · rw [h] at hlt
        exact absurd hlt (Nat.not_lt_zero _)

/-- The reader is at the next request when it has taken the descriptors of this one. -/
theorem next_atRequest {r : ClientRequest} {header : RequestHeader} {queued later : List RawFd}
    {packets : List (Packet UInt8 RawFd)} {unread : List UInt8}
    (hstep : c.HandsOver header (expectedFdCount r.opcode r.data r.keptBody) step next)
    (hfds : c.reader.inner.fds = r.fds ++ queued)
    (hin : c.reader.inner.InStep packets unread (r.fds ++ later))
    (h : r.FdsCounted ∨ r.fds = [] ∧ step.arrived = []) :
    ∀ c' ∈ next, c'.byteOrder = c.byteOrder ∧ c'.reader.inner.InStep packets unread later := by
  intro c' hc'
  obtain ⟨horder, hinner⟩ := hstep.next c' hc'
  refine ⟨horder, ?_⟩
  have hdrop : c.reader.inner.fds.drop (expectedFdCount r.opcode r.data r.keptBody) = queued := by
    rcases r.expectedFdCount_cases with ⟨-, hcount⟩ | ⟨hnot, -⟩
    · rw [hfds, hcount, List.drop_left]
    · obtain ⟨hnil, hempty⟩ := h.resolve_left hnot
      rw [hstep.arrived, hfds, hnil, List.nil_append] at hempty
      rw [hfds, hnil, hempty, List.nil_append, List.drop_nil]
  have hdelivery := hin.delivery
  rw [hfds] at hdelivery
  rw [hinner, hdrop]
  exact ⟨hin.pos_le, hdelivery.take⟩

/-- One round takes the descriptors of its request exactly when it counts them or
there are none to take. -/
theorem round_ownFds_iff (h : c.AtRequest sent k) (hround : c.round core = some (step, next)) :
    ∃ r, sent[k]? = some r ∧
      (step.OwnFds r (fdsOf (sent.drop (k + 1))) ↔
        r.FdsCounted ∨ r.fds = [] ∧ step.arrived = []) ∧
      (r.FdsCounted ∨ r.fds = [] ∧ step.arrived = [] →
        ∀ c' ∈ next, c'.AtRequest sent (k + 1)) := by
  obtain ⟨header, body, reader, hread, hstep⟩ := round_spec hround
  obtain ⟨unread, hcut, hin⟩ := BlockingFdReader.readRequest_spec h hread
  -- there is a request to be read
  cases hr : sent[k]? with
  | none =>
    rw [← List.map_drop, List.drop_eq_nil_of_le (List.getElem?_eq_none_iff.mp hr)] at hcut
    exact nomatch hcut
  | some r =>
    obtain ⟨hk, hget⟩ := List.getElem?_eq_some_iff.mp hr
    have hdrop : (sent.map (·.packet c.byteOrder)).drop k =
        r.packet c.byteOrder :: (sent.map (·.packet c.byteOrder)).drop (k + 1) := by
      rw [← List.map_drop, List.drop_eq_getElem_cons hk, hget, List.map_cons, List.map_drop]
    rw [hdrop, wire_cons] at hcut
    rw [hdrop, tokens_cons] at hin
    obtain ⟨hopcode, hdata, rfl, rfl⟩ := ClientRequest.readRequest_encode hcut
    obtain ⟨queued, hfds, hlater⟩ := hin.delivery.exists_queued
    rw [hopcode, hdata] at hstep
    refine ⟨r, rfl, ?_, fun hc c' hc' => ?_⟩
    · rw [← List.map_drop, tokens_packets] at hlater
      exact ownFds_iff hopcode hdata hstep hfds hlater
    · obtain ⟨horder, hin'⟩ := next_atRequest hstep hfds hin hc c' hc'
      rw [AtRequest, horder]
      exact hin'

/-- Every request from a number on that was handed over has its own descriptors. -/
def AllOwnFds (sent : List ClientRequest) (k : Nat) (steps : List Handover) : Prop :=
  ∀ i step, steps[i]? = some step →
    ∃ r, sent[k + i]? = some r ∧ step.OwnFds r (fdsOf (sent.drop (k + i + 1)))

/-- Every request from a number on that was handed over is one that the reader
counts the descriptors of, or has none and found none to take. -/
def AllCounted (sent : List ClientRequest) (k : Nat) (steps : List Handover) : Prop :=
  ∀ i step r, steps[i]? = some step → sent[k + i]? = some r →
    r.FdsCounted ∨ r.fds = [] ∧ step.arrived = []

variable {steps : List Handover}

theorem allOwnFds_cons : AllOwnFds sent k (step :: steps) ↔
    (∃ r, sent[k]? = some r ∧ step.OwnFds r (fdsOf (sent.drop (k + 1)))) ∧
      AllOwnFds sent (k + 1) steps := by
  refine ⟨fun h => ⟨h 0 step rfl, fun i step' hi => ?_⟩, fun h i step' hi => ?_⟩
  · rw [Nat.add_right_comm k 1 i]
    exact h (i + 1) step' hi
  · cases i with
    | zero =>
      cases hi
      exact h.1
    | succ i =>
      rw [← Nat.add_assoc, Nat.add_right_comm k i 1]
      exact h.2 i step' hi

theorem allCounted_cons {r : ClientRequest} (hr : sent[k]? = some r) :
    AllCounted sent k (step :: steps) ↔
      (r.FdsCounted ∨ r.fds = [] ∧ step.arrived = []) ∧ AllCounted sent (k + 1) steps := by
  refine ⟨fun h => ⟨h 0 step r rfl hr, fun i step' r' hi hr' => ?_⟩, fun h i step' r' hi hr' => ?_⟩
  · rw [Nat.add_right_comm k 1 i] at hr'
    exact h (i + 1) step' r' hi hr'
  · cases i with
    | zero =>
      cases hi
      rw [Nat.add_zero, hr] at hr'
      cases hr'
      exact h.1
    | succ i =>
      rw [← Nat.add_assoc, Nat.add_right_comm k i 1] at hr'
      exact h.2 i step' r' hi hr'

/-- Round by round: up to the first miscounted request every one gets its own. -/
theorem allOwnFds_iff {cores : List CoreSide} (h : c.AtRequest sent k) :
    AllOwnFds sent k (run cores c) ↔ AllCounted sent k (run cores c) := by
  induction cores generalizing c k with
  | nil => exact ⟨fun _ i step r hi => (nomatch hi), fun _ i step hi => (nomatch hi)⟩
  | cons core cores ih =>
    rw [run]
    cases hround : c.round core with
    | none => exact ⟨fun _ i step r hi => (nomatch hi), fun _ i step hi => (nomatch hi)⟩
    | some result =>
      obtain ⟨step, next⟩ := result
      obtain ⟨r, hr, hown, hnext⟩ := round_ownFds_iff h hround
      have hhead : (∃ r, sent[k]? = some r ∧ step.OwnFds r (fdsOf (sent.drop (k + 1)))) ↔
          (r.FdsCounted ∨ r.fds = [] ∧ step.arrived = []) := by
        rw [← hown, hr]
        exact ⟨fun ⟨_, h, h'⟩ => Option.some.inj h ▸ h', fun h => ⟨r, rfl, h⟩⟩
      cases next with
      | none =>
        rw [allOwnFds_cons, allCounted_cons hr, hhead]
        exact and_congr_right fun _ =>
          ⟨fun _ i step r hi => (nomatch hi), fun _ i step hi => (nomatch hi)⟩
      | some c' =>
        rw [allOwnFds_cons, allCounted_cons hr, hhead]
        exact and_congr_right fun hc => ih (hnext hc c' rfl)

end ClientReader

/-- For whatever the kernel makes of what a client sends: every request is handed
over with its own descriptors exactly when the reader counts those of every
PixmapFromBuffers that it reads, one without descriptors being harmless while there
are none in the queue. -/
theorem ClientReader.run_ownFds_iff (sent : List ClientRequest) (id : ClientId)
    (order : ClientByteOrder) (bigRequestsMajor : UInt8) (stream : List RecvResult)
    (waits : List (Option ErrorKind)) (cores : List CoreSide)
    (h : Delivers (sent.map (·.packet order)) (wire (sent.map (·.packet order)))
      (tokens (sent.map (·.packet order))) (arrivals stream)) :
    AllOwnFds sent 0 (run cores (spawn id order bigRequestsMajor stream waits)) ↔
      AllCounted sent 0 (run cores (spawn id order bigRequestsMajor stream waits)) := by
  refine allOwnFds_iff ⟨Nat.le_refl 0, InStep.start (fun p hp => ?_) h⟩
  obtain ⟨r, -, rfl⟩ := List.mem_map.mp hp
  simp only [ClientRequest.packet, ClientRequest.encode]
  split <;> exact List.cons_ne_nil _ _

namespace ClientReader

/-- A PixmapFromBuffers with so many buffers. -/
def pixmapFromBuffers (buffers : UInt8) (fds : List RawFd)
    (h : fds.length = carriedFds 147 7 [1, 0, 0, 0, 2, 0, 0, 0, buffers, 0, 0, 0]) :
    ClientRequest :=
  ⟨147, 7, [1, 0, 0, 0, 2, 0, 0, 0, buffers, 0, 0, 0], false, fds, show 12 % 4 = 0 by decide,
    show 12 / 4 + 1 < 2 ^ 16 by decide, h⟩

def fenceFromFd (fd : RawFd) : ClientRequest :=
  ⟨147, 4, [1, 0, 0, 0, 3, 0, 0, 0, 0, 0, 0, 0], false, [fd], rfl, by decide, rfl⟩

/-- All that was sent arrives at once. -/
def arrivesAtOnce (sent : List ClientRequest) : List RecvResult :=
  [.received (wire (sent.map (·.packet .littleEndian))) (fdsOf sent) false]

theorem delivers_arrivesAtOnce (sent : List ClientRequest) :
    Delivers (sent.map (·.packet .littleEndian)) (wire (sent.map (·.packet .littleEndian)))
      (tokens (sent.map (·.packet .littleEndian))) (arrivals (arrivesAtOnce sent)) := by
  refine ⟨[], [], (List.append_nil _).symm, ?_, fun _ _ => Nat.zero_le _, trivial⟩
  rw [tokens_packets, List.append_nil]

/-- The core takes every request. -/
def takesAll : CoreSide :=
  ⟨.Empty, true, none⟩

def twoBuffers : List ClientRequest :=
  [pixmapFromBuffers 2 [5, 6] rfl, fenceFromFd 7]

theorem run_ownFds_iff_twoBuffers :
    AllOwnFds twoBuffers 0 (run [takesAll, takesAll]
      (spawn 1 .littleEndian 135 (arrivesAtOnce twoBuffers) [])) := by
  refine (run_ownFds_iff twoBuffers 1 .littleEndian 135 (arrivesAtOnce twoBuffers) []
    [takesAll, takesAll] (delivers_arrivesAtOnce twoBuffers)).mpr fun i step r _ hr => .inl ?_
  have hcounted : ∀ r ∈ twoBuffers, r.FdsCounted := by decide
  exact hcounted r (List.mem_of_getElem? hr)

example : (run [takesAll, takesAll] (spawn 1 .littleEndian 135 (arrivesAtOnce twoBuffers) [])).map
    (fun step => (step.message.attachedFd, step.closed)) = [(some 5, [6]), (some 7, [])] := by
  decide +kernel

def noBuffers : List ClientRequest :=
  [pixmapFromBuffers 0 [] rfl, fenceFromFd 7]

/-- A PixmapFromBuffers without buffers takes the descriptor of the next request. -/
theorem noBuffers_takes :
    Delivers (noBuffers.map (·.packet .littleEndian))
        (wire (noBuffers.map (·.packet .littleEndian)))
        (tokens (noBuffers.map (·.packet .littleEndian))) (arrivals (arrivesAtOnce noBuffers)) ∧
      ¬ AllOwnFds noBuffers 0 (run [takesAll, takesAll]
        (spawn 1 .littleEndian 135 (arrivesAtOnce noBuffers) [])) := by
  refine ⟨delivers_arrivesAtOnce noBuffers, fun h => ?_⟩
  have htaken : ((run [takesAll, takesAll] (spawn 1 .littleEndian 135 (arrivesAtOnce noBuffers)
      []))[0]?).map (·.message.attachedFd) = some (some 7) := by
    decide +kernel
  obtain ⟨step, hstep, hattached⟩ := Option.map_eq_some_iff.mp htaken
  obtain ⟨r, hr, hown⟩ := h 0 step hstep
  cases hr
  rw [hown.attached] at hattached
  exact nomatch hattached

end ClientReader

end X12
