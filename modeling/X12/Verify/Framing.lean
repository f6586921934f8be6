import X12.Verify.FdReader
import X12.Verify.Wire

/-! # Framing stays in sync

Each frame is read whole, also the one whose body is too long to be kept. So the next request
is always read from where the next frame starts. -/

namespace X12

theorem readBody_append (opcode data : UInt8) (lengthUnits : Nat) (malformed : Bool)
    (body rest : List UInt8) :
    readBody opcode data lengthUnits body.length malformed (body ++ rest) =
      .request ⟨opcode, data, if malformed then u32Max else lengthUnits⟩
        (if malformed then [] else body) rest := by
  have hlen : ¬ (body ++ rest).length < body.length := by
    rw [List.length_append]
    omega
  unfold readBody
  rw [if_neg hlen, List.take_left, List.drop_left]
  cases malformed <;> rfl

/-! ## Frames -/

/-- A frame, with the mode in which the reader is when it comes. -/
structure Frame where
  big : Bool
  opcode : UInt8
  data : UInt8
  body : List UInt8
  /-- The frame has a length of its own after the header. -/
  extended : Bool
  whole : body.length % 4 = 0
  fits : if extended then body.length / 4 + 2 < 2 ^ 32 else body.length / 4 + 1 < 2 ^ 16
  allowed : extended → big

namespace Frame

def units (f : Frame) : Nat :=
  f.body.length / 4 + if f.extended then 2 else 1

/-- The number of bytes before the body. -/
def headerBytes (f : Frame) : Nat :=
  if f.extended then 8 else 4

def encode (f : Frame) (order : ClientByteOrder) : List UInt8 :=
  if f.extended then
    f.opcode :: f.data :: 0 :: 0 :: (writeU32 order (UInt32.ofNat f.units) ++ f.body)
  else f.opcode :: f.data :: (writeU16 order (UInt16.ofNat f.units) ++ f.body)

/-- The frame is longer than the reader allows in its mode. -/
def TooLong (f : Frame) : Prop :=
  maxRequestUnits f.big < f.units

instance (f : Frame) : Decidable f.TooLong :=
  inferInstanceAs (Decidable (_ < _))

/-- What a frame is read as. -/
def request (f : Frame) : RequestHeader × List UInt8 :=
  if f.TooLong then (⟨f.opcode, f.data, u32Max⟩, [])
  else (⟨f.opcode, f.data, f.units⟩, f.body)

variable {f : Frame} {order : ClientByteOrder} {rest : List UInt8}

theorem units_mul (f : Frame) : f.units * 4 = f.headerBytes + f.body.length := by
  have hwhole := f.whole
  rw [units, headerBytes]
  cases f.extended
  · simp only [Bool.false_eq_true, if_false]
    omega
  · simp only [if_true]
    omega

theorem units_lt (f : Frame) : f.units < 2 ^ 32 := by
  have hfits := f.fits
  rw [units]
  cases hext : f.extended
  · simp only [hext, Bool.false_eq_true, if_false] at hfits ⊢
    omega
  · simp only [hext, if_true] at hfits ⊢
    exact hfits

theorem readRequest_cons (order : ClientByteOrder) (big : Bool) (a b c d : UInt8)
    (stream : List UInt8) : readRequest order big (a :: b :: c :: d :: stream) =
      if readU16 order [a, b, c, d] 2 = 0 ∧ big then
        if stream.length < 4 then .failed
        else if readU32 order stream 0 < 2 then
          readBody a b (readU32 order stream 0) 0 true (stream.drop 4)
        else
          readBody a b (readU32 order stream 0) (readU32 order stream 0 * 4 - 8)
            (maxRequestUnits big < readU32 order stream 0) (stream.drop 4)
      else if readU16 order [a, b, c, d] 2 < 1 then .failed
      else
        readBody a b (readU16 order [a, b, c, d] 2) (readU16 order [a, b, c, d] 2 * 4 - 4)
          (maxRequestUnits big < readU16 order [a, b, c, d] 2) stream := by
  rw [readRequest, if_neg (BlockingFdReader.not_length_lt_four a b c d stream).mp,
    BlockingFdReader.readU16_append]
  rfl

/-- The header of a frame without a length of its own. -/
theorem encode_normal (order : ClientByteOrder) (hext : f.extended = false) :
    ∃ c d, f.encode order = f.opcode :: f.data :: c :: d :: f.body ∧
      readU16 order [f.opcode, f.data, c, d] 2 = f.units := by
  have hunits : (UInt16.ofNat f.units).toNat = f.units := by
    have hfits := f.fits
    simp only [hext, Bool.false_eq_true, if_false] at hfits
    refine UInt16.toNat_ofNat_of_lt ?_
    simp only [units, hext, Bool.false_eq_true, if_false]
    exact hfits
  obtain ⟨c, d, hcd⟩ : ∃ c d, writeU16 order (UInt16.ofNat f.units) = [c, d] := by
    cases order with
    | littleEndian => exact ⟨_, _, rfl⟩
    | bigEndian => exact ⟨_, _, rfl⟩
  refine ⟨c, d, ?_, ?_⟩
  · simp only [encode, hext, Bool.false_eq_true, if_false, hcd]
    rfl
  · rw [← hunits]
    exact readU16_of_slice hcd.symm

/-- The header of a frame with a length of its own. -/
theorem encode_extended (order : ClientByteOrder) (hext : f.extended = true) :
    ∃ l, f.encode order = f.opcode :: f.data :: 0 :: 0 :: (l ++ f.body) ∧ l.length = 4 ∧
      readU16 order [f.opcode, f.data, 0, 0] 2 = 0 ∧
      ∀ rest, readU32 order (l ++ rest) 0 = f.units := by
  refine ⟨writeU32 order (UInt32.ofNat f.units), if_pos hext, length_writeU32 order _, ?_,
    fun rest => ?_⟩
  · cases order with
    | littleEndian => rfl
    | bigEndian => rfl
  · rw [readU32_writeU32]
    exact UInt32.toNat_ofNat_of_lt f.units_lt

theorem readBody_eq (f : Frame) (rest : List UInt8) :
    readBody f.opcode f.data f.units f.body.length (maxRequestUnits f.big < f.units)
      (f.body ++ rest) = .request f.request.1 f.request.2 rest := by
  rw [readBody_append, request]
  by_cases hlong : f.TooLong
  · have hlimit : maxRequestUnits f.big < f.units := hlong
    rw [if_pos hlong, decide_eq_true hlimit]
    rfl
  · have hlimit : ¬ maxRequestUnits f.big < f.units := hlong
    rw [if_neg hlong, decide_eq_false hlimit]
    rfl

/-- A frame is read as its request, whatever follows it. -/
theorem readRequest_encode (f : Frame) (order : ClientByteOrder) (rest : List UInt8) :
    readRequest order f.big (f.encode order ++ rest) =
      .request f.request.1 f.request.2 rest := by
  have hunits := f.units_mul
  cases hext : f.extended with
  | false =>
    have hheader : f.headerBytes = 4 := by rw [headerBytes, hext]; rfl
    obtain ⟨c, d, heq, hread⟩ := f.encode_normal order hext
    rw [heq, List.cons_append, List.cons_append, List.cons_append, List.cons_append,
      readRequest_cons, hread, if_neg (by omega), if_neg (by omega),
      show f.units * 4 - 4 = f.body.length by omega, readBody_eq]
  | true =>
    have hheader : f.headerBytes = 8 := by rw [headerBytes, hext]; rfl
    obtain ⟨l, heq, hlength, hzero, hread⟩ := f.encode_extended order hext
    rw [heq, List.cons_append, List.cons_append, List.cons_append, List.cons_append,
      List.append_assoc, readRequest_cons, hzero, hread, if_pos ⟨rfl, f.allowed hext⟩,
      if_neg (by rw [List.length_append, hlength]; omega), if_neg (by omega),
      show f.units * 4 - 8 = f.body.length by omega, List.drop_left' hlength, readBody_eq]

end Frame

/-! ## Runs over a stream -/

/-- The frames of a client, one after the other. -/
def encodeFrames (order : ClientByteOrder) (frames : List Frame) : List UInt8 :=
  frames.flatMap (·.encode order)

/-- One call for each mode. -/
def readRequests (order : ClientByteOrder) :
    List Bool → List UInt8 → Option (List (RequestHeader × List UInt8) × List UInt8)
  | [], stream => some ([], stream)
  | big :: modes, stream =>
    match readRequest order big stream with
    | .request header body rest =>
      (readRequests order modes rest).map fun (requests, rest) => ((header, body) :: requests, rest)
    | _ => none

theorem readRequests_encodeFrames (order : ClientByteOrder) (frames : List Frame)
    (rest : List UInt8) :
    readRequests order (frames.map (·.big)) (encodeFrames order frames ++ rest) =
      some (frames.map Frame.request, rest) := by
  induction frames with
  | nil => rfl
  | cons f frames ih =>
    rw [encodeFrames, List.flatMap_cons, List.append_assoc, List.map_cons, readRequests,
      f.readRequest_encode]
    show (readRequests order _ (encodeFrames order frames ++ rest)).map _ = _
    rw [ih]
    rfl

/-! ## Runs over a socket -/

/-- A result that the reader goes on after. -/
def RecvResult.Alive : RecvResult → Prop
  | .failed kind => kind.Retried
  | .received bytes _ truncated => bytes ≠ [] ∧ truncated = false

/-- The bytes that are still to be received. -/
def pendingBytes (stream : List RecvResult) : List UInt8 :=
  (arrivals stream).flatMap Prod.fst

/-- The reader will hand out these bytes and then be at the end. -/
structure FdReader.Holds (r : FdReader) (unread : List UInt8) : Prop where
  pos_le : r.pos ≤ r.buf.length
  alive : ∀ result ∈ r.stream, result.Alive
  bytes : r.buf.drop r.pos ++ pendingBytes r.stream = unread

namespace FdReader

variable {r : FdReader} {unread : List UInt8} {n : Nat}

/-- The bytes that a read takes from the buffer. -/
theorem Holds.handOut (h : r.Holds unread) (hpos : r.pos ≠ r.buf.length) (hn : n ≠ 0) :
    ∃ bytes unread' r', r.handOut n = .ok bytes r' ∧ bytes ≠ [] ∧ bytes.length ≤ n ∧
      unread = bytes ++ unread' ∧ r'.Holds unread' ∧ r'.stream = r.stream := by
  have hpos_le := h.pos_le
  refine ⟨_, _, _, rfl, ?_, ?_, ?_, ⟨?_, h.alive, rfl⟩, rfl⟩
  · rw [← List.length_pos_iff, List.length_take, List.length_drop]
    omega
  · rw [List.length_take]
    omega
  · rw [← h.bytes, ← List.append_assoc, ← List.drop_drop, List.take_append_drop]
  · simp only
    omega

/-- What `fill` does with a result that the reader goes on after. -/
theorem fill_alive {result : RecvResult} {rest : List RecvResult}
    (hs : r.stream = result :: rest) (halive : result.Alive) :
    (∃ kind, result = .failed kind ∧ kind.Retried ∧
        r.fill = .error kind { r with stream := rest, buf := [], pos := 0 }) ∨
      ∃ bytes fds, result = .received bytes fds false ∧ bytes ≠ [] ∧
        r.fill = .ok () ⟨rest, bytes, 0, r.fds ++ fds⟩ := by
  cases result with
  | failed kind =>
    refine .inl ⟨kind, rfl, halive, ?_⟩
    simp only [fill, hs]
    rfl
  | received bytes fds truncated =>
    obtain ⟨hbytes, rfl⟩ := halive
    refine .inr ⟨bytes, fds, rfl, hbytes, ?_⟩
    simp only [fill, hs, List.headD_cons, recvWithFds, Bool.false_eq_true, if_false,
      if_neg fun hempty : bytes = [] ∧ fds = [] => hbytes hempty.1, List.tail_cons]

/-- A read with bytes left hands some out, or fails in a way that is tried again. -/
theorem Holds.read (h : r.Holds unread) (hunread : unread ≠ []) (hn : n ≠ 0) :
    (∃ bytes unread' r', r.read n = .ok bytes r' ∧ bytes ≠ [] ∧ bytes.length ≤ n ∧
      unread = bytes ++ unread' ∧ r'.Holds unread' ∧
        r'.stream.length ≤ r.stream.length) ∨
    ∃ kind r', r.read n = .error kind r' ∧ kind.Retried ∧ r'.Holds unread ∧
      r'.stream.length < r.stream.length := by
  by_cases hpos : r.pos = r.buf.length
  · have hbytes := h.bytes
    rw [hpos, List.drop_length, List.nil_append] at hbytes
    rw [read_of_eq hpos]
    cases hs : r.stream with
    | nil =>
      rw [hs] at hbytes
      exact absurd hbytes.symm hunread
    | cons result rest =>
      have halive := h.alive
      rw [hs] at hbytes halive
      rcases fill_alive hs (halive result List.mem_cons_self) with
        ⟨kind, rfl, hretried, heq⟩ | ⟨bytes, fds, rfl, hnonempty, heq⟩
      · rw [heq]
        exact .inr ⟨kind, _, rfl, hretried,
          ⟨Nat.le_refl 0, fun result hr => halive result (List.mem_cons_of_mem _ hr), hbytes⟩,
          Nat.lt_succ_self _⟩
      · rw [heq]
        have hfilled : Holds ⟨rest, bytes, 0, r.fds ++ fds⟩ unread :=
          ⟨Nat.zero_le _, fun result hr => halive result (List.mem_cons_of_mem _ hr), hbytes⟩
        obtain ⟨out, unread', r', hout, hne, hle, hsplit, hholds, hstream⟩ :=
          hfilled.handOut (fun heq => hnonempty (List.length_eq_zero_iff.mp heq.symm)) hn
        exact .inl ⟨out, unread', r', hout, hne, hle, hsplit, hholds,
          hstream ▸ Nat.le_succ _⟩
  · rw [read_of_ne hpos]
    obtain ⟨out, unread', r', hout, hne, hle, hsplit, hholds, hstream⟩ := h.handOut hpos hn
    exact .inl ⟨out, unread', r', hout, hne, hle, hsplit, hholds, hstream ▸ Nat.le_refl _⟩

end FdReader

namespace BlockingFdReader

/-- The reader will hand out these bytes; a wait ends readable, or is interrupted. -/
structure Holds (r : BlockingFdReader) (unread : List UInt8) : Prop where
  inner : r.inner.Holds unread
  waits : ∀ wait ∈ r.waits, wait = none ∨ wait = some .Interrupted

variable {r : BlockingFdReader} {unread bytes rest : List UInt8} {n : Nat}

theorem Holds.waitReadable (h : r.Holds unread) :
    ∃ r', r'.Holds unread ∧ r'.inner = r.inner ∧
      (r.waitReadable = .ok () r' ∨ r.waitReadable = .error .Interrupted r') := by
  obtain ⟨inner, waits⟩ := r
  cases waits with
  | nil => exact ⟨_, h, rfl, .inl rfl⟩
  | cons wait waits =>
    have hrest : Holds ⟨inner, waits⟩ unread :=
      ⟨h.inner, fun wait hwait => h.waits wait (List.mem_cons_of_mem _ hwait)⟩
    rcases h.waits wait List.mem_cons_self with rfl | rfl
    · exact ⟨_, hrest, rfl, .inl rfl⟩
    · exact ⟨_, hrest, rfl, .inr rfl⟩

/-- A read with bytes left hands some out, or is interrupted. -/
theorem Holds.read (h : r.Holds unread) (hunread : unread ≠ []) (hn : n ≠ 0) :
    (∃ bytes unread' r', read n r = .ok bytes r' ∧ bytes ≠ [] ∧ bytes.length ≤ n ∧
      unread = bytes ++ unread' ∧ r'.Holds unread' ∧
        r'.inner.stream.length ≤ r.inner.stream.length) ∨
    ∃ r', read n r = .error .Interrupted r' ∧ r'.Holds unread ∧
      r'.inner.stream.length < r.inner.stream.length := by
  induction hm : r.inner.stream.length using Nat.strongRecOn generalizing r with
  | _ m ih =>
    subst hm
    rw [read_eq, readRound]
    rcases h.inner.read hunread hn with ⟨bytes, unread', inner, hread, hne, hle, hsplit, hholds,
      hlength⟩ | ⟨kind, inner, hread, hkind, hholds, hlength⟩
    · rw [hread]
      exact .inl ⟨bytes, unread', _, rfl, hne, hle, hsplit, ⟨hholds, h.waits⟩, hlength⟩
    · rw [hread]
      have hnext : Holds { r with inner } unread := ⟨hholds, h.waits⟩
      rcases hkind with rfl | rfl
      · obtain ⟨r', hwaited, hinner, hwait⟩ := hnext.waitReadable
        have hshorter : r'.inner.stream.length < r.inner.stream.length := by
          rw [hinner]
          exact hlength
        simp only [bind, EStateM.bind]
        rcases hwait with hwait | hwait
        · rw [hwait]
          rcases ih _ hshorter hwaited rfl with ⟨bytes, unread', r'', hread', hne, hle, hsplit,
            hholds', hlength'⟩ | ⟨r'', hread', hholds', hlength'⟩
          · exact .inl ⟨bytes, unread', r'', hread', hne, hle, hsplit, hholds', by omega⟩
          · exact .inr ⟨r'', hread', hholds', by omega⟩
        · rw [hwait]
          exact .inr ⟨r', rfl, hwaited, hshorter⟩
      · exact .inr ⟨_, rfl, hnext, hlength⟩

theorem Holds.readExactLoop {rounds : Nat} (h : r.Holds (bytes ++ rest))
    (hrounds : bytes.length + r.inner.stream.length ≤ rounds) :
    ∃ r', readExactLoop rounds bytes.length r = .ok bytes r' ∧ r'.Holds rest := by
  induction rounds generalizing r bytes with
  | zero =>
    obtain rfl : bytes = [] := List.length_eq_zero_iff.mp (by omega)
    exact ⟨r, rfl, h⟩
  | succ rounds ih =>
    by_cases hempty : bytes = []
    · subst hempty
      exact ⟨r, rfl, h⟩
    have hn : bytes.length ≠ 0 := fun heq => hempty (List.length_eq_zero_iff.mp heq)
    have hunread : bytes ++ rest ≠ [] := fun heq => hempty (List.append_eq_nil_iff.mp heq).1
    rw [readExactLoop_succ _ hn, exactRound]
    rcases h.read hunread hn with ⟨first, unread', r₁, hread, hne, hle, hsplit, hholds,
      hlength⟩ | ⟨r₁, hread, hholds, hlength⟩
    · -- what was read is the first part of the bytes
      obtain ⟨more, rfl⟩ : first <+: bytes :=
        List.prefix_of_prefix_length_le ⟨unread', hsplit.symm⟩ ⟨rest, rfl⟩ hle
      rw [List.append_assoc] at hsplit
      obtain rfl := List.append_cancel_left hsplit
      obtain ⟨b, first, rfl⟩ := List.exists_cons_of_ne_nil hne
      rw [List.length_append, List.length_cons] at hrounds
      obtain ⟨r', hmore, hdone⟩ := ih hholds (by omega)
      rw [hread, List.length_append]
      simp only [Nat.add_sub_cancel_left, bind, EStateM.bind, hmore]
      exact ⟨r', rfl, hdone⟩
    · rw [hread]
      exact ih hholds (by omega)

theorem Holds.readExact (h : r.Holds (bytes ++ rest)) :
    ∃ r', readExact bytes.length r = .ok bytes r' ∧ r'.Holds rest :=
  h.readExactLoop (Nat.le_refl _)

/-- The body is dropped to its last byte, and nothing after it. -/
theorem Holds.drainLoop {rounds : Nat} (h : r.Holds (bytes ++ rest))
    (hrounds : bytes.length ≤ rounds) :
    ∃ r', drainLoop rounds bytes.length r = .ok () r' ∧ r'.Holds rest := by
  induction rounds generalizing r bytes with
  | zero =>
    obtain rfl : bytes = [] := List.length_eq_zero_iff.mp (by omega)
    exact ⟨r, rfl, h⟩
  | succ rounds ih =>
    cases bytes with
    | nil => exact ⟨r, rfl, h⟩
    | cons b bytes =>
      have htake : ((b :: bytes).take 65536).length = min (b :: bytes).length 65536 := by
        rw [List.length_take, Nat.min_comm]
      rw [← List.take_append_drop 65536 (b :: bytes), List.append_assoc] at h
      obtain ⟨r₁, hchunk, h₁⟩ := h.readExact
      have hrest : ((b :: bytes).drop 65536).length ≤ rounds := by
        rw [List.length_drop]
        rw [List.length_cons] at hrounds ⊢
        omega
      obtain ⟨r₂, hdrain, h₂⟩ := ih h₁ hrest
      have hleft : (b :: bytes).length - ((b :: bytes).take 65536).length =
          ((b :: bytes).drop 65536).length := by
        rw [htake, List.length_drop]
        omega
      refine ⟨r₂, ?_, h₂⟩
      show EStateM.bind (BlockingFdReader.readExact (min (b :: bytes).length 65536)) (fun _ =>
        BlockingFdReader.drainLoop rounds
          ((b :: bytes).length - min (b :: bytes).length 65536)) r = _
      rw [← htake, EStateM.bind, hchunk, hleft]
      exact hdrain

/-- A body is read or dropped, and what follows it is left. -/
theorem Holds.readBody (f : Frame) (h : r.Holds (f.body ++ rest)) :
    ∃ r', readBody f.opcode f.data f.units f.body.length
        (maxRequestUnits f.big < f.units) r = .ok f.request r' ∧ r'.Holds rest := by
  rw [BlockingFdReader.readBody, Frame.request]
  by_cases hlong : f.TooLong
  · have hlimit : maxRequestUnits f.big < f.units := hlong
    obtain ⟨r', hdrain, hrest⟩ := h.drainLoop (Nat.le_refl _)
    rw [if_pos hlong, if_pos (decide_eq_true hlimit)]
    simp only [bind, EStateM.bind, hdrain]
    exact ⟨r', rfl, hrest⟩
  · have hlimit : ¬ decide (maxRequestUnits f.big < f.units) = true := by
      rw [decide_eq_true_iff]
      exact hlong
    obtain ⟨r', hbody, hrest⟩ := h.readExact
    rw [if_neg hlong, if_neg hlimit]
    simp only [bind, EStateM.bind, hbody]
    exact ⟨r', rfl, hrest⟩

theorem readRequest_of_header {order : ClientByteOrder} {big : Bool} {header : List UInt8}
    {request : RequestHeader × List UInt8} {r₁ r₂ : BlockingFdReader}
    (hfirst : readExact 4 r = .ok header r₁)
    (hafter : readAfterHeader order big header r₁ = .ok request r₂) :
    readRequest order big r = .ok (some request) r₂ := by
  rw [readRequest, hfirst]
  show EStateM.map some (readAfterHeader order big header) r₁ = _
  rw [EStateM.map, hafter]

/-- A frame is read from the socket as its request, and what follows it is left. -/
theorem Holds.readRequest (f : Frame) (order : ClientByteOrder)
    (h : r.Holds (f.encode order ++ rest)) :
    ∃ r', readRequest order f.big r = .ok (some f.request) r' ∧ r'.Holds rest := by
  have hunits := f.units_mul
  cases hext : f.extended with
  | false =>
    have hheader : f.headerBytes = 4 := by rw [Frame.headerBytes, hext]; rfl
    obtain ⟨c, d, heq, hread⟩ := f.encode_normal order hext
    have hstart : r.Holds ([f.opcode, f.data, c, d] ++ (f.body ++ rest)) := by
      rw [heq] at h
      exact h
    obtain ⟨r₁, hfirst, h₁⟩ := hstart.readExact
    obtain ⟨r₂, hbody, h₂⟩ := h₁.readBody f
    refine ⟨r₂, readRequest_of_header hfirst ?_, h₂⟩
    show (if readU16 order [f.opcode, f.data, c, d] 2 = 0 ∧ f.big = true then _
      else if readU16 order [f.opcode, f.data, c, d] 2 < 1 then _
      else BlockingFdReader.readBody f.opcode f.data (readU16 order [f.opcode, f.data, c, d] 2)
        (readU16 order [f.opcode, f.data, c, d] 2 * 4 - 4)
        (maxRequestUnits f.big < readU16 order [f.opcode, f.data, c, d] 2) : Reads _) r₁ = _
    rw [hread, if_neg (by omega), if_neg (by omega),
      show f.units * 4 - 4 = f.body.length by omega]
    exact hbody
  | true =>
    have hheader : f.headerBytes = 8 := by rw [Frame.headerBytes, hext]; rfl
    obtain ⟨l, heq, hlength, hzero, hread⟩ := f.encode_extended order hext
    have hstart : r.Holds ([f.opcode, f.data, 0, 0] ++ (l ++ (f.body ++ rest))) := by
      rw [heq, List.cons_append, List.cons_append, List.cons_append, List.cons_append,
        List.append_assoc] at h
      exact h
    obtain ⟨r₁, hfirst, h₁⟩ := hstart.readExact
    obtain ⟨r₂, hsecond, h₂⟩ := h₁.readExact
    obtain ⟨r₃, hbody, h₃⟩ := h₂.readBody f
    have hunits' : readU32 order l 0 = f.units := by
      have := hread []
      rwa [List.append_nil] at this
    refine ⟨r₃, readRequest_of_header hfirst ?_, h₃⟩
    show (if readU16 order [f.opcode, f.data, 0, 0] 2 = 0 ∧ f.big = true then
      (do
        let bigLen ← BlockingFdReader.readExact 4
        if readU32 order bigLen 0 < 2 then
          BlockingFdReader.readBody f.opcode f.data (readU32 order bigLen 0) 0 true
        else
          BlockingFdReader.readBody f.opcode f.data (readU32 order bigLen 0)
            (readU32 order bigLen 0 * 4 - 8) (maxRequestUnits f.big < readU32 order bigLen 0))
      else _ : Reads _) r₁ = _
    rw [hlength] at hsecond
    rw [if_pos ⟨hzero, f.allowed hext⟩]
    simp only [bind, EStateM.bind, hsecond]
    rw [hunits', if_neg (by omega), show f.units * 4 - 8 = f.body.length by omega]
    exact hbody

/-- One call for each mode. -/
def readRequests (order : ClientByteOrder) : List Bool →
    EStateM ErrorKind BlockingFdReader (List (Option (RequestHeader × List UInt8)))
  | [] => pure []
  | big :: modes => do
    let request ← BlockingFdReader.readRequest order big
    let requests ← readRequests order modes
    return request :: requests

theorem Holds.readRequests (order : ClientByteOrder) (frames : List Frame)
    (h : r.Holds (encodeFrames order frames ++ rest)) :
    ∃ r', readRequests order (frames.map (·.big)) r = .ok (frames.map fun f => some f.request) r' ∧
      r'.Holds rest := by
  induction frames generalizing r with
  | nil => exact ⟨r, rfl, h⟩
  | cons f frames ih =>
    rw [encodeFrames, List.flatMap_cons, List.append_assoc] at h
    obtain ⟨r₁, hfirst, h₁⟩ := h.readRequest f order
    obtain ⟨r₂, hrest, h₂⟩ := ih h₁
    refine ⟨r₂, ?_, h₂⟩
    simp only [List.map_cons, BlockingFdReader.readRequests, bind, EStateM.bind, hfirst, hrest]
    rfl

end BlockingFdReader

/-- Reading request after request, from the stream or from a socket that delivers it in any
pieces, gives the requests of the frames and leaves what follows them. No length of a frame in
bytes exceeds 64 bits or is less than its header. -/
theorem framing_inSync (order : ClientByteOrder) (frames : List Frame) (rest : List UInt8) :
    readRequests order (frames.map (·.big)) (encodeFrames order frames ++ rest) =
        some (frames.map Frame.request, rest) ∧
      (∀ r : BlockingFdReader, r.Holds (encodeFrames order frames ++ rest) →
        ∃ r', r.readRequests order (frames.map (·.big)) =
            .ok (frames.map fun f => some f.request) r' ∧ r'.Holds rest) ∧
      ∀ f ∈ frames, f.units * 4 < 2 ^ 64 ∧ f.units * 4 = f.headerBytes + f.body.length := by
  refine ⟨readRequests_encodeFrames order frames rest, fun r h => h.readRequests order frames,
    fun f _ => ⟨?_, f.units_mul⟩⟩
  have hlt := f.units_lt
  omega

/-- A frame of one word, and one that has a length of its own. -/
def twoFrames : List Frame :=
  [{ big := true, opcode := 43, data := 0, body := [], extended := false, whole := rfl,
     fits := by decide, allowed := fun _ => rfl },
   { big := true, opcode := 127, data := 0, body := [1, 2, 3, 4], extended := true, whole := rfl,
     fits := by decide, allowed := fun _ => rfl }]

/-- A socket that is interrupted between the headers. -/
def interruptedReader : BlockingFdReader where
  inner := .new [.received [43, 0, 0, 1, 127, 0] [] false, .failed .Interrupted,
    .received [0, 0, 0, 0, 0, 3, 1, 2, 3, 4] [] false]
  waits := []

theorem framing_inSync_interrupted :
    ∃ r', interruptedReader.readRequests .bigEndian [true, true] =
        .ok [some (⟨43, 0, 1⟩, []), some (⟨127, 0, 3⟩, [1, 2, 3, 4])] r' ∧ r'.Holds [] := by
  refine (framing_inSync .bigEndian twoFrames []).2.1 interruptedReader
    ⟨⟨Nat.le_refl 0, ?_, rfl⟩, ?_⟩
  · intro result hresult
    simp only [interruptedReader, FdReader.new, List.mem_cons, List.not_mem_nil, or_false]
      at hresult
    rcases hresult with rfl | rfl | rfl
    · exact ⟨List.cons_ne_nil _ _, rfl⟩
    · exact .inr rfl
    · exact ⟨List.cons_ne_nil _ _, rfl⟩
  · intro wait hwait
    cases hwait

end X12
