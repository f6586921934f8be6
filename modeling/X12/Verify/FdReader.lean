import X12.Core.ClientReader
import X12.Lib.Delivery

/-! # Reading from the socket

The results of `recvmsg` are cut anew into what the caller of `read` asks for, and
into requests. However they are cut, a request that is read from the socket is the
one at this place of the client's stream, and the queue holds the descriptors that
have arrived and were not taken. -/

namespace X12

open Delivery

/-- What arrives, up to the first result that the reader does not survive. -/
def arrivals : List RecvResult → List (List UInt8 × List RawFd)
  | [] => []
  | .failed _ :: rest => arrivals rest
  | .received bytes fds truncated :: rest =>
    if truncated then [] else (bytes, fds) :: arrivals rest

/-- The calls that fail in this way are made again. -/
def ErrorKind.Retried (kind : ErrorKind) : Prop :=
  kind = .WouldBlock ∨ kind = .Interrupted

variable {sent : List (Packet UInt8 RawFd)} {unread bytes : List UInt8} {untaken : List RawFd}
  {kind : ErrorKind} {n : Nat}

/-! ## Reading -/

namespace FdReader

/-- The reader has read all but `unread` and taken all but `untaken`. -/
structure InStep (r : FdReader) (sent : List (Packet UInt8 RawFd)) (unread : List UInt8)
    (untaken : List RawFd) : Prop where
  pos_le : r.pos ≤ r.buf.length
  delivery : Delivery.InStep sent unread untaken (r.buf.drop r.pos) r.fds (arrivals r.stream)

variable {r r' : FdReader}

/-- What `fill` does with the next result. -/
theorem fill_cases (r : FdReader) :
    (r.stream = [] ∧ r.fill = .error .UnexpectedEof { r with buf := [], pos := 0 }) ∨
      ∃ result rest, r.stream = result :: rest ∧
        ((∃ kind, result = .failed kind ∧
            r.fill = .error kind { r with stream := rest, buf := [], pos := 0 }) ∨
          (∃ kind, ¬ kind.Retried ∧
            r.fill = .error kind { r with stream := rest, buf := [], pos := 0 }) ∨
          ∃ bytes fds, result = .received bytes fds false ∧
            r.fill = .ok () ⟨rest, bytes, 0, r.fds ++ fds⟩) := by
  cases hs : r.stream with
  | nil =>
    refine .inl ⟨rfl, ?_⟩
    simp only [fill, hs]
    rfl
  | cons result rest =>
    refine .inr ⟨result, rest, rfl, ?_⟩
    cases result with
    | failed kind =>
      refine .inl ⟨kind, rfl, ?_⟩
      simp only [fill, hs]
      rfl
    | received bytes fds truncated =>
      cases truncated with
      | true =>
        refine .inr (.inl ⟨.Other, by simp [ErrorKind.Retried], ?_⟩)
        simp only [fill, hs]
        rfl
      | false =>
        by_cases hempty : bytes = [] ∧ fds = []
        · refine .inr (.inl ⟨.UnexpectedEof, by simp [ErrorKind.Retried], ?_⟩)
          simp only [fill, hs, List.headD_cons, recvWithFds, Bool.false_eq_true, if_false,
            if_pos hempty, List.tail_cons]
        · refine .inr (.inr ⟨bytes, fds, rfl, ?_⟩)
          simp only [fill, hs, List.headD_cons, recvWithFds, Bool.false_eq_true, if_false,
            if_neg hempty, List.tail_cons]

theorem length_fill (r : FdReader) :
    match r.fill with
    | .ok _ r' => r'.stream.length ≤ r.stream.length
    | .error kind r' => kind.Retried → r'.stream.length < r.stream.length := by
  rcases fill_cases r with ⟨-, heq⟩ | ⟨result, rest, hs, ⟨kind, rfl, heq⟩ | ⟨kind, hkind, heq⟩ |
    ⟨bytes, fds, rfl, heq⟩⟩
  · rw [heq]
    exact fun h => absurd h (by simp [ErrorKind.Retried])
  · rw [heq, hs]
    exact fun _ => Nat.lt_succ_self _
  · rw [heq]
    exact fun h => absurd h hkind
  · rw [heq, hs]
    exact Nat.le_succ _

/-- The bytes that a reader with something in its buffer hands out. -/
def handOut (r : FdReader) (n : Nat) : EStateM.Result ErrorKind FdReader (List UInt8) :=
  .ok ((r.buf.drop r.pos).take (min (r.buf.length - r.pos) n))
    { r with pos := r.pos + min (r.buf.length - r.pos) n }

theorem read_of_ne (hpos : r.pos ≠ r.buf.length) (n : Nat) : read n r = r.handOut n := by
  show (if r.pos = r.buf.length then _ else _ : EStateM ErrorKind FdReader (List UInt8)) r = _
  rw [if_neg hpos]
  rfl

theorem read_of_eq (hpos : r.pos = r.buf.length) (n : Nat) :
    read n r = match r.fill with
      | .ok _ r' => r'.handOut n
      | .error kind r' => .error kind r' := by
  show (if r.pos = r.buf.length then _ else _ : EStateM ErrorKind FdReader (List UInt8)) r = _
  rw [if_pos hpos]
  show EStateM.bind fill _ r = _
  rw [EStateM.bind]
  cases r.fill <;> rfl

theorem length_read (r : FdReader) (n : Nat) :
    match read n r with
    | .ok _ r' => r'.stream.length ≤ r.stream.length
    | .error kind r' => kind.Retried → r'.stream.length < r.stream.length := by
  by_cases hpos : r.pos = r.buf.length
  · have hfill := length_fill r
    rw [read_of_eq hpos]
    cases hf : r.fill with
    | ok _ r' =>
      rw [hf] at hfill
      exact hfill
    | error kind r' =>
      rw [hf] at hfill
      exact hfill
  · rw [read_of_ne hpos]
    exact Nat.le_refl _

/-- An empty buffer is filled with the next chunk. -/
theorem InStep.fill (h : r.InStep sent unread untaken) (hpos : r.pos = r.buf.length) :
    match r.fill with
    | .ok _ r' => r'.InStep sent unread untaken
    | .error kind r' => kind.Retried → r'.InStep sent unread untaken := by
  have hempty : r.buf.drop r.pos = [] := by rw [hpos, List.drop_length]
  have hdelivery := h.delivery
  rw [hempty] at hdelivery
  rcases fill_cases r with ⟨-, heq⟩ | ⟨result, rest, hs, ⟨kind, rfl, heq⟩ | ⟨kind, hkind, heq⟩ |
    ⟨bytes, fds, rfl, heq⟩⟩
  · rw [heq]
    exact fun h => absurd h (by simp [ErrorKind.Retried])
  · rw [heq]
    rw [hs] at hdelivery
    exact fun _ => ⟨Nat.le_refl 0, hdelivery⟩
  · rw [heq]
    exact fun h => absurd h hkind
  · rw [heq]
    rw [hs] at hdelivery
    exact ⟨Nat.zero_le _, hdelivery.arrive⟩

theorem InStep.handOut (h : r.InStep sent unread untaken) (n : Nat) :
    match r.handOut n with
    | .ok bytes r' => bytes.length ≤ n ∧
      ∃ unread', unread = bytes ++ unread' ∧ r'.InStep sent unread' untaken
    | .error _ _ => False := by
  have hsplit := (List.take_append_drop (min (r.buf.length - r.pos) n) (r.buf.drop r.pos)).symm
  have hdelivery := h.delivery
  rw [hsplit, List.drop_drop] at hdelivery
  obtain ⟨unread', hunread, hrest⟩ := hdelivery.read
  have hpos := h.pos_le
  exact ⟨Nat.le_trans (List.length_take_le ..) (Nat.min_le_right ..), unread', hunread,
    by simp only; omega, hrest⟩

theorem InStep.read (h : r.InStep sent unread untaken) (n : Nat) :
    match FdReader.read n r with
    | .ok bytes r' => bytes.length ≤ n ∧
      ∃ unread', unread = bytes ++ unread' ∧ r'.InStep sent unread' untaken
    | .error kind r' => kind.Retried → r'.InStep sent unread untaken := by
  by_cases hpos : r.pos = r.buf.length
  · have hfill := h.fill hpos
    rw [read_of_eq hpos]
    cases hf : r.fill with
    | ok _ r' =>
      rw [hf] at hfill
      exact hfill.handOut n
    | error kind r' =>
      rw [hf] at hfill
      exact hfill
  · rw [read_of_ne hpos]
    exact h.handOut n

end FdReader

namespace BlockingFdReader

variable {r r' : BlockingFdReader}

theorem waitReadable_inner (r : BlockingFdReader) :
    match r.waitReadable with
    | .ok _ r' => r'.inner = r.inner
    | .error _ r' => r'.inner = r.inner := by
  obtain ⟨inner, waits⟩ := r
  cases waits with
  | nil => rfl
  | cons wait waits => cases wait <;> rfl

/-! ### The loops

Each loop of the source is its one round followed by itself; the bounds on the
number of rounds are never reached. -/

/-- The computation that goes on reading. -/
abbrev Reads (α : Type) : Type :=
  EStateM ErrorKind BlockingFdReader α

def readRound (n : Nat) (again : Reads (List UInt8)) : Reads (List UInt8) := fun r =>
  match r.inner.read n with
  | .ok bytes inner => .ok bytes { r with inner }
  | .error .WouldBlock inner => (do waitReadable; again : Reads _) { r with inner }
  | .error kind inner => .error kind { r with inner }

theorem readLoop_succ (n rounds : Nat) (r : BlockingFdReader) :
    readLoop n (rounds + 1) r = readRound n (readLoop n rounds) r :=
  rfl

/-- A round hands out bytes, goes on with fewer results to come, or fails. -/
theorem readRound_cases (n : Nat) (r : BlockingFdReader) :
    (∃ bytes inner waits, r.inner.read n = .ok bytes inner ∧
      ∀ again, readRound n again r = .ok bytes ⟨inner, waits⟩) ∨
    (∃ r', r.inner.read n = .error .WouldBlock r'.inner ∧
      r'.inner.stream.length < r.inner.stream.length ∧
      ∀ again, readRound n again r = again r') ∨
    ∃ kind kind' inner waits, r.inner.read n = .error kind inner ∧
      (kind = kind' ∨ kind = .WouldBlock) ∧
      ∀ again, readRound n again r = .error kind' ⟨inner, waits⟩ := by
  have hlength := FdReader.length_read r.inner n
  unfold readRound
  cases hread : r.inner.read n with
  | ok bytes inner => exact .inl ⟨bytes, inner, _, rfl, fun _ => rfl⟩
  | error kind inner =>
    rw [hread] at hlength
    cases kind with
    | WouldBlock =>
      have hwait := waitReadable_inner { r with inner }
      simp only [bind, EStateM.bind]
      cases hw : waitReadable { r with inner } with
      | ok _ r' =>
        rw [hw] at hwait
        obtain rfl : r'.inner = inner := hwait
        exact .inr (.inl ⟨r', rfl, hlength (.inl rfl), fun _ => rfl⟩)
      | error kind' r' =>
        rw [hw] at hwait
        obtain ⟨inner', waits⟩ := r'
        obtain rfl : inner' = inner := hwait
        exact .inr (.inr ⟨_, kind', inner', waits, rfl, .inr rfl, fun _ => rfl⟩)
    | _ => exact .inr (.inr ⟨_, _, inner, _, rfl, .inl rfl, fun _ => rfl⟩)

/-- A round goes on only with fewer results to come. -/
theorem readRound_congr {again again' : Reads (List UInt8)}
    (h : ∀ r', r'.inner.stream.length < r.inner.stream.length → again r' = again' r') :
    readRound n again r = readRound n again' r := by
  rcases readRound_cases n r with
    ⟨_, _, _, -, heq⟩ | ⟨r', -, hlt, heq⟩ | ⟨_, _, _, _, -, -, heq⟩
  · rw [heq, heq]
  · rw [heq, heq, h r' hlt]
  · rw [heq, heq]

theorem readLoop_congr {rounds rounds' : Nat} (h : r.inner.stream.length < rounds)
    (h' : r.inner.stream.length < rounds') : readLoop n rounds r = readLoop n rounds' r := by
  induction rounds generalizing rounds' r with
  | zero => exact absurd h (Nat.not_lt_zero _)
  | succ rounds ih =>
    cases rounds' with
    | zero => exact absurd h' (Nat.not_lt_zero _)
    | succ rounds' =>
      rw [readLoop_succ, readLoop_succ]
      exact readRound_congr fun r' hr' => ih (by omega) (by omega)

theorem read_eq (n : Nat) (r : BlockingFdReader) : read n r = readRound n (read n) r := by
  rw [read, readLoop_succ]
  exact readRound_congr fun r' hr' => readLoop_congr hr' (Nat.lt_succ_self _)

/-- What holds whenever a read is made and is kept by one that would block. -/
theorem read_rule {I : FdReader → Prop}
    {Q : EStateM.Result ErrorKind BlockingFdReader (List UInt8) → Prop} (hI : I r.inner)
    (again : ∀ inner inner', I inner → inner.read n = .error .WouldBlock inner' → I inner')
    (done : ∀ inner bytes inner' waits, I inner → inner.read n = .ok bytes inner' →
      Q (.ok bytes ⟨inner', waits⟩))
    (failed : ∀ inner kind kind' inner' waits, I inner → inner.read n = .error kind inner' →
      kind = kind' ∨ kind = .WouldBlock → Q (.error kind' ⟨inner', waits⟩)) : Q (read n r) := by
  induction hm : r.inner.stream.length using Nat.strongRecOn generalizing r with
  | _ m ih =>
    subst hm
    rw [read_eq]
    rcases readRound_cases n r with ⟨bytes, inner, waits, hread, heq⟩ | ⟨r', hread, hlt, heq⟩ |
      ⟨kind, kind', inner, waits, hread, hkind, heq⟩
    · rw [heq]
      exact done _ _ _ _ hI hread
    · rw [heq]
      exact ih _ hlt (again _ _ hI hread) rfl
    · rw [heq]
      exact failed _ _ _ _ _ hI hread hkind

/-- No results are put back, and an interrupted read has taken one. -/
def Shortens (length : Nat) : EStateM.Result ErrorKind BlockingFdReader (List UInt8) → Prop
  | .ok _ r => r.inner.stream.length ≤ length
  | .error kind r => kind = .Interrupted → r.inner.stream.length < length

theorem shortens_read (n : Nat) (r : BlockingFdReader) :
    Shortens r.inner.stream.length (read n r) := by
  refine read_rule (I := fun inner => inner.stream.length ≤ r.inner.stream.length)
    (Nat.le_refl _) ?again ?done ?failed
  case again =>
    intro inner inner' hI hread
    have := FdReader.length_read inner n
    rw [hread] at this
    exact Nat.le_trans (Nat.le_of_lt (this (.inl rfl))) hI
  case done =>
    intro inner bytes inner' waits hI hread
    have := FdReader.length_read inner n
    rw [hread] at this
    exact Nat.le_trans this hI
  case failed =>
    intro inner kind kind' inner' waits hI hread hkind hinterrupted
    have := FdReader.length_read inner n
    rw [hread] at this
    exact Nat.lt_of_lt_of_le (this (hkind.elim (fun h => .inr (h.trans hinterrupted)) .inl)) hI

/-- The reader stays in step, having read what it hands out. -/
def HandsOut (sent : List (Packet UInt8 RawFd)) (unread : List UInt8) (untaken : List RawFd)
    (n : Nat) : EStateM.Result ErrorKind BlockingFdReader (List UInt8) → Prop
  | .ok bytes r => bytes.length ≤ n ∧
    ∃ unread', unread = bytes ++ unread' ∧ r.inner.InStep sent unread' untaken
  | .error kind r => kind = .Interrupted → r.inner.InStep sent unread untaken

theorem handsOut_read (h : r.inner.InStep sent unread untaken) (n : Nat) :
    HandsOut sent unread untaken n (read n r) := by
  refine read_rule (I := fun inner => inner.InStep sent unread untaken) h ?again ?done ?failed
  case again =>
    intro inner inner' hI hread
    have := hI.read n
    rw [hread] at this
    exact this (.inl rfl)
  case done =>
    intro inner bytes inner' waits hI hread
    have := hI.read n
    rw [hread] at this
    exact this
  case failed =>
    intro inner kind kind' inner' waits hI hread hkind hinterrupted
    have := hI.read n
    rw [hread] at this
    exact this (hkind.elim (fun h => .inr (h.trans hinterrupted)) .inl)

/-! ### Reading so many bytes -/

def exactRound (n : Nat) (again : Nat → Reads (List UInt8)) : Reads (List UInt8) := fun r =>
  match read n r with
  | .ok [] r => .error .UnexpectedEof r
  | .ok bytes r => (do return bytes ++ (← again (n - bytes.length)) : Reads _) r
  | .error .Interrupted r => again n r
  | .error kind r => .error kind r

theorem readExactLoop_succ (rounds : Nat) {n : Nat} (hn : n ≠ 0) :
    readExactLoop (rounds + 1) n = exactRound n (readExactLoop rounds) := by
  cases n with
  | zero => exact absurd rfl hn
  | succ n => rfl

theorem exactRound_congr {again again' : Nat → Reads (List UInt8)} (hn : n ≠ 0)
    (h : ∀ m r', m + r'.inner.stream.length < n + r.inner.stream.length → again m r' = again' m r') :
    exactRound n again r = exactRound n again' r := by
  have hlength := shortens_read n r
  unfold exactRound
  cases hread : read n r with
  | ok bytes r' =>
    rw [hread] at hlength
    cases bytes with
    | nil => rfl
    | cons b bytes =>
      have hstream : r'.inner.stream.length ≤ r.inner.stream.length := hlength
      simp only [bind, EStateM.bind]
      rw [h _ r' (by simp only [List.length_cons]; omega)]
  | error kind r' =>
    rw [hread] at hlength
    cases kind with
    | Interrupted =>
      exact h n r' (Nat.add_lt_add_left (hlength rfl) n)
    | _ => rfl

theorem readExactLoop_congr {rounds rounds' : Nat} (h : n + r.inner.stream.length ≤ rounds)
    (h' : n + r.inner.stream.length ≤ rounds') :
    readExactLoop rounds n r = readExactLoop rounds' n r := by
  by_cases hn : n = 0
  · subst hn
    cases rounds <;> cases rounds' <;> rfl
  induction rounds generalizing rounds' n r with
  | zero => omega
  | succ rounds ih =>
    cases rounds' with
    | zero => omega
    | succ rounds' =>
      rw [readExactLoop_succ _ hn, readExactLoop_succ _ hn]
      refine exactRound_congr hn fun m r' hr' => ?_
      by_cases hm : m = 0
      · subst hm
        cases rounds <;> cases rounds' <;> rfl
      · exact ih (by omega) (by omega) hm

/-- The loop goes on until there is nothing left to fill. -/
theorem readExact_eq (n : Nat) (r : BlockingFdReader) :
    readExact n r = if n = 0 then .ok [] r else exactRound n readExact r := by
  split
  next hn =>
    subst hn
    rw [readExact]
    cases 0 + r.inner.stream.length <;> rfl
  next hn =>
    rw [readExact, readExactLoop_congr (Nat.le_refl _) (Nat.le_succ _), readExactLoop_succ _ hn]
    exact exactRound_congr hn fun m r' hr' => readExactLoop_congr (Nat.le_of_lt hr') (Nat.le_refl _)

theorem readExactLoop_spec {rounds : Nat} (h : r.inner.InStep sent unread untaken)
    (hread : readExactLoop rounds n r = .ok bytes r') : bytes.length = n ∧
      ∃ unread', unread = bytes ++ unread' ∧ r'.inner.InStep sent unread' untaken := by
  induction rounds generalizing n r unread bytes with
  | zero =>
    cases n with
    | zero =>
      cases hread
      exact ⟨rfl, unread, rfl, h⟩
    | succ n => exact nomatch hread
  | succ rounds ih =>
    by_cases hn : n = 0
    · subst hn
      cases hread
      exact ⟨rfl, unread, rfl, h⟩
    · have hround := handsOut_read h n
      rw [readExactLoop_succ _ hn, exactRound] at hread
      cases hr : read n r with
      | ok first r₁ =>
        rw [hr] at hread hround
        obtain ⟨hle, unread', rfl, h₁⟩ := hround
        cases first with
        | nil => exact nomatch hread
        | cons b first =>
          simp only [bind, EStateM.bind] at hread
          cases hr₁ : readExactLoop rounds (n - (b :: first).length) r₁ with
          | ok more r₂ =>
            rw [hr₁] at hread
            cases hread
            obtain ⟨hlength, unread'', rfl, h₂⟩ := ih h₁ hr₁
            refine ⟨?_, unread'', (List.append_assoc ..).symm, h₂⟩
            rw [List.length_append, hlength]
            omega
          | error kind r₂ =>
            rw [hr₁] at hread
            exact nomatch hread
      | error kind r₁ =>
        rw [hr] at hread hround
        cases kind with
        | Interrupted => exact ih (hround rfl) hread
        | _ => exact nomatch hread

theorem readExact_spec (h : r.inner.InStep sent unread untaken)
    (hread : readExact n r = .ok bytes r') : bytes.length = n ∧
      ∃ unread', unread = bytes ++ unread' ∧ r'.inner.InStep sent unread' untaken :=
  readExactLoop_spec h hread

/-! ### Reading a request -/

theorem bind_eq_ok {σ ε α β : Type} {x : EStateM ε σ α} {f : α → EStateM ε σ β} {s s' : σ} {b : β}
    (h : (x >>= f) s = .ok b s') : ∃ a s₁, x s = .ok a s₁ ∧ f a s₁ = .ok b s' := by
  simp only [bind, EStateM.bind] at h
  cases hx : x s with
  | ok a s₁ =>
    rw [hx] at h
    exact ⟨a, s₁, rfl, h⟩
  | error e s₁ =>
    rw [hx] at h
    exact nomatch h

theorem drainLoop_spec {rounds remaining : Nat} (h : r.inner.InStep sent unread untaken)
    (hread : drainLoop rounds remaining r = .ok () r') :
    ∃ dropped unread', dropped.length = remaining ∧ unread = dropped ++ unread' ∧
      r'.inner.InStep sent unread' untaken := by
  induction rounds generalizing remaining r unread with
  | zero =>
    cases remaining with
    | zero =>
      cases hread
      exact ⟨[], unread, rfl, rfl, h⟩
    | succ remaining => exact nomatch hread
  | succ rounds ih =>
    cases remaining with
    | zero =>
      cases hread
      exact ⟨[], unread, rfl, rfl, h⟩
    | succ remaining =>
      obtain ⟨chunk, r₁, hchunk, hrest⟩ := bind_eq_ok hread
      obtain ⟨hlength, unread', rfl, h₁⟩ := readExact_spec h hchunk
      obtain ⟨dropped, unread'', hdropped, rfl, h₂⟩ := ih h₁ hrest
      refine ⟨chunk ++ dropped, unread'', ?_, (List.append_assoc ..).symm, h₂⟩
      rw [List.length_append, hlength, hdropped]
      omega

variable {order : ClientByteOrder} {big : Bool} {header : RequestHeader} {body : List UInt8}

/-- Read from the socket, a body is what it is in the stream of the client. -/
theorem readBody_spec {opcode data : UInt8} {lengthUnits bodyLen : Nat} {malformed : Bool}
    (h : r.inner.InStep sent unread untaken)
    (hread : readBody opcode data lengthUnits bodyLen malformed r = .ok (header, body) r') :
    ∃ unread', X12.readBody opcode data lengthUnits bodyLen malformed unread =
      .request header body unread' ∧ r'.inner.InStep sent unread' untaken := by
  cases malformed with
  | true =>
    obtain ⟨_, r₁, hdrain, hret⟩ := bind_eq_ok hread
    cases hret
    obtain ⟨dropped, unread', rfl, rfl, h₁⟩ := drainLoop_spec h hdrain
    exact ⟨unread', by simp [X12.readBody], h₁⟩
  | false =>
    obtain ⟨body, r₁, hbody, hret⟩ := bind_eq_ok hread
    cases hret
    obtain ⟨rfl, unread', rfl, h₁⟩ := readExact_spec h hbody
    exact ⟨unread', by simp [X12.readBody], h₁⟩

theorem exists_four {l : List UInt8} (h : l.length = 4) : ∃ a b c d, l = [a, b, c, d] := by
  match l, h with
  | [a, b, c, d], _ => exact ⟨a, b, c, d, rfl⟩

theorem not_length_lt_four (a b c d : UInt8) (rest : List UInt8) :
    (a :: b :: c :: d :: rest).length < 4 ↔ False :=
  iff_false_intro (Nat.not_lt.mpr (Nat.le_add_left 4 rest.length))

theorem readU16_append (order : ClientByteOrder) (a b c d : UInt8) (rest : List UInt8) :
    readU16 order (a :: b :: c :: d :: rest) 2 = readU16 order [a, b, c, d] 2 := by
  cases order <;> rfl

theorem readU32_append (order : ClientByteOrder) (a b c d : UInt8) (rest : List UInt8) :
    readU32 order (a :: b :: c :: d :: rest) 0 = readU32 order [a, b, c, d] 0 := by
  cases order <;> rfl

theorem readRequest_spec (h : r.inner.InStep sent unread untaken)
    (hread : readRequest order big r = .ok (some (header, body)) r') :
    ∃ unread', X12.readRequest order big unread = .request header body unread' ∧
      r'.inner.InStep sent unread' untaken := by
  unfold readRequest at hread
  cases hfirst : readExact 4 r with
  | error kind r₁ =>
    rw [hfirst] at hread
    simp only at hread
    split at hread <;> exact nomatch hread
  | ok first r₁ =>
    rw [hfirst] at hread
    obtain ⟨hlength, unread₁, rfl, h₁⟩ := readExact_spec h hfirst
    obtain ⟨a, b, c, d, rfl⟩ := exists_four hlength
    obtain ⟨_, r₂, hafter, hret⟩ := bind_eq_ok hread
    cases hret
    simp only [readAfterHeader, List.getD_cons_zero, List.getD_cons_succ] at hafter
    simp only [X12.readRequest, List.cons_append, List.nil_append, not_length_lt_four, if_false,
      readU16_append, List.getD_cons_zero, List.getD_cons_succ, List.drop_succ_cons, List.drop_zero]
    by_cases hbig : readU16 order [a, b, c, d] 2 = 0 ∧ big
    · rw [if_pos hbig] at hafter ⊢
      obtain ⟨second, r₃, hsecond, hbody⟩ := bind_eq_ok hafter
      obtain ⟨hlength', unread₂, rfl, h₃⟩ := readExact_spec h₁ hsecond
      obtain ⟨e, f, g, i, rfl⟩ := exists_four hlength'
      simp only [List.cons_append, List.nil_append, not_length_lt_four, if_false, readU32_append,
        List.drop_succ_cons, List.drop_zero]
      by_cases hshort : readU32 order [e, f, g, i] 0 < 2
      · rw [if_pos hshort] at hbody ⊢
        exact readBody_spec h₃ hbody
      · rw [if_neg hshort] at hbody ⊢
        exact readBody_spec h₃ hbody
    · rw [if_neg hbig] at hafter ⊢
      by_cases hshort : readU16 order [a, b, c, d] 2 < 1
      · rw [if_pos hshort] at hafter
        exact nomatch hafter
      · rw [if_neg hshort] at hafter ⊢
        exact readBody_spec h₁ hafter

end BlockingFdReader

end X12
