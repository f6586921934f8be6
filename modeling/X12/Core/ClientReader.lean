import X12.Core.Resources
import X12.Protocol.ReadRequest
import X12.Protocol.RequestSwap

/-! # The reader of a client

What a client sends is cut into requests on a thread of its own, which hands each
of them to the core together with the file descriptor that came with it. The
descriptors arrive beside the bytes, and are queued until their request has been
read. -/

namespace X12

/-- A descriptor of the server. -/
abbrev RawFd := Int

inductive ErrorKind where
  | ConnectionReset
  | ConnectionAborted
  | BrokenPipe
  | WouldBlock
  | InvalidData
  | Interrupted
  | UnexpectedEof
  | Other
  deriving DecidableEq, Repr

/-! ## Receiving -/

/-- The result of one call of `recvmsg`. -/
inductive RecvResult where
  | failed (kind : ErrorKind)
  | received (bytes : List UInt8) (fds : List RawFd) (truncated : Bool)
  deriving DecidableEq, Repr

def recvWithFds : RecvResult → Except ErrorKind (List UInt8 × List RawFd)
  | .failed kind => .error kind
  | .received bytes fds truncated => if truncated then .error .Other else .ok (bytes, fds)

structure FdReader where
  /-- The results of the calls of `recvmsg` to come; after them the peer is gone. -/
  stream : List RecvResult
  /-- What was received last. -/
  buf : List UInt8
  /-- How much of it has been handed out. -/
  pos : Nat
  /-- In the order in which they arrived. -/
  fds : List RawFd
  deriving DecidableEq, Repr

namespace FdReader

def new (stream : List RecvResult) : FdReader :=
  ⟨stream, [], 0, []⟩

def popFd (r : FdReader) : Option RawFd × FdReader :=
  match r.fds with
  | [] => (none, r)
  | fd :: fds => (some fd, { r with fds })

def fill : EStateM ErrorKind FdReader Unit := fun r =>
  let result := r.stream.headD (.received [] [] false)
  let r := { r with stream := r.stream.tail }
  match recvWithFds result with
  | .ok (bytes, fds) =>
    if bytes = [] ∧ fds = [] then .error .UnexpectedEof { r with buf := [], pos := 0 }
    else .ok () { r with buf := bytes, pos := 0, fds := r.fds ++ fds }
  | .error kind => .error kind { r with buf := [], pos := 0 }

def read (n : Nat) : EStateM ErrorKind FdReader (List UInt8) := do
  if (← get).pos = (← get).buf.length then fill
  let r ← get
  let n := min (r.buf.length - r.pos) n
  set { r with pos := r.pos + n }
  return (r.buf.drop r.pos).take n

end FdReader

structure BlockingFdReader where
  inner : FdReader
  /-- How the waits to come end, with `none` for readable; after them it is. -/
  waits : List (Option ErrorKind)
  deriving DecidableEq, Repr

namespace BlockingFdReader

def waitReadable : EStateM ErrorKind BlockingFdReader Unit := fun r =>
  match r.waits with
  | [] => .ok () r
  | none :: waits => .ok () { r with waits }
  | some kind :: waits => .error kind { r with waits }

/-- At most so many rounds; each that is not the last takes a result off the stream. -/
def readLoop (n : Nat) : Nat → EStateM ErrorKind BlockingFdReader (List UInt8)
  | 0 => throw .Other
  | rounds + 1 => fun r =>
    match r.inner.read n with
    | .ok bytes inner => .ok bytes { r with inner }
    | .error .WouldBlock inner =>
      (do waitReadable; readLoop n rounds : EStateM _ _ _) { r with inner }
    | .error kind inner => .error kind { r with inner }

def read (n : Nat) : EStateM ErrorKind BlockingFdReader (List UInt8) := fun r =>
  readLoop n (r.inner.stream.length + 1) r

/-- At most so many rounds; each takes a byte or a result off the stream. -/
def readExactLoop : Nat → Nat → EStateM ErrorKind BlockingFdReader (List UInt8)
  | _, 0 => pure []
  | 0, _ => throw .Other
  | rounds + 1, n => fun r =>
    match read n r with
    | .ok [] r => .error .UnexpectedEof r
    | .ok bytes r => (do return bytes ++ (← readExactLoop rounds (n - bytes.length)) :
        EStateM _ _ _) r
    | .error .Interrupted r => readExactLoop rounds n r
    | .error kind r => .error kind r

def readExact (n : Nat) : EStateM ErrorKind BlockingFdReader (List UInt8) := fun r =>
  readExactLoop (n + r.inner.stream.length) n r

/-! ## Requests -/

/-- Every round takes a byte at least. -/
def drainLoop : Nat → Nat → EStateM ErrorKind BlockingFdReader Unit
  | _, 0 => pure ()
  | 0, _ => throw .Other
  | rounds + 1, remaining => do
    let take := min remaining 65536
    let _ ← readExact take
    drainLoop rounds (remaining - take)

/-- The body of a malformed request is drained in chunks and dropped. -/
def readBody (opcode data : UInt8) (lengthUnits bodyLen : Nat) (malformed : Bool) :
    EStateM ErrorKind BlockingFdReader (RequestHeader × List UInt8) := do
  if malformed then
    drainLoop bodyLen bodyLen
    return (⟨opcode, data, u32Max⟩, [])
  else
    let body ← readExact bodyLen
    return (⟨opcode, data, lengthUnits⟩, body)

def readAfterHeader (byteOrder : ClientByteOrder) (bigRequestsEnabled : Bool)
    (header : List UInt8) :
    EStateM ErrorKind BlockingFdReader (RequestHeader × List UInt8) := do
  let opcode := header.getD 0 0
  let data := header.getD 1 0
  let lengthUnits := readU16 byteOrder header 2
  if lengthUnits = 0 ∧ bigRequestsEnabled then
    let bigLen ← readExact 4
    let lengthUnits := readU32 byteOrder bigLen 0
    if lengthUnits < 2 then readBody opcode data lengthUnits 0 true
    else
      readBody opcode data lengthUnits (lengthUnits * 4 - 8)
        (maxRequestUnits bigRequestsEnabled < lengthUnits)
  else if lengthUnits < 1 then throw .InvalidData
  else
    readBody opcode data lengthUnits (lengthUnits * 4 - 4)
      (maxRequestUnits bigRequestsEnabled < lengthUnits)

def readRequest (byteOrder : ClientByteOrder) (bigRequestsEnabled : Bool) :
    EStateM ErrorKind BlockingFdReader (Option (RequestHeader × List UInt8)) := fun r =>
  match readExact 4 r with
  | .ok header r => (some <$> readAfterHeader byteOrder bigRequestsEnabled header) r
  | .error kind r =>
    if kind = .UnexpectedEof ∨ kind = .ConnectionReset ∨ kind = .BrokenPipe then .ok none r
    else .error kind r

end BlockingFdReader

/-- The number of descriptors that a request comes with. -/
def expectedFdCount (majorOpcode minorOpcode : UInt8) (body : List UInt8) : Nat :=
  match majorOpcode with
  | 130 => if minorOpcode = 6 then 1 else 0
  | 147 =>
    match minorOpcode with
    | 2 => 1
    | 4 => 1
    | 7 => if 9 ≤ body.length then max 1 (min (byteAt body 8) 4) else 1
    | 10 => 1
    | _ => 0
  | _ => 0

/-- The first descriptor is attached to the request and the others are closed. -/
def popFds : Nat → FdReader → Option RawFd → List RawFd →
    Option RawFd × List RawFd × FdReader
  | 0, r, attachedFd, closed => (attachedFd, closed, r)
  | count + 1, r, attachedFd, closed =>
    match r.popFd with
    | (some raw, r) =>
      if attachedFd.isNone then popFds count r (some raw) closed
      else popFds count r attachedFd (closed ++ [raw])
    | (none, r) => (attachedFd, closed, r)

/-! ## The thread -/

inductive ReaderControl where
  | ApplyBigRequests
  | IgnoreBigRequests
  | Shutdown
  deriving DecidableEq, Repr

inductive TryRecv where
  | Ok (control : ReaderControl)
  | Empty
  | Disconnected
  deriving DecidableEq, Repr

/-- What the core does during one round of the reader's loop. -/
structure CoreSide where
  /-- What is on the control channel when the round starts. -/
  control : TryRecv
  /-- The core takes the request. -/
  takes : Bool
  /-- Its answer to an Enable request; without one the channel is closed. -/
  answer : Option ReaderControl
  deriving DecidableEq, Repr

structure RequestMessage where
  id : ClientId
  sequence : UInt16
  header : RequestHeader
  body : List UInt8
  attachedFd : Option RawFd
  deriving DecidableEq, Repr

/-- A request that was sent to the core, and what became of the descriptors. -/
structure Handover where
  message : RequestMessage
  /-- Queued when the request had been read. -/
  arrived : List RawFd
  closed : List RawFd
  /-- Still queued afterwards. -/
  queued : List RawFd
  deriving DecidableEq, Repr

def BIG_REQUESTS_ENABLE_MINOR : UInt8 := 0

structure ClientReader where
  id : ClientId
  byteOrder : ClientByteOrder
  bigRequestsMajor : UInt8
  reader : BlockingFdReader
  big : Bool
  sequence : UInt16
  deriving DecidableEq, Repr

namespace ClientReader

/-- The reader of a new client. -/
def spawn (id : ClientId) (byteOrder : ClientByteOrder) (bigRequestsMajor : UInt8)
    (stream : List RecvResult) (waits : List (Option ErrorKind)) : ClientReader :=
  ⟨id, byteOrder, bigRequestsMajor, ⟨.new stream, waits⟩, false, 0⟩

/-- The part of a round after the request has been read. -/
def handOver (c : ClientReader) (core : CoreSide) (header : RequestHeader) (body : List UInt8) :
    Option (Handover × Option ClientReader) :=
  let body := swapRequestBody header.opcode header.data c.byteOrder body
  let sequence := c.sequence + 1
  let fdCount := expectedFdCount header.opcode header.data body
  let (attachedFd, closed, inner) := popFds fdCount c.reader.inner none []
  let isEnable := header.opcode = c.bigRequestsMajor ∧ header.data = BIG_REQUESTS_ENABLE_MINOR
  let handover : Handover :=
    { message := ⟨c.id, sequence, header, body, attachedFd⟩
      arrived := c.reader.inner.fds
      closed := closed
      queued := inner.fds }
  let next := { c with reader := { c.reader with inner }, sequence }
  if core.takes then
    if isEnable then
      -- park until the core has processed the Enable
      match core.answer with
      | some .ApplyBigRequests => some (handover, some { next with big := true })
      | some .IgnoreBigRequests => some (handover, some next)
      | some .Shutdown => some (handover, none)
      | none => some (handover, none)
    else some (handover, some next)
  else none

/-- One round of the loop. Without a request the thread is over. -/
def round (c : ClientReader) (core : CoreSide) : Option (Handover × Option ClientReader) :=
  match core.control with
  | .Ok .Shutdown => none
  | .Disconnected => none
  | _ =>
    match c.reader.readRequest c.byteOrder c.big with
    | .ok (some (header, body)) reader => { c with reader }.handOver core header body
    | _ => none

/-- The requests that are sent to the core. -/
def run : List CoreSide → ClientReader → List Handover
  | [], _ => []
  | core :: rest, c =>
    match c.round core with
    | none => []
    | some (handover, none) => [handover]
    | some (handover, some c) => handover :: run rest c

end ClientReader

end X12
