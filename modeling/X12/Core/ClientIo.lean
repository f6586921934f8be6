import X12.Core.ClientReader

/-! # Writing to a client

Bytes for a client are written to its socket at once if it takes them, and else
wait in a queue. -/

namespace X12

def OUTBOUND_CAP : Nat := 4 * 1024 * 1024

inductive WriteOutcome where
  /-- Everything is on the wire. -/
  | Done
  /-- Some bytes are buffered. -/
  | WouldBlock
  /-- The peer is gone or the buffer full. -/
  | Disconnect
  deriving DecidableEq, Repr

/-- What the code meets at one write to a socket. -/
structure SocketTurn where
  /-- The length of the contiguous front slice of the queue. -/
  front : Nat
  /-- The number of bytes that the socket accepts, at most those offered. -/
  answer : Except ErrorKind Nat

def SocketTurn.write (turn : SocketTurn) (bytes : List UInt8) : Except ErrorKind Nat :=
  turn.answer.map (min · bytes.length)

structure ClientOutbound where
  outbound : List UInt8
  /-- The number of writes so far. -/
  writes : Nat
  /-- What the socket has accepted so far. -/
  accepted : List UInt8
  deriving DecidableEq, Repr

def disconnectKind (kind : ErrorKind) : Bool :=
  kind = .BrokenPipe || kind = .ConnectionReset || kind = .ConnectionAborted

namespace ClientOutbound

def new : ClientOutbound :=
  ⟨[], 0, []⟩

/-- After a write of which the socket accepted these bytes. -/
def wrote (client : ClientOutbound) (bytes : List UInt8) : ClientOutbound :=
  { client with writes := client.writes + 1, accepted := client.accepted ++ bytes }

def bufferOrDisconnect (client : ClientOutbound) (bytes : List UInt8) :
    WriteOutcome × ClientOutbound :=
  if client.outbound ≠ [] ∧ client.outbound.length + bytes.length > OUTBOUND_CAP then
    (.Disconnect, client)
  else (.WouldBlock, { client with outbound := client.outbound ++ bytes })

variable (socket : Nat → SocketTurn)

def drainOutbound (client : ClientOutbound) :
    EStateM.Result ErrorKind ClientOutbound WriteOutcome :=
  if client.outbound = [] then .ok .Done client
  else
    let turn := socket client.writes
    let chunk := (client.outbound.take turn.front).take (8 * 1024)
    match turn.write chunk with
    | .ok 0 => .ok .Disconnect (client.wrote [])
    | .ok (n + 1) =>
      drainOutbound
        { client.wrote (chunk.take (n + 1)) with outbound := client.outbound.drop (n + 1) }
    | .error kind =>
      if kind = .WouldBlock then .ok .WouldBlock (client.wrote [])
      else if disconnectKind kind then .ok .Disconnect (client.wrote [])
      else .error kind (client.wrote [])
termination_by client.outbound.length
decreasing_by
  have := List.length_pos_iff.mpr ‹client.outbound ≠ []›
  simp only [List.length_drop]
  omega

/-- The write of new bytes when none are pending. -/
def writeDirect (client : ClientOutbound) (bytes : List UInt8) :
    EStateM.Result ErrorKind ClientOutbound WriteOutcome :=
  match (socket client.writes).write bytes with
  | .ok n =>
    if n = bytes.length then .ok .Done (client.wrote bytes)
    else if n = 0 then .ok .Disconnect (client.wrote [])
    else
      let (outcome, client) := (client.wrote (bytes.take n)).bufferOrDisconnect (bytes.drop n)
      .ok outcome client
  | .error kind =>
    if kind = .WouldBlock then
      let (outcome, client) := (client.wrote []).bufferOrDisconnect bytes
      .ok outcome client
    else if disconnectKind kind then .ok .Disconnect (client.wrote [])
    else .error kind (client.wrote [])

def writeOrBuffer (client : ClientOutbound) (bytes : List UInt8) :
    EStateM.Result ErrorKind ClientOutbound WriteOutcome :=
  if client.outbound ≠ [] then
    match client.drainOutbound socket with
    | .ok .Done client => client.writeDirect socket bytes
    | .ok .WouldBlock client =>
      let (outcome, client) := client.bufferOrDisconnect bytes
      .ok outcome client
    | .ok .Disconnect client => .ok .Disconnect client
    | .error kind client => .error kind client
  else client.writeDirect socket bytes

end ClientOutbound

end X12
