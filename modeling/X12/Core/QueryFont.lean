import X12.Core.Zpixmap

/-! # The fonts of the host

The host's reply to QueryFont, read from behind its first eight bytes. A missing
byte ends the parser; `usize` has 64 bits, and sums that do not fit panic. -/

namespace X12

/-- Why the parser ends without the metrics. -/
inductive ParseStop where
  /-- `None` -/
  | missing
  | panic (cause : Panic)
  deriving DecidableEq, Repr

/-- `bytes.get(start..stop)?` -/
def getRange (bytes : List UInt8) (start stop : Nat) : Except ParseStop (List UInt8) :=
  if start ≤ stop ∧ stop ≤ bytes.length then .ok ((bytes.drop start).take (stop - start))
  else .error .missing

/-- `*bytes.get(i)?` -/
def getByte (bytes : List UInt8) (i : Nat) : Except ParseStop UInt8 :=
  match bytes[i]? with
  | some b => .ok b
  | none => .error .missing

/-- `bytes[i]` -/
def byteOrPanic (bytes : List UInt8) (i : Nat) : Except ParseStop UInt8 :=
  (indexByte bytes i).mapError .panic

def addUsize (a b : Nat) : Except ParseStop Nat :=
  if a + b ≤ USIZE_MAX then .ok (a + b)
  else .error (.panic (.Expect "attempt to add with overflow"))

def mulUsize (a b : Nat) : Except ParseStop Nat :=
  if a * b ≤ USIZE_MAX then .ok (a * b)
  else .error (.panic (.Expect "attempt to multiply with overflow"))

/-- `Vec::with_capacity(capacity)` -/
def withCapacity (capacity size : Nat) : Except ParseStop Unit :=
  if capacity * size ≤ USIZE_MAX / 2 then .ok ()
  else .error (.panic (.Expect "capacity overflow"))

/-- `u16::from_le_bytes` of the first two bytes. -/
def readU16LeBytes (bytes : List UInt8) : Except ParseStop UInt16 := do
  let b0 ← byteOrPanic bytes 0
  let b1 ← byteOrPanic bytes 1
  return UInt16.ofNat (b0.toNat + 2 ^ 8 * b1.toNat)

def readI16LeBytes (bytes : List UInt8) : Except ParseStop Int16 := do
  return (← readU16LeBytes bytes).toInt16

/-- `u32::from_le_bytes` of the first four bytes. -/
def readU32LeBytes (bytes : List UInt8) : Except ParseStop UInt32 := do
  let b0 ← byteOrPanic bytes 0
  let b1 ← byteOrPanic bytes 1
  let b2 ← byteOrPanic bytes 2
  let b3 ← byteOrPanic bytes 3
  return UInt32.ofNat (b0.toNat + 2 ^ 8 * b1.toNat + 2 ^ 16 * (b2.toNat + 2 ^ 8 * b3.toNat))

def readCharInfo (bytes : List UInt8) : Except ParseStop CharInfo := do
  let leftSideBearing ← readI16LeBytes (← getRange bytes 0 2)
  let rightSideBearing ← readI16LeBytes (← getRange bytes 2 4)
  let characterWidth ← readI16LeBytes (← getRange bytes 4 6)
  let ascent ← readI16LeBytes (← getRange bytes 6 8)
  let descent ← readI16LeBytes (← getRange bytes 8 10)
  let attributes ← readU16LeBytes (← getRange bytes 10 12)
  return { leftSideBearing, rightSideBearing, characterWidth, ascent, descent, attributes }

/-- The metrics without their properties and characters, and the numbers of these. -/
def readFontHead (body : List UInt8) : Except ParseStop (FontMetrics × Nat × Nat) := do
  let minBounds ← readCharInfo (← getRange body 0 12)
  let maxBounds ← readCharInfo (← getRange body 16 28)
  let minCharOrByte2 ← readU16LeBytes (← getRange body 32 34)
  let maxCharOrByte2 ← readU16LeBytes (← getRange body 34 36)
  let defaultChar ← readU16LeBytes (← getRange body 36 38)
  let n ← readU16LeBytes (← getRange body 38 40)
  let drawDirection ← getByte body 40
  let minByte1 ← getByte body 41
  let maxByte1 ← getByte body 42
  let allCharsExist ← getByte body 43
  let fontAscent ← readI16LeBytes (← getRange body 44 46)
  let fontDescent ← readI16LeBytes (← getRange body 46 48)
  let m ← readU32LeBytes (← getRange body 48 52)
  return ({ minBounds, maxBounds, minCharOrByte2, maxCharOrByte2, defaultChar, drawDirection,
            minByte1, maxByte1, allCharsExist := allCharsExist != 0, fontAscent, fontDescent,
            properties := [], namedProperties := [], charInfos := [] }, n.toNat, m.toNat)

/-- The character at an index of the list that starts at `charsOffset`. -/
def readCharInfoAt (body : List UInt8) (charsOffset i : Nat) : Except ParseStop CharInfo := do
  let start ← addUsize charsOffset (← mulUsize i 12)
  readCharInfo (← getRange body start (← addUsize start 12))

/-- The properties and the characters. -/
def readFontTail (body : List UInt8) (n m : Nat) :
    Except ParseStop (List UInt8 × List CharInfo) := do
  let propsOffset := 52
  let some propsLen := checkedMul n 8 | throw .missing
  let charsOffset ← addUsize propsOffset propsLen
  let properties ← getRange body propsOffset charsOffset
  withCapacity m 12
  let charInfos ← (List.range m).mapM (readCharInfoAt body charsOffset)
  return (properties, charInfos)

def parseQueryFontReply (body : List UInt8) : Except ParseStop FontMetrics := do
  let (metrics, n, m) ← readFontHead body
  let (properties, charInfos) ← readFontTail body n m
  return { metrics with properties, charInfos }

end X12
