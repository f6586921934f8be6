import X12.Core.Gc
import X12.Core.HostPixmaps
import X12.Core.WindowTree
import X12.Protocol.RequestLengths

/-! # Value lists

A request with a value mask has a value of four bytes for each bit of the mask.
The mask and the values are validated before the request is parsed, by walks of
their own through the list. -/

namespace X12

/-- `mask & (1 << bit) != 0` -/
def hasBit (mask : UInt32) (bit : Nat) : Bool :=
  mask.toNat.testBit bit

/-! ## Validation -/

def checkU32 (body : List UInt8) (offset : Nat) (validBits : UInt32) : Option UInt32 :=
  if body.length < offset + 4 then none
  else
    let mask := u32Le body offset
    if mask &&& ~~~validBits ≠ 0 then some mask else none

def checkU16 (body : List UInt8) (offset : Nat) (validBits : UInt16) : Option UInt32 :=
  if body.length < offset + 2 then none
  else
    let mask := UInt16.ofNat (readU16Le body offset)
    if mask &&& ~~~validBits ≠ 0 then some mask.toUInt32 else none

def CW_VALID : UInt32 := 0x7FFF

def CFG_VALID : UInt16 := 0x7F

def GC_VALID : UInt32 := 0x3FFFFF

def KB_VALID : UInt32 := 0xFF

/-- A mask with bits beyond those of its opcode. -/
def invalidValueMask (opcode : UInt8) (body : List UInt8) : Option UInt32 :=
  match opcode with
  | 1 => checkU32 body 24 CW_VALID
  | 2 => checkU32 body 4 CW_VALID
  | 12 => checkU16 body 4 CFG_VALID
  | 55 => checkU32 body 8 GC_VALID
  | 56 => checkU32 body 4 GC_VALID
  | 57 => checkU32 body 8 GC_VALID
  | 102 => checkU32 body 0 KB_VALID
  | _ => none

/-- The loop over the bits that are left, with the number of values it has seen. -/
def validateValuesFrom (body : List UInt8) (valuesStart : Nat) (mask : UInt32)
    (validateBit : Nat → UInt32 → Option UInt32) : List Nat → Nat → Option UInt32
  | [], _ => none
  | bit :: bits, idx =>
    if hasBit mask bit then
      let off := valuesStart + idx * 4
      if body.length < off + 4 then none
      else
        match validateBit bit (u32Le body off) with
        | some bad => some bad
        | none => validateValuesFrom body valuesStart mask validateBit bits (idx + 1)
    else validateValuesFrom body valuesStart mask validateBit bits idx

/-- The first value that a validator finds bad. -/
def validateValueList (body : List UInt8) (valuesStart : Nat) (mask : UInt32)
    (validateBit : Nat → UInt32 → Option UInt32) : Option UInt32 :=
  validateValuesFrom body valuesStart mask validateBit (List.range 32) 0

/-- The value, if it is above a bound. -/
def badAbove (bound v : UInt32) : Option UInt32 :=
  if v > bound then some v else none

/-- The value, if it has other bits than these. -/
def badOutside (bits v : UInt32) : Option UInt32 :=
  if v &&& ~~~bits ≠ 0 then some v else none

def cwValidateBit (bit : Nat) (v : UInt32) : Option UInt32 :=
  match bit with
  | 4 => badAbove 10 v
  | 5 => badAbove 10 v
  | 6 => badAbove 2 v
  | 9 => badAbove 1 v
  | 10 => badAbove 1 v
  | 11 => badOutside 0x01ffffff v
  | 12 => badOutside 0x3F4F v
  | _ => none

def gcValidateBit (bit : Nat) (v : UInt32) : Option UInt32 :=
  match bit with
  | 0 => badAbove 15 v
  | 5 => badAbove 2 v
  | 6 => badAbove 3 v
  | 7 => badAbove 2 v
  | 8 => badAbove 3 v
  | 9 => badAbove 1 v
  | 15 => badAbove 1 v
  | 16 => badAbove 1 v
  | 22 => badAbove 1 v
  | _ => none

def cfgValidateBit (bit : Nat) (v : UInt32) : Option UInt32 :=
  match bit with
  | 6 => badAbove 4 v
  | _ => none

/-- A percentage, or -1 for the default. -/
def badPercent (v : UInt32) : Option UInt32 :=
  let percent := v.toUInt8.toInt8
  if percent = -1 ∨ (0 ≤ percent ∧ percent ≤ 100) then none else some v

/-- A pitch or a duration, or -1 for the default. -/
def badAmount (v : UInt32) : Option UInt32 :=
  if v.toUInt16.toInt16 < -1 then some v else none

def kbValidateBit (bit : Nat) (v : UInt32) : Option UInt32 :=
  match bit with
  | 0 => badPercent v
  | 1 => badPercent v
  | 2 => badAmount v
  | 3 => badAmount v
  | 5 => badAbove 1 v
  | 7 => badAbove 2 v
  | _ => none

def badBool (b : UInt8) : Option UInt32 :=
  if b > 1 then some b.toUInt32 else none

def checkByteRange (body : List UInt8) (off : Nat) (maxInclusive : UInt8) : Option UInt32 :=
  match body[off]? with
  | none => none
  | some v => if v > maxInclusive then some v.toUInt32 else none

/-- The data byte of the header, if it is above a bound. -/
def badHeader (headerData bound : UInt8) : Option UInt32 :=
  if headerData > bound then some headerData.toUInt32 else none

/-- The acceleration and the threshold count if their flags are set. -/
def invalidPointerControl (body : List UInt8) : Option UInt32 :=
  let i16 (i : Nat) : Int16 := (UInt16.ofNat (readU16Le body i)).toInt16
  let doAccel := byteAt body 6
  let doThr := byteAt body 7
  if doAccel > 1 then some (UInt32.ofNat doAccel)
  else if doThr > 1 then some (UInt32.ofNat doThr)
  else if doAccel = 1 ∧ i16 0 < -1 then some (i16 0).toInt32.toUInt32
  else if doAccel = 1 ∧ i16 2 < -1 then some (i16 2).toInt32.toUInt32
  else if doAccel = 1 ∧ i16 2 = 0 then some 0
  else if doThr = 1 ∧ i16 4 < -1 then some (i16 4).toInt32.toUInt32
  else none

/-- A field or a value of the list that is out of range. -/
def invalidValue (opcode headerData : UInt8) (body : List UInt8) : Option UInt32 :=
  match opcode with
  | 26 =>
    badBool headerData <|> checkByteRange body 6 1 <|> checkByteRange body 7 1
  | 28 =>
    badBool headerData <|> checkByteRange body 6 1 <|> checkByteRange body 7 1 <|>
      checkByteRange body 16 5
  | 31 => badBool headerData <|> checkByteRange body 8 1 <|> checkByteRange body 9 1
  | 33 => badBool headerData <|> checkByteRange body 7 1 <|> checkByteRange body 8 1
  | 63 =>
    if body.length < 28 then none
    else
      let plane := u32Le body 24
      if countOnes plane.toNat = 1 then none else some plane
  | 1 =>
    if 28 ≤ body.length then validateValueList body 28 (u32Le body 24) cwValidateBit else none
  | 2 => if 8 ≤ body.length then validateValueList body 8 (u32Le body 4) cwValidateBit else none
  | 55 =>
    if 12 ≤ body.length then validateValueList body 12 (u32Le body 8) gcValidateBit else none
  | 56 => if 8 ≤ body.length then validateValueList body 8 (u32Le body 4) gcValidateBit else none
  | 102 => if 4 ≤ body.length then validateValueList body 4 (u32Le body 0) kbValidateBit else none
  | 105 => if 8 ≤ body.length then invalidPointerControl body else none
  | 6 => badHeader headerData 1
  | 12 =>
    if 6 ≤ body.length then
      validateValueList body 8 (UInt32.ofNat (readU16Le body 4)) cfgValidateBit
    else none
  | 13 => badHeader headerData 1
  | 25 => badHeader headerData 1
  | 35 => badHeader headerData 7
  | 78 => badHeader headerData 1
  | 104 =>
    let percent := headerData.toInt8
    if -100 ≤ percent ∧ percent ≤ 100 then none else some headerData.toUInt32
  | 107 => if 6 ≤ body.length then checkByteRange body 4 2 <|> checkByteRange body 5 2 else none
  | 115 => badHeader headerData 1
  | _ => none

/-! ## Parsing -/

structure ValueList where
  valueMask : UInt32
  values : List UInt8

/-- `read_u32_le(bytes.get(offset..offset + 4)?)` -/
def getU32 (bytes : List UInt8) (offset : Nat) : Option UInt32 :=
  if offset + 4 ≤ bytes.length then some (u32Le bytes offset) else none

/-- `read_u16_le(bytes.get(offset..offset + 2)?)` -/
def getU16 (bytes : List UInt8) (offset : Nat) : Option UInt16 :=
  if offset + 2 ≤ bytes.length then some (UInt16.ofNat (readU16Le bytes offset)) else none

def getI16 (bytes : List UInt8) (offset : Nat) : Option Int16 :=
  (getU16 bytes offset).map UInt16.toInt16

/-- `bytes.get(start..)` -/
def getFrom (bytes : List UInt8) (start : Nat) : Option (List UInt8) :=
  if start ≤ bytes.length then some (bytes.drop start) else none

/-- The loop over the bits that are left, with the offset of the next value. -/
def ValueList.valueFrom (list : ValueList) (targetBit : Nat) : List Nat → Nat → Option UInt32
  | [], _ => none
  | bit :: bits, offset =>
    if hasBit list.valueMask bit then do
      let value ← getU32 list.values offset
      if bit = targetBit then return value
      list.valueFrom targetBit bits (offset + 4)
    else list.valueFrom targetBit bits offset

def ValueList.value (list : ValueList) (targetBit : Nat) : Option UInt32 :=
  list.valueFrom targetBit (List.range 32) 0

/-- A resource, or none at all. -/
def noneIfZero (v : UInt32) : Option ResourceId :=
  if v = 0 then none else some v

/-- The attributes of a graphics context, from the values of the bits. -/
def GcAttributes.ofValues (value : Nat → Option UInt32) : GcAttributes where
  function := (value 0).map UInt32.toUInt8
  planeMask := value 1
  foreground := value 2
  background := value 3
  lineWidth := (value 4).map UInt32.toUInt16
  lineStyle := (value 5).map UInt32.toUInt8
  capStyle := (value 6).map UInt32.toUInt8
  joinStyle := (value 7).map UInt32.toUInt8
  fillStyle := (value 8).map UInt32.toUInt8
  fillRule := (value 9).map UInt32.toUInt8
  tile := value 10
  stipple := value 11
  tileXOrigin := (value 12).map fun v => v.toUInt16.toInt16
  tileYOrigin := (value 13).map fun v => v.toUInt16.toInt16
  font := value 14
  subwindowMode := (value 15).map UInt32.toUInt8
  graphicsExposures := (value 16).map (· != 0)
  clipXOrigin := (value 17).map fun v => v.toUInt16.toInt16
  clipYOrigin := (value 18).map fun v => v.toUInt16.toInt16
  clipMask := (value 19).map noneIfZero
  dashOffset := (value 20).map UInt32.toUInt16
  dashes := (value 21).map UInt32.toUInt8
  arcMode := (value 22).map UInt32.toUInt8

/-- The part of a CreateWindow request that is not in the list, and the values
of the bits. -/
def CreateWindowRequest.ofValues (depth : UInt8) (body : List UInt8) (valueMask : UInt32)
    (value : Nat → Option UInt32) : Option CreateWindowRequest := do
  return {
    depth
    window := ← getU32 body 0
    parent := ← getU32 body 4
    x := ← getI16 body 8
    y := ← getI16 body 10
    width := ← getU16 body 12
    height := ← getU16 body 14
    borderWidth := ← getU16 body 16
    windowClass := ← getU16 body 18
    visual := ← getU32 body 20
    valueMask
    backgroundPixmap := value 0
    backgroundPixel := value 1
    bitGravity := (value 4).map UInt32.toUInt8
    winGravity := (value 5).map UInt32.toUInt8
    backingStore := (value 6).map UInt32.toUInt8
    backingPlanes := value 7
    backingPixel := value 8
    overrideRedirect := (value 9).map (· != 0)
    saveUnder := (value 10).map (· != 0)
    eventMask := value 11
    doNotPropagateMask := (value 12).map UInt32.toUInt16
    colormap := (value 13).map noneIfZero }

def ChangeWindowAttributesRequest.ofValues (body : List UInt8) (valueMask : UInt32)
    (value : Nat → Option UInt32) : Option ChangeWindowAttributesRequest := do
  return {
    window := ← getU32 body 0
    valueMask
    backgroundPixmap := value 0
    backgroundPixel := value 1
    bitGravity := (value 4).map UInt32.toUInt8
    winGravity := (value 5).map UInt32.toUInt8
    backingStore := (value 6).map UInt32.toUInt8
    backingPlanes := value 7
    backingPixel := value 8
    overrideRedirect := (value 9).map (· != 0)
    saveUnder := (value 10).map (· != 0)
    eventMask := value 11
    doNotPropagateMask := (value 12).map UInt32.toUInt16
    colormap := (value 13).map noneIfZero
    cursor := value 14 }

def ConfigureWindowRequest.ofValues (window : ResourceId) (value : Nat → Option UInt32) :
    ConfigureWindowRequest where
  window
  x := (value 0).map fun v => v.toUInt16.toInt16
  y := (value 1).map fun v => v.toUInt16.toInt16
  width := (value 2).map UInt32.toUInt16
  height := (value 3).map UInt32.toUInt16
  borderWidth := (value 4).map UInt32.toUInt16
  sibling := value 5
  stackMode := (value 6).map UInt32.toUInt8

def createWindowRequest (depth : UInt8) (body : List UInt8) : Option CreateWindowRequest := do
  let valueMask ← getU32 body 24
  let values : ValueList := ⟨valueMask, ← getFrom body 28⟩
  CreateWindowRequest.ofValues depth body valueMask values.value

def changeWindowAttributesRequest (body : List UInt8) : Option ChangeWindowAttributesRequest := do
  let valueMask ← getU32 body 4
  let values : ValueList := ⟨valueMask, ← getFrom body 8⟩
  ChangeWindowAttributesRequest.ofValues body valueMask values.value

/-- The request with its value mask. -/
def configureWindowRequest (body : List UInt8) : Option (ConfigureWindowRequest × UInt16) := do
  let window ← getU32 body 0
  let valueMask ← getU16 body 4
  let values : ValueList := ⟨valueMask.toUInt32, ← getFrom body 8⟩
  return (.ofValues window values.value, valueMask)

def createGcRequest (body : List UInt8) : Option CreateGcRequest := do
  let valueMask ← getU32 body 8
  let values : ValueList := ⟨valueMask, ← getFrom body 12⟩
  return {
    gc := ← getU32 body 0
    drawable := ← getU32 body 4
    attributes := .ofValues values.value }

def changeGcRequest (body : List UInt8) : Option GcChange := do
  let valueMask ← getU32 body 4
  let values : ValueList := ⟨valueMask, ← getFrom body 8⟩
  return { gc := ← getU32 body 0, attributes := .ofValues values.value }

/-- The two contexts and the mask of CopyGC, as its handler reads them. -/
def copyGcRequest (body : List UInt8) : Option (ResourceId × ResourceId × UInt32) :=
  if 12 ≤ body.length then some (u32Le body 0, u32Le body 4, u32Le body 8) else none

end X12
