import X12.Protocol.Replies
import X12.Protocol.RequestLayout

/-! # The layouts of replies

The fields of each reply as the protocol gives them. How many there are of
those that repeat depends on the reply. -/

namespace X12

open Layout (Field)

open Proto

/-- Single bytes in a row: a text, an image. -/
abbrev Proto.STRING8 := Field.pad

/-- The response code, a byte of data, the sequence number and the length. -/
def replyHead : List Field := [CARD8, CARD8, CARD16, CARD32]

def charInfoLayout : List Field := [INT16, INT16, INT16, INT16, INT16, CARD16]

/-- The fields of both font replies from the bounds to the word after the descent. -/
def fontLayout : List Field :=
  charInfoLayout ++ [UNUSED 4] ++ charInfoLayout ++ [UNUSED 4] ++
    [CARD16, CARD16, CARD16, CARD16, CARD8, CARD8, CARD8, BOOL, INT16, INT16, CARD32]

/-- The value of a property. -/
def valueLayout (format : UInt8) (length : Nat) : List Field :=
  if format = 16 then List.replicate (length / 2) CARD16 ++ [STRING8 (length % 2)]
  else if format = 32 then List.replicate (length / 4) CARD32 ++ [STRING8 (length % 4)]
  else [STRING8 length]

def paddingLayout (length : Nat) : List Field :=
  [UNUSED (pad4 length).length]

def CoreReply.layout : CoreReply → List Field
  | getWindowAttributes _ =>
    replyHead ++ [XID, CARD16, CARD8, CARD8, CARD32, CARD32, BOOL, BOOL, CARD8, BOOL, XID, CARD32,
      CARD32, CARD16, UNUSED 2]
  | getGeometry _ => replyHead ++ [XID, INT16, INT16, CARD16, CARD16, CARD16, UNUSED 10]
  | queryTree _ _ children =>
    replyHead ++ [XID, XID, CARD16, UNUSED 14] ++ List.replicate children.length XID
  | internAtom _ => replyHead ++ [ATOM, UNUSED 20]
  | getAtomName name =>
    replyHead ++ [CARD16, UNUSED 22] ++ [STRING8 name.length] ++ paddingLayout name.length
  | getProperty reply =>
    replyHead ++ [ATOM, CARD32, CARD32, UNUSED 12] ++
      valueLayout reply.format reply.value.length ++ paddingLayout reply.value.length
  | listProperties atoms =>
    replyHead ++ [CARD16, UNUSED 22] ++ List.replicate (min atoms.length (2 ^ 16 - 1)) ATOM
  | getSelectionOwner _ => replyHead ++ [XID, UNUSED 20]
  | grab _ => replyHead ++ [UNUSED 24]
  | queryPointer _ =>
    replyHead ++ [XID, XID, INT16, INT16, INT16, INT16, CARD16, UNUSED 6]
  | translateCoordinates _ _ _ => replyHead ++ [XID, INT16, INT16, UNUSED 16]
  | getInputFocus _ _ => replyHead ++ [XID, UNUSED 20]
  | queryKeymap => replyHead ++ [STRING8 32]
  | allocColor _ => replyHead ++ [CARD16, CARD16, CARD16, UNUSED 2, CARD32, UNUSED 12]
  | lookupColor _ =>
    replyHead ++ [CARD16, CARD16, CARD16, CARD16, CARD16, CARD16, UNUSED 12]
  | allocNamedColor _ =>
    replyHead ++ [CARD32, CARD16, CARD16, CARD16, CARD16, CARD16, CARD16, UNUSED 8]
  | getImage request _ =>
    replyHead ++ [XID, UNUSED 20] ++ [STRING8 request.dataBytes.toNat]
  | queryColors pixels =>
    replyHead ++ [CARD16, UNUSED 22] ++
      pixels.flatMap fun _ => [CARD16, CARD16, CARD16, UNUSED 2]
  | queryExtension _ _ _ _ => replyHead ++ [BOOL, CARD8, CARD8, CARD8, UNUSED 20]
  | geQueryVersion => replyHead ++ [CARD16, CARD16, UNUSED 20]
  | bigRequestsEnable _ => replyHead ++ [CARD32, UNUSED 20]
  | listExtensions names =>
    let strings := names.flatMap fun name => [CARD8, STRING8 name.length]
    replyHead ++ [UNUSED 24] ++ strings ++ paddingLayout (strings.map Field.size).sum
  | getKeyboardMapping _ keycodeCount keysymsPerKeycode =>
    replyHead ++ [UNUSED 24] ++
      List.replicate (keycodeCount.toNat * max 1 keysymsPerKeycode.toNat) CARD32
  | getKeyboardMappingFromKeysyms _ keysyms =>
    replyHead ++ [UNUSED 24] ++ List.replicate keysyms.length CARD32
  | queryFont metrics =>
    replyHead ++ fontLayout ++ List.replicate (metrics.properties.length / 8 * 2) CARD32 ++
      metrics.charInfos.flatMap fun _ => charInfoLayout
  | listFontsWithInfo metrics name _ =>
    replyHead ++ fontLayout ++ List.replicate (metrics.properties.length / 8 * 2) CARD32 ++
      [STRING8 name.length] ++ paddingLayout name.length
  | listFontsWithInfoTerminator => replyHead ++ [UNUSED 52]
  | queryTextExtents _ =>
    replyHead ++ [INT16, INT16, INT16, INT16, CARD32, CARD32, CARD32, UNUSED 4]
  | listHosts => replyHead ++ [CARD16, UNUSED 22]
  | queryBestSize _ _ => replyHead ++ [CARD16, CARD16, UNUSED 20]
  | getPointerMapping => replyHead ++ [UNUSED 24, STRING8 4]
  | getModifierMapping => replyHead ++ [UNUSED 24]
  | getModifierMappingWithKeycodes _ keycodes =>
    replyHead ++ [UNUSED 24, STRING8 keycodes.length]

end X12
