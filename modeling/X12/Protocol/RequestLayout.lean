import X12.Lib.Layout

/-! # Core request layouts

The wire layout of the core requests that carry more than a header: their
fields in order and the unit their list repeats. The single-byte parts of a
list (names, image data, event templates, text items) are bytes in either
byte order. A list may be followed by padding. -/

namespace X12

open Layout (Field Item)

namespace Proto

abbrev CARD8 := Field.byte
abbrev BOOL := Field.byte
abbrev CARD16 := Field.half
abbrev INT16 := Field.half
abbrev CARD32 := Field.word
abbrev XID := Field.word
abbrev ATOM := Field.word
abbrev TIMESTAMP := Field.word
abbrev UNUSED := Field.pad

end Proto

/-- The fields of a request body, then any number of units. -/
structure RequestLayout where
  head : List Field
  unit : List Field

open Proto in
/-- The layouts of the body of a core request, without its header. Only
ChangeProperty has more than one: its format decides the width of its data. -/
def coreRequestLayouts : UInt8 → List RequestLayout
  | 1 => -- CreateWindow
    [⟨[XID, XID, INT16, INT16, CARD16, CARD16, CARD16, CARD16, XID, CARD32], [CARD32]⟩]
  | 2 => -- ChangeWindowAttributes
    [⟨[XID, CARD32], [CARD32]⟩]
  | 3 | 4 | 5 | 6 | 8 | 9 | 10 | 11 | 13 | 14 | 15 => -- a window
    [⟨[XID], []⟩]
  | 7 => -- ReparentWindow
    [⟨[XID, XID, INT16, INT16], []⟩]
  | 12 => -- ConfigureWindow
    [⟨[XID, CARD16, UNUSED 2], [CARD32]⟩]
  | 16 => -- InternAtom
    [⟨[CARD16, UNUSED 2], [CARD8]⟩]
  | 17 => -- GetAtomName
    [⟨[ATOM], []⟩]
  | 18 => -- ChangeProperty
    [⟨[XID, ATOM, ATOM, .literal 8, UNUSED 3, CARD32], [CARD8]⟩,
      ⟨[XID, ATOM, ATOM, .literal 16, UNUSED 3, CARD32], [CARD16]⟩,
      ⟨[XID, ATOM, ATOM, .literal 32, UNUSED 3, CARD32], [CARD32]⟩]
  | 19 => -- DeleteProperty
    [⟨[XID, ATOM], []⟩]
  | 20 => -- GetProperty
    [⟨[XID, ATOM, ATOM, CARD32, CARD32], []⟩]
  | 21 => -- ListProperties
    [⟨[XID], []⟩]
  | 22 => -- SetSelectionOwner
    [⟨[XID, ATOM, TIMESTAMP], []⟩]
  | 23 => -- GetSelectionOwner
    [⟨[ATOM], []⟩]
  | 24 => -- ConvertSelection
    [⟨[XID, ATOM, ATOM, ATOM, TIMESTAMP], []⟩]
  | 25 => -- SendEvent, the event template in the sender's order
    [⟨[XID, CARD32], [CARD8]⟩]
  | 26 => -- GrabPointer
    [⟨[XID, CARD16, CARD8, CARD8, XID, XID, TIMESTAMP], []⟩]
  | 27 => -- UngrabPointer
    [⟨[TIMESTAMP], []⟩]
  | 28 => -- GrabButton
    [⟨[XID, CARD16, CARD8, CARD8, XID, XID, CARD8, UNUSED 1, CARD16], []⟩]
  | 29 => -- UngrabButton
    [⟨[XID, CARD16, UNUSED 2], []⟩]
  | 30 => -- ChangeActivePointerGrab
    [⟨[XID, TIMESTAMP, CARD16, UNUSED 2], []⟩]
  | 31 => -- GrabKeyboard
    [⟨[XID, TIMESTAMP, CARD8, CARD8, UNUSED 2], []⟩]
  | 32 => -- UngrabKeyboard
    [⟨[TIMESTAMP], []⟩]
  | 33 => -- GrabKey
    [⟨[XID, CARD16, CARD8, CARD8, CARD8, UNUSED 3], []⟩]
  | 34 => -- UngrabKey
    [⟨[XID, CARD16, UNUSED 2], []⟩]
  | 35 => -- AllowEvents
    [⟨[TIMESTAMP], []⟩]
  | 38 => -- QueryPointer
    [⟨[XID], []⟩]
  | 39 => -- GetMotionEvents
    [⟨[XID, TIMESTAMP, TIMESTAMP], []⟩]
  | 40 => -- TranslateCoordinates
    [⟨[XID, XID, INT16, INT16], []⟩]
  | 41 => -- WarpPointer
    [⟨[XID, XID, INT16, INT16, CARD16, CARD16, INT16, INT16], []⟩]
  | 42 => -- SetInputFocus
    [⟨[XID, TIMESTAMP], []⟩]
  | 45 => -- OpenFont
    [⟨[XID, CARD16, UNUSED 2], [CARD8]⟩]
  | 46 | 47 => -- CloseFont, QueryFont
    [⟨[XID], []⟩]
  | 48 => -- QueryTextExtents, a string of CHAR2B
    [⟨[XID], [CARD8, CARD8]⟩]
  | 49 | 50 => -- ListFonts, ListFontsWithInfo
    [⟨[CARD16, CARD16], [CARD8]⟩]
  | 51 => -- SetFontPath
    [⟨[CARD16, UNUSED 2], [CARD8]⟩]
  | 53 => -- CreatePixmap
    [⟨[XID, XID, CARD16, CARD16], []⟩]
  | 54 => -- FreePixmap
    [⟨[XID], []⟩]
  | 55 => -- CreateGC
    [⟨[XID, XID, CARD32], [CARD32]⟩]
  | 56 => -- ChangeGC
    [⟨[XID, CARD32], [CARD32]⟩]
  | 57 => -- CopyGC
    [⟨[XID, XID, CARD32], []⟩]
  | 58 => -- SetDashes
    [⟨[XID, CARD16, CARD16], [CARD8]⟩]
  | 59 => -- SetClipRectangles
    [⟨[XID, INT16, INT16], [INT16, INT16, CARD16, CARD16]⟩]
  | 60 => -- FreeGC
    [⟨[XID], []⟩]
  | 61 => -- ClearArea
    [⟨[XID, INT16, INT16, CARD16, CARD16], []⟩]
  | 62 => -- CopyArea
    [⟨[XID, XID, XID, INT16, INT16, INT16, INT16, CARD16, CARD16], []⟩]
  | 63 => -- CopyPlane
    [⟨[XID, XID, XID, INT16, INT16, INT16, INT16, CARD16, CARD16, CARD32], []⟩]
  | 64 | 65 => -- PolyPoint, PolyLine
    [⟨[XID, XID], [INT16, INT16]⟩]
  | 66 => -- PolySegment
    [⟨[XID, XID], [INT16, INT16, INT16, INT16]⟩]
  | 67 | 70 => -- PolyRectangle, PolyFillRectangle
    [⟨[XID, XID], [INT16, INT16, CARD16, CARD16]⟩]
  | 68 | 71 => -- PolyArc, PolyFillArc
    [⟨[XID, XID], [INT16, INT16, CARD16, CARD16, INT16, INT16]⟩]
  | 69 => -- FillPoly
    [⟨[XID, XID, CARD8, CARD8, UNUSED 2], [INT16, INT16]⟩]
  | 72 => -- PutImage
    [⟨[XID, XID, CARD16, CARD16, INT16, INT16, CARD8, CARD8, UNUSED 2], [CARD8]⟩]
  | 73 => -- GetImage
    [⟨[XID, INT16, INT16, CARD16, CARD16, CARD32], []⟩]
  | 74 | 75 | 76 | 77 => -- PolyText8, PolyText16, ImageText8, ImageText16
    [⟨[XID, XID, INT16, INT16], [CARD8]⟩]
  | 78 => -- CreateColormap
    [⟨[XID, XID, XID], []⟩]
  | 79 | 81 | 82 | 83 => -- FreeColormap, InstallColormap, UninstallColormap, ListInstalled
    [⟨[XID], []⟩]
  | 80 => -- CopyColormapAndFree
    [⟨[XID, XID], []⟩]
  | 84 => -- AllocColor
    [⟨[XID, CARD16, CARD16, CARD16, UNUSED 2], []⟩]
  | 85 | 92 => -- AllocNamedColor, LookupColor
    [⟨[XID, CARD16, UNUSED 2], [CARD8]⟩]
  | 86 => -- AllocColorCells
    [⟨[XID, CARD16, CARD16], []⟩]
  | 87 => -- AllocColorPlanes
    [⟨[XID, CARD16, CARD16, CARD16, CARD16], []⟩]
  | 88 => -- FreeColors
    [⟨[XID, CARD32], [CARD32]⟩]
  | 89 => -- StoreColors, a list of COLORITEM
    [⟨[XID], [CARD32, CARD16, CARD16, CARD16, CARD8, UNUSED 1]⟩]
  | 90 => -- StoreNamedColor
    [⟨[XID, CARD32, CARD16, UNUSED 2], [CARD8]⟩]
  | 91 => -- QueryColors
    [⟨[XID], [CARD32]⟩]
  | 93 | 94 => -- CreateCursor, CreateGlyphCursor
    [⟨[XID, XID, XID, CARD16, CARD16, CARD16, CARD16, CARD16, CARD16, CARD16, CARD16], []⟩]
  | 95 => -- FreeCursor
    [⟨[XID], []⟩]
  | 96 => -- RecolorCursor
    [⟨[XID, CARD16, CARD16, CARD16, CARD16, CARD16, CARD16], []⟩]
  | 97 => -- QueryBestSize
    [⟨[XID, CARD16, CARD16], []⟩]
  | 98 => -- QueryExtension
    [⟨[CARD16, UNUSED 2], [CARD8]⟩]
  | 100 => -- ChangeKeyboardMapping
    [⟨[CARD8, CARD8, UNUSED 2], [CARD32]⟩]
  | 101 => -- GetKeyboardMapping
    [⟨[CARD8, CARD8, UNUSED 2], []⟩]
  | 102 => -- ChangeKeyboardControl
    [⟨[CARD32], [CARD32]⟩]
  | 105 => -- ChangePointerControl
    [⟨[INT16, INT16, INT16, BOOL, BOOL], []⟩]
  | 107 => -- SetScreenSaver
    [⟨[INT16, INT16, CARD8, CARD8, UNUSED 2], []⟩]
  | 109 => -- ChangeHosts
    [⟨[CARD8, UNUSED 1, CARD16], [CARD8]⟩]
  | 113 => -- KillClient
    [⟨[XID], []⟩]
  | 114 => -- RotateProperties
    [⟨[XID, CARD16, INT16], [ATOM]⟩]
  | _ => []

/-- The fields of a request: its head, the units of its list, and how many
bytes of padding follow them. -/
structure Record where
  head : List Item
  units : List (List Item)
  padding : Nat

/-- The fields a record gives are those of the layout. A request without a
list has nothing after its head. -/
structure RequestLayout.Admits (l : RequestLayout) (r : Record) : Prop where
  head : List.Forall₂ Field.Admits l.head r.head
  units : ∀ unit ∈ r.units, List.Forall₂ Field.Admits l.unit unit
  noList : l.unit = [] → r.units = [] ∧ r.padding = 0

/-- The bytes a record determines in a body of the given byte order. -/
def Record.encode (order : Layout.ByteOrder) (r : Record) : List (Option UInt8) :=
  Layout.encode order r.head ++
    (r.units.flatMap (Layout.encode order) ++ List.replicate r.padding none)

/-- A request of the given opcode: a record of one of its layouts. -/
structure CoreRequest (opcode : UInt8) where
  layout : RequestLayout
  known : layout ∈ coreRequestLayouts opcode
  record : Record
  admits : layout.Admits record

end X12
