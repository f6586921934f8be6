import X12.Core.Server

/-! # Atoms

A name stands for an atom. The atoms up to 68 have predefined names, in a table
from the names and another from the atoms; the others are numbered as their names
are interned. -/

namespace X12

def wellKnownAtom (name : String) : Option AtomId :=
  match name with
  | "PRIMARY" => some 1
  | "SECONDARY" => some 2
  | "ARC" => some 3
  | "ATOM" => some 4
  | "BITMAP" => some 5
  | "CARDINAL" => some 6
  | "COLORMAP" => some 7
  | "CURSOR" => some 8
  | "CUT_BUFFER0" => some 9
  | "CUT_BUFFER1" => some 10
  | "CUT_BUFFER2" => some 11
  | "CUT_BUFFER3" => some 12
  | "CUT_BUFFER4" => some 13
  | "CUT_BUFFER5" => some 14
  | "CUT_BUFFER6" => some 15
  | "CUT_BUFFER7" => some 16
  | "DRAWABLE" => some 17
  | "FONT" => some 18
  | "INTEGER" => some 19
  | "PIXMAP" => some 20
  | "POINT" => some 21
  | "RECTANGLE" => some 22
  | "RESOURCE_MANAGER" => some 23
  | "RGB_COLOR_MAP" => some 24
  | "RGB_BEST_MAP" => some 25
  | "RGB_BLUE_MAP" => some 26
  | "RGB_DEFAULT_MAP" => some 27
  | "RGB_GRAY_MAP" => some 28
  | "RGB_GREEN_MAP" => some 29
  | "RGB_RED_MAP" => some 30
  | "STRING" => some 31
  | "VISUALID" => some 32
  | "WINDOW" => some 33
  | "WM_COMMAND" => some 34
  | "WM_HINTS" => some 35
  | "WM_CLIENT_MACHINE" => some 36
  | "WM_ICON_NAME" => some 37
  | "WM_ICON_SIZE" => some 38
  | "WM_NAME" => some 39
  | "WM_NORMAL_HINTS" => some 40
  | "WM_SIZE_HINTS" => some 41
  | "WM_ZOOM_HINTS" => some 42
  | "MIN_SPACE" => some 43
  | "NORM_SPACE" => some 44
  | "MAX_SPACE" => some 45
  | "END_SPACE" => some 46
  | "SUPERSCRIPT_X" => some 47
  | "SUPERSCRIPT_Y" => some 48
  | "SUBSCRIPT_X" => some 49
  | "SUBSCRIPT_Y" => some 50
  | "UNDERLINE_POSITION" => some 51
  | "UNDERLINE_THICKNESS" => some 52
  | "STRIKEOUT_ASCENT" => some 53
  | "STRIKEOUT_DESCENT" => some 54
  | "ITALIC_ANGLE" => some 55
  | "X_HEIGHT" => some 56
  | "QUAD_WIDTH" => some 57
  | "WEIGHT" => some 58
  | "POINT_SIZE" => some 59
  | "RESOLUTION" => some 60
  | "COPYRIGHT" => some 61
  | "NOTICE" => some 62
  | "FONT_NAME" => some 63
  | "FAMILY_NAME" => some 64
  | "FULL_NAME" => some 65
  | "CAP_HEIGHT" => some 66
  | "WM_CLASS" => some 67
  | "WM_TRANSIENT_FOR" => some 68
  | _ => none

def wellKnownAtomName (atom : AtomId) : Option String :=
  match atom with
  | 1 => some "PRIMARY"
  | 2 => some "SECONDARY"
  | 3 => some "ARC"
  | 4 => some "ATOM"
  | 5 => some "BITMAP"
  | 6 => some "CARDINAL"
  | 7 => some "COLORMAP"
  | 8 => some "CURSOR"
  | 9 => some "CUT_BUFFER0"
  | 10 => some "CUT_BUFFER1"
  | 11 => some "CUT_BUFFER2"
  | 12 => some "CUT_BUFFER3"
  | 13 => some "CUT_BUFFER4"
  | 14 => some "CUT_BUFFER5"
  | 15 => some "CUT_BUFFER6"
  | 16 => some "CUT_BUFFER7"
  | 17 => some "DRAWABLE"
  | 18 => some "FONT"
  | 19 => some "INTEGER"
  | 20 => some "PIXMAP"
  | 21 => some "POINT"
  | 22 => some "RECTANGLE"
  | 23 => some "RESOURCE_MANAGER"
  | 24 => some "RGB_COLOR_MAP"
  | 25 => some "RGB_BEST_MAP"
  | 26 => some "RGB_BLUE_MAP"
  | 27 => some "RGB_DEFAULT_MAP"
  | 28 => some "RGB_GRAY_MAP"
  | 29 => some "RGB_GREEN_MAP"
  | 30 => some "RGB_RED_MAP"
  | 31 => some "STRING"
  | 32 => some "VISUALID"
  | 33 => some "WINDOW"
  | 34 => some "WM_COMMAND"
  | 35 => some "WM_HINTS"
  | 36 => some "WM_CLIENT_MACHINE"
  | 37 => some "WM_ICON_NAME"
  | 38 => some "WM_ICON_SIZE"
  | 39 => some "WM_NAME"
  | 40 => some "WM_NORMAL_HINTS"
  | 41 => some "WM_SIZE_HINTS"
  | 42 => some "WM_ZOOM_HINTS"
  | 43 => some "MIN_SPACE"
  | 44 => some "NORM_SPACE"
  | 45 => some "MAX_SPACE"
  | 46 => some "END_SPACE"
  | 47 => some "SUPERSCRIPT_X"
  | 48 => some "SUPERSCRIPT_Y"
  | 49 => some "SUBSCRIPT_X"
  | 50 => some "SUBSCRIPT_Y"
  | 51 => some "UNDERLINE_POSITION"
  | 52 => some "UNDERLINE_THICKNESS"
  | 53 => some "STRIKEOUT_ASCENT"
  | 54 => some "STRIKEOUT_DESCENT"
  | 55 => some "ITALIC_ANGLE"
  | 56 => some "X_HEIGHT"
  | 57 => some "QUAD_WIDTH"
  | 58 => some "WEIGHT"
  | 59 => some "POINT_SIZE"
  | 60 => some "RESOLUTION"
  | 61 => some "COPYRIGHT"
  | 62 => some "NOTICE"
  | 63 => some "FONT_NAME"
  | 64 => some "FAMILY_NAME"
  | 65 => some "FULL_NAME"
  | 66 => some "CAP_HEIGHT"
  | 67 => some "WM_CLASS"
  | 68 => some "WM_TRANSIENT_FOR"
  | _ => none

structure AtomTable where
  byName : Std.ExtTreeMap String AtomId
  names : Std.ExtTreeMap AtomId String
  nextId : UInt32

namespace AtomTable

/-- Atoms that are not predefined start at 69. -/
def new : AtomTable where
  byName := ∅
  names := ∅
  nextId := 69

def intern (t : AtomTable) (name : String) (onlyIfExists : Bool) : AtomTable × AtomId :=
  match wellKnownAtom name with
  | some atom => (t, atom)
  | none =>
    match t.byName[name]? with
    | some atom => (t, atom)
    | none =>
      if onlyIfExists then (t, 0)
      else
        let atom := t.nextId
        ({ byName := t.byName.insert name atom
           names := t.names.insert atom name
           nextId := t.nextId + 1 }, atom)

def name (t : AtomTable) (atom : AtomId) : Option String :=
  (wellKnownAtomName atom).or t.names[atom]?

/-- `AtomTable::exists` -/
def atomExists (t : AtomTable) (atom : AtomId) : Bool :=
  atom ≠ 0 && ((wellKnownAtomName atom).isSome || t.names.contains atom)

end AtomTable

end X12
