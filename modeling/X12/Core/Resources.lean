import Mathlib.Algebra.Ring.Int.Defs
import Mathlib.Algebra.Ring.Nat
import Mathlib.Tactic.Common

/-! # Resources

The resource table: one map for each kind of core resource, keyed by the id on
the wire. The properties of the windows have a table of their own. -/

namespace X12

abbrev ResourceId := UInt32

abbrev ClientId := UInt32

/-- The raw id of an object of the host. -/
abbrev Handle := UInt32

abbrev ResourceMap (β : Type) := Std.ExtTreeMap ResourceId β

namespace ResourceMap

section

variable {K β : Type} [Ord K] [Std.TransOrd K] [Std.LawfulEqOrd K] [DecidableEq K]
  {m : Std.ExtTreeMap K β} {id a : K} {v : β}

theorem get_insert : (m.insert id v)[a]? = if a = id then some v else m[a]? := by
  simp [Std.ExtTreeMap.getElem?_insert, Eq.comm (a := a)]

theorem get_erase : (m.erase id)[a]? = if a = id then none else m[a]? := by
  simp [Std.ExtTreeMap.getElem?_erase, Eq.comm (a := a)]

theorem get_modify {f : β → β} :
    (m.modify id f)[a]? = if a = id then m[a]?.map f else m[a]? := by
  simp only [Std.ExtTreeMap.getElem?_modify, Std.compare_eq_iff_eq, Eq.comm (a := a)]
  split
  · next h => rw [h]
  · rfl

end

variable {β : Type} {m : ResourceMap β} {id a : ResourceId}

theorem mem_iff : id ∈ m ↔ m[id]? ≠ none := by
  rw [Std.ExtTreeMap.mem_iff_isSome_getElem?, Option.isSome_iff_ne_none]

theorem mem_keys_iff : id ∈ m.keys ↔ m[id]? ≠ none :=
  Std.ExtTreeMap.mem_keys.trans mem_iff

end ResourceMap

def SERVER_OWNER : ClientId := 0

def ROOT_WINDOW : ResourceId := 0x100
def ROOT_COLORMAP : ResourceId := 0x101
def ROOT_VISUAL : ResourceId := 0x102
def COMPOSITE_OVERLAY_WINDOW : ResourceId := 0x103
def ARGB_VISUAL : ResourceId := 0x103
def ARGB_COLORMAP : ResourceId := 0x104

def VISUAL_CLASS_TRUE_COLOR : UInt8 := 4

/-! ## Windows -/

inductive WindowClass where
  | CopyFromParent
  | InputOutput
  | InputOnly
  | Other (value : UInt16)
  deriving DecidableEq, Repr

def WindowClass.fromProtocol (value : UInt16) : WindowClass :=
  if value = 0 then .CopyFromParent
  else if value = 1 then .InputOutput
  else if value = 2 then .InputOnly
  else .Other value

def WindowClass.protocolValue : WindowClass → UInt16
  | .CopyFromParent => 0
  | .InputOutput => 1
  | .InputOnly => 2
  | .Other value => value

inductive MapState where
  | Unmapped
  | Unviewable
  | Viewable
  deriving DecidableEq, Repr

/-- A pixmap that a client has named the contents of a window by. -/
structure NamedCompositePixmap where
  clientPixmap : ResourceId
  hostPixmap : Handle
  width : UInt16
  height : UInt16
  deriving DecidableEq, Repr

/-- The off-screen pixmap that a redirected window is drawn to. -/
structure RedirectedBacking where
  hostPixmap : Handle
  width : UInt16
  height : UInt16
  depth : UInt8
  deriving DecidableEq, Repr

/-- The children are listed from the bottom of the stack to its top. -/
structure Window where
  id : ResourceId
  parent : ResourceId
  children : List ResourceId
  x : Int16
  y : Int16
  width : UInt16
  height : UInt16
  borderWidth : UInt16
  depth : UInt8
  visual : ResourceId
  windowClass : WindowClass
  mapState : MapState
  backgroundPixel : UInt32
  backgroundPixmap : Option ResourceId
  backgroundNone : Bool
  backgroundPixmapHostXid : Option Handle
  borderPixmapHostXid : Option Handle
  overrideRedirect : Bool
  bitGravity : UInt8
  winGravity : UInt8
  backingStore : UInt8
  backingPlanes : UInt32
  backingPixel : UInt32
  saveUnder : Bool
  doNotPropagateMask : UInt16
  colormap : ResourceId
  cursor : Option ResourceId
  owner : ClientId
  hostXid : Option Handle
  redirectedBacking : Option RedirectedBacking
  compositeNamedPixmaps : List NamedCompositePixmap
  deriving DecidableEq, Repr

def Window.placeholder (id : ResourceId) : Window where
  id := id
  parent := ROOT_WINDOW
  children := []
  x := 0
  y := 0
  width := 1
  height := 1
  borderWidth := 0
  depth := 24
  visual := ROOT_VISUAL
  windowClass := .InputOutput
  mapState := .Unmapped
  backgroundPixel := 0x00ffffff
  backgroundPixmap := none
  backgroundNone := false
  backgroundPixmapHostXid := none
  borderPixmapHostXid := none
  overrideRedirect := false
  bitGravity := 0
  winGravity := 1
  backingStore := 0
  backingPlanes := 0xffffffff
  backingPixel := 0
  saveUnder := false
  doNotPropagateMask := 0
  colormap := ROOT_COLORMAP
  cursor := none
  owner := SERVER_OWNER
  hostXid := none
  redirectedBacking := none
  compositeNamedPixmaps := []

/-! ## The other resources -/

structure Pixmap where
  id : ResourceId
  drawable : ResourceId
  width : UInt16
  height : UInt16
  depth : UInt8
  owner : ClientId
  hostXid : Option Handle
  deriving DecidableEq, Repr

/-- The rectangles are kept as they came on the wire. -/
structure ClipRectangles where
  ordering : UInt8
  xOrigin : Int16
  yOrigin : Int16
  rectangles : List UInt8
  deriving DecidableEq, Repr

inductive LineStyle where
  | Solid
  | OnOffDash
  | DoubleDash
  deriving DecidableEq, Repr

inductive CapStyle where
  | NotLast
  | Butt
  | Round
  | Projecting
  deriving DecidableEq, Repr

inductive JoinStyle where
  | Miter
  | Round
  | Bevel
  deriving DecidableEq, Repr

inductive FillStyle where
  | Solid
  | Tiled
  | Stippled
  | OpaqueStippled
  deriving DecidableEq, Repr

inductive FillRule where
  | EvenOdd
  | Winding
  deriving DecidableEq, Repr

inductive GcFunction where
  | Clear | And | AndReverse | Copy | AndInverted | NoOp | Xor | Or
  | Nor | Equiv | Invert | OrReverse | CopyInverted | OrInverted | Nand | Set
  deriving DecidableEq, Repr

inductive SubwindowMode where
  | ClipByChildren
  | IncludeInferiors
  deriving DecidableEq, Repr

inductive ArcMode where
  | Chord
  | PieSlice
  deriving DecidableEq, Repr

/-- The host handles of the tile, the stipple and the clip mask are taken when
the attribute is set, and stay when the client frees the pixmap. -/
structure Gc where
  id : ResourceId
  drawable : ResourceId
  depth : UInt8
  foreground : UInt32
  background : UInt32
  lineWidth : UInt16
  font : Option ResourceId
  clipRectangles : Option ClipRectangles
  clipPixmap : Option ResourceId
  clipPixmapHostXid : Option Handle
  clipXOrigin : Int16
  clipYOrigin : Int16
  fillStyle : FillStyle
  tile : Option ResourceId
  stipple : Option ResourceId
  tileHostXid : Option Handle
  stippleHostXid : Option Handle
  tileXOrigin : Int16
  tileYOrigin : Int16
  lineStyle : LineStyle
  capStyle : CapStyle
  joinStyle : JoinStyle
  fillRule : FillRule
  function : GcFunction
  planeMask : UInt32
  subwindowMode : SubwindowMode
  graphicsExposures : Bool
  dashes : List UInt8
  dashOffset : Int16
  arcMode : ArcMode
  owner : ClientId
  deriving DecidableEq, Repr

/-- `Gc::with_defaults` -/
def Gc.withDefaults (id drawable : ResourceId) (owner : ClientId) : Gc where
  id := id
  drawable := drawable
  depth := 0
  foreground := 0
  background := 0x00ffffff
  lineWidth := 0
  font := none
  clipRectangles := none
  clipPixmap := none
  clipPixmapHostXid := none
  clipXOrigin := 0
  clipYOrigin := 0
  fillStyle := .Solid
  tile := none
  stipple := none
  tileHostXid := none
  stippleHostXid := none
  tileXOrigin := 0
  tileYOrigin := 0
  lineStyle := .Solid
  capStyle := .Butt
  joinStyle := .Miter
  fillRule := .EvenOdd
  function := .Copy
  planeMask := 0xffffffff
  subwindowMode := .ClipByChildren
  graphicsExposures := true
  dashes := [4, 4]
  dashOffset := 0
  arcMode := .PieSlice
  owner := owner

structure Font where
  id : ResourceId
  hostXid : Handle
  owner : ClientId
  deriving DecidableEq, Repr

structure Cursor where
  id : ResourceId
  owner : ClientId
  hostXid : Option Handle
  anim : Bool
  deriving DecidableEq, Repr

/-- Fills and gradients have no drawable. -/
inductive PictureKind where
  | Drawable
  | Sourceless
  deriving DecidableEq, Repr

structure PictureState where
  client : ClientId
  hostPictureXid : Handle
  hostOwnedPixmap : Option Handle
  kind : PictureKind
  drawable : Option ResourceId
  deriving DecidableEq, Repr

structure GlyphSetState where
  client : ClientId
  hostGlyphsetXid : Handle
  deriving DecidableEq, Repr

structure Visual where
  id : ResourceId
  visualClass : UInt8
  depth : UInt8
  deriving DecidableEq, Repr

structure Colormap where
  id : ResourceId
  visual : ResourceId
  hostColormapXid : Option Handle
  owner : ClientId
  deriving DecidableEq, Repr

structure ResourceTable where
  windows : ResourceMap Window
  pixmaps : ResourceMap Pixmap
  gcs : ResourceMap Gc
  fonts : ResourceMap Font
  cursors : ResourceMap Cursor
  pictures : ResourceMap PictureState
  glyphsets : ResourceMap GlyphSetState
  hostGlyphsetRefcounts : ResourceMap Nat
  visuals : ResourceMap Visual
  colormaps : ResourceMap Colormap

namespace ResourceTable

def rootWindow : Window :=
  { Window.placeholder ROOT_WINDOW with
    width := 800
    height := 600
    mapState := .Viewable }

/-- `impl Default for ResourceTable` -/
def default : ResourceTable where
  windows := (∅ : ResourceMap Window).insert ROOT_WINDOW rootWindow
  pixmaps := ∅
  gcs := ∅
  fonts := ∅
  cursors := ∅
  pictures := ∅
  glyphsets := ∅
  hostGlyphsetRefcounts := ∅
  visuals := ((∅ : ResourceMap Visual).insert ROOT_VISUAL
      ⟨ROOT_VISUAL, VISUAL_CLASS_TRUE_COLOR, 24⟩).insert ARGB_VISUAL
      ⟨ARGB_VISUAL, VISUAL_CLASS_TRUE_COLOR, 32⟩
  colormaps := ((∅ : ResourceMap Colormap).insert ROOT_COLORMAP
      ⟨ROOT_COLORMAP, ROOT_VISUAL, none, SERVER_OWNER⟩).insert ARGB_COLORMAP
      ⟨ARGB_COLORMAP, ARGB_VISUAL, none, SERVER_OWNER⟩

/-- `get_mut` on the window map: an absent window is left absent. -/
def modifyWindow (t : ResourceTable) (id : ResourceId) (f : Window → Window) : ResourceTable :=
  { t with windows := t.windows.modify id f }

def xidInUse (t : ResourceTable) (id : ResourceId) : Bool :=
  t.windows.contains id || t.pixmaps.contains id || t.gcs.contains id || t.fonts.contains id ||
    t.cursors.contains id || t.colormaps.contains id || t.pictures.contains id ||
    t.glyphsets.contains id

def anyResourceExists (t : ResourceTable) (id : ResourceId) : Bool :=
  t.windows.contains id || t.pixmaps.contains id || t.gcs.contains id || t.fonts.contains id ||
    t.cursors.contains id

/-! ## Lookups after an update -/

variable {t : ResourceTable} {id a : ResourceId} {f : Window → Window}

theorem get_default :
    default.windows[a]? = if a = ROOT_WINDOW then some rootWindow else none := by
  rw [default, ResourceMap.get_insert, Std.ExtTreeMap.getElem?_empty]

@[simp]
theorem get_modifyWindow :
    (t.modifyWindow id f).windows[a]? =
      if a = id then t.windows[a]?.map f else t.windows[a]? :=
  ResourceMap.get_modify

theorem get_modifyWindow_map :
    (t.modifyWindow id f).windows[a]? = t.windows[a]?.map fun w => if a = id then f w else w := by
  rw [get_modifyWindow]
  by_cases h : a = id
  · simp [h]
  · simp [h]

@[simp]
theorem size_modifyWindow : (t.modifyWindow id f).windows.size = t.windows.size :=
  Std.ExtTreeMap.size_modify

end ResourceTable

end X12
