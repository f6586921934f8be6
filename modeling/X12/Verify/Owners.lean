import X12.Core.Server

/-! # Who owns an id

One table for each kind of resource; an id is free if it is in none of them. -/

namespace X12

/-- The kinds of resource that have ids of clients. -/
inductive ResourceKind where
  | Window
  | Pixmap
  | Gc
  | Font
  | Cursor
  | Colormap
  | Picture
  | GlyphSet
  | Region
  | Counter
  | Alarm
  | Fence
  | Damage
  | ShmSegment
  | GlxContext
  | GlxDrawable
  | PresentSelection
  deriving DecidableEq, Repr

namespace ServerState

/-- The owner of the resource of that kind that the id names. -/
def ownerOf (s : ServerState) (kind : ResourceKind) (id : ResourceId) : Option ClientId :=
  match kind with
  | .Window => s.resources.windows[id]?.map (·.owner)
  | .Pixmap => s.resources.pixmaps[id]?.map (·.owner)
  | .Gc => s.resources.gcs[id]?.map (·.owner)
  | .Font => s.resources.fonts[id]?.map (·.owner)
  | .Cursor => s.resources.cursors[id]?.map (·.owner)
  | .Colormap => s.resources.colormaps[id]?.map (·.owner)
  | .Picture => s.resources.pictures[id]?.map (·.client)
  | .GlyphSet => s.resources.glyphsets[id]?.map (·.client)
  | .Region => s.xfixesRegions[id]?.map (·.owner)
  | .Counter => s.syncCounters[id]?.map (·.owner)
  | .Alarm => s.syncAlarms[id]?.map (·.owner)
  | .Fence => s.syncFences[id]?.map (·.owner)
  | .Damage => s.damageObjects[id]?.map (·.owner)
  | .ShmSegment => s.mitShmSegments[id]?.map (·.owner)
  | .GlxContext => s.glxContexts[id]?.map (·.owner)
  | .GlxDrawable => s.glxDrawables[id]?.map (·.owner)
  | .PresentSelection => s.presentEventSelections[id]?.map (·.owner)

/-- The id names no resource of any kind. -/
def Unused (s : ServerState) (id : ResourceId) : Prop :=
  ∀ kind, s.ownerOf kind id = none

variable {s : ServerState} {id : ResourceId}

theorem xidOccupied_eq_false : s.xidOccupied id = false ↔ s.Unused id := by
  simp only [xidOccupied, ResourceTable.xidInUse, Std.ExtTreeMap.contains_eq_isSome_getElem?,
    Bool.or_eq_false_iff, Option.isSome_eq_false_iff, Option.isNone_iff_eq_none]
  constructor
  · intro h kind
    cases kind <;> simp only [ownerOf, h, Option.map_none]
  · intro h
    refine ⟨⟨⟨⟨⟨⟨⟨⟨⟨⟨⟨⟨⟨⟨⟨⟨?_, ?_⟩, ?_⟩, ?_⟩, ?_⟩, ?_⟩, ?_⟩, ?_⟩, ?_⟩, ?_⟩, ?_⟩, ?_⟩, ?_⟩, ?_⟩, ?_⟩, ?_⟩,
      ?_⟩
    exacts [Option.map_eq_none_iff.mp (h .Window), Option.map_eq_none_iff.mp (h .Pixmap),
      Option.map_eq_none_iff.mp (h .Gc), Option.map_eq_none_iff.mp (h .Font),
      Option.map_eq_none_iff.mp (h .Cursor), Option.map_eq_none_iff.mp (h .Colormap),
      Option.map_eq_none_iff.mp (h .Picture), Option.map_eq_none_iff.mp (h .GlyphSet),
      Option.map_eq_none_iff.mp (h .Region), Option.map_eq_none_iff.mp (h .Counter),
      Option.map_eq_none_iff.mp (h .Alarm), Option.map_eq_none_iff.mp (h .Fence),
      Option.map_eq_none_iff.mp (h .Damage), Option.map_eq_none_iff.mp (h .ShmSegment),
      Option.map_eq_none_iff.mp (h .GlxContext), Option.map_eq_none_iff.mp (h .GlxDrawable),
      Option.map_eq_none_iff.mp (h .PresentSelection)]

/-- Every id that names a resource is occupied. -/
theorem xidOccupied_of_ownerOf {kind : ResourceKind} (h : s.ownerOf kind id ≠ none) :
    s.xidOccupied id = true := by
  rw [← Bool.not_eq_false]
  exact fun hfree => h (xidOccupied_eq_false.mp hfree kind)

end ServerState

end X12
