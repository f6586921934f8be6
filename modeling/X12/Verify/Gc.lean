import X12.Core.Gc

/-! # Graphics contexts

A change sets the components that it names and leaves the others alone, and the
clip and dash fields of every context stay consistent with one another. -/

namespace X12

/-- The attributes, each with the fields that are set with it. -/
inductive GcComponent where
  | function | planeMask | foreground | background | lineWidth | lineStyle | capStyle | joinStyle
  | fillStyle | fillRule | tile | stipple | tileXOrigin | tileYOrigin | font | subwindowMode
  | graphicsExposures | clipXOrigin | clipYOrigin | clipMask | dashOffset | dashes | arcMode
  deriving DecidableEq, Repr

namespace GcComponent

def Value : GcComponent → Type
  | function => GcFunction
  | planeMask | foreground | background => UInt32
  | lineWidth => UInt16
  | lineStyle => LineStyle
  | capStyle => CapStyle
  | joinStyle => JoinStyle
  | fillStyle => FillStyle
  | fillRule => FillRule
  | tile | stipple => Option ResourceId × Option Handle
  | tileXOrigin | tileYOrigin | clipXOrigin | clipYOrigin | dashOffset => Int16
  | font => Option ResourceId
  | subwindowMode => SubwindowMode
  | graphicsExposures => Bool
  | clipMask => Option ClipRectangles × Option ResourceId × Option Handle
  | dashes => List UInt8
  | arcMode => ArcMode

/-- The bit that names a component in a value mask. -/
def bit : GcComponent → UInt32
  | function => GC_FUNCTION
  | planeMask => GC_PLANE_MASK
  | foreground => GC_FOREGROUND
  | background => GC_BACKGROUND
  | lineWidth => GC_LINE_WIDTH
  | lineStyle => GC_LINE_STYLE
  | capStyle => GC_CAP_STYLE
  | joinStyle => GC_JOIN_STYLE
  | fillStyle => GC_FILL_STYLE
  | fillRule => GC_FILL_RULE
  | tile => GC_TILE
  | stipple => GC_STIPPLE
  | tileXOrigin => GC_TILE_X_ORIGIN
  | tileYOrigin => GC_TILE_Y_ORIGIN
  | font => GC_FONT
  | subwindowMode => GC_SUBWINDOW_MODE
  | graphicsExposures => GC_GRAPHICS_EXPOSURES
  | clipXOrigin => GC_CLIP_X_ORIGIN
  | clipYOrigin => GC_CLIP_Y_ORIGIN
  | clipMask => GC_CLIP_MASK
  | dashOffset => GC_DASH_OFFSET
  | dashes => GC_DASHES
  | arcMode => GC_ARC_MODE

end GcComponent

def Gc.component (gc : Gc) : (c : GcComponent) → c.Value
  | .function => gc.function
  | .planeMask => gc.planeMask
  | .foreground => gc.foreground
  | .background => gc.background
  | .lineWidth => gc.lineWidth
  | .lineStyle => gc.lineStyle
  | .capStyle => gc.capStyle
  | .joinStyle => gc.joinStyle
  | .fillStyle => gc.fillStyle
  | .fillRule => gc.fillRule
  | .tile => (gc.tile, gc.tileHostXid)
  | .stipple => (gc.stipple, gc.stippleHostXid)
  | .tileXOrigin => gc.tileXOrigin
  | .tileYOrigin => gc.tileYOrigin
  | .font => gc.font
  | .subwindowMode => gc.subwindowMode
  | .graphicsExposures => gc.graphicsExposures
  | .clipXOrigin => gc.clipXOrigin
  | .clipYOrigin => gc.clipYOrigin
  | .clipMask => (gc.clipRectangles, gc.clipPixmap, gc.clipPixmapHostXid)
  | .dashOffset => gc.dashOffset
  | .dashes => gc.dashes
  | .arcMode => gc.arcMode

/-- The dash that a change asks for. -/
def GcAttributes.dash (a : GcAttributes) : Option UInt8 :=
  a.dashes.filter (· ≠ 0)

/-- What a change asks for; a pixmap comes with its host handle, and a clip mask
without rectangles. -/
def GcAttributes.requested (t : ResourceTable) (a : GcAttributes) :
    (c : GcComponent) → Option c.Value
  | .function => a.function.map GcFunction.fromProtocol
  | .planeMask => a.planeMask
  | .foreground => a.foreground
  | .background => a.background
  | .lineWidth => a.lineWidth
  | .lineStyle => a.lineStyle.map LineStyle.fromProtocol
  | .capStyle => a.capStyle.map CapStyle.fromProtocol
  | .joinStyle => a.joinStyle.map JoinStyle.fromProtocol
  | .fillStyle => a.fillStyle.map FillStyle.fromProtocol
  | .fillRule => a.fillRule.map FillRule.fromProtocol
  | .tile => a.tile.map fun pixmap => (some pixmap, t.pixmapHostXid pixmap)
  | .stipple => a.stipple.map fun pixmap => (some pixmap, t.pixmapHostXid pixmap)
  | .tileXOrigin => a.tileXOrigin
  | .tileYOrigin => a.tileYOrigin
  | .font => a.font.map some
  | .subwindowMode => a.subwindowMode.map SubwindowMode.fromProtocol
  | .graphicsExposures => a.graphicsExposures
  | .clipXOrigin => a.clipXOrigin
  | .clipYOrigin => a.clipYOrigin
  | .clipMask => a.clipMask.map fun mask => (.none, mask, mask.bind t.pixmapHostXid)
  | .dashOffset => a.dashOffset.map UInt16.toInt16
  | .dashes => a.dash.map fun n => [n, n]
  | .arcMode => a.arcMode.map ArcMode.fromProtocol

/-- The fields that no request changes. -/
def Gc.SameContext (gc gc' : Gc) : Prop :=
  gc'.id = gc.id ∧ gc'.drawable = gc.drawable ∧ gc'.depth = gc.depth ∧ gc'.owner = gc.owner

namespace ResourceTable

variable {t t' : ResourceTable} {id src dst : ResourceId} {gc srcGc dstGc : Gc}

/-- The two tables differ in one graphics context at most. -/
structure OnlyGc (t t' : ResourceTable) (id : ResourceId) (gc' : Gc) : Prop where
  changed : t'.gcs[id]? = some gc'
  others : ∀ other, other ≠ id → t'.gcs[other]? = t.gcs[other]?
  elsewhere : { t' with gcs := t.gcs } = t

theorem onlyGc_modify {f : Gc → Gc} (h : t.gcs[id]? = some gc) :
    OnlyGc t { t with gcs := t.gcs.modify id f } id (f gc) where
  changed := by rw [ResourceMap.get_modify, if_pos rfl, h]; rfl
  others other hne := by rw [ResourceMap.get_modify, if_neg hne]
  elsewhere := rfl

theorem component_changedGc (t : ResourceTable) (a : GcAttributes) (gc : Gc) (c : GcComponent)
    (hdash : c = .dashOffset → a.dash = none) :
    (t.changedGc a gc).component c = (a.requested t c).getD (gc.component c) := by
  have helim : ∀ {α β : Type} (o : Option α) (f : α → β) (b : β), o.elim b f = (o.map f).getD b :=
    fun o f b => by cases o <;> rfl
  cases c with
  | planeMask | foreground | background | lineWidth | tileXOrigin | tileYOrigin
  | graphicsExposures | clipXOrigin | clipYOrigin => rfl
  | function | lineStyle | capStyle | joinStyle | fillStyle | fillRule | subwindowMode | arcMode
  | dashes => exact helim ..
  | tile =>
    simp only [Gc.component, changedGc, GcAttributes.requested, Gc.applyGcChange, Gc.applyDashes]
    cases a.tile <;> rfl
  | stipple =>
    simp only [Gc.component, changedGc, GcAttributes.requested, Gc.applyGcChange, Gc.applyDashes]
    cases a.stipple <;> rfl
  | font =>
    simp only [Gc.component, changedGc, GcAttributes.requested, Gc.applyGcChange, Gc.applyDashes]
    cases a.font <;> rfl
  | clipMask =>
    simp only [Gc.component, changedGc, GcAttributes.requested, Gc.applyGcChange, Gc.applyDashes]
    cases a.clipMask <;> rfl
  | dashOffset =>
    have hdash : a.dashes.filter (· ≠ 0) = none := hdash rfl
    simp only [Gc.component, changedGc, GcAttributes.requested, Gc.applyGcChange, Gc.applyDashes,
      hdash, Option.elim_none]
    exact helim ..

theorem dashOffset_changedGc (t : ResourceTable) {a : GcAttributes} (gc : Gc)
    (hdash : a.dash ≠ none) : (t.changedGc a gc).dashOffset = 0 := by
  obtain ⟨n, hn⟩ := Option.ne_none_iff_exists'.mp hdash
  have hn : a.dashes.filter (· ≠ 0) = some n := hn
  simp only [changedGc, Gc.applyGcChange, Gc.applyDashes, hn, Option.elim_some]

theorem component_copiedGc (src dst : Gc) (mask : UInt32) (c : GcComponent) :
    (copiedGc src dst mask).component c =
      if mask &&& c.bit ≠ 0 then src.component c else dst.component c := by
  by_cases h : mask &&& c.bit ≠ 0
  · rw [if_pos h]
    cases c with
    | tile | stipple | clipMask =>
      simp only [GcComponent.bit] at h
      simp only [Gc.component, copiedGc, if_pos h]
      rfl
    | _ => exact if_pos h
  · rw [if_neg h]
    cases c with
    | tile | stipple | clipMask =>
      simp only [GcComponent.bit] at h
      simp only [Gc.component, copiedGc, if_neg h]
      rfl
    | _ => exact if_neg h

/-- ChangeGC sets what it names, a pixmap with its host handle, and leaves the
rest of the context and of the table alone. A dash also resets the offset, and is
taken for nothing when it is 0. CopyGC copies what the mask names. -/
theorem gcUpdates_exact (t : ResourceTable) :
    (∀ request gc, t.gcs[request.gc]? = some gc →
      ∃ gc', OnlyGc t (t.changeGc request) request.gc gc' ∧ gc.SameContext gc' ∧
        (∀ c, (c = .dashOffset → request.attributes.dash = none) →
          gc'.component c = (request.attributes.requested t c).getD (gc.component c)) ∧
        (request.attributes.dashOffset = none → request.attributes.dash ≠ none →
          gc'.dashOffset = 0)) ∧
    ∀ src dst mask srcGc dstGc, t.gcs[src]? = some srcGc → t.gcs[dst]? = some dstGc →
      ∃ gc', OnlyGc t (t.copyGc src dst mask) dst gc' ∧ dstGc.SameContext gc' ∧
        ∀ c : GcComponent, gc'.component c =
          if mask &&& c.bit ≠ 0 then srcGc.component c else dstGc.component c := by
  constructor
  · intro request gc hgc
    exact ⟨_, onlyGc_modify hgc, ⟨rfl, rfl, rfl, rfl⟩,
      component_changedGc t request.attributes gc, fun _ => dashOffset_changedGc t gc⟩
  · intro src dst mask srcGc dstGc hsrc hdst
    rw [copyGc, hsrc]
    exact ⟨_, onlyGc_modify hdst, ⟨rfl, rfl, rfl, rfl⟩, component_copiedGc srcGc dstGc mask⟩

/-- A context whose dashes start at 5. -/
def dashed : ResourceTable :=
  let gc := { Gc.withDefaults 0x200000 ROOT_WINDOW 1 with dashOffset := 5 }
  { default with gcs := (∅ : ResourceMap Gc).insert 0x200000 gc }

theorem gcUpdates_exact_dashed :
    ∃ gc', OnlyGc dashed (dashed.changeGc ⟨0x200000, { GcAttributes.none with dashes := some 3 }⟩)
      0x200000 gc' ∧ gc'.dashOffset = 0 := by
  have hgc : dashed.gcs[(0x200000 : ResourceId)]? =
      some { Gc.withDefaults 0x200000 ROOT_WINDOW 1 with dashOffset := 5 } := by
    rw [dashed, ResourceMap.get_insert, if_pos rfl]
  obtain ⟨gc', honly, -, -, hreset⟩ := (gcUpdates_exact dashed).1
    ⟨0x200000, { GcAttributes.none with dashes := some 3 }⟩ _ hgc
  exact ⟨gc', honly, hreset rfl (by decide)⟩

/-- A dash alone moves the start of the pattern, and a dash of 0 sets nothing. -/
theorem dash_resets_offset :
    (dashed.gcs[(0x200000 : ResourceId)]?.map (·.dashOffset) = some 5 ∧
      (dashed.changeGc ⟨0x200000, { GcAttributes.none with dashes := some 3 }⟩).gcs[
        (0x200000 : ResourceId)]?.map (·.dashOffset) = some 0) ∧
    (dashed.changeGc ⟨0x200000, { GcAttributes.none with dashes := some 0 }⟩).gcs[
      (0x200000 : ResourceId)]?.map (·.dashes) = some [4, 4] := by
  decide

end ResourceTable

/-! ## Consistency -/

/-- There are clip rectangles or a clip mask or neither, and the dashes are a
cycle of pairs. -/
structure Gc.Consistent (gc : Gc) : Prop where
  exclusive : gc.clipRectangles = none ∨ gc.clipPixmap = none
  host : gc.clipPixmap = none → gc.clipPixmapHostXid = none
  dashed : gc.dashes ≠ []
  even : gc.dashes.length % 2 = 0

namespace Gc.Consistent

variable {t : ResourceTable} {gc src dst : Gc} {a : GcAttributes}

/-- The dash of a request makes an even pattern. -/
theorem dashes_elim (h : gc.Consistent) (dash : Option UInt8) :
    (dash.elim gc.dashes fun n => [n, n]) ≠ [] ∧
      (dash.elim gc.dashes fun n => [n, n]).length % 2 = 0 := by
  cases dash with
  | none => exact ⟨h.dashed, h.even⟩
  | some n => exact ⟨List.cons_ne_nil _ _, Nat.mod_self 2⟩

theorem changedGc (h : gc.Consistent) : (t.changedGc a gc).Consistent := by
  obtain ⟨hdashed, heven⟩ := h.dashes_elim a.dash
  refine ⟨?_, ?_, hdashed, heven⟩
  · change a.clipMask.elim gc.clipRectangles (fun _ => none) = none ∨
      a.clipMask.getD gc.clipPixmap = none
    cases a.clipMask with
    | none => exact h.exclusive
    | some mask => exact .inl rfl
  · change a.clipMask.getD gc.clipPixmap = none →
      (a.clipMask.elim gc.clipPixmapHostXid fun mask => mask.bind t.pixmapHostXid) = none
    cases a.clipMask with
    | none => exact h.host
    | some mask =>
      intro hmask
      obtain rfl : mask = none := hmask
      rfl

/-- A new context has no rectangles yet. -/
theorem newGc (t : ResourceTable) (owner : ClientId) (request : CreateGcRequest) :
    (t.newGc owner request).Consistent := by
  have hdefault : (Gc.withDefaults request.gc request.drawable owner).Consistent :=
    ⟨.inl rfl, fun _ => rfl, List.cons_ne_nil _ _, Nat.mod_self 2⟩
  obtain ⟨hdashed, heven⟩ := hdefault.dashes_elim request.attributes.dash
  refine ⟨.inl rfl, fun hnone => ?_, hdashed, heven⟩
  have hnone : request.attributes.clipMask.join = none := hnone
  change request.attributes.clipMask.join.bind t.pixmapHostXid = none
  rw [hnone, Option.bind_none]

/-- The clip fields are copied together, and the dashes whole. -/
theorem copiedGc (hsrc : src.Consistent) (hdst : dst.Consistent) (mask : UInt32) :
    (ResourceTable.copiedGc src dst mask).Consistent := by
  constructor
  · by_cases h : mask &&& GC_CLIP_MASK ≠ 0
    · simp only [ResourceTable.copiedGc, if_pos h]
      exact hsrc.exclusive
    · simp only [ResourceTable.copiedGc, if_neg h]
      exact hdst.exclusive
  · by_cases h : mask &&& GC_CLIP_MASK ≠ 0
    · simp only [ResourceTable.copiedGc, if_pos h]
      exact hsrc.host
    · simp only [ResourceTable.copiedGc, if_neg h]
      exact hdst.host
  · simp only [ResourceTable.copiedGc]
    split
    · exact hsrc.dashed
    · exact hdst.dashed
  · simp only [ResourceTable.copiedGc]
    split
    · exact hsrc.even
    · exact hdst.even

end Gc.Consistent

namespace ResourceTable

inductive GcOp where
  | createGc (owner : ClientId) (request : CreateGcRequest)
  | changeGc (request : GcChange)
  | copyGc (src dst : ResourceId) (valueMask : UInt32)
  | setClipRectangles (gc : ResourceId) (clip : ClipRectangles)
  | clearGcClip (gc : ResourceId)
  | setDashes (gc : ResourceId) (dashOffset : UInt16) (dashes : List UInt8)
  | freeGc (id : ResourceId)
  deriving DecidableEq, Repr

def GcOp.apply (t : ResourceTable) : GcOp → ResourceTable
  | .createGc owner request => t.createGc owner request
  | .changeGc request => t.changeGc request
  | .copyGc src dst valueMask => t.copyGc src dst valueMask
  | .setClipRectangles gc clip => t.setClipRectangles gc clip
  | .clearGcClip gc => t.clearGcClip gc
  | .setDashes gc dashOffset dashes => t.setDashes gc dashOffset dashes
  | .freeGc id => t.freeGc id

/-- The tables that a run can reach, whatever happens to the other resources in
between. -/
inductive GcReachable : ResourceTable → Prop where
  | init : GcReachable default
  | step (op : GcOp) (before : GcReachable t) : GcReachable (op.apply t)
  | elsewhere (before : GcReachable t) (same : t'.gcs = t.gcs) : GcReachable t'

def GcsConsistent (t : ResourceTable) : Prop :=
  ∀ (id : ResourceId) (gc : Gc), t.gcs[id]? = some gc → gc.Consistent

variable {t t' : ResourceTable} {id : ResourceId} {gc : Gc} {f : Gc → Gc}

theorem GcsConsistent.insert (h : t.GcsConsistent) (hgc : gc.Consistent) :
    GcsConsistent { t with gcs := t.gcs.insert id gc } := by
  intro a g hg
  rw [ResourceMap.get_insert] at hg
  split at hg
  · cases hg
    exact hgc
  · exact h a g hg

theorem GcsConsistent.modify (h : t.GcsConsistent)
    (hf : ∀ g : Gc, g.Consistent → (f g).Consistent) :
    GcsConsistent { t with gcs := t.gcs.modify id f } := by
  intro a g hg
  rw [ResourceMap.get_modify] at hg
  split at hg
  · obtain ⟨g', hg', rfl⟩ := Option.map_eq_some_iff.mp hg
    exact hf g' (h a g' hg')
  · exact h a g hg

theorem GcsConsistent.erase (h : t.GcsConsistent) :
    GcsConsistent { t with gcs := t.gcs.erase id } := by
  intro a g hg
  rw [ResourceMap.get_erase] at hg
  split at hg
  · cases hg
  · exact h a g hg

theorem GcsConsistent.apply (h : t.GcsConsistent) (op : GcOp) : (op.apply t).GcsConsistent := by
  cases op with
  | createGc owner request => exact h.insert (.newGc t owner request)
  | changeGc request => exact h.modify fun g hg => hg.changedGc
  | copyGc src dst valueMask =>
    simp only [GcOp.apply, copyGc]
    cases hsrc : t.gcs[src]? with
    | none => exact h
    | some srcGc => exact h.modify fun g hg => (h src srcGc hsrc).copiedGc hg valueMask
  | setClipRectangles gc clip =>
    exact h.modify fun g hg => ⟨.inr rfl, fun _ => rfl, hg.dashed, hg.even⟩
  | clearGcClip gc => exact h.modify fun g hg => ⟨.inl rfl, fun _ => rfl, hg.dashed, hg.even⟩
  | setDashes gc dashOffset dashes =>
    refine h.modify fun g hg => ?_
    simp only [List.isEmpty_iff]
    by_cases hempty : dashes = []
    · rw [if_pos hempty]
      exact ⟨hg.exclusive, hg.host, hg.dashed, hg.even⟩
    · rw [if_neg hempty]
      split
      · next heven => exact ⟨hg.exclusive, hg.host, hempty, heven⟩
      · refine ⟨hg.exclusive, hg.host, fun hnil => hempty (List.append_eq_nil_iff.mp hnil).1, ?_⟩
        rw [List.length_append]
        omega
  | freeGc id => exact h.erase

/-- In every table that a run reaches, every context is consistent. -/
theorem gcReachable_consistent (h : GcReachable t) : t.GcsConsistent := by
  induction h with
  | init =>
    intro a g hg
    simp [default] at hg
  | step op _ ih => exact ih.apply op
  | elsewhere _ same ih => exact fun a g hg => ih a g (same ▸ hg)

/-- Rectangles, then a clip mask, then an odd number of dashes. -/
theorem gcReachable_consistent_clipped :
    GcsConsistent (GcOp.apply (GcOp.apply (GcOp.apply (GcOp.apply default
      (.createGc 1 ⟨0x200000, ROOT_WINDOW, .none⟩))
      (.setClipRectangles 0x200000 ⟨0, 0, 0, []⟩))
      (.changeGc ⟨0x200000, { GcAttributes.none with clipMask := some (some 0x200001) }⟩))
      (.setDashes 0x200000 0 [1, 2, 3])) :=
  gcReachable_consistent (.step _ (.step _ (.step _ (.step _ .init))))

end ResourceTable

end X12
