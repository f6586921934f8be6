import X12.Core.Resources

/-! # Glyph sets

The glyph sets of the clients stand for glyph sets of the host. A host glyph set
is shared by all ids that reference it, and freed with the last of them. -/

namespace X12

namespace ResourceTable

/-- The count goes down; a count of one is dropped. -/
def releaseHostGlyphsetRef (t : ResourceTable) (hostXid : Handle) : ResourceTable × Bool :=
  match t.hostGlyphsetRefcounts[hostXid]? with
  | none => (t, true)
  | some count =>
    if count > 1 then
      ({ t with hostGlyphsetRefcounts := t.hostGlyphsetRefcounts.insert hostXid (count - 1) },
        false)
    else ({ t with hostGlyphsetRefcounts := t.hostGlyphsetRefcounts.erase hostXid }, true)

@[simp]
theorem releaseHostGlyphsetRef_glyphsets (t : ResourceTable) (hostXid : Handle) :
    (t.releaseHostGlyphsetRef hostXid).1.glyphsets = t.glyphsets := by
  unfold releaseHostGlyphsetRef
  split
  · rfl
  · split <;> rfl

/-- A glyph set that the id names already gives up its host object. -/
def createGlyphset (t : ResourceTable) (id : ResourceId) (state : GlyphSetState) : ResourceTable :=
  let t :=
    match t.glyphsets[id]? with
    | some old =>
      ({ t with glyphsets := t.glyphsets.erase id }.releaseHostGlyphsetRef old.hostGlyphsetXid).1
    | none => t
  let count := t.hostGlyphsetRefcounts[state.hostGlyphsetXid]?.getD 0
  { t with
    hostGlyphsetRefcounts := t.hostGlyphsetRefcounts.insert state.hostGlyphsetXid (count + 1)
    glyphsets := t.glyphsets.insert id state }

def referenceGlyphset (t : ResourceTable) (client : ClientId) (newId existingId : ResourceId) :
    ResourceTable :=
  match t.glyphsets[existingId]? with
  | some existing => t.createGlyphset newId ⟨client, existing.hostGlyphsetXid⟩
  | none => t

/-- The glyph set whose host object is to be freed. -/
def freeGlyphset (t : ResourceTable) (id : ResourceId) : ResourceTable × Option GlyphSetState :=
  match t.glyphsets[id]? with
  | none => (t, none)
  | some state =>
    let (t, last) :=
      { t with glyphsets := t.glyphsets.erase id }.releaseHostGlyphsetRef state.hostGlyphsetXid
    (t, if last then some state else none)

/-- One reference after the other, with the host objects to be freed. -/
def releaseHostGlyphsetRefs (t : ResourceTable) : List Handle → ResourceTable × List Handle
  | [] => (t, [])
  | hostXid :: rest =>
    let (t, last) := t.releaseHostGlyphsetRef hostXid
    let (t, freed) := t.releaseHostGlyphsetRefs rest
    (t, if last then hostXid :: freed else freed)

/-- The order in which the hash map yields them does not matter. -/
def glyphsetsOwnedBy (t : ResourceTable) (client : ClientId) : List ResourceId :=
  t.glyphsets.keys.filter fun id => t.glyphsets[id]?.any (·.client = client)

/-- The glyph sets in `remove_non_window_resources_owned_by`. -/
def removeGlyphsetsOwnedBy (t : ResourceTable) (client : ClientId) :
    ResourceTable × List Handle :=
  let removed := (t.glyphsetsOwnedBy client).filterMap fun id =>
    t.glyphsets[id]?.map (·.hostGlyphsetXid)
  releaseHostGlyphsetRefs
    { t with glyphsets := t.glyphsets.filter fun _ g => g.client ≠ client } removed

end ResourceTable

end X12
