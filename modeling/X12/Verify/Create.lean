import X12.Core.Create
import X12.Verify.Damage
import X12.Verify.ServerRun

/-! # Exclusive ids

A request that creates looks at some of the tables before it inserts into its
own. What it does not look at it can overwrite, or name a second time. -/

namespace X12

open ServerState

/-! ## Which owner an insertion changes -/

namespace ServerState

/-- The id now names a resource of the client; other owners are as before. -/
def Adds (s s' : ServerState) (c : ClientId) (kind : ResourceKind) (id : ResourceId) : Prop :=
  ∀ k a, s'.ownerOf k a = if k = kind ∧ a = id then some c else s.ownerOf k a

variable {s s' t : ServerState} {c : ClientId} {kind : ResourceKind} {id a : ResourceId}

theorem map_insert {β : Type} {m : ResourceMap β} {v : β} {owner : β → ClientId}
    (h : owner v = c) :
    (m.insert id v)[a]?.map owner = if a = id then some c else m[a]?.map owner := by
  rw [ResourceMap.get_insert]
  split
  · rw [Option.map_some, h]
  · rfl

/-- One table has a new entry. -/
theorem Adds.of_table (htable : ∀ a, s'.ownerOf kind a = if a = id then some c else s.ownerOf kind a)
    (hothers : ∀ k, k ≠ kind → ∀ a, s'.ownerOf k a = s.ownerOf k a) : Adds s s' c kind id := by
  intro k a
  by_cases hk : k = kind
  · subst hk
    simp only [htable, true_and]
  · simp only [hothers k hk a, hk, false_and, if_false]

/-- Every id has the owners that it had. -/
def SameOwners (s s' : ServerState) : Prop :=
  ∀ k a, s'.ownerOf k a = s.ownerOf k a

theorem SameOwners.trans (h : SameOwners s s') (h' : SameOwners s' t) : SameOwners s t :=
  fun k a => (h' k a).trans (h k a)

theorem Adds.trans_same (h : Adds s s' c kind id) (hsame : SameOwners s' t) : Adds s t c kind id :=
  fun k a => (hsame k a).trans (h k a)

/-- A window that is created leaves the owners of the others alone. -/
theorem adds_insertWindow {request : CreateWindowRequest} {hostXid : Option Handle}
    (hparent : s.resources.windows[request.parent]? ≠ none) :
    Adds s (s.insertWindow c request hostXid) c .Window request.window := by
  obtain ⟨parent, hp⟩ := Option.ne_none_iff_exists'.mp hparent
  have hcreate (a : ResourceId) :
      (s.resources.createWindow c request).windowOwner a =
        if a = request.window then some c else s.resources.windowOwner a := by
    rw [ResourceTable.windowOwner, ResourceTable.get_createWindow hp]
    split
    · rfl
    · split
      · next heq =>
        rw [heq, ResourceTable.windowOwner, hp]
        rfl
      · rfl
  have hothers (k : ResourceKind) (hk : k ≠ .Window) (a : ResourceId) :
      (s.insertWindow c request hostXid).ownerOf k a = s.ownerOf k a := by
    unfold insertWindow
    dsimp only
    split
    · split
      · cases k <;> first | exact absurd rfl hk | rfl
      · cases k <;> first | exact absurd rfl hk | rfl
    · cases k <;> first | exact absurd rfl hk | rfl
  refine .of_table (fun a => ?_) hothers
  rw [show s.ownerOf .Window a = s.resources.windowOwner a from rfl, ← hcreate a]
  unfold insertWindow
  dsimp only
  split
  · split
    · exact ResourceTable.windowOwner_modifyWindow fun _ => rfl
    · rfl
  · rfl

theorem glyphsets_releaseHostGlyphsetRef {t : ResourceTable} {hostXid : Handle} :
    (t.releaseHostGlyphsetRef hostXid).1 =
      { t with hostGlyphsetRefcounts := (t.releaseHostGlyphsetRef hostXid).1.hostGlyphsetRefcounts }
      := by
  rw [ResourceTable.releaseHostGlyphsetRef]
  split
  · rfl
  · split <;> rfl

theorem adds_createGlyphset {state : GlyphSetState} (hstate : state.client = c) :
    Adds s { s with resources := s.resources.createGlyphset id state } c .GlyphSet id := by
  have hcreate : ∃ (counts : ResourceMap Nat) (glyphsets : ResourceMap GlyphSetState), s.resources.createGlyphset id state =
      { s.resources with hostGlyphsetRefcounts := counts, glyphsets := glyphsets.insert id state } ∧
      ∀ a, a ≠ id → glyphsets[a]? = s.resources.glyphsets[a]? := by
    rw [ResourceTable.createGlyphset]
    dsimp only
    split
    · rw [glyphsets_releaseHostGlyphsetRef]
      refine ⟨_, _, rfl, fun a ha => ?_⟩
      rw [ResourceMap.get_erase, if_neg ha]
    · exact ⟨_, _, rfl, fun _ _ => rfl⟩
  obtain ⟨counts, glyphsets, heq, hothers⟩ := hcreate
  rw [heq]
  refine .of_table (fun a => ?_) fun k hk a => ?_
  · rw [show ownerOf _ .GlyphSet a = (glyphsets.insert id state)[a]?.map (·.client) from rfl,
      map_insert hstate]
    split
    · rfl
    · next ha =>
      rw [hothers a ha]
      rfl
  · cases k <;> first | exact absurd rfl hk | rfl

/-- Firing leaves an alarm with its owner. -/
theorem SyncAlarm.owner_fired {alarm : SyncAlarm} {new : Int64} :
    (alarm.fired new).owner = alarm.owner := by
  rw [SyncAlarm.fired]
  split
  · split <;> rfl
  · split <;> rfl

theorem sameOwners_evaluateAlarms {counter : UInt32} {old new : Int64} :
    SameOwners s (s.evaluateAlarmsForCounter counter old new).1 := by
  intro k a
  cases k with
  | Alarm =>
    rw [evaluateAlarmsForCounter, ownerOf, Std.ExtTreeMap.getElem?_map, Option.map_map]
    congr 1
    funext alarm
    rw [Function.comp_apply]
    split
    · exact SyncAlarm.owner_fired
    · rfl
  | _ => rfl

/-- A damage object that is written back keeps its owner. -/
theorem sameOwners_insertDamage {d d' : DamageObject} (hget : s.damageObjects[id]? = some d)
    (howner : d'.owner = d.owner) :
    SameOwners s { s with damageObjects := s.damageObjects.insert id d' } := by
  intro k a
  cases k with
  | Damage =>
    refine (map_insert howner).trans ?_
    split
    · next ha =>
      rw [ha, ownerOf, hget]
      rfl
    · rfl
  | _ => rfl

variable {l : LevelRect} {acc : ServerState × List PendingNotify}

theorem sameOwners_accumulateInObject {damageId : ResourceId} :
    SameOwners acc.1 (accumulateInObject l acc damageId).1 := by
  cases h : acc.1.damageObjects[damageId]? with
  | none =>
    rw [accumulateInObject_eq_self h]
    exact fun _ _ => rfl
  | some d =>
    obtain ⟨fired, geometry, pending, heq⟩ := accumulateInObject_eq (l := l) h
    rw [heq]
    exact sameOwners_insertDamage h rfl

theorem sameOwners_accumulateAtLevel : SameOwners acc.1 (accumulateAtLevel acc l).1 := by
  rw [accumulateAtLevel]
  generalize acc.1.damageObjects.keys.filter _ = ids
  induction ids generalizing acc with
  | nil => exact fun _ _ => rfl
  | cons head rest ih =>
    rw [List.foldl_cons]
    exact sameOwners_accumulateInObject.trans ih

theorem sameOwners_accumulateInAncestors {steps : Nat} :
    SameOwners acc.1 (accumulateInAncestors steps acc l).1 := by
  induction steps generalizing acc l with
  | zero => exact fun _ _ => rfl
  | succ steps ih =>
    rw [accumulateInAncestors]
    split
    · exact fun _ _ => rfl
    · exact sameOwners_accumulateAtLevel.trans ih

theorem sameOwners_accumulateDamageFull {drawable : ResourceId} :
    SameOwners s (s.accumulateDamageFullToState drawable).1 := by
  rw [accumulateDamageFullToState, accumulateDamageToState]
  split
  · exact fun _ _ => rfl
  · exact @sameOwners_accumulateAtLevel _ (s, []) |>.trans sameOwners_accumulateInAncestors

theorem adds_damageCreate {drawable : ResourceId} {level : UInt8} :
    Adds s (s.damageCreate c id drawable level).1 c .Damage id := by
  have hinsert : Adds s { s with
      damageObjects := s.damageObjects.insert id
        { owner := c
          drawable := drawable
          level := level
          rects := []
          pendingNotifyFired := false
          lastReportedGeometry := none } } c .Damage id := by
    refine .of_table (fun a => map_insert rfl) fun k hk a => ?_
    cases k <;> first | exact absurd rfl hk | rfl
  rw [damageCreate]
  dsimp only
  split
  · exact hinsert.trans_same sameOwners_accumulateDamageFull
  · exact hinsert

theorem adds_writeRegion {rects : List RegionRect} :
    Adds s (s.writeRegion c id rects) c .Region id := by
  refine .of_table (fun a => map_insert rfl) fun k hk a => ?_
  cases k <;> first | exact absurd rfl hk | rfl

theorem sameOwners_setDamage {rects : List RegionRect} : SameOwners s (s.setDamage id rects) := by
  intro k a
  cases k with
  | Damage =>
    rw [ownerOf, setDamage, ResourceMap.get_modify]
    split
    · rw [Option.map_map]
      rfl
    · rfl
  | _ => rfl

theorem sameOwners_reportExistingDamage {damageId : ResourceId} :
    SameOwners s (s.reportExistingDamageToState damageId).1 := by
  rcases reportExistingDamageToState_eq s damageId with h | ⟨d, hd, _, h⟩
  · rw [h]
    exact fun _ _ => rfl
  · rw [h]
    exact sameOwners_insertDamage hd rfl

/-- Apart from the parts region a Subtract changes no owner. -/
theorem sameOwners_damageSubtract {damageId repair parts : ResourceId} :
    SameOwners (s.writeParts c parts (s.splitDamage damageId repair).1)
      (s.damageSubtract c damageId repair parts).1 := by
  unfold damageSubtract
  dsimp only
  split
  · exact sameOwners_setDamage.trans sameOwners_reportExistingDamage
  · exact sameOwners_setDamage

end ServerState

/-! ## Requests that create -/

namespace CreateRequest

/-- The id that the client has chosen. -/
def id : CreateRequest → ResourceId
  | CreateWindow request _ => request.window
  | CreatePixmap request _ | ShmCreatePixmap request _ _ _ | Dri3PixmapFromBuffer request _ _
  | Dri3PixmapFromBuffers request _ _ _ => request.pixmap
  | CreateGC request => request.gc
  | OpenFont id _ | CreateCursor id _ _ | CreateGlyphCursor id _ _
  | CreateColormap id _ | CopyColormapAndFree id _ | RenderCreatePicture id _ _
  | RenderCreateGlyphSet id _ | RenderReferenceGlyphSet id _ | RenderCreateCursor id _ _
  | RenderCreateAnimCursor id _ _ | RenderCreateSource id _ | SyncCreateCounter id _
  | SyncCreateAlarm id _ _ _ | SyncCreateFence id _ | DamageCreate id _ _
  | XFixesCreateRegion id _ | XFixesCreateRegionFromBitmap id | XFixesCreateRegionFromGC id _
  | XFixesCreateRegionFromWindow id _ _ | XFixesCreateRegionFromPicture id _ _
  | CompositeCreateRegionFromBorderClip id _ | CompositeNameWindowPixmap _ id _
  | ShmAttach id _ _ | ShmAttachFd id _ _ _ | ShmCreateSegment id _ _ _
  | Dri3FenceFromFd id _ _ _ | GlxCreateContext id _ _ | GlxCreateWindow id _ _
  | GlxCreatePixmap _ id _ _ | GlxCreatePbuffer id _ _ _ => id

def kind : CreateRequest → ResourceKind
  | CreateWindow _ _ => .Window
  | CreatePixmap _ _ | ShmCreatePixmap _ _ _ _ | Dri3PixmapFromBuffer _ _ _
  | Dri3PixmapFromBuffers _ _ _ _ | CompositeNameWindowPixmap _ _ _ => .Pixmap
  | CreateGC _ => .Gc
  | OpenFont _ _ => .Font
  | CreateCursor _ _ _ | CreateGlyphCursor _ _ _ | RenderCreateCursor _ _ _
  | RenderCreateAnimCursor _ _ _ => .Cursor
  | CreateColormap _ _ | CopyColormapAndFree _ _ => .Colormap
  | RenderCreatePicture _ _ _ | RenderCreateSource _ _ => .Picture
  | RenderCreateGlyphSet _ _ | RenderReferenceGlyphSet _ _ => .GlyphSet
  | SyncCreateCounter _ _ => .Counter
  | SyncCreateAlarm _ _ _ _ => .Alarm
  | SyncCreateFence _ _ | Dri3FenceFromFd _ _ _ _ => .Fence
  | DamageCreate _ _ _ => .Damage
  | XFixesCreateRegion _ _ | XFixesCreateRegionFromBitmap _ | XFixesCreateRegionFromGC _ _
  | XFixesCreateRegionFromWindow _ _ _ | XFixesCreateRegionFromPicture _ _ _
  | CompositeCreateRegionFromBorderClip _ _ => .Region
  | ShmAttach _ _ _ | ShmAttachFd _ _ _ _ | ShmCreateSegment _ _ _ _ => .ShmSegment
  | GlxCreateContext _ _ _ => .GlxContext
  | GlxCreateWindow _ _ _ | GlxCreatePixmap _ _ _ _ | GlxCreatePbuffer _ _ _ _ => .GlxDrawable

variable {s : ServerState} {c : ClientId} {r : CreateRequest}

/-- A request that passes its checks makes its id the name of a resource of the
client, and changes nothing else about who owns what. -/
theorem adds (h : r.refusal s c = none) : Adds s (r.insert s c) c r.kind r.id := by
  cases r with
  | CreateWindow request hostXid =>
    refine adds_insertWindow fun hparent => ?_
    rw [refusal, createWindowRefusal, hparent] at h
    cases h
  | RenderCreateGlyphSet glyphset hostGs => exact adds_createGlyphset rfl
  | RenderReferenceGlyphSet newGlyphset existing =>
    rw [insert, ResourceTable.referenceGlyphset]
    split
    · exact adds_createGlyphset rfl
    · next habsent =>
      rw [refusal, Std.ExtTreeMap.contains_eq_isSome_getElem?, habsent] at h
      cases h
  | SyncCreateAlarm alarm attrs idle idleAfter =>
    refine Adds.trans_same ?_ sameOwners_evaluateAlarms
    refine .of_table (fun a => map_insert rfl) fun k hk a => ?_
    cases k <;> first | exact absurd rfl hk | rfl
  | DamageCreate damage drawable level => exact adds_damageCreate
  | CompositeNameWindowPixmap window pixmap hostPixmap =>
    rw [insert]
    split
    · next habsent =>
      rw [refusal, habsent] at h
      cases h
    · refine .of_table (fun a => map_insert rfl) fun k hk a => ?_
      cases k with
      | Pixmap => exact absurd rfl hk
      | Window => exact ResourceTable.windowOwner_modifyWindow fun _ => rfl
      | _ => rfl
  | _ =>
    refine .of_table (fun a => map_insert rfl) fun k hk a => ?_
    cases k <;> first | exact absurd rfl hk | rfl

/-- What a request looks at before it inserts: the range of the client and
some of the tables, or nothing. -/
inductive IdCheck where
  /-- `any_resource_exists` -/
  | Exists
  /-- `xid_in_use` -/
  | InUse
  /-- `xfixes_region_xid_already_taken` -/
  | Region
  | Unchecked
  deriving DecidableEq, Repr

def IdCheck.looksAt : IdCheck → List ResourceKind
  | Exists => [.Window, .Pixmap, .Gc, .Font, .Cursor]
  | InUse => [.Window, .Pixmap, .Gc, .Font, .Cursor, .Colormap, .Picture, .GlyphSet]
  | Region => [.Region, .Window, .Pixmap, .Gc, .Font, .Cursor, .Colormap, .Picture, .GlyphSet]
  | Unchecked => []

def idCheck : CreateRequest → IdCheck
  | CreateWindow _ _ | CreatePixmap _ _ | CreateGC _ | OpenFont _ _ | CreateGlyphCursor _ _ _
  | ShmCreatePixmap _ _ _ _ => .Exists
  | CreateColormap _ _ | CopyColormapAndFree _ _ | CreateCursor _ _ _
  | RenderCreateAnimCursor _ _ _ => .InUse
  | XFixesCreateRegion _ _ | XFixesCreateRegionFromBitmap _ | XFixesCreateRegionFromGC _ _
  | XFixesCreateRegionFromWindow _ _ _ | XFixesCreateRegionFromPicture _ _ _ => .Region
  | _ => .Unchecked

/-- The id is the client's own and in none of the tables that are looked at. -/
def IdCheck.Passes (s : ServerState) (c : ClientId) (id : ResourceId) (check : IdCheck) : Prop :=
  check ≠ .Unchecked → s.ownsId c id ∧ ∀ kind ∈ check.looksAt, s.ownerOf kind id = none

/-- The id is looked at, and lies outside of the range of the client or in a table that is
looked at. -/
def IdCheck.Catches (s : ServerState) (c : ClientId) (id : ResourceId) (check : IdCheck) : Prop :=
  check ≠ .Unchecked ∧
    (s.ownsId c id = false ∨ ∃ kind ∈ check.looksAt, s.ownerOf kind id ≠ none)

/-- What CreateWindow asks of the parent and the class before it looks at the id. -/
def ClassFits (parent : Window) (request : CreateWindowRequest) : Prop :=
  let effectiveClass :=
    if request.windowClass = 0 then parent.windowClass.protocolValue else request.windowClass
  (effectiveClass = 1 ∨ effectiveClass = 2) ∧
    (parent.windowClass = .InputOnly → effectiveClass = 2) ∧
    (effectiveClass = 2 → request.borderWidth = 0 ∧ request.depth = 0 ∧
      request.valueMask &&& ~~~INPUTONLY_LEGAL_MASK = 0)

/-- No check that comes before that of the id turns the request away. -/
def ReachesIdCheck (s : ServerState) : CreateRequest → Prop
  | CreateWindow request _ =>
    ∃ parent, s.resources.windows[request.parent]? = some parent ∧ ClassFits parent request
  | _ => True

variable {id : ResourceId} {record : ClientState} {check : IdCheck}

theorem anyResourceExists_iff : s.resources.anyResourceExists id = false ↔
    ∀ kind ∈ IdCheck.Exists.looksAt, s.ownerOf kind id = none := by
  simp only [ResourceTable.anyResourceExists, IdCheck.looksAt, ownerOf, List.forall_mem_cons,
    Bool.or_eq_false_iff, Std.ExtTreeMap.contains_eq_isSome_getElem?, Option.isSome_eq_false_iff,
    Option.isNone_iff_eq_none, Option.map_eq_none_iff, and_assoc,
    List.not_mem_nil, false_imp_iff, implies_true, and_true]

theorem xidInUse_iff : s.resources.xidInUse id = false ↔
    ∀ kind ∈ IdCheck.InUse.looksAt, s.ownerOf kind id = none := by
  simp only [ResourceTable.xidInUse, IdCheck.looksAt, ownerOf, List.forall_mem_cons,
    Bool.or_eq_false_iff, Std.ExtTreeMap.contains_eq_isSome_getElem?, Option.isSome_eq_false_iff,
    Option.isNone_iff_eq_none, Option.map_eq_none_iff, and_assoc,
    List.not_mem_nil, false_imp_iff, implies_true, and_true]

theorem xfixesRegionXidAlreadyTaken_iff : s.xfixesRegionXidAlreadyTaken id = false ↔
    ∀ kind ∈ IdCheck.Region.looksAt, s.ownerOf kind id = none := by
  rw [xfixesRegionXidAlreadyTaken, Bool.or_eq_false_iff, xidInUse_iff]
  simp only [IdCheck.looksAt, ownerOf, List.forall_mem_cons, Option.map_eq_none_iff,
    Std.ExtTreeMap.contains_eq_isSome_getElem?, Option.isSome_eq_false_iff,
    Option.isNone_iff_eq_none]

/-- One step down a chain of checks. -/
theorem refusal_step {p : Prop} [Decidable p] {code : UInt8} {badValue : UInt32}
    {minor : UInt16} {major : UInt8} {rest : Option Refusal}
    (h : (if p then emitX11ErrorWithMinor code badValue minor major else rest) = none) :
    ¬ p ∧ rest = none := by
  by_cases hp : p
  · rw [if_pos hp] at h
    cases h
  · rw [if_neg hp] at h
    exact ⟨hp, h⟩

theorem passes_exists (h : s.validationFailed c id = false) : IdCheck.Exists.Passes s c id := by
  rw [validationFailed, Bool.or_eq_false_iff, Bool.not_eq_false'] at h
  exact fun _ => ⟨h.1, anyResourceExists_iff.mp h.2⟩

theorem validationFailed_of_refusal {code : UInt8} {badValue : UInt32} {minor : UInt16}
    {major : UInt8} {rest : Option Refusal}
    (h : (if s.validationFailed c id then emitX11ErrorWithMinor code badValue minor major
      else rest) = none) : s.validationFailed c id = false := by
  rw [← Bool.not_eq_true]
  exact (refusal_step h).1

theorem passes_createWindow {request : CreateWindowRequest}
    (h : s.createWindowRefusal c request = none) : IdCheck.Exists.Passes s c request.window := by
  rw [createWindowRefusal] at h
  split at h
  · cases h
  · dsimp only [emitX11Error] at h
    obtain ⟨-, h⟩ := refusal_step h
    obtain ⟨-, h⟩ := refusal_step h
    obtain ⟨-, h⟩ := refusal_step h
    obtain ⟨-, h⟩ := refusal_step h
    exact passes_exists (validationFailed_of_refusal h)

theorem passes_createPixmap {request : CreatePixmapRequest} {minor : UInt16} {major : UInt8}
    (h : s.createPixmapRefusal c request minor major = none) :
    IdCheck.Exists.Passes s c request.pixmap :=
  passes_exists (validationFailed_of_refusal h)

theorem ownsId_eq (hrec : s.clients[c]? = some record) :
    s.ownsId c id = !s.xidOutOfClientRange c id := by
  rw [ownsId, xidOutOfClientRange, hrec]
  simp [IdAllocator.validateOwned]

theorem catches_iff {taken : Bool} (hchecked : check ≠ .Unchecked)
    (htaken : taken = false ↔ ∀ kind ∈ check.looksAt, s.ownerOf kind id = none) :
    check.Catches s c id ↔ s.ownsId c id = false ∨ taken = true := by
  rw [IdCheck.Catches, and_iff_right hchecked, ← Bool.not_eq_false, htaken]
  simp only [not_forall, exists_prop]

theorem catches_exists : IdCheck.Exists.Catches s c id ↔ s.validationFailed c id = true := by
  rw [catches_iff (by decide) anyResourceExists_iff, validationFailed, Bool.or_eq_true,
    Bool.not_eq_true']

theorem catches_inUse (hrec : s.clients[c]? = some record) : IdCheck.InUse.Catches s c id ↔
    (s.resources.xidInUse id || s.xidOutOfClientRange c id) = true := by
  rw [catches_iff (by decide) xidInUse_iff, ownsId_eq hrec, Bool.not_eq_false', Bool.or_eq_true, or_comm]

theorem catches_region (hrec : s.clients[c]? = some record) : IdCheck.Region.Catches s c id ↔
    (s.xfixesRegionXidAlreadyTaken id || s.xidOutOfClientRange c id) = true := by
  rw [catches_iff (by decide) xfixesRegionXidAlreadyTaken_iff, ownsId_eq hrec, Bool.not_eq_false',
    Bool.or_eq_true, or_comm]

theorem not_catches_unchecked : ¬ IdCheck.Unchecked.Catches s c id :=
  fun h => h.1 rfl

/-! ## Who fails with BadIDChoice -/

/-- The request fails with BadIDChoice for the id. -/
def BadIdChoice (id : ResourceId) (refusal : Option Refusal) : Prop :=
  ∃ minor major, refusal = some (.Error ⟨BAD_ID_CHOICE, id, minor, major⟩)

section BadIdChoice

variable {p : Prop} [Decidable p] {code : UInt8} {badValue : UInt32} {minor : UInt16}
  {major : UInt8} {first rest : Option Refusal}

theorem not_badIdChoice_none : ¬ BadIdChoice id none := by
  rintro ⟨_, _, h⟩
  cases h

theorem not_badIdChoice_ignored : ¬ BadIdChoice id (some .Ignored) := by
  rintro ⟨_, _, h⟩
  cases h

theorem not_badIdChoice_error (hcode : code ≠ BAD_ID_CHOICE) :
    ¬ BadIdChoice id (emitX11ErrorWithMinor code badValue minor major) := by
  rintro ⟨_, _, h⟩
  cases h
  exact hcode rfl

theorem not_badIdChoice_ite (hfirst : ¬ BadIdChoice id first) (hrest : ¬ BadIdChoice id rest) :
    ¬ BadIdChoice id (if p then first else rest) := by
  split
  · exact hfirst
  · exact hrest

/-- The check of the id comes first, and the rest fails with other errors. -/
theorem badIdChoice_first_iff (hrest : ¬ BadIdChoice id rest) :
    BadIdChoice id (if p then emitX11ErrorWithMinor BAD_ID_CHOICE id minor major else rest) ↔
      p := by
  split
  · next hp => exact iff_of_true ⟨minor, major, rfl⟩ hp
  · next hp => exact iff_of_false hrest hp

theorem badIdChoice_or_iff (hrest : ¬ BadIdChoice id rest) :
    BadIdChoice id (first.or rest) ↔ BadIdChoice id first := by
  cases first with
  | none => exact iff_of_false hrest not_badIdChoice_none
  | some refusal => rfl

/-- A check that fails with another error comes before. -/
theorem badIdChoice_later_iff (hcode : code ≠ BAD_ID_CHOICE) :
    BadIdChoice id (if p then emitX11ErrorWithMinor code badValue minor major else rest) ↔
      ¬ p ∧ BadIdChoice id rest := by
  split
  · next hp => exact iff_of_false (not_badIdChoice_error hcode) fun h => h.1 hp
  · next hp => exact (and_iff_right hp).symm

end BadIdChoice

theorem badIdChoice_createWindow_iff {request : CreateWindowRequest} :
    BadIdChoice request.window (s.createWindowRefusal c request) ↔
      (∃ parent, s.resources.windows[request.parent]? = some parent ∧ ClassFits parent request) ∧
        IdCheck.Exists.Catches s c request.window := by
  rw [createWindowRefusal]
  cases s.resources.windows[request.parent]? with
  | none =>
    refine iff_of_false (not_badIdChoice_error (by decide)) ?_
    rintro ⟨⟨parent, hparent, -⟩, -⟩
    cases hparent
  | some parent =>
    dsimp only [emitX11Error]
    rw [badIdChoice_later_iff (by decide), badIdChoice_later_iff (by decide),
      badIdChoice_later_iff (by decide), badIdChoice_later_iff (by decide), badIdChoice_first_iff,
      catches_exists]
    · simp only [Option.some.injEq, exists_eq_left', ClassFits]
      grind
    · refine not_badIdChoice_ite (not_badIdChoice_error (by decide)) ?_
      split
      · exact not_badIdChoice_error (by decide)
      · split
        · exact not_badIdChoice_error (by decide)
        · exact not_badIdChoice_none

theorem badIdChoice_createPixmap_iff {request : CreatePixmapRequest} {minor : UInt16}
    {major : UInt8} : BadIdChoice request.pixmap (s.createPixmapRefusal c request minor major) ↔
      IdCheck.Exists.Catches s c request.pixmap := by
  rw [createPixmapRefusal, badIdChoice_first_iff, catches_exists]
  exact not_badIdChoice_ite (not_badIdChoice_error (by decide))
    (not_badIdChoice_ite (not_badIdChoice_error (by decide)) not_badIdChoice_none)

theorem badIdChoice_region_iff (hrec : s.clients[c]? = some record) {rest : Option Refusal}
    (hrest : ¬ BadIdChoice id rest) :
    BadIdChoice id ((s.regionRefusal c id).or rest) ↔ IdCheck.Region.Catches s c id := by
  rw [badIdChoice_or_iff hrest, regionRefusal, catches_region hrec]
  exact badIdChoice_first_iff not_badIdChoice_none

theorem not_badIdChoice_shmImage {request : CreatePixmapRequest} {shmseg : ResourceId}
    {offset : UInt32} : ¬ BadIdChoice id (s.shmImageRefusal request shmseg offset) := by
  rw [shmImageRefusal]
  split
  · exact not_badIdChoice_error (by decide)
  · split
    · exact not_badIdChoice_error (by decide)
    · exact not_badIdChoice_ite (not_badIdChoice_error (by decide)) not_badIdChoice_none

theorem badIdChoice_animCursor_iff {frames : Option (List (ResourceId × UInt32))} :
    BadIdChoice id (s.animCursorRefusal c id frames) ↔ IdCheck.InUse.Catches s c id := by
  unfold animCursorRefusal
  rw [badIdChoice_first_iff, catches_iff (by decide) xidInUse_iff, Bool.or_eq_true,
    Bool.not_eq_true']
  split
  · exact not_badIdChoice_error (by decide)
  · exact not_badIdChoice_error (by decide)
  · rintro ⟨minor, major, h⟩
    obtain ⟨⟨sub, delay⟩, -, hframe⟩ := List.exists_of_findSome?_eq_some h
    have hbad : BadIdChoice id _ := ⟨minor, major, hframe⟩
    refine absurd hbad ?_
    dsimp only
    split
    · exact not_badIdChoice_error (by decide)
    · exact not_badIdChoice_ite (not_badIdChoice_error (by decide)) not_badIdChoice_none

/-- A path that does not look at the id fails with other errors only. -/
theorem not_badIdChoice_unchecked (hcheck : r.idCheck = .Unchecked) :
    ¬ BadIdChoice r.id (r.refusal s c) := by
  cases r with
  | CreateWindow | CreatePixmap | CreateGC | OpenFont | CreateCursor | CreateGlyphCursor
  | CreateColormap | CopyColormapAndFree | RenderCreateAnimCursor | XFixesCreateRegion
  | XFixesCreateRegionFromBitmap | XFixesCreateRegionFromGC | XFixesCreateRegionFromWindow
  | XFixesCreateRegionFromPicture | ShmCreatePixmap => cases hcheck
  | RenderCreatePicture | RenderCreateGlyphSet | RenderCreateSource =>
    exact not_badIdChoice_ite not_badIdChoice_ignored not_badIdChoice_none
  | RenderReferenceGlyphSet | RenderCreateCursor =>
    exact not_badIdChoice_ite not_badIdChoice_none not_badIdChoice_ignored
  | SyncCreateCounter | SyncCreateAlarm | SyncCreateFence | DamageCreate
  | CompositeCreateRegionFromBorderClip | GlxCreateContext | GlxCreateWindow
  | GlxCreatePbuffer => exact not_badIdChoice_none
  | CompositeNameWindowPixmap window pixmap hostPixmap =>
    rw [refusal]
    split
    · exact not_badIdChoice_error (by decide)
    · exact not_badIdChoice_ite (not_badIdChoice_error (by decide))
        (not_badIdChoice_ite (not_badIdChoice_error (by decide)) not_badIdChoice_none)
  | ShmAttach | ShmAttachFd | Dri3PixmapFromBuffer | Dri3PixmapFromBuffers | GlxCreatePixmap =>
    exact not_badIdChoice_ite (not_badIdChoice_error (by decide)) not_badIdChoice_none
  | ShmCreateSegment | Dri3FenceFromFd =>
    exact not_badIdChoice_ite (not_badIdChoice_error (by decide))
      (not_badIdChoice_ite (not_badIdChoice_error (by decide)) not_badIdChoice_none)

/-- A request fails with BadIDChoice if it gets as far as the check of the id, which catches
it. -/
theorem badIdChoice_iff (hrec : s.clients[c]? = some record) :
    BadIdChoice r.id (r.refusal s c) ↔ r.ReachesIdCheck s ∧ r.idCheck.Catches s c r.id := by
  cases r with
  | CreateWindow request hostXid => exact badIdChoice_createWindow_iff
  | CreatePixmap request hostXid =>
    exact badIdChoice_createPixmap_iff.trans (and_iff_right trivial).symm
  | ShmCreatePixmap request shmseg offset hostXid =>
    rw [refusal, badIdChoice_or_iff not_badIdChoice_shmImage]
    exact badIdChoice_createPixmap_iff.trans (and_iff_right trivial).symm
  | CreateGC | CreateGlyphCursor =>
    refine (badIdChoice_first_iff not_badIdChoice_none).trans ?_
    exact catches_exists.symm.trans (and_iff_right trivial).symm
  | OpenFont font answer =>
    refine (badIdChoice_first_iff ?_).trans (catches_exists.symm.trans (and_iff_right trivial).symm)
    exact not_badIdChoice_ite (not_badIdChoice_error (by decide)) not_badIdChoice_none
  | CreateColormap | CopyColormapAndFree | CreateCursor =>
    refine (badIdChoice_first_iff not_badIdChoice_none).trans ?_
    exact (catches_inUse hrec).symm.trans (and_iff_right trivial).symm
  | RenderCreateAnimCursor cursor frames hostXid =>
    exact badIdChoice_animCursor_iff.trans (and_iff_right trivial).symm
  | XFixesCreateRegion | XFixesCreateRegionFromBitmap =>
    refine (badIdChoice_first_iff not_badIdChoice_none).trans ?_
    exact (catches_region hrec).symm.trans (and_iff_right trivial).symm
  | XFixesCreateRegionFromGC region gc =>
    refine (badIdChoice_region_iff hrec ?_).trans (and_iff_right trivial).symm
    split
    · exact not_badIdChoice_error (by decide)
    · exact not_badIdChoice_ite (not_badIdChoice_error (by decide)) not_badIdChoice_none
  | XFixesCreateRegionFromWindow region window kind =>
    refine (badIdChoice_region_iff hrec ?_).trans (and_iff_right trivial).symm
    exact not_badIdChoice_ite (not_badIdChoice_error (by decide))
      (not_badIdChoice_ite (not_badIdChoice_error (by decide)) not_badIdChoice_none)
  | XFixesCreateRegionFromPicture region picture clientClip =>
    refine (badIdChoice_region_iff hrec ?_).trans (and_iff_right trivial).symm
    split
    · exact not_badIdChoice_error (by decide)
    · exact not_badIdChoice_ite (not_badIdChoice_error (by decide))
        (not_badIdChoice_ite (not_badIdChoice_error (by decide)) not_badIdChoice_none)
  | _ =>
    exact iff_of_false (not_badIdChoice_unchecked rfl) fun h => not_catches_unchecked h.2

/-- The id is the client's own and free, or the check of the id turns the request away. -/
def Safe (s : ServerState) (c : ClientId) (r : CreateRequest) : Prop :=
  s.ownsId c r.id = true ∧ s.Unused r.id ∨ r.ReachesIdCheck s ∧ r.idCheck.Catches s c r.id

end CreateRequest

/-! ## Requests that overwrite -/

namespace OverwriteRequest

def kind : OverwriteRequest → ResourceKind
  | PresentSelectInput _ _ _ => .PresentSelection
  | _ => .Region

/-- The id that is written to; a Subtract without a parts region has none. -/
def target : OverwriteRequest → Option ResourceId
  | XFixesSetRegion dest _ | XFixesCopyRegion _ dest | XFixesCombineRegions _ _ _ dest
  | XFixesInvertRegion _ _ dest | XFixesRegionExtents _ dest | PresentSelectInput dest _ _ =>
    some dest
  | DamageSubtract _ _ parts => if parts = 0 then none else some parts

/-- SetRegion leaves a region that is there with its owner. -/
def keepsOwner : OverwriteRequest → Bool
  | XFixesSetRegion _ _ => true
  | _ => false

/-- The target is the client's own resource, or the id is its own and free. -/
def Safe (s : ServerState) (c : ClientId) (u : OverwriteRequest) : Prop :=
  ∀ id, u.target = some id →
    match s.ownerOf u.kind id with
    | some o => o = c ∨ u.keepsOwner = true
    | none => s.ownsId c id = true ∧ s.Unused id

variable {s : ServerState} {c : ClientId} {u : OverwriteRequest} {id : ResourceId}

theorem sameOwners (h : u.target = none) : SameOwners s (s.overwrite c u) := by
  cases u with
  | DamageSubtract damage repair parts =>
    have hparts : parts = 0 := by
      by_contra hne
      rw [target, if_neg hne] at h
      cases h
    have hsame : SameOwners _ (s.overwrite c (DamageSubtract damage repair parts)) :=
      sameOwners_damageSubtract
    rwa [writeParts, if_pos hparts] at hsame
  | _ => cases h

theorem adds_of_target (h : u.target = some id)
    (howner : u.keepsOwner = true → s.ownerOf u.kind id = none) :
    Adds s (s.overwrite c u) c u.kind id := by
  cases u with
  | XFixesSetRegion dest rects =>
    cases h
    have habsent : s.xfixesRegions[id]? = none := Option.map_eq_none_iff.mp (howner rfl)
    rw [overwrite, habsent]
    exact adds_writeRegion
  | DamageSubtract damage repair parts =>
    rw [target] at h
    split at h
    · cases h
    · next hne =>
      cases h
      refine Adds.trans_same ?_ sameOwners_damageSubtract
      rw [writeParts, if_neg hne]
      exact adds_writeRegion
  | PresentSelectInput eid window eventMask =>
    cases h
    refine .of_table (fun a => map_insert rfl) fun k hk a => ?_
    cases k <;> first | exact absurd rfl hk | rfl
  | _ =>
    cases h
    exact adds_writeRegion

theorem sameOwners_of_keepsOwner (h : u.target = some id) (hkeeps : u.keepsOwner = true)
    (hused : s.ownerOf u.kind id ≠ none) : SameOwners s (s.overwrite c u) := by
  cases u with
  | XFixesSetRegion dest rects =>
    cases h
    rw [overwrite]
    split
    · next r hr =>
      intro k a
      cases k with
      | Region =>
        rw [ownerOf, ResourceMap.get_insert, ownerOf]
        split
        · next ha =>
          rw [ha, hr]
          rfl
        · rfl
      | _ => rfl
    · next habsent =>
      change s.xfixesRegions[id]?.map (·.owner) ≠ none at hused
      rw [habsent] at hused
      exact absurd rfl hused
  | _ => cases hkeeps

end OverwriteRequest

/-! ## Exclusiveness -/

namespace ServerState

variable {s s' : ServerState} {c : ClientId} {id : ResourceId} {kind : ResourceKind}
  {record : ClientState}

/-- A request for a resource fails with BadIDChoice, or the id was the client's own and free.
It changes nothing if it fails, and names a resource of the client if it does not. Nobody
loses a resource, and used ids are occupied. -/
structure CreatesExclusively (s : ServerState) (c : ClientId) (kind : ResourceKind)
    (id : ResourceId) (result : ServerState × Option Refusal) : Prop where
  choice : CreateRequest.BadIdChoice id result.2 ∨
    s.ownsId c id = true ∧ s.xidOccupied id = false
  refused : result.2 ≠ none → result.1 = s
  named : result.2 = none → result.1.ownerOf kind id = some c
  kept : ∀ kind a o, s.ownerOf kind a = some o → result.1.ownerOf kind a = some o
  occupied : ∀ kind a, result.1.ownerOf kind a ≠ none → result.1.xidOccupied a = true

/-- Nobody loses a resource by an id that was free. -/
theorem Adds.kept (h : Adds s s' c kind id) (hfree : s.ownerOf kind id = none) {k : ResourceKind}
    {a : ResourceId} {o : ClientId} (ho : s.ownerOf k a = some o) : s'.ownerOf k a = some o := by
  rw [h, if_neg, ho]
  rintro ⟨rfl, rfl⟩
  rw [hfree] at ho
  cases ho

theorem createsExclusively_iff (hrec : s.clients[c]? = some record) (r : CreateRequest) :
    CreatesExclusively s c r.kind r.id (s.create c r) ↔ r.Safe s c := by
  have hbad := CreateRequest.badIdChoice_iff (r := r) hrec
  rw [create]
  cases h : r.refusal s c with
  | some refusal =>
    rw [h] at hbad
    constructor
    · intro hexclusive
      exact hexclusive.choice.symm.imp (.imp_right xidOccupied_eq_false.mp) hbad.mp
    · intro hsafe
      exact ⟨hsafe.symm.imp hbad.mpr (.imp_right xidOccupied_eq_false.mpr), fun _ => rfl, nofun,
        fun _ _ _ => id, fun _ _ => xidOccupied_of_ownerOf⟩
  | none =>
    have hadds := CreateRequest.adds h
    rw [h] at hbad
    constructor
    · intro hexclusive
      exact hexclusive.choice.symm.imp (.imp_right xidOccupied_eq_false.mp) hbad.mp
    · intro hsafe
      obtain ⟨howned, hfree⟩ := hsafe.resolve_right fun hcaught =>
        CreateRequest.not_badIdChoice_none (hbad.mpr hcaught)
      exact ⟨.inr ⟨howned, xidOccupied_eq_false.mpr hfree⟩, fun hne => absurd rfl hne,
        fun _ => (hadds r.kind r.id).trans (if_pos ⟨rfl, rfl⟩),
        fun _ _ _ => hadds.kept (hfree _), fun _ _ => xidOccupied_of_ownerOf⟩

/-- What a request names anew was the client's own and free. Nobody loses a
resource, and used ids are occupied. -/
structure OverwritesExclusively (s : ServerState) (c : ClientId) (s' : ServerState) : Prop where
  fresh : ∀ kind a, s.ownerOf kind a = none → s'.ownerOf kind a ≠ none →
    s.ownsId c a = true ∧ s.xidOccupied a = false
  kept : ∀ kind a o, s.ownerOf kind a = some o → s'.ownerOf kind a = some o
  occupied : ∀ kind a, s'.ownerOf kind a ≠ none → s'.xidOccupied a = true

theorem SameOwners.exclusively (h : SameOwners s s') : OverwritesExclusively s c s' where
  fresh kind a hfree hused := absurd ((h kind a).trans hfree) hused
  kept kind a _ ho := (h kind a).trans ho
  occupied _ _ := xidOccupied_of_ownerOf

/-- Writing to an id is exclusive if it was the client's resource, or free and
the client's own. -/
theorem Adds.exclusively_iff (h : Adds s s' c kind id) :
    OverwritesExclusively s c s' ↔
      match s.ownerOf kind id with
      | some o => o = c
      | none => s.ownsId c id = true ∧ s.Unused id := by
  have hnew : s'.ownerOf kind id = some c := by rw [h, if_pos ⟨rfl, rfl⟩]
  constructor
  · intro hexclusive
    split
    · next o ho => exact Option.some.inj ((hexclusive.kept kind id o ho).symm.trans hnew)
    · next hfree =>
      obtain ⟨howned, hunused⟩ := hexclusive.fresh kind id hfree (hnew ▸ Option.some_ne_none c)
      exact ⟨howned, xidOccupied_eq_false.mp hunused⟩
  · intro hsafe
    refine ⟨fun k a hfree hused => ?_, fun k a o ho => ?_, fun _ _ => xidOccupied_of_ownerOf⟩
    · rw [h] at hused
      split at hused
      · next heq =>
        obtain ⟨rfl, rfl⟩ := heq
        rw [hfree] at hsafe
        exact ⟨hsafe.1, xidOccupied_eq_false.mpr hsafe.2⟩
      · exact absurd hfree hused
    · rw [h]
      split
      · next heq =>
        obtain ⟨rfl, rfl⟩ := heq
        rw [ho] at hsafe
        exact congrArg some hsafe.symm
      · exact ho

theorem overwritesExclusively_iff (u : OverwriteRequest) :
    OverwritesExclusively s c (s.overwrite c u) ↔ u.Safe s c := by
  cases htarget : u.target with
  | none =>
    refine iff_of_true (OverwriteRequest.sameOwners htarget).exclusively fun id hid => ?_
    rw [htarget] at hid
    cases hid
  | some id =>
    have hsafe : u.Safe s c ↔
        match s.ownerOf u.kind id with
        | some o => o = c ∨ u.keepsOwner = true
        | none => s.ownsId c id = true ∧ s.Unused id :=
      ⟨fun h => h id htarget, fun h a ha => Option.some.inj (htarget.symm.trans ha) ▸ h⟩
    rw [hsafe]
    by_cases hkeeps : u.keepsOwner = true
    · cases howner : s.ownerOf u.kind id with
      | some o =>
        refine iff_of_true ?_ (.inr hkeeps)
        exact (OverwriteRequest.sameOwners_of_keepsOwner htarget hkeeps
          (howner ▸ Option.some_ne_none o)).exclusively
      | none =>
        rw [(OverwriteRequest.adds_of_target htarget fun _ => howner).exclusively_iff, howner]
    · rw [(OverwriteRequest.adds_of_target htarget fun h => absurd h hkeeps).exclusively_iff]
      simp only [hkeeps, or_false, Bool.false_eq_true]

end ServerState

/-- Every request of a connected client for a resource, and every request that
writes to an id, is exclusive exactly if it is safe. -/
theorem create_exclusive_iff {s : ServerState} {c : ClientId} {record : ClientState}
    (hrec : s.clients[c]? = some record) :
    (∀ r : CreateRequest, CreatesExclusively s c r.kind r.id (s.create c r) ↔ r.Safe s c) ∧
      ∀ u : OverwriteRequest, OverwritesExclusively s c (s.overwrite c u) ↔ u.Safe s c :=
  ⟨createsExclusively_iff hrec, overwritesExclusively_iff⟩

/-- Clients 1 and 2 are connected, and client 1 has a pixmap, a region and a counter. -/
def countingState : ServerState :=
  let s := (ServerState.new.connectClient 1).getD .new
  let s := (s.connectClient 2).getD s
  let s := (s.create 1 (.CreatePixmap ⟨24, 0x100003, ROOT_WINDOW, 8, 8⟩ (some 0x400001))).1
  let s := (s.create 1 (.XFixesCreateRegion 0x100004 [⟨0, 0, 4, 4⟩])).1
  (s.create 1 (.SyncCreateCounter 0x100005 7)).1

/-- Client 2 cannot make a pixmap under the id of client 1, but a counter under its own, and
it can set its own new region but must not copy over that of client 1. -/
theorem create_exclusive_counter :
    CreatesExclusively countingState 2 .Pixmap 0x100003
        (countingState.create 2 (.CreatePixmap ⟨24, 0x100003, ROOT_WINDOW, 8, 8⟩ none)) ∧
      (countingState.create 2 (.CreatePixmap ⟨24, 0x100003, ROOT_WINDOW, 8, 8⟩ none)).2 =
        emitX11Error BAD_ID_CHOICE 0x100003 53 ∧
      CreatesExclusively countingState 2 .Counter 0x200005
        (countingState.create 2 (.SyncCreateCounter 0x200005 0)) ∧
      (countingState.create 2 (.SyncCreateCounter 0x200005 0)).2 = none ∧
      OverwritesExclusively countingState 2
        (countingState.overwrite 2 (.XFixesSetRegion 0x200006 [⟨1, 1, 2, 2⟩])) ∧
      ¬ OverwritesExclusively countingState 2
        (countingState.overwrite 2 (.XFixesCopyRegion 0x100004 0x100004)) := by
  have hrec : ∃ record, countingState.clients[(2 : ClientId)]? = some record := ⟨_, rfl⟩
  obtain ⟨record, hrec⟩ := hrec
  obtain ⟨hcreate, hoverwrite⟩ := create_exclusive_iff hrec
  have hunused (id : ResourceId) (hid : countingState.xidOccupied id = false) :
      countingState.Unused id := xidOccupied_eq_false.mp hid
  refine ⟨(hcreate (.CreatePixmap ⟨24, 0x100003, ROOT_WINDOW, 8, 8⟩ none)).mpr (.inr ⟨trivial, ?_⟩),
    rfl, (hcreate (.SyncCreateCounter 0x200005 0)).mpr (.inl ⟨rfl, hunused _ rfl⟩), rfl,
    (hoverwrite (.XFixesSetRegion 0x200006 [⟨1, 1, 2, 2⟩])).mpr ?_, fun hexclusive => ?_⟩
  · exact ⟨by decide, .inl rfl⟩
  · rintro id hid
    cases hid
    exact ⟨rfl, hunused _ rfl⟩
  · have hsafe := (hoverwrite (.XFixesCopyRegion 0x100004 0x100004)).mp hexclusive 0x100004 rfl
    have howner : (1 : ClientId) = 2 ∨ false = true := hsafe
    simp at howner

/-- The other client takes the counter over, and a picture under the id of another client is
dropped without the error. -/
theorem create_takes_counter :
    countingState.clients[(2 : ClientId)]?.isSome ∧
      countingState.ownerOf .Counter 0x100005 = some 1 ∧
      (countingState.create 2 (.SyncCreateCounter 0x100005 0)).1.ownerOf .Counter 0x100005 =
        some 2 ∧
      ¬ CreatesExclusively countingState 2 .Counter 0x100005
        (countingState.create 2 (.SyncCreateCounter 0x100005 0)) ∧
      ¬ CreatesExclusively countingState 2 .Picture 0x100005
        (countingState.create 2 (.RenderCreatePicture 0x100005 0x100003 none)) := by
  have howned : ¬ countingState.ownsId 2 0x100005 = true := by decide
  refine ⟨by decide, rfl, rfl, fun hexclusive => ?_, fun hexclusive => ?_⟩
  · rcases hexclusive.choice with hbad | hfresh
    · exact CreateRequest.not_badIdChoice_none hbad
    · exact howned hfresh.1
  · rcases hexclusive.choice with hbad | hfresh
    · exact CreateRequest.not_badIdChoice_ignored hbad
    · exact howned hfresh.1

end X12
