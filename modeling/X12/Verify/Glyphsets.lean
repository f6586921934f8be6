import X12.Core.Disconnect
import X12.Lib.RefCounts
import X12.Lib.Runs
import Mathlib.Data.Fintype.EquivFin

/-! # Glyph sets over runs

The counts are right in every state that a run reaches. A host glyph set is
reported with its last id, unless that id is given to another one. -/

namespace X12

open RefCounts Runs

instance finite_resourceId : Finite ResourceId :=
  Finite.of_injective UInt32.toFin fun _ _ h => UInt32.toFin_inj.mp h

namespace ResourceTable

/-- The host object that an id stands for. -/
def glyphsetOf (t : ResourceTable) (id : ResourceId) : Option Handle :=
  t.glyphsets[id]?.map (·.hostGlyphsetXid)

def glyphsetCount (t : ResourceTable) (hostXid : Handle) : Option Nat :=
  t.hostGlyphsetRefcounts[hostXid]?

/-- Every host glyph set with an id has its number of ids as its count, and no
other has a count. -/
def GlyphsetsCounted (t : ResourceTable) : Prop :=
  Counted t.glyphsetOf t.glyphsetCount

variable {t t' : ResourceTable} {id newId existingId : ResourceId} {hostXid : Handle}
  {state old : GlyphSetState} {client : ClientId} {names names' : ResourceId → Option Handle}

/-! ## One reference -/

/-- A release takes one off the count, and tells whether no name is left. -/
theorem releaseHostGlyphsetRef_drop (hdrop : Drop names names' id hostXid)
    (hcount : Counted names t.glyphsetCount) :
    Counted names' (t.releaseHostGlyphsetRef hostXid).1.glyphsetCount ∧
      ((t.releaseHostGlyphsetRef hostXid).2 = true ↔ namesOf names' hostXid = ∅) := by
  have hself : t.hostGlyphsetRefcounts[hostXid]? = some ((namesOf names' hostXid).ncard + 1) :=
    hdrop.count_eq hcount
  rw [← Set.ncard_eq_zero]
  simp only [releaseHostGlyphsetRef, hself]
  by_cases hzero : (namesOf names' hostXid).ncard = 0
  · rw [if_neg (by omega)]
    refine ⟨hdrop.counted hcount ?_ fun c hc => ?_, by simp [hzero]⟩
    · rw [if_pos hzero]
      exact ResourceMap.get_erase.trans (if_pos rfl)
    · exact ResourceMap.get_erase.trans (if_neg hc)
  · rw [if_pos (by omega)]
    refine ⟨hdrop.counted hcount ?_ fun c hc => ?_, by simp [hzero]⟩
    · rw [if_neg hzero]
      exact ResourceMap.get_insert.trans (if_pos rfl)
    · exact ResourceMap.get_insert.trans (if_neg hc)

/-- The releases of a list of names, of which each host object that loses its last
one is reported once. -/
theorem releaseHostGlyphsetRefs_without {ids : List ResourceId} (hnodup : ids.Nodup)
    (hused : ∀ id ∈ ids, names id ≠ none) (hcount : Counted names t.glyphsetCount) :
    Counted (without names ids) (t.releaseHostGlyphsetRefs (ids.filterMap names)).1.glyphsetCount ∧
      (t.releaseHostGlyphsetRefs (ids.filterMap names)).1.glyphsets = t.glyphsets ∧
      (t.releaseHostGlyphsetRefs (ids.filterMap names)).2.Nodup ∧
      ∀ h, h ∈ (t.releaseHostGlyphsetRefs (ids.filterMap names)).2 ↔
        Lost names (without names ids) h := by
  induction ids generalizing t names with
  | nil =>
    have hall : without names [] = names := by
      funext x
      exact if_neg List.not_mem_nil
    rw [hall]
    refine ⟨hcount, rfl, List.nodup_nil, fun h => ⟨fun hmem => (nomatch hmem), ?_⟩⟩
    rintro ⟨hsome, hempty⟩
    exact absurd hempty hsome.ne_empty
  | cons id ids ih =>
    obtain ⟨hnotin, hnodup⟩ := List.nodup_cons.mp hnodup
    obtain ⟨hostXid, hhost⟩ := Option.ne_none_iff_exists'.mp (hused id List.mem_cons_self)
    have hdrop := drop_without hhost
    have hsame : ∀ a ∈ ids, without names [id] a = names a := fun a ha =>
      hdrop.others a fun heq => hnotin (heq ▸ ha)
    obtain ⟨hcount', hlast⟩ := releaseHostGlyphsetRef_drop hdrop hcount
    obtain ⟨hcounted, hrest, hnodupFreed, hfreed⟩ := ih hnodup
      (fun a ha => hsame a ha ▸ hused a (List.mem_cons_of_mem _ ha)) hcount'
    rw [List.filterMap_congr hsame] at hcounted hrest hnodupFreed hfreed
    rw [List.filterMap_cons_some hhost, releaseHostGlyphsetRefs, without_cons]
    dsimp only
    refine ⟨hcounted, hrest.trans (releaseHostGlyphsetRef_glyphsets t hostXid), ?_,
      fun h => ?_⟩
    · by_cases hend : namesOf (without names [id]) hostXid = ∅
      · rw [if_pos (hlast.mpr hend)]
        refine List.nodup_cons.mpr ⟨fun hmem => ?_, hnodupFreed⟩
        exact ((hfreed hostXid).mp hmem).1.ne_empty hend
      · rw [if_neg (hlast.not.mpr hend)]
        exact hnodupFreed
    · rw [hdrop.lost_iff (without_eq_none_or _ ids)]
      by_cases hend : namesOf (without names [id]) hostXid = ∅
      · rw [if_pos (hlast.mpr hend), List.mem_cons, hfreed]
        simp only [hend, and_true]
      · rw [if_neg (hlast.not.mpr hend), hfreed]
        simp only [hend, and_false, false_or]

/-! ## Operations -/

theorem glyphsetOf_insert (id : ResourceId) (state : GlyphSetState) (x : ResourceId) :
    (t.glyphsets.insert id state)[x]?.map (·.hostGlyphsetXid) =
      if x = id then some state.hostGlyphsetXid else t.glyphsetOf x := by
  rw [ResourceMap.get_insert, glyphsetOf]
  split <;> rfl

theorem glyphsetOf_erase (id x : ResourceId) :
    (t.glyphsets.erase id)[x]?.map (·.hostGlyphsetXid) =
      if x = id then none else t.glyphsetOf x := by
  rw [ResourceMap.get_erase, glyphsetOf]
  split <;> rfl

theorem drop_erase (hid : t.glyphsets[id]? = some old) :
    Drop t.glyphsetOf (glyphsetOf { t with glyphsets := t.glyphsets.erase id }) id
      old.hostGlyphsetXid where
  used := by rw [glyphsetOf, hid]; rfl
  dropped := (glyphsetOf_erase id id).trans (if_pos rfl)
  others x hx := (glyphsetOf_erase id x).trans (if_neg hx)

/-- The rest of `create_glyphset` once the id is free. -/
theorem GlyphsetsCounted.put (h : t.GlyphsetsCounted) (hid : t.glyphsets[id]? = none)
    (ht' : t'.glyphsets = t.glyphsets.insert id state)
    (hcounts : t'.hostGlyphsetRefcounts = t.hostGlyphsetRefcounts.insert state.hostGlyphsetXid
      (t.hostGlyphsetRefcounts[state.hostGlyphsetXid]?.getD 0 + 1)) :
    t'.GlyphsetsCounted := by
  have hput : Put t.glyphsetOf t'.glyphsetOf id state.hostGlyphsetXid := by
    refine ⟨by rw [glyphsetOf, hid]; rfl, ?_, fun x hx => ?_⟩
    · rw [glyphsetOf, ht', glyphsetOf_insert, if_pos rfl]
    · rw [glyphsetOf, ht', glyphsetOf_insert, if_neg hx]
  refine hput.counted h ?_ fun c hc => ?_
  · rw [glyphsetCount, hcounts, ResourceMap.get_insert, if_pos rfl]
    rfl
  · rw [glyphsetCount, hcounts, ResourceMap.get_insert, if_neg hc]
    rfl

/-- The tables that agree on the glyph sets. -/
theorem glyphsetOf_congr (h : t'.glyphsets = t.glyphsets) : t'.glyphsetOf = t.glyphsetOf := by
  funext x
  rw [glyphsetOf, glyphsetOf, h]

theorem GlyphsetsCounted.createGlyphset (h : t.GlyphsetsCounted) (id : ResourceId)
    (state : GlyphSetState) : (t.createGlyphset id state).GlyphsetsCounted := by
  unfold ResourceTable.createGlyphset
  cases hid : t.glyphsets[id]? with
  | none => exact h.put hid rfl rfl
  | some old =>
    have hglyphsets := releaseHostGlyphsetRef_glyphsets
      { t with glyphsets := t.glyphsets.erase id } old.hostGlyphsetXid
    obtain ⟨hcount, -⟩ := releaseHostGlyphsetRef_drop
      (t := { t with glyphsets := t.glyphsets.erase id }) (drop_erase hid) h
    rw [← glyphsetOf_congr hglyphsets] at hcount
    refine GlyphsetsCounted.put hcount ?_ rfl rfl
    rw [hglyphsets, ResourceMap.get_erase, if_pos rfl]

theorem glyphsetOf_createGlyphset (t : ResourceTable) (id : ResourceId) (state : GlyphSetState)
    (x : ResourceId) : (t.createGlyphset id state).glyphsetOf x =
      if x = id then some state.hostGlyphsetXid else t.glyphsetOf x := by
  unfold ResourceTable.createGlyphset
  cases hid : t.glyphsets[id]? with
  | none => exact glyphsetOf_insert id state x
  | some old =>
    simp only [glyphsetOf, releaseHostGlyphsetRef_glyphsets, ResourceMap.get_insert]
    by_cases hx : x = id
    · rw [if_pos hx, if_pos hx]
      rfl
    · rw [if_neg hx, if_neg hx, ResourceMap.get_erase, if_neg hx]

/-! ## Steps -/

/-- What a step makes of the table, and the host glyph sets that it reports. -/
inductive GlyphsetOp where
  | createGlyphset (id : ResourceId) (state : GlyphSetState)
  | referenceGlyphset (client : ClientId) (newId existingId : ResourceId)
  | freeGlyphset (id : ResourceId)
  | removeNonWindowResourcesOwnedBy (client : ClientId)
  deriving DecidableEq, Repr

namespace GlyphsetOp

def apply (t : ResourceTable) : GlyphsetOp → ResourceTable
  | createGlyphset id state => t.createGlyphset id state
  | referenceGlyphset client newId existingId => t.referenceGlyphset client newId existingId
  | freeGlyphset id => (t.freeGlyphset id).1
  | removeNonWindowResourcesOwnedBy client => t.removeNonWindowResourcesOwnedBy client

def reported (t : ResourceTable) : GlyphsetOp → List Handle
  | createGlyphset _ _ => []
  | referenceGlyphset _ _ _ => []
  | freeGlyphset id => ((t.freeGlyphset id).2.map (·.hostGlyphsetXid)).toList
  | removeNonWindowResourcesOwnedBy client => (t.removeGlyphsetsOwnedBy client).2

/-- The id that a step gives to a host object, with that object. -/
def assigned (t : ResourceTable) : GlyphsetOp → Option (ResourceId × Handle)
  | createGlyphset id state => some (id, state.hostGlyphsetXid)
  | referenceGlyphset _ newId existingId => (t.glyphsetOf existingId).map (newId, ·)
  | freeGlyphset _ => none
  | removeNonWindowResourcesOwnedBy _ => none

/-- A step reports, once each, the host objects that lose their last id. -/
def ReportExact (t : ResourceTable) (op : GlyphsetOp) : Prop :=
  (op.reported t).Nodup ∧
    ∀ h, h ∈ op.reported t ↔ Lost t.glyphsetOf (op.apply t).glyphsetOf h

/-- An id that is given to another host object is not the last of its own. -/
def KeepsLast (t : ResourceTable) (op : GlyphsetOp) : Prop :=
  ∀ id hostXid old, op.assigned t = some (id, hostXid) → t.glyphsetOf id = some old →
    old = hostXid ∨ ∃ other, other ≠ id ∧ t.glyphsetOf other = some old

end GlyphsetOp

theorem GlyphsetsCounted.referenceGlyphset (h : t.GlyphsetsCounted) (client : ClientId)
    (newId existingId : ResourceId) :
    (t.referenceGlyphset client newId existingId).GlyphsetsCounted := by
  unfold ResourceTable.referenceGlyphset
  split
  · exact h.createGlyphset ..
  · exact h

theorem freeGlyphset_of_get (hid : t.glyphsets[id]? = some old) :
    t.freeGlyphset id =
      let out := { t with glyphsets := t.glyphsets.erase id }.releaseHostGlyphsetRef
        old.hostGlyphsetXid
      (out.1, if out.2 then some old else none) := by
  rw [freeGlyphset, hid]

theorem freeGlyphset_spec (h : t.GlyphsetsCounted) (id : ResourceId) :
    (t.freeGlyphset id).1.GlyphsetsCounted ∧
      ∀ c, (t.freeGlyphset id).2.map (·.hostGlyphsetXid) = some c ↔
        Lost t.glyphsetOf (t.freeGlyphset id).1.glyphsetOf c := by
  cases hid : t.glyphsets[id]? with
  | none =>
    rw [freeGlyphset, hid]
    exact ⟨h, fun c => iff_of_false (fun hc => (nomatch hc)) (not_lost _ c)⟩
  | some old =>
    have hdrop := drop_erase hid
    have hglyphsets := glyphsetOf_congr (releaseHostGlyphsetRef_glyphsets
      { t with glyphsets := t.glyphsets.erase id } old.hostGlyphsetXid)
    obtain ⟨hcount, hlast⟩ := releaseHostGlyphsetRef_drop
      (t := { t with glyphsets := t.glyphsets.erase id }) hdrop h
    rw [freeGlyphset_of_get hid]
    dsimp only
    rw [GlyphsetsCounted, hglyphsets]
    refine ⟨hcount, fun c => ?_⟩
    rw [hdrop.lost_iff fun _ => .inr rfl, ← hlast]
    simp only [not_lost, or_false]
    split
    · next hend => simp [hend, eq_comm]
    · next hkept => simp [hkept]

theorem mem_glyphsetsOwnedBy :
    id ∈ t.glyphsetsOwnedBy client ↔ ∃ g, t.glyphsets[id]? = some g ∧ g.client = client := by
  rw [glyphsetsOwnedBy, List.mem_filter, ResourceMap.mem_keys_iff]
  cases t.glyphsets[id]? with
  | none => simp
  | some g => simp

/-- After a disconnect the ids of the client stand for nothing. -/
theorem glyphsetOf_removeOwnedBy (t : ResourceTable) (client : ClientId) :
    (t.removeNonWindowResourcesOwnedBy client).glyphsetOf =
      without t.glyphsetOf (t.glyphsetsOwnedBy client) := by
  funext x
  rw [glyphsetOf, removeNonWindowResourcesOwnedBy]
  dsimp only
  rw [Std.ExtTreeMap.getElem?_filter', without, glyphsetOf]
  cases hx : t.glyphsets[x]? with
  | none => simp
  | some g =>
    have hmem : x ∈ t.glyphsetsOwnedBy client ↔ g.client = client := by
      rw [mem_glyphsetsOwnedBy, hx]
      simp
    by_cases hg : g.client = client
    · rw [if_pos (hmem.mpr hg)]
      simp [hg]
    · rw [if_neg (hmem.not.mpr hg)]
      simp [hg]

theorem removeGlyphsetsOwnedBy_spec (h : t.GlyphsetsCounted) (client : ClientId) :
    (t.removeNonWindowResourcesOwnedBy client).GlyphsetsCounted ∧
      (t.removeGlyphsetsOwnedBy client).2.Nodup ∧
      ∀ c, c ∈ (t.removeGlyphsetsOwnedBy client).2 ↔
        Lost t.glyphsetOf (t.removeNonWindowResourcesOwnedBy client).glyphsetOf c := by
  have hnodup : (t.glyphsetsOwnedBy client).Nodup := Std.ExtTreeMap.nodup_keys.filter _
  have hused : ∀ id ∈ t.glyphsetsOwnedBy client, t.glyphsetOf id ≠ none := by
    intro id hid
    obtain ⟨g, hg, -⟩ := mem_glyphsetsOwnedBy.mp hid
    rw [glyphsetOf, hg]
    exact Option.some_ne_none _
  obtain ⟨hcount, -, hfreed, hlost⟩ := releaseHostGlyphsetRefs_without
    (t := { t with glyphsets := t.glyphsets.filter fun _ g => g.client ≠ client }) hnodup hused h
  rw [GlyphsetsCounted, glyphsetOf_removeOwnedBy]
  exact ⟨hcount, hfreed, hlost⟩

theorem GlyphsetsCounted.apply (h : t.GlyphsetsCounted) (op : GlyphsetOp) :
    (op.apply t).GlyphsetsCounted := by
  cases op with
  | createGlyphset id state => exact h.createGlyphset id state
  | referenceGlyphset client newId existingId => exact h.referenceGlyphset client newId existingId
  | freeGlyphset id => exact (freeGlyphset_spec h id).1
  | removeNonWindowResourcesOwnedBy client => exact (removeGlyphsetsOwnedBy_spec h client).1

theorem reportExact_assign_iff {op : GlyphsetOp} (hreported : op.reported t = [])
    (hassigned : op.assigned t = some (id, hostXid))
    (hglyphsets : ∀ x, (op.apply t).glyphsetOf x =
      if x = id then some hostXid else t.glyphsetOf x) :
    op.ReportExact t ↔ op.KeepsLast t := by
  have hiff := not_lost_assign_iff hglyphsets
  rw [GlyphsetOp.ReportExact, GlyphsetOp.KeepsLast, hreported, hassigned]
  simp only [List.nodup_nil, List.not_mem_nil, false_iff, true_and, hiff, Option.some.injEq,
    Prod.mk.injEq, and_imp]
  constructor
  · rintro hkept _ _ old rfl rfl hold
    exact hkept old hold
  · exact fun hkept old hold => hkept id hostXid old rfl rfl hold

theorem reportExact_iff (h : t.GlyphsetsCounted) (op : GlyphsetOp) :
    op.ReportExact t ↔ op.KeepsLast t := by
  cases op with
  | createGlyphset id state =>
    exact reportExact_assign_iff rfl rfl (glyphsetOf_createGlyphset t id state)
  | referenceGlyphset client newId existingId =>
    cases hexisting : t.glyphsets[existingId]? with
    | none =>
      have hof : t.glyphsetOf existingId = none := by rw [glyphsetOf, hexisting]; rfl
      have hsame : t.referenceGlyphset client newId existingId = t := by
        rw [referenceGlyphset, hexisting]
      refine iff_of_true ⟨List.nodup_nil, fun c => ?_⟩ fun id hostXid old hassigned => ?_
      · rw [GlyphsetOp.apply, hsame]
        exact iff_of_false List.not_mem_nil (not_lost _ c)
      · rw [GlyphsetOp.assigned, hof] at hassigned
        cases hassigned
    | some existing =>
      have hof : t.glyphsetOf existingId = some existing.hostGlyphsetXid := by
        rw [glyphsetOf, hexisting]; rfl
      have hassigned : (GlyphsetOp.referenceGlyphset client newId existingId).assigned t =
          some (newId, existing.hostGlyphsetXid) := by
        rw [GlyphsetOp.assigned, hof]
        rfl
      refine reportExact_assign_iff rfl hassigned ?_
      rw [GlyphsetOp.apply, referenceGlyphset, hexisting]
      exact glyphsetOf_createGlyphset t newId _
  | freeGlyphset id =>
    refine iff_of_true ⟨Option.toList_nodup _, fun c => ?_⟩ fun _ _ _ hnone => (nomatch hnone)
    exact Option.mem_toList.trans ((freeGlyphset_spec h id).2 c)
  | removeNonWindowResourcesOwnedBy client =>
    exact iff_of_true (removeGlyphsetsOwnedBy_spec h client).2 fun _ _ _ hnone => (nomatch hnone)

/-! ## Runs -/

def glyphsetRun (ops : List GlyphsetOp) : ResourceTable :=
  ops.foldl GlyphsetOp.apply default

theorem glyphsetsCounted_default : default.GlyphsetsCounted := by
  have hnone : default.glyphsetOf = fun _ => none := by
    funext x
    simp [glyphsetOf, default]
  refine ⟨fun c => ?_, fun c => by simp [glyphsetCount, default]⟩
  rw [hnone]
  simp [glyphsetCount, default, namesOf]

/-- In every state that a run reaches the counts are exact. Every step reports
the host glyph sets that lose their last id if and only if no step gives the last
id of one to another. -/
theorem glyphsets_exact_iff (ops : List GlyphsetOp) :
    (∀ before after, ops = before ++ after → (glyphsetRun before).GlyphsetsCounted) ∧
      (AtEach (fun before op => op.ReportExact (glyphsetRun before)) ops ↔
        AtEach (fun before op => op.KeepsLast (glyphsetRun before)) ops) := by
  have hcounted : ∀ ops, (glyphsetRun ops).GlyphsetsCounted := fun ops => by
    induction ops using List.reverseRecOn with
    | nil => exact glyphsetsCounted_default
    | append_singleton ops op ih =>
      rw [glyphsetRun, List.foldl_concat]
      exact ih.apply op
  exact ⟨fun before _ _ => hcounted before, forall_congr' fun before => forall_congr' fun op =>
    forall_congr' fun _ => imp_congr_right fun _ => reportExact_iff (hcounted before) op⟩

/-- An id is created again for another host glyph set; the first one has no id
left and is not reported. -/
theorem recreated_unreported :
    ¬ AtEach (fun before (op : GlyphsetOp) => op.ReportExact (glyphsetRun before))
      [.createGlyphset 0x200 ⟨1, 7⟩, .createGlyphset 0x200 ⟨1, 8⟩] := by
  intro hexact
  obtain ⟨-, hreported⟩ := hexact [.createGlyphset 0x200 ⟨1, 7⟩] _ [] rfl
  refine List.not_mem_nil ((hreported 7).mpr ⟨⟨0x200, ?_⟩, ?_⟩)
  · exact (glyphsetOf_createGlyphset default 0x200 ⟨1, 7⟩ 0x200).trans (if_pos rfl)
  · refine Set.eq_empty_of_forall_notMem fun x hx => ?_
    have hx : (createGlyphset (createGlyphset default 0x200 ⟨1, 7⟩) 0x200 ⟨1, 8⟩).glyphsetOf x =
      some 7 := hx
    rw [glyphsetOf_createGlyphset, glyphsetOf_createGlyphset] at hx
    by_cases hid : x = 0x200
    · rw [if_pos hid] at hx
      exact absurd hx (by decide)
    · rw [if_neg hid, if_neg hid] at hx
      simp [glyphsetOf, default] at hx

end ResourceTable

end X12
