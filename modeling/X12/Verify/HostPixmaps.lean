import X12.Core.HostPixmaps
import X12.Verify.Create
import X12.Verify.ServerRun

/-! # The lifetime of host pixmaps

A host pixmap is to live as long as a pixmap of a client, the background of a
window or a graphics context uses it, and is to be freed once, with its last
use. Freeing a pixmap keeps to that; the other requests let go of host pixmaps
in ways that lose some and free others too early or twice. -/

namespace X12

open Lifetimes (Call Live Exact)

/-! ## Maps with an entry of some kind -/

namespace ResourceMap

variable {β : Type} {m : ResourceMap β} {id : ResourceId} {v : β} {f : β → β} {q : β → Prop}

def Has (m : ResourceMap β) (q : β → Prop) : Prop :=
  ∃ (a : ResourceId) (v : β), m[a]? = some v ∧ q v

/-- There is such an entry under another id. -/
def HasBeside (m : ResourceMap β) (id : ResourceId) (q : β → Prop) : Prop :=
  ∃ (a : ResourceId) (v : β), a ≠ id ∧ m[a]? = some v ∧ q v

theorem has_iff (id : ResourceId) : Has m q ↔ (∃ v ∈ m[id]?, q v) ∨ HasBeside m id q := by
  constructor
  · rintro ⟨a, v, hv, hq⟩
    by_cases ha : a = id
    · exact .inl ⟨v, ha ▸ hv, hq⟩
    · exact .inr ⟨a, v, ha, hv, hq⟩
  · rintro (⟨v, hv, hq⟩ | ⟨a, v, -, hv, hq⟩)
    · exact ⟨id, v, hv, hq⟩
    · exact ⟨a, v, hv, hq⟩

theorem hasBeside_of_get {m' : ResourceMap β} (h : ∀ a : ResourceId, a ≠ id → m'[a]? = m[a]?) :
    HasBeside m' id q ↔ HasBeside m id q :=
  exists_congr fun a => exists_congr fun _ => and_congr_right fun ha => by rw [h a ha]

theorem has_insert : Has (m.insert id v) q ↔ q v ∨ HasBeside m id q := by
  rw [has_iff id, hasBeside_of_get fun a ha => get_insert.trans (if_neg ha),
    get_insert, if_pos rfl]
  exact or_congr_left ⟨fun ⟨_, hw, hq⟩ => Option.some.inj hw ▸ hq, fun hq => ⟨v, rfl, hq⟩⟩

theorem has_erase : Has (m.erase id) q ↔ HasBeside m id q := by
  rw [has_iff id, hasBeside_of_get fun a ha => get_erase.trans (if_neg ha),
    get_erase, if_pos rfl]
  exact or_iff_right fun ⟨_, hw, _⟩ => nomatch hw

theorem has_modify : Has (m.modify id f) q ↔ (∃ v ∈ m[id]?, q (f v)) ∨ HasBeside m id q := by
  rw [has_iff id, hasBeside_of_get fun a ha => get_modify.trans (if_neg ha),
    get_modify, if_pos rfl]
  refine or_congr_left ⟨fun ⟨w, hw, hq⟩ => ?_, fun ⟨w, hw, hq⟩ => ⟨f w, ?_, hq⟩⟩
  · obtain ⟨v, hv, rfl⟩ := Option.map_eq_some_iff.mp hw
    exact ⟨v, hv, hq⟩
  · exact Option.map_eq_some_iff.mpr ⟨w, hw, rfl⟩

theorem has_filter (keep : β → Bool) :
    Has (m.filter fun _ v => keep v) q ↔ Has m fun v => keep v = true ∧ q v := by
  refine exists_congr fun a => exists_congr fun v => ?_
  rw [Std.ExtTreeMap.getElem?_filter', Option.filter_eq_some_iff, and_assoc]

theorem any_toList_iff {q : β → Bool} :
    (m.toList.any fun e => q e.2) = true ↔ Has m fun v => q v = true := by
  rw [List.any_eq_true]
  constructor
  · rintro ⟨⟨a, v⟩, hmem, hq⟩
    exact ⟨a, v, Std.ExtTreeMap.mem_toList_iff_getElem?_eq_some.mp hmem, hq⟩
  · rintro ⟨a, v, hv, hq⟩
    exact ⟨(a, v), Std.ExtTreeMap.mem_toList_iff_getElem?_eq_some.mpr hv, hq⟩

end ResourceMap

/-! ## Uses of a host pixmap -/

namespace ResourceTable

variable {t : ResourceTable} {h : Handle}

def PixmapUses (t : ResourceTable) (h : Handle) : Prop := ResourceMap.Has t.pixmaps (·.hostXid = some h)

def WindowUses (t : ResourceTable) (h : Handle) : Prop :=
  ResourceMap.Has t.windows (·.backgroundPixmapHostXid = some h)

def GcUses (t : ResourceTable) (h : Handle) : Prop := ResourceMap.Has t.gcs (·.uses h = true)

def Uses (t : ResourceTable) (h : Handle) : Prop := t.PixmapUses h ∨ t.WindowUses h ∨ t.GcUses h

theorem hostXidOwnedByPixmap_iff : t.hostXidOwnedByPixmap h = true ↔ t.PixmapUses h := by
  refine (ResourceMap.any_toList_iff (q := fun p : Pixmap => p.hostXid = some h)).trans ?_
  simp only [decide_eq_true_eq]
  rfl

theorem hostXidReferencedByWindowBg_iff :
    t.hostXidReferencedByWindowBg h = true ↔ t.WindowUses h := by
  refine (ResourceMap.any_toList_iff
    (q := fun w : Window => w.backgroundPixmapHostXid = some h)).trans ?_
  simp only [decide_eq_true_eq]
  rfl

theorem hostXidReferencedByGc_iff : t.hostXidReferencedByGc h = true ↔ t.GcUses h :=
  ResourceMap.any_toList_iff (q := fun g : Gc => g.uses h)

instance (t : ResourceTable) (h : Handle) : Decidable (t.Uses h) :=
  have : Decidable (t.PixmapUses h) := decidable_of_iff _ hostXidOwnedByPixmap_iff
  have : Decidable (t.WindowUses h) := decidable_of_iff _ hostXidReferencedByWindowBg_iff
  have : Decidable (t.GcUses h) := decidable_of_iff _ hostXidReferencedByGc_iff
  inferInstanceAs (Decidable (_ ∨ _ ∨ _))

/-- No two pixmaps have the same host pixmap. -/
def PixmapsDistinct (t : ResourceTable) : Prop :=
  ∀ a p, t.pixmaps[a]? = some p → ∀ h, p.hostXid = some h →
    ¬ ResourceMap.HasBeside t.pixmaps a (·.hostXid = some h)

end ResourceTable

/-! ## Steps and runs -/

/-- The requests that make, use or let go of host pixmaps, and what comes
between them. -/
inductive PixmapEvent where
  | connect (client : ClientId)
  | createWindow (client : ClientId) (request : CreateWindowRequest) (hostXid : Option Handle)
  | createPixmap (client : ClientId) (request : CreatePixmapRequest) (hostXid : Option Handle)
  | freePixmap (pixmap : ResourceId)
  | createGc (client : ClientId) (request : CreateGcRequest)
  | changeGc (request : GcChange)
  | copyGc (src dst : ResourceId) (valueMask : UInt32)
  | setClipRectangles (gc : ResourceId) (clip : ClipRectangles)
  | freeGc (gc : ResourceId)
  | changeWindowAttributes (client : ClientId) (request : ChangeWindowAttributesRequest)
  | destroyWindow (window : ResourceId)
  | disconnect (client : ClientId) (choices : DisconnectChoices)

namespace PixmapEvent

def step (s : ServerState) : PixmapEvent → PixmapOutcome
  | connect client => ⟨(s.connectClient client).getD s, [], none⟩
  | createWindow client request hostXid => s.createWindow client request hostXid
  | createPixmap client request hostXid => s.createPixmap client request hostXid
  | freePixmap pixmap => s.freePixmap pixmap
  | createGc client request => s.createGc client request
  | changeGc request => s.changeGc request
  | copyGc src dst valueMask => s.copyGc src dst valueMask
  | setClipRectangles gc clip => s.setClipRectangles gc clip
  | freeGc gc => s.freeGc gc
  | changeWindowAttributes client request => s.changeWindowAttributes client request
  | destroyWindow window => s.destroyWindow window
  | disconnect client choices => s.disconnect client choices

/-- Clients are new, disconnects are as the tables allow, and the backend does
not give out a host pixmap that is in use. -/
def Admitted (run : ServerState × List (Call Handle)) : PixmapEvent → Prop
  | connect client => client ≠ SERVER_OWNER ∧ run.1.clients[client]? = none
  | createPixmap _ _ hostXid => ∀ h ∈ hostXid, ¬ Live run.2 h
  | disconnect client choices => choices.Allowed run.1 client
  | _ => True

/-- What a graphics context uses before a change it uses afterwards as well, or
something else does. -/
def KeepsUses (t : ResourceTable) (gc : ResourceId) (after : Gc → Option Gc) : Prop :=
  ∀ g ∈ t.gcs[gc]?, ∀ h, g.uses h = true →
    (∃ g' ∈ after g, g'.uses h = true) ∨ t.PixmapUses h ∨ t.WindowUses h ∨
      ResourceMap.HasBeside t.gcs gc (·.uses h = true)

/-- A background that is replaced is not in a graphics context, unless a window
or a pixmap has it besides. -/
def ReplacesBackground (t : ResourceTable) (request : ChangeWindowAttributesRequest) : Prop :=
  ∀ h ∈ t.previousBgHostXid request, t.GcUses h →
    t.PixmapUses h ∨
      ResourceMap.HasBeside t.windows request.window (·.backgroundPixmapHostXid = some h)

/-- A background that goes with a subtree is that of a single window, and not in
a graphics context, unless a window outside or a pixmap has it besides. -/
def DestroysBackgrounds (t : ResourceTable) (root : ResourceId) : Prop :=
  ∀ h ∈ t.collectBgPixmapHostXids t.windows.size root,
    t.PixmapUses h ∨
      (∃ x w, t.windows[x]? = some w ∧ ¬ t.links.Below root x ∧
        w.backgroundPixmapHostXid = some h) ∨
      (t.collectBgPixmapHostXids t.windows.size root).count h = 1 ∧ ¬ t.GcUses h

/-- Something that outlasts the client uses the host pixmap. -/
def OutlastedUse (s : ServerState) (client : ClientId) (h : Handle) : Prop :=
  let stays (owner : ClientId) : Prop := s.retainsResources client = true ∨ owner ≠ client
  ResourceMap.Has s.resources.pixmaps (fun p => stays p.owner ∧ p.hostXid = some h) ∨
    (∃ x w, s.resources.windows[x]? = some w ∧ ¬ s.resources.Dying client x ∧
      w.backgroundPixmapHostXid = some h) ∨
    ResourceMap.Has s.resources.gcs (fun g => stays g.owner ∧ g.uses h = true)

/-- The host pixmaps in use are either those of the client's pixmaps or used by
something that outlasts it. -/
def SplitsUses (s : ServerState) (client : ClientId) : Prop :=
  ∀ h, s.resources.Uses h →
    (s.retainsResources client = false ∧
      ResourceMap.Has s.resources.pixmaps (fun p => p.owner = client ∧ p.hostXid = some h) ↔
    ¬ OutlastedUse s client h)

/-- The host pixmaps that the step lets go of are those that it frees. -/
def Sound (s : ServerState) : PixmapEvent → Prop
  | changeGc request =>
    KeepsUses s.resources request.gc fun g => some (s.resources.changedGc request.attributes g)
  | copyGc src dst valueMask =>
    ∀ srcGc ∈ s.resources.gcs[src]?,
      KeepsUses s.resources dst fun g => some (ResourceTable.copiedGc srcGc g valueMask)
  | setClipRectangles gc _ =>
    KeepsUses s.resources gc fun g => some { g with clipPixmapHostXid := none }
  | freeGc gc => KeepsUses s.resources gc fun _ => none
  | changeWindowAttributes _ request =>
    s.changeWindowAttributesRefusal request = none → ReplacesBackground s.resources request
  | destroyWindow window =>
    window ≠ ROOT_WINDOW → DestroysBackgrounds s.resources window
  | disconnect client _ => s.clients[client]? ≠ none → SplitsUses s client
  | _ => True

end PixmapEvent

/-- The state and the calls to the backend after a run. -/
def runPixmaps (events : List PixmapEvent) : ServerState × List (Call Handle) :=
  events.foldl (fun run e => ((e.step run.1).state, run.2 ++ (e.step run.1).calls)) (.new, [])

theorem runPixmaps_concat {events : List PixmapEvent} {e : PixmapEvent} :
    runPixmaps (events ++ [e]) =
      ((e.step (runPixmaps events).1).state,
        (runPixmaps events).2 ++ (e.step (runPixmaps events).1).calls) := by
  rw [runPixmaps, List.foldl_append]
  rfl

/-! ## The invariant -/

/-- What holds all along a sound run. -/
structure PixmapInvariant (run : ServerState × List (Call Handle)) : Prop where
  server : ServerInvariant run.1
  distinct : run.1.resources.PixmapsDistinct
  exact : Exact run.1.resources.Uses run.2

namespace ResourceTable

open PixmapEvent

variable {t t' : ResourceTable} {h : Handle} {freed : List Handle} {gc : ResourceId} {f : Gc → Gc}

/-- The uses that end with a step are those of the host pixmaps that it frees. -/
structure Frees (t t' : ResourceTable) (freed : List Handle) : Prop where
  distinct : t'.PixmapsDistinct
  nodup : freed.Nodup
  used : ∀ h ∈ freed, t.Uses h
  uses : ∀ h, t'.Uses h ↔ t.Uses h ∧ h ∉ freed

theorem Frees.nothing (hdistinct : t'.PixmapsDistinct) (huses : ∀ h, t'.Uses h ↔ t.Uses h) :
    Frees t t' [] where
  distinct := hdistinct
  nodup := List.nodup_nil
  used _ hmem := nomatch hmem
  uses h := (huses h).trans (and_iff_left List.not_mem_nil).symm

/-- What is lost and not kept is freed. -/
theorem Frees.of_lost (lost : Handle → Prop) (hdistinct : t'.PixmapsDistinct) (hnodup : freed.Nodup)
    (huses : ∀ h, t.Uses h ↔ lost h ∨ t'.Uses h)
    (hfreed : ∀ h, h ∈ freed ↔ lost h ∧ ¬ t'.Uses h) : Frees t t' freed where
  distinct := hdistinct
  nodup := hnodup
  used h hmem := (huses h).mpr (.inl ((hfreed h).mp hmem).1)
  uses h := by
    rw [huses, hfreed, not_and, not_not]
    exact ⟨fun hkept => ⟨.inr hkept, fun _ => hkept⟩, fun ⟨hused, hkept⟩ => hused.elim hkept id⟩

theorem pixmapUses_of_get {id : ResourceId} (hget : t.pixmapHostXid id = some h) :
    t.PixmapUses h := by
  obtain ⟨p, hp, hxid⟩ := Option.bind_eq_some_iff.mp hget
  exact ⟨id, p, hp, hxid⟩

theorem gcUses_iff {g : Gc} : g.uses h = true ↔
    g.clipPixmapHostXid = some h ∨ g.tileHostXid = some h ∨ g.stippleHostXid = some h := by
  simp only [Gc.uses, Bool.or_eq_true, decide_eq_true_eq, or_assoc]

/-! ## Graphics contexts -/

/-- A changed graphics context uses what it used, and host pixmaps of pixmaps. -/
theorem uses_changedGc {change : GcAttributes} {g : Gc} (huse : (t.changedGc change g).uses h = true) :
    g.uses h = true ∨ t.PixmapUses h := by
  have helim {α : Type} {o : Option α} {old : Option Handle} {new : α → Option Handle}
      (hnew : ∀ x, new x = some h → t.PixmapUses h) (helim : o.elim old new = some h) :
      old = some h ∨ t.PixmapUses h := by
    cases o with
    | none => exact .inl helim
    | some x => exact .inr (hnew x helim)
  have hmask (mask : Option ResourceId) (hmask : mask.bind t.pixmapHostXid = some h) :
      t.PixmapUses h := by
    obtain ⟨id, -, hid⟩ := Option.bind_eq_some_iff.mp hmask
    exact pixmapUses_of_get hid
  rw [gcUses_iff] at huse ⊢
  rcases huse with huse | huse | huse
  · exact (helim hmask huse).imp_left .inl
  · exact (helim (fun _ => pixmapUses_of_get) huse).imp_left fun h => .inr (.inl h)
  · exact (helim (fun _ => pixmapUses_of_get) huse).imp_left fun h => .inr (.inr h)

theorem uses_copiedGc {src dst : Gc} {valueMask : UInt32}
    (huse : (copiedGc src dst valueMask).uses h = true) : src.uses h = true ∨ dst.uses h = true := by
  have hite {bit : UInt32} {a b : Option Handle}
      (hite : (if valueMask &&& bit ≠ 0 then a else b) = some h) : a = some h ∨ b = some h := by
    split at hite
    · exact .inl hite
    · exact .inr hite
  rw [gcUses_iff] at huse ⊢
  rw [gcUses_iff]
  rcases huse with huse | huse | huse
  · exact (hite huse).imp .inl .inl
  · exact (hite huse).imp (fun h => .inr (.inl h)) fun h => .inr (.inl h)
  · exact (hite huse).imp (fun h => .inr (.inr h)) fun h => .inr (.inr h)

/-- A graphics context is replaced by what a step leaves of it. -/
theorem Frees.replaceGc {gcs : ResourceMap Gc} {after : Gc → Option Gc}
    (hdistinct : t.PixmapsDistinct)
    (hgcs : ∀ h, ({ t with gcs := gcs } : ResourceTable).GcUses h ↔
      (∃ g ∈ t.gcs[gc]?, ∃ g' ∈ after g, g'.uses h = true) ∨
        ResourceMap.HasBeside t.gcs gc (·.uses h = true))
    (hkeeps : KeepsUses t gc after)
    (hnew : ∀ g ∈ t.gcs[gc]?, ∀ g' ∈ after g, ∀ h, g'.uses h = true → t.Uses h) :
    Frees t { t with gcs := gcs } [] := by
  refine .nothing hdistinct fun h => ?_
  constructor
  · rintro (hp | hw | hg)
    · exact .inl hp
    · exact .inr (.inl hw)
    · rcases (hgcs h).mp hg with ⟨g, hget, g', hg', huse⟩ | hbeside
      · exact hnew g hget g' hg' h huse
      · exact .inr (.inr ((ResourceMap.has_iff gc).mpr (.inr hbeside)))
  · rintro (hp | hw | hg)
    · exact .inl hp
    · exact .inr (.inl hw)
    · rcases (ResourceMap.has_iff gc).mp hg with ⟨g, hget, huse⟩ | hbeside
      · rcases hkeeps g hget h huse with hafter | hp | hw | hbeside
        · exact .inr (.inr ((hgcs h).mpr (.inl ⟨g, hget, hafter⟩)))
        · exact .inl hp
        · exact .inr (.inl hw)
        · exact .inr (.inr ((hgcs h).mpr (.inr hbeside)))
      · exact .inr (.inr ((hgcs h).mpr (.inr hbeside)))

theorem Frees.modifyGc (hdistinct : t.PixmapsDistinct) (hkeeps : KeepsUses t gc fun g => some (f g))
    (hnew : ∀ g ∈ t.gcs[gc]?, ∀ h, (f g).uses h = true → t.Uses h) :
    Frees t { t with gcs := t.gcs.modify gc f } [] := by
  refine .replaceGc hdistinct (fun h => ?_) hkeeps ?_
  · refine ResourceMap.has_modify.trans (or_congr_left (exists_congr fun g => ?_))
    refine and_congr_right fun _ => ⟨fun huse => ⟨f g, rfl, huse⟩, ?_⟩
    rintro ⟨g', hg', huse⟩
    exact Option.some.inj hg' ▸ huse
  · intro g hget g' hg' h huse
    exact hnew g hget h (Option.some.inj hg' ▸ huse)

theorem Frees.changeGc {request : GcChange} (hdistinct : t.PixmapsDistinct)
    (hkeeps : KeepsUses t request.gc fun g => some (t.changedGc request.attributes g)) :
    Frees t (t.changeGc request) [] := by
  refine .modifyGc hdistinct hkeeps fun g hget h huse => ?_
  rcases uses_changedGc huse with huse | hp
  · exact .inr (.inr ⟨_, g, hget, huse⟩)
  · exact .inl hp

theorem Frees.copyGc {src dst : ResourceId} {valueMask : UInt32} (hdistinct : t.PixmapsDistinct)
    (hkeeps : ∀ srcGc ∈ t.gcs[src]?, KeepsUses t dst fun g => some (copiedGc srcGc g valueMask)) :
    Frees t (t.copyGc src dst valueMask) [] := by
  unfold ResourceTable.copyGc
  split
  · exact .nothing hdistinct fun _ => .rfl
  · next srcGc hsrc =>
    refine .modifyGc hdistinct (hkeeps srcGc hsrc) fun g hget h huse => ?_
    rcases uses_copiedGc huse with huse | huse
    · exact .inr (.inr ⟨_, srcGc, hsrc, huse⟩)
    · exact .inr (.inr ⟨_, g, hget, huse⟩)

theorem Frees.setClipRectangles {clip : ClipRectangles} (hdistinct : t.PixmapsDistinct)
    (hkeeps : KeepsUses t gc fun g => some { g with clipPixmapHostXid := none }) :
    Frees t (t.setClipRectangles gc clip) [] := by
  refine .modifyGc hdistinct (fun g hget h huse => ?_) fun g hget h huse => ?_
  · refine (hkeeps g hget h huse).imp_left ?_
    rintro ⟨g', hg', huse⟩
    obtain rfl := Option.some.inj hg'
    exact ⟨_, rfl, huse⟩
  · rw [gcUses_iff, or_iff_right nofun] at huse
    exact .inr (.inr ⟨_, g, hget, gcUses_iff.mpr (.inr huse)⟩)

theorem Frees.freeGc (hdistinct : t.PixmapsDistinct) (hkeeps : KeepsUses t gc fun _ => none) :
    Frees t (t.freeGc gc) [] := by
  refine .replaceGc hdistinct (fun h => ?_) hkeeps fun _ _ _ hnone => (nomatch hnone)
  exact ResourceMap.has_erase.trans (or_iff_right fun ⟨_, _, _, hnone, _⟩ => nomatch hnone).symm

/-! ## Pixmaps and backgrounds -/

theorem PixmapsDistinct.mono (hdistinct : t.PixmapsDistinct)
    (hsub : ∀ (a : ResourceId) (p : Pixmap), t'.pixmaps[a]? = some p → t.pixmaps[a]? = some p) :
    t'.PixmapsDistinct := by
  rintro a p hp h hxid ⟨b, q, hne, hq, hqxid⟩
  exact hdistinct a p (hsub a p hp) h hxid ⟨b, q, hne, hsub b q hq, hqxid⟩

theorem mem_toList_filter {o : Option Handle} {keep : Handle → Bool} :
    h ∈ (o.filter keep).toList ↔ o = some h ∧ keep h = true := by
  rw [Option.mem_toList, Option.filter_eq_some_iff]

theorem nodup_toList {o : Option Handle} : o.toList.Nodup := by
  cases o with
  | none => exact List.nodup_nil
  | some h => exact List.nodup_singleton h

theorem Frees.freePixmap (hdistinct : t.PixmapsDistinct) (id : ResourceId) :
    Frees t (t.freePixmap id).1
      (((t.freePixmap id).2.bind (·.hostXid)).filter fun xid =>
        !(t.freePixmap id).1.hostXidReferencedByWindowBg xid &&
          !(t.freePixmap id).1.hostXidReferencedByGc xid).toList := by
  have hafter (h : Handle) : (t.freePixmap id).1.PixmapUses h ↔
      ResourceMap.HasBeside t.pixmaps id (·.hostXid = some h) := ResourceMap.has_erase
  refine .of_lost (fun h => ∃ p ∈ t.pixmaps[id]?, p.hostXid = some h)
    (hdistinct.mono fun a p hp => ?_) nodup_toList (fun h => ?_) fun h => ?_
  · have herase : (t.pixmaps.erase id)[a]? = some p := hp
    rw [ResourceMap.get_erase, ite_eq_iff] at herase
    rcases herase with ⟨-, hnone⟩ | ⟨-, hget⟩
    · cases hnone
    · exact hget
  · rw [Uses, Uses, hafter]
    exact (or_congr_left (ResourceMap.has_iff id)).trans or_assoc
  · rw [mem_toList_filter, Option.bind_eq_some_iff, Bool.and_eq_true, Bool.not_eq_true',
      Bool.not_eq_true', ← Bool.not_eq_true, ← Bool.not_eq_true, hostXidReferencedByWindowBg_iff,
      hostXidReferencedByGc_iff, Uses, hafter, not_or, not_or]
    refine and_congr_right fun ⟨p, hget, hxid⟩ => (and_iff_right ?_).symm
    exact hdistinct id p hget h hxid

theorem mem_previousBgHostXid {request : ChangeWindowAttributesRequest} :
    h ∈ t.previousBgHostXid request ↔ ∃ w ∈ t.windows[request.window]?,
      w.backgroundPixmapHostXid = some h ∧
        (t.changedWindow request w).backgroundPixmapHostXid ≠ some h := by
  unfold previousBgHostXid changedWindow
  cases hbg : request.backgroundPixmap with
  | none =>
    refine iff_of_false nofun ?_
    rintro ⟨w, -, hold, hnew⟩
    exact hnew hold
  | some bg =>
    rw [Option.bind_some, Option.mem_def, Option.filter_eq_some_iff, Option.bind_eq_some_iff,
      decide_eq_true_eq]
    constructor
    · rintro ⟨⟨w, hw, hold⟩, hnew⟩
      exact ⟨w, hw, hold, hnew⟩
    · rintro ⟨w, hw, hold, hnew⟩
      exact ⟨⟨w, hw, hold⟩, hnew⟩

/-- A new background is that of a pixmap. -/
theorem uses_changedWindow {request : ChangeWindowAttributesRequest} {w : Window}
    (huse : (t.changedWindow request w).backgroundPixmapHostXid = some h) :
    w.backgroundPixmapHostXid = some h ∨ t.PixmapUses h := by
  unfold changedWindow at huse
  cases hbg : request.backgroundPixmap with
  | none =>
    rw [hbg] at huse
    exact .inl huse
  | some bg =>
    rw [hbg] at huse
    have hnew : t.newBgHostXid bg = some h := huse
    unfold newBgHostXid at hnew
    rw [ite_eq_iff] at hnew
    rcases hnew with ⟨-, hnone⟩ | ⟨-, hget⟩
    · cases hnone
    · exact .inr (pixmapUses_of_get hget)

theorem Frees.changeWindowAttributes {request : ChangeWindowAttributesRequest}
    (hdistinct : t.PixmapsDistinct) (hreplaces : ReplacesBackground t request) :
    Frees t (t.changeWindowAttributes request).1
      ((t.changeWindowAttributes request).2.filter fun xid =>
        !(t.changeWindowAttributes request).1.hostXidReferencedByWindowBg xid &&
          !(t.changeWindowAttributes request).1.hostXidOwnedByPixmap xid).toList := by
  have hafter (h : Handle) : (t.changeWindowAttributes request).1.WindowUses h ↔
      (∃ w ∈ t.windows[request.window]?,
        (t.changedWindow request w).backgroundPixmapHostXid = some h) ∨
      ResourceMap.HasBeside t.windows request.window (·.backgroundPixmapHostXid = some h) :=
    ResourceMap.has_modify
  refine .of_lost (· ∈ t.previousBgHostXid request) hdistinct nodup_toList
    (fun h => ?_) fun h => ?_
  · constructor
    · rintro (hp | hw | hg)
      · exact .inr (.inl hp)
      · rcases (ResourceMap.has_iff request.window).mp hw with ⟨w, hget, hold⟩ | hbeside
        · by_cases hnew : (t.changedWindow request w).backgroundPixmapHostXid = some h
          · exact .inr (.inr (.inl ((hafter h).mpr (.inl ⟨w, hget, hnew⟩))))
          · exact .inl (mem_previousBgHostXid.mpr ⟨w, hget, hold, hnew⟩)
        · exact .inr (.inr (.inl ((hafter h).mpr (.inr hbeside))))
      · exact .inr (.inr (.inr hg))
    · rintro (hprevious | hp | hw | hg)
      · obtain ⟨w, hget, hold, -⟩ := mem_previousBgHostXid.mp hprevious
        exact .inr (.inl ⟨_, w, hget, hold⟩)
      · exact .inl hp
      · rcases (hafter h).mp hw with ⟨w, hget, hnew⟩ | hbeside
        · rcases uses_changedWindow hnew with hold | hp
          · exact .inr (.inl ⟨_, w, hget, hold⟩)
          · exact .inl hp
        · exact .inr (.inl ((ResourceMap.has_iff request.window).mpr (.inr hbeside)))
      · exact .inr (.inr hg)
  · rw [mem_toList_filter, Bool.and_eq_true, Bool.not_eq_true', Bool.not_eq_true',
      ← Bool.not_eq_true, ← Bool.not_eq_true, hostXidReferencedByWindowBg_iff,
      hostXidOwnedByPixmap_iff]
    refine and_congr_right fun hprevious => ?_
    constructor
    · rintro ⟨hw, hp⟩ (hp' | hw' | hg)
      · exact hp hp'
      · exact hw hw'
      · rcases hreplaces h hprevious hg with hp' | hbeside
        · exact hp hp'
        · exact hw ((hafter h).mpr (.inr hbeside))
    · exact fun hnone => ⟨fun hw => hnone (.inr (.inl hw)), fun hp => hnone (.inl hp)⟩

/-! ## New resources -/

theorem Frees.of_uses {t'' : ResourceTable} (hfrees : Frees t t' freed)
    (hpixmaps : t''.pixmaps = t'.pixmaps) (huses : ∀ h, t''.Uses h ↔ t'.Uses h) :
    Frees t t'' freed where
  distinct := by
    unfold PixmapsDistinct
    rw [hpixmaps]
    exact hfrees.distinct
  nodup := hfrees.nodup
  used := hfrees.used
  uses h := (huses h).trans (hfrees.uses h)

/-- A new graphics context uses host pixmaps of pixmaps. -/
theorem Frees.createGc {owner : ClientId} {request : CreateGcRequest}
    (hdistinct : t.PixmapsDistinct) (hnew : t.gcs[request.gc]? = none) :
    Frees t (t.createGc owner request) [] := by
  refine .nothing hdistinct fun h => ?_
  have hbeside : t.GcUses h ↔ ResourceMap.HasBeside t.gcs request.gc (·.uses h = true) := by
    refine (ResourceMap.has_iff request.gc).trans (or_iff_right ?_)
    rw [hnew]
    exact fun ⟨_, hnone, _⟩ => nomatch hnone
  have hafter : (t.createGc owner request).GcUses h ↔
      (t.newGc owner request).uses h = true ∨
        ResourceMap.HasBeside t.gcs request.gc (·.uses h = true) := ResourceMap.has_insert
  have huse (huse : (t.newGc owner request).uses h = true) : t.PixmapUses h := by
    rcases gcUses_iff.mp huse with hget | hget | hget
    · obtain ⟨id, -, hget⟩ := Option.bind_eq_some_iff.mp hget
      exact pixmapUses_of_get hget
    · obtain ⟨id, -, hget⟩ := Option.bind_eq_some_iff.mp hget
      exact pixmapUses_of_get hget
    · obtain ⟨id, -, hget⟩ := Option.bind_eq_some_iff.mp hget
      exact pixmapUses_of_get hget
  rw [Uses, Uses, hafter, hbeside]
  constructor
  · rintro (hp | hw | hg | hg)
    · exact .inl hp
    · exact .inr (.inl hw)
    · exact .inl (huse hg)
    · exact .inr (.inr hg)
  · exact Or.imp_right (Or.imp_right .inr)

theorem Frees.createWindow (owner : ClientId) {request : CreateWindowRequest}
    (hdistinct : t.PixmapsDistinct) (hnew : t.windows[request.window]? = none)
    (hparent : t.windows[request.parent]? ≠ none) :
    Frees t (t.createWindow owner request) [] := by
  obtain ⟨parent, hp⟩ := Option.ne_none_iff_exists'.mp hparent
  refine .nothing hdistinct fun h => ?_
  have hwindows : (t.createWindow owner request).WindowUses h ↔
      (t.newWindow owner request).backgroundPixmapHostXid = some h ∨ t.WindowUses h := by
    constructor
    · rintro ⟨a, w, hw, hbg⟩
      rw [get_createWindow hp] at hw
      split at hw
      · obtain rfl := Option.some.inj hw
        exact .inl hbg
      · split at hw
        · obtain rfl := Option.some.inj hw
          exact .inr ⟨_, parent, hp, hbg⟩
        · exact .inr ⟨a, w, hw, hbg⟩
    · rintro (hbg | ⟨a, w, hw, hbg⟩)
      · exact ⟨request.window, _, (get_createWindow hp).trans (if_pos rfl), hbg⟩
      · have ha : a ≠ request.window := by
          rintro rfl
          exact nomatch hnew.symm.trans hw
        by_cases hap : a = request.parent
        · subst hap
          obtain rfl := Option.some.inj (hp.symm.trans hw)
          exact ⟨_, _, (get_createWindow hp).trans ((if_neg ha).trans (if_pos rfl)), hbg⟩
        · exact ⟨a, w, (get_createWindow hp).trans ((if_neg ha).trans ((if_neg hap).trans hw)),
            hbg⟩
  have huse (hbg : (t.newWindow owner request).backgroundPixmapHostXid = some h) :
      t.PixmapUses h := by
    obtain ⟨id, -, hget⟩ := Option.bind_eq_some_iff.mp hbg
    exact pixmapUses_of_get hget
  rw [Uses, Uses, hwindows]
  constructor
  · rintro (hp | (hbg | hw) | hg)
    · exact .inl hp
    · exact .inl (huse hbg)
    · exact .inr (.inl hw)
    · exact .inr (.inr hg)
  · exact Or.imp_right (Or.imp_left .inr)

theorem windowUses_modifyWindow {id : ResourceId} {change : Window → Window}
    (hchange : ∀ w, (change w).backgroundPixmapHostXid = w.backgroundPixmapHostXid) :
    (t.modifyWindow id change).WindowUses h ↔ t.WindowUses h := by
  refine exists_congr fun a => ?_
  rw [get_modifyWindow_map]
  constructor
  · rintro ⟨w, hw, hbg⟩
    obtain ⟨old, hold, rfl⟩ := Option.map_eq_some_iff.mp hw
    refine ⟨old, hold, ?_⟩
    split at hbg
    · rwa [hchange] at hbg
    · exact hbg
  · rintro ⟨w, hw, hbg⟩
    refine ⟨_, Option.map_eq_some_iff.mpr ⟨w, hw, rfl⟩, ?_⟩
    split
    · rwa [hchange]
    · exact hbg

/-- A new pixmap has its host pixmap to itself. -/
theorem uses_createPixmap (owner : ClientId) {request : CreatePixmapRequest}
    {hostXid : Option Handle} (hdistinct : t.PixmapsDistinct)
    (hnew : t.pixmaps[request.pixmap]? = none) (hfresh : ∀ h ∈ hostXid, ¬ t.Uses h) :
    (t.createPixmap owner request hostXid).PixmapsDistinct ∧
      ∀ h, (t.createPixmap owner request hostXid).Uses h ↔ hostXid = some h ∨ t.Uses h := by
  have hbeside (h : Handle) : t.PixmapUses h ↔
      ResourceMap.HasBeside t.pixmaps request.pixmap (·.hostXid = some h) := by
    refine (ResourceMap.has_iff request.pixmap).trans (or_iff_right ?_)
    rw [hnew]
    exact fun ⟨_, hnone, _⟩ => nomatch hnone
  constructor
  · rintro a p hp h hxid ⟨b, q, hne, hq, hqxid⟩
    have hp : (t.pixmaps.insert request.pixmap _)[a]? = some p := hp
    have hq : (t.pixmaps.insert request.pixmap _)[b]? = some q := hq
    rw [ResourceMap.get_insert] at hp hq
    split at hp
    · next ha =>
      obtain rfl := Option.some.inj hp
      rw [if_neg (ha ▸ hne)] at hq
      exact hfresh h hxid (.inl ⟨b, q, hq, hqxid⟩)
    · split at hq
      · obtain rfl := Option.some.inj hq
        exact hfresh h hqxid (.inl ⟨a, p, hp, hxid⟩)
      · exact hdistinct a p hp h hxid ⟨b, q, hne, hq, hqxid⟩
  · intro h
    have hafter : (t.createPixmap owner request hostXid).PixmapUses h ↔ hostXid = some h ∨
        ResourceMap.HasBeside t.pixmaps request.pixmap (·.hostXid = some h) :=
      ResourceMap.has_insert
    rw [Uses, Uses, hafter, hbeside, or_assoc]
    rfl

/-! ## Subtrees -/

section

variable {root : ResourceId} {destroyed : List ResourceId}

/-- The windows that are left have the backgrounds that they had. -/
theorem Pruned.windowUses_iff (hpruned : Pruned t t' destroyed) : t'.WindowUses h ↔
    ∃ x w, t.windows[x]? = some w ∧ x ∉ destroyed ∧ w.backgroundPixmapHostXid = some h := by
  refine exists_congr fun x => ?_
  rw [hpruned.get]
  constructor
  · rintro ⟨w, hw, hbg⟩
    rw [ite_eq_iff] at hw
    rcases hw with ⟨-, hnone⟩ | ⟨hx, hw⟩
    · cases hnone
    · obtain ⟨old, hold, rfl⟩ := Option.map_eq_some_iff.mp hw
      exact ⟨old, hold, hx, hbg⟩
  · rintro ⟨w, hw, hx, hbg⟩
    rw [if_neg hx, hw]
    exact ⟨_, rfl, hbg⟩

/-- The backgrounds that are collected are those of the windows in the
subtree. -/
theorem TreeWellFormed.mem_collectBgPixmapHostXids {n fuel : Nat} (hwf : t.TreeWellFormed)
    (hdepth : t.links.AtDepth ROOT_WINDOW root n) (hfuel : t.windows.size ≤ n + fuel) :
    h ∈ t.collectBgPixmapHostXids fuel root ↔ ∃ x w, t.windows[x]? = some w ∧
      t.links.Below root x ∧ w.backgroundPixmapHostXid = some h := by
  induction fuel generalizing root n with
  | zero =>
    have := hwf.depth_lt hdepth
    omega
  | succ fuel ih =>
    obtain ⟨w, hw⟩ := exists_of_present (hdepth.present hwf.root_present)
    have hlisted {child : ResourceId} : child ∈ w.children ↔ t.links.Child root child := by
      rw [← childrenOf_of_get hw]
      exact ⟨fun hmem => ⟨present_of_get hw, hmem⟩, And.right⟩
    rw [collectBgPixmapHostXids, hw]
    simp only [List.mem_append, Option.mem_toList, List.mem_flatMap]
    constructor
    · rintro (hbg | ⟨child, hmem, hbg⟩)
      · exact ⟨root, w, hw, .refl, hbg⟩
      · have hchild := hlisted.mp hmem
        obtain ⟨x, v, hv, hbelow, hbg⟩ :=
          (ih (hwf.child_atDepth hdepth hchild) (by omega)).mp hbg
        exact ⟨x, v, hv, below_cases.mpr (.inr ⟨child, hchild, hbelow⟩), hbg⟩
    · rintro ⟨x, v, hv, hbelow, hbg⟩
      rcases below_cases.mp hbelow with rfl | ⟨child, hchild, hbelow⟩
      · obtain rfl := Option.some.inj (hw.symm.trans hv)
        exact .inl hbg
      · exact .inr ⟨child, hlisted.mpr hchild,
          (ih (hwf.child_atDepth hdepth hchild) (by omega)).mpr ⟨x, v, hv, hbelow, hbg⟩⟩

/-- What is freed after the windows of a subtree are gone. -/
theorem Frees.prune {bgs : List Handle} (hdistinct : t.PixmapsDistinct)
    (hpruned : Pruned t t' destroyed)
    (hbgs : ∀ h, h ∈ bgs ∧ ¬ t'.WindowUses h ↔ (∃ x w, t.windows[x]? = some w ∧ x ∈ destroyed ∧
      w.backgroundPixmapHostXid = some h) ∧ ¬ t'.WindowUses h)
    (hdestroys : ∀ h ∈ bgs, t.PixmapUses h ∨ t'.WindowUses h ∨ bgs.count h = 1 ∧ ¬ t.GcUses h) :
    Frees t t' (bgs.filter fun xid =>
      !t'.hostXidReferencedByWindowBg xid && !t'.hostXidOwnedByPixmap xid) := by
  have hpixmaps (h : Handle) : t'.PixmapUses h ↔ t.PixmapUses h := by rw [hpruned.others]; rfl
  have hgcs (h : Handle) : t'.GcUses h ↔ t.GcUses h := by rw [hpruned.others]; rfl
  have hfreed (h : Handle) : h ∈ (bgs.filter fun xid =>
      !t'.hostXidReferencedByWindowBg xid && !t'.hostXidOwnedByPixmap xid) ↔
      h ∈ bgs ∧ ¬ t'.WindowUses h ∧ ¬ t.PixmapUses h := by
    rw [List.mem_filter, Bool.and_eq_true, Bool.not_eq_true', Bool.not_eq_true',
      ← Bool.not_eq_true, ← Bool.not_eq_true, hostXidReferencedByWindowBg_iff,
      hostXidOwnedByPixmap_iff, hpixmaps]
  have hgoes {h : Handle} (hbg : h ∈ bgs) (hw : ¬ t'.WindowUses h) (hp : ¬ t.PixmapUses h) :
      bgs.count h = 1 ∧ ¬ t.GcUses h :=
    ((hdestroys h hbg).resolve_left hp).resolve_left hw
  refine .of_lost (fun h => ∃ x w, t.windows[x]? = some w ∧ x ∈ destroyed ∧
    w.backgroundPixmapHostXid = some h) (hdistinct.mono fun a p hp => ?_) ?_ (fun h => ?_)
    fun h => ?_
  · rw [hpruned.others] at hp
    exact hp
  · refine List.nodup_iff_count_le_one.mpr fun h => ?_
    by_cases hmem : h ∈ bgs.filter fun xid =>
        !t'.hostXidReferencedByWindowBg xid && !t'.hostXidOwnedByPixmap xid
    · obtain ⟨hbg, hw, hp⟩ := (hfreed h).mp hmem
      exact (List.filter_sublist.count_le h).trans (hgoes hbg hw hp).1.le
    · rw [List.count_eq_zero_of_not_mem hmem]
      exact Nat.zero_le 1
  · rw [Uses, Uses, hpixmaps, hgcs]
    constructor
    · rintro (hp | ⟨x, w, hw, hbg⟩ | hg)
      · exact .inr (.inl hp)
      · by_cases hx : x ∈ destroyed
        · exact .inl ⟨x, w, hw, hx, hbg⟩
        · exact .inr (.inr (.inl (hpruned.windowUses_iff.mpr ⟨x, w, hw, hx, hbg⟩)))
      · exact .inr (.inr (.inr hg))
    · rintro (⟨x, w, hw, -, hbg⟩ | hp | hw | hg)
      · exact .inr (.inl ⟨x, w, hw, hbg⟩)
      · exact .inl hp
      · obtain ⟨x, w, hw, -, hbg⟩ := hpruned.windowUses_iff.mp hw
        exact .inr (.inl ⟨x, w, hw, hbg⟩)
      · exact .inr (.inr hg)
  · rw [hfreed, Uses, hpixmaps, hgcs]
    constructor
    · rintro ⟨hbg, hw, hp⟩
      refine ⟨((hbgs h).mp ⟨hbg, hw⟩).1, ?_⟩
      rintro (hp' | hw' | hg)
      · exact hp hp'
      · exact hw hw'
      · exact (hgoes hbg hw hp).2 hg
    · rintro ⟨hlost, hnone⟩
      have hw : ¬ t'.WindowUses h := fun hw => hnone (.inr (.inl hw))
      exact ⟨((hbgs h).mpr ⟨hlost, hw⟩).1, hw, fun hp => hnone (.inl hp)⟩

theorem Frees.destroyWindow (hdistinct : t.PixmapsDistinct) (hwf : t.TreeWellFormed)
    (hpresent : t.windows[root]? ≠ none)
    (hdestroys : root ≠ ROOT_WINDOW → DestroysBackgrounds t root) :
    Frees t (t.destroyWindow root).1
      ((t.collectBgPixmapHostXids t.windows.size root).filter fun xid =>
        !(t.destroyWindow root).1.hostXidReferencedByWindowBg xid &&
          !(t.destroyWindow root).1.hostXidOwnedByPixmap xid) := by
  obtain ⟨hpruned, hswept, -⟩ := destroyWindow_destroys t root
  have hmem (x : ResourceId) : x ∈ (t.destroyWindow root).2 ↔
      root ≠ ROOT_WINDOW ∧ t.links.Below root x := by
    rw [hswept.mem_iff_below hwf]
    constructor
    · rintro ⟨s, hs, hd, hbelow⟩
      obtain rfl := List.mem_singleton.mp hs
      exact ⟨hd.1, hbelow⟩
    · rintro ⟨hne, hbelow⟩
      exact ⟨root, List.mem_singleton_self _, ⟨hne, hpresent⟩, hbelow⟩
  obtain ⟨n, hn⟩ := hwf.rooted (present_iff.mpr hpresent)
  have hbgs (h : Handle) : h ∈ t.collectBgPixmapHostXids t.windows.size root ↔ _ :=
    hwf.mem_collectBgPixmapHostXids hn (Nat.le_add_left _ _)
  have houtside (h : Handle) : (t.destroyWindow root).1.WindowUses h ↔ _ := hpruned.windowUses_iff
  by_cases hroot : root = ROOT_WINDOW
  · -- the root stays, and everything below it
    have hkept {x : ResourceId} : x ∉ (t.destroyWindow root).2 := fun hx => ((hmem x).mp hx).1 hroot
    have hused (h : Handle) (hbg : h ∈ t.collectBgPixmapHostXids t.windows.size root) :
        (t.destroyWindow root).1.WindowUses h := by
      obtain ⟨x, w, hw, -, hbg⟩ := (hbgs h).mp hbg
      exact (houtside h).mpr ⟨x, w, hw, hkept, hbg⟩
    refine .prune hdistinct hpruned (fun h => ?_) fun h hbg => .inr (.inl (hused h hbg))
    refine and_congr_left fun hw => iff_of_false (fun hbg => hw (hused h hbg)) ?_
    rintro ⟨x, w, -, hx, -⟩
    exact hkept hx
  · refine .prune hdistinct hpruned (fun h => and_congr_left fun _ => ?_) fun h hbg => ?_
    · rw [hbgs]
      refine exists_congr fun x => exists_congr fun w => and_congr_right fun _ => ?_
      rw [hmem, and_iff_right hroot]
    · refine (hdestroys hroot h hbg).imp_right (Or.imp_left ?_)
      rintro ⟨x, w, hw, hx, hbg⟩
      exact (houtside h).mpr ⟨x, w, hw, fun hdestroyed => hx ((hmem x).mp hdestroyed).2, hbg⟩

end

/-! ## Disconnects -/

theorem mem_freedPixmaps {c : ClientId} : h ∈ t.freedPixmaps c ↔
    ResourceMap.Has t.pixmaps (fun p => p.owner = c ∧ p.hostXid = some h) := by
  rw [freedPixmaps, List.mem_filterMap]
  constructor
  · rintro ⟨⟨a, p⟩, hmem, hxid⟩
    rw [ite_eq_iff] at hxid
    rcases hxid with ⟨howner, hxid⟩ | ⟨-, hnone⟩
    · exact ⟨a, p, Std.ExtTreeMap.mem_toList_iff_getElem?_eq_some.mp hmem, howner, hxid⟩
    · cases hnone
  · rintro ⟨a, p, hp, howner, hxid⟩
    exact ⟨(a, p), Std.ExtTreeMap.mem_toList_iff_getElem?_eq_some.mpr hp,
      (if_pos howner).trans hxid⟩

theorem PixmapsDistinct.nodup_freedPixmaps (hdistinct : t.PixmapsDistinct) (c : ClientId) :
    (t.freedPixmaps c).Nodup := by
  refine List.pairwise_filterMap.mpr ?_
  refine List.Pairwise.imp_of_mem ?_ (Std.ExtTreeMap.distinct_keys_toList (t := t.pixmaps))
  rintro ⟨a, p⟩ ⟨b, q⟩ ha hb hkeys h hpxid _ hqxid rfl
  have hp := Std.ExtTreeMap.mem_toList_iff_getElem?_eq_some.mp ha
  have hq := Std.ExtTreeMap.mem_toList_iff_getElem?_eq_some.mp hb
  have hpxid : (if p.owner = c then p.hostXid else none) = some h := hpxid
  have hqxid : (if q.owner = c then q.hostXid else none) = some h := hqxid
  rw [ite_eq_iff] at hpxid hqxid
  rcases hpxid with ⟨-, hpxid⟩ | ⟨-, hnone⟩
  · rcases hqxid with ⟨-, hqxid⟩ | ⟨-, hnone⟩
    · refine hdistinct a p hp h hpxid ⟨b, q, ?_, hq, hqxid⟩
      rintro rfl
      exact hkeys Std.ReflCmp.compare_self
    · cases hnone
  · cases hnone

end ResourceTable

namespace ServerState

open ResourceTable PixmapEvent

variable {s : ServerState} {c : ClientId} {record : ClientState} {choices : DisconnectChoices}

theorem processDisconnect_resources (hrec : s.clients[c]? = some record) :
    (s.processDisconnect choices c).resources =
      if s.retainsResources c = true then (s.resources.destroyOwnedWindows choices.roots).1
      else (s.resources.destroyOwnedWindows choices.roots).1.removeNonWindowResourcesOwnedBy c := by
  rw [processDisconnect, hrec]
  dsimp only
  rw [dropSelectionsOwnedByWindows, releaseDeviceGrabs_others]
  simp only [dropGrabs, retainUnrelated, dropWindowSubscriptions]
  rw [xfixesSelectionClientClose_others, removeClient, retainsResources]
  dsimp only
  split
  · rfl
  · rfl

/-- The pixmaps and graphics contexts that are left after a disconnect. -/
theorem processDisconnect_tables (hrec : s.clients[c]? = some record) (h : ServerInvariant s)
    (hallowed : choices.Allowed s c) :
    (∀ q : Pixmap → Prop, ResourceMap.Has (s.processDisconnect choices c).resources.pixmaps q ↔
      ResourceMap.Has s.resources.pixmaps fun p =>
        (s.retainsResources c = true ∨ p.owner ≠ c) ∧ q p) ∧
    ∀ q : Gc → Prop, ResourceMap.Has (s.processDisconnect choices c).resources.gcs q ↔
      ResourceMap.Has s.resources.gcs fun g =>
        (s.retainsResources c = true ∨ g.owner ≠ c) ∧ q g := by
  have hclosed := h.tree.closesDown (h.root_not_owned hrec) hallowed.roots
  rw [processDisconnect_resources hrec, hclosed.others]
  split
  · next hretains =>
    simp only [hretains, true_or, true_and, implies_true, and_self]
  · next hretains =>
    simp only [hretains, Bool.false_eq_true, false_or]
    refine ⟨fun q => ?_, fun q => ?_⟩
    · refine (ResourceMap.has_filter fun p : Pixmap => p.owner ≠ c).trans ?_
      simp only [decide_eq_true_eq]
    · refine (ResourceMap.has_filter fun g : Gc => g.owner ≠ c).trans ?_
      simp only [decide_eq_true_eq]

/-- What is in use after a disconnect is what something that outlasts the client
uses. -/
theorem uses_processDisconnect (hrec : s.clients[c]? = some record) (h : ServerInvariant s)
    (hallowed : choices.Allowed s c) (x : Handle) :
    (s.processDisconnect choices c).resources.Uses x ↔ OutlastedUse s c x := by
  have hclosed := h.tree.closesDown (h.root_not_owned hrec) hallowed.roots
  have hpruned : Pruned s.resources (s.resources.destroyOwnedWindows choices.roots).1
      (s.resources.destroyOwnedWindows choices.roots).2 := ⟨hclosed.others, hclosed.get⟩
  have hwindows : (s.processDisconnect choices c).resources.WindowUses x ↔
      ∃ id w, s.resources.windows[id]? = some w ∧ ¬ s.resources.Dying c id ∧
        w.backgroundPixmapHostXid = some x := by
    rw [WindowUses, processDisconnect_windows hrec, ← WindowUses, hpruned.windowUses_iff]
    simp only [hclosed.mem_iff]
  obtain ⟨hpixmaps, hgcs⟩ := processDisconnect_tables hrec h hallowed
  exact or_congr (hpixmaps _) (or_congr hwindows (hgcs _))

theorem frees_disconnect (hrec : s.clients[c]? = some record) (h : ServerInvariant s)
    (hdistinct : s.resources.PixmapsDistinct) (hallowed : choices.Allowed s c)
    (hsplits : SplitsUses s c) :
    Frees s.resources (s.processDisconnect choices c).resources
      (if s.clients.contains c && !s.retainsResources c then s.resources.freedPixmaps c
        else []) := by
  have huses := uses_processDisconnect hrec h hallowed
  have hcontains : s.clients.contains c = true := by
    rw [Std.ExtTreeMap.contains_eq_isSome_getElem?, hrec]
    rfl
  have hfreed (x : Handle) : x ∈ (if s.clients.contains c && !s.retainsResources c then
      s.resources.freedPixmaps c else []) ↔ s.retainsResources c = false ∧
      ResourceMap.Has s.resources.pixmaps (fun p => p.owner = c ∧ p.hostXid = some x) := by
    rw [← mem_freedPixmaps]
    simp only [hcontains, Bool.true_and, Bool.not_eq_true']
    split
    · next hretains => exact (and_iff_right hretains).symm
    · next hretains => exact iff_of_false List.not_mem_nil fun hmem => hretains hmem.1
  have houtlasts {x : Handle} (hx : OutlastedUse s c x) : s.resources.Uses x := by
    rcases hx with ⟨a, p, hp, -, hxid⟩ | ⟨a, w, hw, -, hbg⟩ | ⟨a, g, hg, -, huse⟩
    · exact .inl ⟨a, p, hp, hxid⟩
    · exact .inr (.inl ⟨a, w, hw, hbg⟩)
    · exact .inr (.inr ⟨a, g, hg, huse⟩)
  refine .of_lost (fun x => s.resources.Uses x ∧ ¬ OutlastedUse s c x) ?_ ?_
    (fun x => ?_) fun x => ?_
  · refine hdistinct.mono fun a p hp => ?_
    have hclosed := h.tree.closesDown (h.root_not_owned hrec) hallowed.roots
    rw [processDisconnect_resources hrec, hclosed.others] at hp
    split at hp
    · exact hp
    · have hfilter : (s.resources.pixmaps.filter fun _ p => p.owner ≠ c)[a]? = some p := hp
      rw [Std.ExtTreeMap.getElem?_filter', Option.filter_eq_some_iff] at hfilter
      exact hfilter.1
  · split
    · exact hdistinct.nodup_freedPixmaps c
    · exact List.nodup_nil
  · rw [huses]
    constructor
    · intro hx
      by_cases hout : OutlastedUse s c x
      · exact .inr hout
      · exact .inl ⟨hx, hout⟩
    · rintro (hx | hx)
      · exact hx.1
      · exact houtlasts hx
  · rw [hfreed, huses, and_assoc, and_self]
    constructor
    · rintro ⟨hretains, a, p, hp, howner, hxid⟩
      have hx : s.resources.Uses x := .inl ⟨a, p, hp, hxid⟩
      exact ⟨hx, (hsplits x hx).mp ⟨hretains, a, p, hp, howner, hxid⟩⟩
    · rintro ⟨hx, hout⟩
      exact (hsplits x hx).mpr hout

end ServerState

/-! ## One step -/

section

variable {s s' : ServerState} {c : ClientId} {e : PixmapEvent}
  {run : ServerState × List (Call Handle)} {freed : List Handle}

open ResourceTable PixmapEvent

theorem ServerInvariant.of_windows (h : ServerInvariant s)
    (hwindows : s'.resources.windows = s.resources.windows)
    (hclients : s'.clients[SERVER_OWNER]? = none) : ServerInvariant s' where
  tree := h.tree.of_links (links_congr hwindows)
  rootOwner := by
    rw [windowOwner, hwindows]
    exact h.rootOwner
  clients := hclients

/-- The record of one window changes, but neither its place nor its owner. -/
theorem ServerInvariant.modifyWindow (h : ServerInvariant s) {id : ResourceId}
    {change : Window → Window} (hresources : s'.resources = s.resources.modifyWindow id change)
    (hclients : s'.clients[SERVER_OWNER]? = none)
    (hparent : ∀ w, (change w).parent = w.parent)
    (hchildren : ∀ w, (change w).children = w.children)
    (howner : ∀ w, (change w).owner = w.owner) : ServerInvariant s' where
  tree := by
    rw [hresources]
    exact h.tree.modifyWindow hparent fun w _ => hchildren w ▸ .refl _
  rootOwner := by
    rw [hresources, windowOwner_modifyWindow howner]
    exact h.rootOwner
  clients := hclients

theorem clients_modify {clients : Std.ExtTreeMap ClientId ClientState}
    {f : ClientState → ClientState} (hnone : clients[SERVER_OWNER]? = none) :
    (clients.modify c f)[SERVER_OWNER]? = none := by
  rw [ResourceMap.get_modify, hnone, Option.map_none, ite_self]

theorem PixmapInvariant.of_frees (h : PixmapInvariant run) (hserver : ServerInvariant s')
    (hfrees : Frees run.1.resources s'.resources freed) :
    PixmapInvariant (s', run.2 ++ freed.map .free) where
  server := hserver
  distinct := hfrees.distinct
  exact := h.exact.freeAll hfrees.nodup hfrees.used hfrees.uses

/-- A step that leaves the pixmaps and their uses alone. -/
theorem PixmapInvariant.same (h : PixmapInvariant run) (hserver : ServerInvariant s')
    (hfrees : Frees run.1.resources s'.resources []) : PixmapInvariant (s', run.2 ++ []) :=
  h.of_frees hserver hfrees

theorem PixmapInvariant.refl (h : PixmapInvariant run) : PixmapInvariant (run.1, run.2 ++ []) :=
  h.same h.server (.nothing h.distinct fun _ => .rfl)

theorem create_cases (s : ServerState) (c : ClientId) (request : CreateRequest) :
    (∃ refusal, s.create c request = (s, some refusal)) ∨
      request.refusal s c = none ∧ s.create c request = (request.insert s c, none) := by
  unfold ServerState.create
  split
  · next refusal _ => exact .inl ⟨refusal, rfl⟩
  · next h => exact .inr ⟨h, rfl⟩

theorem insertWindow_resources (s : ServerState) (c : ClientId) (request : CreateWindowRequest)
    (hostXid : Option Handle) :
    (s.insertWindow c request hostXid).resources = s.resources.createWindow c request ∨
      ∃ host, (s.insertWindow c request hostXid).resources =
        (s.resources.createWindow c request).modifyWindow request.window fun w =>
          { w with hostXid := some host } := by
  unfold ServerState.insertWindow
  dsimp only
  split
  · next host =>
    split
    · exact .inr ⟨host, rfl⟩
    · exact .inl rfl
  · exact .inl rfl

theorem PixmapInvariant.createWindow (h : PixmapInvariant run) {request : CreateWindowRequest}
    {hostXid : Option Handle} :
    PixmapInvariant ((run.1.createWindow c request hostXid).state,
      run.2 ++ (run.1.createWindow c request hostXid).calls) := by
  unfold ServerState.createWindow
  rcases create_cases run.1 c (.CreateWindow request hostXid) with ⟨refusal, heq⟩ | ⟨hok, heq⟩
  · rw [heq]
    exact h.refl
  · rw [heq]
    obtain ⟨howned, hfree⟩ := CreateRequest.passes_createWindow hok nofun
    have hnew : run.1.resources.windows[request.window]? = none :=
      Option.map_eq_none_iff.mp (hfree .Window (by decide))
    have hparent : run.1.resources.windows[request.parent]? ≠ none := by
      intro hnone
      rw [CreateRequest.refusal, ServerState.createWindowRefusal, hnone] at hok
      cases hok
    have hclient : run.1.clients[c]? ≠ none := by
      intro hnone
      rw [ServerState.ownsId, hnone] at howned
      cases howned
    have hcreated := Frees.createWindow c h.distinct hnew hparent
    have hadmitted : ServerOp.Admitted run.1 (.tree c (.createWindow c request)) := by
      refine ⟨hclient, rfl, ⟨hnew, hparent⟩, fun hop => ?_⟩
      cases hop
    have hserver : ServerInvariant { run.1 with
        resources := run.1.resources.createWindow c request } := h.server.step hadmitted rfl
    have hclients : (run.1.insertWindow c request hostXid).clients[SERVER_OWNER]? = none := by
      unfold ServerState.insertWindow
      dsimp only
      split
      · exact clients_modify h.server.clients
      · exact h.server.clients
    rcases insertWindow_resources run.1 c request hostXid with hresources | ⟨host, hresources⟩
    · refine h.same (hserver.of_windows (congrArg (·.windows) hresources) hclients) ?_
      exact hcreated.of_uses (congrArg (·.pixmaps) hresources) fun x => by rw [← hresources]; rfl
    · refine h.same (hserver.modifyWindow hresources hclients (fun _ => rfl) (fun _ => rfl)
        fun _ => rfl) ?_
      refine hcreated.of_uses (congrArg (·.pixmaps) hresources) fun x => ?_
      have hwindows : ((run.1.resources.createWindow c request).modifyWindow request.window
          fun w => { w with hostXid := some host }).WindowUses x ↔ _ :=
        windowUses_modifyWindow fun _ => rfl
      have huses := or_congr_right (a := (run.1.resources.createWindow c request).PixmapUses x)
        (or_congr_left (c := (run.1.resources.createWindow c request).GcUses x) hwindows)
      refine Iff.trans (iff_of_eq ?_) huses
      exact congrArg (·.Uses x) hresources

theorem PixmapInvariant.createGc (h : PixmapInvariant run) {request : CreateGcRequest} :
    PixmapInvariant ((run.1.createGc c request).state,
      run.2 ++ (run.1.createGc c request).calls) := by
  unfold ServerState.createGc
  rcases create_cases run.1 c (.CreateGC request) with ⟨refusal, heq⟩ | ⟨hok, heq⟩
  · rw [heq]
    exact h.refl
  · rw [heq]
    have hunused := (CreateRequest.passes_exists
      (CreateRequest.validationFailed_of_refusal hok) nofun).2 .Gc (by decide)
    refine h.same (h.server.of_windows rfl h.server.clients) ?_
    exact .createGc h.distinct (Option.map_eq_none_iff.mp hunused)

theorem PixmapInvariant.createPixmap (h : PixmapInvariant run) {request : CreatePixmapRequest}
    {hostXid : Option Handle} (hfresh : ∀ x ∈ hostXid, ¬ Live run.2 x) :
    PixmapInvariant ((run.1.createPixmap c request hostXid).state,
      run.2 ++ (run.1.createPixmap c request hostXid).calls) := by
  unfold ServerState.createPixmap
  rcases create_cases run.1 c (.CreatePixmap request hostXid) with ⟨refusal, heq⟩ | ⟨hok, heq⟩
  · rw [heq]
    exact h.refl
  · rw [heq]
    have hunused := (CreateRequest.passes_createPixmap hok nofun).2 .Pixmap (by decide)
    obtain ⟨hdistinct, huses⟩ := uses_createPixmap c h.distinct
      (Option.map_eq_none_iff.mp hunused) fun x hx hused => hfresh x hx ((h.exact.live x).mpr hused)
    refine ⟨h.server.of_windows rfl h.server.clients, hdistinct, ?_⟩
    cases hostXid with
    | none =>
      rw [Option.toList_none, List.map_nil, List.append_nil]
      exact h.exact.congr fun x => (huses x).trans (or_iff_right nofun)
    | some host =>
      refine h.exact.create fun x => (huses x).trans (or_congr_left ?_)
      rw [Option.some.injEq, eq_comm]

/-- A request for a graphics context that the client may make or not. -/
theorem PixmapInvariant.gcRequest (h : PixmapInvariant run) {refusal : Option Refusal}
    {resources : ResourceTable} (hwindows : resources.windows = run.1.resources.windows)
    (hfrees : Frees run.1.resources resources []) :
    PixmapInvariant
      ((match refusal with
        | some refusal => (⟨run.1, [], some refusal⟩ : PixmapOutcome)
        | none => ⟨{ run.1 with resources := resources }, [], none⟩).state,
      run.2 ++ (match refusal with
        | some refusal => (⟨run.1, [], some refusal⟩ : PixmapOutcome)
        | none => ⟨{ run.1 with resources := resources }, [], none⟩).calls) := by
  cases refusal with
  | some refusal => exact h.refl
  | none => exact h.same (h.server.of_windows hwindows h.server.clients) hfrees

theorem PixmapInvariant.changeWindowAttributes (h : PixmapInvariant run)
    {request : ChangeWindowAttributesRequest}
    (hsound : run.1.changeWindowAttributesRefusal request = none →
      ReplacesBackground run.1.resources request) :
    PixmapInvariant ((run.1.changeWindowAttributes c request).state,
      run.2 ++ (run.1.changeWindowAttributes c request).calls) := by
  unfold ServerState.changeWindowAttributes
  split
  · exact h.refl
  · next hok =>
    have hselect : (request.eventMask.elim run.1
        (run.1.selectEvents c request.window)).resources = run.1.resources ∧
        (request.eventMask.elim run.1
          (run.1.selectEvents c request.window)).clients[SERVER_OWNER]? = none := by
      cases request.eventMask with
      | none => exact ⟨rfl, h.server.clients⟩
      | some mask => exact ⟨rfl, clients_modify h.server.clients⟩
    dsimp only
    rw [hselect.1]
    refine h.of_frees (h.server.modifyWindow rfl hselect.2 (fun _ => rfl) (fun _ => rfl)
      fun _ => rfl) ?_
    exact .changeWindowAttributes h.distinct (hsound hok)

theorem PixmapInvariant.destroyWindow (h : PixmapInvariant run) {window : ResourceId}
    (hsound : window ≠ ROOT_WINDOW → DestroysBackgrounds run.1.resources window) :
    PixmapInvariant ((run.1.destroyWindow window).state,
      run.2 ++ (run.1.destroyWindow window).calls) := by
  unfold ServerState.destroyWindow
  split
  · next hcontains =>
    have hpresent : run.1.resources.windows[window]? ≠ none := by
      rw [Std.ExtTreeMap.contains_eq_isSome_getElem?, Option.isSome_iff_ne_none] at hcontains
      exact hcontains
    refine h.of_frees ⟨h.server.tree.destroyWindow window, ?_, ?_⟩
      (.destroyWindow h.distinct h.server.tree hpresent hsound)
    · have hdestroyed : TreeOp.apply run.1.resources (.destroyWindow window) =
        some (run.1.resources.destroyWindow window).1 := rfl
      refine TreeOp.rootOwner ?_ h.server.rootOwner hdestroyed
      trivial
    · have hclients : (run.1.clients.map fun _ client => { client with
          eventMasks := (run.1.resources.collectDestroyOrder run.1.resources.windows.size
            window).foldl (·.erase ·) client.eventMasks })[SERVER_OWNER]? = none := by
        rw [Std.ExtTreeMap.getElem?_map, h.server.clients, Option.map_none]
      exact hclients
  · exact h.refl

theorem PixmapInvariant.disconnect (h : PixmapInvariant run) {choices : DisconnectChoices}
    (hallowed : choices.Allowed run.1 c) (hsound : run.1.clients[c]? ≠ none → SplitsUses run.1 c) :
    PixmapInvariant ((run.1.disconnect c choices).state,
      run.2 ++ (run.1.disconnect c choices).calls) := by
  cases hrec : run.1.clients[c]? with
  | none =>
    have hcontains : run.1.clients.contains c = false := by
      rw [Std.ExtTreeMap.contains_eq_isSome_getElem?, hrec]
      rfl
    unfold ServerState.disconnect
    rw [ServerState.processDisconnect, hrec]
    simp only [hcontains, Bool.false_and, Bool.false_eq_true, if_false, List.map_nil]
    exact h.refl
  | some record =>
    refine h.of_frees (h.server.disconnect hallowed) ?_
    exact ServerState.frees_disconnect hrec h.server h.distinct hallowed
      (hsound (hrec ▸ Option.some_ne_none _))

/-- A sound step keeps the lifetimes exact. -/
theorem PixmapInvariant.step (h : PixmapInvariant run) (hadmitted : e.Admitted run)
    (hsound : e.Sound run.1) :
    PixmapInvariant ((e.step run.1).state, run.2 ++ (e.step run.1).calls) := by
  cases e with
  | connect client =>
    cases hconnect : run.1.connectClient client with
    | none =>
      rw [PixmapEvent.step, hconnect]
      exact h.refl
    | some next =>
      rw [PixmapEvent.step, hconnect]
      refine h.same (h.server.connect hadmitted.1 hconnect) ?_
      unfold ServerState.connectClient at hconnect
      split at hconnect
      · obtain rfl := Option.some.inj hconnect
        exact .nothing h.distinct fun _ => .rfl
      · cases hconnect
  | createWindow client request hostXid => exact h.createWindow
  | createPixmap client request hostXid => exact h.createPixmap hadmitted
  | freePixmap pixmap =>
    exact h.of_frees (h.server.of_windows rfl h.server.clients) (.freePixmap h.distinct pixmap)
  | createGc client request => exact h.createGc
  | changeGc request => exact h.gcRequest rfl (.changeGc h.distinct hsound)
  | copyGc src dst valueMask =>
    have hwindows : (run.1.resources.copyGc src dst valueMask).windows =
        run.1.resources.windows := by
      unfold ResourceTable.copyGc
      split
      · rfl
      · rfl
    exact h.same (h.server.of_windows hwindows h.server.clients) (.copyGc h.distinct hsound)
  | setClipRectangles gc clip => exact h.gcRequest rfl (.setClipRectangles h.distinct hsound)
  | freeGc gc => exact h.same (h.server.of_windows rfl h.server.clients) (.freeGc h.distinct hsound)
  | changeWindowAttributes client request => exact h.changeWindowAttributes hsound
  | destroyWindow window => exact h.destroyWindow hsound
  | disconnect client choices => exact h.disconnect hadmitted hsound

end

/-! ## Runs -/

/-- Every step of a run is one that can be taken, and lets go of what it
frees. -/
def SoundPixmapRun (events : List PixmapEvent) : Prop :=
  Runs.AtEach (fun before e => e.Admitted (runPixmaps before) ∧ e.Sound (runPixmaps before).1)
    events

theorem pixmapInvariant_new : PixmapInvariant (.new, []) where
  server := .new
  distinct a p hp := nomatch Std.ExtTreeMap.getElem?_empty.symm.trans hp
  exact := by
    refine .nil fun h => ?_
    rintro (⟨a, p, hp, -⟩ | ⟨a, w, hw, hbg⟩ | ⟨a, g, hg, -⟩)
    · exact nomatch Std.ExtTreeMap.getElem?_empty.symm.trans hp
    · have hroot : (ServerState.new.resources.windows[a]?) = some w := hw
      rw [ServerState.new, ResourceTable.get_modifyWindow_map, ResourceTable.get_default] at hroot
      obtain ⟨old, hold, rfl⟩ := Option.map_eq_some_iff.mp hroot
      rw [ite_eq_iff] at hold
      rcases hold with ⟨ha, hold⟩ | ⟨-, hnone⟩
      · obtain rfl := Option.some.inj hold
        rw [if_pos ha] at hbg
        cases hbg
      · cases hnone
    · exact nomatch Std.ExtTreeMap.getElem?_empty.symm.trans hg

theorem pixmapInvariant_run {events : List PixmapEvent} (hsound : SoundPixmapRun events) :
    PixmapInvariant (runPixmaps events) := by
  refine Runs.run_induction (motive := fun events => PixmapInvariant (runPixmaps events))
    pixmapInvariant_new (fun before e h he => ?_) hsound
  rw [runPixmaps_concat]
  exact h.step he.1 he.2

/-- In every state that a run reaches whose steps let go of what they free, the
host pixmaps that live are those in use, and each has been freed at most
once. -/
theorem hostPixmaps_exact {events : List PixmapEvent} (hsound : SoundPixmapRun events) :
    Exact (runPixmaps events).1.resources.Uses (runPixmaps events).2 :=
  (pixmapInvariant_run hsound).exact

/-! ## A background, a tile and two windows -/

/-- Client 1 makes a pixmap. -/
def tilePixmap : List PixmapEvent :=
  [.connect 1, .createPixmap 1 ⟨24, 0x100001, ROOT_WINDOW, 8, 8⟩ (some 7)]

def tiledWindow (window parent : ResourceId) : PixmapEvent :=
  .createWindow 1 { ResourceTable.childRequest window parent with
    backgroundPixmap := some 0x100001 } none

def tiledGc : PixmapEvent :=
  .createGc 1 ⟨0x100002, ROOT_WINDOW, { GcAttributes.none with tile := some 0x100001 }⟩

def clearBackground (window : ResourceId) : PixmapEvent :=
  .changeWindowAttributes 1
    { ChangeWindowAttributesRequest.none window with backgroundPixmap := some 0 }

theorem hostPixmaps_exact_background :
    Exact (runPixmaps (tilePixmap ++ [tiledWindow 0x100003 ROOT_WINDOW, .freePixmap 0x100001,
      clearBackground 0x100003])).1.resources.Uses [.create 7, .free 7] := by
  have hsound : SoundPixmapRun (tilePixmap ++ [tiledWindow 0x100003 ROOT_WINDOW,
      .freePixmap 0x100001, clearBackground 0x100003]) := by
    refine Runs.AtEach.cons_iff.mpr ⟨⟨⟨by decide, by decide⟩, trivial⟩, ?_⟩
    refine Runs.AtEach.cons_iff.mpr ⟨⟨fun h _ => Runs.Since.not_nil, trivial⟩, ?_⟩
    refine Runs.AtEach.cons_iff.mpr ⟨⟨trivial, trivial⟩, ?_⟩
    refine Runs.AtEach.cons_iff.mpr ⟨⟨trivial, trivial⟩, ?_⟩
    refine Runs.AtEach.cons_iff.mpr ⟨⟨trivial, fun _ h _ hgc => ?_⟩, .nil⟩
    obtain ⟨a, g, hg, -⟩ := hgc
    exact nomatch Std.ExtTreeMap.getElem?_empty.symm.trans hg
  exact hostPixmaps_exact hsound

/-- A tile is lost with its graphics context; a background is freed while it is
also a tile; and a background of two windows is freed twice. -/
theorem hostPixmaps_lost :
    (¬ let run := runPixmaps (tilePixmap ++ [tiledGc, .freePixmap 0x100001, .freeGc 0x100002])
      Exact run.1.resources.Uses run.2) ∧
    (¬ let run := runPixmaps (tilePixmap ++ [tiledGc, tiledWindow 0x100003 ROOT_WINDOW,
        .freePixmap 0x100001, clearBackground 0x100003])
      Exact run.1.resources.Uses run.2) ∧
    ¬ let run := runPixmaps (tilePixmap ++ [tiledWindow 0x100003 ROOT_WINDOW,
        tiledWindow 0x100004 0x100003, .freePixmap 0x100001, .destroyWindow 0x100003])
      Exact run.1.resources.Uses run.2 := by
  refine ⟨fun h => ?_, fun h => ?_, fun h => ?_⟩
  · exact absurd ((h.live 7).mp (by decide)) (by decide)
  · exact absurd ((h.live 7).mpr (by decide)) (by decide)
  · exact absurd (h.once [.create 7, .free 7] (.free 7) [] (by decide) 7 rfl) (by decide)

end X12
