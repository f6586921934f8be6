import X12.Core.XcMisc
import X12.Lib.Gaps
import X12.Verify.Connections

/-! # GetXIDRange hands out free ids

The range that a client is given is a longest run of its ids that name nothing. -/

namespace X12

open Gaps

/-! ## The ids in use -/

theorem mem_dedup {ids : List UInt32} {id : UInt32} : id ∈ dedup ids ↔ id ∈ ids := by
  induction ids with
  | nil => rfl
  | cons first rest ih =>
    cases rest with
    | nil => rfl
    | cons next rest =>
      rw [dedup]
      split
      · next heq =>
        simp only [ih, heq, List.mem_cons, or_self_left]
      · rw [List.mem_cons, ih, ← List.mem_cons]

theorem dedup_sorted {ids : List UInt32} (h : ids.Pairwise (· ≤ ·)) :
    (dedup ids).Pairwise (· < ·) := by
  induction ids with
  | nil => exact .nil
  | cons first rest ih =>
    obtain ⟨hfirst, hrest⟩ := List.pairwise_cons.mp h
    cases rest with
    | nil => exact List.pairwise_singleton _ _
    | cons next rest =>
      rw [dedup]
      split
      · exact ih hrest
      · next hne =>
        refine List.pairwise_cons.mpr ⟨fun id hid => ?_, ih hrest⟩
        have hlt : first < next := UInt32.lt_of_le_of_ne (hfirst next List.mem_cons_self) hne
        rcases List.mem_cons.mp (mem_dedup.mp hid) with rfl | hid
        · exact hlt
        · exact UInt32.lt_of_lt_of_le hlt ((List.pairwise_cons.mp hrest).1 id hid)

namespace ServerState

variable {s : ServerState} {base mask id : UInt32}

theorem mem_keys_filter {β : Type} {m : ResourceMap β} :
    id ∈ m.keys.filter (ResourceTable.inRange base mask) ↔
      m.contains id = true ∧ ResourceTable.inRange base mask id = true := by
  rw [List.mem_filter, Std.ExtTreeMap.mem_keys, Std.ExtTreeMap.contains_iff_mem]

/-- The two lists of kinds of resources are the same. -/
theorem mem_usedXidsIn : id ∈ s.usedXidsIn base mask ↔
    ResourceTable.inRange base mask id = true ∧ s.xidOccupied id = true := by
  rw [usedXidsIn, mem_dedup, List.mem_insertionSort]
  simp only [ResourceTable.collectXidsIn, List.mem_append, mem_keys_filter, xidOccupied,
    ResourceTable.xidInUse, Bool.or_eq_true, ← or_and_right]
  exact and_comm

theorem usedXidsIn_sorted : (s.usedXidsIn base mask).Pairwise (· < ·) :=
  dedup_sorted (List.pairwise_insertionSort _ _)

end ServerState

/-! ## The scan -/

/-- The scan has passed the ids up to its cursor. -/
structure Scanned (mark : Nat → Prop) (lo hi : Nat) (g : GapScan) : Prop where
  longest : Longest mark lo g.cursor g.bestStart g.bestLen
  edge : g.cursor ≤ lo ∨ mark (g.cursor - 1)
  lo_le : lo ≤ g.cursor
  le_hi : g.cursor ≤ hi + 1

section

variable {mark : Nat → Prop} {lo hi u : Nat} {g : GapScan}

theorem Scanned.consider (h : Scanned mark lo hi g) (hu : g.cursor ≤ u)
    (hfree : ∀ x, g.cursor ≤ x → x < u → ¬ mark x) :
    Longest mark lo u (g.consider u).bestStart (g.consider u).bestLen := by
  have hrun : Free mark g.cursor (u - g.cursor) := fun x hx hlt => hfree x hx (by omega)
  have hextend := h.longest.extend h.edge h.lo_le hu hrun
  rw [GapScan.consider]
  by_cases hlonger : g.bestLen < u - g.cursor
  · rw [if_pos hlonger, Nat.max_eq_right (Nat.le_of_lt hlonger)] at hextend
    rw [if_pos hlonger]
    exact hextend
  · rw [if_neg hlonger, Nat.max_eq_left (Nat.le_of_not_lt hlonger)] at hextend
    rw [if_neg hlonger]
    exact hextend

/-- The cursor goes behind a used id. -/
theorem Scanned.step (h : Scanned mark lo hi g) (hu : g.cursor ≤ u) (hhi : u ≤ hi)
    (hmax : hi < 2 ^ 32 - 1) (hfree : ∀ x, g.cursor ≤ x → x < u → ¬ mark x) (hmark : mark u) :
    Scanned mark lo hi (g.pass u) ∧ (g.pass u).cursor = u + 1 := by
  have hcursor : max g.cursor (saturatingSucc u) = u + 1 := by
    rw [saturatingSucc]
    omega
  rw [GapScan.pass, hcursor]
  refine ⟨⟨?_, .inr hmark, Nat.le_succ_of_le (Nat.le_trans h.lo_le hu), Nat.succ_le_succ hhi⟩, rfl⟩
  by_cases hgap : u > g.cursor
  · rw [if_pos hgap]
    exact (h.consider hu hfree).marked hmark
  · obtain rfl : u = g.cursor := by omega
    rw [if_neg hgap]
    exact h.longest.marked hmark

/-- The loop passes all used ids. -/
theorem Scanned.gapLoop {used : List UInt32} (h : Scanned mark lo hi g)
    (hmax : hi < 2 ^ 32 - 1) (hsorted : used.Pairwise (· < ·))
    (hused : ∀ u ∈ used, g.cursor ≤ u.toNat ∧ u.toNat ≤ hi ∧ mark u.toNat)
    (hmarked : ∀ x, g.cursor ≤ x → x ≤ hi → mark x → ∃ u ∈ used, u.toNat = x) :
    Scanned mark lo hi (gapLoop lo hi used g) ∧
      ∀ x, (X12.gapLoop lo hi used g).cursor ≤ x → x ≤ hi → ¬ mark x := by
  induction used generalizing g with
  | nil =>
    refine ⟨h, fun x hx hhi hmark => ?_⟩
    obtain ⟨u, hu, _⟩ := hmarked x hx hhi hmark
    cases hu
  | cons u used ih =>
    obtain ⟨hfirst, hrest⟩ := List.pairwise_cons.mp hsorted
    obtain ⟨hcursor, hhi, hmark⟩ := hused u List.mem_cons_self
    have hlo := h.lo_le
    have hfree (x : Nat) (hx : g.cursor ≤ x) (hlt : x < u.toNat) : ¬ mark x := by
      intro hmark'
      obtain ⟨v, hv, rfl⟩ := hmarked x hx (by omega) hmark'
      rcases List.mem_cons.mp hv with rfl | hv
      · omega
      · have := UInt32.lt_iff_toNat_lt.mp (hfirst v hv)
        omega
    obtain ⟨hnext, hafter⟩ := h.step hcursor hhi hmax hfree hmark
    rw [X12.gapLoop, if_neg (by omega), if_neg (by omega)]
    refine ih hnext hrest (fun v hv => ?_) (fun x hx hxhi hmark' => ?_)
    · have := UInt32.lt_iff_toNat_lt.mp (hfirst v hv)
      exact ⟨by omega, (hused v (List.mem_cons_of_mem _ hv)).2⟩
    · obtain ⟨v, hv, rfl⟩ := hmarked x (by omega) hxhi hmark'
      rcases List.mem_cons.mp hv with rfl | hv
      · omega
      · exact ⟨v, hv, rfl⟩

end

/-! ## The range of a client -/

theorem mod_of_aligned {n : UInt32} (h : n &&& PER_CLIENT_MASK = 0) : n.toNat % 2 ^ 20 = 0 := by
  rw [← UInt32.toNat_inj, UInt32.toNat_and] at h
  exact (Nat.and_two_pow_sub_one_eq_mod _ 20).symm.trans h

/-- The ids of a range follow each other from the base on. -/
theorem inRange_iff {base id : UInt32} (haligned : base &&& PER_CLIENT_MASK = 0) :
    ResourceTable.inRange base PER_CLIENT_MASK id = true ↔
      base.toNat ≤ id.toNat ∧ id.toNat < base.toNat + 2 ^ 20 := by
  have hbase := mod_of_aligned haligned
  have hhigh : (id &&& ~~~PER_CLIENT_MASK).toNat = id.toNat / 2 ^ 20 * 2 ^ 20 := by
    have hshift : id.toBitVec &&& ~~~PER_CLIENT_MASK.toBitVec = id.toBitVec >>> 20 <<< 20 := by
      rw [BitVec.shiftLeft_ushiftRight]
      rfl
    have := id.toNat_lt
    show (id.toBitVec &&& ~~~PER_CLIENT_MASK.toBitVec).toNat = _
    rw [hshift, BitVec.toNat_shiftLeft, BitVec.toNat_ushiftRight, Nat.shiftLeft_eq,
      Nat.shiftRight_eq_div_pow, UInt32.toNat_toBitVec]
    omega
  rw [ResourceTable.inRange, decide_eq_true_iff, ← UInt32.toNat_inj, hhigh]
  omega

theorem toNat_or_mask {base : UInt32} (haligned : base &&& PER_CLIENT_MASK = 0) :
    (base ||| PER_CLIENT_MASK).toNat = base.toNat + (2 ^ 20 - 1) := by
  have hbase := mod_of_aligned haligned
  have hsplit : base.toNat = 2 ^ 20 * (base.toNat / 2 ^ 20) := by omega
  rw [UInt32.toNat_or, hsplit]
  exact (Nat.two_pow_add_eq_or_of_lt (by decide) _).symm

namespace ServerState

/-- An id of the range that names nothing. -/
def FreeXid (s : ServerState) (base mask : UInt32) (n : Nat) : Prop :=
  ∃ id : UInt32, id.toNat = n ∧ id ≠ 0 ∧ ResourceTable.inRange base mask id = true ∧
    s.xidOccupied id = false

/-- The reply of GetXIDRange: a longest run of free ids, or that there are none. -/
structure LargestXidRange (s : ServerState) (base mask : UInt32) (range : UInt32 × UInt32) :
    Prop where
  exhausted : range = (0, 1) ↔ ∀ id, id ≠ 0 → ResourceTable.inRange base mask id = true →
    s.xidOccupied id = true
  count_pos : 1 ≤ range.2.toNat
  free : range ≠ (0, 1) → ∀ n, range.1.toNat ≤ n → n < range.1.toNat + range.2.toNat →
    s.FreeXid base mask n
  longest : ∀ start count, (∀ n, start ≤ n → n < start + count → s.FreeXid base mask n) →
    count ≤ range.2.toNat

def Occupied (s : ServerState) (n : Nat) : Prop :=
  s.xidOccupied (UInt32.ofNat n) = true

section

variable {s : ServerState} {base : UInt32} {n start len : Nat}

theorem occupied_toNat {id : UInt32} : s.Occupied id.toNat ↔ s.xidOccupied id = true := by
  rw [Occupied, UInt32.ofNat_toNat]

theorem freeXid_iff (haligned : base &&& PER_CLIENT_MASK = 0) (hfirst : 2 ^ 20 ≤ base.toNat)
    (hlast : base.toNat + 2 ^ 20 < 2 ^ 32) : s.FreeXid base PER_CLIENT_MASK n ↔
      base.toNat ≤ n ∧ n < base.toNat + 2 ^ 20 ∧ ¬ s.Occupied n := by
  constructor
  · rintro ⟨id, rfl, _, hrange, hfree⟩
    obtain ⟨hlo, hhi⟩ := (inRange_iff haligned).mp hrange
    rw [occupied_toNat, Bool.not_eq_true]
    exact ⟨hlo, hhi, hfree⟩
  · intro ⟨hlo, hhi, hfree⟩
    have htoNat : (UInt32.ofNat n).toNat = n :=
      UInt32.toNat_ofNat_of_lt' (show n < 2 ^ 32 by omega)
    refine ⟨UInt32.ofNat n, htoNat, ?_, (inRange_iff haligned).mpr ?_,
      (Bool.not_eq_true _).mp hfree⟩
    · rw [ne_eq, ← UInt32.toNat_inj, htoNat]
      exact Nat.ne_of_gt (Nat.lt_of_lt_of_le (by decide) (Nat.le_trans hfirst hlo))
    · rw [htoNat]
      exact ⟨hlo, hhi⟩

/-- The scan of a range that is aligned and ends before the last number of 32 bits. -/
theorem largestFreeXidGap_eq (haligned : base &&& PER_CLIENT_MASK = 0)
    (hfirst : 2 ^ 20 ≤ base.toNat) (hlast : base.toNat + 2 ^ 20 < 2 ^ 32) :
    ∃ start len, Longest s.Occupied base.toNat (base.toNat + 2 ^ 20) start len ∧
      largestFreeXidGap base PER_CLIENT_MASK (s.usedXidsIn base PER_CLIENT_MASK) =
        if len = 0 then (0, 1) else (UInt32.ofNat start, UInt32.ofNat len) := by
  have hlo : max base.toNat 1 = base.toNat := Nat.max_eq_left (Nat.le_trans (by decide) hfirst)
  have hstart : Scanned s.Occupied base.toNat (base.toNat + (2 ^ 20 - 1)) ⟨base.toNat, 0, 0⟩ :=
    ⟨.nil _ _, .inl (Nat.le_refl _), Nat.le_refl _, by simp only; omega⟩
  have hused : ∀ u ∈ s.usedXidsIn base PER_CLIENT_MASK, base.toNat ≤ u.toNat ∧
      u.toNat ≤ base.toNat + (2 ^ 20 - 1) ∧ s.Occupied u.toNat := by
    intro u hu
    obtain ⟨hrange, hoccupied⟩ := mem_usedXidsIn.mp hu
    obtain ⟨hle, hlt⟩ := (inRange_iff haligned).mp hrange
    exact ⟨hle, by omega, occupied_toNat.mpr hoccupied⟩
  have hmarked (n : Nat) (hle : base.toNat ≤ n) (hhi : n ≤ base.toNat + (2 ^ 20 - 1))
      (hoccupied : s.Occupied n) : ∃ u ∈ s.usedXidsIn base PER_CLIENT_MASK, u.toNat = n := by
    have htoNat : (UInt32.ofNat n).toNat = n :=
      UInt32.toNat_ofNat_of_lt' (show n < 2 ^ 32 by omega)
    refine ⟨UInt32.ofNat n, mem_usedXidsIn.mpr ⟨(inRange_iff haligned).mpr ?_, hoccupied⟩, htoNat⟩
    rw [htoNat]
    omega
  obtain ⟨hscanned, hrest⟩ := hstart.gapLoop (by omega) usedXidsIn_sorted hused hmarked
  rw [largestFreeXidGap, toNat_or_mask haligned, hlo]
  generalize gapLoop base.toNat (base.toNat + (2 ^ 20 - 1)) (s.usedXidsIn base PER_CLIENT_MASK)
    ⟨base.toNat, 0, 0⟩ = g at hscanned hrest
  have hhi := hscanned.le_hi
  have hsucc : base.toNat + (2 ^ 20 - 1) + 1 = base.toNat + 2 ^ 20 := by omega
  rw [hsucc] at hhi
  by_cases hleft : g.cursor ≤ base.toNat + (2 ^ 20 - 1)
  · have hlongest := hscanned.consider hhi fun x hx hlt => hrest x hx (by omega)
    refine ⟨_, _, hlongest, ?_⟩
    rw [if_pos hleft, hsucc]
  · have hcursor : g.cursor = base.toNat + 2 ^ 20 := by omega
    refine ⟨g.bestStart, g.bestLen, hcursor ▸ hscanned.longest, ?_⟩
    rw [if_neg hleft]

theorem largestFreeXidGap_spec (haligned : base &&& PER_CLIENT_MASK = 0)
    (hfirst : 2 ^ 20 ≤ base.toNat) (hlast : base.toNat + 2 ^ 20 < 2 ^ 32) :
    s.LargestXidRange base PER_CLIENT_MASK
      (largestFreeXidGap base PER_CLIENT_MASK (s.usedXidsIn base PER_CLIENT_MASK)) := by
  obtain ⟨start, len, hlongest, heq⟩ := largestFreeXidGap_eq (s := s) haligned hfirst hlast
  have hfree (n : Nat) := freeXid_iff (s := s) (n := n) haligned hfirst hlast
  have hall : (∀ id, id ≠ 0 → ResourceTable.inRange base PER_CLIENT_MASK id = true →
      s.xidOccupied id = true) ↔ len = 0 := by
    rw [hlongest.eq_zero_iff]
    constructor
    · intro hids n hle hlt
      by_contra hnot
      obtain ⟨id, rfl, hne, hrange, hunused⟩ := (hfree n).mpr ⟨hle, hlt, hnot⟩
      exact hnot (occupied_toNat.mpr (hids id hne hrange))
    · intro hmarked id _ hrange
      obtain ⟨hle, hlt⟩ := (inRange_iff haligned).mp hrange
      exact occupied_toNat.mp (hmarked id.toNat hle hlt)
  have hmax (start' count : Nat) (hrun : ∀ n, start' ≤ n → n < start' + count →
      s.FreeXid base PER_CLIENT_MASK n) : count ≤ len := by
    by_cases hempty : count = 0
    · omega
    · obtain ⟨hle, -⟩ := (hfree start').mp (hrun start' (Nat.le_refl _) (by omega))
      obtain ⟨-, hlt, -⟩ :=
        (hfree (start' + count - 1)).mp (hrun (start' + count - 1) (by omega) (by omega))
      exact hlongest.longest start' count hle (by omega) fun x hx hlt =>
        ((hfree x).mp (hrun x hx hlt)).2.2
  rw [heq]
  by_cases hempty : len = 0
  · rw [if_pos hempty]
    refine ⟨iff_of_true rfl (hall.mpr hempty), Nat.le_refl 1, fun hne => absurd rfl hne,
      fun start' count hrun => ?_⟩
    have := hmax start' count hrun
    omega
  · obtain ⟨hstart, hend⟩ := hlongest.inside (Nat.pos_of_ne_zero hempty)
    have hstart' : (UInt32.ofNat start).toNat = start :=
      UInt32.toNat_ofNat_of_lt' (show start < 2 ^ 32 by omega)
    have hlen' : (UInt32.ofNat len).toNat = len :=
      UInt32.toNat_ofNat_of_lt' (show len < 2 ^ 32 by omega)
    have hne : (UInt32.ofNat start, UInt32.ofNat len) ≠ (0, 1) := by
      intro heq
      have hzero := congrArg UInt32.toNat (congrArg Prod.fst heq)
      rw [hstart'] at hzero
      exact absurd (Nat.le_trans hfirst (hzero ▸ hstart)) (by decide)
    rw [if_neg hempty]
    refine ⟨iff_of_false hne (mt hall.mp hempty), ?_, fun _ n hle hlt => ?_,
      fun start' count hrun => ?_⟩
    · rw [hlen']
      exact Nat.pos_of_ne_zero hempty
    · simp only [hstart', hlen'] at hle hlt
      exact (hfree n).mpr ⟨by omega, by omega, hlongest.free n hle hlt⟩
    · rw [hlen']
      exact hmax start' count hrun

end

end ServerState

namespace Connections

variable {c : Connections} {id : ClientId} {base mask : UInt32}

/-- A client's range ends before the last number of 32 bits. -/
theorem Leased.client_range (h : c.Leased) (hrange : c.range (.client id) = some (base, mask)) :
    mask = PER_CLIENT_MASK ∧ base &&& PER_CLIENT_MASK = 0 ∧ 2 ^ 20 ≤ base.toNat ∧
      base.toNat + 2 ^ 20 < 2 ^ 32 := by
  have hissued := h.exclusive.held_issued hrange
  have hbase := mod_of_aligned hissued.aligned
  have hnext := mod_of_aligned h.counts.aligned
  have hfirst : 2 ^ 20 ≤ base.toNat := UInt32.le_iff_toNat_le.mp hissued.first
  have hbefore : base.toNat < c.server.idAllocator.nextBase.toNat :=
    UInt32.lt_iff_toNat_lt.mp hissued.before
  have := c.server.idAllocator.nextBase.toNat_lt
  refine ⟨hissued.mask, hissued.aligned, hfirst, ?_⟩
  omega

/-- The ids listed for a client are those of its range that name something, each once and in
their order. The range that it is given is a longest run of the others. -/
theorem Reachable.getXidRange_largest (h : c.Reachable)
    (hrange : c.range (.client id) = some (base, mask)) :
    (∀ xid, xid ∈ c.server.usedXidsIn base mask ↔
        ResourceTable.inRange base mask xid = true ∧ c.server.xidOccupied xid = true) ∧
      (c.server.usedXidsIn base mask).Pairwise (· < ·) ∧
      c.server.getXidRange id =
        some (largestFreeXidGap base mask (c.server.usedXidsIn base mask)) ∧
      c.server.LargestXidRange base mask
        (largestFreeXidGap base mask (c.server.usedXidsIn base mask)) := by
  have hreply : c.server.getXidRange id =
      some (largestFreeXidGap base mask (c.server.usedXidsIn base mask)) := by
    obtain ⟨client, hclient, heq⟩ := Option.map_eq_some_iff.mp hrange
    cases heq
    rw [ServerState.getXidRange, hclient]
    rfl
  obtain ⟨rfl, haligned, hfirst, hlast⟩ := h.leased.client_range hrange
  exact ⟨fun xid => ServerState.mem_usedXidsIn, ServerState.usedXidsIn_sorted, hreply,
    ServerState.largestFreeXidGap_spec haligned hfirst hlast⟩

/-- The client with a base that another one has had before makes a window, a fence and a
counter. -/
def busyConnections : Connections :=
  let s := reusedConnections.server
  reusedConnections.withServer
    { s with
      resources := s.resources.createWindow 3 (ResourceTable.childRequest 0x2f0000 ROOT_WINDOW)
      syncFences := s.syncFences.insert 0x200000 ⟨3, false⟩
      syncCounters := s.syncCounters.insert 0x200005 ⟨3, 0⟩ }

theorem getXidRange_largest_used :
    busyConnections.server.usedXidsIn 0x200000 0xfffff = [0x200000, 0x200005, 0x2f0000] ∧
      busyConnections.server.getXidRange 3 = some (0x200006, 0xefffa) ∧
      busyConnections.server.LargestXidRange 0x200000 0xfffff (0x200006, 0xefffa) := by
  have hreachable : Reachable busyConnections :=
    .step (.other _) reachable_reusedConnections ⟨rfl, fun _ => rfl, fun _ => id⟩
  have hused : busyConnections.server.usedXidsIn 0x200000 0xfffff =
      [0x200000, 0x200005, 0x2f0000] := by decide +kernel
  have hgap : largestFreeXidGap 0x200000 0xfffff [0x200000, 0x200005, 0x2f0000] =
      (0x200006, 0xefffa) := by decide +kernel
  have hrange : busyConnections.range (.client 3) = some (0x200000, 0xfffff) := by
    decide +kernel
  obtain ⟨-, -, hreply, hlargest⟩ := hreachable.getXidRange_largest hrange
  rw [hused, hgap] at hreply hlargest
  exact ⟨hused, hreply, hlargest⟩

end Connections

end X12
