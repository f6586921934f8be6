import X12.Core.Damage
import X12.Verify.WindowTree
import Mathlib.Algebra.BigOperators.Group.List.Basic
import Mathlib.Algebra.Group.Prod
import Mathlib.Algebra.Ring.Int.Defs
import Mathlib.Algebra.Ring.Nat

/-! # Absolute positions

The walk to the root adds up the offsets of at most 256 windows. The tree has no
such limit, so the position of a deeper window lacks the offsets above. -/

namespace X12

open Forest

namespace ResourceTable

def offsetOf (t : ResourceTable) (window : ResourceId) : Int × Int :=
  t.windows[window]?.elim (0, 0) fun w => (w.x.toInt, w.y.toInt)

def offsetSum (t : ResourceTable) (path : List ResourceId) : Int × Int :=
  (path.map t.offsetOf).sum

variable {t t' : ResourceTable} {w p : ResourceId} {path l l' : List ResourceId}

@[simp]
theorem offsetSum_nil : t.offsetSum [] = 0 := rfl

@[simp]
theorem offsetSum_cons : t.offsetSum (w :: l) = t.offsetOf w + t.offsetSum l := by
  rw [offsetSum, List.map_cons, List.sum_cons, offsetSum]

theorem offsetSum_append : t.offsetSum (l ++ l') = t.offsetSum l + t.offsetSum l' := by
  rw [offsetSum, List.map_append, List.sum_append, offsetSum, offsetSum]

theorem offsetSum_take_add_drop (n : Nat) :
    t.offsetSum (l.take n) + t.offsetSum (l.drop n) = t.offsetSum l := by
  rw [← offsetSum_append, List.take_append_drop]

/-! ## The walk -/

theorem absolutePositionFrom_path (h : t.TreeWellFormed)
    (hpath : t.links.PathTo ROOT_WINDOW ROOT_WINDOW w path) (rounds : Nat) (offset : Int × Int) :
    t.absolutePositionFrom rounds w offset = offset + t.offsetSum (path.take rounds) := by
  induction hpath generalizing rounds offset with
  | top => cases rounds <;> simp [absolutePositionFrom]
  | @step a p l below parent rest ih =>
    cases rounds with
    | zero => simp [absolutePositionFrom]
    | succ rounds =>
      obtain ⟨record, hrecord, rfl⟩ := exists_of_parentOf parent
      have hoffset : t.offsetOf a = (record.x.toInt, record.y.toInt) := by rw [offsetOf, hrecord]; rfl
      rw [absolutePositionFrom, if_neg below, hrecord]
      dsimp only
      rw [if_neg (h.parent_ne below parent), ih, List.take_succ_cons, offsetSum_cons, hoffset,
        ← add_assoc]
      rfl

theorem windowAbsolutePosition_path (h : t.TreeWellFormed)
    (hpath : t.links.PathTo ROOT_WINDOW ROOT_WINDOW w path) :
    t.windowAbsolutePosition w = t.offsetSum (path.take 256) := by
  rw [windowAbsolutePosition, absolutePositionFrom_path h hpath]
  exact zero_add _

/-- The position is the sum of the offsets on the way to the root, and so that of
the parent plus one offset. -/
structure PositionExact (t : ResourceTable) (w : ResourceId) (path : List ResourceId) : Prop where
  sum : t.windowAbsolutePosition w = t.offsetSum path
  child : ∀ p, w ≠ ROOT_WINDOW → t.parentOf w = some p →
    t.windowAbsolutePosition w = t.windowAbsolutePosition p + t.offsetOf w

/-- The offsets that the walk leaves out, for a window and for its parent. -/
def OmittedCancel (t : ResourceTable) (path : List ResourceId) : Prop :=
  t.offsetSum (path.drop 256) = 0 ∧ t.offsetSum (path.drop 257) = 0

theorem sum_iff (h : t.TreeWellFormed)
    (hpath : t.links.PathTo ROOT_WINDOW ROOT_WINDOW w path) :
    t.windowAbsolutePosition w = t.offsetSum path ↔ t.offsetSum (path.drop 256) = 0 := by
  rw [windowAbsolutePosition_path h hpath, ← offsetSum_take_add_drop (l := path) 256,
    left_eq_add]

theorem child_iff_of_sum (h : t.TreeWellFormed)
    (hrest : t.links.PathTo ROOT_WINDOW ROOT_WINDOW p l)
    (hsum : t.windowAbsolutePosition w = t.offsetSum (w :: l)) :
    t.windowAbsolutePosition w = t.windowAbsolutePosition p + t.offsetOf w ↔
      t.offsetSum ((w :: l).drop 257) = 0 := by
  rw [List.drop_succ_cons, ← sum_iff h hrest, hsum, offsetSum_cons, add_comm, add_left_inj]
  exact eq_comm

theorem positionExact_iff (h : t.TreeWellFormed)
    (hpath : t.links.PathTo ROOT_WINDOW ROOT_WINDOW w path) :
    t.PositionExact w path ↔ t.OmittedCancel path := by
  have hsum := sum_iff h hpath
  cases hpath with
  | top => exact ⟨fun hexact => ⟨hsum.mp hexact.sum, rfl⟩,
      fun hcancel => ⟨hsum.mpr hcancel.1, fun _ hne => absurd rfl hne⟩⟩
  | @step _ p l below parent rest =>
    constructor
    · intro hexact
      exact ⟨hsum.mp hexact.sum,
        (child_iff_of_sum h rest hexact.sum).mp (hexact.child p below parent)⟩
    · intro hcancel
      refine ⟨hsum.mpr hcancel.1, fun q _ hq => ?_⟩
      obtain rfl : p = q := Option.some.inj (parent.symm.trans hq)
      exact (child_iff_of_sum h rest (hsum.mpr hcancel.1)).mpr hcancel.2

theorem exists_path (h : t.TreeWellFormed) (hw : t.windows[w]? ≠ none) :
    ∃ path, t.links.PathTo ROOT_WINDOW ROOT_WINDOW w path := by
  obtain ⟨n, hdepth⟩ := h.rooted (present_iff.mpr hw)
  exact hdepth.exists_pathTo

/-- In a well-formed tree the position of a window is exact if and only if the
offsets that the walk leaves out cancel, for the window and for its parent. -/
theorem windowAbsolutePosition_exact_iff (h : t.TreeWellFormed) (hw : t.windows[w]? ≠ none) :
    ∃ path, t.links.PathTo ROOT_WINDOW ROOT_WINDOW w path ∧
      (t.PositionExact w path ↔ t.OmittedCancel path) := by
  obtain ⟨path, hpath⟩ := exists_path h hw
  exact ⟨path, hpath, positionExact_iff h hpath⟩

/-! ## A tower of windows -/

def towerId : Nat → ResourceId
  | 0 => ROOT_WINDOW
  | n + 1 => 0x200000 + UInt32.ofNat n

def towerRequest (n : Nat) : CreateWindowRequest :=
  { childRequest (towerId (n + 1)) (towerId n) with x := 1 }

/-- Windows inside one another, each at (1, 0). -/
def tower : Nat → ResourceTable
  | 0 => default
  | n + 1 => (tower n).createWindow 1 (towerRequest n)

def towerPath : Nat → List ResourceId
  | 0 => []
  | n + 1 => towerId (n + 1) :: towerPath n

theorem length_towerPath (n : Nat) : (towerPath n).length = n := by
  induction n with
  | zero => rfl
  | succ n ih => rw [towerPath, List.length_cons, ih]

theorem toNat_towerId_succ {n : Nat} (hn : n < 1000) : (towerId (n + 1)).toNat = 0x200000 + n := by
  have hbase : (0x200000 : UInt32).toNat = 0x200000 := rfl
  rw [towerId, UInt32.toNat_add, UInt32.toNat_ofNat', hbase]
  omega

theorem towerId_ne {m n : Nat} (hmn : m < n) (hn : n ≤ 1000) : towerId n ≠ towerId m := by
  intro heq
  have heq := congrArg UInt32.toNat heq
  obtain ⟨n, rfl⟩ := Nat.exists_eq_succ_of_ne_zero (Nat.ne_zero_of_lt hmn)
  rw [toNat_towerId_succ (by omega)] at heq
  cases m with
  | zero => exact absurd heq (by simp [towerId, ROOT_WINDOW]; omega)
  | succ m =>
    rw [toNat_towerId_succ (by omega)] at heq
    omega

/-- What holds of a tower while its ids differ. -/
structure Tower (t : ResourceTable) (n : Nat) : Prop where
  wellFormed : t.TreeWellFormed
  present : t.windows[towerId n]? ≠ none
  path : t.links.PathTo ROOT_WINDOW ROOT_WINDOW (towerId n) (towerPath n)
  offset : ∀ a ∈ towerPath n, t.offsetOf a = (1, 0)
  unused : ∀ m, n < m → m ≤ 1000 → t.windows[towerId m]? = none

theorem Tower.succ {n : Nat} (h : Tower t n) (hn : n < 1000) :
    Tower (t.createWindow 1 (towerRequest n)) (n + 1) := by
  obtain ⟨parent, hp⟩ := Option.ne_none_iff_exists'.mp h.present
  have hnew := h.unused (n + 1) (Nat.lt_succ_self n) hn
  have hget : ∀ a, (t.createWindow 1 (towerRequest n)).windows[a]? =
      if a = towerId (n + 1) then some (t.newWindow 1 (towerRequest n))
      else if a = towerId n then some (parent.pushChild (towerId (n + 1))) else t.windows[a]? :=
    fun a => get_createWindow hp
  have hsame : ∀ a, t.windows[a]? ≠ none → a ≠ towerId (n + 1) := fun a ha heq =>
    ha (heq ▸ hnew)
  have hold : ∀ a ∈ towerPath n, a ≠ towerId (n + 1) := fun a ha =>
    hsame a (present_iff.mp (h.path.present_of_mem ha))
  exact {
    wellFormed := h.wellFormed.createWindow 1 hnew h.present
    present := by rw [hget, if_pos rfl]; exact Option.some_ne_none _
    path := by
      refine .step (towerId_ne (Nat.succ_pos n) hn) (p := towerId n) ?_ (h.path.congr fun a ha => ?_)
      · rw [links_parent, parentOf, hget, if_pos rfl]
        rfl
      · rw [links_parent, links_parent, parentOf, parentOf, hget, if_neg (hold a ha)]
        split
        · next heq => rw [heq, hp]; rfl
        · rfl
    offset := by
      intro a ha
      rcases List.mem_cons.mp ha with rfl | ha
      · rw [offsetOf, hget, if_pos rfl]
        rfl
      · rw [← h.offset a ha, offsetOf, offsetOf, hget, if_neg (hold a ha)]
        split
        · next heq => rw [heq, hp]; rfl
        · rfl
    unused := by
      intro m hm hle
      rw [hget, if_neg (towerId_ne hm hle), if_neg (towerId_ne (Nat.lt_of_succ_lt hm) hle)]
      exact h.unused m (Nat.lt_of_succ_lt hm) hle }

theorem tower_spec {n : Nat} (hn : n ≤ 1000) : Tower (tower n) n := by
  induction n with
  | zero =>
    exact {
      wellFormed := treeWellFormed_default
      present := present_iff.mp treeWellFormed_default.root_present
      path := .top
      offset := fun a ha => (nomatch ha)
      unused := fun m hm hle => by
        rw [tower, default, ResourceMap.get_insert,
          if_neg (show towerId m ≠ ROOT_WINDOW from towerId_ne hm hle)]
        simp }
  | succ n ih => exact (ih (Nat.le_of_succ_le hn)).succ hn

theorem offsetSum_of_offset (h : ∀ a ∈ l, t.offsetOf a = (1, 0)) :
    t.offsetSum l = ((l.length : Int), 0) := by
  induction l with
  | nil => rfl
  | cons a l ih =>
    rw [offsetSum_cons, h a List.mem_cons_self, ih fun b hb => h b (List.mem_cons_of_mem _ hb),
      Prod.mk_add_mk, List.length_cons, Prod.mk.injEq]
    exact ⟨by omega, rfl⟩

/-- The lowest of 257 windows is reported one pixel too far left. -/
theorem tower_short :
    (tower 257).TreeWellFormed ∧
      ∃ path, (tower 257).links.PathTo ROOT_WINDOW ROOT_WINDOW (towerId 257) path ∧
        (tower 257).windowAbsolutePosition (towerId 257) = (256, 0) ∧
        (tower 257).offsetSum path = (257, 0) ∧
        ¬ (tower 257).PositionExact (towerId 257) path := by
  have h := tower_spec (n := 257) (by decide)
  have hposition : (tower 257).windowAbsolutePosition (towerId 257) = (256, 0) := by
    rw [windowAbsolutePosition_path h.wellFormed h.path,
      offsetSum_of_offset fun a ha => h.offset a (List.mem_of_mem_take ha), List.length_take,
      length_towerPath]
    rfl
  have hsum : (tower 257).offsetSum (towerPath 257) = (257, 0) := by
    rw [offsetSum_of_offset h.offset, length_towerPath]
    rfl
  refine ⟨h.wellFormed, _, h.path, hposition, hsum, fun hexact => ?_⟩
  have := hexact.sum
  rw [hposition, hsum] at this
  exact absurd this (by decide)

theorem windowAbsolutePosition_exact_iff_tower :
    ∃ path, (tower 2).links.PathTo ROOT_WINDOW ROOT_WINDOW (towerId 2) path ∧
      ((tower 2).PositionExact (towerId 2) path ↔ (tower 2).OmittedCancel path) :=
  windowAbsolutePosition_exact_iff (tower_spec (by decide)).wellFormed
    (tower_spec (by decide)).present

end ResourceTable

end X12
