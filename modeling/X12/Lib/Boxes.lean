import Mathlib.Data.List.Destutter
import Mathlib.Data.List.Sort
import Mathlib.Order.MinMax

/-! # Half-open boxes over a linear order

Finite unions of axis-parallel half-open boxes, the cutting of one box by
another into strips, and the sweep that turns any list of boxes into a
disjoint list with the same points: the distinct row edges cut the plane into
bands, and inside a band the columns of the boxes that span it are merged
from left to right. Nothing here depends on the coordinate type beyond its
linear order. -/

namespace Boxes

variable {α : Type*} [LinearOrder α]

/-! ## Spans -/

/-- A point lies in one of the half-open spans. -/
def Covered (spans : List (α × α)) (p : α) : Prop :=
  ∃ s ∈ spans, s.1 ≤ p ∧ p < s.2

theorem covered_cons {s : α × α} {l : List (α × α)} {p : α} :
    Covered (s :: l) p ↔ (s.1 ≤ p ∧ p < s.2) ∨ Covered l p := by
  simp [Covered]

/-- Merge spans, sorted by their starts, into the span being built. A span
that starts no later than the current end extends it; any other closes it. -/
def mergeFrom (current : α × α) : List (α × α) → List (α × α)
  | [] => [current]
  | span :: rest =>
    if span.1 ≤ current.2 then
      mergeFrom (current.1, max current.2 span.2) rest
    else
      current :: mergeFrom span rest

/-- Spans in order of their starts. -/
def StartSorted (spans : List (α × α)) : Prop :=
  spans.Pairwise fun s t => s.1 ≤ t.1

/-- The invariant of the merge: extending the current span by the next one
keeps the spans sorted. -/
theorem StartSorted.extend {current span : α × α} {rest : List (α × α)} {stop : α}
    (h : StartSorted (current :: span :: rest)) : StartSorted ((current.1, stop) :: rest) := by
  obtain ⟨hhead, htail⟩ := List.pairwise_cons.mp h
  refine List.pairwise_cons.mpr ⟨fun t ht => hhead t (.tail _ ht), ?_⟩
  exact (List.pairwise_cons.mp htail).2

theorem StartSorted.tail {s : α × α} {l : List (α × α)}
    (h : StartSorted (s :: l)) : StartSorted l :=
  (List.pairwise_cons.mp h).2

theorem mergeFrom_start_le {l : List (α × α)} {current s : α × α}
    (hl : StartSorted (current :: l)) (hs : s ∈ mergeFrom current l) : current.1 ≤ s.1 := by
  induction l generalizing current with
  | nil =>
    simp only [mergeFrom, List.mem_singleton] at hs
    exact hs ▸ le_rfl
  | cons t rest ih =>
    unfold mergeFrom at hs
    split at hs
    · exact @ih (current.1, max current.2 t.2) hl.extend hs
    · rcases List.mem_cons.mp hs with rfl | hs
      · exact le_rfl
      · exact ((List.pairwise_cons.mp hl).1 t (.head _)).trans (ih hl.tail hs)

theorem mergeFrom_start_mem {l : List (α × α)} {current s : α × α}
    (hs : s ∈ mergeFrom current l) : ∃ t ∈ current :: l, s.1 = t.1 := by
  induction l generalizing current with
  | nil => exact ⟨s, hs, rfl⟩
  | cons t rest ih =>
    unfold mergeFrom at hs
    split at hs
    · obtain ⟨u, hu, heq⟩ := ih hs
      rcases List.mem_cons.mp hu with rfl | hu
      · exact ⟨current, .head _, heq⟩
      · exact ⟨u, .tail _ (.tail _ hu), heq⟩
    · rcases List.mem_cons.mp hs with rfl | hs
      · exact ⟨s, .head _, rfl⟩
      · obtain ⟨u, hu, heq⟩ := ih hs
        exact ⟨u, .tail _ hu, heq⟩

theorem covered_mergeFrom {l : List (α × α)} {current : α × α} {p : α}
    (hl : StartSorted (current :: l)) :
    Covered (mergeFrom current l) p ↔ Covered (current :: l) p := by
  induction l generalizing current with
  | nil => rfl
  | cons t rest ih =>
    unfold mergeFrom
    split
    · next hle =>
      have hstart : current.1 ≤ t.1 := (List.pairwise_cons.mp hl).1 t (.head _)
      -- the merged span has exactly the points of the two it replaces
      have hjoin : (current.1 ≤ p ∧ p < max current.2 t.2) ↔
          (current.1 ≤ p ∧ p < current.2) ∨ (t.1 ≤ p ∧ p < t.2) := by
        constructor
        · rintro ⟨h1, h2⟩
          by_cases h : p < current.2
          · exact .inl ⟨h1, h⟩
          · have hp : current.2 ≤ p := not_lt.mp h
            exact .inr ⟨hle.trans hp, (lt_max_iff.mp h2).resolve_left h⟩
        · rintro (⟨h1, h2⟩ | ⟨h1, h2⟩)
          · exact ⟨h1, lt_max_of_lt_left h2⟩
          · exact ⟨hstart.trans h1, lt_max_of_lt_right h2⟩
      rw [ih hl.extend, covered_cons, covered_cons, covered_cons, hjoin, or_assoc]
    · rw [covered_cons, ih hl.tail, ← covered_cons]

/-- Merged spans are separated: each ends strictly before the next starts. -/
theorem mergeFrom_separated {l : List (α × α)} {current : α × α}
    (hl : StartSorted (current :: l)) :
    (mergeFrom current l).Pairwise fun s t => s.2 < t.1 := by
  induction l generalizing current with
  | nil => exact List.pairwise_singleton _ _
  | cons t rest ih =>
    unfold mergeFrom
    split
    · exact ih hl.extend
    · next hlt =>
      refine List.pairwise_cons.mpr ⟨fun s hs => ?_, ih hl.tail⟩
      exact (not_le.mp hlt).trans_le (mergeFrom_start_le hl.tail hs)

theorem mergeFrom_nonempty {l : List (α × α)} {current : α × α}
    (h : ∀ s ∈ current :: l, s.1 < s.2) : ∀ s ∈ mergeFrom current l, s.1 < s.2 := by
  induction l generalizing current with
  | nil => exact h
  | cons t rest ih =>
    have hcur := h current (.head _)
    have hrest : ∀ s ∈ rest, s.1 < s.2 := fun s hs => h s (.tail _ (.tail _ hs))
    unfold mergeFrom
    split
    · refine ih fun s hs => ?_
      rcases List.mem_cons.mp hs with rfl | hs
      · exact lt_max_of_lt_left hcur
      · exact hrest s hs
    · intro s hs
      rcases List.mem_cons.mp hs with rfl | hs
      · exact hcur
      · exact ih (fun u hu => h u (.tail _ hu)) s hs

/-- The order in which a band's columns are merged: by start, then by end. -/
def spanLE (s t : α × α) : Prop :=
  s.1 < t.1 ∨ (s.1 = t.1 ∧ s.2 ≤ t.2)

instance : DecidableRel (spanLE (α := α)) := fun _ _ => inferInstanceAs (Decidable (_ ∨ _))

theorem spanLE.start_le {s t : α × α} (h : spanLE s t) : s.1 ≤ t.1 :=
  h.elim le_of_lt fun h => h.1.le

instance : Std.Total (spanLE (α := α)) where
  total s t := by
    rcases lt_trichotomy s.1 t.1 with h | h | h
    · exact .inl (.inl h)
    · exact (le_total s.2 t.2).imp (fun h' => .inr ⟨h, h'⟩) fun h' => .inr ⟨h.symm, h'⟩
    · exact .inr (.inl h)

instance : IsTrans (α × α) spanLE where
  trans s t u := by
    rintro (h | ⟨h, h'⟩) (k | ⟨k, k'⟩)
    · exact .inl (h.trans k)
    · exact .inl (k ▸ h)
    · exact .inl (h ▸ k)
    · exact .inr ⟨h.trans k, h'.trans k'⟩

theorem startSorted_insertionSort (l : List (α × α)) :
    StartSorted (l.insertionSort spanLE) :=
  (List.pairwise_insertionSort spanLE l).imp spanLE.start_le

theorem covered_insertionSort {l : List (α × α)} {p : α} :
    Covered (l.insertionSort spanLE) p ↔ Covered l p := by
  simp [Covered]

/-! ## Bands -/

section Edges
omit [LinearOrder α]

/-- The consecutive pairs of a list of edges. -/
def bands (edges : List α) : List (α × α) :=
  edges.zip edges.tail

theorem bands_cons_cons (a b : α) (l : List α) :
    bands (a :: b :: l) = (a, b) :: bands (b :: l) := rfl

theorem bands_start_mem {edges : List α} {s : α × α} (h : s ∈ bands edges) : s.1 ∈ edges :=
  (List.of_mem_zip h).1

end Edges

theorem bands_nonempty {edges : List α} (hsorted : edges.Pairwise (· < ·)) :
    ∀ s ∈ bands edges, s.1 < s.2 := by
  induction edges with
  | nil => simp [bands]
  | cons a l ih =>
    cases l with
    | nil => simp [bands]
    | cons b l =>
      intro s hs
      obtain ⟨hhead, htail⟩ := List.pairwise_cons.mp hsorted
      rcases List.mem_cons.mp (bands_cons_cons a b l ▸ hs) with rfl | hs
      · exact hhead b (.head _)
      · exact ih htail s hs

/-- No edge lies strictly inside a band. -/
theorem edge_outside_band {edges : List α} (hsorted : edges.Pairwise (· < ·)) {s : α × α}
    (hs : s ∈ bands edges) {e : α} (he : e ∈ edges) : e ≤ s.1 ∨ s.2 ≤ e := by
  induction edges with
  | nil => cases he
  | cons a l ih =>
    obtain ⟨hhead, htail⟩ := List.pairwise_cons.mp hsorted
    cases l with
    | nil => simp [bands] at hs
    | cons b l =>
      rcases List.mem_cons.mp (bands_cons_cons a b l ▸ hs) with rfl | hs'
      · -- the first band: every edge but `a` is at or after `b`
        rcases List.mem_cons.mp he with rfl | he
        · exact .inl le_rfl
        · rcases List.mem_cons.mp he with rfl | he
          · exact .inr le_rfl
          · exact .inr ((List.pairwise_cons.mp htail).1 e he).le
      · rcases List.mem_cons.mp he with rfl | he
        · exact .inl (hhead s.1 (bands_start_mem hs')).le
        · exact ih htail hs' he

theorem bands_separated {edges : List α} (hsorted : edges.Pairwise (· < ·)) :
    (bands edges).Pairwise fun s t => s.2 ≤ t.1 := by
  induction edges with
  | nil => exact List.Pairwise.nil
  | cons a l ih =>
    cases l with
    | nil => exact List.Pairwise.nil
    | cons b l =>
      obtain ⟨-, htail⟩ := List.pairwise_cons.mp hsorted
      refine List.pairwise_cons.mpr ⟨fun s hs => ?_, ih htail⟩
      rcases List.mem_cons.mp (bands_start_mem hs) with h | h
      · exact h.ge
      · exact ((List.pairwise_cons.mp htail).1 _ h).le

/-- Above the first edge and below some other one lies a band. -/
theorem covered_bands_cons {a b y : α} {l : List α} (hay : a ≤ y) (hb : b ∈ l) (hyb : y < b) :
    Covered (bands (a :: l)) y := by
  induction l generalizing a with
  | nil => cases hb
  | cons d l ih =>
    rw [bands_cons_cons, covered_cons]
    by_cases hd : y < d
    · exact .inl ⟨hay, hd⟩
    · refine .inr (ih (not_lt.mp hd) ?_)
      exact (List.mem_cons.mp hb).resolve_left fun h => hd (h ▸ hyb)

/-- A value between two edges lies in one of the bands. -/
theorem covered_bands {edges : List α} (hsorted : edges.Pairwise (· < ·)) {a b y : α}
    (ha : a ∈ edges) (hb : b ∈ edges) (hay : a ≤ y) (hyb : y < b) : Covered (bands edges) y := by
  cases edges with
  | nil => cases ha
  | cons c l =>
    have hhead := (List.pairwise_cons.mp hsorted).1
    have hca : c ≤ a := by
      rcases List.mem_cons.mp ha with rfl | ha
      · exact le_rfl
      · exact (hhead a ha).le
    have hcy : c ≤ y := hca.trans hay
    exact covered_bands_cons hcy
      ((List.mem_cons.mp hb).resolve_left fun h => not_lt.mpr hcy (h ▸ hyb)) hyb

/-! ## Boxes -/

/-- The half-open box `[x₀, x₁) × [y₀, y₁)`. -/
structure Box (α : Type*) where
  x₀ : α
  x₁ : α
  y₀ : α
  y₁ : α
  deriving DecidableEq, Repr

namespace Box

instance : Membership (α × α) (Box α) where
  mem b p := (b.x₀ ≤ p.1 ∧ p.1 < b.x₁) ∧ b.y₀ ≤ p.2 ∧ p.2 < b.y₁

theorem mem_iff {b : Box α} {p : α × α} :
    p ∈ b ↔ (b.x₀ ≤ p.1 ∧ p.1 < b.x₁) ∧ b.y₀ ≤ p.2 ∧ p.2 < b.y₁ := Iff.rfl

instance (b : Box α) (p : α × α) : Decidable (p ∈ b) :=
  inferInstanceAs (Decidable (_ ∧ _))

/-- A box with at least one row and one column. -/
def Proper (b : Box α) : Prop :=
  b.x₀ < b.x₁ ∧ b.y₀ < b.y₁

instance (b : Box α) : Decidable b.Proper :=
  inferInstanceAs (Decidable (_ ∧ _))

theorem Proper.of_mem {b : Box α} {p : α × α} (h : p ∈ b) : b.Proper :=
  ⟨h.1.1.trans_lt h.1.2, h.2.1.trans_lt h.2.2⟩

theorem Proper.exists_mem {b : Box α} (h : b.Proper) : ∃ p, p ∈ b :=
  ⟨(b.x₀, b.y₀), ⟨le_rfl, h.1⟩, le_rfl, h.2⟩

/-- The common part of two boxes. -/
def inter (a b : Box α) : Box α where
  x₀ := max a.x₀ b.x₀
  x₁ := min a.x₁ b.x₁
  y₀ := max a.y₀ b.y₀
  y₁ := min a.y₁ b.y₁

theorem mem_inter {a b : Box α} {p : α × α} : p ∈ a.inter b ↔ p ∈ a ∧ p ∈ b := by
  simp only [mem_iff, inter, max_le_iff, lt_min_iff]
  tauto

/-- What is left of `a` around the box `i`: the rows above, the rows below,
and the columns left and right of it in its own rows. -/
def strips (a i : Box α) : List (Box α) :=
  (if a.y₀ < i.y₀ then [{ a with y₁ := i.y₀ }] else []) ++
  (if i.y₁ < a.y₁ then [{ a with y₀ := i.y₁ }] else []) ++
  (if a.x₀ < i.x₀ then [{ i with x₀ := a.x₀, x₁ := i.x₀ }] else []) ++
  (if i.x₁ < a.x₁ then [{ i with x₀ := i.x₁, x₁ := a.x₁ }] else [])

/-- One box inside another, edge by edge. -/
structure Within (i a : Box α) : Prop where
  left : a.x₀ ≤ i.x₀
  right : i.x₁ ≤ a.x₁
  top : a.y₀ ≤ i.y₀
  bottom : i.y₁ ≤ a.y₁

theorem inter_within (a b : Box α) : (a.inter b).Within a :=
  ⟨le_max_left _ _, min_le_left _ _, le_max_left _ _, min_le_left _ _⟩

theorem inter_within_right (a b : Box α) : (a.inter b).Within b :=
  ⟨le_max_right _ _, min_le_right _ _, le_max_right _ _, min_le_right _ _⟩

theorem Within.trans {a b c : Box α} (hab : a.Within b) (hbc : b.Within c) : a.Within c :=
  ⟨hbc.left.trans hab.left, hab.right.trans hbc.right, hbc.top.trans hab.top,
    hab.bottom.trans hbc.bottom⟩

theorem Within.inter {a b c : Box α} (hab : a.Within b) (hac : a.Within c) :
    a.Within (b.inter c) :=
  ⟨max_le hab.left hac.left, le_min hab.right hac.right, max_le hab.top hac.top,
    le_min hab.bottom hac.bottom⟩

theorem Within.inter_eq {a b : Box α} (h : a.Within b) : a.inter b = a := by
  rw [Box.inter, max_eq_left h.left, min_eq_left h.right, max_eq_left h.top, min_eq_left h.bottom]

theorem Within.proper {a b : Box α} (h : a.Within b) (ha : a.Proper) : b.Proper :=
  ⟨h.left.trans_lt (ha.1.trans_le h.right), h.top.trans_lt (ha.2.trans_le h.bottom)⟩

/-- What several boxes have in common with `a`. -/
def cutBy (boxes : List (Box α)) (a : Box α) : Box α :=
  boxes.foldr (fun b part => part.inter b) a

theorem cutBy_within (boxes : List (Box α)) (a : Box α) : (cutBy boxes a).Within a := by
  induction boxes with
  | nil => exact ⟨le_rfl, le_rfl, le_rfl, le_rfl⟩
  | cons b boxes ih => exact (inter_within _ b).trans ih

theorem cutBy_within_of_mem {boxes : List (Box α)} {a b : Box α} (hb : b ∈ boxes) :
    (cutBy boxes a).Within b := by
  induction boxes with
  | nil => exact nomatch hb
  | cons c boxes ih =>
    rcases List.mem_cons.mp hb with rfl | hb
    · exact inter_within_right _ _
    · exact (inter_within _ c).trans (ih hb)

theorem cutBy_eq_of_within {boxes : List (Box α)} {a : Box α} (h : ∀ b ∈ boxes, a.Within b) :
    cutBy boxes a = a := by
  induction boxes with
  | nil => rfl
  | cons b boxes ih =>
    rw [List.forall_mem_cons] at h
    rw [cutBy, List.foldr_cons, ← cutBy, ih h.2]
    exact h.1.inter_eq

/-- The strips hold the points of the outer box that the inner one misses. -/
theorem exists_mem_strips {a i : Box α} {p : α × α} (hi : i.Within a) (hproper : i.Proper) :
    (∃ s ∈ a.strips i, p ∈ s) ↔ p ∈ a ∧ p ∉ i := by
  obtain ⟨hl, hr, ht, hb⟩ := hi
  obtain ⟨hx, hy⟩ := hproper
  constructor
  · rintro ⟨s, hs, hp⟩
    simp only [strips, List.mem_append, List.mem_ite_nil_right, List.mem_singleton] at hs
    obtain ⟨⟨px₀, px₁⟩, py₀, py₁⟩ := hp
    rcases hs with ((⟨-, rfl⟩ | ⟨-, rfl⟩) | ⟨-, rfl⟩) | ⟨-, rfl⟩
    · exact ⟨⟨⟨px₀, px₁⟩, py₀, py₁.trans_le (hy.le.trans hb)⟩, fun h => not_le.mpr py₁ h.2.1⟩
    · exact ⟨⟨⟨px₀, px₁⟩, (ht.trans hy.le).trans py₀, py₁⟩, fun h => not_le.mpr h.2.2 py₀⟩
    · exact ⟨⟨⟨px₀, px₁.trans_le (hx.le.trans hr)⟩, ht.trans py₀, py₁.trans_le hb⟩,
        fun h => not_le.mpr px₁ h.1.1⟩
    · exact ⟨⟨⟨(hl.trans hx.le).trans px₀, px₁⟩, ht.trans py₀, py₁.trans_le hb⟩,
        fun h => not_le.mpr h.1.2 px₀⟩
  · rintro ⟨⟨⟨px₀, px₁⟩, py₀, py₁⟩, hnot⟩
    -- look at the rows first, then at the columns: the order of the strips
    by_cases htop : p.2 < i.y₀
    · refine ⟨{ a with y₁ := i.y₀ }, ?_, ⟨px₀, px₁⟩, py₀, htop⟩
      simp [strips, py₀.trans_lt htop]
    by_cases hbot : i.y₁ ≤ p.2
    · refine ⟨{ a with y₀ := i.y₁ }, ?_, ⟨px₀, px₁⟩, hbot, py₁⟩
      simp [strips, hbot.trans_lt py₁]
    have hrows : i.y₀ ≤ p.2 ∧ p.2 < i.y₁ := ⟨not_lt.mp htop, not_le.mp hbot⟩
    by_cases hleft : p.1 < i.x₀
    · refine ⟨{ i with x₀ := a.x₀, x₁ := i.x₀ }, ?_, ⟨px₀, hleft⟩, hrows⟩
      simp [strips, px₀.trans_lt hleft]
    · have hright : i.x₁ ≤ p.1 := not_lt.mp fun h => hnot ⟨⟨not_lt.mp hleft, h⟩, hrows⟩
      refine ⟨{ i with x₀ := i.x₁, x₁ := a.x₁ }, ?_, ⟨hright, px₁⟩, hrows⟩
      simp [strips, hright.trans_lt px₁]

/-- No strip starts before the outer box does. -/
theorem strips_origin {a i s : Box α} (hi : i.Within a) (hproper : i.Proper)
    (hs : s ∈ a.strips i) : a.x₀ ≤ s.x₀ ∧ a.y₀ ≤ s.y₀ := by
  obtain ⟨hx, hy⟩ := hproper
  simp only [strips, List.mem_append, List.mem_ite_nil_right, List.mem_singleton] at hs
  rcases hs with ((⟨-, rfl⟩ | ⟨-, rfl⟩) | ⟨-, rfl⟩) | ⟨-, rfl⟩
  · exact ⟨le_rfl, le_rfl⟩
  · exact ⟨le_rfl, hi.top.trans hy.le⟩
  · exact ⟨le_rfl, hi.top⟩
  · exact ⟨hi.left.trans hx.le, hi.top⟩

/-- The rows of the inner box separate the first two strips from each other and
from the others, and its columns the last two. -/
theorem strips_disjoint {a i : Box α} (hproper : i.Proper) :
    (a.strips i).Pairwise fun s t => ∀ p, p ∈ s → p ∉ t := by
  obtain ⟨hx, hy⟩ := hproper
  have happend {p : Prop} [Decidable p] {s : Box α} {l : List (Box α)}
      (h : ∀ t ∈ l, ∀ p, p ∈ s → p ∉ t) :
      ∀ s' ∈ (if p then [s] else []), ∀ t ∈ l, ∀ p, p ∈ s' → p ∉ t := by
    intro s' hs'
    rw [List.mem_ite_nil_right, List.mem_singleton] at hs'
    exact hs'.2 ▸ h
  have hone {p : Prop} [Decidable p] {s : Box α} {R : Box α → Box α → Prop} :
      (if p then [s] else []).Pairwise R := by
    split
    · exact List.pairwise_singleton _ _
    · exact List.Pairwise.nil
  simp only [strips, List.append_assoc]
  refine List.pairwise_append.mpr ⟨hone, List.pairwise_append.mpr ⟨hone,
    List.pairwise_append.mpr ⟨hone, hone, happend ?_⟩, happend ?_⟩, happend ?_⟩
  · intro t ht p hp hpt
    rw [List.mem_ite_nil_right, List.mem_singleton] at ht
    rw [ht.2] at hpt
    exact not_lt.mpr (hx.le.trans hpt.1.1) hp.1.2
  · intro t ht p hp hpt
    simp only [List.mem_append, List.mem_ite_nil_right, List.mem_singleton] at ht
    rcases ht with ⟨-, rfl⟩ | ⟨-, rfl⟩
    · exact not_lt.mpr hp.2.1 hpt.2.2
    · exact not_lt.mpr hp.2.1 hpt.2.2
  · intro t ht p hp hpt
    simp only [List.mem_append, List.mem_ite_nil_right, List.mem_singleton] at ht
    rcases ht with ⟨-, rfl⟩ | ⟨-, rfl⟩ | ⟨-, rfl⟩
    · exact not_lt.mpr (hy.le.trans hpt.2.1) hp.2.2
    · exact not_lt.mpr hpt.2.1 hp.2.2
    · exact not_lt.mpr hpt.2.1 hp.2.2

/-- The box without a hole: it stays in one piece when the hole misses it. -/
def cutOut (hole b : Box α) : List (Box α) :=
  if (b.inter hole).Proper then b.strips (b.inter hole) else [b]

theorem exists_mem_cutOut {hole b : Box α} {p : α × α} :
    (∃ s ∈ cutOut hole b, p ∈ s) ↔ p ∈ b ∧ p ∉ hole := by
  unfold cutOut
  split
  · next hproper =>
    rw [exists_mem_strips (inter_within b hole) hproper, mem_inter, not_and]
    exact and_congr_right fun hb => ⟨fun h => h hb, fun h _ => h⟩
  · next hproper =>
    simp only [List.mem_singleton, exists_eq_left, iff_self_and]
    exact fun hb hhole => hproper (Proper.of_mem (mem_inter.mpr ⟨hb, hhole⟩))

theorem cutOut_disjoint (hole b : Box α) :
    (cutOut hole b).Pairwise fun s t => ∀ p, p ∈ s → p ∉ t := by
  unfold cutOut
  split
  · next hproper => exact strips_disjoint hproper
  · exact List.pairwise_singleton _ _

theorem cutOut_origin {hole b s : Box α} (hs : s ∈ cutOut hole b) :
    b.x₀ ≤ s.x₀ ∧ b.y₀ ≤ s.y₀ := by
  unfold cutOut at hs
  split at hs
  · next hproper => exact strips_origin (inter_within b hole) hproper hs
  · rw [List.mem_singleton.mp hs]
    exact ⟨le_rfl, le_rfl⟩

/-- The parts of a box that lie in some boxes, in the order of these. -/
def common (a : Box α) (boxes : List (Box α)) : List (Box α) :=
  boxes.filterMap fun b => if (a.inter b).Proper then some (a.inter b) else none

theorem exists_mem_common {a : Box α} {boxes : List (Box α)} {p : α × α} :
    (∃ s ∈ a.common boxes, p ∈ s) ↔ p ∈ a ∧ ∃ b ∈ boxes, p ∈ b := by
  simp only [common, List.mem_filterMap, Option.ite_none_right_eq_some, Option.some.injEq]
  constructor
  · rintro ⟨_, ⟨b, hb, -, rfl⟩, hp⟩
    obtain ⟨ha, hpb⟩ := mem_inter.mp hp
    exact ⟨ha, b, hb, hpb⟩
  · rintro ⟨ha, b, hb, hpb⟩
    have hp := mem_inter.mpr ⟨ha, hpb⟩
    exact ⟨_, ⟨b, hb, Proper.of_mem hp, rfl⟩, hp⟩

theorem common_disjoint {a : Box α} {boxes : List (Box α)}
    (h : boxes.Pairwise fun s t => ∀ p, p ∈ s → p ∉ t) :
    (a.common boxes).Pairwise fun s t => ∀ p, p ∈ s → p ∉ t := by
  refine List.Pairwise.filterMap _ ?_ h
  intro b c hbc s hs t ht p hps hpt
  simp only [Option.ite_none_right_eq_some, Option.some.injEq] at hs ht
  rw [← hs.2, mem_inter] at hps
  rw [← ht.2, mem_inter] at hpt
  exact hbc p hps.2 hpt.2

end Box

/-- Cut the holes out of the boxes, one after the other. -/
def cutOutAll (boxes holes : List (Box α)) : List (Box α) :=
  holes.foldl (fun boxes hole => boxes.flatMap (Box.cutOut hole)) boxes

theorem exists_mem_cutOutAll {boxes holes : List (Box α)} {p : α × α} :
    (∃ s ∈ cutOutAll boxes holes, p ∈ s) ↔ (∃ b ∈ boxes, p ∈ b) ∧ ∀ hole ∈ holes, p ∉ hole := by
  induction holes generalizing boxes with
  | nil => simp [cutOutAll]
  | cons hole holes ih =>
    have hcut : (∃ s ∈ boxes.flatMap (Box.cutOut hole), p ∈ s) ↔
        (∃ b ∈ boxes, p ∈ b) ∧ p ∉ hole := by
      simp only [List.mem_flatMap, ← exists_and_right, and_assoc, ← Box.exists_mem_cutOut]
      constructor
      · rintro ⟨s, b, hb, hs, hp⟩
        exact ⟨b, hb, s, hs, hp⟩
      · rintro ⟨b, hb, s, hs, hp⟩
        exact ⟨s, b, hb, hs, hp⟩
    have hstep : cutOutAll boxes (hole :: holes) =
        cutOutAll (boxes.flatMap (Box.cutOut hole)) holes := rfl
    rw [hstep, ih, hcut, List.forall_mem_cons, and_assoc]

theorem cutOutAll_origin {boxes holes : List (Box α)} {s : Box α} (hs : s ∈ cutOutAll boxes holes) :
    ∃ b ∈ boxes, b.x₀ ≤ s.x₀ ∧ b.y₀ ≤ s.y₀ := by
  induction holes generalizing boxes with
  | nil => exact ⟨s, hs, le_rfl, le_rfl⟩
  | cons hole holes ih =>
    obtain ⟨c, hc, hcx, hcy⟩ := ih hs
    obtain ⟨b, hb, hcb⟩ := List.mem_flatMap.mp hc
    obtain ⟨hbx, hby⟩ := Box.cutOut_origin hcb
    exact ⟨b, hb, hbx.trans hcx, hby.trans hcy⟩

theorem cutOutAll_disjoint {boxes holes : List (Box α)}
    (h : boxes.Pairwise fun s t => ∀ p, p ∈ s → p ∉ t) :
    (cutOutAll boxes holes).Pairwise fun s t => ∀ p, p ∈ s → p ∉ t := by
  induction holes generalizing boxes with
  | nil => exact h
  | cons hole holes ih =>
    refine ih (List.pairwise_flatMap.mpr ⟨fun b _ => Box.cutOut_disjoint hole b, h.imp ?_⟩)
    intro b c hbc s hs t ht p hps hpt
    have hb := (Box.exists_mem_cutOut.mp ⟨s, hs, hps⟩).1
    exact hbc p hb (Box.exists_mem_cutOut.mp ⟨t, ht, hpt⟩).1

/-! ## The sweep -/

/-- The distinct row edges of the boxes, in order. -/
def rowEdges (boxes : List (Box α)) : List α :=
  ((boxes.flatMap fun b => [b.y₀, b.y₁]).insertionSort (· ≤ ·)).destutter (· ≠ ·)

/-- The columns of the boxes that span a whole band. -/
def bandSpans (boxes : List (Box α)) (band : α × α) : List (α × α) :=
  boxes.filterMap fun b =>
    if b.y₀ ≤ band.1 ∧ band.2 ≤ b.y₁ then some (b.x₀, b.x₁) else none

/-- The merged columns of one band. -/
def mergeSpans (spans : List (α × α)) : List (α × α) :=
  match spans.insertionSort spanLE with
  | [] => []
  | span :: rest => mergeFrom span rest

/-- Rebuild a list of boxes band by band. -/
def sweep (boxes : List (Box α)) : List (Box α) :=
  (bands (rowEdges boxes)).flatMap fun band =>
    (mergeSpans (bandSpans boxes band)).map fun span => ⟨span.1, span.2, band.1, band.2⟩

theorem mergeSpans_eq_nil_or (spans : List (α × α)) :
    (mergeSpans spans = [] ∧ spans.insertionSort spanLE = []) ∨
    ∃ span rest, mergeSpans spans = mergeFrom span rest ∧
      spans.insertionSort spanLE = span :: rest := by
  cases h : spans.insertionSort spanLE with
  | nil => exact .inl ⟨by rw [mergeSpans, h], rfl⟩
  | cons span rest => exact .inr ⟨span, rest, by rw [mergeSpans, h], rfl⟩

theorem covered_mergeSpans {spans : List (α × α)} {p : α} :
    Covered (mergeSpans spans) p ↔ Covered spans p := by
  have hsorted := startSorted_insertionSort spans
  rw [← covered_insertionSort (l := spans)]
  obtain ⟨hm, hs⟩ | ⟨span, rest, hm, hs⟩ := mergeSpans_eq_nil_or spans
  · rw [hm, hs]
  · rw [hm, hs]
    exact covered_mergeFrom (hs ▸ hsorted)

theorem mergeSpans_separated (spans : List (α × α)) :
    (mergeSpans spans).Pairwise fun s t => s.2 < t.1 := by
  have hsorted := startSorted_insertionSort spans
  obtain ⟨hm, -⟩ | ⟨span, rest, hm, hs⟩ := mergeSpans_eq_nil_or spans
  · exact hm ▸ List.Pairwise.nil
  · exact hm ▸ mergeFrom_separated (hs ▸ hsorted)

theorem mergeSpans_nonempty {spans : List (α × α)} (h : ∀ s ∈ spans, s.1 < s.2) :
    ∀ s ∈ mergeSpans spans, s.1 < s.2 := by
  have hall : ∀ s ∈ spans.insertionSort spanLE, s.1 < s.2 := by simpa using h
  obtain ⟨hm, -⟩ | ⟨span, rest, hm, hs⟩ := mergeSpans_eq_nil_or spans
  · simp [hm]
  · exact hm ▸ mergeFrom_nonempty (hs ▸ hall)

theorem mem_destutter'_ne {a e : α} {l : List α} :
    e ∈ l.destutter' (· ≠ ·) a ↔ e = a ∨ e ∈ l := by
  induction l generalizing a with
  | nil => simp
  | cons b l ih =>
    by_cases hab : a = b
    · subst hab
      rw [List.destutter'_cons_neg _ (by simp), ih, List.mem_cons]
      tauto
    · rw [List.destutter'_cons_pos _ hab, List.mem_cons, ih, List.mem_cons]

theorem mem_destutter_ne {e : α} {l : List α} : e ∈ l.destutter (· ≠ ·) ↔ e ∈ l := by
  cases l with
  | nil => rfl
  | cons a l => rw [List.destutter_cons', mem_destutter'_ne, List.mem_cons]

theorem mem_rowEdges {boxes : List (Box α)} {e : α} :
    e ∈ rowEdges boxes ↔ ∃ b ∈ boxes, e = b.y₀ ∨ e = b.y₁ := by
  simp [rowEdges, mem_destutter_ne]

theorem rowEdges_sorted (boxes : List (Box α)) : (rowEdges boxes).Pairwise (· < ·) := by
  have hle : (rowEdges boxes).Pairwise (· ≤ ·) :=
    (List.pairwise_insertionSort (· ≤ ·) _).sublist (List.destutter_sublist _ _)
  have hne : (rowEdges boxes).IsChain (· ≠ ·) := List.isChain_destutter _ _
  rw [← List.isChain_iff_pairwise] at hle ⊢
  rw [List.isChain_iff_getElem] at hle hne ⊢
  exact fun i hi => lt_of_le_of_ne (hle i hi) (hne i hi)

section Sweep
variable {boxes : List (Box α)}

theorem mem_sweep {b : Box α} :
    b ∈ sweep boxes ↔ ∃ band ∈ bands (rowEdges boxes),
      ∃ span ∈ mergeSpans (bandSpans boxes band), b = ⟨span.1, span.2, band.1, band.2⟩ := by
  simp only [sweep, List.mem_flatMap, List.mem_map]
  constructor
  · rintro ⟨band, hband, span, hspan, rfl⟩
    exact ⟨band, hband, span, hspan, rfl⟩
  · rintro ⟨band, hband, span, hspan, rfl⟩
    exact ⟨band, hband, span, hspan, rfl⟩

theorem covered_bandSpans {band : α × α} {x : α} :
    Covered (bandSpans boxes band) x ↔
      ∃ b ∈ boxes, (b.y₀ ≤ band.1 ∧ band.2 ≤ b.y₁) ∧ b.x₀ ≤ x ∧ x < b.x₁ := by
  simp only [Covered, bandSpans, List.mem_filterMap, Option.ite_none_right_eq_some,
    Option.some.injEq]
  constructor
  · rintro ⟨_, ⟨b, hb, hspan, rfl⟩, hx⟩
    exact ⟨b, hb, hspan, hx⟩
  · rintro ⟨b, hb, hspan, hx⟩
    exact ⟨_, ⟨b, hb, hspan, rfl⟩, hx⟩

/-- The sweep keeps every point and adds none. -/
theorem exists_mem_sweep {p : α × α} : (∃ b ∈ sweep boxes, p ∈ b) ↔ ∃ b ∈ boxes, p ∈ b := by
  constructor
  · rintro ⟨_, hb, hp⟩
    obtain ⟨band, -, span, hspan, rfl⟩ := mem_sweep.mp hb
    obtain ⟨hx, hy⟩ := Box.mem_iff.mp hp
    obtain ⟨b, hb, ⟨htop, hbot⟩, hx⟩ :=
      covered_bandSpans.mp (covered_mergeSpans.mp ⟨span, hspan, hx⟩)
    exact ⟨b, hb, hx, htop.trans hy.1, hy.2.trans_le hbot⟩
  · rintro ⟨b, hb, hx, hy⟩
    have htop : b.y₀ ∈ rowEdges boxes := mem_rowEdges.mpr ⟨b, hb, .inl rfl⟩
    have hbot : b.y₁ ∈ rowEdges boxes := mem_rowEdges.mpr ⟨b, hb, .inr rfl⟩
    have hsorted := rowEdges_sorted boxes
    obtain ⟨band, hband, hyb⟩ := covered_bands hsorted htop hbot hy.1 hy.2
    -- `b` reaches into the band, and no edge of `b` lies inside it
    have hspans : b.y₀ ≤ band.1 ∧ band.2 ≤ b.y₁ := by
      constructor
      · exact (edge_outside_band hsorted hband htop).resolve_right fun h =>
          not_lt.mpr (h.trans hy.1) hyb.2
      · exact (edge_outside_band hsorted hband hbot).resolve_left fun h =>
          not_lt.mpr (h.trans hyb.1) hy.2
    obtain ⟨span, hspan, hxs⟩ :=
      covered_mergeSpans.mpr (covered_bandSpans.mpr ⟨b, hb, hspans, hx⟩)
    exact ⟨_, mem_sweep.mpr ⟨band, hband, span, hspan, rfl⟩, hxs, hyb⟩

/-- Two boxes of a sweep have no point in common. -/
theorem sweep_disjoint (boxes : List (Box α)) :
    (sweep boxes).Pairwise fun b c => ∀ p, ¬ (p ∈ b ∧ p ∈ c) := by
  refine List.pairwise_flatMap.mpr ⟨fun band _ => ?_, ?_⟩
  · -- in one band the merged columns are separated
    refine List.pairwise_map.mpr ((mergeSpans_separated _).imp fun hsep p ⟨hb, hc⟩ => ?_)
    exact not_lt.mpr (hsep.le.trans hc.1.1) hb.1.2
  · -- and the bands do not overlap
    refine (bands_separated (rowEdges_sorted boxes)).imp fun hsep b hb c hc p ⟨hpb, hpc⟩ => ?_
    obtain ⟨s, -, rfl⟩ := List.mem_map.mp hb
    obtain ⟨t, -, rfl⟩ := List.mem_map.mp hc
    exact not_lt.mpr (hsep.trans hpc.2.1) hpb.2.2

/-- A sweep of proper boxes has only proper boxes. -/
theorem sweep_proper (h : ∀ b ∈ boxes, b.Proper) : ∀ b ∈ sweep boxes, b.Proper := by
  intro b hb
  obtain ⟨band, hband, span, hspan, rfl⟩ := mem_sweep.mp hb
  refine ⟨mergeSpans_nonempty (fun s hs => ?_) span hspan,
    bands_nonempty (rowEdges_sorted boxes) band hband⟩
  simp only [bandSpans, List.mem_filterMap, Option.ite_none_right_eq_some,
    Option.some.injEq] at hs
  obtain ⟨b, hb, -, rfl⟩ := hs
  exact (h b hb).1

theorem mergeSpans_start_mem {spans : List (α × α)} {s : α × α} (hs : s ∈ mergeSpans spans) :
    ∃ t ∈ spans, s.1 = t.1 := by
  obtain ⟨hm, -⟩ | ⟨span, rest, hm, hsort⟩ := mergeSpans_eq_nil_or spans
  · exact absurd (hm ▸ hs) List.not_mem_nil
  · obtain ⟨t, ht, heq⟩ := mergeFrom_start_mem (hm ▸ hs)
    exact ⟨t, List.mem_insertionSort _ |>.mp (hsort ▸ ht), heq⟩

/-- The left and top edges of a sweep are edges of the boxes it was built from. -/
theorem sweep_edges {b : Box α} (hb : b ∈ sweep boxes) :
    (∃ c ∈ boxes, b.x₀ = c.x₀) ∧ ∃ c ∈ boxes, b.y₀ = c.y₀ ∨ b.y₀ = c.y₁ := by
  obtain ⟨band, hband, span, hspan, rfl⟩ := mem_sweep.mp hb
  refine ⟨?_, mem_rowEdges.mp (bands_start_mem hband)⟩
  obtain ⟨t, ht, heq⟩ := mergeSpans_start_mem hspan
  simp only [bandSpans, List.mem_filterMap, Option.ite_none_right_eq_some,
    Option.some.injEq] at ht
  obtain ⟨c, hc, -, rfl⟩ := ht
  exact ⟨c, hc, heq⟩

end Sweep

end Boxes
