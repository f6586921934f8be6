import X12.Core.Raster
import X12.Lib.Lines
import X12.Verify.Region
import Mathlib.Tactic.Ring

/-! # Lines are drawn next to the ideal line

The loop over the pixels of a line is a walk of `Lines` from the first end, in the
direction of the second on each axis. -/

namespace X12

open Lines (OnLine offset along)

/-! ## Small numbers -/

/-- At most `k` away from zero. -/
def Within (k n : Int) : Prop :=
  -k ≤ n ∧ n ≤ k

namespace Within

variable {j k m n : Int}

theorem natAbs (h : Within k n) : Within k n.natAbs := by
  obtain ⟨h, h'⟩ := h
  exact ⟨by omega, by omega⟩

theorem add (hm : Within j m) (hn : Within k n) : Within (j + k) (m + n) := by
  obtain ⟨hm, hm'⟩ := hm
  obtain ⟨hn, hn'⟩ := hn
  exact ⟨by omega, by omega⟩

theorem neg (hn : Within k n) : Within k (-n) :=
  ⟨Int.neg_le_neg hn.2, Int.neg_le_of_neg_le hn.1⟩

theorem ite {p : Prop} [Decidable p] (hm : Within k m) (hn : Within k n) :
    Within k (if p then m else n) := by
  split
  · exact hm
  · exact hn

theorem checked (h : Within k n) (hk : k ≤ 2147483647) : checkedI32 n = some n :=
  if_pos ⟨by have := h.1; omega, h.2.trans hk⟩

end Within

/-! ## One axis -/

/-- The position `i` pixels from the start, in the direction of the goal. -/
def stepped (start goal i : Int) : Int :=
  start + (if start < goal then 1 else -1) * i

section

variable {start goal i : Int}

theorem stepped_zero : stepped start goal 0 = start := by
  rw [stepped, mul_zero, add_zero]

theorem stepped_succ :
    stepped start goal (i + 1) = stepped start goal i + if start < goal then 1 else -1 := by
  simp only [stepped]
  split <;> omega

theorem stepped_eq_goal : stepped start goal i = goal ↔ i = (goal - start).natAbs := by
  rw [stepped]
  split <;> omega

/-- Between the start and the goal, every step is one towards the goal. -/
theorem stepped_mem (hnonneg : 0 ≤ i) (hle : i ≤ (goal - start).natAbs) :
    min start goal ≤ stepped start goal i ∧ stepped start goal i ≤ max start goal := by
  rw [stepped]
  split <;> omega

/-- A step goes in no case past the goal or back. -/
theorem stepped_between {j : Int} (hle : i ≤ j) (hgoal : j ≤ (goal - start).natAbs) :
    min (stepped start goal i) goal ≤ stepped start goal j ∧
      stepped start goal j ≤ max (stepped start goal i) goal := by
  simp only [stepped]
  split <;> omega

theorem stepped_natAbs_le {j : Int} (h : j = i ∨ j = i + 1) :
    (stepped start goal j - stepped start goal i).natAbs ≤ 1 := by
  simp only [stepped]
  split <;> omega

theorem stepped_inj {j : Int} : stepped start goal i = stepped start goal j ↔ i = j := by
  simp only [stepped]
  split <;> omega

/-- The way to the goal and the way made have the same direction. -/
theorem exists_direction (start goal : Int) : ∃ s : Int, s.natAbs = 1 ∧
    goal - start = s * (goal - start).natAbs ∧ ∀ i, stepped start goal i - start = s * i := by
  refine ⟨if start < goal then 1 else -1, ?_, ?_, fun i => ?_⟩
  · split <;> rfl
  · split <;> omega
  · rw [stepped, add_sub_cancel_left]

theorem axisStep_eq {steps : Bool} {err delta position direction j k : Int}
    (herr : Within j (err + delta)) (hj : j ≤ 2147483647)
    (hposition : Within k (position + direction)) (hk : k ≤ 2147483647) :
    axisStep steps err delta position direction =
      some (if steps then err + delta else err,
        if steps then position + direction else position) := by
  cases steps with
  | false => rfl
  | true =>
    rw [axisStep, if_pos rfl, herr.checked hj, hposition.checked hk]
    rfl

end

/-! ## The loop -/

/-- One round, with numbers that are small enough. -/
theorem bresenhamLoop_round {x1 y1 dx dy sx sy err x y : Int} {fuel : Nat}
    {out : List Rectangle16} (hgoal : ¬ (x = x1 ∧ y = y1)) (hdx : Within 65535 dx)
    (hdy : Within 65535 dy) (hsx : Within 1 sx) (hsy : Within 1 sy) (herr : Within 200000 err)
    (hx : Within 32768 x) (hy : Within 32768 y) :
    bresenhamLoop x1 y1 dx dy sx sy (fuel + 1) err x y out =
      bresenhamLoop x1 y1 dx dy sx sy fuel
        (err + (if dy ≤ 2 * err then dy else 0) + (if 2 * err ≤ dx then dx else 0))
        (if dy ≤ 2 * err then x + sx else x) (if 2 * err ≤ dx then y + sy else y)
        (out ++ [linePixel x y]) := by
  have hdouble : Within 400000 (2 * err) := Int.two_mul err ▸ herr.add herr
  have hzero : Within 65535 0 := ⟨by decide, by decide⟩
  have hsteps (steps : Prop) [Decidable steps] (err delta : Int) :
      (if steps then err + delta else err) = err + if steps then delta else 0 := by
    split
    · rfl
    · exact (add_zero err).symm
  rw [bresenhamLoop, if_neg hgoal, hdouble.checked (by decide), Option.bind_eq_bind,
    Option.bind_some, axisStep_eq (herr.add hdy) (by decide) (hx.add hsx) (by decide),
    Option.bind_eq_bind, Option.bind_some]
  simp only [decide_eq_true_eq, ge_iff_le]
  rw [hsteps _ err dy, axisStep_eq ((herr.add (hdy.ite hzero)).add hdx) (by decide) (hy.add hsy)
    (by decide), Option.bind_some]
  simp only [decide_eq_true_eq]
  rw [hsteps _ _ dx]

/-- The point of the grid that a point of the walk stands for. -/
def placed (p₀ p₁ : Point) (p : Int × Int) : Point :=
  (stepped p₀.1 p₁.1 p.1, stepped p₀.2 p₁.2 p.2)

/-- Both coordinates are of 16 bits. -/
def InI16 (p : Point) : Prop :=
  (-32768 ≤ p.1 ∧ p.1 ≤ 32767) ∧ -32768 ≤ p.2 ∧ p.2 ≤ 32767

theorem inI16_toInt (x y : Int16) : InI16 (x.toInt, y.toInt) :=
  ⟨⟨x.le_toInt, Int.le_of_lt_add_one x.toInt_lt⟩, y.le_toInt, Int.le_of_lt_add_one y.toInt_lt⟩

section

variable {p₀ p₁ : Point} {p : Int × Int} {a b : Int} {out : List Rectangle16} {fuel n : Nat}

theorem InI16.within (h : InI16 p₀) : Within 32768 p₀.1 ∧ Within 32768 p₀.2 :=
  ⟨⟨h.1.1, h.1.2.trans (by decide)⟩, h.2.1, h.2.2.trans (by decide)⟩

theorem InI16.within_sub (h₀ : InI16 p₀) (h₁ : InI16 p₁) :
    Within 65535 (p₁.1 - p₀.1) ∧ Within 65535 (p₁.2 - p₀.2) := by
  obtain ⟨hx₀, hy₀⟩ := h₀
  obtain ⟨hx₁, hy₁⟩ := h₁
  exact ⟨⟨by omega, by omega⟩, by omega, by omega⟩

/-- The error of a point of the line is small. -/
theorem within_error (ha : Within 65535 a) (hb : Within 65535 b) (h : OnLine a b p) :
    Within 200000 (offset a b p + a - b) := by
  obtain ⟨ha, ha'⟩ := ha
  obtain ⟨hb, hb'⟩ := hb
  have hmax : max a b ≤ 65535 := max_le ha' hb'
  have habove := h.above
  have hbelow := h.below
  generalize max a b = m at *
  exact ⟨by omega, by omega⟩

theorem inI16_placed (h₀ : InI16 p₀) (h₁ : InI16 p₁) (ha : a = (p₁.1 - p₀.1).natAbs)
    (hb : b = (p₁.2 - p₀.2).natAbs) (h : OnLine a b p) : InI16 (placed p₀ p₁ p) := by
  subst ha hb
  have hbetween {m n i : Int} (hm : -32768 ≤ m ∧ m ≤ 32767) (hn : -32768 ≤ n ∧ n ≤ 32767)
      (hi : min m n ≤ i ∧ i ≤ max m n) : -32768 ≤ i ∧ i ≤ 32767 := by
    omega
  exact ⟨hbetween h₀.1 h₁.1 (stepped_mem h.nonneg₁ h.le₁),
    hbetween h₀.2 h₁.2 (stepped_mem h.nonneg₂ h.le₂)⟩

theorem placed_next₁ : (placed p₀ p₁ (Lines.next a b p)).1 =
    if -b ≤ 2 * (offset a b p + a - b) then
      (placed p₀ p₁ p).1 + (if p₀.1 < p₁.1 then 1 else -1)
    else (placed p₀ p₁ p).1 := by
  rw [placed, placed, ← stepped_succ]
  exact apply_ite (stepped p₀.1 p₁.1) ..

theorem placed_next₂ : (placed p₀ p₁ (Lines.next a b p)).2 =
    if 2 * (offset a b p + a - b) ≤ a then
      (placed p₀ p₁ p).2 + (if p₀.2 < p₁.2 then 1 else -1)
    else (placed p₀ p₁ p).2 := by
  rw [placed, placed, ← stepped_succ]
  exact apply_ite (stepped p₀.2 p₁.2) ..

theorem bresenhamLoop_eq (h₀ : InI16 p₀) (h₁ : InI16 p₁) (ha : a = (p₁.1 - p₀.1).natAbs)
    (hb : b = (p₁.2 - p₀.2).natAbs) (h : OnLine a b p) (hlength : along a b p + n = max a b)
    (hfuel : n < fuel) (out : List Rectangle16) :
    bresenhamLoop p₁.1 p₁.2 a (-b) (if p₀.1 < p₁.1 then 1 else -1) (if p₀.2 < p₁.2 then 1 else -1)
        fuel (offset a b p + a - b) (placed p₀ p₁ p).1 (placed p₀ p₁ p).2 out =
      some (out ++ (Lines.walk a b p n).map fun q =>
        linePixel (placed p₀ p₁ q).1 (placed p₀ p₁ q).2) := by
  induction n generalizing p fuel out with
  | zero =>
    obtain ⟨fuel, rfl⟩ := Nat.exists_eq_add_of_lt hfuel
    have hgoal : p = (a, b) := h.eq_goal_of_along (by omega)
    rw [bresenhamLoop, if_pos]
    · rfl
    · rw [hgoal]
      exact ⟨stepped_eq_goal.mpr ha, stepped_eq_goal.mpr hb⟩
  | succ n ih =>
    obtain ⟨fuel, rfl⟩ := Nat.exists_eq_add_of_lt hfuel
    obtain ⟨hnext, hmoves⟩ := h.next (by omega)
    have hlength' : along a b (Lines.next a b p) + n = max a b := by
      rw [hmoves, ← hlength]
      clear * -
      omega
    have hgoal : ¬ ((placed p₀ p₁ p).1 = p₁.1 ∧ (placed p₀ p₁ p).2 = p₁.2) := by
      rintro ⟨hx, hy⟩
      have hp : p = (a, b) := Prod.ext (ha ▸ stepped_eq_goal.mp hx) (hb ▸ stepped_eq_goal.mp hy)
      rw [hp, along] at hlength
      omega
    obtain ⟨ha', hb'⟩ := h₀.within_sub h₁
    have ha' := ha ▸ ha'.natAbs
    have hb' := hb ▸ hb'.natAbs
    obtain ⟨hx, hy⟩ := (inI16_placed h₀ h₁ ha hb h).within
    have hone : Within 1 1 := ⟨by decide, by decide⟩
    have herror' : offset a b p + a - b +
        (if -b ≤ 2 * (offset a b p + a - b) then -b else 0) +
        (if 2 * (offset a b p + a - b) ≤ a then a else 0) =
          offset a b (Lines.next a b p) + a - b := by
      rw [Lines.offset_next]
      clear * -
      split <;> split <;> omega
    rw [bresenhamLoop_round hgoal ha' hb'.neg (hone.ite hone.neg) (hone.ite hone.neg)
      (within_error ha' hb' h) hx hy, herror', ← placed_next₁, ← placed_next₂, ih hnext hlength' (by clear * -; omega),
      List.append_assoc]
    rfl

/-! ## The line -/

/-- The position of a rectangle. -/
def corner (r : Rectangle16) : Point := (r.x.toInt, r.y.toInt)

/-- A step to one of the eight neighbours, away from the goal in no coordinate. -/
structure StepTowards (goal p q : Point) : Prop where
  moves : p ≠ q
  x : (q.1 - p.1).natAbs ≤ 1
  y : (q.2 - p.2).natAbs ≤ 1
  betweenX : min p.1 goal.1 ≤ q.1 ∧ q.1 ≤ max p.1 goal.1
  betweenY : min p.2 goal.2 ≤ q.2 ∧ q.2 ≤ max p.2 goal.2

/-- A point at most half a pixel off the line, along its shorter axis. The product is this
offset times the longer side. -/
def NearLine (p₀ p₁ p : Point) : Prop :=
  2 * ((p₁.1 - p₀.1) * (p.2 - p₀.2) - (p₁.2 - p₀.2) * (p.1 - p₀.1)).natAbs ≤
    max (p₁.1 - p₀.1).natAbs (p₁.2 - p₀.2).natAbs

/-- The pixels are the line from one point to another. -/
structure DrawsLine (p₀ p₁ : Point) (pixels : List Rectangle16) : Prop where
  unit : ∀ r ∈ pixels, r.width = 1 ∧ r.height = 1
  length : pixels.length = max (p₁.1 - p₀.1).natAbs (p₁.2 - p₀.2).natAbs + 1
  first : (pixels.map corner).head? = some p₀
  last : (pixels.map corner).getLast? = some p₁
  towards : (pixels.map corner).IsChain (StepTowards p₁)
  near : ∀ p ∈ pixels.map corner, NearLine p₀ p₁ p

theorem corner_linePixel (h : InI16 p₀) : corner (linePixel p₀.1 p₀.2) = p₀ := by
  obtain ⟨hx, hy⟩ := h
  refine Prod.ext ((clampI16_toInt _).trans ?_) ((clampI16_toInt _).trans ?_) <;> omega

theorem nearLine_placed (ha : a = (p₁.1 - p₀.1).natAbs) (hb : b = (p₁.2 - p₀.2).natAbs)
    (h : OnLine a b p) : NearLine p₀ p₁ (placed p₀ p₁ p) := by
  have habove := h.above
  have hbelow := h.below
  obtain ⟨sx, hsx, hx, hx'⟩ := exists_direction p₀.1 p₁.1
  obtain ⟨sy, hsy, hy, hy'⟩ := exists_direction p₀.2 p₁.2
  have hproduct : (p₁.1 - p₀.1) * ((placed p₀ p₁ p).2 - p₀.2) -
      (p₁.2 - p₀.2) * ((placed p₀ p₁ p).1 - p₀.1) = sx * sy * offset a b p := by
    rw [placed, hx', hy', hx, hy, ← ha, ← hb, offset]
    ring
  have hmax : max a b = (max (p₁.1 - p₀.1).natAbs (p₁.2 - p₀.2).natAbs : Nat) := by
    rw [ha, hb, Nat.cast_max]
  rw [NearLine, hproduct, Int.natAbs_mul, Int.natAbs_mul, hsx, hsy]
  rw [hmax] at habove hbelow
  clear * - habove hbelow
  omega

theorem stepTowards_next (ha : a = (p₁.1 - p₀.1).natAbs) (hb : b = (p₁.2 - p₀.2).natAbs)
    (h : OnLine a b (Lines.next a b p)) (hmoves : p ≠ Lines.next a b p) :
    StepTowards p₁ (placed p₀ p₁ p) (placed p₀ p₁ (Lines.next a b p)) := by
  obtain ⟨hx, hy⟩ := Lines.next_neighbour a b p
  refine ⟨fun heq => ?_, ?_, ?_, ?_, ?_⟩
  · obtain ⟨heqx, heqy⟩ := Prod.ext_iff.mp heq
    exact hmoves (Prod.ext (stepped_inj.mp heqx) (stepped_inj.mp heqy))
  · exact stepped_natAbs_le hx
  · exact stepped_natAbs_le hy
  · exact stepped_between (by omega) (ha ▸ h.le₁)
  · exact stepped_between (by omega) (hb ▸ h.le₂)

/-- The pixels of the line, by the walk along it. -/
def linePixels (p₀ p₁ : Point) : List Rectangle16 :=
  (Lines.walk (p₁.1 - p₀.1).natAbs (p₁.2 - p₀.2).natAbs (0, 0)
    (max (p₁.1 - p₀.1).natAbs (p₁.2 - p₀.2).natAbs)).map fun q =>
      linePixel (placed p₀ p₁ q).1 (placed p₀ p₁ q).2

theorem length_linePixels :
    (linePixels p₀ p₁).length = max (p₁.1 - p₀.1).natAbs (p₁.2 - p₀.2).natAbs + 1 := by
  rw [linePixels, List.length_map, Lines.walk, List.length_iterate]

theorem along_start (m n : Nat) : along m n (0, 0) + (max m n : Nat) = max (m : Int) n := by
  rw [along, ite_self]
  omega

theorem linePixels_drawsLine (h₀ : InI16 p₀) (h₁ : InI16 p₁) :
    DrawsLine p₀ p₁ (linePixels p₀ p₁) := by
  generalize ha : ((p₁.1 - p₀.1).natAbs : Int) = a
  generalize hb : ((p₁.2 - p₀.2).natAbs : Int) = b
  generalize hn : max (p₁.1 - p₀.1).natAbs (p₁.2 - p₀.2).natAbs = n
  have hlength : along a b (0, 0) + n = max a b := by
    rw [← ha, ← hb, ← hn]
    exact along_start (p₁.1 - p₀.1).natAbs (p₁.2 - p₀.2).natAbs
  obtain ⟨hall, hlast, hchain⟩ := (OnLine.start (by omega) (by omega)).walk hlength
  have hcorners : (linePixels p₀ p₁).map corner =
      (Lines.walk a b (0, 0) n).map (placed p₀ p₁) := by
    rw [linePixels, List.map_map, ha, hb, hn]
    exact List.map_congr_left fun q hq =>
      corner_linePixel (inI16_placed h₀ h₁ ha.symm hb.symm (hall q hq))
  refine ⟨?_, length_linePixels, ?_, ?_, ?_, ?_⟩
  · intro r hr
    obtain ⟨q, -, rfl⟩ := List.mem_map.mp hr
    exact ⟨rfl, rfl⟩
  · rw [hcorners]
    exact congrArg some (Prod.ext stepped_zero stepped_zero)
  · rw [hcorners, List.getLast?_map, hlast]
    exact congrArg some (Prod.ext (stepped_eq_goal.mpr ha.symm) (stepped_eq_goal.mpr hb.symm))
  · rw [hcorners, List.isChain_map]
    refine hchain.imp_of_mem_imp fun p q _ hq => ?_
    rintro ⟨rfl, hmoves⟩
    exact stepTowards_next ha.symm hb.symm (hall _ hq) hmoves
  · intro p hp
    rw [hcorners] at hp
    obtain ⟨q, hq, rfl⟩ := List.mem_map.mp hp
    exact nearLine_placed ha.symm hb.symm (hall q hq)

theorem bresenhamSegment_eq (h₀ : InI16 p₀) (h₁ : InI16 p₁)
    (hfuel : (linePixels p₀ p₁).length ≤ fuel) (out : List Rectangle16) :
    bresenhamSegment fuel p₀.1 p₀.2 p₁.1 p₁.2 out = some (out ++ linePixels p₀ p₁) := by
  rw [length_linePixels] at hfuel
  obtain ⟨hx, hy⟩ := h₀.within_sub h₁
  have herr (m n : Int) : offset m n (0, 0) + m - n = m + -n := by
    rw [offset]
    omega
  have hloop := bresenhamLoop_eq h₀ h₁ rfl rfl
    (.start (Int.natCast_nonneg _) (Int.natCast_nonneg _)) (along_start _ _) hfuel out
  simp only [placed, stepped_zero, herr] at hloop
  rw [bresenhamSegment]
  simp only [hx.checked (by decide), hx.natAbs.checked (by decide), hy.checked (by decide),
    hy.natAbs.checked (by decide), hy.natAbs.neg.checked (by decide),
    (hx.natAbs.add hy.natAbs.neg).checked (by decide), Option.bind_eq_bind, Option.bind_some]
  exact hloop

end

/-- A line between any two points is drawn in as many rounds as it has pixels. -/
theorem bresenhamSegment_drawsLine (x0 y0 x1 y1 : Int16) (out : List Rectangle16) :
    ∃ pixels, DrawsLine (x0.toInt, y0.toInt) (x1.toInt, y1.toInt) pixels ∧
      ∀ fuel, pixels.length ≤ fuel →
        bresenhamSegment fuel x0.toInt y0.toInt x1.toInt y1.toInt out = some (out ++ pixels) := by
  have h₀ := inI16_toInt x0 y0
  have h₁ := inI16_toInt x1 y1
  refine ⟨linePixels (x0.toInt, y0.toInt) (x1.toInt, y1.toInt), linePixels_drawsLine h₀ h₁, ?_⟩
  intro fuel hfuel
  exact bresenhamSegment_eq h₀ h₁ hfuel out

end X12
