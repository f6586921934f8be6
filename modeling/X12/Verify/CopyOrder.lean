import X12.Lib.Moves
import X12.Verify.CopyArea

/-! # The order of the pieces of a CopyArea

The backend is sent one copy after the other, each of which reads its whole
source before it writes. Within one host drawable a piece may read what an
earlier piece has written. -/

namespace X12

open Boxes (Box)
open Moves (Move)

/-- A pixel of a host drawable. -/
abbrev HostPixel := Handle × Point

/-- A copy of the backend as a move of pixels. -/
def BackendCall.move : BackendCall → Option (Move HostPixel)
  | .CopyArea src dst geometry =>
    some ⟨fun q => decide (q.1 = dst ∧ q.2 ∈ geometry.dstRect),
      fun q => (src, geometry.source q.2)⟩
  | .PaintWindowBackgroundRect _ _ => none

/-- The copies in the order in which they are sent. -/
def CopyAreaOutcome.moves (out : CopyAreaOutcome) : List (Move HostPixel) :=
  out.calls.filterMap BackendCall.move

/-- The parts into which the clip and the children cut a copy: the clip
rectangles as listed, each cut by one child after the other into the rows above
and below it and the columns left and right of it. -/
def ServerState.copyStrips (s : ServerState) (dst : ResourceId) (st : DrawState)
    (r : CopyGeometry) : List (Box Int) :=
  (Boxes.cutOutAll (clipBoxes st.clip r.dstRect)
    ((s.holes dst st.subwindowMode).map RegionRect.toBox)).filter OriginFits

namespace CopyGeometry

/-- The pixel that is copied to a pixel of a strip. The strip is copied from no
further than the largest coordinate. -/
def stripSource (r : CopyGeometry) (b : Box Int) (p : Point) : Point :=
  (p.1 - b.x₀ + min 32767 (r.srcX.toInt + (b.x₀ - r.dstX.toInt)),
    p.2 - b.y₀ + min 32767 (r.srcY.toInt + (b.y₀ - r.dstY.toInt)))

/-- No strip reads a pixel that an earlier strip has changed, for a pixel that
no later strip writes. -/
def StripsSafe (r : CopyGeometry) (strips : List (Box Int)) : Prop :=
  ∀ before b after, strips = before ++ b :: after → ∀ p, p ∈ b → (∀ c ∈ after, p ∉ c) →
    ∀ c ∈ before, r.stripSource b p ∈ c →
      r.stripSource c (r.stripSource b p) = r.stripSource b p

def stripMove (r : CopyGeometry) (src dst : Handle) (b : Box Int) : Move HostPixel where
  region q := decide (q.1 = dst ∧ q.2 ∈ b)
  source q := (src, r.stripSource b q.2)

variable {r : CopyGeometry} {src dst h : Handle} {b : Box Int} {p : Point}

theorem stripMove_region : (r.stripMove src dst b).region (h, p) = true ↔ h = dst ∧ p ∈ b :=
  decide_eq_true_iff

theorem stripMove_region_self : (r.stripMove src dst b).region (dst, p) = true ↔ p ∈ b := by
  rw [stripMove_region, and_iff_right rfl]

theorem stripMove_keeps :
    (r.stripMove src dst b).Keeps (h, p) ↔
      (h = dst → p ∈ b → (src, r.stripSource b p) = (h, p)) := by
  rw [Move.Keeps, stripMove_region, and_imp]
  exact Iff.rfl

end CopyGeometry

section

variable {s : ServerState} {client : ClientId} {request : CopyAreaRequest} {r : CopyGeometry}
  {out : CopyAreaOutcome} {src dst : Handle} {st : DrawState} {b : Box Int} {sub : RegionRect}

/-- A strip starts no further left or up than the copy. -/
theorem ServerState.copyStrips_origin {id : ResourceId} (hb : b ∈ s.copyStrips id st r) :
    r.dstX.toInt ≤ b.x₀ ∧ r.dstY.toInt ≤ b.y₀ ∧ OriginFits b := by
  obtain ⟨hb, hfits⟩ := List.mem_filter.mp hb
  obtain ⟨c, hc, hx, hy⟩ := Boxes.cutOutAll_origin hb
  have hcx : r.dstX.toInt ≤ c.x₀ ∧ r.dstY.toInt ≤ c.y₀ := by
    unfold clipBoxes at hc
    split at hc
    · simp only [Box.common, List.mem_filterMap, Option.ite_none_right_eq_some,
        Option.some.injEq] at hc
      obtain ⟨_, -, -, rfl⟩ := hc
      exact ⟨le_max_left _ _, le_max_left _ _⟩
    · rw [List.mem_singleton.mp hc]
      exact ⟨le_rfl, le_rfl⟩
  exact ⟨hcx.1.trans hx, hcx.2.trans hy, of_decide_eq_true hfits⟩

theorem saturating_shift {origin place start : Int16} (horigin : 0 ≤ origin.toInt)
    (hplace : start.toInt ≤ place.toInt) :
    (saturatingAddI16 origin (saturatingSubI16 place start)).toInt =
      min 32767 (origin.toInt + (place.toInt - start.toInt)) := by
  have hsub := clampI16_toInt (place.toInt - start.toInt)
  have hadd := clampI16_toInt (origin.toInt + (saturatingSubI16 place start).toInt)
  rw [saturatingAddI16, hadd, saturatingSubI16, hsub]
  omega

/-- The copy of a piece moves a strip. -/
theorem copySubRect_move (hsrcx : 0 ≤ r.srcX.toInt) (hsrcy : 0 ≤ r.srcY.toInt)
    (hx : r.dstX.toInt ≤ sub.left) (hy : r.dstY.toInt ≤ sub.top) :
    (ServerState.copySubRect src dst r sub).move = some (r.stripMove src dst sub.toBox) := by
  have hshiftx := saturating_shift hsrcx hx
  have hshifty := saturating_shift hsrcy hy
  simp only [ServerState.copySubRect, BackendCall.move, CopyGeometry.source, hshiftx, hshifty]
  rfl

theorem ServerState.moves_copyBetween {size : UInt16 × UInt16}
    (hsize : s.resources.drawableSize request.src = some size)
    (hst : s.resources.resolveDrawState request.gc = some st) :
    (s.copyBetween client request src dst).moves =
      (s.resources.copyAreaSourceSplit request.src request.toCopyGeometry).1.elim [] fun r =>
        (s.copyStrips request.dst st r).map (r.stripMove src dst) := by
  have hpainted (rects : List RegionRect) :
      (rects.map (BackendCall.PaintWindowBackgroundRect dst)).filterMap BackendCall.move = [] := by
    rw [List.filterMap_map]
    exact List.filterMap_eq_nil_iff.mpr fun _ _ => rfl
  unfold CopyAreaOutcome.moves copyBetween
  dsimp only
  rw [hst, Option.getD_some, List.filterMap_append, hpainted, List.append_nil]
  cases hr : (s.resources.copyAreaSourceSplit request.src request.toCopyGeometry).1 with
  | none => rfl
  | some r =>
    obtain ⟨hfull, hsrcx, hsrcy, -⟩ := ResourceTable.copyAreaSourceSplit_some hsize hr
    have hstrips : (s.copyAreaEffectiveDstRects request.dst st r).map RegionRect.toBox =
        s.copyStrips request.dst st r := copyAreaEffectiveDstRects_toBox
    rw [Option.map_some, Option.getD_some, Option.elim_some, ← hstrips, List.map_map,
      List.filterMap_map, ← List.filterMap_eq_map]
    dsimp only
    rw [if_neg hfull]
    refine List.filterMap_congr fun sub hsub => ?_
    have hstrip : sub.toBox ∈ s.copyStrips request.dst st r := by
      rw [← hstrips]
      exact List.mem_map_of_mem hsub
    obtain ⟨hx, hy, -⟩ := copyStrips_origin hstrip
    exact copySubRect_move hsrcx hsrcy hx hy

/-! ## Directions -/

/-- Copies between two drawables raise every pixel they write. -/
theorem stripMove_lowers_of_ne (h : src ≠ dst) :
    (r.stripMove src dst b).Lowers fun q : HostPixel => if q.1 = dst then (1 : Int) else 0 := by
  rintro ⟨handle, p⟩ hregion -
  obtain ⟨rfl, -⟩ := CopyGeometry.stripMove_region.mp hregion
  have hsource : ¬ ((r.stripMove src handle b).source (handle, p)).1 = handle := h
  simp only [if_neg hsource, if_true]
  exact Int.zero_lt_one

/-- The rank of a pixel in the direction of a copy. -/
def CopyGeometry.rank (r : CopyGeometry) (q : HostPixel) : Int :=
  (if r.srcX.toInt ≤ r.dstX.toInt then q.2.1 else -q.2.1) +
    if r.srcY.toInt ≤ r.dstY.toInt then q.2.2 else -q.2.2

/-- Within one drawable every strip moves its pixels in the direction of the
copy, or not at all. -/
theorem stripMove_lowers_rank (h : OriginFits b) :
    (r.stripMove dst dst b).Lowers r.rank := by
  rintro ⟨handle, x, y⟩ hregion hmoved
  obtain ⟨rfl, -⟩ := CopyGeometry.stripMove_region.mp hregion
  obtain ⟨hx, hy⟩ := h
  simp only [CopyGeometry.stripMove, CopyGeometry.stripSource, ne_eq, Prod.mk.injEq, true_and]
    at hmoved
  simp only [CopyGeometry.rank, CopyGeometry.stripMove, CopyGeometry.stripSource]
  split <;> split <;> omega

/-- Within one drawable the moves are safe just when the strips are. -/
theorem safe_stripMoves_iff {strips : List (Box Int)} :
    Moves.Safe (strips.map (r.stripMove dst dst)) ↔ r.StripsSafe strips := by
  rw [Moves.safe_map_iff]
  constructor
  · intro hsafe before b after hsplit p hp hafter c hc hread
    have hkeeps := hsafe before b after hsplit (dst, p)
      (CopyGeometry.stripMove_region_self.mpr hp) (fun d hd => ?_) c hc
    · exact (Prod.mk.inj (CopyGeometry.stripMove_keeps.mp hkeeps rfl hread)).2
    · exact Bool.eq_false_iff.mpr fun h => hafter d hd (CopyGeometry.stripMove_region_self.mp h)
  · rintro hstrips before b after hsplit ⟨handle, p⟩ hp hafter c hc
    obtain ⟨rfl, hpb⟩ := CopyGeometry.stripMove_region.mp hp
    refine CopyGeometry.stripMove_keeps.mpr fun _ hread => ?_
    refine congrArg (Prod.mk _) (hstrips before b after hsplit p hpb (fun d hd hpd => ?_) c hc hread)
    have houtside := hafter d hd
    rw [CopyGeometry.stripMove_region_self.mpr hpd] at houtside
    cases houtside

/-- Copies between two drawables do not disturb each other. -/
theorem safe_stripMoves_of_ne (h : src ≠ dst) (strips : List (Box Int)) :
    Moves.Safe (strips.map (r.stripMove src dst)) :=
  Moves.safe_map_iff.mpr fun _ _ _ _ _ _ _ _ _ =>
    CopyGeometry.stripMove_keeps.mpr fun hsame => absurd hsame h

/-- Moves of strips do what they would do at once unless they disturb each other
within one drawable. -/
theorem run_stripMoves_iff {strips : List (Box Int)} (hfits : ∀ b ∈ strips, OriginFits b) :
    (∀ content : HostPixel → UInt32, Moves.run (strips.map (r.stripMove src dst)) content =
      Moves.simultaneous (strips.map (r.stripMove src dst)) content) ↔
    (src = dst → r.StripsSafe strips) := by
  have : Nontrivial UInt32 := ⟨0, 1, by decide⟩
  by_cases hshared : src = dst
  · subst hshared
    have hlowers : ∀ m ∈ strips.map (r.stripMove src src), m.Lowers r.rank :=
      List.forall_mem_map.mpr fun b hb => stripMove_lowers_rank (hfits b hb)
    rw [Moves.run_eq_simultaneous_iff hlowers, safe_stripMoves_iff]
    exact ⟨fun hsafe _ => hsafe, fun hsafe => hsafe rfl⟩
  · have hlowers : ∀ m ∈ strips.map (r.stripMove src dst), m.Lowers _ :=
      List.forall_mem_map.mpr fun b _ => stripMove_lowers_of_ne hshared
    rw [Moves.run_eq_simultaneous_iff hlowers]
    exact iff_of_true (safe_stripMoves_of_ne hshared strips) fun h => absurd h hshared

/-! ## The split copy -/

/-- The strips of the copy are safe if source and destination share their host
drawable. -/
def ServerState.CopiesSafely (s : ServerState) (request : CopyAreaRequest) : Prop :=
  ∀ src dst st r, s.resources.hostDrawableTarget request.src = some src →
    s.resources.hostDrawableTarget request.dst = some dst → src.hostXid = dst.hostXid →
    s.resources.resolveDrawState request.gc = some st →
    (s.resources.copyAreaSourceSplit request.src request.toCopyGeometry).1 = some r →
    r.StripsSafe (s.copyStrips request.dst st r)

theorem ResourceTable.copyAreaSourceSplit_empty {t : ResourceTable} {id : ResourceId}
    {size : UInt16 × UInt16} (hsize : t.drawableSize id = some size)
    (h : r.width = 0 ∨ r.height = 0) : (t.copyAreaSourceSplit id r).1 = none := by
  refine copyAreaSourceSplit_none hsize fun hproper => ?_
  obtain ⟨hx, hy⟩ := hproper
  simp only [CopyGeometry.srcBox, Box.inter] at hx hy
  rcases h with hw | hh
  · rw [hw, UInt16.toNat_zero] at hx
    omega
  · rw [hh, UInt16.toNat_zero] at hy
    omega

/-- A split copy leaves what all its copies at once would leave, whatever the
drawables hold, just when its strips are safe. -/
theorem splitCopy_eq_simultaneous_iff (h : s.handleCopyArea client request = .ok out) :
    (∀ content : HostPixel → UInt32,
      Moves.run out.moves content = Moves.simultaneous out.moves content) ↔
    s.CopiesSafely request := by
  rcases ServerState.handleCopyArea_cases h with
    ⟨rfl, hnothing⟩ | ⟨src, dst, st, hsrc, hdst, hst, rfl⟩
  · refine iff_of_true (fun _ => rfl) fun src dst st r hsrc hdst _ _ hr => ?_
    obtain ⟨size, hsize⟩ := ResourceTable.drawableSize_of_hostDrawableTarget hsrc
    have hempty : request.width = 0 ∨ request.height = 0 := by
      rcases hnothing with hw | hh | hnone | hnone
      · exact .inl hw
      · exact .inr hh
      · exact nomatch hnone.symm.trans hsrc
      · exact nomatch hnone.symm.trans hdst
    exact nomatch (ResourceTable.copyAreaSourceSplit_empty hsize hempty).symm.trans hr
  · obtain ⟨size, hsize⟩ := ResourceTable.drawableSize_of_hostDrawableTarget hsrc
    rw [ServerState.moves_copyBetween hsize hst]
    cases hr : (s.resources.copyAreaSourceSplit request.src request.toCopyGeometry).1 with
    | none =>
      refine iff_of_true (fun _ => rfl) fun _ _ _ _ _ _ _ _ hsome => ?_
      exact nomatch hr.symm.trans hsome
    | some r =>
      rw [Option.elim_some, run_stripMoves_iff fun b hb => (ServerState.copyStrips_origin hb).2.2]
      constructor
      · intro hsafe src' dst' st' r' hsrc' hdst' hshared hst' hr'
        obtain rfl := Option.some.inj (hsrc.symm.trans hsrc')
        obtain rfl := Option.some.inj (hdst.symm.trans hdst')
        obtain rfl := Option.some.inj (hst.symm.trans hst')
        obtain rfl := Option.some.inj (hr.symm.trans hr')
        exact hsafe hshared
      · exact fun hsafe hshared => hsafe src dst st r hsrc hdst hshared hst hr

theorem CopyGeometry.StripsSafe.of_pairwise {r : CopyGeometry} {strips : List (Box Int)}
    (h : strips.Pairwise fun c b => ∀ p ∈ b, r.stripSource b p ∉ c) : r.StripsSafe strips := by
  rintro before b after rfl p hp - c hc hread
  have hearlier := (List.pairwise_append.mp h).2.2 c hc b List.mem_cons_self
  exact absurd hread (hearlier p hp)

/-- The state above without the redirection of the child. -/
def scrollState : ServerState := { copyState with compositeRedirects := [] }

/-- The window is scrolled aside by a column, its child apart. No strip reads what another one
has written before. -/
theorem splitCopy_scrolled :
    ∃ out, scrollState.handleCopyArea 1 ⟨⟨1, 0, 0, 0, 7, 8⟩, 0x100002, 0x100002, 0x100004⟩ =
        .ok out ∧
      out.moves.length = 4 ∧
      ∀ content : HostPixel → UInt32,
        Moves.run out.moves content = Moves.simultaneous out.moves content := by
  have hcopied : ∃ out, scrollState.handleCopyArea 1
      ⟨⟨1, 0, 0, 0, 7, 8⟩, 0x100002, 0x100002, 0x100004⟩ = .ok out ∧ out.moves.length = 4 :=
    ⟨_, rfl, rfl⟩
  obtain ⟨out, hout, hlength⟩ := hcopied
  refine ⟨out, hout, hlength, (splitCopy_eq_simultaneous_iff hout).mpr ?_⟩
  intro src dst st r hsrc hdst hshared hst hr
  have hstrips : (scrollState.resources.resolveDrawState 0x100004).map
      (scrollState.copyStrips 0x100002 · ⟨1, 0, 0, 0, 7, 8⟩) =
        some [⟨0, 7, 0, 2⟩, ⟨0, 7, 6, 8⟩, ⟨0, 2, 2, 6⟩, ⟨6, 7, 2, 6⟩] := by decide
  rw [show scrollState.resources.resolveDrawState 0x100004 = some st from hst, Option.map_some,
    Option.some.injEq] at hstrips
  obtain rfl := Option.some.inj hr
  change CopyGeometry.StripsSafe ⟨1, 0, 0, 0, 7, 8⟩
    (scrollState.copyStrips 0x100002 st ⟨1, 0, 0, 0, 7, 8⟩)
  rw [hstrips]
  have hsource (b : Box Int) (hb : b.x₀ ≤ 6 ∧ b.y₀ ≤ 6) (p : Point) :
      CopyGeometry.stripSource ⟨1, 0, 0, 0, 7, 8⟩ b p = (p.1 + 1, p.2) := by
    refine Prod.ext ?_ ?_
    · change p.1 - b.x₀ + min 32767 (1 + (b.x₀ - 0)) = p.1 + 1
      omega
    · change p.2 - b.y₀ + min 32767 (0 + (b.y₀ - 0)) = p.2
      omega
  refine .of_pairwise ?_
  simp only [List.pairwise_cons, List.mem_cons, List.not_mem_nil, or_false, forall_eq_or_imp,
    forall_eq, false_imp_iff, implies_true, List.Pairwise.nil, and_true]
  refine ⟨⟨?_, ?_, ?_⟩, ⟨?_, ?_⟩, ?_⟩
  all_goals
    intro p hp
    rw [hsource _ (by decide), Box.mem_iff]
    rw [Box.mem_iff] at hp
    dsimp only at hp ⊢
    omega

/-- The window is scrolled down by a row, its child aside. The strip above the
child writes the row that the strip left of it has yet to read. -/
theorem scroll_overwrites :
    ∃ out, scrollState.handleCopyArea 1 ⟨⟨0, 0, 0, 1, 8, 7⟩, 0x100002, 0x100002, 0x100004⟩ =
        .ok out ∧
      ∃ content : HostPixel → UInt32,
        Moves.run out.moves content (2, 0, 2) ≠ Moves.simultaneous out.moves content (2, 0, 2) := by
  refine ⟨_, rfl, fun q => UInt32.ofNat q.2.2.toNat, ?_⟩
  decide

end

end X12
