import X12.Protocol.RequestLengths
import X12.Verify.Wire
import Mathlib.Tactic.Common

/-! # BIG-REQUESTS framing and the length gates

A body can arrive in a normal frame or, one unit longer, in an extended one.
Of the four validators only the exact core gate takes the extra unit into
account; the verdict of the gates is the same in both framings exactly where
the other three do not notice it. -/

namespace X12

/-! ## Content-derived lengths -/

theorem countOnes_le (n : Nat) : countOnes n ≤ 65535 :=
  Nat.le_trans List.countP_le_length (by simp)

theorem padUnits_le {n bound : Nat} (h : n ≤ bound) : padUnits n ≤ bound := by
  unfold padUnits
  omega

theorem mul_le_bytes {a b : Nat} (ha : a ≤ 255) (hb : b ≤ 255) : a * b ≤ 65535 :=
  Nat.le_trans (Nat.mul_le_mul ha hb) (by decide)

/-- A content-derived length is at least its fixed part, and the content of a
16-bit count keeps it far from the sentinel. -/
theorem content_bounds {fixed content r : Nat} {c : Prop} [Decidable c]
    (h : (if c then some (fixed + content) else none) = some r)
    (hfixed : fixed ≤ 8) (hcontent : content ≤ 65535) : fixed ≤ r ∧ r ≤ u32Max := by
  rw [Option.ite_none_right_eq_some, Option.some.injEq] at h
  unfold u32Max
  omega

theorem wholeItems_eq_some {body : List UInt8} {fixed item r : Nat}
    (h : wholeItems body fixed item = some r) : r = u32Max := by
  rw [wholeItems, Option.ite_none_left_eq_some, Option.some.injEq] at h
  exact h.2.symm

theorem imageText_eq_some {body : List UInt8} {bytes r : Nat}
    (h : imageText body bytes = some r) : r = u32Max := by
  rw [imageText, Option.ite_none_left_eq_some, Option.some.injEq] at h
  exact h.2.symm

/-- Content is looked at only in requests of variable length, and never asks
for less than their minimum. -/
theorem exactRequiredLength_bounds {opcode headerData : UInt8} {body : List UInt8} {r : Nat}
    (h : exactRequiredLength opcode headerData body = some r) :
    ∃ n, coreRequestLength opcode = some (.atLeast n) ∧ n ≤ r ∧ r ≤ u32Max := by
  have hsentinel {n : Nat} (hn : n ≤ 8) (hr : r = u32Max) : n ≤ r ∧ r ≤ u32Max := by
    unfold u32Max at *
    omega
  unfold exactRequiredLength at h
  split at h
  case h_5 =>
    -- ChangeProperty: the byte count itself is checked against 32 bits
    refine ⟨6, rfl, ?_⟩
    simp only [Option.ite_none_right_eq_some, Option.ite_none_left_eq_some,
      Option.some.injEq] at h
    obtain ⟨-, -, hbytes, rfl⟩ := h
    unfold u32Max padUnits at *
    omega
  case h_20 =>
    have := headerData.toNat_lt
    obtain rfl := Option.some.inj h
    refine ⟨1, rfl, ?_⟩
    unfold u32Max padUnits
    omega
  case h_21 =>
    have := headerData.toNat_lt
    obtain rfl := Option.some.inj h
    refine ⟨1, rfl, ?_⟩
    unfold u32Max
    omega
  case h_16 =>
    have hdata : headerData.toNat ≤ 255 := Nat.le_of_lt_succ headerData.toNat_lt
    exact ⟨2, rfl, content_bounds h (by decide) (mul_le_bytes hdata (byteAt_le _ _))⟩
  case h_32 | h_33 =>
    rw [Option.ite_none_right_eq_some] at h
    exact ⟨4, rfl, hsentinel (by decide) (imageText_eq_some h.2)⟩
  case h_34 => cases h
  all_goals first
    | exact ⟨_, rfl, content_bounds h (by decide) (countOnes_le _)⟩
    | exact ⟨_, rfl, content_bounds h (by decide) (readU16Le_le _ _)⟩
    | exact ⟨_, rfl, content_bounds h (by decide) (padUnits_le (readU16Le_le _ _))⟩
    | exact ⟨_, rfl, hsentinel (by decide) (wholeItems_eq_some h)⟩

theorem xiExactRequiredLength_variable {minor : UInt8} {body : List UInt8} {r : Nat}
    (h : xiExactRequiredLength minor body = some r) :
    ∃ n, xiRequestLength minor = some (.atLeast n) := by
  unfold xiExactRequiredLength at h
  split at h
  case h_13 => cases h
  all_goals exact ⟨_, rfl⟩

/-! ## Framings -/

/-- A body that both a normal and an extended frame can carry: whole units,
few enough that a 32-bit length counts them. -/
structure FramedBody where
  bytes : List UInt8
  units : Nat
  aligned : bytes.length = 4 * units
  fits : units + 2 ≤ u32Max

/-- How the length of a frame is written. -/
inductive Framing where
  | normal
  | extended
  deriving DecidableEq, Repr

/-- The length in the header: the extended form counts its own length word. -/
def FramedBody.lengthUnits (body : FramedBody) : Framing → Nat
  | .normal => body.units + 1
  | .extended => body.units + 2

/-- The contract that governs a request: XInput requests have their own. -/
def requestSpec (opcode headerData : UInt8) : Option LenSpec :=
  if opcode = XI2_MAJOR_OPCODE then xiRequestLength headerData else coreRequestLength opcode

section Gates
variable (overflowChecks : Bool) (opcode headerData : UInt8) (body : FramedBody)

def FramedBody.verdict (framing : Framing) : Option Bool :=
  lengthGates overflowChecks opcode headerData (body.lengthUnits framing) body.bytes

/-- The framing makes no difference, and the gates hold a request to its
contract in either. -/
structure FramingTransparent : Prop where
  same : body.verdict overflowChecks opcode headerData .normal =
    body.verdict overflowChecks opcode headerData .extended
  fixedAccepted : ∀ n, requestSpec opcode headerData = some (.fixed n) →
    body.bytes.length + 4 = 4 * n →
    ∀ framing, body.verdict overflowChecks opcode headerData framing = some true
  atLeastCovered : ∀ n, requestSpec opcode headerData = some (.atLeast n) →
    ∀ framing, body.verdict overflowChecks opcode headerData framing = some true →
    4 * n ≤ body.bytes.length + 4

/-- The bodies on which the extra unit goes unnoticed. Under a fixed length
the two headers must both be wrong; under a minimum the extra unit must not be
the one that reaches it, unless the content decides. An XInput content length
is compared without the extra unit, and an overflow-checking build must not
add it to the sentinel. -/
def FramingUnnoticed : Prop :=
  match requestSpec opcode headerData with
  | none => True
  | some (.fixed n) => body.units + 1 ≠ n ∧ body.units + 2 ≠ n
  | some (.atLeast n) =>
    if opcode = XI2_MAJOR_OPCODE then
      match xiExactRequiredLength headerData body.bytes with
      | none => body.units + 2 ≠ n
      | some required => n ≤ required → body.units + 1 ≠ required ∧ body.units + 2 ≠ required
    else
      match exactRequiredLength opcode headerData body.bytes with
      | none => body.units + 2 ≠ n
      | some required => overflowChecks → required = u32Max → body.units + 2 < n

end Gates

section Verdicts
variable {overflowChecks : Bool} {opcode headerData : UInt8} {body : FramedBody}

/-- In a normal frame the exact gate compares the two lengths as they are. -/
theorem exact_normal :
    validateExactRequestLength overflowChecks opcode headerData (body.units + 1) body.bytes =
      some (match exactRequiredLength opcode headerData body.bytes with
        | none => true
        | some required => body.units + 1 == required) := by
  have hframe : ¬ (body.units + 1) * 4 = body.bytes.length + 8 := by
    have := body.aligned
    omega
  unfold validateExactRequestLength
  cases exactRequiredLength opcode headerData body.bytes with
  | none => rfl
  | some required => simp only [if_neg hframe]

/-- In an extended frame the exact gate adds the extra unit, which only the
sentinel can overflow; wrapped around it still matches no header. -/
theorem exact_extended :
    validateExactRequestLength overflowChecks opcode headerData (body.units + 2) body.bytes =
      match exactRequiredLength opcode headerData body.bytes with
      | none => some true
      | some required =>
        if overflowChecks ∧ required = u32Max then none else some (body.units + 1 == required) := by
  have hframe : (body.units + 2) * 4 = body.bytes.length + 8 := by
    have := body.aligned
    omega
  unfold validateExactRequestLength
  cases h : exactRequiredLength opcode headerData body.bytes with
  | none => rfl
  | some required =>
    obtain ⟨n, -, -, hmax⟩ := exactRequiredLength_bounds h
    have hfits := body.fits
    simp only [if_pos hframe, addU32]
    by_cases hr : required = u32Max
    · subst hr
      cases overflowChecks
      · unfold u32Max at *
        simp
        omega
      · rfl
    · have hle : required + 1 ≤ u32Max := by omega
      simp only [hle, hr, if_true, and_false, if_false, Option.map_some, Option.some.injEq]
      rw [Bool.eq_iff_iff, beq_iff_eq, beq_iff_eq]
      omega

theorem verdict_core (hop : opcode ≠ XI2_MAJOR_OPCODE) (framing : Framing) :
    body.verdict overflowChecks opcode headerData framing =
      coreLengthGates overflowChecks opcode headerData (body.lengthUnits framing) body.bytes := by
  unfold FramedBody.verdict lengthGates
  split
  · next h => rw [if_neg hop, h]
  · rfl

theorem verdict_xi (framing : Framing) :
    body.verdict overflowChecks XI2_MAJOR_OPCODE headerData framing =
      some (xiLengthGates headerData (body.lengthUnits framing) body.bytes) := rfl

/-- Only the length of a request that is at least something depends on its content. -/
theorem exactRequiredLength_eq_none {bytes : List UInt8}
    (h : ∀ n, coreRequestLength opcode ≠ some (.atLeast n)) :
    exactRequiredLength opcode headerData bytes = none := by
  refine Option.eq_none_iff_forall_ne_some.mpr fun r hr => ?_
  obtain ⟨n, hn, -⟩ := exactRequiredLength_bounds hr
  exact h n hn

theorem xiExactRequiredLength_eq_none {bytes : List UInt8}
    (h : ∀ n, xiRequestLength headerData ≠ some (.atLeast n)) :
    xiExactRequiredLength headerData bytes = none := by
  refine Option.eq_none_iff_forall_ne_some.mpr fun r hr => ?_
  obtain ⟨n, hn⟩ := xiExactRequiredLength_variable hr
  exact h n hn

/-- A request without a contract passes in either framing. -/
theorem verdict_none (h : requestSpec opcode headerData = none) (framing : Framing) :
    body.verdict overflowChecks opcode headerData framing = some true := by
  unfold requestSpec at h
  split at h
  · next hop =>
    subst hop
    have hexact : xiExactRequiredLength headerData body.bytes = none :=
      xiExactRequiredLength_eq_none fun n hn => nomatch h.symm.trans hn
    simp [verdict_xi, xiLengthGates, validateXiRequestLength, validateXiExactRequestLength, h,
      hexact]
  · next hop =>
    have hexact : exactRequiredLength opcode headerData body.bytes = none :=
      exactRequiredLength_eq_none fun n hn => nomatch h.symm.trans hn
    simp [verdict_core hop, coreLengthGates, validateCoreRequestLength,
      validateExactRequestLength, h, hexact]

/-- A fixed length leaves nothing to the content: the header decides. -/
theorem verdict_fixed {n : Nat} (h : requestSpec opcode headerData = some (.fixed n))
    (framing : Framing) :
    body.verdict overflowChecks opcode headerData framing =
      some (body.lengthUnits framing == n) := by
  unfold requestSpec at h
  split at h
  · next hop =>
    subst hop
    have hexact : xiExactRequiredLength headerData body.bytes = none :=
      xiExactRequiredLength_eq_none fun m hm => nomatch h.symm.trans hm
    simp [verdict_xi, xiLengthGates, validateXiRequestLength, validateXiExactRequestLength, h,
      hexact, LenSpec.Met]
  · next hop =>
    have hexact : exactRequiredLength opcode headerData body.bytes = none :=
      exactRequiredLength_eq_none fun m hm => nomatch h.symm.trans hm
    cases hlen : body.lengthUnits framing == n <;>
      simp [verdict_core hop, coreLengthGates, validateCoreRequestLength,
        validateExactRequestLength, h, hexact, LenSpec.Met, hlen]

/-- An XInput request of variable length. -/
theorem verdict_xi_atLeast {n : Nat} (h : xiRequestLength headerData = some (.atLeast n))
    (framing : Framing) :
    body.verdict overflowChecks XI2_MAJOR_OPCODE headerData framing =
      some (decide (n ≤ body.lengthUnits framing) &&
        match xiExactRequiredLength headerData body.bytes with
        | none => true
        | some required => body.lengthUnits framing == required) := by
  simp only [verdict_xi, xiLengthGates, validateXiRequestLength, h, LenSpec.Met,
    validateXiExactRequestLength]
  cases xiExactRequiredLength headerData body.bytes <;> rfl

/-- A core request of variable length in a normal frame. -/
theorem verdict_atLeast_normal {n : Nat} (hop : opcode ≠ XI2_MAJOR_OPCODE)
    (h : coreRequestLength opcode = some (.atLeast n)) :
    body.verdict overflowChecks opcode headerData .normal =
      some (decide (n ≤ body.units + 1) &&
        match exactRequiredLength opcode headerData body.bytes with
        | none => true
        | some required => body.units + 1 == required) := by
  rw [verdict_core hop, coreLengthGates, validateCoreRequestLength, h]
  simp only [LenSpec.Met, FramedBody.lengthUnits, exact_normal]
  by_cases hn : n ≤ body.units + 1 <;> simp [hn]

/-- A core request of variable length in an extended frame. -/
theorem verdict_atLeast_extended {n : Nat} (hop : opcode ≠ XI2_MAJOR_OPCODE)
    (h : coreRequestLength opcode = some (.atLeast n)) :
    body.verdict overflowChecks opcode headerData .extended =
      if n ≤ body.units + 2 then
        match exactRequiredLength opcode headerData body.bytes with
        | none => some true
        | some required =>
          if overflowChecks ∧ required = u32Max then none
          else some (body.units + 1 == required)
      else some false := by
  rw [verdict_core hop, coreLengthGates, validateCoreRequestLength, h]
  by_cases hn : n ≤ body.units + 2 <;>
    simp [LenSpec.Met, FramedBody.lengthUnits, exact_extended, hn]

/-- In a normal frame a request accepted under a minimum has the bytes for it. -/
theorem atLeast_of_normal {n : Nat} (h : requestSpec opcode headerData = some (.atLeast n))
    (hv : body.verdict overflowChecks opcode headerData .normal = some true) :
    n ≤ body.units + 1 := by
  unfold requestSpec at h
  split at h
  · next hop =>
    subst hop
    rw [verdict_xi_atLeast h, Option.some.injEq, Bool.and_eq_true, decide_eq_true_eq] at hv
    exact hv.1
  · next hop =>
    rw [verdict_atLeast_normal hop h, Option.some.injEq, Bool.and_eq_true, decide_eq_true_eq] at hv
    exact hv.1

/-- In normal frames the gates keep every contract, so all that can go wrong
is that the framings disagree. -/
theorem framingTransparent_iff_same :
    FramingTransparent overflowChecks opcode headerData body ↔
      body.verdict overflowChecks opcode headerData .normal =
        body.verdict overflowChecks opcode headerData .extended := by
  refine ⟨FramingTransparent.same, fun hsame => ⟨hsame, ?_, ?_⟩⟩
  · intro n hspec hlen
    have haligned := body.aligned
    have hnormal : body.verdict overflowChecks opcode headerData .normal = some true := by
      rw [verdict_fixed hspec, Option.some.injEq, beq_iff_eq, FramedBody.lengthUnits]
      omega
    rintro ⟨⟩
    · exact hnormal
    · exact hsame ▸ hnormal
  · intro n hspec framing hv
    have hnormal : body.verdict overflowChecks opcode headerData .normal = some true := by
      cases framing with
      | normal => exact hv
      | extended => exact hsame.trans hv
    have := atLeast_of_normal hspec hnormal
    have := body.aligned
    omega

end Verdicts

/-- Extended framing is transparent exactly where the extra unit goes
unnoticed. -/
theorem framingTransparent_iff (overflowChecks : Bool) (opcode headerData : UInt8)
    (body : FramedBody) :
    FramingTransparent overflowChecks opcode headerData body ↔
      FramingUnnoticed overflowChecks opcode headerData body := by
  rw [framingTransparent_iff_same, FramingUnnoticed]
  cases hspec : requestSpec opcode headerData with
  | none => simp [verdict_none hspec]
  | some spec =>
    cases spec with
    | fixed n =>
      rw [verdict_fixed hspec, verdict_fixed hspec, Option.some.injEq, Bool.eq_iff_iff]
      simp only [FramedBody.lengthUnits, beq_iff_eq]
      omega
    | atLeast n =>
      simp only
      split
      · next hop =>
        subst hop
        have hxi : xiRequestLength headerData = some (.atLeast n) := hspec
        rw [verdict_xi_atLeast hxi, verdict_xi_atLeast hxi, Option.some.injEq, Bool.eq_iff_iff]
        cases xiExactRequiredLength headerData body.bytes with
        | none =>
          simp only [Bool.and_true, decide_eq_true_eq]
          simp only [FramedBody.lengthUnits]
          omega
        | some required =>
          simp only [Bool.and_eq_true, decide_eq_true_eq, beq_iff_eq]
          simp only [FramedBody.lengthUnits]
          omega
      · next hop =>
        have hcore : coreRequestLength opcode = some (.atLeast n) := by
          rwa [requestSpec, if_neg hop] at hspec
        rw [verdict_atLeast_normal hop hcore, verdict_atLeast_extended hop hcore]
        cases hx : exactRequiredLength opcode headerData body.bytes with
        | none =>
          by_cases h2 : n ≤ body.units + 2 <;> simp [h2] <;> omega
        | some required =>
          obtain ⟨m, hm, hle, -⟩ := exactRequiredLength_bounds hx
          obtain rfl : n = m := by rw [hcore] at hm; cases hm; rfl
          by_cases hsent : overflowChecks ∧ required = u32Max
          · -- the panic: only the header decides whether it is reached
            obtain ⟨hchecks, rfl⟩ := hsent
            have hfits := body.fits
            by_cases h2 : n ≤ body.units + 2
            · simp [h2, hchecks]
            · have h1 : ¬ n ≤ body.units + 1 := by omega
              simp [h1, h2]
              omega
          · refine iff_of_true ?_ fun hchecks hr => absurd ⟨hchecks, hr⟩ hsent
            by_cases hr : body.units + 1 = required
            · subst hr
              have h2 : n ≤ body.units + 2 := by omega
              simp [hle, h2, if_neg hsent]
            · have hne : (body.units + 1 == required) = false := beq_false_of_ne hr
              simp [hne, if_neg hsent]

/-- A two-unit request whose body is empty: the extended header reads as the
right length. -/
theorem framing_not_transparent :
    ¬ FramingTransparent false 3 0 ⟨[0, 0, 0, 0], 1, rfl, by decide⟩ := by
  intro h
  exact absurd h.same (by decide)

end X12
