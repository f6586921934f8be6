import Mathlib.Algebra.Ring.Nat
import Mathlib.Data.List.GetD

/-! # Byte strings as bits

Bit `i` of a byte string is bit `i % 8` of its byte `i / 8`; beyond the end no bit is set.
A step that sets some bits as a picture has them, and leaves the others, paints them. -/

namespace Bits

variable {bytes as bs : List UInt8} {i k n : Nat}

def bitAt (bytes : List UInt8) (i : Nat) : Bool :=
  (bytes.getD (i / 8) 0).toNat.testBit (i % 8)

theorem bitAt_byte (hk : k < 8) : bitAt bytes (8 * n + k) = (bytes.getD n 0).toNat.testBit k := by
  have hbyte : (8 * n + k) / 8 = n := by omega
  have hbit : (8 * n + k) % 8 = k := by omega
  rw [bitAt, hbyte, hbit]

theorem ext (hlen : as.length = bs.length) (h : ∀ i, bitAt as i = bitAt bs i) : as = bs := by
  refine List.ext_getElem hlen fun n ha hb => UInt8.toNat_inj.mp (Nat.eq_of_testBit_eq fun k => ?_)
  by_cases hk : k < 8
  · have hbit := h (8 * n + k)
    rwa [bitAt_byte hk, bitAt_byte hk, List.getD_eq_getElem _ _ ha,
      List.getD_eq_getElem _ _ hb] at hbit
  · have hbig : 2 ^ 8 ≤ 2 ^ k := Nat.pow_le_pow_right (by decide) (Nat.not_lt.mp hk)
    rw [Nat.testBit_lt_two_pow (Nat.lt_of_lt_of_le as[n].toNat_lt hbig),
      Nat.testBit_lt_two_pow (Nat.lt_of_lt_of_le bs[n].toNat_lt hbig)]

theorem bitAt_of_length_le (h : 8 * bytes.length ≤ i) : bitAt bytes i = false := by
  have hbyte : bytes.length ≤ i / 8 := by omega
  rw [bitAt, List.getD_eq_default _ _ hbyte]
  exact Nat.zero_testBit _

theorem bitAt_replicate_zero : bitAt (List.replicate n 0) i = false := by
  by_cases h : i / 8 < n
  · rw [bitAt, List.getD_replicate _ h]
    exact Nat.zero_testBit _
  · apply bitAt_of_length_le
    rw [List.length_replicate]
    omega

theorem bitAt_append (as bs : List UInt8) (i : Nat) : bitAt (as ++ bs) i =
    if i < 8 * as.length then bitAt as i else bitAt bs (i - 8 * as.length) := by
  split
  · next h =>
    have hbyte : i / 8 < as.length := by omega
    rw [bitAt, bitAt, List.getD_append _ _ _ _ hbyte]
  · next h =>
    have hbyte : as.length ≤ i / 8 := by omega
    have hrest : (i - 8 * as.length) / 8 = i / 8 - as.length := by omega
    have hbit : (i - 8 * as.length) % 8 = i % 8 := by omega
    rw [bitAt, bitAt, List.getD_append_right _ _ _ _ hbyte, hrest, hbit]

theorem bitAt_drop : bitAt (bytes.drop n) i = bitAt bytes (8 * n + i) := by
  have hbyte : (8 * n + i) / 8 = n + i / 8 := by omega
  have hbit : (8 * n + i) % 8 = i % 8 := by omega
  rw [bitAt, bitAt, hbyte, hbit, List.getD_eq_getElem?_getD, List.getD_eq_getElem?_getD,
    List.getElem?_drop]

theorem bitAt_take (h : i < 8 * n) : bitAt (bytes.take n) i = bitAt bytes i := by
  have hbyte : i / 8 < n := by omega
  rw [bitAt, bitAt, List.getD_eq_getElem?_getD, List.getD_eq_getElem?_getD,
    List.getElem?_take_of_lt hbyte]

theorem bitAt_modify {f : UInt8 → UInt8} (hn : n < bytes.length) : bitAt (bytes.modify n f) i =
    if i / 8 = n then (f (bytes.getD n 0)).toNat.testBit (i % 8) else bitAt bytes i := by
  rw [bitAt, bitAt, List.getD_eq_getElem?_getD, List.getElem?_modify]
  split
  · next h =>
    rw [if_pos h.symm, ← h, List.getD_eq_getElem?_getD, List.getElem?_eq_getElem (h ▸ hn)]
    rfl
  · next h =>
    rw [if_neg (Ne.symm h), List.getD_eq_getElem?_getD]
    simp only [Option.map_eq_map, Option.map_id']

/-! ## Rows of the same length -/

section

variable {row : Nat → List UInt8} {size : Nat}

theorem length_rows (hsize : ∀ r < n, (row r).length = size) :
    ((List.range n).flatMap row).length = n * size := by
  induction n with
  | zero => exact (Nat.zero_mul _).symm
  | succ n ih =>
    rw [List.range_succ, List.flatMap_append, List.length_append, List.flatMap_singleton,
      ih fun r hr => hsize r (Nat.lt_succ_of_lt hr), hsize n (Nat.lt_succ_self n), Nat.add_mul,
      Nat.one_mul]

theorem bitAt_rows {y : Nat} (hy : y < n) (hi : i < 8 * size)
    (hsize : ∀ r < n, (row r).length = size) :
    bitAt ((List.range n).flatMap row) (8 * (y * size) + i) = bitAt (row y) i := by
  induction n with
  | zero => cases hy
  | succ n ih =>
    have hrest : ∀ r < n, (row r).length = size := fun r hr => hsize r (Nat.lt_succ_of_lt hr)
    rw [List.range_succ, List.flatMap_append, List.flatMap_singleton, bitAt_append,
      length_rows hrest]
    rcases Nat.lt_succ_iff_lt_or_eq.mp hy with hy | rfl
    · have hle : (y + 1) * size ≤ n * size := Nat.mul_le_mul_right _ hy
      rw [Nat.add_mul, Nat.one_mul] at hle
      rw [if_pos (by omega), ih hy hrest]
    · rw [if_neg (by omega), Nat.add_sub_cancel_left]

end

/-! ## Painting -/

variable {α ε : Type} {S T : Nat → Prop} {picture : Nat → Bool} {before mid after : List UInt8}

/-- The bits of `S` become those of the picture, the others stay. -/
structure Paints (S : Nat → Prop) (picture : Nat → Bool) (before after : List UInt8) : Prop where
  length : after.length = before.length
  painted : ∀ i, S i → bitAt after i = picture i
  kept : ∀ i, ¬ S i → bitAt after i = bitAt before i

namespace Paints

theorem none : Paints (fun _ => False) picture before before :=
  ⟨rfl, fun _ h => h.elim, fun _ _ => rfl⟩

theorem trans (h : Paints S picture before mid) (h' : Paints T picture mid after) :
    Paints (fun i => S i ∨ T i) picture before after := by
  refine ⟨h'.length.trans h.length, fun i hi => ?_, fun i hi => ?_⟩
  · by_cases hT : T i
    · exact h'.painted i hT
    · exact (h'.kept i hT).trans (h.painted i (hi.resolve_right hT))
  · obtain ⟨hS, hT⟩ := not_or.mp hi
    exact (h'.kept i hT).trans (h.kept i hS)

theorem congr (h : Paints S picture before after) (hST : ∀ i, S i ↔ T i) :
    Paints T picture before after :=
  ⟨h.length, fun i hi => h.painted i ((hST i).mpr hi), fun i hi => h.kept i (mt (hST i).mp hi)⟩

/-- A loop whose steps each paint their bits paints them all. -/
theorem foldlM {step : List UInt8 → α → Except ε (List UInt8)} {S : α → Nat → Prop} {js : List α}
    (hstep : ∀ j ∈ js, ∀ bytes : List UInt8, bytes.length = n →
      ∃ next, step bytes j = .ok next ∧ Paints (S j) picture bytes next)
    (hbefore : before.length = n) :
    ∃ after, js.foldlM step before = .ok after ∧
      Paints (fun i => ∃ j ∈ js, S j i) picture before after := by
  induction js generalizing before with
  | nil => exact ⟨before, rfl, none.congr fun i => by simp⟩
  | cons j js ih =>
    obtain ⟨mid, hmid, hpaints⟩ := hstep j List.mem_cons_self before hbefore
    obtain ⟨after, hafter, hrest⟩ :=
      ih (fun j hj => hstep j (List.mem_cons_of_mem _ hj)) (hpaints.length.trans hbefore)
    refine ⟨after, ?_, (hpaints.trans hrest).congr fun i => by simp⟩
    rw [List.foldlM_cons, hmid]
    exact hafter

/-- Painting a part of the bytes. -/
theorem slice {pre : List UInt8} (post : List UInt8) (hpre : pre.length = n)
    (h : Paints S (fun i => picture (8 * n + i)) before after)
    (hS : ∀ i, S i → i < 8 * before.length) :
    Paints (fun i => 8 * n ≤ i ∧ S (i - 8 * n)) picture (pre ++ before ++ post)
      (pre ++ after ++ post) := by
  subst hpre
  refine ⟨by simp [h.length], fun i hi => ?_, fun i hi => ?_⟩
  · obtain ⟨hge, hi⟩ := hi
    have hlt := hS _ hi
    rw [List.append_assoc, bitAt_append, if_neg (Nat.not_lt.mpr hge), bitAt_append, h.length,
      if_pos hlt, h.painted _ hi, Nat.add_sub_cancel' hge]
  · rw [List.append_assoc, List.append_assoc, bitAt_append, bitAt_append pre]
    split
    · rfl
    · next hge =>
      have hi : ¬ S (i - 8 * pre.length) := fun hS => hi ⟨Nat.not_lt.mp hge, hS⟩
      rw [bitAt_append, bitAt_append before, h.length, h.kept _ hi]

end Paints

end Bits
