import X12.Lib.Layout

/-! # Reversing slices that lie apart

Slices of a buffer that share no place can be reversed in any order, and doing
it twice gives the buffer back. A slice past the end is left alone, so this
holds of a buffer of any length. -/

namespace Layout

variable {α : Type*}

structure Slice where
  offset : Nat
  size : Nat
  deriving DecidableEq, Repr

namespace Slice

variable {p q : Slice} {buf : List α}

def Covers (p : Slice) (i : Nat) : Prop :=
  p.offset ≤ i ∧ i < p.offset + p.size

instance (p : Slice) (i : Nat) : Decidable (p.Covers i) :=
  inferInstanceAs (Decidable (_ ∧ _))

def Apart (p q : Slice) : Prop :=
  p.offset + p.size ≤ q.offset ∨ q.offset + q.size ≤ p.offset

theorem Apart.symm (h : p.Apart q) : q.Apart p :=
  Or.symm h

theorem Apart.not_covers (h : p.Apart q) (i : Nat) : ¬ (p.Covers i ∧ q.Covers i) := by
  rintro ⟨⟨h₁, h₂⟩, h₃, h₄⟩
  rcases h with h | h <;> omega

def reverse (buf : List α) (p : Slice) : List α :=
  reverseSlice buf p.offset p.size

@[simp] theorem length_reverse (buf : List α) (p : Slice) :
    (p.reverse buf).length = buf.length :=
  length_reverseSlice ..

/-- A slice that fits cuts the buffer in three. -/
theorem exists_cut (h : p.offset + p.size ≤ buf.length) :
    ∃ front seg back, buf = front ++ (seg ++ back) ∧ front.length = p.offset ∧
      seg.length = p.size := by
  refine ⟨buf.take p.offset, (buf.drop p.offset).take p.size,
    (buf.drop p.offset).drop p.size, ?_, ?_, ?_⟩
  · rw [List.take_append_drop, List.take_append_drop]
  · exact List.length_take_of_le (by omega)
  · rw [List.length_take_of_le]
    rw [List.length_drop]
    omega

theorem reverse_cut {front seg back : List α} (hfront : front.length = p.offset)
    (hseg : seg.length = p.size) :
    p.reverse (front ++ (seg ++ back)) = front ++ (seg.reverse ++ back) := by
  rw [reverse, ← hfront, ← hseg, reverseSlice_append]

theorem reverse_of_lt (h : buf.length < p.offset + p.size) : p.reverse buf = buf :=
  reverseSlice_of_lt h

theorem reverse_reverse (buf : List α) (p : Slice) : p.reverse (p.reverse buf) = buf := by
  by_cases hfits : p.offset + p.size ≤ buf.length
  · obtain ⟨front, seg, back, rfl, hfront, hseg⟩ := exists_cut hfits
    rw [reverse_cut hfront hseg, reverse_cut hfront (List.length_reverse.trans hseg),
      List.reverse_reverse]
  · have hlt := Nat.lt_of_not_le hfits
    rw [reverse_of_lt hlt, reverse_of_lt hlt]

theorem reverse_comm_of_le (h : p.offset + p.size ≤ q.offset) (buf : List α) :
    q.reverse (p.reverse buf) = p.reverse (q.reverse buf) := by
  by_cases hq : q.offset + q.size ≤ buf.length
  · obtain ⟨front, seg, back, rfl, hfront, hseg⟩ := exists_cut hq
    have hp : p.offset + p.size ≤ front.length := hfront ▸ h
    obtain ⟨front₁, seg₁, back₁, rfl, hfront₁, hseg₁⟩ := exists_cut hp
    have hlen : (front₁ ++ (seg₁.reverse ++ back₁)).length = q.offset := by
      rw [← hfront]
      simp
    rw [reverse_cut hfront hseg]
    simp only [List.append_assoc]
    rw [reverse_cut hfront₁ hseg₁, reverse_cut hfront₁ hseg₁]
    have hcut : q.reverse (front₁ ++ (seg₁.reverse ++ back₁) ++ (seg ++ back)) = _ :=
      reverse_cut hlen hseg
    simpa only [List.append_assoc] using hcut
  · have hq' : (p.reverse buf).length < q.offset + q.size := by
      rw [length_reverse]
      omega
    rw [reverse_of_lt hq', reverse_of_lt (Nat.lt_of_not_le hq)]

theorem Apart.reverse_comm (h : p.Apart q) (buf : List α) :
    q.reverse (p.reverse buf) = p.reverse (q.reverse buf) := by
  rcases h with h | h
  · exact reverse_comm_of_le h buf
  · exact (reverse_comm_of_le h buf).symm

/-- Places outside the slice keep what they hold. -/
theorem reverse_getElem? {i : Nat} (h : ¬ p.Covers i) (buf : List α) :
    (p.reverse buf)[i]? = buf[i]? := by
  by_cases hfits : p.offset + p.size ≤ buf.length
  · obtain ⟨front, seg, back, rfl, hfront, hseg⟩ := exists_cut hfits
    rw [reverse_cut hfront hseg]
    by_cases hi : i < front.length
    · rw [List.getElem?_append_left hi, List.getElem?_append_left hi]
    · have hi' : front.length ≤ i := Nat.le_of_not_lt hi
      have hseg' : seg.length ≤ i - front.length := by
        unfold Covers at h
        omega
      have hrev : seg.reverse.length ≤ i - front.length := by
        rwa [List.length_reverse]
      rw [List.getElem?_append_right hi', List.getElem?_append_right hi',
        List.getElem?_append_right hrev, List.getElem?_append_right hseg', List.length_reverse]
  · rw [reverse_of_lt (Nat.lt_of_not_le hfits)]

end Slice

variable {p : Slice} {slices slices' : List Slice} {buf : List α}

def reverseSlices (slices : List Slice) (buf : List α) : List α :=
  slices.foldl Slice.reverse buf

@[simp] theorem reverseSlices_nil (buf : List α) : reverseSlices [] buf = buf := rfl

@[simp] theorem reverseSlices_cons (p : Slice) (slices : List Slice) (buf : List α) :
    reverseSlices (p :: slices) buf = reverseSlices slices (p.reverse buf) := rfl

theorem reverseSlices_append (slices slices' : List Slice) (buf : List α) :
    reverseSlices (slices ++ slices') buf = reverseSlices slices' (reverseSlices slices buf) :=
  List.foldl_append

@[simp] theorem length_reverseSlices (slices : List Slice) (buf : List α) :
    (reverseSlices slices buf).length = buf.length := by
  induction slices generalizing buf with
  | nil => rfl
  | cons p slices ih => rw [reverseSlices_cons, ih, Slice.length_reverse]

theorem reverse_reverseSlices (h : ∀ q ∈ slices, p.Apart q) (buf : List α) :
    p.reverse (reverseSlices slices buf) = reverseSlices slices (p.reverse buf) := by
  induction slices generalizing buf with
  | nil => rfl
  | cons q slices ih =>
    obtain ⟨hq, hslices⟩ := List.forall_mem_cons.mp h
    rw [reverseSlices_cons, ih hslices, reverseSlices_cons, hq.reverse_comm]

theorem reverseSlices_reverseSlices (h : slices.Pairwise Slice.Apart) (buf : List α) :
    reverseSlices slices (reverseSlices slices buf) = buf := by
  induction slices generalizing buf with
  | nil => rfl
  | cons p slices ih =>
    obtain ⟨hp, hslices⟩ := List.pairwise_cons.mp h
    rw [reverseSlices_cons, reverseSlices_cons, reverse_reverseSlices hp, ih hslices,
      Slice.reverse_reverse]

theorem reverseSlices_getElem? {i : Nat} (h : ∀ p ∈ slices, ¬ p.Covers i) (buf : List α) :
    (reverseSlices slices buf)[i]? = buf[i]? := by
  induction slices generalizing buf with
  | nil => rfl
  | cons p slices ih =>
    obtain ⟨hp, hslices⟩ := List.forall_mem_cons.mp h
    rw [reverseSlices_cons, ih hslices, Slice.reverse_getElem? hp]

end Layout
