import X12.Lib.Slices
import X12.Protocol.RequestSwap

/-! # Swapping twice

Every entry of a table reverses slices of the body. The slices of a table lie
apart, whatever the length of the body, so swapping a body twice gives it back. -/

namespace X12

open Layout (Slice reverseSlices)

/-! ## Entries -/

/-- The elements of an array that lie in a body of the given size. -/
def elementSlices (kind : FieldKind) (size : Nat) : Nat → Nat → List Slice
  | 0, _ => []
  | fuel + 1, offset =>
    if offset + kind.size ≤ size then
      ⟨offset, kind.size⟩ :: elementSlices kind size fuel (offset + kind.size)
    else []

namespace FieldEntry

/-- What an entry reverses in a body of the given size. -/
def slices (size : Nat) : FieldEntry → List Slice
  | fixed offset kind => [⟨offset, kind.size⟩]
  | opaqueTail _ => []
  | elementArrayTail start kind => elementSlices kind size size start
  | lengthPrefixedBytes lengthOffset lengthKind _ => [⟨lengthOffset, lengthKind.size⟩]
  | custom _ => []

/-- The entry moves the byte at a place of a body of the given size. -/
def Touches (size : Nat) (e : FieldEntry) (i : Nat) : Prop :=
  i < size ∧ ∃ p ∈ e.slices size, p.Covers i

instance (size : Nat) (e : FieldEntry) (i : Nat) : Decidable (e.Touches size i) :=
  inferInstanceAs (Decidable (_ ∧ _))

/-- The entry is a field or a tail and no handler of its own. -/
def isPlain : FieldEntry → Bool
  | custom _ => false
  | _ => true

/-- The first place that the entry may touch and, of a field, the first one behind it. -/
def bounds : FieldEntry → Nat × Option Nat
  | fixed offset kind => (offset, some (offset + kind.size))
  | opaqueTail start => (start, some start)
  | elementArrayTail start _ => (start, none)
  | lengthPrefixedBytes lengthOffset lengthKind _ =>
    (lengthOffset, some (lengthOffset + lengthKind.size))
  | custom _ => (0, none)

/-- One of the two ends before the other starts. -/
def apart (e e' : FieldEntry) : Bool :=
  e.bounds.2.any (· ≤ e'.bounds.1) || e'.bounds.2.any (· ≤ e.bounds.1)

end FieldEntry

open FieldEntry

section
variable {kind : FieldKind} {e e' : FieldEntry}

theorem elementSlices_bounds {size fuel offset : Nat} :
    ∀ p ∈ elementSlices kind size fuel offset, offset ≤ p.offset := by
  induction fuel generalizing offset with
  | zero => simp [elementSlices]
  | succ fuel ih =>
    rw [elementSlices]
    split
    · refine List.forall_mem_cons.mpr ⟨Nat.le_refl _, fun p hp => ?_⟩
      exact Nat.le_trans (Nat.le_add_right ..) (ih p hp)
    · simp

theorem elementSlices_pairwise (size fuel offset : Nat) :
    (elementSlices kind size fuel offset).Pairwise Slice.Apart := by
  induction fuel generalizing offset with
  | zero => exact .nil
  | succ fuel ih =>
    rw [elementSlices]
    split
    · exact .cons (fun q hq => .inl (elementSlices_bounds q hq)) (ih _)
    · exact .nil

/-- The loop over the elements of a tail reverses them one by one. -/
theorem swapElements_eq (fuel offset : Nat) (buf : List UInt8) :
    swapElements kind fuel offset buf =
      reverseSlices (elementSlices kind buf.length fuel offset) buf := by
  induction fuel generalizing offset buf with
  | zero => rfl
  | succ fuel ih =>
    rw [swapElements, elementSlices]
    split
    · rw [ih, swapTyped, Layout.length_reverseSlice]
      rfl
    · rfl

theorem applyEntry_eq (he : e.isPlain) (byteOrder : ClientByteOrder) (buf : List UInt8) :
    applyEntry byteOrder buf e = reverseSlices (e.slices buf.length) buf := by
  cases e with
  | fixed offset kind => rfl
  | opaqueTail start => rfl
  | elementArrayTail start kind => exact swapElements_eq ..
  | lengthPrefixedBytes lengthOffset lengthKind dataOffset => rfl
  | custom swap => cases he

theorem slices_pairwise (e : FieldEntry) (size : Nat) :
    (e.slices size).Pairwise Slice.Apart := by
  cases e with
  | fixed | lengthPrefixedBytes => exact List.pairwise_singleton ..
  | opaqueTail | custom => exact .nil
  | elementArrayTail => exact elementSlices_pairwise ..

/-- The slices of an entry lie within its bounds. -/
theorem slices_bounds {size : Nat} :
    ∀ p ∈ e.slices size, e.bounds.1 ≤ p.offset ∧
      ∀ stop ∈ e.bounds.2, p.offset + p.size ≤ stop := by
  cases e with
  | fixed | lengthPrefixedBytes => simp [slices, bounds]
  | opaqueTail | custom => simp [slices]
  | elementArrayTail => exact fun p hp => ⟨elementSlices_bounds p hp, nofun⟩

theorem slices_apart (h : e.apart e') {size : Nat} :
    ∀ p ∈ e.slices size, ∀ q ∈ e'.slices size, p.Apart q := by
  intro p hp q hq
  obtain ⟨hpstart, hpstop⟩ := slices_bounds p hp
  obtain ⟨hqstart, hqstop⟩ := slices_bounds q hq
  rw [apart, Bool.or_eq_true, Option.any_eq_true, Option.any_eq_true] at h
  rcases h with ⟨stop, hstop, h⟩ | ⟨stop, hstop, h⟩
  · exact .inl (Nat.le_trans (hpstop stop hstop) (Nat.le_trans (of_decide_eq_true h) hqstart))
  · exact .inr (Nat.le_trans (hqstop stop hstop) (Nat.le_trans (of_decide_eq_true h) hpstart))

end

/-! ## Tables -/

/-- No handlers, and the bounds of the entries lie apart. -/
def tidy (entries : List FieldEntry) : Bool :=
  entries.all isPlain && decide (entries.Pairwise fun e e' => e.apart e')

section
variable {entries : List FieldEntry}

theorem tidy_iff : tidy entries ↔
    (∀ e ∈ entries, e.isPlain) ∧ entries.Pairwise fun e e' => e.apart e' := by
  rw [tidy, Bool.and_eq_true, List.all_eq_true, decide_eq_true_eq]

theorem swapInPlace_eq (h : ∀ e ∈ entries, e.isPlain) (buf : List UInt8) :
    swapInPlace entries .bigEndian buf =
      reverseSlices (entries.flatMap (·.slices buf.length)) buf := by
  rw [swapInPlace]
  induction entries generalizing buf with
  | nil => rfl
  | cons e entries ih =>
    obtain ⟨he, hentries⟩ := List.forall_mem_cons.mp h
    rw [List.foldl_cons, applyEntry_eq he, ih hentries, Layout.length_reverseSlices,
      List.flatMap_cons, Layout.reverseSlices_append]

theorem tidy_pairwise (h : tidy entries) (size : Nat) :
    (entries.flatMap (·.slices size)).Pairwise Slice.Apart :=
  List.pairwise_flatMap.mpr ⟨fun e _ => slices_pairwise e size,
    (tidy_iff.mp h).2.imp fun happart => slices_apart happart⟩

theorem length_swapInPlace (h : tidy entries) (buf : List UInt8) :
    (swapInPlace entries .bigEndian buf).length = buf.length := by
  rw [swapInPlace_eq (tidy_iff.mp h).1, Layout.length_reverseSlices]

theorem swapInPlace_swapInPlace (h : tidy entries) (buf : List UInt8) :
    swapInPlace entries .bigEndian (swapInPlace entries .bigEndian buf) = buf := by
  have hplain := (tidy_iff.mp h).1
  rw [swapInPlace_eq hplain (swapInPlace ..), length_swapInPlace h, swapInPlace_eq hplain,
    Layout.reverseSlices_reverseSlices (tidy_pairwise h _)]

/-- A byte that no entry touches stays what it is. -/
theorem swapInPlace_getElem? (h : tidy entries) {i : Nat} {buf : List UInt8}
    (hi : ∀ e ∈ entries, ¬ e.Touches buf.length i) :
    (swapInPlace entries .bigEndian buf)[i]? = buf[i]? := by
  by_cases hlt : i < buf.length
  · rw [swapInPlace_eq (tidy_iff.mp h).1, Layout.reverseSlices_getElem?]
    intro p hp hcovers
    obtain ⟨e, he, hp⟩ := List.mem_flatMap.mp hp
    exact hi e he ⟨hlt, p, hp, hcovers⟩
  · rw [List.getElem?_eq_none, List.getElem?_eq_none (Nat.le_of_not_lt hlt)]
    rw [length_swapInPlace h]
    exact Nat.le_of_not_lt hlt

theorem tidy_touches (h : tidy entries) (size : Nat) :
    entries.Pairwise fun e e' => ∀ i, ¬ (e.Touches size i ∧ e'.Touches size i) := by
  refine (tidy_iff.mp h).2.imp fun happart i => ?_
  rintro ⟨⟨-, p, hp, hpi⟩, -, q, hq, hqi⟩
  exact (slices_apart happart p hp q hq).not_covers i ⟨hpi, hqi⟩

end

theorem coreTables_tidy :
    ∀ code < 256, (coreRequestSwapTable (UInt8.ofNat code)).all tidy := by
  decide +kernel

theorem xiTables_tidy :
    ∀ minor < 256, (xiRequestSwapTable (UInt8.ofNat minor)).all tidy := by
  decide +kernel

theorem coreTable_tidy {opcode : UInt8} {entries : List FieldEntry}
    (h : coreRequestSwapTable opcode = some entries) : tidy entries := by
  have hall := coreTables_tidy opcode.toNat opcode.toNat_lt
  rwa [UInt8.ofNat_toNat, h] at hall

theorem xiTable_tidy {minor : UInt8} {entries : List FieldEntry}
    (h : xiRequestSwapTable minor = some entries) : tidy entries := by
  have hall := xiTables_tidy minor.toNat minor.toNat_lt
  rwa [UInt8.ofNat_toNat, h] at hall

/-- The table for a request, if it has one, decides what is swapped. -/
theorem swapRequestBody_cases (major minor : UInt8) :
    (∀ body, swapRequestBody major minor .bigEndian body = body) ∨
    ∃ entries, tidy entries ∧
      ∀ body, swapRequestBody major minor .bigEndian body =
        swapInPlace entries .bigEndian body := by
  have hcases (table : Option (List FieldEntry)) (htidy : ∀ entries ∈ table, tidy entries)
      (htable : (if major < 128 then coreRequestSwapTable major
        else extensionRequestSwapTable major minor) = table) :
      (∀ body, swapRequestBody major minor .bigEndian body = body) ∨
      ∃ entries, tidy entries ∧ ∀ body, swapRequestBody major minor .bigEndian body =
        swapInPlace entries .bigEndian body := by
    cases table with
    | none => exact .inl fun body => by simp only [swapRequestBody, htable]
    | some entries =>
      exact .inr ⟨entries, htidy entries rfl, fun body => by simp only [swapRequestBody, htable]⟩
  refine hcases _ (fun entries h => ?_) rfl
  split at h
  · exact coreTable_tidy h
  · rw [extensionRequestSwapTable] at h
    split at h
    · exact xiTable_tidy h
    · cases h

/-- Swapping a request twice gives it back, and no byte is in two fields of a table. -/
theorem swapRequestBody_involutive :
    (∀ (major minor : UInt8) (body : List UInt8),
      (swapRequestBody major minor .bigEndian body).length = body.length ∧
      swapRequestBody major minor .bigEndian (swapRequestBody major minor .bigEndian body) =
        body) ∧
    ∀ (code : UInt8) (entries : List FieldEntry),
      coreRequestSwapTable code = some entries ∨ xiRequestSwapTable code = some entries →
      ∀ size, entries.Pairwise (fun e e' => ∀ i, ¬ (e.Touches size i ∧ e'.Touches size i)) ∧
        ∀ buf : List UInt8, buf.length = size → ∀ i, (∀ e ∈ entries, ¬ e.Touches size i) →
          (swapInPlace entries .bigEndian buf)[i]? = buf[i]? := by
  constructor
  · intro major minor body
    rcases swapRequestBody_cases major minor with h | ⟨entries, htidy, h⟩
    · rw [h, h]
      exact ⟨rfl, rfl⟩
    · rw [h, h]
      exact ⟨length_swapInPlace htidy body, swapInPlace_swapInPlace htidy body⟩
  · intro code entries htable size
    have htidy : tidy entries := htable.elim coreTable_tidy xiTable_tidy
    refine ⟨tidy_touches htidy size, fun buf hsize i hi => ?_⟩
    exact swapInPlace_getElem? htidy (hsize ▸ hi)

/-- A body that ends in the middle of an element. -/
theorem swapRequestBody_involutive_truncated :
    swapRequestBody 2 0 .bigEndian (swapRequestBody 2 0 .bigEndian
      [0, 0, 0, 1, 0, 0, 0, 2, 0, 0, 0, 3, 9, 9]) = [0, 0, 0, 1, 0, 0, 0, 2, 0, 0, 0, 3, 9, 9] ∧
    (swapInPlace [.fixed 0 .U32, .fixed 4 .U32, .elementArrayTail 8 .U32] .bigEndian
      [0, 0, 0, 1, 0, 0, 0, 2, 0, 0, 0, 3, 9, 9])[13]? = some 9 :=
  ⟨(swapRequestBody_involutive.1 2 0 _).2,
    (swapRequestBody_involutive.2 2 _ (.inl rfl) 14).2 _ rfl 13 (by decide)⟩

end X12
