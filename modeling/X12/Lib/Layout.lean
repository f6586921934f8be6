import Mathlib.Algebra.Ring.Int.Defs
import Mathlib.Algebra.Ring.Nat
import Mathlib.Data.List.Basic
import Mathlib.Data.List.Forall2
import Mathlib.Tactic.Common

/-! # Byte layouts

Records of bytes, halves and words, their encodings in either byte order, and
what reversing slices of an encoding does to it. A byte that is only padding
has no value: an encoding says nothing about it. -/

namespace Layout

variable {α β : Type*}

theorem exists_of_mem_left {R : α → β → Prop} {as : List α} {bs : List β}
    (h : List.Forall₂ R as bs) {a : α} (ha : a ∈ as) : ∃ b ∈ bs, R a b := by
  induction h with
  | nil => cases ha
  | cons hr _ ih =>
    rcases List.mem_cons.mp ha with rfl | ha
    · exact ⟨_, .head _, hr⟩
    · obtain ⟨b, hb, hab⟩ := ih ha
      exact ⟨b, .tail _ hb, hab⟩

theorem exists_of_mem_right {R : α → β → Prop} {as : List α} {bs : List β}
    (h : List.Forall₂ R as bs) {b : β} (hb : b ∈ bs) : ∃ a ∈ as, R a b :=
  exists_of_mem_left h.flip hb

inductive ByteOrder where
  | littleEndian
  | bigEndian
  deriving DecidableEq, Repr

/-- What a layout asks of one field. -/
inductive Field where
  | byte
  | literal (b : UInt8)
  | half
  | word
  | pad (n : Nat)
  deriving DecidableEq, Repr

/-- The value of one field. -/
inductive Item where
  | byte (b : UInt8)
  | half (v : UInt16)
  | word (v : UInt32)
  | pad (n : Nat)
  deriving DecidableEq, Repr

def Field.Admits : Field → Item → Prop
  | .byte, .byte _ => True
  | .literal b, .byte c => c = b
  | .half, .half _ => True
  | .word, .word _ => True
  | .pad n, .pad m => m = n
  | _, _ => False

theorem Field.admits_byte {i : Item} : Field.byte.Admits i ↔ ∃ b, i = .byte b := by
  cases i <;> simp [Field.Admits]

theorem Field.admits_half {i : Item} : Field.half.Admits i ↔ ∃ v, i = .half v := by
  cases i <;> simp [Field.Admits]

theorem Field.admits_word {i : Item} : Field.word.Admits i ↔ ∃ v, i = .word v := by
  cases i <;> simp [Field.Admits]

theorem Field.admits_pad {i : Item} {n : Nat} : (Field.pad n).Admits i ↔ i = .pad n := by
  cases i <;> simp [Field.Admits]

/-- The bytes of a value, least significant first. -/
def Item.littleBytes : Item → List (Option UInt8)
  | .byte b => [some b]
  | .half v => [some v.toUInt8, some (v >>> 8).toUInt8]
  | .word v => [some v.toUInt8, some (v >>> 8).toUInt8, some (v >>> 16).toUInt8,
      some (v >>> 24).toUInt8]
  | .pad n => List.replicate n none

def Item.encode : ByteOrder → Item → List (Option UInt8)
  | .littleEndian, i => i.littleBytes
  | .bigEndian, i => i.littleBytes.reverse

def encode (order : ByteOrder) (items : List Item) : List (Option UInt8) :=
  items.flatMap (Item.encode order)

theorem encode_append (order : ByteOrder) (items items' : List Item) :
    encode order (items ++ items') = encode order items ++ encode order items' :=
  List.flatMap_append

/-- A byte string with the given bytes at every place that has a value. -/
inductive Matches : List UInt8 → List (Option UInt8) → Prop
  | nil : Matches [] []
  | pad : Matches bytes wire → Matches (b :: bytes) (none :: wire)
  | byte : Matches bytes wire → Matches (b :: bytes) (some b :: wire)

@[simp] theorem matches_nil_iff : Matches [] wire ↔ wire = [] :=
  ⟨fun h => by cases h; rfl, fun h => h ▸ .nil⟩

@[simp] theorem matches_cons_none_iff :
    Matches bytes (none :: wire) ↔ ∃ b rest, bytes = b :: rest ∧ Matches rest wire := by
  constructor
  · rintro ⟨⟩
    exact ⟨_, _, rfl, ‹_›⟩
  · rintro ⟨b, rest, rfl, h⟩
    exact .pad h

@[simp] theorem matches_cons_some_iff :
    Matches bytes (some v :: wire) ↔ ∃ rest, bytes = v :: rest ∧ Matches rest wire := by
  constructor
  · rintro ⟨⟩
    exact ⟨_, rfl, ‹_›⟩
  · rintro ⟨rest, rfl, h⟩
    exact .byte h

@[simp] theorem matches_nil_right_iff : Matches bytes [] ↔ bytes = [] :=
  ⟨fun h => by cases h; rfl, fun h => h ▸ .nil⟩

instance decidableMatches : (bytes : List UInt8) → (wire : List (Option UInt8)) →
    Decidable (Matches bytes wire)
  | [], [] => .isTrue .nil
  | [], _ :: _ => .isFalse nofun
  | _ :: _, [] => .isFalse nofun
  | _ :: bytes, none :: wire =>
    match decidableMatches bytes wire with
    | .isTrue h => .isTrue (.pad h)
    | .isFalse h => .isFalse fun | .pad h' => h h'
  | b :: bytes, some v :: wire =>
    if hb : b = v then
      match decidableMatches bytes wire with
      | .isTrue h => .isTrue (hb ▸ .byte h)
      | .isFalse h => .isFalse fun | .byte h' => h h'
    else .isFalse fun | .byte _ => hb rfl

theorem Matches.length_eq (h : Matches bytes wire) : bytes.length = wire.length := by
  induction h with
  | nil => rfl
  | pad _ ih | byte _ ih => rw [List.length_cons, List.length_cons, ih]

theorem Matches.append (h₁ : Matches bytes₁ wire₁) (h₂ : Matches bytes₂ wire₂) :
    Matches (bytes₁ ++ bytes₂) (wire₁ ++ wire₂) := by
  induction h₁ with
  | nil => exact h₂
  | pad _ ih => exact .pad ih
  | byte _ ih => exact .byte ih

theorem Matches.split (h : Matches bytes (wire₁ ++ wire₂)) :
    ∃ bytes₁ bytes₂, bytes = bytes₁ ++ bytes₂ ∧ Matches bytes₁ wire₁ ∧ Matches bytes₂ wire₂ := by
  induction wire₁ generalizing bytes with
  | nil => exact ⟨[], bytes, rfl, .nil, h⟩
  | cons w wire₁ ih =>
    cases h with
    | pad h =>
      obtain ⟨bytes₁, bytes₂, rfl, h₁, h₂⟩ := ih h
      exact ⟨_ :: bytes₁, bytes₂, rfl, .pad h₁, h₂⟩
    | byte h =>
      obtain ⟨bytes₁, bytes₂, rfl, h₁, h₂⟩ := ih h
      exact ⟨_ :: bytes₁, bytes₂, rfl, .byte h₁, h₂⟩

theorem matches_append_iff (hlen : bytes₁.length = wire₁.length) :
    Matches (bytes₁ ++ bytes₂) (wire₁ ++ wire₂) ↔ Matches bytes₁ wire₁ ∧ Matches bytes₂ wire₂ := by
  refine ⟨fun h => ?_, fun h => h.1.append h.2⟩
  obtain ⟨c₁, c₂, heq, h₁, h₂⟩ := h.split
  obtain ⟨rfl, rfl⟩ := List.append_inj heq (hlen.trans h₁.length_eq.symm)
  exact ⟨h₁, h₂⟩

theorem Matches.reverse (h : Matches bytes wire) : Matches bytes.reverse wire.reverse := by
  induction h with
  | nil => exact .nil
  | pad _ ih =>
    rw [List.reverse_cons, List.reverse_cons]
    exact ih.append (.pad .nil)
  | byte _ ih =>
    rw [List.reverse_cons, List.reverse_cons]
    exact ih.append (.byte .nil)

/-- Bytes without a value match anything of their length. -/
theorem matches_replicate_none {n : Nat} (h : bytes.length = n) :
    Matches bytes (List.replicate n none) := by
  induction bytes generalizing n with
  | nil => obtain rfl := h; exact .nil
  | cons b bytes ih => obtain rfl := h; exact .pad (ih rfl)

theorem matches_append_replicate_iff {n : Nat} (hlen : bytes.length = wire.length)
    (hpad : padding.length = n) :
    Matches (bytes ++ padding) (wire ++ List.replicate n none) ↔ Matches bytes wire :=
  (matches_append_iff hlen).trans (and_iff_left (matches_replicate_none hpad))

/-- The bytes of a concatenation of encodings, one group for each part. -/
theorem Matches.split_flatMap {f : α → List (Option UInt8)} {parts : List α}
    (h : Matches bytes (parts.flatMap f)) :
    ∃ groups : List (List UInt8), bytes = groups.flatten ∧
      List.Forall₂ (fun group part => Matches group (f part)) groups parts := by
  induction parts generalizing bytes with
  | nil =>
    cases h
    exact ⟨[], rfl, .nil⟩
  | cons part parts ih =>
    obtain ⟨group, rest, rfl, hgroup, hrest⟩ := Matches.split h
    obtain ⟨groups, rfl, hgroups⟩ := ih hrest
    exact ⟨group :: groups, rfl, .cons hgroup hgroups⟩

/-- Groups of the right lengths match a concatenation part by part. -/
theorem matches_flatMap_iff {f : α → List (Option UInt8)} {groups : List (List UInt8)}
    {parts : List α}
    (hlen : List.Forall₂ (fun group part => group.length = (f part).length) groups parts) :
    Matches groups.flatten (parts.flatMap f) ↔
      List.Forall₂ (fun group part => Matches group (f part)) groups parts := by
  induction hlen with
  | nil => exact iff_of_true .nil .nil
  | cons h _ ih =>
    rw [List.flatten_cons, List.flatMap_cons, matches_append_iff h, ih, List.forall₂_cons]

/-- An item that reads the same in both byte orders. -/
def Item.Symmetric (i : Item) : Prop :=
  i.littleBytes.reverse = i.littleBytes

theorem Item.symmetric_byte (b : UInt8) : (Item.byte b).Symmetric := rfl

theorem Item.symmetric_pad (n : Nat) : (Item.pad n).Symmetric :=
  List.reverse_replicate ..

theorem Item.length_encode (order : ByteOrder) (i : Item) :
    (i.encode order).length = i.littleBytes.length := by
  cases order with
  | littleEndian => rfl
  | bigEndian => exact List.length_reverse

theorem Item.encode_reverse (i : Item) :
    (i.encode .bigEndian).reverse = i.encode .littleEndian :=
  List.reverse_reverse _

/-- Every place of a half or a word has a value. -/
def Item.Valued (i : Item) : Prop :=
  ∀ b ∈ i.littleBytes, b ≠ none

theorem Matches.eq_map_some {wire : List (Option UInt8)} (h : Matches bytes wire)
    (hvalued : ∀ b ∈ wire, b ≠ none) : wire = bytes.map some := by
  induction h with
  | nil => rfl
  | pad _ _ => exact absurd rfl (hvalued none (.head _))
  | byte _ ih => rw [List.map_cons, ih fun b hb => hvalued b (.tail _ hb)]

/-- Only one byte string spells what has a value at every place. -/
theorem Matches.unique {wire : List (Option UInt8)} (h : Matches bytes wire)
    (h' : Matches bytes' wire) (hvalued : ∀ b ∈ wire, b ≠ none) : bytes = bytes' := by
  have heq : bytes.map some = bytes'.map some :=
    (h.eq_map_some hvalued).symm.trans (h'.eq_map_some hvalued)
  exact (List.map_inj_right fun _ _ h => Option.some.inj h).mp heq

theorem Item.valued_or_pad (i : Item) : i.Valued ∨ ∃ n, i = .pad n := by
  cases i with
  | pad n => exact .inr ⟨n, rfl⟩
  | byte | half | word => left; simp [Item.Valued, Item.littleBytes]

theorem Item.valued_encode {i : Item} (h : i.Valued) (order : ByteOrder) :
    ∀ b ∈ i.encode order, b ≠ none := by
  cases order with
  | littleEndian => exact h
  | bigEndian => exact fun b hb => h b (List.mem_reverse.mp hb)

/-- Reversing an encoding gives the one in the other order. -/
theorem Item.reverse_encode {sent read : ByteOrder} (h : sent ≠ read) (i : Item) :
    (i.encode sent).reverse = i.encode read := by
  cases sent <;> cases read
  · exact absurd rfl h
  · rfl
  · exact i.encode_reverse
  · exact absurd rfl h

/-- Bytes that spell an item in one order spell it in another one only where
the order does not matter. -/
theorem Item.matches_iff {sent read : ByteOrder} {i : Item}
    (h : Matches bytes (i.encode sent)) :
    Matches bytes (i.encode read) ↔ sent = read ∨ i.Symmetric := by
  by_cases horder : sent = read
  · rw [horder] at h
    exact iff_of_true h (.inl horder)
  rw [or_iff_right horder]
  constructor
  · intro hread
    rcases i.valued_or_pad with hv | ⟨n, rfl⟩
    · have heq : i.encode sent = i.encode read :=
        (h.eq_map_some (valued_encode hv sent)).trans
          (hread.eq_map_some (valued_encode hv read)).symm
      cases sent <;> cases read
      · exact absurd rfl horder
      · exact heq.symm
      · exact heq
      · exact absurd rfl horder
    · exact symmetric_pad n
  · intro hsym
    have hboth : i.encode .bigEndian = i.encode .littleEndian := hsym
    have heq : i.encode sent = i.encode read := by
      cases sent <;> cases read
      · rfl
      · exact hboth.symm
      · exact hboth
      · rfl
    rwa [← heq]

/-- The same holds of a list of items. -/
theorem matches_items_iff {sent read : ByteOrder} {items : List Item}
    (h : Matches bytes (encode sent items)) :
    Matches bytes (encode read items) ↔ sent = read ∨ ∀ i ∈ items, i.Symmetric := by
  induction items generalizing bytes with
  | nil => exact iff_of_true h (.inr (by simp))
  | cons i items ih =>
    obtain ⟨group, rest, rfl, hgroup, hrest⟩ := h.split
    have hlen : group.length = (i.encode read).length := by
      rw [hgroup.length_eq, Item.length_encode, Item.length_encode]
    rw [List.forall_mem_cons, or_and_left, ← ih hrest, ← Item.matches_iff hgroup]
    exact matches_append_iff hlen

/-- Reversing the bytes of each item turns one byte order into the other. -/
theorem matches_map_reverse {groups : List (List UInt8)} {items : List Item}
    (h : List.Forall₂ (fun group item => Matches group (Item.encode .bigEndian item))
      groups items) :
    Matches (groups.map List.reverse).flatten (encode .littleEndian items) := by
  induction h with
  | nil => exact .nil
  | cons h _ ih => exact Matches.append (Item.encode_reverse _ ▸ h.reverse) ih

/-! ## Sizes -/

def Field.size : Field → Nat
  | .byte | .literal _ => 1
  | .half => 2
  | .word => 4
  | .pad n => n

theorem Field.Admits.length {f : Field} {i : Item} (h : f.Admits i) :
    i.littleBytes.length = f.size := by
  cases f <;> cases i <;> simp_all [Field.Admits, Item.littleBytes, Field.size]

/-- An item of a field that is no half and no word reads the same both ways. -/
theorem Field.Admits.symmetric {f : Field} {i : Item} (h : f.Admits i)
    (hf : ¬ (f = .half ∨ f = .word)) : i.Symmetric := by
  cases i with
  | byte b => exact Item.symmetric_byte b
  | pad n => exact Item.symmetric_pad n
  | half v => cases f <;> simp_all [Field.Admits]
  | word v => cases f <;> simp_all [Field.Admits]

theorem length_encode {order : ByteOrder} {fields : List Field} {items : List Item}
    (h : List.Forall₂ Field.Admits fields items) :
    (encode order items).length = (fields.map Field.size).sum := by
  induction h with
  | nil => rfl
  | cons hf _ ih =>
    rw [encode, List.flatMap_cons, List.length_append, Item.length_encode, hf.length]
    rw [List.map_cons, List.sum_cons, ← ih]
    rfl

/-! ## Reversing slices -/

/-- Reverse `size` elements from `offset` on; a slice past the end is left alone. -/
def reverseSlice (buf : List α) (offset size : Nat) : List α :=
  if offset + size ≤ buf.length then
    buf.take offset ++ ((buf.drop offset).take size).reverse ++ buf.drop (offset + size)
  else buf

theorem length_reverseSlice (buf : List α) (offset size : Nat) :
    (reverseSlice buf offset size).length = buf.length := by
  unfold reverseSlice
  split
  · simp
    omega
  · rfl

/-- A slice that starts behind a prefix leaves the prefix alone. -/
theorem reverseSlice_append_right {front : List α} {offset : Nat} (h : front.length ≤ offset)
    (back : List α) (size : Nat) :
    reverseSlice (front ++ back) offset size =
      front ++ reverseSlice back (offset - front.length) size := by
  obtain ⟨k, rfl⟩ := Nat.exists_eq_add_of_le h
  have hfits : front.length + k + size ≤ (front ++ back).length ↔ k + size ≤ back.length := by
    rw [List.length_append]
    omega
  simp only [reverseSlice, hfits, Nat.add_sub_cancel_left]
  split
  · simp only [Nat.add_assoc, List.take_length_add_append, List.drop_length_add_append,
      List.append_assoc]
  · rfl

theorem reverseSlice_append (front seg back : List α) :
    reverseSlice (front ++ (seg ++ back)) front.length seg.length =
      front ++ (seg.reverse ++ back) := by
  rw [reverseSlice, if_pos (by simp)]
  simp [List.drop_append]

theorem reverseSlice_of_lt {buf : List α} {offset size : Nat} (h : buf.length < offset + size) :
    reverseSlice buf offset size = buf :=
  if_neg (by omega)

/-! ## Bytes to be sent -/

/-- The bytes of a value, with padding sent as zero. -/
def Item.bytes (order : ByteOrder) (i : Item) : List UInt8 :=
  (i.encode order).map (·.getD 0)

def bytes (order : ByteOrder) (items : List Item) : List UInt8 :=
  items.flatMap (Item.bytes order)

@[simp] theorem bytes_nil (order : ByteOrder) : bytes order [] = [] :=
  rfl

@[simp] theorem bytes_cons (order : ByteOrder) (i : Item) (items : List Item) :
    bytes order (i :: items) = i.bytes order ++ bytes order items :=
  List.flatMap_cons

theorem matches_map_getD (wire : List (Option UInt8)) : Matches (wire.map (·.getD 0)) wire := by
  induction wire with
  | nil => exact .nil
  | cons w wire ih =>
    cases w with
    | none => exact .pad ih
    | some b => exact .byte ih

theorem Item.matches_bytes (order : ByteOrder) (i : Item) :
    Matches (i.bytes order) (i.encode order) :=
  matches_map_getD _

theorem Item.length_bytes (order : ByteOrder) (i : Item) :
    (i.bytes order).length = i.littleBytes.length := by
  rw [Item.bytes, List.length_map, Item.length_encode]

theorem matches_bytes (order : ByteOrder) (items : List Item) :
    Matches (bytes order items) (encode order items) := by
  induction items with
  | nil => exact .nil
  | cons i items ih => exact (i.matches_bytes order).append ih

theorem length_bytes {order : ByteOrder} {fields : List Field} {items : List Item}
    (h : List.Forall₂ Field.Admits fields items) :
    (bytes order items).length = (fields.map Field.size).sum := by
  rw [(matches_bytes order items).length_eq, length_encode h]

theorem Item.matches_bytes_iff {sent read : ByteOrder} {i : Item} :
    Matches (i.bytes sent) (i.encode read) ↔ sent = read ∨ i.Symmetric :=
  matches_iff (i.matches_bytes sent)

end Layout
