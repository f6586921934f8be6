import X12.Lib.Layout

/-! # Messages written piece by piece

A message for a reader of either byte order is a sequence of values, written in
the order of the reader, and of bytes that are written as they are. It is the
same message to both readers when the bytes that are written as they are read
the same both ways. -/

namespace Layout

def Field.Typed (f : Field) : Prop :=
  f = .half ∨ f = .word

instance (f : Field) : Decidable f.Typed :=
  inferInstanceAs (Decidable (_ ∨ _))

/-- Reverse the bytes of each half and of each word of a message. -/
def swapFields : List Field → List UInt8 → List UInt8
  | [], message => message
  | f :: fields, message =>
    let field := message.take f.size
    (if f.Typed then field.reverse else field) ++ swapFields fields (message.drop f.size)

/-- Swapping the fields of a record turns one byte order into the other. -/
theorem matches_swapFields {sent read : ByteOrder} (horder : sent ≠ read) {fields : List Field}
    {items : List Item} (hadmits : List.Forall₂ Field.Admits fields items) {bytes : List UInt8}
    (h : Matches bytes (encode sent items)) :
    Matches (swapFields fields bytes) (encode read items) := by
  induction hadmits generalizing bytes with
  | nil => exact h
  | @cons f i fields items hf _ ih =>
    obtain ⟨group, rest, rfl, hgroup, hrest⟩ := h.split
    have hlen : group.length = f.size := by
      rw [hgroup.length_eq, Item.length_encode, hf.length]
    rw [swapFields, List.take_left' hlen, List.drop_left' hlen]
    refine Matches.append ?_ (ih hrest)
    split
    · rw [← i.reverse_encode horder]
      exact hgroup.reverse
    · next htyped => exact (Item.matches_iff hgroup).mpr (.inr (hf.symmetric htyped))

inductive Piece where
  | ordered (i : Item)
  | fixed (f : Field) (written : List UInt8)

def Item.field : Item → Field
  | .byte _ => .byte
  | .half _ => .half
  | .word _ => .word
  | .pad n => .pad n

theorem Item.admits_field (i : Item) : i.field.Admits i := by
  cases i <;> simp [Item.field, Field.Admits]

namespace Piece

def bytes (order : ByteOrder) : Piece → List UInt8
  | ordered i => i.bytes order
  | fixed _ written => written

def field : Piece → Field
  | ordered i => i.field
  | fixed f _ => f

/-- The bytes that are written as they are fill their field. -/
def Fills : Piece → Prop
  | ordered _ => True
  | fixed f written => written.length = f.size

/-- The piece means the same to both readers. -/
def Neutral : Piece → Prop
  | ordered _ => True
  | fixed f written => f.Typed → written.reverse = written

variable {p : Piece} {order : ByteOrder}

theorem length_bytes (h : p.Fills) : (p.bytes order).length = p.field.size := by
  cases p with
  | ordered i => exact (i.length_bytes order).trans i.admits_field.length
  | fixed f written => exact h

theorem ordered_bytes (i : Item) :
    (if i.field.Typed then (i.bytes .littleEndian).reverse else i.bytes .littleEndian) =
      i.bytes .bigEndian := by
  have hreverse : (i.bytes .littleEndian).reverse = i.bytes .bigEndian := by
    rw [Item.bytes, Item.bytes, ← List.map_reverse]
    rfl
  split
  · exact hreverse
  case isFalse huntyped =>
    rw [← hreverse]
    cases i with
    | byte b => rfl
    | half v => exact absurd (.inl rfl) huntyped
    | word v => exact absurd (.inr rfl) huntyped
    | pad n => simp [Item.bytes, Item.encode, Item.littleBytes]

/-- A piece is turned into the one for the other reader unless it is not neutral. -/
theorem swap_iff : (if p.field.Typed then (p.bytes .littleEndian).reverse
      else p.bytes .littleEndian) = p.bytes .bigEndian ↔ p.Neutral := by
  cases p with
  | ordered i => exact iff_of_true (ordered_bytes i) trivial
  | fixed f written =>
    by_cases htyped : f.Typed
    · simp [bytes, field, Neutral, htyped]
    · simp [bytes, field, Neutral, htyped]

end Piece

variable {pieces : List Piece}

def message (order : ByteOrder) (pieces : List Piece) : List UInt8 :=
  pieces.flatMap (Piece.bytes order)

theorem length_message {order : ByteOrder} (h : ∀ p ∈ pieces, p.Fills) :
    (message order pieces).length = ((pieces.map Piece.field).map Field.size).sum := by
  induction pieces with
  | nil => rfl
  | cons p pieces ih =>
    obtain ⟨hp, hpieces⟩ := List.forall_mem_cons.mp h
    rw [message, List.flatMap_cons, List.length_append, p.length_bytes hp, List.map_cons,
      List.map_cons, List.sum_cons]
    exact congrArg (p.field.size + ·) (ih hpieces)

/-- Reversing the halves and words of the message for a little-endian reader
gives the one for a big-endian reader exactly when every piece is neutral. -/
theorem swapFields_message_iff (h : ∀ p ∈ pieces, p.Fills) :
    swapFields (pieces.map Piece.field) (message .littleEndian pieces) =
      message .bigEndian pieces ↔ ∀ p ∈ pieces, p.Neutral := by
  induction pieces with
  | nil => exact iff_of_true rfl (by simp)
  | cons p pieces ih =>
    obtain ⟨hp, hpieces⟩ := List.forall_mem_cons.mp h
    have hlen : (p.bytes .littleEndian).length = p.field.size := p.length_bytes hp
    rw [List.forall_mem_cons, ← ih hpieces, ← Piece.swap_iff, List.map_cons, message,
      List.flatMap_cons, swapFields, List.take_left' hlen, List.drop_left' hlen]
    constructor
    · intro heq
      have hsame : (if p.field.Typed then (p.bytes .littleEndian).reverse
          else p.bytes .littleEndian).length = (p.bytes .bigEndian).length := by
        rw [p.length_bytes hp]
        split <;> simp [p.length_bytes hp]
      exact List.append_inj heq hsame
    · rintro ⟨hpiece, hrest⟩
      rw [hpiece]
      exact congrArg (p.bytes .bigEndian ++ ·) hrest

end Layout
