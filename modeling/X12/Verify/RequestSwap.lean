import X12.Protocol.RequestLayout
import X12.Protocol.RequestSwap

/-! # Swap tables against the wire layouts

A table is checked against a layout field by field. The check is sound: what
it accepts turns the big-endian body of every record into the little-endian
one. The four tables it cannot accept are measured exactly. -/

namespace X12

open Layout (Field Item Matches)

/-! ## Heads -/

/-- The entries after the first one, when that covers the next field. -/
def takeEntry (field : Field) (offset : Nat) : List FieldEntry → Option (List FieldEntry)
  | .fixed start kind :: entries =>
    if start = offset ∧ kind.size = field.size then some entries else none
  | _ => none

theorem takeEntry_eq_some {field : Field} {offset : Nat} {entries entries' : List FieldEntry}
    (h : takeEntry field offset entries = some entries') :
    ∃ kind, entries = .fixed offset kind :: entries' ∧ kind.size = field.size := by
  unfold takeEntry at h
  split at h
  · rw [Option.ite_none_right_eq_some] at h
    obtain ⟨⟨rfl, hsize⟩, h⟩ := h
    exact ⟨_, by rw [Option.some.inj h], hsize⟩
  · cases h

/-- Walk the fields of a head along a table. The result is what is left of
the table after the head, provided each half and each word has its own entry;
an entry may also cover padding. -/
def afterHead : List Field → Nat → List FieldEntry → Option (List FieldEntry)
  | [], _, entries => some entries
  | field :: fields, offset, entries =>
    match takeEntry field offset entries with
    | some entries => afterHead fields (offset + field.size) entries
    | none =>
      if field = .half ∨ field = .word then none
      else afterHead fields (offset + field.size) entries

/-- Run the entries of a table on a big-endian body. -/
abbrev applyEntries (entries : List FieldEntry) (buf : List UInt8) : List UInt8 :=
  entries.foldl (applyEntry .bigEndian) buf

/-- An entry over exactly the next segment reverses it. -/
theorem applyEntries_segment {front seg back : List UInt8} {kind : FieldKind}
    {entries : List FieldEntry} (hseg : seg.length = kind.size) :
    applyEntries (.fixed front.length kind :: entries) (front ++ (seg ++ back)) =
      applyEntries entries (front ++ (seg.reverse ++ back)) := by
  rw [applyEntries, List.foldl_cons, applyEntry, swapTyped, ← hseg, Layout.reverseSlice_append]

/-- Once the head is walked, its bytes are in little-endian order and only the
rest of the table is left to run. -/
theorem afterHead_sound {fields : List Field} {items : List Item} {offset : Nat}
    {entries rest : List FieldEntry} (hafter : afterHead fields offset entries = some rest)
    (hadmits : List.Forall₂ Field.Admits fields items) (front : List UInt8) {bytes : List UInt8}
    (hfront : front.length = offset) (hbytes : Matches bytes (Layout.encode .bigEndian items)) :
    ∃ bytes', Matches bytes' (Layout.encode .littleEndian items) ∧
      ∀ back, applyEntries entries (front ++ (bytes ++ back)) =
        applyEntries rest (front ++ (bytes' ++ back)) := by
  induction hadmits generalizing offset entries front bytes with
  | nil =>
    cases hbytes
    obtain rfl := Option.some.inj hafter
    exact ⟨[], .nil, fun _ => rfl⟩
  | @cons field item fields items hfield _ ih =>
    obtain ⟨seg, bytes, rfl, hseg, hbytes⟩ := hbytes.split
    have hlen : seg.length = field.size := by
      rw [hseg.length_eq, Item.length_encode, hfield.length]
    -- the bytes of this field, already swapped where the table says so
    have step (seg' : List UInt8) {entries' : List FieldEntry}
        (hseg' : Matches seg' (item.encode .littleEndian)) (hlen' : seg'.length = field.size)
        (hrun : ∀ back, applyEntries entries (front ++ (seg ++ back)) =
          applyEntries entries' (front ++ (seg' ++ back)))
        (hafter' : afterHead fields (offset + field.size) entries' = some rest) :
        ∃ bytes', Matches bytes' (Layout.encode .littleEndian (item :: items)) ∧
          ∀ back, applyEntries entries (front ++ (seg ++ bytes ++ back)) =
            applyEntries rest (front ++ (bytes' ++ back)) := by
      obtain ⟨bytes', hbytes', hback⟩ :=
        ih hafter' (front ++ seg') (by rw [List.length_append, hfront, hlen']) hbytes
      refine ⟨seg' ++ bytes', hseg'.append hbytes', fun back => ?_⟩
      rw [List.append_assoc, hrun, ← List.append_assoc, hback]
      simp only [List.append_assoc]
    unfold afterHead at hafter
    split at hafter
    · next entries' htake =>
      obtain ⟨kind, rfl, hkind⟩ := takeEntry_eq_some htake
      refine step seg.reverse (item.encode_reverse ▸ hseg.reverse)
        (by rw [List.length_reverse, hlen]) (fun back => ?_) hafter
      rw [← hfront]
      exact applyEntries_segment (hlen.trans hkind.symm)
    · rw [Option.ite_none_left_eq_some] at hafter
      have hsym := hfield.symmetric hafter.1
      exact step seg ((Item.matches_iff hseg).mpr (.inr hsym)) hlen (fun _ => rfl) hafter.2

/-! ## Lists -/

/-- Whatever is done from an offset on leaves what lies before it alone. -/
theorem swapElements_frame (kind : FieldKind) (fuel offset : Nat) (front back : List UInt8)
    (hoffset : front.length ≤ offset) :
    ∃ back', back'.length = back.length ∧
      swapElements kind fuel offset (front ++ back) = front ++ back' := by
  induction fuel generalizing offset back with
  | zero => exact ⟨back, rfl, rfl⟩
  | succ fuel ih =>
    unfold swapElements
    split
    · rw [swapTyped, Layout.reverseSlice_append_right hoffset]
      obtain ⟨back', hlen, hrun⟩ := ih (offset + kind.size)
        (Layout.reverseSlice back (offset - front.length) kind.size) (by omega)
      exact ⟨back', hlen.trans (Layout.length_reverseSlice ..), hrun⟩
    · exact ⟨back, rfl, rfl⟩

/-- The element loop reverses the segments of its array one by one. -/
theorem swapElements_segments {kind : FieldKind} {segs : List (List UInt8)}
    (hsegs : ∀ seg ∈ segs, seg.length = kind.size) {fuel : Nat} (hfuel : segs.length ≤ fuel)
    (front rest : List UInt8) :
    ∃ rest', rest'.length = rest.length ∧
      swapElements kind fuel front.length (front ++ (segs.flatten ++ rest)) =
        front ++ ((segs.map List.reverse).flatten ++ rest') := by
  induction segs generalizing front fuel with
  | nil => exact swapElements_frame kind fuel _ front rest (Nat.le_refl _)
  | cons seg segs ih =>
    obtain ⟨fuel, rfl⟩ : ∃ n, fuel = n + 1 := ⟨fuel - 1, by simp at hfuel; omega⟩
    have hseg : seg.length = kind.size := hsegs seg (.head _)
    obtain ⟨rest', hrest', hrun⟩ := ih (fun s hs => hsegs s (.tail _ hs)) (by simpa using hfuel)
      (front ++ seg.reverse)
    refine ⟨rest', hrest', ?_⟩
    have hfits : front.length + kind.size ≤
        (front ++ ((seg :: segs).flatten ++ rest)).length := by
      simp only [List.flatten_cons, List.length_append, ← hseg]
      omega
    rw [swapElements, if_pos hfits, List.flatten_cons, List.append_assoc, swapTyped, ← hseg,
      Layout.reverseSlice_append, ← List.append_assoc front,
      ← seg.length_reverse, ← List.length_append, hrun]
    simp only [List.map_cons, List.flatten_cons, List.append_assoc]

/-- An array entry right behind the head, over segments of its width. -/
theorem applyEntries_array {kind : FieldKind} {segs : List (List UInt8)}
    (hsegs : ∀ seg ∈ segs, seg.length = kind.size) (front rest : List UInt8) :
    ∃ rest', rest'.length = rest.length ∧
      applyEntries [.elementArrayTail front.length kind] (front ++ (segs.flatten ++ rest)) =
        front ++ ((segs.map List.reverse).flatten ++ rest') := by
  have hpos : 0 < kind.size := by cases kind <;> decide
  have hfuel : segs.length ≤ (front ++ (segs.flatten ++ rest)).length := by
    have hcount : segs.length ≤ segs.flatten.length := by
      clear front rest
      induction segs with
      | nil => exact Nat.le_refl _
      | cons seg segs ih =>
        have := ih fun s hs => hsegs s (.tail _ hs)
        have := hsegs seg (.head _)
        simp only [List.length_cons, List.flatten_cons, List.length_append]
        omega
    simp only [List.length_append]
    omega
  exact swapElements_segments hsegs hfuel front rest

/-! ## Records -/

theorem encode_units (order : Layout.ByteOrder) (units : List (List Item)) :
    units.flatMap (Layout.encode order) = Layout.encode order units.flatten := by
  induction units with
  | nil => rfl
  | cons unit units ih =>
    rw [List.flatMap_cons, ih, List.flatten_cons, Layout.encode, Layout.encode, Layout.encode,
      List.flatMap_append]

/-- The same bytes spell items in both orders exactly when each of the items
reads the same both ways. -/
theorem matches_little_items_iff {items : List Item} {bytes : List UInt8}
    (h : Matches bytes (Layout.encode .bigEndian items)) :
    Matches bytes (Layout.encode .littleEndian items) ↔ ∀ item ∈ items, item.Symmetric :=
  (Layout.matches_items_iff h).trans (or_iff_right nofun)

def headSize (l : RequestLayout) : Nat :=
  (l.head.map Field.size).sum

/-- A body after its table walked the head: the head is in little-endian
order, and the verdict on the whole body is the one on its list. -/
structure AfterHead (l : RequestLayout) (r : Record) (body : List UInt8)
    (entries rest : List FieldEntry) where
  head : List UInt8
  list : List UInt8
  padding : List UInt8
  head_length : head.length = headSize l
  padding_length : padding.length = r.padding
  length_eq : (head ++ (list ++ padding)).length = body.length
  list_matches : Matches list (r.units.flatMap (Layout.encode .bigEndian))
  body_drop : body.drop (headSize l) = list ++ padding
  run : applyEntries entries body = applyEntries rest (head ++ (list ++ padding))
  matches_iff : ∀ list' padding', list'.length = list.length → padding'.length = r.padding →
    (Matches (head ++ (list' ++ padding')) (r.encode .littleEndian) ↔
      Matches list' (r.units.flatMap (Layout.encode .littleEndian)))

theorem length_units (order order' : Layout.ByteOrder) (units : List (List Item)) :
    (units.flatMap (Layout.encode order)).length =
      (units.flatMap (Layout.encode order')).length := by
  rw [encode_units, encode_units, Layout.encode, Layout.encode, List.length_flatMap,
    List.length_flatMap]
  simp only [Item.length_encode]

theorem exists_afterHead {l : RequestLayout} {r : Record} (hl : l.Admits r) {body : List UInt8}
    (hbody : Matches body (r.encode .bigEndian)) {entries rest : List FieldEntry}
    (hafter : afterHead l.head 0 entries = some rest) :
    Nonempty (AfterHead l r body entries rest) := by
  obtain ⟨bytes, back, rfl, hbytes, hback⟩ := hbody.split
  obtain ⟨list, padding, rfl, hlist, hpadding⟩ := hback.split
  obtain ⟨head, hhead, hrun⟩ := afterHead_sound hafter hl.head [] rfl hbytes
  have hlen : bytes.length = headSize l := by
    rw [hbytes.length_eq, Layout.length_encode hl.head, headSize]
  have hpad : padding.length = r.padding := by
    rw [hpadding.length_eq, List.length_replicate]
  have hhlen : head.length = headSize l := by
    rw [hhead.length_eq, Layout.length_encode hl.head, headSize]
  refine ⟨head, list, padding, hhlen, hpad, ?_, hlist, ?_, hrun _, fun list' padding' hl' hp' => ?_⟩
  · simp only [List.length_append, hhlen, hlen]
  · rw [← hlen, List.drop_left]
  · have hlist' : list'.length = (r.units.flatMap (Layout.encode .littleEndian)).length := by
      rw [hl', hlist.length_eq]
      exact length_units ..
    rw [Record.encode, Layout.matches_append_iff hhead.length_eq,
      Layout.matches_append_replicate_iff hlist' hp', and_iff_right hhead]

def FieldEntry.isOpaque : FieldEntry → Bool
  | .opaqueTail _ => true
  | _ => false

theorem applyEntries_opaque {entries : List FieldEntry} (h : entries.all FieldEntry.isOpaque)
    (buf : List UInt8) : applyEntries entries buf = buf := by
  induction entries with
  | nil => rfl
  | cons entry entries ih =>
    rw [List.all_cons, Bool.and_eq_true] at h
    cases entry with
    | opaqueTail _ => exact ih h.2
    | fixed | elementArrayTail | lengthPrefixedBytes | custom => cases h.1

section Tables
variable {l : RequestLayout} {r : Record} {body : List UInt8} {entries rest : List FieldEntry}

/-- A table that leaves the list alone. -/
theorem untouchedList_iff (hl : l.Admits r) (hbody : Matches body (r.encode .bigEndian))
    (hafter : afterHead l.head 0 entries = some rest)
    (hrest : ∀ buf : List UInt8, buf.length = body.length → applyEntries rest buf = buf) :
    Matches (applyEntries entries body) (r.encode .littleEndian) ↔
      ∀ unit ∈ r.units, ∀ item ∈ unit, item.Symmetric := by
  obtain ⟨a⟩ := exists_afterHead hl hbody hafter
  have hlist := a.list_matches
  rw [encode_units] at hlist
  rw [a.run, hrest _ a.length_eq, a.matches_iff _ _ rfl a.padding_length, encode_units,
    matches_little_items_iff hlist]
  simp only [List.mem_flatten]
  exact ⟨fun h unit hunit item hitem => h item ⟨unit, hunit, hitem⟩,
    fun h item ⟨unit, hunit, hitem⟩ => h unit hunit item hitem⟩

/-- A table that swaps the list in segments: the body is right exactly when
the reversed segments are. -/
theorem arrayList_iff {kind : FieldKind} (a : AfterHead l r body entries
      [.elementArrayTail (headSize l) kind]) {segs : List (List UInt8)}
    (hlist : a.list = segs.flatten) (hsegs : ∀ seg ∈ segs, seg.length = kind.size) :
    Matches (applyEntries entries body) (r.encode .littleEndian) ↔
      Matches (segs.map List.reverse).flatten
        (r.units.flatMap (Layout.encode .littleEndian)) := by
  obtain ⟨padding', hpadding', hrun⟩ := applyEntries_array hsegs a.head a.padding
  rw [a.head_length] at hrun
  have hlen : (segs.map List.reverse).flatten.length = a.list.length := by
    rw [hlist, List.length_flatten, List.length_flatten, List.map_map]
    congr 1
    exact List.map_congr_left fun seg _ => List.length_reverse
  rw [a.run, hlist, hrun, a.matches_iff _ _ hlen (hpadding'.trans a.padding_length)]

/-- Halves of a two-byte array and words of a four-byte one. -/
def Typed (kind : FieldKind) (field : Field) : Prop :=
  (field = .half ∨ field = .word) ∧ field.size = kind.size

instance (kind : FieldKind) (field : Field) : Decidable (Typed kind field) :=
  inferInstanceAs (Decidable (_ ∧ _))

/-- An array of the list's own elements comes out right. -/
theorem typedList_matches {kind : FieldKind} (hl : l.Admits r)
    (hbody : Matches body (r.encode .bigEndian))
    (hafter : afterHead l.head 0 entries = some [.elementArrayTail (headSize l) kind])
    (hunit : ∀ field ∈ l.unit, Typed kind field) :
    Matches (applyEntries entries body) (r.encode .littleEndian) := by
  obtain ⟨a⟩ := exists_afterHead hl hbody hafter
  have hsize : ∀ item ∈ r.units.flatten, item.littleBytes.length = kind.size := by
    intro item hitem
    obtain ⟨unit, hmem, hitem⟩ := List.mem_flatten.mp hitem
    obtain ⟨field, hfield, hadmits⟩ := Layout.exists_of_mem_right (hl.units unit hmem) hitem
    rw [hadmits.length, (hunit field hfield).2]
  have hlist := a.list_matches
  rw [encode_units] at hlist
  obtain ⟨groups, hgroups, hmatch⟩ := hlist.split_flatMap
  have hlens : ∀ group ∈ groups, group.length = kind.size := by
    intro group hgroup
    obtain ⟨item, hitem, hm⟩ := Layout.exists_of_mem_left hmatch hgroup
    rw [hm.length_eq, Item.length_encode, hsize item hitem]
  rw [arrayList_iff a hgroups hlens, encode_units]
  exact Layout.matches_map_reverse hmatch

/-- The bytes of a list, unit by unit. -/
theorem AfterHead.groups (a : AfterHead l r body entries rest) (hl : l.Admits r) :
    ∃ groups : List (List UInt8), a.list = groups.flatten ∧
      List.Forall₂ (fun group unit => Matches group (Layout.encode .bigEndian unit) ∧
        List.Forall₂ Field.Admits l.unit unit) groups r.units := by
  obtain ⟨groups, hgroups, hmatch⟩ := a.list_matches.split_flatMap
  refine ⟨groups, hgroups, List.forall₂_iff_zip.mpr ⟨hmatch.length_eq, fun {group unit} hmem => ?_⟩⟩
  exact ⟨(List.forall₂_iff_zip.mp hmatch).2 hmem, hl.units unit (List.of_mem_zip hmem).2⟩

end Tables

/-- A list whose units are rewritten one by one is right where each unit is. -/
theorem matches_map_units_iff {swap : List UInt8 → List UInt8}
    (hswap : ∀ group, (swap group).length = group.length) {fields : List Field}
    {groups : List (List UInt8)} {units : List (List Item)}
    (h : List.Forall₂ (fun group unit => Matches group (Layout.encode .bigEndian unit) ∧
      List.Forall₂ Field.Admits fields unit) groups units) :
    Matches (groups.map swap).flatten (units.flatMap (Layout.encode .littleEndian)) ↔
      List.Forall₂ (fun group unit => Matches (swap group) (Layout.encode .littleEndian unit))
        groups units := by
  rw [Layout.matches_flatMap_iff, List.forall₂_map_left_iff]
  refine List.forall₂_map_left_iff.mpr (h.imp fun group unit ⟨hgroup, hadmits⟩ => ?_)
  rw [hswap, hgroup.length_eq, Layout.length_encode hadmits, Layout.length_encode hadmits]

/-! ## Characters -/

/-- Exchanging the two bytes of a character is right when they are equal. -/
theorem char2b_iff {unit : List Item} (hadmits : List.Forall₂ Field.Admits [.byte, .byte] unit)
    {group : List UInt8} (hgroup : Matches group (Layout.encode .bigEndian unit)) :
    Matches group.reverse (Layout.encode .littleEndian unit) ↔ unit.reverse = unit := by
  obtain ⟨i₁, i₂, h₁, h₂, rfl⟩ : ∃ i₁ i₂, Field.byte.Admits i₁ ∧ Field.byte.Admits i₂ ∧
      unit = [i₁, i₂] := by
    simpa [List.forall₂_cons_left_iff] using hadmits
  obtain ⟨b₁, rfl⟩ := Field.admits_byte.mp h₁
  obtain ⟨b₂, rfl⟩ := Field.admits_byte.mp h₂
  simp [Layout.encode, Item.encode, Item.littleBytes] at hgroup
  subst hgroup
  simp [Layout.encode, Item.encode, Item.littleBytes]

section Tables
variable {l : RequestLayout} {r : Record} {body : List UInt8} {entries rest : List FieldEntry}

/-- An array of byte pairs comes out right when it exchanges equal bytes. -/
theorem char2bList_iff (kind : FieldKind) (hl : l.Admits r)
    (hbody : Matches body (r.encode .bigEndian))
    (hafter : afterHead l.head 0 entries = some [.elementArrayTail (headSize l) kind])
    (hkind : kind.size = 2) (hunit : l.unit = [.byte, .byte]) :
    Matches (applyEntries entries body) (r.encode .littleEndian) ↔
      ∀ unit ∈ r.units, unit.reverse = unit := by
  obtain ⟨a⟩ := exists_afterHead hl hbody hafter
  obtain ⟨groups, hgroups, hunits⟩ := a.groups hl
  rw [hunit] at hunits
  have hlens : ∀ group ∈ groups, group.length = kind.size := by
    intro group hgroup
    obtain ⟨unit, -, hm, hadmits⟩ := Layout.exists_of_mem_left hunits hgroup
    rw [hm.length_eq, Layout.length_encode hadmits, hkind]
    rfl
  rw [arrayList_iff a hgroups hlens, matches_map_units_iff (fun _ => List.length_reverse) hunits]
  generalize r.units = units at hunits
  clear hgroups hlens
  induction hunits with
  | nil => simp
  | cons h _ ih =>
    rw [List.forall₂_cons, List.forall_mem_cons]
    exact and_congr (char2b_iff h.2 h.1) ih

end Tables

/-! ## Color items -/

/-- Exchange the bytes of each pair. -/
def swapPairs : List UInt8 → List UInt8
  | b₁ :: b₂ :: bytes => b₂ :: b₁ :: swapPairs bytes
  | bytes => bytes

/-- The byte pairs of an even number of bytes. -/
def pairs : List UInt8 → List (List UInt8)
  | b₁ :: b₂ :: bytes => [b₁, b₂] :: pairs bytes
  | _ => []

theorem pairs_length {bytes : List UInt8} : ∀ pair ∈ pairs bytes, pair.length = 2 := by
  fun_induction pairs bytes with
  | case1 b₁ b₂ bytes ih => simpa using ih
  | case2 => simp

theorem flatten_pairs (bytes : List UInt8) (h : bytes.length % 2 = 0) :
    (pairs bytes).flatten = bytes ∧
      ((pairs bytes).map List.reverse).flatten = swapPairs bytes := by
  fun_induction pairs bytes with
  | case1 b₁ b₂ bytes ih =>
    obtain ⟨h₁, h₂⟩ := ih (by simp at h; omega)
    simp [swapPairs, h₁, h₂]
  | case2 bytes hne =>
    match bytes, hne, h with
    | [], _, _ => exact ⟨rfl, rfl⟩
    | [_], _, h => simp at h
    | b₁ :: b₂ :: rest, hne, _ => exact absurd rfl (hne b₁ b₂ rest)

theorem length_swapPairs (bytes : List UInt8) : (swapPairs bytes).length = bytes.length := by
  fun_induction swapPairs bytes with
  | case1 b₁ b₂ bytes ih => simp [ih]
  | case2 => rfl

/-- The bytes of a color item survive being swapped as halves: the pixel's two
halves are equal, and so are its flags and the byte behind them. -/
def ColorItemUnchanged (item : List UInt8) : Prop :=
  item[0]? = item[2]? ∧ item[1]? = item[3]? ∧ item[10]? = item[11]?

/-- The layout of a color item. -/
abbrev colorItem : List Field := [.word, .half, .half, .half, .byte, .pad 1]

theorem colorItem_iff {unit : List Item} (hadmits : List.Forall₂ Field.Admits colorItem unit)
    {group : List UInt8} (hgroup : Matches group (Layout.encode .bigEndian unit)) :
    Matches (swapPairs group) (Layout.encode .littleEndian unit) ↔ ColorItemUnchanged group := by
  obtain ⟨pixel, red, green, blue, flags, rfl⟩ : ∃ pixel red green blue flags,
      unit = [.word pixel, .half red, .half green, .half blue, .byte flags, .pad 1] := by
    simp only [List.forall₂_cons_left_iff, List.forall₂_nil_left_iff, Field.admits_word,
      Field.admits_half, Field.admits_byte, Field.admits_pad] at hadmits
    obtain ⟨_, _, ⟨pixel, rfl⟩, ⟨_, _, ⟨red, rfl⟩, ⟨_, _, ⟨green, rfl⟩, ⟨_, _, ⟨blue, rfl⟩,
      ⟨_, _, ⟨flags, rfl⟩, ⟨_, _, rfl, rfl, rfl⟩, rfl⟩, rfl⟩, rfl⟩, rfl⟩, rfl⟩ := hadmits
    exact ⟨pixel, red, green, blue, flags, rfl⟩
  simp [Layout.encode, Item.encode, Item.littleBytes] at hgroup
  obtain ⟨unused, rfl⟩ := hgroup
  simp [Layout.encode, Item.encode, Item.littleBytes, swapPairs, ColorItemUnchanged]
  constructor
  · rintro ⟨h₀, h₁, -, -, h₁₁⟩
    exact ⟨h₁, h₀, h₁₁.symm⟩
  · rintro ⟨h₁, h₀, h₁₁⟩
    exact ⟨h₀, h₁, h₀.symm, h₁.symm, h₁₁.symm⟩

/-- The pieces of a concatenation of equally long lists. -/
theorem take_drop_flatten {n : Nat} {groups : List (List UInt8)} {rest : List UInt8}
    (h : ∀ group ∈ groups, group.length = n) {i : Nat} (hi : i < groups.length) :
    ((groups.flatten ++ rest).drop (n * i)).take n = groups[i] := by
  induction groups generalizing i with
  | nil => cases hi
  | cons group groups ih =>
    have hlen := h group (.head _)
    rw [List.flatten_cons, List.append_assoc]
    cases i with
    | zero => rw [Nat.mul_zero, List.drop_zero, ← hlen, List.take_left]; rfl
    | succ i =>
      rw [Nat.mul_succ, Nat.add_comm, ← List.drop_drop, ← hlen, List.drop_left, hlen]
      exact ih (fun g hg => h g (.tail _ hg)) (Nat.lt_of_succ_lt_succ hi)

section Tables
variable {l : RequestLayout} {r : Record} {body : List UInt8} {entries rest : List FieldEntry}

/-- The twelve bytes of a body's color item. -/
def colorItemBytes (l : RequestLayout) (body : List UInt8) (i : Nat) : List UInt8 :=
  (body.drop (headSize l + 12 * i)).take 12

/-- A list of color items swapped as an array of halves. -/
theorem colorItemList_iff (kind : FieldKind) (hl : l.Admits r)
    (hbody : Matches body (r.encode .bigEndian))
    (hafter : afterHead l.head 0 entries = some [.elementArrayTail (headSize l) kind])
    (hkind : kind.size = 2) (hunit : l.unit = colorItem) :
    Matches (applyEntries entries body) (r.encode .littleEndian) ↔
      ∀ i < r.units.length, ColorItemUnchanged (colorItemBytes l body i) := by
  obtain ⟨a⟩ := exists_afterHead hl hbody hafter
  obtain ⟨groups, hgroups, hunits⟩ := a.groups hl
  rw [hunit] at hunits
  have hlens : ∀ group ∈ groups, group.length = 12 := by
    intro group hgroup
    obtain ⟨unit, -, hm, hadmits⟩ := Layout.exists_of_mem_left hunits hgroup
    rw [hm.length_eq, Layout.length_encode hadmits]
    rfl
  -- as an array of halves the list is the pairs of its items
  have hpairs : a.list = (groups.flatMap pairs).flatten ∧
      ((groups.flatMap pairs).map List.reverse).flatten = (groups.map swapPairs).flatten := by
    rw [hgroups]
    clear hgroups hunits a
    induction groups with
    | nil => exact ⟨rfl, rfl⟩
    | cons group groups ih =>
      obtain ⟨h₁, h₂⟩ := ih fun g hg => hlens g (.tail _ hg)
      obtain ⟨h₃, h₄⟩ := flatten_pairs group (by rw [hlens group (.head _)])
      constructor
      · rw [List.flatMap_cons, List.flatten_append, h₃, ← h₁, List.flatten_cons]
      · rw [List.flatMap_cons, List.map_append, List.flatten_append, h₄, h₂, List.map_cons,
          List.flatten_cons]
  have hsegs : ∀ seg ∈ groups.flatMap pairs, seg.length = kind.size := by
    intro seg hseg
    obtain ⟨group, -, hseg⟩ := List.mem_flatMap.mp hseg
    rw [pairs_length seg hseg, hkind]
  have hitem : ∀ i (hi : i < groups.length), colorItemBytes l body i = groups[i] := by
    intro i hi
    rw [colorItemBytes, ← List.drop_drop, a.body_drop, hgroups]
    exact take_drop_flatten hlens hi
  rw [arrayList_iff a hpairs.1 hsegs, hpairs.2, matches_map_units_iff length_swapPairs hunits,
    ← hunits.length_eq]
  obtain ⟨hlen, hat⟩ := List.forall₂_iff_get.mp hunits
  rw [List.forall₂_iff_get, and_iff_right hlen]
  constructor
  · intro h i hi
    obtain ⟨hmatch, hadmits⟩ := hat i hi (hlen ▸ hi)
    rw [hitem i hi]
    exact (colorItem_iff hadmits hmatch).mp (h i hi (hlen ▸ hi))
  · intro h i hi hi'
    obtain ⟨hmatch, hadmits⟩ := hat i hi hi'
    have hitem' := h i hi
    rw [hitem i hi] at hitem'
    exact (colorItem_iff hadmits hmatch).mpr hitem'

end Tables

/-! ## The core tables -/

/-- A table that swaps exactly the fields of a layout: its head, and its list
as the array it is, or not at all where it is a list of bytes. -/
def Agrees (l : RequestLayout) (entries : List FieldEntry) : Bool :=
  match afterHead l.head 0 entries with
  | some [.elementArrayTail start kind] =>
    decide (start = headSize l) && l.unit.all fun field => decide (Typed kind field)
  | some rest => rest.all FieldEntry.isOpaque && l.unit.all fun field => decide (field = .byte)
  | none => false

theorem Agrees.matches_little {l : RequestLayout} {entries : List FieldEntry}
    (h : Agrees l entries) {r : Record} (hl : l.Admits r) {body : List UInt8}
    (hbody : Matches body (r.encode .bigEndian)) :
    Matches (applyEntries entries body) (r.encode .littleEndian) := by
  unfold Agrees at h
  split at h
  · next start kind hafter =>
    rw [Bool.and_eq_true, decide_eq_true_eq, List.all_eq_true] at h
    obtain ⟨rfl, hunit⟩ := h
    exact typedList_matches hl hbody hafter fun field hf => of_decide_eq_true (hunit field hf)
  · next rest _ hafter =>
    rw [Bool.and_eq_true, List.all_eq_true (l := l.unit)] at h
    refine (untouchedList_iff hl hbody hafter fun buf _ => applyEntries_opaque h.1 buf).mpr ?_
    intro unit hunit item hitem
    obtain ⟨field, hfield, hadmits⟩ := Layout.exists_of_mem_right (hl.units unit hunit) hitem
    refine hadmits.symmetric ?_
    rw [of_decide_eq_true (h.2 field hfield)]
    simp
  · cases h

/-- The opcodes whose table says something else than the layout. -/
def mistabled : List UInt8 := [18, 28, 48, 89]

/-- Exactly the core requests with a table have a layout, and all but four
tables agree with it. -/
theorem coreTables_agree : ∀ code < 256,
    (coreRequestLayouts (UInt8.ofNat code)).isEmpty =
      (coreRequestSwapTable (UInt8.ofNat code)).isNone ∧
    (coreRequestLayouts (UInt8.ofNat code)).all fun l =>
      decide (code < 128) && (coreRequestSwapTable (UInt8.ofNat code)).any fun entries =>
        mistabled.contains (UInt8.ofNat code) || Agrees l entries := by
  decide +kernel

/-- When the swap of a body is harmless although the table is not the
layout's: property data of 16 or 32 bits and the modifiers of GrabButton are
left in the client's order, the bytes of a character are exchanged, and a
color item is swapped as six halves. -/
def SwapHarmless (opcode : UInt8) (r : CoreRequest opcode) (body : List UInt8) : Prop :=
  if opcode = 18 then ∀ unit ∈ r.record.units, ∀ item ∈ unit, item.Symmetric
  else if opcode = 28 then ∀ item ∈ r.record.head.drop 8, item.Symmetric
  else if opcode = 48 then ∀ unit ∈ r.record.units, unit.reverse = unit
  else if opcode = 89 then
    ∀ i < r.record.units.length, ColorItemUnchanged (colorItemBytes r.layout body i)
  else True

/-- A core request's table is found and run. -/
theorem swapRequestBody_core {opcode : UInt8} (hcore : opcode < 128) {entries : List FieldEntry}
    (htable : coreRequestSwapTable opcode = some entries) (data : UInt8) (body : List UInt8) :
    swapRequestBody opcode data .bigEndian body = applyEntries entries body := by
  simp only [swapRequestBody, if_pos hcore, htable]
  rfl

theorem changeProperty_iff (r : CoreRequest 18) {body : List UInt8}
    (hbody : Matches body (r.record.encode .bigEndian)) {entries : List FieldEntry}
    (htable : coreRequestSwapTable 18 = some entries) :
    Matches (applyEntries entries body) (r.record.encode .littleEndian) ↔
      ∀ unit ∈ r.record.units, ∀ item ∈ unit, item.Symmetric := by
  have hafter : afterHead r.layout.head 0 entries = some [.opaqueTail 20] := by
    have hlayouts : ∀ l ∈ coreRequestLayouts 18,
        afterHead l.head 0 entries = some [.opaqueTail 20] := by
      cases htable
      exact List.forall_mem_cons.mpr ⟨rfl, List.forall_mem_cons.mpr
        ⟨rfl, List.forall_mem_singleton.mpr rfl⟩⟩
    exact hlayouts r.layout r.known
  exact untouchedList_iff r.admits hbody hafter fun _ _ => rfl

theorem grabButton_iff (r : CoreRequest 28) {body : List UInt8}
    (hbody : Matches body (r.record.encode .bigEndian)) {entries : List FieldEntry}
    (htable : coreRequestSwapTable 28 = some entries) :
    Matches (applyEntries entries body) (r.record.encode .littleEndian) ↔
      ∀ item ∈ r.record.head.drop 8, item.Symmetric := by
  cases htable
  have hlayout : r.layout = ⟨[.word, .half, .byte, .byte, .word, .word, .byte, .pad 1, .half], []⟩ :=
    List.mem_singleton.mp r.known
  have hhead := r.admits.head
  obtain ⟨hunits, hpadding⟩ := r.admits.noList (by rw [hlayout])
  rw [hlayout] at hhead
  -- read the modifiers as a list of one unit behind the eight fields before them
  let split : Record := ⟨r.record.head.take 8, [r.record.head.drop 8], 0⟩
  have hsplit : ∀ order, r.record.encode order = split.encode order := by
    intro order
    simp only [Record.encode, hunits, hpadding, split, List.flatMap_cons, List.flatMap_nil,
      List.replicate_zero, List.append_nil]
    rw [Layout.encode, Layout.encode, Layout.encode, ← List.flatMap_append, List.take_append_drop]
  have hadmits : RequestLayout.Admits
      ⟨[.word, .half, .byte, .byte, .word, .word, .byte, .pad 1], [.half]⟩ split := by
    refine ⟨List.forall₂_take 8 hhead, fun unit hunit => ?_, fun h => by cases h⟩
    obtain rfl := List.mem_singleton.mp hunit
    exact List.forall₂_drop 8 hhead
  have hlen : body.length = 20 := by
    rw [hbody.length_eq, Record.encode, hunits, hpadding, List.length_append,
      Layout.length_encode hhead]
    rfl
  rw [hsplit] at hbody ⊢
  have hafter : afterHead [.word, .half, .byte, .byte, .word, .word, .byte, .pad 1] 0
      [.fixed 0 .U32, .fixed 4 .U16, .fixed 8 .U32, .fixed 12 .U32, .fixed 20 .U16] =
      some [.fixed 20 .U16] := rfl
  refine (untouchedList_iff hadmits hbody hafter fun buf hbuf => ?_).trans (by simp [split])
  exact Layout.reverseSlice_of_lt (by rw [hbuf, hlen]; decide)

/-- The swap turns a big-endian body into the little-endian one exactly when
it is harmless. -/
theorem swapRequestBody_transparent_iff (opcode data : UInt8) (r : CoreRequest opcode)
    (body : List UInt8) (hbody : Matches body (r.record.encode .bigEndian)) :
    Matches (swapRequestBody opcode data .bigEndian body) (r.record.encode .littleEndian) ↔
      SwapHarmless opcode r body := by
  obtain ⟨-, hall⟩ := coreTables_agree opcode.toNat opcode.toNat_lt
  rw [UInt8.ofNat_toNat, List.all_eq_true] at hall
  have hl := hall r.layout r.known
  rw [Bool.and_eq_true, decide_eq_true_eq, Option.any_eq_true] at hl
  obtain ⟨hcore, entries, htable, hagrees⟩ := hl
  rw [swapRequestBody_core (by rwa [UInt8.lt_iff_toNat_lt]) htable, SwapHarmless]
  split
  · next h18 => subst h18; exact changeProperty_iff r hbody htable
  split
  · next h28 => subst h28; exact grabButton_iff r hbody htable
  split
  · next h48 =>
    subst h48
    cases htable
    have hlayout : r.layout = ⟨[.word], [.byte, .byte]⟩ := List.mem_singleton.mp r.known
    exact char2bList_iff .U16 r.admits hbody (by rw [hlayout]; rfl) rfl (by rw [hlayout])
  split
  · next h89 =>
    subst h89
    cases htable
    have hlayout : r.layout = ⟨[.word], colorItem⟩ := List.mem_singleton.mp r.known
    exact colorItemList_iff .U16 r.admits hbody (by rw [hlayout]; rfl) rfl (by rw [hlayout])
  · next h18 h28 h48 h89 =>
    have hagree : Agrees r.layout entries := by
      simpa [mistabled, h18, h28, h48, h89] using hagrees
    exact iff_of_true (Agrees.matches_little hagree r.admits hbody) trivial

/-- MapWindow of window 1. -/
def mapWindowRequest : CoreRequest 8 where
  layout := ⟨[.word], []⟩
  known := List.mem_singleton_self _
  record := { head := [.word 1], units := [], padding := 0 }
  admits :=
    { head := by simp [Field.Admits]
      units := by simp
      noList := fun _ => ⟨rfl, rfl⟩ }

theorem swapRequestBody_transparent_mapWindow :
    Matches [0, 0, 0, 1] (mapWindowRequest.record.encode .bigEndian) ∧
    (Matches (swapRequestBody 8 0 .bigEndian [0, 0, 0, 1])
        (mapWindowRequest.record.encode .littleEndian) ↔
      SwapHarmless 8 mapWindowRequest [0, 0, 0, 1]) :=
  ⟨by decide, swapRequestBody_transparent_iff 8 0 mapWindowRequest _ (by decide)⟩

/-- GrabButton with the modifiers at 18: the table swaps the two bytes behind
the body instead. -/
def grabButtonControl : CoreRequest 28 where
  layout := ⟨[.word, .half, .byte, .byte, .word, .word, .byte, .pad 1, .half], []⟩
  known := List.mem_singleton_self _
  record :=
    { head := [.word 1, .half 4, .byte 1, .byte 1, .word 0, .word 0, .byte 1, .pad 1, .half 4]
      units := []
      padding := 0 }
  admits :=
    { head := by simp [Field.Admits]
      units := by simp
      noList := fun _ => ⟨rfl, rfl⟩ }

theorem swapRequestBody_not_transparent :
    Matches [0, 0, 0, 1, 0, 4, 1, 1, 0, 0, 0, 0, 0, 0, 0, 0, 1, 0, 0, 4]
      (grabButtonControl.record.encode .bigEndian) ∧
    ¬ Matches (swapRequestBody 28 0 .bigEndian
        [0, 0, 0, 1, 0, 4, 1, 1, 0, 0, 0, 0, 0, 0, 0, 0, 1, 0, 0, 4])
      (grabButtonControl.record.encode .littleEndian) := by
  decide

end X12
