import X12.Core.AddGlyphs
import X12.Verify.Wire
import Mathlib.Data.List.Basic

/-! # Glyphs are decoded exactly

The images of a body follow each other in their padded sizes. A body that ends early gives the
glyphs whose images it has whole, whatever would have come after it. -/

namespace X12

/-! ## Slices -/

section

variable {bytes : List UInt8} {start size j : Nat}

theorem sliceChecked_eq {stop : Nat} (hstart : start ≤ stop) (hstop : stop ≤ bytes.length) :
    sliceChecked bytes start stop = some ((bytes.drop start).take (stop - start)) :=
  if_pos ⟨hstart, hstop⟩

theorem getElem?_chunksExact {i : Nat} {chunk : List UInt8}
    (h : (chunksExact size bytes)[i]? = some chunk) :
    i < bytes.length / size ∧ chunk = (bytes.drop (size * i)).take size := by
  rw [chunksExact, List.getElem?_map, Option.map_eq_some_iff] at h
  obtain ⟨k, hk, rfl⟩ := h
  obtain ⟨hlt, rfl⟩ := List.getElem?_eq_some_iff.mp hk
  rw [List.length_range] at hlt
  rw [List.getElem_range]
  exact ⟨hlt, rfl⟩

end

/-! ## Rows of one length -/

section

variable {α : Type*} {rows : List (List α)} {w row col : Nat}

theorem length_flatten_rows (h : ∀ r ∈ rows, r.length = w) :
    rows.flatten.length = rows.length * w := by
  induction rows with
  | nil => rw [List.flatten_nil, List.length_nil, List.length_nil, Nat.zero_mul]
  | cons r rows ih =>
    rw [List.flatten_cons, List.length_append, ih fun r' hr' => h r' (List.mem_cons_of_mem _ hr'),
      h r List.mem_cons_self, List.length_cons, Nat.succ_mul, Nat.add_comm]

theorem getElem?_flatten_rows (h : ∀ r ∈ rows, r.length = w) (hcol : col < w) :
    rows.flatten[row * w + col]? = rows[row]?.bind fun r => r[col]? := by
  induction rows generalizing row with
  | nil => rfl
  | cons r rows ih =>
    have hlength := h r List.mem_cons_self
    cases row with
    | zero =>
      rw [Nat.zero_mul, Nat.zero_add, List.flatten_cons,
        List.getElem?_append_left (by rwa [hlength])]
      rfl
    | succ row =>
      rw [List.flatten_cons, List.getElem?_append_right (by rw [hlength, Nat.succ_mul]; omega),
        hlength, show (row + 1) * w + col - w = row * w + col by rw [Nat.succ_mul]; omega,
        ih fun r' hr' => h r' (List.mem_cons_of_mem _ hr'), List.getElem?_cons_succ]

theorem mapM_eq_some {β : Type*} {f : α → Option β} {g : α → β} {l : List α}
    (h : ∀ a ∈ l, f a = some (g a)) : l.mapM f = some (l.map g) := by
  induction l with
  | nil => rfl
  | cons a l ih =>
    rw [List.mapM_cons, h a List.mem_cons_self, ih fun b hb => h b (List.mem_cons_of_mem _ hb)]
    rfl

/-- Rows of one length that can all be read are stored one after the other. -/
theorem mapM_range_rows {rowAt : Nat → Option (List α)} {rowOf : Nat → List α} {h : Nat}
    (hrow : ∀ row, row < h → rowAt row = some (rowOf row) ∧ (rowOf row).length = w) :
    ∃ rows, (List.range h).mapM rowAt = some rows ∧ rows.flatten.length = w * h ∧
      ∀ row col, row < h → col < w → rows.flatten[row * w + col]? = (rowOf row)[col]? := by
  have hread : ∀ row ∈ List.range h, rowAt row = some (rowOf row) := by
    intro row hmem
    exact (hrow row (List.mem_range.mp hmem)).1
  have hlengths : ∀ r ∈ (List.range h).map rowOf, r.length = w := by
    intro r hr
    obtain ⟨row, hmem, rfl⟩ := List.mem_map.mp hr
    exact (hrow row (List.mem_range.mp hmem)).2
  refine ⟨_, mapM_eq_some hread, ?_, ?_⟩
  · rw [length_flatten_rows hlengths, List.length_map, List.length_range, Nat.mul_comm]
  · intro row col hlt hcol
    rw [getElem?_flatten_rows hlengths hcol, List.getElem?_map, List.getElem?_range hlt]
    rfl

end

/-! ## Images -/

/-- The bits of a pixel on the wire. -/
def pixelDepth : GlyphSetFormat → Nat
  | .A8 => 8
  | .A1 => 1
  | .Argb32 => 32
  | .Other => 0

/-- The bytes of a row on the wire: its bits, up to a multiple of 32. -/
def paddedRow (format : GlyphSetFormat) (w : Nat) : Nat :=
  (w * pixelDepth format + 31) / 32 * 4

/-- The stride of each format is the padded row. -/
theorem glyphStride_eq (format : GlyphSetFormat) (w : Nat) :
    glyphStride format w = paddedRow format w := by
  rw [paddedRow]
  cases format <;> simp only [glyphStride, pixelDepth] <;> omega

/-- The number of bytes that are stored for an image. -/
def storedSize (format : GlyphSetFormat) (w h : Nat) : Nat :=
  match format with
  | .A1 => paddedRow .A1 w * h
  | _ => w * h

/-- The bytes that are stored are the image on the wire, without the padding of its rows, and
of a pixel of 32 bits the last byte. Rows of bits are stored as they are. -/
def StoresImage (format : GlyphSetFormat) (body : List UInt8) (offset w h : Nat)
    (pixels : List UInt8) : Prop :=
  match format with
  | .A8 => ∀ row col, row < h → col < w →
    pixels[row * w + col]? = body[offset + row * paddedRow .A8 w + col]?
  | .A1 => ∀ i, i < paddedRow .A1 w * h → pixels[i]? = body[offset + i]?
  | .Argb32 => ∀ row col, row < h → col < w →
    pixels[row * w + col]? = body[offset + row * paddedRow .Argb32 w + col * 4 + 3]?
  | .Other => False

/-- The format of a stored glyph. -/
def storedFormat (format : GlyphSetFormat) : GlyphSetFormat :=
  if format = .A1 then .A1 else .A8

section

variable {format : GlyphSetFormat} {body wire : List UInt8} {offset w h row : Nat}

theorem row_fits (stride : Nat) (hrow : row < h) : row * stride + stride ≤ stride * h := by
  rw [← Nat.succ_mul, Nat.mul_comm]
  exact Nat.mul_le_mul_left stride hrow

/-- An image that the body has whole is stored. -/
theorem glyphPixels_spec (hformat : format ≠ .Other)
    (hfits : offset + paddedRow format w * h ≤ body.length) :
    ∃ pixels, glyphPixels format ((body.drop offset).take (paddedRow format w * h)) w h
        (paddedRow format w) = some (pixels, storedFormat format) ∧
      pixels.length = storedSize (storedFormat format) w h ∧
      StoresImage format body offset w h pixels := by
  have hlength : ((body.drop offset).take (paddedRow format w * h)).length =
      paddedRow format w * h := by
    rw [List.length_take, List.length_drop]
    omega
  cases format with
  | Other => exact absurd rfl hformat
  | A1 => exact ⟨_, rfl, hlength, fun i hi => getElem?_slice hi⟩
  | A8 =>
    have hstride : w ≤ paddedRow .A8 w := by
      rw [paddedRow, pixelDepth]
      omega
    generalize hwire : (body.drop offset).take (paddedRow .A8 w * h) = wire at hlength ⊢
    have hrow (row : Nat) (hlt : row < h) :
        sliceChecked wire (row * paddedRow .A8 w) (row * paddedRow .A8 w + w) =
            some ((wire.drop (row * paddedRow .A8 w)).take w) ∧
          ((wire.drop (row * paddedRow .A8 w)).take w).length = w := by
      have hfits := row_fits (paddedRow .A8 w) hlt
      constructor
      · rw [sliceChecked_eq (Nat.le_add_right _ _) (by omega), Nat.add_sub_cancel_left]
      · rw [List.length_take, List.length_drop]
        omega
    obtain ⟨rows, hrows, hsize, hentry⟩ := mapM_range_rows hrow
    refine ⟨rows.flatten, by rw [glyphPixels, hrows]; rfl, hsize, ?_⟩
    intro row col hlt hcol
    have hfits := row_fits (paddedRow .A8 w) hlt
    rw [hentry row col hlt hcol, getElem?_slice hcol, ← hwire, getElem?_slice (by omega),
      Nat.add_assoc]
  | Argb32 =>
    generalize hwire : (body.drop offset).take (paddedRow .Argb32 w * h) = wire at hlength ⊢
    have hpixel {row col : Nat} (hlt : row < h) (hcol : col < w) :
        wire[row * paddedRow .Argb32 w + col * 4 + 3]? =
          some (wire.getD (row * paddedRow .Argb32 w + col * 4 + 3) 0) := by
      have hfits := row_fits (paddedRow .Argb32 w) hlt
      have hinside : row * paddedRow .Argb32 w + col * 4 + 3 < wire.length := by
        rw [hlength]
        simp only [paddedRow, pixelDepth] at hfits ⊢
        omega
      rw [List.getD_eq_getElem?_getD, List.getElem?_eq_getElem hinside, Option.getD_some]
    have hrow (row : Nat) (hlt : row < h) :
        ((List.range w).mapM fun col => wire[row * paddedRow .Argb32 w + col * 4 + 3]?) =
            some ((List.range w).map fun col =>
              wire.getD (row * paddedRow .Argb32 w + col * 4 + 3) 0) ∧
          ((List.range w).map fun col =>
            wire.getD (row * paddedRow .Argb32 w + col * 4 + 3) 0).length = w := by
      constructor
      · exact mapM_eq_some fun col hcol => hpixel hlt (List.mem_range.mp hcol)
      · rw [List.length_map, List.length_range]
    obtain ⟨rows, hrows, hsize, hentry⟩ := mapM_range_rows hrow
    refine ⟨rows.flatten, by rw [glyphPixels, hrows]; rfl, hsize, ?_⟩
    intro row col hlt hcol
    have hfits := row_fits (paddedRow .Argb32 w) hlt
    rw [hentry row col hlt hcol, List.getElem?_map, List.getElem?_range hcol, Option.map_some,
      ← hpixel hlt hcol, ← hwire,
      getElem?_slice (by simp only [paddedRow, pixelDepth] at hfits ⊢; omega)]
    simp only [Nat.add_assoc]

end

/-! ## Glyphs -/

def glyphCount (body : List UInt8) : Nat := readU32Le body 0

/-- Where the record of a glyph is. -/
def glyphRecord (body : List UInt8) (i : Nat) : Nat :=
  4 + glyphCount body * 4 + 12 * i

/-- The padded size of the image of a glyph. -/
def glyphSize (format : GlyphSetFormat) (body : List UInt8) (i : Nat) : Nat :=
  paddedRow format (readU16Le body (glyphRecord body i)) *
    readU16Le body (glyphRecord body i + 2)

/-- Where the image of a glyph is: after the records and the images before it. -/
def glyphOffset (format : GlyphSetFormat) (body : List UInt8) : Nat → Nat
  | 0 => 4 + glyphCount body * 4 + glyphCount body * 12
  | i + 1 => glyphOffset format body i + glyphSize format body i

/-- Where the image of a glyph ends. -/
def glyphEnd (format : GlyphSetFormat) (body : List UInt8) (i : Nat) : Nat :=
  glyphOffset format body i + glyphSize format body i

/-- The glyph at a place of a body. -/
structure Decodes (format : GlyphSetFormat) (body : List UInt8) (i : Nat)
    (g : UInt32 × StoredGlyph) : Prop where
  counted : i < glyphCount body
  inside : glyphEnd format body i ≤ body.length
  id : g.1 = u32Le body (4 + 4 * i)
  width : g.2.width.toNat = readU16Le body (glyphRecord body i)
  height : g.2.height.toNat = readU16Le body (glyphRecord body i + 2)
  x : g.2.x = (UInt16.ofNat (readU16Le body (glyphRecord body i + 4))).toInt16
  y : g.2.y = (UInt16.ofNat (readU16Le body (glyphRecord body i + 6))).toInt16
  xOff : g.2.xOff = (UInt16.ofNat (readU16Le body (glyphRecord body i + 8))).toInt16
  yOff : g.2.yOff = (UInt16.ofNat (readU16Le body (glyphRecord body i + 10))).toInt16
  stored : g.2.format = storedFormat format
  size : g.2.pixels.length = storedSize g.2.format g.2.width.toNat g.2.height.toNat
  image : StoresImage format body (glyphOffset format body i) g.2.width.toNat g.2.height.toNat
    g.2.pixels

/-- The id and the record of a glyph, cut out of the body. -/
structure ChunkOf (body : List UInt8) (i : Nat) (chunk : List UInt8 × List UInt8) : Prop where
  counted : i < glyphCount body
  id : u32Le chunk.1 0 = u32Le body (4 + 4 * i)
  record : ∀ j, j ≤ 10 → readU16Le chunk.2 j = readU16Le body (glyphRecord body i + j)

section

variable {format : GlyphSetFormat} {body ext : List UInt8} {k dataOff : Nat}
  {chunk : List UInt8 × List UInt8} {chunks : List (List UInt8 × List UInt8)}

/-- The size of the image of a chunk. -/
def chunkSize (format : GlyphSetFormat) (chunk : List UInt8 × List UInt8) : Nat :=
  paddedRow format (readU16Le chunk.2 0) * readU16Le chunk.2 2

theorem glyphLoop_short (hlong : body.length < dataOff + chunkSize format chunk) :
    glyphLoop format body (chunk :: chunks) dataOff = some [] := by
  rw [chunkSize, ← glyphStride_eq] at hlong
  exact if_pos hlong

/-- A glyph whose image the body has whole comes before the rest. -/
theorem glyphLoop_cons {pixels : List UInt8} {stored : GlyphSetFormat}
    (hfits : dataOff + chunkSize format chunk ≤ body.length)
    (hpixels : glyphPixels format ((body.drop dataOff).take (chunkSize format chunk))
      (readU16Le chunk.2 0) (readU16Le chunk.2 2) (paddedRow format (readU16Le chunk.2 0)) =
        some (pixels, stored)) :
    glyphLoop format body (chunk :: chunks) dataOff =
      (glyphLoop format body chunks (dataOff + chunkSize format chunk)).map
        (storedGlyph chunk.1 chunk.2 pixels stored :: ·) := by
  have hslice : sliceChecked body dataOff (dataOff + chunkSize format chunk) =
      some ((body.drop dataOff).take (chunkSize format chunk)) := by
    rw [sliceChecked_eq (Nat.le_add_right _ _) hfits, Nat.add_sub_cancel_left]
  rw [chunkSize] at hfits hslice hpixels
  rw [glyphLoop, glyphStride_eq, if_neg (Nat.not_lt.mpr hfits), hslice, Option.bind_eq_bind, Option.bind_some,
    hpixels, Option.bind_eq_bind, Option.bind_some, chunkSize]
  cases glyphLoop format body chunks _ with
  | none => rfl
  | some rest => rfl

/-- The glyph of a chunk is the one at its place. -/
theorem decodes_storedGlyph {pixels : List UInt8} (hchunk : ChunkOf body k chunk)
    (hfits : glyphEnd format body k ≤ body.length)
    (hsize : pixels.length = storedSize (storedFormat format) (readU16Le chunk.2 0)
      (readU16Le chunk.2 2))
    (himage : StoresImage format body (glyphOffset format body k) (readU16Le chunk.2 0)
      (readU16Le chunk.2 2) pixels) :
    Decodes format body k (storedGlyph chunk.1 chunk.2 pixels (storedFormat format)) := by
  have hu16 := toNat_u16Le chunk.2
  have hrecord (i : Nat) (hi : i ≤ 10) := congrArg (fun n => (UInt16.ofNat n).toInt16)
    (hchunk.record i hi)
  refine ⟨hchunk.counted, hfits, hchunk.id, ?_, ?_, hrecord 4 (by omega), hrecord 6 (by omega),
    hrecord 8 (by omega), hrecord 10 (by omega), rfl, ?_, ?_⟩
  · exact (hu16 0).trans (hchunk.record 0 (by omega))
  · exact (hu16 2).trans (hchunk.record 2 (by omega))
  · rw [storedGlyph, hu16, hu16]
    exact hsize
  · rw [storedGlyph, hu16, hu16]
    exact himage

/-- The glyphs of a part of the chunks are decoded, up to the first one whose image is not
whole. -/
theorem glyphLoop_spec (hformat : format ≠ .Other)
    (hchunks : ∀ i chunk, chunks[i]? = some chunk → ChunkOf body (k + i) chunk) :
    ∃ added, glyphLoop format body chunks (glyphOffset format body k) = some added ∧
      (∀ i g, added[i]? = some g → Decodes format body (k + i) g) ∧
      added.length ≤ chunks.length ∧
      (added.length < chunks.length →
        body.length < glyphEnd format body (k + added.length)) := by
  induction chunks generalizing k with
  | nil =>
    refine ⟨[], rfl, ?_, Nat.le_refl 0, fun h => absurd h (Nat.lt_irrefl 0)⟩
    intro i g hi
    cases hi
  | cons chunk chunks ih =>
    have hchunk := hchunks 0 chunk rfl
    have hwidth := hchunk.record 0 (by omega)
    have hheight := hchunk.record 2 (by omega)
    have hsize : chunkSize format chunk = glyphSize format body k := by
      rw [chunkSize, hwidth, hheight]
      rfl
    by_cases hfits : glyphEnd format body k ≤ body.length
    · have hfits' : glyphOffset format body k + chunkSize format chunk ≤ body.length := by
        rw [hsize]
        exact hfits
      obtain ⟨pixels, hpixels, hlength, himage⟩ := glyphPixels_spec hformat hfits'
      have hrest (i : Nat) (c : List UInt8 × List UInt8) (hi : chunks[i]? = some c) :
          ChunkOf body (k + 1 + i) c := by
        rw [Nat.add_assoc, Nat.add_comm 1]
        exact hchunks (i + 1) c hi
      obtain ⟨added, hadded, hall, hle, hstop⟩ := ih hrest
      refine ⟨storedGlyph chunk.1 chunk.2 pixels (storedFormat format) :: added, ?_, ?_,
        Nat.succ_le_succ hle, ?_⟩
      · rw [glyphLoop_cons hfits' hpixels, hsize]
        exact congrArg (Option.map _) hadded
      · intro i g hi
        cases i with
        | zero =>
          cases hi
          exact decodes_storedGlyph hchunk hfits hlength himage
        | succ i =>
          rw [← Nat.add_assoc, Nat.add_right_comm]
          exact hall i g hi
      · intro hlt
        rw [List.length_cons, ← Nat.add_assoc, Nat.add_right_comm]
        exact hstop (Nat.lt_of_succ_lt_succ hlt)
    · refine ⟨[], glyphLoop_short ?_, ?_, Nat.zero_le _, fun _ => Nat.lt_of_not_le hfits⟩
      · rw [hsize]
        exact Nat.lt_of_not_le hfits
      · intro i g hi
        cases hi

/-- No chunk makes the loop panic. -/
theorem glyphLoop_total (hformat : format ≠ .Other) (body : List UInt8)
    (chunks : List (List UInt8 × List UInt8)) (dataOff : Nat) :
    ∃ added, glyphLoop format body chunks dataOff = some added := by
  induction chunks generalizing dataOff with
  | nil => exact ⟨[], rfl⟩
  | cons chunk chunks ih =>
    by_cases hfits : dataOff + chunkSize format chunk ≤ body.length
    · obtain ⟨pixels, hpixels, -⟩ := glyphPixels_spec hformat hfits
      obtain ⟨added, hadded⟩ := ih (dataOff + chunkSize format chunk)
      rw [glyphLoop_cons hfits hpixels, hadded]
      exact ⟨_, rfl⟩
    · exact ⟨[], glyphLoop_short (Nat.lt_of_not_le hfits)⟩

/-- What follows a body does not change the glyphs that it has whole. -/
theorem glyphLoop_append (hformat : format ≠ .Other) (ext : List UInt8)
    {added : List (UInt32 × StoredGlyph)}
    (hadded : glyphLoop format body chunks dataOff = some added) :
    ∃ added', glyphLoop format (body ++ ext) chunks dataOff = some added' ∧
      added <+: added' := by
  induction chunks generalizing dataOff added with
  | nil =>
    cases hadded
    exact ⟨[], rfl, List.prefix_rfl⟩
  | cons chunk chunks ih =>
    by_cases hfits : dataOff + chunkSize format chunk ≤ body.length
    · obtain ⟨pixels, hpixels, -⟩ := glyphPixels_spec hformat hfits
      rw [glyphLoop_cons hfits hpixels, Option.map_eq_some_iff] at hadded
      obtain ⟨rest, hrest, rfl⟩ := hadded
      obtain ⟨rest', hrest', hprefix⟩ := ih hrest
      have hfits' : dataOff + chunkSize format chunk ≤ (body ++ ext).length := by
        rw [List.length_append]
        omega
      -- the image lies before the extension
      have hwire : ((body ++ ext).drop dataOff).take (chunkSize format chunk) =
          (body.drop dataOff).take (chunkSize format chunk) := by
        rw [List.drop_append_of_le_length (by omega),
          List.take_append_of_le_length (by rw [List.length_drop]; omega)]
      rw [chunkSize] at hwire
      rw [← hwire] at hpixels
      refine ⟨_, by rw [glyphLoop_cons hfits' hpixels, hrest']; rfl, ?_⟩
      exact (List.prefix_cons_inj _).mpr hprefix
    · rw [glyphLoop_short (Nat.lt_of_not_le hfits)] at hadded
      cases hadded
      obtain ⟨added', hadded'⟩ :=
        glyphLoop_total hformat (body ++ ext) (chunk :: chunks) dataOff
      exact ⟨added', hadded', List.nil_prefix⟩

/-! ## Bodies -/

/-- The ids and the records of a body. -/
def bodyChunks (body : List UInt8) : List (List UInt8 × List UInt8) :=
  (chunksExact 4 ((body.drop 4).take (glyphCount body * 4))).zip
    (chunksExact 12 ((body.drop (4 + glyphCount body * 4)).take (glyphCount body * 12)))

theorem length_bodyChunks
    (hbody : 4 + glyphCount body * 4 + glyphCount body * 12 ≤ body.length) :
    (bodyChunks body).length = glyphCount body := by
  have hids : ((body.drop 4).take (glyphCount body * 4)).length / 4 = glyphCount body := by
    rw [List.length_take, List.length_drop]
    omega
  have hrecords : ((body.drop (4 + glyphCount body * 4)).take
      (glyphCount body * 12)).length / 12 = glyphCount body := by
    rw [List.length_take, List.length_drop]
    omega
  rw [bodyChunks, List.length_zip, chunksExact, chunksExact, List.length_map, List.length_map,
    List.length_range, List.length_range, hids, hrecords, Nat.min_self]

theorem chunkOf_bodyChunks
    (hbody : 4 + glyphCount body * 4 + glyphCount body * 12 ≤ body.length) {i : Nat}
    (hi : (bodyChunks body)[i]? = some chunk) : ChunkOf body i chunk := by
  have hcounted : i < glyphCount body := by
    rw [← length_bodyChunks hbody]
    exact (List.getElem?_eq_some_iff.mp hi).choose
  obtain ⟨hid, hrecord⟩ := List.getElem?_zip_eq_some.mp hi
  obtain ⟨-, hid⟩ := getElem?_chunksExact hid
  obtain ⟨-, hrecord⟩ := getElem?_chunksExact hrecord
  refine ⟨hcounted, ?_, fun j hj => ?_⟩
  · rw [hid, u32Le_slice (by omega), u32Le_slice (by omega), Nat.add_zero]
  · rw [hrecord, readU16Le_slice (by omega), readU16Le_slice (by omega), glyphRecord,
      Nat.add_assoc (4 + glyphCount body * 4)]

theorem addedGlyphs_eq (hformat : format ≠ .Other)
    (hbody : 4 + glyphCount body * 4 + glyphCount body * 12 ≤ body.length) :
    addedGlyphs format body =
      glyphLoop format body (bodyChunks body) (glyphOffset format body 0) := by
  have hids : sliceChecked body 4 (4 + glyphCount body * 4) =
      some ((body.drop 4).take (glyphCount body * 4)) := by
    rw [sliceChecked_eq (by omega) (by omega), Nat.add_sub_cancel_left]
  have hrecords : sliceChecked body (4 + glyphCount body * 4)
      (4 + glyphCount body * 4 + glyphCount body * 12) =
        some ((body.drop (4 + glyphCount body * 4)).take (glyphCount body * 12)) := by
    rw [sliceChecked_eq (by omega) (by omega), Nat.add_sub_cancel_left]
  rw [glyphCount] at hbody hids hrecords
  rw [addedGlyphs, if_neg hformat, if_neg (by omega), if_neg (by omega), hids,
    Option.bind_eq_bind, Option.bind_some, hrecords]
  rfl

/-- A body that does not have all ids and records gives no glyph. -/
theorem addedGlyphs_eq_nil (h : ¬(format ≠ .Other ∧
    4 + glyphCount body * 4 + glyphCount body * 12 ≤ body.length)) :
    addedGlyphs format body = some [] := by
  by_cases hformat : format = .Other
  · exact if_pos hformat
  · have hbody : body.length < 4 + glyphCount body * 4 + glyphCount body * 12 :=
      Nat.lt_of_not_le fun hbody => h ⟨hformat, hbody⟩
    rw [addedGlyphs, if_neg hformat]
    by_cases hcount : body.length < 4
    · exact if_pos hcount
    · exact (if_neg hcount).trans (if_pos hbody)

theorem glyphCount_append (hbody : 4 ≤ body.length) :
    glyphCount (body ++ ext) = glyphCount body := by
  have hbyte (i : Nat) (hi : i < 4) : byteAt (body ++ ext) i = byteAt body i := by
    rw [byteAt, byteAt, List.getD_eq_getElem?_getD, List.getD_eq_getElem?_getD,
      List.getElem?_append_left (by omega)]
  rw [glyphCount, glyphCount, readU32Le, readU32Le, readU16Le, readU16Le, readU16Le, readU16Le,
    hbyte _ (by omega), hbyte _ (by omega), hbyte _ (by omega), hbyte _ (by omega)]

theorem glyphOffset_mono {i j : Nat} (h : i ≤ j) :
    glyphOffset format body i ≤ glyphOffset format body j := by
  induction j, h using Nat.le_induction with
  | base => exact Nat.le_refl _
  | succ j _ ih => exact Nat.le_trans ih (Nat.le_add_right _ _)

/-- The count, the ids, the records and the images up to this one are in the body. -/
def HasGlyph (format : GlyphSetFormat) (body : List UInt8) (i : Nat) : Prop :=
  format ≠ .Other ∧ i < glyphCount body ∧ glyphEnd format body i ≤ body.length

/-- The glyphs of a body that has its ids and records. -/
theorem addedGlyphs_spec (hformat : format ≠ .Other)
    (hbody : 4 + glyphCount body * 4 + glyphCount body * 12 ≤ body.length) :
    ∃ added, addedGlyphs format body = some added ∧
      (∀ i, i < added.length ↔ HasGlyph format body i) ∧
      ∀ i g, added[i]? = some g → Decodes format body i g := by
  have hchunks (i : Nat) (chunk : List UInt8 × List UInt8)
      (hi : (bodyChunks body)[i]? = some chunk) : ChunkOf body (0 + i) chunk := by
    rw [Nat.zero_add]
    exact chunkOf_bodyChunks hbody hi
  obtain ⟨added, hadded, hall, hle, hstop⟩ := glyphLoop_spec hformat hchunks
  rw [length_bodyChunks hbody] at hle hstop
  simp only [Nat.zero_add] at hall hstop
  refine ⟨added, (addedGlyphs_eq hformat hbody).trans hadded, fun i => ?_, hall⟩
  constructor
  · intro hi
    have hdecodes := hall i _ (List.getElem?_eq_getElem hi)
    exact ⟨hformat, hdecodes.counted, hdecodes.inside⟩
  · intro ⟨_, hcounted, hinside⟩
    by_contra hi
    have hshort := hstop (by omega)
    have hmono : glyphEnd format body added.length ≤ glyphEnd format body i :=
      glyphOffset_mono (Nat.succ_le_succ (Nat.le_of_not_lt hi))
    omega

theorem addedGlyphs_total (format : GlyphSetFormat) (body : List UInt8) :
    ∃ added, addedGlyphs format body = some added ∧
      (∀ i, i < added.length ↔ HasGlyph format body i) ∧
      ∀ i g, added[i]? = some g → Decodes format body i g := by
  by_cases hwhole : format ≠ .Other ∧
      4 + glyphCount body * 4 + glyphCount body * 12 ≤ body.length
  · exact addedGlyphs_spec hwhole.1 hwhole.2
  · refine ⟨[], addedGlyphs_eq_nil hwhole, fun i => ?_, ?_⟩
    · refine ⟨fun hi => absurd hi (Nat.not_lt_zero i), ?_⟩
      intro ⟨hformat, _, hinside⟩
      have hrecords : glyphOffset format body 0 ≤ glyphEnd format body i :=
        glyphOffset_mono (j := i + 1) (Nat.zero_le _)
      exact absurd ⟨hformat, Nat.le_trans hrecords hinside⟩ hwhole
    · intro i g hi
      cases hi

theorem bodyChunks_append
    (hbody : 4 + glyphCount body * 4 + glyphCount body * 12 ≤ body.length) :
    bodyChunks (body ++ ext) = bodyChunks body := by
  rw [bodyChunks, bodyChunks, glyphCount_append (by omega),
    List.drop_append_of_le_length (by omega), List.drop_append_of_le_length (by omega),
    List.take_append_of_le_length (by rw [List.length_drop]; omega),
    List.take_append_of_le_length (by rw [List.length_drop]; omega)]

/-- Nothing that follows a body changes its glyphs. -/
theorem addedGlyphs_append {added : List (UInt32 × StoredGlyph)}
    (hadded : addedGlyphs format body = some added) (ext : List UInt8) :
    ∃ added', addedGlyphs format (body ++ ext) = some added' ∧ added <+: added' := by
  by_cases hwhole : format ≠ .Other ∧
      4 + glyphCount body * 4 + glyphCount body * 12 ≤ body.length
  · obtain ⟨hformat, hbody⟩ := hwhole
    have hcount : glyphCount (body ++ ext) = glyphCount body := glyphCount_append (by omega)
    rw [addedGlyphs_eq hformat hbody] at hadded
    have hbody' : 4 + glyphCount (body ++ ext) * 4 + glyphCount (body ++ ext) * 12 ≤
        (body ++ ext).length := by
      rw [hcount, List.length_append]
      omega
    rw [addedGlyphs_eq hformat hbody', bodyChunks_append hbody, glyphOffset, hcount]
    exact glyphLoop_append hformat ext hadded
  · obtain ⟨added', hadded', -⟩ := addedGlyphs_total format (body ++ ext)
    rw [addedGlyphs_eq_nil hwhole] at hadded
    cases hadded
    exact ⟨added', hadded', List.nil_prefix⟩

end

/-- AddGlyphs reads only its body, and adds exactly the glyphs whose images the body has whole:
each with the id and the record at its place and the image after those before it. They are
added first whatever the body goes on with. -/
theorem parseAddGlyphs_exact (gs : HostGlyphSet) (body : List UInt8) :
    ∃ added, addedGlyphs gs.format body = some added ∧
      parseAddGlyphs gs body =
        some { gs with glyphs := added.foldl (fun glyphs g => glyphs.insert g.1 g.2) gs.glyphs } ∧
      (∀ i, i < added.length ↔ HasGlyph gs.format body i) ∧
      (∀ i g, added[i]? = some g → Decodes gs.format body i g) ∧
      ∀ ext, ∃ added', addedGlyphs gs.format (body ++ ext) = some added' ∧
        added <+: added' := by
  obtain ⟨added, hadded, hlength, hall⟩ := addedGlyphs_total gs.format body
  refine ⟨added, hadded, ?_, hlength, hall, addedGlyphs_append hadded⟩
  rw [parseAddGlyphs, hadded]
  rfl

end X12
