import X12.Core.QueryFont
import X12.Lib.Truncation
import X12.Verify.ReplyFraming

/-! # QueryFont there and back

The parser returns the metrics that have been written, and of a shorter body it
returns nothing. -/

namespace X12

open Truncation (Follows ok_bind bind_eq_ok of_mapM_eq_ok mapM_range_eq_ok)

/-! ## Fields -/

theorem readU16LeBytes_u16LeBytes (v : UInt16) : readU16LeBytes (u16LeBytes v) = .ok v := by
  have hvalue : readU16LeBytes (u16LeBytes v) =
      .ok (UInt16.ofNat (v.toUInt8.toNat + 2 ^ 8 * (v >>> 8).toUInt8.toNat)) := rfl
  rw [hvalue, toNat_halves, UInt16.ofNat_toNat]

theorem readI16LeBytes_u16LeBytes (v : Int16) :
    readI16LeBytes (u16LeBytes v.toUInt16) = .ok v := by
  rw [readI16LeBytes, readU16LeBytes_u16LeBytes]
  exact congrArg _ (Int16.toInt16_toUInt16 v)

theorem readU32LeBytes_u32LeBytes (v : UInt32) : readU32LeBytes (u32LeBytes v) = .ok v := by
  have hvalue : readU32LeBytes (u32LeBytes v) =
      .ok (UInt32.ofNat (v.toUInt8.toNat + 2 ^ 8 * (v >>> 8).toUInt8.toNat +
        2 ^ 16 * ((v >>> 16).toUInt8.toNat + 2 ^ 8 * (v >>> 24).toUInt8.toNat))) := rfl
  rw [hvalue, toNat_bytes, UInt32.ofNat_toNat]

theorem readCharInfo_writeFullCharInfo (info : CharInfo) :
    readCharInfo (writeFullCharInfo info) = .ok info := by
  have hgets :
      getRange (writeFullCharInfo info) 0 2 = .ok (u16LeBytes info.leftSideBearing.toUInt16) ∧
      getRange (writeFullCharInfo info) 2 4 = .ok (u16LeBytes info.rightSideBearing.toUInt16) ∧
      getRange (writeFullCharInfo info) 4 6 = .ok (u16LeBytes info.characterWidth.toUInt16) ∧
      getRange (writeFullCharInfo info) 6 8 = .ok (u16LeBytes info.ascent.toUInt16) ∧
      getRange (writeFullCharInfo info) 8 10 = .ok (u16LeBytes info.descent.toUInt16) ∧
      getRange (writeFullCharInfo info) 10 12 = .ok (u16LeBytes info.attributes) :=
    ⟨rfl, rfl, rfl, rfl, rfl, rfl⟩
  obtain ⟨h0, h2, h4, h6, h8, h10⟩ := hgets
  rw [readCharInfo, h0, h2, h4, h6, h8, h10]
  simp only [ok_bind, readI16LeBytes_u16LeBytes, readU16LeBytes_u16LeBytes]
  rfl

/-! ## What is written -/

/-- The reply behind its first eight bytes. -/
def fontBody (metrics : FontMetrics) : List UInt8 :=
  writeFontMetrics .littleEndian metrics ++
    (u32LeBytes (u32OrZero metrics.charInfos.length) ++
      (metrics.properties.take (metrics.properties.length / 8 * 8) ++
        metrics.charInfos.flatMap writeFullCharInfo))

theorem drop_writeQueryFontReply (sequence : UInt16) (metrics : FontMetrics) :
    (writeQueryFontReply .littleEndian sequence metrics).drop 8 = fontBody metrics := by
  simp only [writeQueryFontReply, fontBody, List.append_assoc]
  exact List.drop_left' rfl

theorem getRange_eq {bytes : List UInt8} {start stop : Nat} (h : start ≤ stop)
    (hstop : stop ≤ bytes.length) :
    getRange bytes start stop = .ok ((bytes.drop start).take (stop - start)) :=
  if_pos ⟨h, hstop⟩

section

variable (metrics : FontMetrics)

theorem length_fontBody : (fontBody metrics).length =
    52 + metrics.properties.length / 8 * 8 + metrics.charInfos.length * 12 := by
  have hchars := length_flatMap_of length_writeFullCharInfo metrics.charInfos
  rw [fontBody, List.length_append, List.length_append, List.length_append,
    length_writeFontMetrics, FontReply.length_properties, hchars]
  show 48 + (4 + _) = _
  omega

theorem readFontHead_fontBody : readFontHead (fontBody metrics) = .ok
    ({ metrics with properties := [], namedProperties := [], charInfos := [] },
      (u16OrZero (metrics.properties.length / 8)).toNat,
      (u32OrZero metrics.charInfos.length).toNat) := by
  have hlength := length_fontBody metrics
  generalize hbody : fontBody metrics = body at hlength
  have hget (start stop : Nat) (field : List UInt8) (h : start ≤ stop) (hstop : stop ≤ 52)
      (hfield : (body.drop start).take (stop - start) = field) :
      getRange body start stop = .ok field := by
    rw [getRange_eq h (by omega), hfield]
  have hbyte (i : Nat) (b : UInt8) (hb : (body.drop i).head? = some b) :
      getByte body i = .ok b := by
    rw [getByte, ← List.head?_drop, hb]
  simp only [fontBody, writeFontMetrics, List.append_assoc] at hbody
  subst hbody
  rw [readFontHead, hget 0 12 (writeFullCharInfo metrics.minBounds) (by omega) (by omega) rfl,
    hget 16 28 (writeFullCharInfo metrics.maxBounds) (by omega) (by omega) rfl,
    hget 32 34 (u16LeBytes metrics.minCharOrByte2) (by omega) (by omega) rfl,
    hget 34 36 (u16LeBytes metrics.maxCharOrByte2) (by omega) (by omega) rfl,
    hget 36 38 (u16LeBytes metrics.defaultChar) (by omega) (by omega) rfl,
    hget 38 40 (u16LeBytes (u16OrZero (metrics.properties.length / 8))) (by omega) (by omega) rfl,
    hget 44 46 (u16LeBytes metrics.fontAscent.toUInt16) (by omega) (by omega) rfl,
    hget 46 48 (u16LeBytes metrics.fontDescent.toUInt16) (by omega) (by omega) rfl,
    hget 48 52 (u32LeBytes (u32OrZero metrics.charInfos.length)) (by omega) (by omega) rfl]
  rw [hbyte 40 metrics.drawDirection rfl, hbyte 41 metrics.minByte1 rfl,
    hbyte 42 metrics.maxByte1 rfl, hbyte 43 metrics.allCharsExist.toUInt8 rfl]
  simp only [ok_bind, readCharInfo_writeFullCharInfo, readU16LeBytes_u16LeBytes,
    readI16LeBytes_u16LeBytes, readU32LeBytes_u32LeBytes]
  have hexist : (metrics.allCharsExist.toUInt8 != 0) = metrics.allCharsExist := by
    cases metrics.allCharsExist <;> rfl
  rw [hexist]
  rfl

end

/-- What follows some items of one size. -/
theorem drop_flatMap_of {α : Type} {f : α → List UInt8} {size : Nat}
    (h : ∀ a, (f a).length = size) (as : List α) (i : Nat) :
    (as.flatMap f).drop (i * size) = (as.drop i).flatMap f := by
  induction i generalizing as with
  | zero => rw [Nat.zero_mul, List.drop_zero, List.drop_zero]
  | succ i ih =>
    cases as with
    | nil => rw [List.flatMap_nil, List.drop_nil, List.drop_nil, List.flatMap_nil]
    | cons a as =>
      rw [Nat.succ_mul, Nat.add_comm, ← List.drop_drop, List.flatMap_cons, List.drop_left' (h a),
        ih, List.drop_succ_cons]

section

variable {metrics : FontMetrics}

theorem drop_fontBody : (fontBody metrics).drop 52 =
    metrics.properties.take (metrics.properties.length / 8 * 8) ++
      metrics.charInfos.flatMap writeFullCharInfo := by
  rw [fontBody, ← List.append_assoc]
  exact List.drop_left' (by rw [List.length_append, length_writeFontMetrics]; rfl)

/-- A character is where the parser looks for it. -/
theorem readCharInfoAt_fontBody {i : Nat} {info : CharInfo}
    (hn : metrics.properties.length / 8 < 2 ^ 16) (hm : i < 2 ^ 32)
    (hinfo : metrics.charInfos[i]? = some info) :
    readCharInfoAt (fontBody metrics) (52 + metrics.properties.length / 8 * 8) i = .ok info := by
  obtain ⟨hi, hat⟩ := List.getElem?_eq_some_iff.mp hinfo
  have hlength := length_fontBody metrics
  have hslice : ((fontBody metrics).drop (52 + metrics.properties.length / 8 * 8 + i * 12)).take
      12 = writeFullCharInfo info := by
    rw [← List.drop_drop, ← List.drop_drop, drop_fontBody,
      List.drop_left' (FontReply.length_properties metrics),
      drop_flatMap_of length_writeFullCharInfo, List.drop_eq_getElem_cons hi, hat,
      List.flatMap_cons, List.take_left' (length_writeFullCharInfo info)]
  have hmul : mulUsize i 12 = .ok (i * 12) := if_pos (by show _ ≤ 0xFFFFFFFFFFFFFFFF; omega)
  have hstart : addUsize (52 + metrics.properties.length / 8 * 8) (i * 12) =
      .ok (52 + metrics.properties.length / 8 * 8 + i * 12) :=
    if_pos (by show _ ≤ 0xFFFFFFFFFFFFFFFF; omega)
  have hstop : addUsize (52 + metrics.properties.length / 8 * 8 + i * 12) 12 =
      .ok (52 + metrics.properties.length / 8 * 8 + i * 12 + 12) :=
    if_pos (by show _ ≤ 0xFFFFFFFFFFFFFFFF; omega)
  have hget : getRange (fontBody metrics) (52 + metrics.properties.length / 8 * 8 + i * 12)
      (52 + metrics.properties.length / 8 * 8 + i * 12 + 12) = .ok (writeFullCharInfo info) := by
    rw [getRange_eq (by omega) (by omega), Nat.add_sub_cancel_left, hslice]
  rw [readCharInfoAt, hmul]
  simp only [ok_bind, hstart, hstop, hget, readCharInfo_writeFullCharInfo]

/-- As many characters as are asked for. -/
theorem readFontTail_fontBody {m : Nat} (hproperties : metrics.properties.length % 8 = 0)
    (hn : metrics.properties.length / 8 < 2 ^ 16) (hm : m ≤ metrics.charInfos.length)
    (hm32 : m < 2 ^ 32) :
    readFontTail (fontBody metrics) (metrics.properties.length / 8) m =
      .ok (metrics.properties, metrics.charInfos.take m) := by
  have hlength := length_fontBody metrics
  have hmul : checkedMul (metrics.properties.length / 8) 8 =
      some (metrics.properties.length / 8 * 8) := if_pos (by show _ ≤ 0xFFFFFFFFFFFFFFFF; omega)
  have hadd : addUsize 52 (metrics.properties.length / 8 * 8) =
      .ok (52 + metrics.properties.length / 8 * 8) :=
    if_pos (by show _ ≤ 0xFFFFFFFFFFFFFFFF; omega)
  have hget : getRange (fontBody metrics) 52 (52 + metrics.properties.length / 8 * 8) =
      .ok metrics.properties := by
    have hall : metrics.properties.take (metrics.properties.length / 8 * 8) =
        metrics.properties := List.take_of_length_le (by omega)
    rw [getRange_eq (by omega) (by omega), drop_fontBody, Nat.add_sub_cancel_left,
      List.take_left' (FontReply.length_properties metrics), hall]
  have hcapacity : withCapacity m 12 = .ok () :=
    if_pos (by show _ ≤ 0xFFFFFFFFFFFFFFFF / 2; omega)
  have hchars : (List.range m).mapM (readCharInfoAt (fontBody metrics)
      (52 + metrics.properties.length / 8 * 8)) = .ok (metrics.charInfos.take m) := by
    have htake : (metrics.charInfos.take m).length = m := List.length_take_of_le hm
    have hread : ∀ i info, (metrics.charInfos.take m)[i]? = some info →
        readCharInfoAt (fontBody metrics) (52 + metrics.properties.length / 8 * 8) i =
          .ok info := by
      intro i info hinfo
      rw [List.getElem?_take] at hinfo
      split at hinfo
      · exact readCharInfoAt_fontBody hn (by omega) hinfo
      · cases hinfo
    have hall := mapM_range_eq_ok hread
    rwa [htake] at hall
  rw [readFontTail]
  simp only [hmul, ok_bind, hadd, hget, hcapacity, hchars]
  rfl

end

/-- The parser returns as many characters as the count says. -/
theorem parseQueryFontReply_fontBody {metrics : FontMetrics}
    (hproperties : metrics.properties.length % 8 = 0)
    (hn : metrics.properties.length / 8 < 2 ^ 16) :
    parseQueryFontReply (fontBody metrics) = .ok
      { metrics with
        namedProperties := []
        charInfos := metrics.charInfos.take (u32OrZero metrics.charInfos.length).toNat } := by
  have hm : (u32OrZero metrics.charInfos.length).toNat ≤ metrics.charInfos.length := by
    rw [u32OrZero]
    split
    · next h => exact Nat.le_of_eq (UInt32.toNat_ofNat_of_lt' h)
    · exact Nat.zero_le _
  have htail := readFontTail_fontBody hproperties hn hm (UInt32.toNat_lt _)
  rw [parseQueryFontReply, readFontHead_fontBody, u16OrZero_eq_iff.mpr hn]
  simp only [ok_bind, htail]
  rfl

/-! ## Shorter bodies -/

section

variable {body whole : List UInt8}

theorem follows_getRange (h : body <+: whole) (start stop : Nat) :
    Follows .missing (getRange body start stop) (getRange whole start stop) := by
  obtain ⟨rest, rfl⟩ := h
  by_cases hfits : start ≤ stop ∧ stop ≤ body.length
  · right
    have hwhole : stop ≤ (body ++ rest).length := by
      rw [List.length_append]
      omega
    rw [getRange_eq hfits.1 hfits.2, getRange_eq hfits.1 hwhole,
      List.drop_append_of_le_length (by omega), List.take_append_of_le_length]
    rw [List.length_drop]
    omega
  · exact .inl (if_neg hfits)

theorem follows_getByte (h : body <+: whole) (i : Nat) :
    Follows .missing (getByte body i) (getByte whole i) := by
  obtain ⟨rest, rfl⟩ := h
  rw [getByte]
  cases hbyte : body[i]? with
  | none => exact .inl rfl
  | some b =>
    right
    have hi : i < body.length := (List.getElem?_eq_some_iff.mp hbyte).1
    rw [getByte, List.getElem?_append_left hi, hbyte]

theorem follows_readFontHead (h : body <+: whole) :
    Follows .missing (readFontHead body) (readFontHead whole) := by
  have field {α β : Type} {read : List UInt8 → Except ParseStop α}
      {next next' : α → Except ParseStop β} (start stop : Nat)
      (hnext : ∀ a, Follows .missing (next a) (next' a)) :
      Follows .missing (getRange body start stop >>= fun bytes => read bytes >>= next)
        (getRange whole start stop >>= fun bytes => read bytes >>= next') :=
    .bind (follows_getRange h start stop) fun _ => .bind (.refl _) hnext
  have byte {β : Type} {next next' : UInt8 → Except ParseStop β} (i : Nat)
      (hnext : ∀ a, Follows .missing (next a) (next' a)) :
      Follows .missing (getByte body i >>= next) (getByte whole i >>= next') :=
    .bind (follows_getByte h i) hnext
  exact field 0 12 fun _ => field 16 28 fun _ => field 32 34 fun _ => field 34 36 fun _ =>
    field 36 38 fun _ => field 38 40 fun _ => byte 40 fun _ => byte 41 fun _ => byte 42 fun _ =>
    byte 43 fun _ => field 44 46 fun _ => field 46 48 fun _ => field 48 52 fun _ => .refl _

theorem follows_readCharInfoAt (h : body <+: whole) (charsOffset i : Nat) :
    Follows .missing (readCharInfoAt body charsOffset i) (readCharInfoAt whole charsOffset i) :=
  .bind (.refl _) fun _ => .bind (.refl _) fun start => .bind (.refl _) fun stop =>
    .bind (follows_getRange h start stop) fun _ => .refl _

theorem follows_readFontTail (h : body <+: whole) (n m : Nat) :
    Follows .missing (readFontTail body n m) (readFontTail whole n m) := by
  rw [readFontTail, readFontTail]
  cases checkedMul n 8 with
  | none => exact .refl _
  | some propsLen =>
    exact .bind (.refl _) fun charsOffset => .bind (follows_getRange h _ _) fun _ =>
      .bind (.refl _) fun _ =>
      .bind (.mapM (follows_readCharInfoAt h charsOffset) _) fun _ => .refl _

theorem follows_parseQueryFontReply (h : body <+: whole) :
    Follows .missing (parseQueryFontReply body) (parseQueryFontReply whole) :=
  .bind (follows_readFontHead h) fun (_, n, m) =>
    .bind (follows_readFontTail h n m) fun _ => .refl _

theorem of_getRange_eq_ok {bytes field : List UInt8} {start stop : Nat}
    (h : getRange bytes start stop = .ok field) :
    start + field.length = stop ∧ stop ≤ bytes.length := by
  rw [getRange] at h
  split at h
  · next hfits =>
    cases h
    refine ⟨?_, hfits.2⟩
    rw [List.length_take_of_le]
    · omega
    · rw [List.length_drop]
      omega
  · cases h

theorem eq_of_addUsize {a b c : Nat} (h : addUsize a b = .ok c) : c = a + b := by
  rw [addUsize] at h
  split at h
  · cases h
    rfl
  · cases h

theorem eq_of_mulUsize {a b c : Nat} (h : mulUsize a b = .ok c) : c = a * b := by
  rw [mulUsize] at h
  split at h
  · cases h
    rfl
  · cases h

theorem le_length_of_readCharInfoAt {charsOffset i : Nat} {info : CharInfo}
    (h : readCharInfoAt body charsOffset i = .ok info) :
    charsOffset + i * 12 + 12 ≤ body.length := by
  obtain ⟨offset, hoffset, h⟩ := bind_eq_ok.mp h
  obtain ⟨start, hstart, h⟩ := bind_eq_ok.mp h
  obtain ⟨stop, hstop, h⟩ := bind_eq_ok.mp h
  obtain ⟨bytes, hget, -⟩ := bind_eq_ok.mp h
  have hle := (of_getRange_eq_ok hget).2
  rw [eq_of_addUsize hstop, eq_of_addUsize hstart, eq_of_mulUsize hoffset] at hle
  exact hle

theorem length_le_of_readFontTail {n m : Nat} {properties : List UInt8}
    {charInfos : List CharInfo} (h : readFontTail body n m = .ok (properties, charInfos)) :
    52 + properties.length + charInfos.length * 12 ≤ body.length := by
  rw [readFontTail] at h
  cases hmul : checkedMul n 8 with
  | none =>
    rw [hmul] at h
    cases h
  | some propsLen =>
    rw [hmul] at h
    obtain ⟨charsOffset, -, h⟩ := bind_eq_ok.mp h
    obtain ⟨bytes, hget, h⟩ := bind_eq_ok.mp h
    obtain ⟨_, -, h⟩ := bind_eq_ok.mp h
    obtain ⟨infos, hinfos, h⟩ := bind_eq_ok.mp h
    cases h
    obtain ⟨hoffset, hle⟩ := of_getRange_eq_ok hget
    obtain ⟨hlength, hread⟩ := of_mapM_eq_ok hinfos
    rw [List.length_range] at hlength
    cases m with
    | zero => omega
    | succ m =>
      -- the last character is the one that reaches farthest
      obtain ⟨info, hinfo⟩ := hread m (List.mem_range.mpr (Nat.lt_succ_self m))
      have hlast := le_length_of_readCharInfoAt hinfo
      omega

/-- What the parser returns is in the body. -/
theorem length_le_of_parse {metrics : FontMetrics} (h : parseQueryFontReply body = .ok metrics) :
    52 + metrics.properties.length + metrics.charInfos.length * 12 ≤ body.length := by
  obtain ⟨⟨_, n, m⟩, -, h⟩ := bind_eq_ok.mp h
  obtain ⟨⟨properties, charInfos⟩, htail, h⟩ := bind_eq_ok.mp h
  cases h
  exact length_le_of_readFontTail htail

end

/-! ## The round trip -/

/-- Of fewer than 2³² characters none is lost, and no part of the body is read
as another font. -/
theorem parseQueryFontReply_writeQueryFontReply {metrics : FontMetrics} (sequence : UInt16)
    (hproperties : metrics.properties.length % 8 = 0)
    (hn : metrics.properties.length / 8 ≤ 65535) (hm : metrics.charInfos.length < 2 ^ 32) :
    parseQueryFontReply ((writeQueryFontReply .littleEndian sequence metrics).drop 8) =
        .ok { metrics with namedProperties := [] } ∧
      ∀ body, body <+: (writeQueryFontReply .littleEndian sequence metrics).drop 8 →
        body ≠ (writeQueryFontReply .littleEndian sequence metrics).drop 8 →
        parseQueryFontReply body = .error .missing := by
  have hwhole := parseQueryFontReply_fontBody hproperties (by omega : _ < 2 ^ 16)
  rw [u32OrZero_eq_iff.mpr hm, List.take_length] at hwhole
  rw [drop_writeQueryFontReply]
  refine ⟨hwhole, fun body hprefix hne => ?_⟩
  refine (follows_parseQueryFontReply hprefix).resolve_right fun hsame => ?_
  have hle := length_le_of_parse (hsame.trans hwhole)
  dsimp only at hle
  have hlength := length_fontBody metrics
  refine hne (List.IsPrefix.eq_of_length_le hprefix ?_)
  omega

/-- A font with a property and a character. -/
def smallFont : FontMetrics where
  minBounds := ⟨0, 8, 8, 11, 2, 0⟩
  maxBounds := ⟨-1, 9, 8, 11, 2, 0⟩
  minCharOrByte2 := 32
  maxCharOrByte2 := 32
  defaultChar := 32
  drawDirection := 0
  minByte1 := 0
  maxByte1 := 0
  allCharsExist := true
  fontAscent := 11
  fontDescent := 2
  properties := [20, 0, 0, 0, 1, 2, 3, 4]
  namedProperties := [([0x58], .Int (-1))]
  charInfos := [⟨-1, 9, 8, 11, 2, 0⟩]

theorem parseQueryFontReply_smallFont :
    parseQueryFontReply ((writeQueryFontReply .littleEndian 7 smallFont).drop 8) =
        .ok { smallFont with namedProperties := [] } ∧
      parseQueryFontReply (((writeQueryFontReply .littleEndian 7 smallFont).drop 8).take 71) =
        .error .missing := by
  obtain ⟨hwhole, hprefix⟩ := parseQueryFontReply_writeQueryFontReply 7
    (show smallFont.properties.length % 8 = 0 by decide) (by decide) (by decide)
  exact ⟨hwhole, hprefix _ (List.take_prefix ..) (ne_of_apply_ne List.length (by decide))⟩

/-- As many characters as the count cannot say. -/
def largeFont : FontMetrics :=
  { smallFont with charInfos := List.replicate (2 ^ 32) ⟨0, 8, 8, 11, 2, 0⟩ }

/-- The count of 2³² characters is zero, and they are all lost. -/
theorem parseQueryFontReply_largeFont :
    parseQueryFontReply ((writeQueryFontReply .littleEndian 7 largeFont).drop 8) =
        .ok { largeFont with namedProperties := [], charInfos := [] } ∧
      parseQueryFontReply ((writeQueryFontReply .littleEndian 7 largeFont).drop 8) ≠
        .ok { largeFont with namedProperties := [] } := by
  have hcount : largeFont.charInfos.length = 2 ^ 32 := List.length_replicate
  have hzero : (u32OrZero largeFont.charInfos.length).toNat = 0 := by
    rw [hcount]
    decide
  have hwhole := parseQueryFontReply_fontBody
    (show largeFont.properties.length % 8 = 0 by decide) (by decide)
  rw [hzero, List.take_zero] at hwhole
  rw [drop_writeQueryFontReply, hwhole]
  refine ⟨rfl, fun hsame => ?_⟩
  have hchars : [] = largeFont.charInfos := congrArg FontMetrics.charInfos (Except.ok.inj hsame)
  rw [← hchars] at hcount
  cases hcount

end X12
