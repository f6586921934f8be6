import X12.Core.Properties

/-! # Properties read in parts

What is stored has whole units and fits in a reply's count of bytes, so a client
that reads it in parts gets every byte once. -/

namespace X12

variable {p : PropertyValue} {requestedType : AtomId} {longOffset longLength : UInt32}

/-- The values that a window can have stored. -/
structure PropertyValue.Stored (p : PropertyValue) : Prop where
  fits : p.data.length ≤ MAX_PROPERTY_BYTES
  units : p.format.bytes ∣ p.data.length

theorem PropertyFormat.bytes_dvd_four (f : PropertyFormat) : f.bytes ∣ 4 := by
  cases f <;> decide

/-! ## What is stored -/

theorem stored_applyChange {existing : Option PropertyValue} {mode : ChangeMode}
    {newType : AtomId} {format : PropertyFormat} {data : List UInt8}
    (hexisting : ∀ v, existing = some v → v.Stored) (hdata : format.bytes ∣ data.length)
    (h : applyChange existing mode newType format data = .ok p) : p.Stored := by
  have hfits : ∀ combined : List UInt8, format.bytes ∣ combined.length →
      (if combined.length > MAX_PROPERTY_BYTES then .error .BadAlloc
        else .ok ⟨newType, format, combined⟩ : Except ChangePropertyError PropertyValue) = .ok p →
      p.Stored := by
    intro combined hunits h
    by_cases hmax : combined.length > MAX_PROPERTY_BYTES
    · rw [if_pos hmax] at h
      cases h
    · rw [if_neg hmax] at h
      cases h
      exact ⟨Nat.le_of_not_lt hmax, hunits⟩
  have hboth : ∀ v, existing = some v → ¬ (v.type ≠ newType ∨ v.format ≠ format) →
      format.bytes ∣ data.length + v.data.length := by
    intro v hv hsame
    have hformat : v.format = format := by tauto
    exact Nat.dvd_add hdata (hformat ▸ (hexisting v hv).units)
  cases mode with
  | Replace => exact hfits data hdata h
  | Prepend =>
    cases existing with
    | none => exact hfits data hdata h
    | some v =>
      simp only [applyChange] at h
      split at h
      · cases h
      · next hsame => exact hfits _ (List.length_append ▸ hboth v rfl hsame) h
  | Append =>
    cases existing with
    | none => exact hfits data hdata h
    | some v =>
      simp only [applyChange] at h
      split at h
      · cases h
      · next hsame =>
        exact hfits _ (List.length_append ▸ Nat.add_comm _ _ ▸ hboth v rfl hsame) h

namespace PropertyState

variable {s : PropertyState} {window : ResourceId} {property : AtomId}

def AllStored (s : PropertyState) : Prop :=
  ∀ (window : ResourceId) (property : AtomId) (p : PropertyValue),
    (s.windowProperties window)[property]? = some p → p.Stored

theorem AllStored.windowProperty (h : s.AllStored)
    (hp : s.windowProperty window property = some p) : p.Stored := by
  unfold PropertyState.windowProperty at hp
  split at hp
  · exact h window property p hp
  · cases hp

/-- Writing the properties of one window with stored values only. -/
theorem AllStored.insert (h : s.AllStored) (window : ResourceId)
    {values : Std.ExtTreeMap AtomId PropertyValue}
    (hvalues : ∀ (property : AtomId) (p : PropertyValue),
      values[property]? = some p → p.Stored) :
    AllStored { s with properties := s.properties.insert window values } := by
  intro w property p hp
  simp only [windowProperties, ResourceMap.get_insert] at hp
  by_cases hw : w = window
  · rw [if_pos hw] at hp
    exact hvalues property p hp
  · rw [if_neg hw] at hp
    exact h w property p hp

theorem AllStored.setWindowProperty (h : s.AllStored) (hp : p.Stored) :
    (s.setWindowProperty window property p).AllStored := by
  unfold PropertyState.setWindowProperty
  split
  · refine h.insert window fun a q hq => ?_
    rw [ResourceMap.get_insert] at hq
    by_cases ha : a = property
    · rw [if_pos ha] at hq
      cases hq
      exact hp
    · rw [if_neg ha] at hq
      exact h window a q hq
  · exact h

theorem AllStored.deleteWindowProperty (h : s.AllStored) :
    (s.deleteWindowProperty window property).AllStored := by
  unfold PropertyState.deleteWindowProperty
  split
  · refine h.insert window fun a q hq => ?_
    rw [ResourceMap.get_erase] at hq
    by_cases ha : a = property
    · rw [if_pos ha] at hq
      cases hq
    · rw [if_neg ha] at hq
      exact h window a q hq
  · exact h

/-- ChangeProperty stores whole units only. -/
theorem AllStored.handleChangeProperty (h : s.AllStored) (headerData : UInt8)
    (body : List UInt8) : (s.handleChangeProperty headerData body).1.AllStored := by
  unfold PropertyState.handleChangeProperty
  split
  · exact h
  · next req hreq =>
    split
    · exact h
    · exact h
    · next mode format hmode hformat =>
      split
      · exact h
      · next hlength =>
        have hunits : format.bytes ∣ req.data.length :=
          ⟨req.length.toNat, by rw [Nat.mul_comm]; exact (Decidable.not_not.mp hlength).symm⟩
        split
        · exact h
        · split
          · exact h
          · split
            · exact h
            · split
              · exact h
              · exact h
              · exact h
              · next value hvalue =>
                exact h.setWindowProperty
                  (stored_applyChange (fun _ hv => h.windowProperty hv) hunits hvalue)

theorem AllStored.handleDeleteProperty (h : s.AllStored) (body : List UInt8) :
    (s.handleDeleteProperty body).1.AllStored := by
  unfold PropertyState.handleDeleteProperty
  split
  · exact h
  · split
    · exact h
    · exact h.deleteWindowProperty

theorem AllStored.handleGetProperty (h : s.AllStored) (client : ClientId) (sequence : UInt16)
    (headerData : UInt8) (body : List UInt8) :
    (s.handleGetProperty client sequence headerData body).state.AllStored := by
  have hdelete : ∀ req bytesAfter, (s.deleteAfterGet req bytesAfter).AllStored := by
    intro req bytesAfter
    unfold deleteAfterGet
    split
    · exact h
    · split
      · exact h.deleteWindowProperty
      · exact h
  unfold PropertyState.handleGetProperty
  split
  · exact h
  · split
    · exact h
    · split
      · exact h
      · simp only
        split
        · exact h
        · exact hdelete _ _

/-- What the server does about the properties of windows. -/
inductive Action where
  | changeProperty (headerData : UInt8) (body : List UInt8)
  | deleteProperty (body : List UInt8)
  | getProperty (client : ClientId) (sequence : UInt16) (headerData : UInt8) (body : List UInt8)
  /-- Windows, atoms and clients come and go. A window that comes has no properties. -/
  | other (resources : ResourceTable) (atomNames : Std.ExtTreeMap AtomId String)
    (byteOrders : Std.ExtTreeMap ClientId ClientByteOrder) (window : ResourceId)

def act (s : PropertyState) : Action → PropertyState
  | .changeProperty headerData body => (s.handleChangeProperty headerData body).1
  | .deleteProperty body => (s.handleDeleteProperty body).1
  | .getProperty client sequence headerData body =>
    (s.handleGetProperty client sequence headerData body).state
  | .other resources atomNames byteOrders window =>
    ⟨resources, atomNames, byteOrders, s.properties.erase window⟩

def run (s : PropertyState) (actions : List Action) : PropertyState :=
  actions.foldl act s

theorem AllStored.act (h : s.AllStored) (action : Action) : (s.act action).AllStored := by
  cases action with
  | changeProperty headerData body => exact h.handleChangeProperty headerData body
  | deleteProperty body => exact h.handleDeleteProperty body
  | getProperty client sequence headerData body =>
    exact h.handleGetProperty client sequence headerData body
  | other resources atomNames byteOrders gone =>
    intro window property p hp
    simp only [PropertyState.act, windowProperties, ResourceMap.get_erase] at hp
    by_cases hgone : window = gone
    · rw [if_pos hgone] at hp
      cases hp
    · rw [if_neg hgone] at hp
      exact h window property p hp

theorem AllStored.run (h : s.AllStored) (actions : List Action) : (s.run actions).AllStored := by
  induction actions generalizing s with
  | nil => exact h
  | cons action rest ih => exact ih (h.act action)

/-- A property of any window in any run from a state without properties. -/
theorem stored_of_run (hstart : s.properties = ∅) {actions : List Action}
    (hp : (s.run actions).windowProperty window property = some p) : p.Stored := by
  have hnone : s.AllStored := by
    intro w a q hq
    simp [windowProperties, hstart] at hq
  exact (hnone.run actions).windowProperty hp

end PropertyState

/-! ## One part -/

/-- Since offsets and units divide four, a part is never cut short to a whole unit. -/
theorem sliceForGet_of_le (h : p.Stored) (htype : requestedType = 0 ∨ requestedType = p.type)
    (hle : longOffset.toNat * 4 ≤ p.data.length) :
    sliceForGet (some p) requestedType longOffset longLength =
      .ok ⟨p.type, p.format.protocolValue,
        UInt32.ofNat (p.data.length - longOffset.toNat * 4 - longLength.toNat * 4),
        (p.data.drop (longOffset.toNat * 4)).take (longLength.toNat * 4)⟩ := by
  have hmatch : ¬ (requestedType ≠ 0 ∧ requestedType ≠ p.type) := by tauto
  have hoffset : p.format.bytes ∣ longOffset.toNat * 4 := Nat.dvd_mul_left_of_dvd p.format.bytes_dvd_four _
  have hlength : p.format.bytes ∣ longLength.toNat * 4 := Nat.dvd_mul_left_of_dvd p.format.bytes_dvd_four _
  have hwhole : p.format.bytes ∣
      min (p.data.length - longOffset.toNat * 4) (longLength.toNat * 4) := by
    rcases Nat.le_total (p.data.length - longOffset.toNat * 4) (longLength.toNat * 4) with h' | h'
    · rw [Nat.min_eq_left h']
      exact Nat.dvd_sub h.units hoffset
    · rwa [Nat.min_eq_right h']
  simp only [sliceForGet, if_neg hmatch, Nat.mod_eq_zero_of_dvd hwhole, Nat.sub_zero]
  rw [if_neg (Nat.not_lt_of_le hle), ← Nat.sub_eq_sub_min, ← List.length_drop, Nat.min_comm,
    ← List.take_eq_take_min]

theorem sliceForGet_of_lt (htype : requestedType = 0 ∨ requestedType = p.type)
    (hlt : p.data.length < longOffset.toNat * 4) :
    sliceForGet (some p) requestedType longOffset longLength = .error .BadValue := by
  have hmatch : ¬ (requestedType ≠ 0 ∧ requestedType ≠ p.type) := by tauto
  simp only [sliceForGet, if_neg hmatch]
  exact if_pos hlt

/-! ## All parts -/

/-- A client reads on from the units it has received until nothing is left. -/
def readChunks (p : PropertyValue) (requestedType : AtomId) (chunk : UInt32) :
    Nat → List UInt8 → Option (List UInt8)
  | 0, _ => none
  | fuel + 1, received =>
    match sliceForGet (some p) requestedType (UInt32.ofNat (received.length / 4)) chunk with
    | .error _ => none
    | .ok slice =>
      if slice.bytesAfter = 0 then some (received ++ slice.value)
      else readChunks p requestedType chunk fuel (received ++ slice.value)

theorem readChunks_eq (h : p.Stored) (htype : requestedType = 0 ∨ requestedType = p.type)
    {chunk : UInt32} (hchunk : 0 < chunk) {fuel : Nat} {received rest : List UInt8}
    (hdata : p.data = received ++ rest) (hreceived : 4 ∣ received.length)
    (hfuel : rest.length < fuel) :
    readChunks p requestedType chunk fuel received = some p.data := by
  have hmax : p.data.length ≤ 64 * 1024 * 1024 := h.fits
  have hpos : 0 < chunk.toNat := UInt32.lt_iff_toNat_lt.mp hchunk
  induction fuel generalizing received rest with
  | zero => exact absurd hfuel (Nat.not_lt_zero _)
  | succ fuel ih =>
    have hlen : p.data.length = received.length + rest.length := by
      rw [hdata, List.length_append]
    have hoffset : (UInt32.ofNat (received.length / 4)).toNat * 4 = received.length := by
      rw [UInt32.toNat_ofNat_of_lt' (by simp [UInt32.size]; omega)]
      exact Nat.div_mul_cancel hreceived
    have hrest : p.data.drop received.length = rest := by rw [hdata, List.drop_left]
    rw [readChunks, sliceForGet_of_le h htype (by omega), hoffset, hrest, hlen,
      Nat.add_sub_cancel_left]
    simp only
    by_cases hlast : rest.length ≤ chunk.toNat * 4
    · rw [Nat.sub_eq_zero_of_le hlast, if_pos (by decide), List.take_of_length_le hlast, hdata]
    · have hafter : UInt32.ofNat (rest.length - chunk.toNat * 4) ≠ 0 := by
        intro hzero
        have := congrArg UInt32.toNat hzero
        rw [UInt32.toNat_ofNat_of_lt' (by simp [UInt32.size]; omega), UInt32.toNat_zero] at this
        omega
      rw [if_neg hafter]
      refine ih (?_ : p.data = _ ++ rest.drop (chunk.toNat * 4)) ?_ ?_
      · rw [List.append_assoc, List.take_append_drop, hdata]
      · rw [List.length_append, List.length_take, Nat.min_eq_left (Nat.le_of_not_le hlast)]
        exact Nat.dvd_add hreceived (Nat.dvd_mul_left ..)
      · rw [List.length_drop]
        omega

/-- Whatever the requests before, a property that a window has is read whole in parts of any
length. -/
theorem PropertyState.readChunks_of_run {s : PropertyState} (hstart : s.properties = ∅)
    {actions : List PropertyState.Action} {window : ResourceId} {property : AtomId}
    (hp : (s.run actions).windowProperty window property = some p) {chunk : UInt32}
    (hchunk : 0 < chunk) {fuel : Nat} (hfuel : p.data.length < fuel) :
    readChunks p 0 chunk fuel [] = some p.data :=
  readChunks_eq (stored_of_run hstart hp) (.inl rfl) hchunk (List.nil_append _).symm
    (Nat.dvd_zero _) hfuel

/-- A stored property is read whole in parts of any length, and every part is the
bytes at its offset, with a count of those behind it. -/
theorem sliceForGet_lossless (h : p.Stored)
    (htype : requestedType = 0 ∨ requestedType = p.type) :
    (∀ chunk, 0 < chunk → ∀ fuel, p.data.length < fuel →
      readChunks p requestedType chunk fuel [] = some p.data) ∧
    ∀ longOffset longLength,
      ((∃ e, sliceForGet (some p) requestedType longOffset longLength = .error e) ↔
        p.data.length < longOffset.toNat * 4) ∧
      ∀ slice, sliceForGet (some p) requestedType longOffset longLength = .ok slice →
        slice.value = (p.data.drop (longOffset.toNat * 4)).take (longLength.toNat * 4) ∧
          slice.value.length + slice.bytesAfter.toNat =
            p.data.length - longOffset.toNat * 4 := by
  refine ⟨fun chunk hchunk fuel hfuel =>
    readChunks_eq h htype hchunk (List.nil_append _).symm (by simp) hfuel, ?_⟩
  intro longOffset longLength
  have hmax : p.data.length ≤ 64 * 1024 * 1024 := h.fits
  by_cases hle : longOffset.toNat * 4 ≤ p.data.length
  · rw [sliceForGet_of_le h htype hle]
    refine ⟨⟨fun ⟨_, he⟩ => (nomatch he), fun hlt => absurd hle (Nat.not_le_of_lt hlt)⟩, ?_⟩
    intro slice hslice
    cases hslice
    refine ⟨rfl, ?_⟩
    rw [UInt32.toNat_ofNat_of_lt' (by simp [UInt32.size]; omega), List.length_take,
      List.length_drop]
    omega
  · have hlt := Nat.lt_of_not_le hle
    rw [sliceForGet_of_lt htype hlt]
    exact ⟨⟨fun _ => hlt, fun _ => ⟨_, rfl⟩⟩, fun _ hslice => (nomatch hslice)⟩

/-- Three units of 16 bits, read one word at a time. -/
theorem sliceForGet_lossless_halves :
    readChunks ⟨6, .F16, [1, 2, 3, 4, 5, 6]⟩ 0 1 7 [] = some [1, 2, 3, 4, 5, 6] :=
  (sliceForGet_lossless ⟨by decide, by decide⟩ (.inl rfl)).1 1 (by decide) 7 (by decide)

end X12
