import X12.Core.Atoms
import X12.Lib.Numbering

/-! # The atom table

The predefined names and the interned ones number each other, and a name keeps its
atom in every run in which the counter does not wrap. -/

namespace X12

/-! ## Predefined atoms -/

variable {name name' : String} {atom : AtomId}

theorem wellKnownAtom_name (h : wellKnownAtom name = some atom) :
    wellKnownAtomName atom = some name := by
  unfold wellKnownAtom at h
  split at h
  all_goals cases h
  all_goals rfl

theorem wellKnownAtomName_range (h : wellKnownAtomName atom = some name) :
    0 < atom ∧ atom < 69 := by
  unfold wellKnownAtomName at h
  split at h
  all_goals cases h
  all_goals decide

/-- The names of the second table are found in the first one. -/
theorem wellKnownAtomName_table : ((List.range 69).all fun n =>
    (wellKnownAtomName (UInt32.ofNat n)).all fun name =>
      wellKnownAtom name == some (UInt32.ofNat n)) = true := by
  decide +kernel

theorem wellKnownAtom_mutual : Numbering.Mutual wellKnownAtom wellKnownAtomName := by
  intro name atom
  refine ⟨wellKnownAtom_name, fun h => ?_⟩
  have hlt : atom.toNat < 69 := UInt32.lt_iff_toNat_lt.mp (wellKnownAtomName_range h).2
  have hfound := List.all_eq_true.mp wellKnownAtomName_table _ (List.mem_range.mpr hlt)
  rw [UInt32.ofNat_toNat, h, Option.all_some, beq_iff_eq] at hfound
  exact hfound

namespace AtomTable

variable {t : AtomTable}

/-- The atom of a name, if it has one. -/
def resolve (t : AtomTable) (name : String) : Option AtomId :=
  (wellKnownAtom name).or t.byName[name]?

/-- The interned names number each other, beside the predefined ones, and the counter
has not wrapped. -/
structure Numbered (t : AtomTable) : Prop where
  interned : Numbering.Mutual (fun name : String => t.byName[name]?)
    fun atom : AtomId => t.names[atom]?
  unpredefined : ∀ {name atom}, t.byName[name]? = some atom → wellKnownAtom name = none
  range : ∀ {atom name}, t.names[atom]? = some name → 69 ≤ atom ∧ atom < t.nextId
  next : t.nextId.toNat = 69 + t.names.size

theorem numbered_new : Numbered new where
  interned _ _ := by simp [new]
  unpredefined h := by simp [new] at h
  range h := by simp [new] at h
  next := by
    rw [new, Std.ExtTreeMap.size_empty]
    decide

theorem Numbered.mutual (h : t.Numbered) : Numbering.Mutual t.resolve t.name := by
  refine wellKnownAtom_mutual.or h.interned (fun _ _ hname => h.unpredefined hname) ?_
  intro name atom hatom
  refine Option.eq_none_iff_forall_ne_some.mpr fun name' hname => ?_
  exact absurd (h.range hatom).1 (UInt32.not_le.mpr (wellKnownAtomName_range hname).2)

theorem Numbered.ne_zero (h : t.Numbered) (hname : t.resolve name = some atom) : atom ≠ 0 := by
  rintro rfl
  rcases Option.or_eq_some_iff.mp hname with hpre | ⟨-, hnew⟩
  · exact absurd (wellKnownAtomName_range (wellKnownAtom_name hpre)).1 (by decide)
  · exact absurd (h.range ((h.interned _ _).mp hnew)).1 (by decide)

theorem intern_of_resolve (h : t.resolve name = some atom) (onlyIfExists : Bool) :
    t.intern name onlyIfExists = (t, atom) := by
  rw [resolve, Option.or_eq_some_iff] at h
  rw [intern]
  rcases h with hpre | ⟨hnone, hnew⟩
  · rw [hpre]
  · rw [hnone, hnew]

theorem intern_of_unknown (h : t.resolve name = none) (onlyIfExists : Bool) :
    t.intern name onlyIfExists =
      if onlyIfExists then (t, 0)
      else
        ({ byName := t.byName.insert name t.nextId
           names := t.names.insert t.nextId name
           nextId := t.nextId + 1 }, t.nextId) := by
  rw [resolve, Option.or_eq_none_iff] at h
  rw [intern, h.1, h.2]

theorem intern_true (t : AtomTable) (name : String) :
    t.intern name true = (t, (t.resolve name).getD 0) := by
  cases h : t.resolve name with
  | none => rw [intern_of_unknown h, if_pos rfl, Option.getD_none]
  | some atom => rw [intern_of_resolve h, Option.getD_some]

theorem size_le_intern (t : AtomTable) (name : String) (onlyIfExists : Bool) :
    t.names.size ≤ (t.intern name onlyIfExists).1.names.size := by
  cases h : t.resolve name with
  | none =>
    rw [intern_of_unknown h]
    split
    · exact Nat.le_refl _
    · exact Std.ExtTreeMap.size_le_size_insert
  | some atom => rw [intern_of_resolve h]

/-- Interning a name keeps the numbering as long as there are atoms left. -/
theorem Numbered.intern (h : t.Numbered) (name : String) (onlyIfExists : Bool)
    (hroom : (t.intern name onlyIfExists).1.names.size < 2 ^ 32 - 69) :
    (t.intern name onlyIfExists).1.Numbered := by
  cases hname : t.resolve name with
  | some atom =>
    rw [intern_of_resolve hname]
    exact h
  | none =>
    rw [intern_of_unknown hname] at hroom ⊢
    split at hroom
    · rw [if_pos ‹_›]
      exact h
    rw [if_neg ‹_›]
    have hfresh : t.names[t.nextId]? = none := by
      refine Option.eq_none_iff_forall_ne_some.mpr fun other hother => ?_
      exact UInt32.lt_irrefl _ (h.range hother).2
    have hsize : (t.names.insert t.nextId name).size = t.names.size + 1 := by
      rw [Std.ExtTreeMap.size_insert, if_neg]
      rw [Std.ExtTreeMap.contains_eq_isSome_getElem?, hfresh]
      exact Bool.false_ne_true
    have hnext : (t.nextId + 1).toNat = t.nextId.toNat + 1 := by
      have hroom : (t.names.insert t.nextId name).size < 2 ^ 32 - 69 := hroom
      have hcount := h.next
      rw [UInt32.toNat_add, UInt32.toNat_one, Nat.mod_eq_of_lt]
      omega
    rw [resolve, Option.or_eq_none_iff] at hname
    refine ⟨h.interned.insert hname.2 hfresh (fun _ => ResourceMap.get_insert)
      fun _ => ResourceMap.get_insert, fun {x a} hx => ?_, fun {a x} ha => ?_, ?_⟩
    · rw [ResourceMap.get_insert] at hx
      split at hx
      · next hx' => exact hx' ▸ hname.1
      · exact h.unpredefined hx
    · rw [ResourceMap.get_insert] at ha
      have hstep : t.nextId < t.nextId + 1 := UInt32.lt_iff_toNat_lt.mpr (by omega)
      split at ha
      · next ha' =>
        subst ha'
        refine ⟨UInt32.le_iff_toNat_le.mpr ?_, hstep⟩
        rw [h.next]
        exact Nat.le_add_right _ _
      · exact ⟨(h.range ha).1, UInt32.lt_trans (h.range ha).2 hstep⟩
    · rw [hnext, h.next, hsize]
      rfl

/-- A name that has an atom keeps it. -/
theorem resolve_intern (h : t.resolve name = some atom) (name' : String) (onlyIfExists : Bool) :
    (t.intern name' onlyIfExists).1.resolve name = some atom := by
  cases hname' : t.resolve name' with
  | some atom' => rw [intern_of_resolve hname', h]
  | none =>
    rw [intern_of_unknown hname']
    split
    · exact h
    · rw [resolve, ResourceMap.get_insert, if_neg]
      · exact h
      · rintro rfl
        rw [hname'] at h
        cases h

/-- The atom that a call returns, if it is one, is that of the name from then on. -/
theorem resolve_returned {onlyIfExists : Bool}
    (hreturned : (t.intern name onlyIfExists).2 = atom) (hatom : atom ≠ 0 ∨ onlyIfExists = false) :
    (t.intern name onlyIfExists).1.resolve name = some atom := by
  cases hname : t.resolve name with
  | some a =>
    rw [intern_of_resolve hname] at hreturned ⊢
    rw [hname, show a = atom from hreturned]
  | none =>
    rw [intern_of_unknown hname] at hreturned ⊢
    split at hreturned
    · exact absurd hreturned.symm (hatom.resolve_right (by rwa [Bool.not_eq_false]))
    · rw [if_neg ‹_›]
      rw [resolve, Option.or_eq_none_iff] at hname
      rw [resolve, hname.1, Option.none_or, ResourceMap.get_insert, if_pos rfl]
      exact congrArg some hreturned

theorem atomExists_iff (h : t.Numbered) :
    t.atomExists atom = true ↔ ∃ name, t.resolve name = some atom := by
  have hname : t.atomExists atom = true ↔ atom ≠ 0 ∧ t.name atom ≠ none := by
    rw [atomExists, Std.ExtTreeMap.contains_eq_isSome_getElem?, ← Option.isSome_or,
      Bool.and_eq_true, decide_eq_true_eq, Option.isSome_iff_ne_none]
    rfl
  rw [hname, Option.ne_none_iff_exists']
  constructor
  · rintro ⟨-, name, hatom⟩
    exact ⟨name, (h.mutual _ _).mpr hatom⟩
  · rintro ⟨name, hatom⟩
    exact ⟨h.ne_zero hatom, name, (h.mutual _ _).mp hatom⟩

/-! ## Runs -/

def run (t : AtomTable) (calls : List (String × Bool)) : AtomTable :=
  calls.foldl (fun t call => (t.intern call.1 call.2).1) t

/-- The table after the calls. -/
def after (calls : List (String × Bool)) : AtomTable :=
  new.run calls

variable {calls before rest : List (String × Bool)} {call : String × Bool} {flag : Bool}

theorem after_snoc : after (calls ++ [call]) = ((after calls).intern call.1 call.2).1 :=
  List.foldl_append

theorem after_append : after (before ++ call :: rest) =
    ((after before).intern call.1 call.2).1.run rest :=
  List.foldl_append

theorem numbered_after (hroom : (after calls).names.size < 2 ^ 32 - 69) :
    (after calls).Numbered := by
  induction calls using List.reverseRecOn with
  | nil => exact numbered_new
  | append_singleton calls call ih =>
    rw [after_snoc] at hroom ⊢
    exact (ih (Nat.lt_of_le_of_lt (size_le_intern _ _ _) hroom)).intern _ _ hroom

theorem resolve_run (h : t.resolve name = some atom) (calls : List (String × Bool)) :
    (t.run calls).resolve name = some atom := by
  induction calls generalizing t with
  | nil => exact h
  | cons call calls ih => exact ih (resolve_intern h call.1 call.2)

/-- While there are atoms left, what a call of the run has returned for a name stays its
atom, and names and atoms number each other. -/
theorem after_numbers (hroom : (after calls).names.size < 2 ^ 32 - 69) :
    (∀ before name onlyIfExists rest, calls = before ++ (name, onlyIfExists) :: rest →
      ∀ atom, ((after before).intern name onlyIfExists).2 = atom →
        (onlyIfExists = false → atom ≠ 0) ∧
        (atom ≠ 0 → (after calls).name atom = some name ∧
          ∀ flag, (after calls).intern name flag = (after calls, atom))) ∧
    (∀ name name', ((after calls).intern name true).2 ≠ 0 →
      ((after calls).intern name true).2 = ((after calls).intern name' true).2 → name = name') ∧
    (∀ atom, (after calls).atomExists atom = true ↔
      atom ≠ 0 ∧ ∃ name, ((after calls).intern name true).2 = atom) ∧
    ∀ name, ((after calls).intern name true).1 = after calls := by
  have h := numbered_after hroom
  have hresolved : ∀ name atom, atom ≠ 0 →
      (((after calls).intern name true).2 = atom ↔ (after calls).resolve name = some atom) := by
    intro name atom hatom
    rw [intern_true]
    cases (after calls).resolve name with
    | none => simp [Ne.symm hatom]
    | some _ => simp
  refine ⟨?_, fun name name' hne hsame => ?_, fun atom => ?_, fun name => by rw [intern_true]⟩
  · rintro before name onlyIfExists rest rfl atom hreturned
    have hkeeps (hatom : atom ≠ 0 ∨ onlyIfExists = false) :
        (after (before ++ (name, onlyIfExists) :: rest)).resolve name = some atom := by
      rw [after_append]
      exact resolve_run (resolve_returned hreturned hatom) rest
    refine ⟨fun hmakes => h.ne_zero (hkeeps (.inr hmakes)), fun hatom => ?_⟩
    exact ⟨(h.mutual _ _).mp (hkeeps (.inl hatom)), intern_of_resolve (hkeeps (.inl hatom))⟩
  · exact h.mutual.injective ((hresolved _ _ hne).mp rfl) ((hresolved _ _ hne).mp hsame.symm)
  · rw [atomExists_iff h]
    constructor
    · rintro ⟨name, hname⟩
      exact ⟨h.ne_zero hname, name, (hresolved _ _ (h.ne_zero hname)).mpr hname⟩
    · rintro ⟨hatom, name, hname⟩
      exact ⟨name, (hresolved _ _ hatom).mp hname⟩

theorem after_numbers_twoNames :
    (after [("UTF8_STRING", false), ("PRIMARY", false), ("TARGETS", true),
      ("UTF8_STRING", true)]).name 69 = some "UTF8_STRING" := by
  have hsize : (after [("UTF8_STRING", false), ("PRIMARY", false), ("TARGETS", true),
      ("UTF8_STRING", true)]).names.size < 2 ^ 32 - 69 := by
    decide +kernel
  have hatom : ((after []).intern "UTF8_STRING" false).2 = 69 := by
    decide +kernel
  exact (((after_numbers hsize).1 [] _ _ _ rfl _ hatom).2 (by decide)).1

end AtomTable

end X12
