import X12.Core.ButtonGrabs
import X12.Lib.Ledger

/-! # Which passive grab a button press activates

Two grabs on a window conflict when they have a combination of a button and of
modifiers in common. A grab is replaced and released by its own two fields, and
it is found by the combinations that it covers. -/

namespace X12

namespace PassiveButtonGrab

/-- The combination is in the set that the grab denotes. -/
def Covers (g : PassiveButtonGrab) (button : UInt8) (modifiers : UInt16) : Prop :=
  (g.button = ANY_BUTTON ∨ g.button = button) ∧
    (g.modifiers = ANY_MODIFIER ∨ g.modifiers = modifiers &&& ALL_MODIFIERS_MASK)

/-- A press of the button over the window may activate the grab. -/
def Answers (g : PassiveButtonGrab) (t : ResourceTable) (window : ResourceId) (button : UInt8)
    (modifiers : UInt16) : Prop :=
  g.grabWindow = window ∧ g.Covers button modifiers ∧
    (g.confineTo = 0 ∨ t.isViewable g.confineTo)

instance (g : PassiveButtonGrab) (button : UInt8) (modifiers : UInt16) :
    Decidable (g.Covers button modifiers) :=
  inferInstanceAs (Decidable (_ ∧ _))

variable {g other : PassiveButtonGrab} {t : ResourceTable} {window : ResourceId} {button : UInt8}
  {modifiers : UInt16} {client : ClientId} {request : GrabButtonRequest}

theorem answers_iff : g.Answers t window button modifiers ↔
    (g.grabWindow = window && g.matchesPress t button modifiers) = true := by
  simp [Answers, Covers, matchesPress, and_assoc]

/-- Grabs with a combination in common conflict. -/
theorem conflicts_of_covers (hcore : g.viaXi2 = false) (howner : g.owner ≠ client)
    (hwindow : g.grabWindow = request.grabWindow) (hg : g.Covers button modifiers)
    (hrequest : (request.grab client).Covers button modifiers) :
    g.conflicts client request = true := by
  have hbutton : g.button = request.button ∨ g.button = ANY_BUTTON ∨
      request.button = ANY_BUTTON := by
    rcases hg.1, hrequest.1 with ⟨hg | hg, hr | hr⟩
    · exact .inr (.inl hg)
    · exact .inr (.inl hg)
    · exact .inr (.inr hr)
    · exact .inl (hg.trans hr.symm)
  have hmodifiers : g.modifiers = request.modifiers ∨ g.modifiers = ANY_MODIFIER ∨
      request.modifiers = ANY_MODIFIER := by
    rcases hg.2, hrequest.2 with ⟨hg | hg, hr | hr⟩
    · exact .inr (.inl hg)
    · exact .inr (.inl hg)
    · exact .inr (.inr hr)
    · exact .inl (hg.trans hr.symm)
  simp [conflicts, hcore, howner, hwindow, hbutton, hmodifiers, or_assoc]

/-- The owner of the grab grabs its window again, by the button and the modifiers of the grab
itself. -/
def ReplacedBy (g : PassiveButtonGrab) (client : ClientId) (request : GrabButtonRequest) : Prop :=
  client = g.owner ∧ request.grabWindow = g.grabWindow ∧
    (request.button, request.modifiers) = (g.button, g.modifiers)

/-- The owner of the grab ungrabs its window, by each field of the grab itself or by the
wildcard. -/
def ReleasedBy (g : PassiveButtonGrab) (client : ClientId) (request : UngrabButtonRequest) :
    Prop :=
  client = g.owner ∧ request.grabWindow = g.grabWindow ∧
    request.button ∈ [ANY_BUTTON, g.button] ∧ request.modifiers ∈ [ANY_MODIFIER, g.modifiers]

instance (g : PassiveButtonGrab) (client : ClientId) (request : GrabButtonRequest) :
    Decidable (g.ReplacedBy client request) :=
  inferInstanceAs (Decidable (_ ∧ _))

instance (g : PassiveButtonGrab) (client : ClientId) (request : UngrabButtonRequest) :
    Decidable (g.ReleasedBy client request) :=
  inferInstanceAs (Decidable (_ ∧ _))

theorem replacedBy_iff : g.replacedBy client request = true ↔ g.ReplacedBy client request := by
  simp only [replacedBy, ReplacedBy, Bool.and_eq_true, decide_eq_true_iff, Prod.mk.injEq,
    and_assoc, @eq_comm _ client, @eq_comm _ request.grabWindow, @eq_comm _ request.button,
    @eq_comm _ request.modifiers]

theorem releasedBy_iff {request : UngrabButtonRequest} :
    g.releasedBy client request = true ↔ g.ReleasedBy client request := by
  simp only [releasedBy, ReleasedBy, Bool.and_eq_true, Bool.or_eq_true, decide_eq_true_iff,
    List.mem_pair, and_assoc, @eq_comm _ client, @eq_comm _ request.grabWindow,
    @eq_comm _ g.button, @eq_comm _ g.modifiers, or_comm]

/-- An UngrabButton of another button or of other modifiers leaves the grab alone. -/
theorem not_releasedBy {request : UngrabButtonRequest}
    (h : request.button ≠ ANY_BUTTON ∧ request.button ≠ g.button ∨
      request.modifiers ≠ ANY_MODIFIER ∧ request.modifiers ≠ g.modifiers) :
    ¬ g.ReleasedBy client request := by
  intro hreleased
  obtain ⟨-, -, hbutton, hmodifiers⟩ := hreleased
  rw [List.mem_pair] at hbutton hmodifiers
  rcases h with ⟨hany, hother⟩ | ⟨hany, hother⟩
  · exact hbutton.elim hany hother
  · exact hmodifiers.elim hany hother

end PassiveButtonGrab

/-! ## Runs -/

/-- What the clients do about button grabs. Between their requests the windows
and the other resources change. -/
inductive GrabEvent where
  | grabButton (client : ClientId) (request : GrabButtonRequest)
  | ungrabButton (client : ClientId) (request : UngrabButtonRequest)
  | change (resources : ResourceTable)

namespace GrabEvent

/-- The grab that a successful GrabButton establishes. -/
def established (s : ServerState) : GrabEvent → Option PassiveButtonGrab
  | grabButton client request =>
    if s.grabButtonRefusal client request = none then some (request.grab client) else none
  | ungrabButton _ _ => none
  | change _ => none

/-- A successful request replaces the grab or releases it. -/
def ends (s : ServerState) (g : PassiveButtonGrab) : GrabEvent → Bool
  | grabButton client request =>
    s.grabButtonRefusal client request = none && decide (g.ReplacedBy client request)
  | ungrabButton client request =>
    s.ungrabButtonRefusal request = none && decide (g.ReleasedBy client request)
  | change _ => false

/-- A successful UngrabButton of the owner of the grab covers the combination. -/
def ungrabs (s : ServerState) (button : UInt8) (modifiers : UInt16)
    (g : PassiveButtonGrab) : GrabEvent → Bool
  | .ungrabButton client request =>
    s.ungrabButtonRefusal request = none && g.owner = client &&
      g.grabWindow = request.grabWindow &&
      (request.button = ANY_BUTTON || request.button = button) &&
      (request.modifiers = ANY_MODIFIER ||
        request.modifiers = modifiers &&& ALL_MODIFIERS_MASK)
  | _ => false

end GrabEvent

namespace ServerState

def grabStep (s : ServerState) : GrabEvent → ServerState
  | .grabButton client request => (s.handleGrabButton client request).1
  | .ungrabButton client request => (s.handleUngrabButton client request).1
  | .change resources => { s with resources := resources }

def runGrabs (s : ServerState) (events : List GrabEvent) : ServerState :=
  events.foldl grabStep s

/-- The event after `n` others has established the grab, and none since has
replaced it or released it. -/
def GrabStands (s : ServerState) : List GrabEvent → Nat → PassiveButtonGrab → Prop :=
  Ledger.Stands (fun before e => e.established (s.runGrabs before))
    fun before e g => e.ends (s.runGrabs before) g

variable {s : ServerState} {events : List GrabEvent} {e : GrabEvent} {g : PassiveButtonGrab}

theorem runGrabs_concat : s.runGrabs (events ++ [e]) = (s.runGrabs events).grabStep e :=
  List.foldl_concat ..

theorem grabStep_buttonGrabs : (s.grabStep e).buttonGrabs =
    s.buttonGrabs.filter (fun g => !e.ends s g) ++ (e.established s).toList := by
  cases e with
  | grabButton client request =>
    rw [grabStep, handleGrabButton]
    cases hrefusal : s.grabButtonRefusal client request with
    | none =>
      simp [GrabEvent.ends, GrabEvent.established, hrefusal, ← PassiveButtonGrab.replacedBy_iff]
    | some refusal => simp [GrabEvent.ends, GrabEvent.established, hrefusal]
  | ungrabButton client request =>
    rw [grabStep, handleUngrabButton]
    cases hrefusal : s.ungrabButtonRefusal request with
    | none =>
      simp [GrabEvent.ends, GrabEvent.established, hrefusal, ← PassiveButtonGrab.releasedBy_iff]
    | some refusal => simp [GrabEvent.ends, GrabEvent.established, hrefusal]
  | change resources => simp [grabStep, GrabEvent.ends, GrabEvent.established]

theorem kept_buttonGrabs (hstart : s.buttonGrabs = []) :
    Ledger.Kept (fun before e => e.established (s.runGrabs before))
      (fun before e g => e.ends (s.runGrabs before) g)
      fun events => (s.runGrabs events).buttonGrabs where
  nil := hstart
  concat := by
    intro events e
    rw [runGrabs_concat, grabStep_buttonGrabs]

/-! ## Grabs of different clients -/

/-- No combination on a window is grabbed by two clients. -/
structure GrabsDisjoint (grabs : List PassiveButtonGrab) : Prop where
  core : ∀ g ∈ grabs, g.viaXi2 = false
  disjoint : ∀ g ∈ grabs, ∀ other ∈ grabs, g.owner ≠ other.owner →
    g.grabWindow = other.grabWindow → ∀ button modifiers,
      ¬ (g.Covers button modifiers ∧ other.Covers button modifiers)

namespace GrabsDisjoint

variable {grabs kept : List PassiveButtonGrab}

theorem nil : GrabsDisjoint [] := ⟨nofun, nofun⟩

theorem subset (h : GrabsDisjoint grabs) (hsub : kept ⊆ grabs) : GrabsDisjoint kept where
  core g hg := h.core g (hsub hg)
  disjoint g hg other hother := h.disjoint g (hsub hg) other (hsub hother)

theorem concat (h : GrabsDisjoint grabs) (hcore : g.viaXi2 = false)
    (hnew : ∀ other ∈ grabs, other.owner ≠ g.owner → other.grabWindow = g.grabWindow →
      ∀ button modifiers, ¬ (other.Covers button modifiers ∧ g.Covers button modifiers)) :
    GrabsDisjoint (grabs ++ [g]) where
  core := by
    intro other hother
    rcases List.mem_append.mp hother with hother | hother
    · exact h.core other hother
    · rwa [List.mem_singleton.mp hother]
  disjoint := by
    intro first hfirst second hsecond howner hwindow button modifiers hcovers
    rcases List.mem_append.mp hfirst with hold | hlast
    · rcases List.mem_append.mp hsecond with hold' | hlast'
      · exact h.disjoint first hold second hold' howner hwindow button modifiers hcovers
      · obtain rfl := List.mem_singleton.mp hlast'
        exact hnew first hold howner hwindow button modifiers hcovers
    · obtain rfl := List.mem_singleton.mp hlast
      rcases List.mem_append.mp hsecond with hold' | hlast'
      · exact hnew second hold' howner.symm hwindow.symm button modifiers hcovers.symm
      · exact howner (congrArg PassiveButtonGrab.owner (List.mem_singleton.mp hlast')).symm

end GrabsDisjoint

/-- A GrabButton that passes its checks conflicts with no grab of another client. -/
theorem conflicts_eq_false {client : ClientId} {request : GrabButtonRequest}
    (hrefusal : s.grabButtonRefusal client request = none) (hg : g ∈ s.buttonGrabs) :
    g.conflicts client request = false := by
  have hnone : s.buttonGrabs.any (·.conflicts client request) = false := by
    by_contra hany
    rw [Bool.not_eq_false] at hany
    rw [grabButtonRefusal, if_pos hany] at hrefusal
    split_ifs at hrefusal <;> exact nomatch hrefusal
  exact Bool.eq_false_iff.mpr fun hconflicts =>
    Bool.false_ne_true (hnone.symm.trans (List.any_eq_true.mpr ⟨g, hg, hconflicts⟩))

theorem GrabsDisjoint.grabStep (h : GrabsDisjoint s.buttonGrabs) (e : GrabEvent) :
    GrabsDisjoint (s.grabStep e).buttonGrabs := by
  have hkept : GrabsDisjoint (s.buttonGrabs.filter fun g => !e.ends s g) :=
    h.subset (List.filter_subset_self _)
  rw [grabStep_buttonGrabs]
  cases e with
  | grabButton client request =>
    rw [GrabEvent.established]
    split
    case isTrue hrefusal =>
      refine hkept.concat rfl fun other hother howner hwindow button modifiers hcovers => ?_
      have hmem := (List.mem_filter.mp hother).1
      have hconflicts := PassiveButtonGrab.conflicts_of_covers (h.core other hmem) howner hwindow
        hcovers.1 hcovers.2
      exact Bool.false_ne_true ((conflicts_eq_false hrefusal hmem).symm.trans hconflicts)
    case isFalse => rwa [Option.toList_none, List.append_nil]
  | ungrabButton client request => rwa [GrabEvent.established, Option.toList_none, List.append_nil]
  | change resources => rwa [GrabEvent.established, Option.toList_none, List.append_nil]

theorem GrabsDisjoint.runGrabs (h : GrabsDisjoint s.buttonGrabs) (events : List GrabEvent) :
    GrabsDisjoint (s.runGrabs events).buttonGrabs := by
  induction events using List.reverseRecOn with
  | nil => exact h
  | append_singleton events e ih =>
    rw [runGrabs_concat]
    exact ih.grabStep e

/-! ## The search -/

def ButtonDown (buttonsDown : UInt16) (n : Nat) : Prop :=
  buttonsDown.toNat.testBit (n - 1)

theorem buttonBit_toBitVec {button : UInt8} (hlow : 1 ≤ button) (hhigh : button ≤ 16) :
    ((1 : UInt16) <<< (button - 1).toUInt16).toBitVec = BitVec.twoPow 16 (button.toNat - 1) := by
  have hshift : (button - 1).toUInt16.toNat = button.toNat - 1 := by
    rw [UInt8.toNat_toUInt16, UInt8.toNat_sub_of_le _ _ hlow]
    rfl
  have hhigh : button.toNat ≤ 16 := UInt8.le_iff_toNat_le.mp hhigh
  have hlow : 1 ≤ button.toNat := UInt8.le_iff_toNat_le.mp hlow
  rw [UInt16.toBitVec_shiftLeft, BitVec.shiftLeft_eq', BitVec.toNat_umod,
    UInt16.toNat_toBitVec, hshift, Nat.mod_eq_of_lt (by simp; omega)]
  rfl

theorem buttonDown_iff (buttonsDown : UInt16) (n : Nat) :
    ButtonDown buttonsDown n ↔ buttonsDown.toBitVec.getLsbD (n - 1) = true :=
  Iff.rfl

theorem buttonBit_getLsbD {button b : UInt8} (hlow : 1 ≤ button) (hhigh : button ≤ 16)
    (hb : 1 ≤ b) :
    ((1 : UInt16) <<< (button - 1).toUInt16).toBitVec.getLsbD (b.toNat - 1) =
      decide (b = button) := by
  rw [buttonBit_toBitVec hlow hhigh, BitVec.getLsbD_twoPow]
  rw [UInt8.le_iff_toNat_le] at hlow hhigh hb
  have h1 : (1 : UInt8).toNat = 1 := rfl
  have h16 : (16 : UInt8).toNat = 16 := rfl
  by_cases h : b = button
  · rw [h]
    simp
    omega
  · have hne : b.toNat ≠ button.toNat := fun hn => h (UInt8.toNat_inj.mp hn)
    simp [h]
    omega

theorem buttonDown_press (buttonsDown : UInt16) {button b : UInt8} (hlow : 1 ≤ button)
    (hhigh : button ≤ 16) (hb : 1 ≤ b) :
    ButtonDown (buttonsDown ||| (1 : UInt16) <<< (button - 1).toUInt16) b.toNat ↔
      b = button ∨ ButtonDown buttonsDown b.toNat := by
  rw [buttonDown_iff, UInt16.toBitVec_or, BitVec.getLsbD_or, buttonBit_getLsbD hlow hhigh hb,
    Bool.or_eq_true, decide_eq_true_iff, or_comm, buttonDown_iff]

theorem buttonDown_release (buttonsDown : UInt16) {button b : UInt8} (hlow : 1 ≤ button)
    (hhigh : button ≤ 16) (hb : 1 ≤ b) (hb' : b ≤ 16) :
    ButtonDown (buttonsDown &&& ~~~((1 : UInt16) <<< (button - 1).toUInt16)) b.toNat ↔
      b ≠ button ∧ ButtonDown buttonsDown b.toNat := by
  have hbit : b.toNat - 1 < 16 := by
    have := UInt8.le_iff_toNat_le.mp hb'
    have h16 : (16 : UInt8).toNat = 16 := rfl
    omega
  rw [buttonDown_iff, UInt16.toBitVec_and, UInt16.toBitVec_not, BitVec.getLsbD_and,
    BitVec.getLsbD_not, buttonBit_getLsbD hlow hhigh hb, decide_eq_true hbit, Bool.true_and,
    Bool.and_eq_true, Bool.not_eq_true', decide_eq_false_iff_not, and_comm, buttonDown_iff]

theorem noOtherButton {buttonsDown : UInt16} {button : UInt8} (hlow : 1 ≤ button)
    (hhigh : button ≤ 16) (h : ∀ n, 1 ≤ n → n ≠ button.toNat → ¬ ButtonDown buttonsDown n) :
    buttonsDown &&& ~~~((1 : UInt16) <<< (button - 1).toUInt16) = 0 := by
  apply UInt16.toBitVec_inj.mp
  rw [UInt16.toBitVec_and, UInt16.toBitVec_not, buttonBit_toBitVec hlow hhigh]
  have hlow : 1 ≤ button.toNat := UInt8.le_iff_toNat_le.mp hlow
  apply BitVec.eq_of_getLsbD_eq
  intro i hi
  rw [BitVec.getLsbD_and, BitVec.getLsbD_not, BitVec.getLsbD_twoPow]
  by_cases hown : i = button.toNat - 1
  · simp [hown]
  · have hup : buttonsDown.toBitVec.getLsbD i = false :=
      Bool.eq_false_iff.mpr (h (i + 1) (by omega) (by omega))
    simp [hup]

/-- No grab on a window that the search comes to before the window itself. -/
def NoGrabAbove (s : ServerState) (window : ResourceId) : Prop :=
  ∀ above ∈ s.resources.parentChain (fun _ => false) 256 window, above ≠ window →
    ∀ g ∈ s.buttonGrabs, g.grabWindow ≠ above

instance (s : ServerState) (window : ResourceId) : Decidable (s.NoGrabAbove window) :=
  have (above : ResourceId) : Decidable (∀ g ∈ s.buttonGrabs, g.grabWindow ≠ above) :=
    List.decidableBAll ..
  have : DecidablePred fun above =>
      above ≠ window → ∀ g ∈ s.buttonGrabs, g.grabWindow ≠ above := fun _ => inferInstance
  List.decidableBAll _ (s.resources.parentChain (fun _ => false) 256 window)

theorem findSome?_single {α β : Type*} {f : α → Option β} {a : α} {l : List α} (ha : a ∈ l)
    (hothers : ∀ b ∈ l, b ≠ a → f b = none) : l.findSome? f = f a := by
  cases hfound : l.findSome? f with
  | none => exact (List.findSome?_eq_none_iff.mp hfound a ha).symm
  | some c =>
    obtain ⟨b, hb, hfb⟩ := List.exists_of_findSome?_eq_some hfound
    by_cases hab : b = a
    · rw [← hab, hfb]
    · rw [hothers b hb hab] at hfb
      cases hfb

theorem mem_parentChain {t : ResourceTable} {stop : ResourceId → Bool}
    {rounds : Nat} {window : ResourceId} : window ∈ t.parentChain stop rounds window := by
  cases rounds with
  | zero => exact List.mem_singleton_self _
  | succ rounds =>
    rw [ResourceTable.parentChain]
    repeat' split
    all_goals exact List.mem_cons_self

theorem findPassiveGrab_eq {buttonsDown : UInt16} {window : ResourceId} {button : UInt8}
    {modifiers : UInt16}
    (hdown : buttonsDown &&& ~~~((1 : UInt16) <<< (button - 1).toUInt16) = 0)
    (habove : s.NoGrabAbove window) :
    s.findPassiveGrab buttonsDown window button modifiers =
      s.buttonGrabs.find? fun g =>
        g.grabWindow = window && g.matchesPress s.resources button modifiers := by
  rw [findPassiveGrab, if_neg fun h => h.2 hdown]
  refine findSome?_single (List.mem_reverse.mpr mem_parentChain) ?_
  intro above hmem hne
  rw [List.find?_eq_none]
  intro g hg hmatches
  rw [Bool.and_eq_true, decide_eq_true_iff] at hmatches
  exact habove above (List.mem_reverse.mp hmem) hne g hg hmatches.1

/-- A press of a button alone activates the oldest grab that stands on the
window, covers the combination and is not kept from being activated. -/
theorem findPassiveGrab_oldest (s : ServerState) (hstart : s.buttonGrabs = [])
    (events : List GrabEvent) (buttonsDown : UInt16) (window : ResourceId) (button : UInt8)
    (modifiers : UInt16) (hbutton : 1 ≤ button ∧ button ≤ 16)
    (hdown : ∀ n, 1 ≤ n → n ≠ button.toNat → ¬ ButtonDown buttonsDown n)
    (habove : (s.runGrabs events).NoGrabAbove window) :
    (∀ g, (s.runGrabs events).findPassiveGrab buttonsDown window button modifiers = some g ↔
      ∃ n, s.GrabStands events n g ∧
        g.Answers (s.runGrabs events).resources window button modifiers ∧
        ∀ m other, s.GrabStands events m other →
          other.Answers (s.runGrabs events).resources window button modifiers → n ≤ m) ∧
    ((s.runGrabs events).findPassiveGrab buttonsDown window button modifiers = none ↔
      ∀ n g, s.GrabStands events n g →
        ¬ g.Answers (s.runGrabs events).resources window button modifiers) ∧
    (∀ n g m other, s.GrabStands events n g → s.GrabStands events m other →
      g.owner ≠ other.owner → g.grabWindow = other.grabWindow → ∀ b mods,
        ¬ (g.Covers b mods ∧ other.Covers b mods)) ∧
    (∀ n g client request, s.GrabStands events n g →
      request.button ≠ ANY_BUTTON ∧ request.button ≠ g.button ∨
        request.modifiers ≠ ANY_MODIFIER ∧ request.modifiers ≠ g.modifiers →
      s.GrabStands (events ++ [.ungrabButton client request]) n g) := by
  have hkept := kept_buttonGrabs hstart
  rw [findPassiveGrab_eq (noOtherButton hbutton.1 hbutton.2 hdown) habove]
  simp only [PassiveButtonGrab.answers_iff]
  refine ⟨fun g => hkept.find?_eq_some_iff _, hkept.find?_eq_none_iff _, ?_, ?_⟩
  · intro n g m other hg hother
    have hdisjoint : GrabsDisjoint s.buttonGrabs := by
      rw [hstart]
      exact .nil
    exact (hdisjoint.runGrabs events).disjoint g (hkept.mem_iff.mpr ⟨n, hg⟩) other
      (hkept.mem_iff.mpr ⟨m, hother⟩)
  · intro n g client request hstands hother
    refine Ledger.Stands.concat_iff.mpr (.inr ⟨hstands, ?_⟩)
    rw [GrabEvent.ends, decide_eq_false (PassiveButtonGrab.not_releasedBy hother), Bool.and_false]
    exact Bool.false_ne_true

/-- A GrabButton on the root without a cursor. -/
def rootGrab (button : UInt8) (modifiers eventMask : UInt16) (confineTo : ResourceId) :
    GrabButtonRequest where
  ownerEvents := 0
  grabWindow := ROOT_WINDOW
  eventMask := eventMask
  pointerMode := 1
  keyboardMode := 1
  confineTo := confineTo
  cursor := 0
  button := button
  modifiers := modifiers

/-- A client grabs everything, a second one is refused a part of it, and the
first one ungrabs that part. -/
def partlyUngrabbed : List GrabEvent :=
  [.grabButton 1 (rootGrab ANY_BUTTON ANY_MODIFIER 4 0), .grabButton 2 (rootGrab 1 0 4 0),
    .ungrabButton 1 ⟨1, ROOT_WINDOW, 0⟩]

theorem findPassiveGrab_oldest_partlyUngrabbed :
    (ServerState.new.runGrabs partlyUngrabbed).findPassiveGrab 0 ROOT_WINDOW 1 0 =
        some ((rootGrab ANY_BUTTON ANY_MODIFIER 4 0).grab 1) ∧
      ∃ n, ServerState.new.GrabStands partlyUngrabbed n
        ((rootGrab ANY_BUTTON ANY_MODIFIER 4 0).grab 1) := by
  have hfound : (ServerState.new.runGrabs partlyUngrabbed).findPassiveGrab 0 ROOT_WINDOW 1 0 =
      some ((rootGrab ANY_BUTTON ANY_MODIFIER 4 0).grab 1) := by decide
  obtain ⟨hsome, -⟩ := findPassiveGrab_oldest .new rfl partlyUngrabbed 0 ROOT_WINDOW 1 0
    ⟨by decide, by decide⟩ (by simp [ButtonDown]) (by decide)
  obtain ⟨n, hstands, -⟩ := (hsome _).mp hfound
  exact ⟨hfound, n, hstands⟩

/-- The grab was established for the combination by the event after `n` others,
and its client has not ungrabbed the combination since. -/
def HoldsCombination (s : ServerState) (events : List GrabEvent) (window : ResourceId)
    (button : UInt8) (modifiers : UInt16) (n : Nat) (g : PassiveButtonGrab) : Prop :=
  Ledger.Stands (fun before e => e.established (s.runGrabs before))
      (fun before e g => e.ungrabs (s.runGrabs before) button modifiers g) events n g ∧
    g.grabWindow = window ∧ g.Covers button modifiers

/-- A client narrows the events of its own grab for one combination. -/
def regrabbed : List GrabEvent :=
  [.grabButton 1 (rootGrab ANY_BUTTON ANY_MODIFIER 4 0), .grabButton 1 (rootGrab 1 0 8 0)]

/-- A window that is created below the root and not mapped. -/
def hiddenWindow : CreateWindowRequest :=
  { CreateWindowRequest.default with
    window := 0x200000, parent := ROOT_WINDOW, width := 1, height := 1 }

/-- The pointer is to be confined to a window that is not mapped. -/
def confined : List GrabEvent :=
  [.change (ServerState.new.resources.createWindow 1 hiddenWindow),
    .grabButton 1 (rootGrab 1 0 4 0x200000)]

/-- What is ungrabbed alone stays grabbed, an older grab goes before the latest
one, and a confined grab may not answer. -/
theorem combinations_not_sets :
    (∀ n g, ¬ ServerState.new.HoldsCombination partlyUngrabbed ROOT_WINDOW 1 0 n g) ∧
    (ServerState.new.runGrabs partlyUngrabbed).findPassiveGrab 0 ROOT_WINDOW 1 0 =
      some ((rootGrab ANY_BUTTON ANY_MODIFIER 4 0).grab 1) ∧
    ServerState.new.HoldsCombination regrabbed ROOT_WINDOW 1 0 1 ((rootGrab 1 0 8 0).grab 1) ∧
    (ServerState.new.runGrabs regrabbed).findPassiveGrab 0 ROOT_WINDOW 1 0 =
      some ((rootGrab ANY_BUTTON ANY_MODIFIER 4 0).grab 1) ∧
    ServerState.new.HoldsCombination confined ROOT_WINDOW 1 0 1
      ((rootGrab 1 0 4 0x200000).grab 1) ∧
    (ServerState.new.runGrabs confined).findPassiveGrab 0 ROOT_WINDOW 1 0 = none := by
  have hwide : ∀ n g, ¬ ServerState.new.HoldsCombination partlyUngrabbed ROOT_WINDOW 1 0 n g := by
    rintro n g ⟨hstands, -⟩
    obtain ⟨-, hnone⟩ | ⟨hstands, hungrabbed⟩ :=
      (@Ledger.Stands.concat_iff _ _ _ _ (partlyUngrabbed.take 2) _ n g).mp hstands
    · exact nomatch hnone
    obtain ⟨-, hrefused⟩ | ⟨hstands, -⟩ :=
      (@Ledger.Stands.concat_iff _ _ _ _ (partlyUngrabbed.take 1) _ n g).mp hstands
    · exact Option.some_ne_none g (hrefused.symm.trans (by decide))
    obtain ⟨-, hfirst⟩ | ⟨hstands, -⟩ :=
      (@Ledger.Stands.concat_iff _ _ _ _ [] _ n g).mp hstands
    · obtain rfl := Option.some.inj hfirst
      exact hungrabbed (by decide)
    · exact Ledger.Stands.not_nil hstands
  refine ⟨hwide, by decide, ⟨?_, by decide⟩, by decide, ⟨?_, by decide⟩, by decide⟩
  · exact ⟨[_], _, [], rfl, rfl, by decide, .nil⟩
  · exact ⟨[_], _, [], rfl, rfl, by decide, .nil⟩

end ServerState

end X12
