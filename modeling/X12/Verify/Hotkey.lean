import X12.Core.Hotkey
import X12.Lib.Runs

/-! # Hotkeys fire while Ctrl and Alt are held

One flag stands for two keys, the left and the right one. It says what the last event of
the two was, which is not whether one of them is held. -/

namespace X12

open Runs (Since)

variable {keys : List UInt32} {events : List RawInputEvent}

/-- A press of one of the keys. -/
def PressOf (keys : List UInt32) (e : RawInputEvent) : Prop :=
  ∃ key ∈ keys, e = .KeyPress key

def ReleaseOf (keys : List UInt32) (e : RawInputEvent) : Prop :=
  ∃ key ∈ keys, e = .KeyRelease key

@[simp] theorem pressOf_keyPress {key : UInt32} : PressOf keys (.KeyPress key) ↔ key ∈ keys :=
  ⟨fun ⟨_, hmem, heq⟩ => RawInputEvent.KeyPress.inj heq ▸ hmem, fun hmem => ⟨key, hmem, rfl⟩⟩

@[simp] theorem releaseOf_keyRelease {key : UInt32} :
    ReleaseOf keys (.KeyRelease key) ↔ key ∈ keys :=
  ⟨fun ⟨_, hmem, heq⟩ => RawInputEvent.KeyRelease.inj heq ▸ hmem, fun hmem => ⟨key, hmem, rfl⟩⟩

@[simp] theorem not_pressOf_keyRelease {key : UInt32} : ¬ PressOf keys (.KeyRelease key) :=
  fun ⟨_, _, heq⟩ => RawInputEvent.noConfusion heq

@[simp] theorem not_releaseOf_keyPress {key : UInt32} : ¬ ReleaseOf keys (.KeyPress key) :=
  fun ⟨_, _, heq⟩ => RawInputEvent.noConfusion heq

@[simp] theorem not_pressOf_other : ¬ PressOf keys .Other :=
  fun ⟨_, _, heq⟩ => RawInputEvent.noConfusion heq

@[simp] theorem not_releaseOf_other : ¬ ReleaseOf keys .Other :=
  fun ⟨_, _, heq⟩ => RawInputEvent.noConfusion heq

/-- One of the keys has been pressed and not been released since. -/
def Held (keys : List UInt32) (events : List RawInputEvent) : Prop :=
  ∃ key ∈ keys, Since (fun _ => PressOf [key]) (fun _ => ReleaseOf [key]) events

/-- The last event of the keys is a press. -/
def LastPressed (keys : List UInt32) (events : List RawInputEvent) : Prop :=
  Since (fun _ => PressOf keys) (fun _ => ReleaseOf keys) events

def ctrlKeys : List UInt32 := [LINUX_KEY_LEFTCTRL, LINUX_KEY_RIGHTCTRL]

def altKeys : List UInt32 := [LINUX_KEY_LEFTALT, LINUX_KEY_RIGHTALT]

theorem LastPressed.held (h : LastPressed keys events) : Held keys events := by
  obtain ⟨before, _, after, rfl, ⟨key, hkey, rfl⟩, hafter⟩ := h
  refine ⟨key, hkey, before, _, after, rfl, ⟨key, List.mem_singleton_self key, rfl⟩,
    hafter.imp fun _ e => mt ?_⟩
  rintro ⟨released, hreleased, rfl⟩
  exact ⟨released, List.mem_singleton.mp hreleased ▸ hkey, rfl⟩

namespace HotkeyDetector

/-- The detector after the events since it was reset. -/
def after (d : HotkeyDetector) (events : List RawInputEvent) : HotkeyDetector :=
  events.foldl (fun d e => (d.check e).1) d.reset

variable {d : HotkeyDetector} {e : RawInputEvent}

theorem after_concat : d.after (events ++ [e]) = ((d.after events).check e).1 :=
  List.foldl_concat ..

theorem mem_ctrlKeys {key : UInt32} :
    key ∈ ctrlKeys ↔ key = LINUX_KEY_LEFTCTRL ∨ key = LINUX_KEY_RIGHTCTRL :=
  List.mem_pair

theorem mem_altKeys {key : UInt32} :
    key ∈ altKeys ↔ key = LINUX_KEY_LEFTALT ∨ key = LINUX_KEY_RIGHTALT :=
  List.mem_pair

theorem not_mem_altKeys {key : UInt32} (h : key ∈ ctrlKeys) : key ∉ altKeys := by
  rcases mem_ctrlKeys.mp h with rfl | rfl <;> decide

/-- The flag of Ctrl after an event. -/
theorem check_ctrlPressed : (d.check e).1.ctrlPressed = true ↔
    PressOf ctrlKeys e ∨ d.ctrlPressed = true ∧ ¬ ReleaseOf ctrlKeys e := by
  cases e with
  | Other => simp [check]
  | KeyPress key | KeyRelease key =>
    rw [check]
    split
    · next hctrl => simp [mem_ctrlKeys.mpr hctrl]
    next hctrl =>
    have hctrl := mt mem_ctrlKeys.mp hctrl
    repeat' split
    all_goals simp [hctrl]

theorem check_altPressed : (d.check e).1.altPressed = true ↔
    PressOf altKeys e ∨ d.altPressed = true ∧ ¬ ReleaseOf altKeys e := by
  cases e with
  | Other => simp [check]
  | KeyPress key | KeyRelease key =>
    rw [check]
    split
    · next hctrl => simp [not_mem_altKeys (mem_ctrlKeys.mpr hctrl)]
    split
    · next halt => simp [mem_altKeys.mpr halt]
    next halt =>
    have halt := mt mem_altKeys.mp halt
    repeat' split
    all_goals simp [halt]

theorem after_ctrlPressed : (d.after events).ctrlPressed = true ↔ LastPressed ctrlKeys events := by
  induction events using List.reverseRecOn with
  | nil => exact iff_of_false Bool.false_ne_true Since.not_nil
  | append_singleton events e ih =>
    rw [after_concat, check_ctrlPressed, LastPressed, Since.concat_iff, ih]
    rfl

theorem after_altPressed : (d.after events).altPressed = true ↔ LastPressed altKeys events := by
  induction events using List.reverseRecOn with
  | nil => exact iff_of_false Bool.false_ne_true Since.not_nil
  | append_singleton events e ih =>
    rw [after_concat, check_altPressed, LastPressed, Since.concat_iff, ih]
    rfl

variable {keycode : UInt32} {hotkey : Hotkey}

/-- A modifier key is not the key of a hotkey. -/
theorem not_modifier (hkey : hotkeyOf keycode = some hotkey) :
    keycode ∉ ctrlKeys ∧ keycode ∉ altKeys := by
  have hnone {key : UInt32} (h : hotkeyOf key = none) : keycode ≠ key := by
    rintro rfl
    cases h.symm.trans hkey
  rw [mem_ctrlKeys, mem_altKeys, not_or, not_or]
  exact ⟨⟨hnone rfl, hnone rfl⟩, hnone rfl, hnone rfl⟩

/-- Only a press of its key fires a hotkey. -/
theorem check_pressed (h : (d.check e).2 = some hotkey) :
    ∃ keycode, e = .KeyPress keycode ∧ hotkeyOf keycode = some hotkey := by
  cases e with
  | Other => cases h
  | KeyRelease key =>
    rw [check] at h
    repeat' split at h
    all_goals cases h
  | KeyPress key =>
    rw [check] at h
    repeat' split at h
    · cases h
    · cases h
    · cases h
    · exact ⟨key, rfl, h⟩

theorem check_fires (hkey : hotkeyOf keycode = some hotkey) :
    (d.check (.KeyPress keycode)).2 = some hotkey ↔
      d.ctrlPressed = true ∧ d.altPressed = true := by
  obtain ⟨hctrl, halt⟩ := not_modifier hkey
  rw [check, if_neg (mt mem_ctrlKeys.mpr hctrl), if_neg (mt mem_altKeys.mpr halt),
    ← Bool.and_eq_true]
  cases d.ctrlPressed && d.altPressed with
  | false => exact iff_of_false (fun h => by cases h) Bool.false_ne_true
  | true => exact iff_of_true hkey rfl

/-- Whatever has been pressed and released since a reset, the hotkeys fire exactly on the
presses of their keys while Ctrl and Alt are held, as long as no key of a modifier was
released last while the other was held. -/
theorem hotkey_fires_iff (d : HotkeyDetector) (events : List RawInputEvent) :
    (∀ e hotkey, ((d.after events).check e).2 = some hotkey ↔
        (∃ keycode, e = .KeyPress keycode ∧ hotkeyOf keycode = some hotkey) ∧
          Held ctrlKeys events ∧ Held altKeys events) ↔
      (Held ctrlKeys events → Held altKeys events →
        LastPressed ctrlKeys events ∧ LastPressed altKeys events) := by
  rw [← d.after_ctrlPressed, ← d.after_altPressed]
  constructor
  · intro hfires hctrl halt
    have hzap := (hfires (.KeyPress LINUX_KEY_BACKSPACE) .Zap).mpr ⟨⟨_, rfl, rfl⟩, hctrl, halt⟩
    exact (check_fires rfl).mp hzap
  · intro hlast e hotkey
    constructor
    · intro h
      obtain ⟨keycode, rfl, hkey⟩ := check_pressed h
      obtain ⟨hctrl, halt⟩ := (check_fires hkey).mp h
      exact ⟨⟨keycode, rfl, hkey⟩, (after_ctrlPressed.mp hctrl).held,
        (after_altPressed.mp halt).held⟩
    · rintro ⟨⟨keycode, rfl, hkey⟩, hctrl, halt⟩
      exact (check_fires hkey).mpr (hlast hctrl halt)

/-- Both Ctrl keys and Alt are pressed, and the right Ctrl is released. -/
def rightCtrlReleased : List RawInputEvent :=
  [.KeyPress LINUX_KEY_LEFTCTRL, .KeyPress LINUX_KEY_RIGHTCTRL, .KeyPress LINUX_KEY_LEFTALT,
    .KeyRelease LINUX_KEY_RIGHTCTRL]

theorem rightCtrlReleased_silent :
    Held ctrlKeys rightCtrlReleased ∧ Held altKeys rightCtrlReleased ∧
      ((new.after rightCtrlReleased).check (.KeyPress LINUX_KEY_BACKSPACE)).2 = none := by
  refine ⟨⟨LINUX_KEY_LEFTCTRL, List.mem_cons_self, [], _, _, rfl, ?_, ?_⟩,
    ⟨LINUX_KEY_LEFTALT, List.mem_cons_self, rightCtrlReleased.take 2, _,
      rightCtrlReleased.drop 3, rfl, ?_, ?_⟩, rfl⟩
  · exact pressOf_keyPress.mpr List.mem_cons_self
  · simp only [Runs.AtEach.cons_iff, not_releaseOf_keyPress, releaseOf_keyRelease]
    exact ⟨not_false, not_false, by decide, Runs.AtEach.nil⟩
  · exact pressOf_keyPress.mpr List.mem_cons_self
  · simp only [rightCtrlReleased, List.drop, Runs.AtEach.cons_iff, releaseOf_keyRelease]
    exact ⟨by decide, Runs.AtEach.nil⟩

end HotkeyDetector

end X12
