import Mathlib.Data.List.Basic

/-! # Hotkeys

The keys that the server keeps to itself are found among the raw key codes, before any
client sees them. -/

namespace X12

def LINUX_KEY_ENTER : UInt32 := 28
def LINUX_KEY_BACKSPACE : UInt32 := 14
def LINUX_KEY_LEFTCTRL : UInt32 := 29
def LINUX_KEY_LEFTALT : UInt32 := 56
def LINUX_KEY_RIGHTCTRL : UInt32 := 97
def LINUX_KEY_RIGHTALT : UInt32 := 100
def LINUX_KEY_D : UInt32 := 32
def LINUX_KEY_F1 : UInt32 := 59
def LINUX_KEY_F10 : UInt32 := 68
def LINUX_KEY_F11 : UInt32 := 87

/-- An event of an input device. Those that are not of a key are all alike here. -/
inductive RawInputEvent where
  | KeyPress (keycode : UInt32)
  | KeyRelease (keycode : UInt32)
  | Other
  deriving DecidableEq, Repr

inductive Hotkey where
  | Zap
  | DumpScanout
  | DumpDrawables
  | SwitchVt (vt : UInt32)
  deriving DecidableEq, Repr

structure HotkeyDetector where
  ctrlPressed : Bool
  altPressed : Bool
  deriving DecidableEq, Repr

/-- What a key stands for while Ctrl and Alt are pressed. -/
def hotkeyOf (keycode : UInt32) : Option Hotkey :=
  if keycode = LINUX_KEY_BACKSPACE then some .Zap
  else if keycode = LINUX_KEY_D then some .DumpDrawables
  else if keycode = LINUX_KEY_ENTER then some .DumpScanout
  else if LINUX_KEY_F1 ≤ keycode ∧ keycode ≤ LINUX_KEY_F10 then
    some (.SwitchVt (keycode - LINUX_KEY_F1 + 1))
  else if keycode = LINUX_KEY_F11 then some (.SwitchVt 11)
  else none

namespace HotkeyDetector

def new : HotkeyDetector where
  ctrlPressed := false
  altPressed := false

def reset (d : HotkeyDetector) : HotkeyDetector :=
  { d with ctrlPressed := false, altPressed := false }

/-- The hotkey that the event fires, if any. -/
def check (d : HotkeyDetector) : RawInputEvent → HotkeyDetector × Option Hotkey
  | .KeyPress keycode =>
    if keycode = LINUX_KEY_LEFTCTRL ∨ keycode = LINUX_KEY_RIGHTCTRL then
      ({ d with ctrlPressed := true }, none)
    else if keycode = LINUX_KEY_LEFTALT ∨ keycode = LINUX_KEY_RIGHTALT then
      ({ d with altPressed := true }, none)
    else if !(d.ctrlPressed && d.altPressed) then (d, none)
    else (d, hotkeyOf keycode)
  | .KeyRelease keycode =>
    if keycode = LINUX_KEY_LEFTCTRL ∨ keycode = LINUX_KEY_RIGHTCTRL then
      ({ d with ctrlPressed := false }, none)
    else if keycode = LINUX_KEY_LEFTALT ∨ keycode = LINUX_KEY_RIGHTALT then
      ({ d with altPressed := false }, none)
    else (d, none)
  | .Other => (d, none)

end HotkeyDetector

end X12
