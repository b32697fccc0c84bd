/-!
# Control — what a feature unit can be asked about

A feature unit offers two controls, mute and volume, and a request on
one of them carries a verb: set the current value, or get the current
value, the ends of its range or its resolution. Setting the ends or the
resolution is not offered, so those codes name no verb.
-/

namespace AudioGadget

/-- A control of the feature unit. -/
inductive Control where
  /-- One octet, a truth value. -/
  | mute
  /-- One signed word, in 1/256 dB. -/
  | volume
deriving DecidableEq, Repr

namespace Control

/-- The selector code of a control. -/
def code : Control → UInt8
  | .mute => 1
  | .volume => 2

/-- The control that a selector code names. -/
def ofCode? (code : UInt8) : Option Control :=
  if code = 1 then some .mute
  else if code = 2 then some .volume
  else none

/-- Octets in the value of a control. -/
def payloadLength : Control → Nat
  | .mute => 1
  | .volume => 2

/-- The bit that announces a control in a descriptor. -/
def bit : Control → UInt8
  | .mute => 0x01
  | .volume => 0x02

/-- **A code names the control it is the code of, and nothing else.** -/
theorem ofCode?_eq_some_iff {b : UInt8} {c : Control} : ofCode? b = some c ↔ b = c.code := by
  cases c <;> simp only [ofCode?, code] <;> split <;> simp_all

@[simp] theorem ofCode?_code (c : Control) : ofCode? c.code = some c :=
  ofCode?_eq_some_iff.2 rfl

end Control

/-- What a request does to a control. -/
inductive Verb where
  | setCurrent
  | getCurrent
  | getMinimum
  | getMaximum
  | getResolution
deriving DecidableEq, Repr

namespace Verb

/-- The request code of a verb. -/
def code : Verb → UInt8
  | .setCurrent => 0x01
  | .getCurrent => 0x81
  | .getMinimum => 0x82
  | .getMaximum => 0x83
  | .getResolution => 0x84

/-- The verb that a request code names. -/
def ofCode? (code : UInt8) : Option Verb :=
  if code = 0x01 then some .setCurrent
  else if code = 0x81 then some .getCurrent
  else if code = 0x82 then some .getMinimum
  else if code = 0x83 then some .getMaximum
  else if code = 0x84 then some .getResolution
  else none

/-- **A code names the verb it is the code of, and nothing else.** -/
theorem ofCode?_eq_some_iff {b : UInt8} {v : Verb} : ofCode? b = some v ↔ b = v.code := by
  constructor
  · intro h
    simp only [ofCode?] at h
    repeat' split at h
    all_goals first | (cases h; assumption) | contradiction
  · rintro rfl
    cases v <;> rfl

@[simp] theorem ofCode?_code (v : Verb) : ofCode? v.code = some v :=
  ofCode?_eq_some_iff.2 rfl

end Verb

end AudioGadget
