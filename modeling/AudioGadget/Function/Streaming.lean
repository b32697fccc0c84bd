import AudioGadget.Refusal
/-!
# Streaming — the alternate setting of the streaming interface

Alternate setting 0 takes no bandwidth, alternate setting 1 carries the
isochronous endpoint. The interface remembers which is selected and says
what a selection changes; what follows from a change is the gadget's
business.
-/

namespace AudioGadget

/-- An alternate setting of the streaming interface. -/
inductive Alternate where
  /-- Setting 0: no bandwidth, no endpoint. -/
  | inactive
  /-- Setting 1: the endpoint streams. -/
  | operational
deriving DecidableEq, Repr

namespace Alternate

instance : Inhabited Alternate := ⟨inactive⟩

/-- The setting's number. -/
def number : Alternate → UInt8
  | .inactive => 0
  | .operational => 1

/-- The setting of a number. Only 0 and 1 exist. -/
def ofNumber? (n : UInt8) : Except Refusal Alternate :=
  if n = 0 then .ok .inactive
  else if n = 1 then .ok .operational
  else .error (.unknownAlternate n)

/-- **A number selects the setting it is the number of.** -/
theorem ofNumber?_eq_ok_iff {n : UInt8} {a : Alternate} : ofNumber? n = .ok a ↔ n = a.number := by
  cases a <;> simp only [ofNumber?, number] <;> repeat' split
  all_goals simp_all

end Alternate

/-- What a selection changes. -/
inductive Transition where
  /-- The setting was selected already. -/
  | unchanged
  /-- The stream begins. -/
  | activate
  /-- The stream ends. -/
  | deactivate
deriving DecidableEq, Repr

/-- The change from one setting to another. -/
def Transition.between : Alternate → Alternate → Transition
  | .inactive, .operational => .activate
  | .operational, .inactive => .deactivate
  | _, _ => .unchanged

/-- The streaming interface: its number, once assigned, and its setting. -/
structure StreamingInterface where
  number : Option UInt8
  selected : Alternate
deriving DecidableEq, Repr

namespace StreamingInterface

/-- Before registration there is no number and no stream. -/
def unassigned : StreamingInterface := ⟨none, .inactive⟩

/-- Take a number. -/
def assign (s : StreamingInterface) (n : UInt8) : StreamingInterface :=
  { s with number := some n }

/-- Whether the stream runs. -/
def isOperational (s : StreamingInterface) : Bool :=
  s.selected = .operational

/-- Back to setting 0, keeping the number. Nobody is told. -/
def reset (s : StreamingInterface) : StreamingInterface :=
  { s with selected := .inactive }

/-- The selected setting, for whoever names the interface by its number. -/
def current? (s : StreamingInterface) (interface : UInt8) : Except Refusal Alternate :=
  if s.number = some interface then .ok s.selected else .error (.foreignInterface interface)

/-- Select a setting. The interface is checked first, then the setting;
a refusal selects nothing. -/
def select? (s : StreamingInterface) (interface alternate : UInt8) :
    Except Refusal (Transition × StreamingInterface) :=
  if s.number = some interface then
    match Alternate.ofNumber? alternate with
    | .ok next => .ok (.between s.selected next, { s with selected := next })
    | .error e => .error e
  else
    .error (.foreignInterface interface)

end StreamingInterface

end AudioGadget
