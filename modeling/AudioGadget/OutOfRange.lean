/-!
# OutOfRange — a number refused because it lies outside its range

Volumes and sample rates are refused with the value and the two ends of
the range, all as signed 32-bit numbers.
-/

namespace AudioGadget

/-- A refused number and the inclusive range it should lie in. -/
structure OutOfRange where
  value : Int
  min : Int
  max : Int
deriving DecidableEq, Repr

/-- The sentence shown to the user. -/
def OutOfRange.message (e : OutOfRange) : String :=
  s!"value {e.value} outside {e.min}..={e.max}"

end AudioGadget
