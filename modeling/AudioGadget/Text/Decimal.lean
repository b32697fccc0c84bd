/-!
# Decimal — reading numbers

A number is a run of ASCII digits, at least one, of any length; leading
zeros change nothing. A sign may stand in front where the reader allows
it. What range a number must lie in is for its reader to say.
-/

namespace AudioGadget.Text

/-- Whether a character is one of the ten ASCII digits. -/
def isDigit (c : Char) : Bool :=
  '0' ≤ c && c ≤ '9'

/-- The value of a run of digits behind a value read so far. -/
def digitsFrom (value : Nat) : List Char → Option Nat
  | [] => some value
  | c :: rest =>
    if isDigit c then digitsFrom (10 * value + (c.toNat - '0'.toNat)) rest else none

/-- The value of a text that is nothing but digits. -/
def digits? (text : List Char) : Option Nat :=
  if text.isEmpty then none else digitsFrom 0 text

/-- A number without a sign, or behind a plus. -/
def natural? : List Char → Option Nat
  | '+' :: rest => digits? rest
  | text => digits? text

/-- A number behind a minus, a plus or no sign. -/
def integer? : List Char → Option Int
  | '-' :: rest => (digits? rest).map fun n => -(n : Int)
  | '+' :: rest => (digits? rest).map fun n => (n : Int)
  | text => (digits? text).map fun n => (n : Int)

example : natural? "+007".toList = some 7 := rfl

end AudioGadget.Text
