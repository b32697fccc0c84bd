import AudioGadget.Bytes
/-!
# Column — octets and texts set out in columns

Octets are written as two lowercase digits each, with a space between.
A column has a width in characters; what is wider stays whole.
-/

namespace AudioGadget.Text

/-- The lowercase hexadecimal digit of a value below sixteen. -/
def hexDigit (n : Nat) : Char :=
  if n < 10 then Char.ofNat ('0'.toNat + n) else Char.ofNat ('a'.toNat + (n - 10))

/-- The two digits of an octet. -/
def hexByte (b : UInt8) : String :=
  String.ofList [hexDigit (b.toNat / 16), hexDigit (b.toNat % 16)]

/-- Octets with a space between. -/
def hexRow (bytes : Bytes) : String :=
  " ".intercalate (bytes.map hexByte)

/-- Blanks that fill a text up to a width. -/
def filler (width : Nat) (text : String) : String :=
  String.ofList (List.replicate (width - text.length) ' ')

/-- A text at the right edge of a column. -/
def alignRight (width : Nat) (text : String) : String :=
  filler width text ++ text

/-- A text at the left edge of a column. -/
def alignLeft (width : Nat) (text : String) : String :=
  text ++ filler width text

end AudioGadget.Text
