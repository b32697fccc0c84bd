import AudioGadget.Bytes
/-!
# Utf8 — reading text that may be damaged

Octets are read one at a time. A character that has begun owes some more
octets, the next of which must lie in a range; the ranges rule out
over-long forms, surrogates and values past the last character. Where an
octet does not fit, what was read of the character becomes one
replacement character, and the octet starts afresh. So every stretch
that could not go on costs exactly one replacement character.
-/

namespace AudioGadget.Text

/-- The character that stands for what cannot be read. -/
def replacement : Char := '\uFFFD'

/-- A character that has begun. -/
structure Begun where
  /-- The value spelled so far. -/
  value : Nat
  /-- Octets still owed, less one. -/
  later : Nat
  /-- The least octet that may come next. -/
  low : Nat
  /-- The greatest octet that may come next. -/
  high : Nat
deriving DecidableEq, Repr

/-- What an octet is when no character has begun. -/
inductive Start where
  /-- A whole character. -/
  | whole (c : Char)
  /-- The first octet of a longer one. -/
  | lead (begun : Begun)
  /-- Nothing that starts a character. -/
  | damage
deriving DecidableEq, Repr

/-- Read an octet at the start of a character. -/
def Start.ofByte (b : Nat) : Start :=
  if b < 0x80 then .whole (Char.ofNat b)
  else if b < 0xC2 then .damage
  else if b < 0xE0 then .lead ⟨b - 0xC0, 0, 0x80, 0xBF⟩
  else if b = 0xE0 then .lead ⟨0, 1, 0xA0, 0xBF⟩
  else if b = 0xED then .lead ⟨0xD, 1, 0x80, 0x9F⟩
  else if b < 0xF0 then .lead ⟨b - 0xE0, 1, 0x80, 0xBF⟩
  else if b = 0xF0 then .lead ⟨0, 2, 0x90, 0xBF⟩
  else if b < 0xF4 then .lead ⟨b - 0xF0, 2, 0x80, 0xBF⟩
  else if b = 0xF4 then .lead ⟨4, 2, 0x80, 0x8F⟩
  else .damage

/-- Take an octet with no character begun: what it completes, and the
character it begins. -/
def startByte (b : Nat) : List Char × Option Begun :=
  match Start.ofByte b with
  | .whole c => ([c], none)
  | .lead begun => ([], some begun)
  | .damage => ([replacement], none)

/-- Take one octet: what it completes, and the character then begun. -/
def takeByte (begun : Option Begun) (b : Nat) : List Char × Option Begun :=
  match begun with
  | none => startByte b
  | some c =>
    if c.low ≤ b ∧ b ≤ c.high then
      let value := 64 * c.value + (b - 0x80)
      match c.later with
      | 0 => ([Char.ofNat value], none)
      | later + 1 => ([], some ⟨value, later, 0x80, 0xBF⟩)
    else
      let (chars, begun) := startByte b
      (replacement :: chars, begun)

/-- Read octets behind a character that may have begun. -/
def readFrom (begun : Option Begun) : Bytes → List Char
  | [] => if begun.isSome then [replacement] else []
  | b :: rest =>
    let (chars, begun) := takeByte begun b.toNat
    chars ++ readFrom begun rest

/-- **Read octets as text**, with a replacement character for each stretch
that is none. -/
def readUtf8 (bytes : Bytes) : List Char :=
  readFrom none bytes

example : readUtf8 [0x61, 0xFF, 0x62, 0xC3] = ['a', replacement, 'b', replacement] := rfl

end AudioGadget.Text
