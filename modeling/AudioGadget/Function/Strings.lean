import AudioGadget.Identity
import AudioGadget.Text.Utf16
import AudioGadget.Function.Numbering
/-!
# Strings — the names of the function, as a host reads them

The function owns two consecutive string numbers. A string descriptor is
its own length, a type octet and the text in sixteen-bit units; the
buffer for it has room for 63 units. `encode?` writes it, `decode?` is
how a host reads it, and what is written is read back
(`decode?_of_encode?`).
-/

namespace AudioGadget.Strings

/-- Octets in the longest string descriptor. -/
def sizeLimit : Nat := 128

/-- The descriptor type of a string. -/
def descriptorType : UInt8 := 0x03

/-- The text of a string number: the function's name at the first number,
the streaming interface's at the next. -/
def text? (first index : UInt8) : Option String :=
  if index.toNat = first.toNat then some Identity.functionName
  else if index.toNat = first.toNat + 1 then some Identity.streamingName
  else none

/-- **A text that fits, behind its length and type.** A text with more
units than the descriptor has room for is not cut but refused. -/
def encode? (text : String) : Option Bytes :=
  let body := Text.Utf16.encode text.toList
  if body.length + 2 ≤ sizeLimit then
    some (UInt8.ofNat (body.length + 2) :: descriptorType :: body)
  else none

/-- The text of a string descriptor. The length must be the descriptor's
own and the type a string's. -/
def decode? : Bytes → Option String
  | length :: type :: body =>
    if length.toNat = body.length + 2 ∧ type = descriptorType then
      (Text.Utf16.decode? body).map String.ofList
    else none
  | _ => none

/-- A text fits exactly if it has at most 63 units. -/
theorem encode?_isSome_iff (text : String) :
    (encode? text).isSome ↔ (Text.Utf16.units text.toList).length ≤ 63 := by
  simp only [encode?, Text.Utf16.length_encode, sizeLimit]
  split <;> simp <;> omega

/-- **A text is read back as written.** -/
theorem decode?_of_encode? {text : String} {bytes : Bytes} (h : encode? text = some bytes) :
    decode? bytes = some text := by
  by_cases fits : (Text.Utf16.encode text.toList).length + 2 ≤ 128
  · rw [encode?, sizeLimit, if_pos fits] at h
    cases h
    rw [decode?, if_pos ⟨by rw [UInt8.toNat_ofNat']; omega, rfl⟩, Text.Utf16.decode?_encode,
      Option.map_some, String.ofList_toList]
  · rw [encode?, sizeLimit, if_neg fits] at h
    cases h

end AudioGadget.Strings
