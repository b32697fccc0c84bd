import AudioGadget.Bytes
/-!
# Caption — a few words for a descriptor

A descriptor is named by its type and, where the type is the audio
class's own, by its subtype. Control and streaming descriptors share
subtype numbers, but not lengths, so those are told apart by length.
-/

namespace AudioGadget

/-- The words for an interface descriptor, by its subclass and setting. -/
def interfaceCaption (subclass setting : Option UInt8) : String :=
  if subclass = some 0x01 then "AudioControl interface"
  else if subclass = some 0x02 then
    if setting = some 0 then "AudioStreaming alt 0 (idle)" else "AudioStreaming alt 1"
  else "interface"

/-- The words for a class-specific interface descriptor, by its subtype
and length. -/
def classCaption (subtype : UInt8) (length : Nat) : String :=
  if subtype = 0x01 then
    if length = 9 then "AC header" else "AS general"
  else if subtype = 0x02 then
    if length = 12 then "input terminal (USB stream)" else "format type I"
  else if subtype = 0x03 then "output terminal (speaker)"
  else if subtype = 0x06 then "feature unit"
  else "unknown"

/-- **A few words for a descriptor.** Octets that are not there read as
type and subtype 0, which name nothing. -/
def caption (descriptor : Bytes) : String :=
  let type := (descriptor[1]?).getD 0
  let subtype := (descriptor[2]?).getD 0
  if type = 0x0B then "interface association"
  else if type = 0x04 then interfaceCaption descriptor[6]? descriptor[3]?
  else if type = 0x24 then classCaption subtype descriptor.length
  else if type = 0x05 then "isochronous OUT endpoint"
  else if type = 0x25 then "CS endpoint (EP_GENERAL)"
  else "unknown"

end AudioGadget
