import AudioGadget.Bytes
import AudioGadget.Pcm.Format
import AudioGadget.Usb.Endpoint
/-!
# Numbering — the numbers a device gives its audio function

A composite device numbers interfaces, endpoints and strings across all
its functions. This is the share of the audio function, complete, next
to the format that the numbers are for.
-/

namespace AudioGadget

/-- Strings the function owns. -/
def stringCount : Nat := 2

/-- A format with every number that its descriptors mention. -/
structure Numbering where
  format : StreamFormat
  controlInterface : UInt8
  streamingInterface : UInt8
  endpoint : EndpointAddress
  firstString : UInt8
deriving DecidableEq

namespace Numbering

/-- The string that names the whole function. -/
def functionString (n : Numbering) : UInt8 :=
  n.firstString

/-- The string that names the streaming interface. -/
def streamingString (n : Numbering) : UInt8 :=
  numberAfter n.firstString 1

end Numbering

end AudioGadget
