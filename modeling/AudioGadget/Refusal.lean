/-!
# Refusal — why an operation of the audio function is turned down

One constructor for each cause, with the numbers that show it. What a
malformed request of the host deserves is not a refusal but an unhandled
reply, and trouble on the isochronous pipe is counted.
-/

namespace AudioGadget

/-- Why an operation is turned down. -/
inductive Refusal where
  /-- The interface belongs to somebody else. -/
  | foreignInterface (number : UInt8)
  /-- Only the alternate settings 0 and 1 exist. -/
  | unknownAlternate (alternate : UInt8)
  /-- A packet of this size does not fit the endpoint or the buffers. -/
  | packetTooLarge (requested limit : Nat)
  /-- The caller's buffer is shorter than the descriptors. -/
  | bufferTooSmall (needed available : Nat)
  /-- Interface, string or endpoint numbers are still missing. -/
  | numberingIncomplete
  /-- The core has no isochronous OUT endpoint left. -/
  | endpointUnavailable
  /-- The stream format is not one the function can describe. -/
  | unsupportedFormat
deriving DecidableEq, Repr

/-- The sentence shown to the user. -/
def Refusal.message : Refusal → String
  | .foreignInterface number => s!"interface {number} is not owned by the audio function"
  | .unknownAlternate alternate => s!"alternate setting {alternate} does not exist"
  | .packetTooLarge requested limit => s!"max packet size {requested} exceeds limit {limit}"
  | .bufferTooSmall needed available =>
    s!"descriptor needs {needed} bytes, buffer has {available}"
  | .numberingIncomplete => "interface/string/endpoint numbering not assigned"
  | .endpointUnavailable => "no isochronous OUT endpoint available"
  | .unsupportedFormat => "unsupported stream format"

end AudioGadget
