import AudioGadget.Refusal
import AudioGadget.Pcm.Format
import AudioGadget.Usb.Endpoint
/-!
# Event — what the gadget notes in its log

An event is a cause with its numbers; `message` gives the words and
`level` the weight. Only what happens at registration and on the control
pipe is noted: completions run where nothing may wait, and note nothing.
-/

namespace AudioGadget

/-- The weight of a log line. -/
inductive LogLevel where
  | debug
  | info
  | warning
deriving DecidableEq, Repr

/-- Something worth a log line. -/
inductive Event where
  /-- The gadget was put in its power-on state. -/
  | configured (format : StreamFormat)
  /-- The core gave the function its endpoint. -/
  | endpointReserved (ep : EndpointAddress)
  /-- A host configured the device. -/
  | connected
  /-- The bus was reset or the cable pulled. -/
  | disconnected
  /-- The stream began, with so many slots newly lent. -/
  | streamStarted (armed : Nat)
  /-- The stream ended. -/
  | streamIdle
  /-- The setting was selected already. -/
  | alternateKept (alternate : UInt8)
  /-- A new request came before the data of an accepted write. -/
  | writeSuperseded
  /-- A packet that is no request of the function. -/
  | unsupportedRequest (request : UInt8) (value index : UInt16)
  /-- A write to a channel or control that does not exist. -/
  | missingChannel (channel : UInt8)
  /-- A selection that was refused. -/
  | selectionRefused (why : Refusal)
  /-- Data without an accepted write. -/
  | strayData
  /-- Data of the wrong length. -/
  | dataLengthWrong (length expected : Nat)
  /-- A write took effect: the channel, the mute and the channel's volume. -/
  | controlWritten (channel : UInt8) (muted : Bool) (volume : Int)
deriving DecidableEq

namespace Event

/-- How heavy an event weighs. -/
def level : Event → LogLevel
  | .configured .. | .connected | .disconnected | .streamStarted .. | .streamIdle => .info
  | .selectionRefused .. | .dataLengthWrong .. => .warning
  | _ => .debug

/-- What an event says, behind the name of the subsystem. -/
def text : Event → String
  | .configured f =>
    s!"{f.rate.hz} Hz, {f.channels} ch, {f.bits} bit, {f.maxPacketSize} B/packet"
  | .endpointReserved ep => s!"iso OUT endpoint {ep.byte}"
  | .connected => "connection initialised"
  | .disconnected => "disconnected"
  | .streamStarted armed => s!"streaming, {armed} slots armed"
  | .streamIdle => "stream idle"
  | .alternateKept alternate => s!"alt {alternate} already selected"
  | .writeSuperseded => "pending SET_CUR superseded"
  | .unsupportedRequest request value index =>
    s!"unsupported request {request} wValue {value} wIndex {index}"
  | .missingChannel channel => s!"SET_CUR on missing channel {channel}"
  | .selectionRefused why => s!"SET_INTERFACE refused: {why.message}"
  | .strayData => "data stage without SET_CUR"
  | .dataLengthWrong length expected =>
    s!"SET_CUR data stage {length} bytes, expected {expected}"
  | .controlWritten channel muted volume =>
    s!"SET_CUR ch {channel} muted {muted} volume {volume}"

/-- The log line of an event. -/
def message (e : Event) : String :=
  "usb audio: " ++ e.text

end Event

end AudioGadget
