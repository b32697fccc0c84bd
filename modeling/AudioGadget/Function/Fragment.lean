import AudioGadget.Function.Descriptor
import AudioGadget.Function.Control
import AudioGadget.Function.Request
import AudioGadget.Function.Numbering
/-!
# Fragment — the function's share of the configuration descriptor

The signal path is fixed: the host's stream enters at terminal 1, passes
the feature unit 2 and leaves at the headphone terminal 3. The streaming
interface has a setting without bandwidth and one with an adaptive
isochronous endpoint. Twelve descriptors say so, always in this order;
only the feature unit's length depends on the format.

`write` puts them into a caller's buffer. It refuses before it writes,
so a refusal leaves the buffer alone.
-/

namespace AudioGadget

/-- Where the channels of a stream sit, one bit for each: a single channel
is the centre, more take the places in the order of the audio class. -/
def channelLocations (channels : Nat) : Nat :=
  if channels = 1 then 0x0004 else (1 <<< min channels 16) - 1

namespace Fragment

/-- The terminal at which the host's stream enters. -/
def inputTerminalId : UInt8 := 1

/-- The terminal at which the sound leaves. -/
def outputTerminalId : UInt8 := 3

/-- The feature unit's controls: mute and volume on the master, volume on
every channel. -/
def featureControls (channels : Nat) : List UInt8 :=
  (Control.mute.bit ||| Control.volume.bit) :: List.replicate channels Control.volume.bit

/-- Octets of the feature unit's descriptor. -/
def featureUnitSize (channels : Nat) : Nat :=
  channels + 8

/-- Octets of the class-specific control descriptors together. -/
def controlTotal (channels : Nat) : Nat :=
  9 + 12 + featureUnitSize channels + 9

/-- Octets of the whole fragment. -/
def size (channels : Nat) : Nat :=
  8 + 9 + controlTotal channels + 9 + 9 + 7 + 11 + 9 + 7

/-- The class-specific control descriptors: the signal path. -/
def controlPart (n : Numbering) : List Descriptor :=
  let channels := n.format.channels
  [ .controlHeader (controlTotal channels) n.streamingInterface,
    .inputTerminal inputTerminalId 0x0101 (UInt8.ofNat channels) (channelLocations channels),
    .featureUnit featureUnitId inputTerminalId (featureControls channels),
    .outputTerminal outputTerminalId 0x0302 featureUnitId ]

/-- The descriptors of the streaming interface. -/
def streamingPart (n : Numbering) (maxPacket : Nat) : List Descriptor :=
  let f := n.format
  [ .interface n.streamingInterface 0 0 0x02 n.streamingString,
    .interface n.streamingInterface 1 1 0x02 n.streamingString,
    .streamGeneral inputTerminalId 1 0x0001,
    .formatType (UInt8.ofNat f.channels) (UInt8.ofNat f.subframeBytes) (UInt8.ofNat f.bits) f.rate.hz,
    .endpoint n.endpoint.byte 0x09 maxPacket,
    .classEndpoint 0x00 ]

/-- **The twelve descriptors of the function.** -/
def descriptors (n : Numbering) (maxPacket : Nat) : List Descriptor :=
  .association n.controlInterface 2 n.functionString ::
  .interface n.controlInterface 0 0 0x01 n.functionString ::
  (controlPart n ++ streamingPart n maxPacket)

/-- The descriptors as octets, end to end. -/
def bytes (n : Numbering) (maxPacket : Nat) : Bytes :=
  (descriptors n maxPacket).flatMap Descriptor.bytes

/-- Write the fragment into a caller's buffer and say how long it is. The
packet size is checked first, then the room. -/
def write (n : Numbering) (maxPacket : Nat) (dest : Bytes) : Except Refusal Nat × Bytes :=
  let needed := size n.format.channels
  if maxPacket > isoPacketLimit then
    (.error (.packetTooLarge maxPacket isoPacketLimit), dest)
  else if dest.length < needed then
    (.error (.bufferTooSmall needed dest.length), dest)
  else
    (.ok needed, Bytes.overwrite dest (bytes n maxPacket))

/-! ## Lengths -/

/-- **The fragment has the length that is announced for it.** -/
@[simp] theorem length_bytes (n : Numbering) (maxPacket : Nat) :
    (bytes n maxPacket).length = size n.format.channels := by
  simp [bytes, descriptors, controlPart, streamingPart, Descriptor.size, Descriptor.body,
    featureControls, le16, le24, size, controlTotal, featureUnitSize]
  omega

/-! ## Writing -/

/-- A fragment that is not refused stands whole at the front of the buffer. -/
theorem write_of_le {n : Numbering} {maxPacket : Nat} {dest : Bytes}
    (fits : maxPacket ≤ isoPacketLimit) (room : size n.format.channels ≤ dest.length) :
    write n maxPacket dest =
      (.ok (size n.format.channels),
        bytes n maxPacket ++ dest.drop (size n.format.channels)) := by
  have whole : (bytes n maxPacket).length ≤ dest.length := by rwa [length_bytes]
  rw [write, if_neg (Nat.not_lt.2 fits), if_neg (Nat.not_lt.2 room),
    Bytes.overwrite_of_le whole, length_bytes]

/-- **What was written without a refusal is the fragment.** -/
theorem of_write_eq_ok {n : Numbering} {maxPacket length : Nat} {dest out : Bytes}
    (h : write n maxPacket dest = (.ok length, out)) :
    maxPacket ≤ isoPacketLimit ∧ length = size n.format.channels ∧
      out.take length = bytes n maxPacket := by
  by_cases large : maxPacket > isoPacketLimit
  · rw [write, if_pos large] at h
    cases h
  · by_cases short : dest.length < size n.format.channels
    · rw [write, if_neg large, if_pos short] at h
      cases h
    · rw [write_of_le (Nat.not_lt.1 large) (Nat.not_lt.1 short)] at h
      cases h
      refine ⟨Nat.not_lt.1 large, rfl, ?_⟩
      rw [← length_bytes n maxPacket, List.take_left]

end Fragment

end AudioGadget
