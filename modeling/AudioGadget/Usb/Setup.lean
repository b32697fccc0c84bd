import AudioGadget.Bytes
import AudioGadget.Usb.Endpoint
/-!
# Setup — the packet that opens a control transfer

Eight octets: what kind of request it is and who it is for, its code,
and three words. `ofBytes?` reads them, `bytes` writes them, and the two
agree in both directions.
-/

namespace AudioGadget

/-- Who defines a control request. -/
inductive RequestKind where
  | standard
  | classSpecific
  | vendor
  | reserved
deriving DecidableEq, Repr

/-- Whom a control request is for. -/
inductive Recipient where
  | device
  | interface
  | endpoint
  | other
  | reserved
deriving DecidableEq, Repr

/-- The setup packet of a control transfer. -/
structure SetupPacket where
  requestType : UInt8
  request : UInt8
  value : UInt16
  index : UInt16
  length : UInt16
deriving DecidableEq, Repr

namespace SetupPacket

/-- Read the eight octets of a setup packet. -/
def ofBytes? : Bytes → Option SetupPacket
  | [t, r, v₀, v₁, i₀, i₁, l₀, l₁] =>
    some ⟨t, r, field16 v₀ v₁, field16 i₀ i₁, field16 l₀ l₁⟩
  | _ => none

/-- The eight octets of a setup packet. -/
def bytes (p : SetupPacket) : Bytes :=
  [p.requestType, p.request, lowByte p.value, highByte p.value,
    lowByte p.index, highByte p.index, lowByte p.length, highByte p.length]

/-- The direction of the data stage: the top bit of the type. -/
def direction (p : SetupPacket) : Direction :=
  Direction.ofTopBit p.requestType

/-- Who defines the request: bits 6 and 5 of the type. -/
def kind (p : SetupPacket) : RequestKind :=
  match p.requestType.toNat / 32 % 4 with
  | 0 => .standard
  | 1 => .classSpecific
  | 2 => .vendor
  | _ => .reserved

/-- Whom the request is for: the low five bits of the type. -/
def recipient (p : SetupPacket) : Recipient :=
  match p.requestType.toNat % 32 with
  | 0 => .device
  | 1 => .interface
  | 2 => .endpoint
  | 3 => .other
  | _ => .reserved

/-- **A packet is read back as written.** -/
@[simp] theorem ofBytes?_bytes (p : SetupPacket) : ofBytes? p.bytes = some p := by
  simp [ofBytes?, bytes, field16_bytes]

/-- Only the eight octets of a packet read as that packet. -/
theorem bytes_of_ofBytes? {bs : Bytes} {p : SetupPacket} (h : ofBytes? bs = some p) :
    p.bytes = bs := by
  unfold ofBytes? at h
  split at h
  · cases h
    simp [bytes]
  · cases h

end SetupPacket

end AudioGadget
