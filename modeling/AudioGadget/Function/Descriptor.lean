import AudioGadget.Bytes
/-!
# Descriptor — what the audio function says about itself

A descriptor is a block that starts with its own length and its type.
Those of an audio function come in ten shapes; each is a value with
named fields here, and `bytes` lays it out as the audio class does.
-/

namespace AudioGadget

/-- A descriptor of an audio function. -/
inductive Descriptor where
  /-- Binds the function's interfaces together. -/
  | association (first count string : UInt8)
  /-- One setting of an interface. -/
  | interface (number alternate endpoints subclass string : UInt8)
  /-- Opens the control part: its total length and the interface that
  streams for it. -/
  | controlHeader (total : Nat) (streaming : UInt8)
  /-- Where the host's stream comes in. -/
  | inputTerminal (id : UInt8) (kind : Nat) (channels : UInt8) (locations : Nat)
  /-- Where mute and volume sit: the controls of the master, then those of
  every channel. -/
  | featureUnit (id source : UInt8) (controls : List UInt8)
  /-- Where the sound goes out. -/
  | outputTerminal (id : UInt8) (kind : Nat) (source : UInt8)
  /-- Ties the streaming interface to a terminal. -/
  | streamGeneral (terminal delay : UInt8) (formatTag : Nat)
  /-- The sample format, with one discrete rate. -/
  | formatType (channels subframe bits : UInt8) (rate : Nat)
  /-- The isochronous endpoint. -/
  | endpoint (address attributes : UInt8) (maxPacket : Nat)
  /-- The audio class's own words on the endpoint. -/
  | classEndpoint (attributes : UInt8)
deriving DecidableEq, Repr

namespace Descriptor

/-- The interface class of audio. -/
def audioClass : UInt8 := 0x01

/-- The descriptor type. -/
def typeCode : Descriptor → UInt8
  | .association .. => 0x0B
  | .interface .. => 0x04
  | .controlHeader .. => 0x24
  | .inputTerminal .. => 0x24
  | .featureUnit .. => 0x24
  | .outputTerminal .. => 0x24
  | .streamGeneral .. => 0x24
  | .formatType .. => 0x24
  | .endpoint .. => 0x05
  | .classEndpoint .. => 0x25

/-- What stands behind the length and the type. -/
def body : Descriptor → Bytes
  | .association first count string => [first, count, audioClass, 0x01, 0x00, string]
  | .interface number alternate endpoints subclass string =>
    [number, alternate, endpoints, audioClass, subclass, 0x00, string]
  | .controlHeader total streaming => [0x01] ++ le16 0x0100 ++ le16 total ++ [0x01, streaming]
  | .inputTerminal id kind channels locations =>
    [0x02, id] ++ le16 kind ++ [0x00, channels] ++ le16 locations ++ [0x00, 0x00]
  | .featureUnit id source controls => [0x06, id, source, 0x01] ++ controls ++ [0x00]
  | .outputTerminal id kind source => [0x03, id] ++ le16 kind ++ [0x00, source, 0x00]
  | .streamGeneral terminal delay formatTag => [0x01, terminal, delay] ++ le16 formatTag
  | .formatType channels subframe bits rate =>
    [0x02, 0x01, channels, subframe, bits, 0x01] ++ le24 rate
  | .endpoint address attributes maxPacket =>
    [address, attributes] ++ le16 maxPacket ++ [0x01, 0x00, 0x00]
  | .classEndpoint attributes => [0x01, attributes, 0x00] ++ le16 0x0000

/-- Octets of a descriptor, its length octet included. -/
def size (d : Descriptor) : Nat :=
  d.body.length + 2

/-- **A descriptor starts with its own length.** -/
def bytes (d : Descriptor) : Bytes :=
  UInt8.ofNat d.size :: d.typeCode :: d.body

@[simp] theorem length_bytes (d : Descriptor) : d.bytes.length = d.size := rfl

end Descriptor

end AudioGadget
