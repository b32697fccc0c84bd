import AudioGadget.Function.Descriptor
/-!
# Reader — descriptors, as a host takes them in

A host knows a descriptor by its type, and an audio descriptor by its
subtype too; subtypes mean different things to the control and to the
streaming interface, and there the length decides. `ofBytes?` reads one
descriptor and insists on every octet that the audio class fixes. What
`bytes` lays out is read back (`ofBytes?_bytes`), as long as its numbers
fit the fields that they stand in (`Fits`).
-/

namespace AudioGadget.Descriptor

/-- Read what stands behind the type of an association. -/
def association? : Bytes → Option Descriptor
  | [first, count, 0x01, 0x01, 0x00, string] => some (.association first count string)
  | _ => none

/-- Read what stands behind the type of an interface. -/
def interface? : Bytes → Option Descriptor
  | [number, alternate, endpoints, 0x01, subclass, 0x00, string] =>
    some (.interface number alternate endpoints subclass string)
  | _ => none

/-- Read what stands behind the type of an endpoint. -/
def endpoint? : Bytes → Option Descriptor
  | [address, attributes, lo, hi, 0x01, 0x00, 0x00] =>
    some (.endpoint address attributes (word lo hi))
  | _ => none

/-- Read what stands behind the type of the audio class's own words on an
endpoint. -/
def classEndpoint? : Bytes → Option Descriptor
  | [0x01, attributes, 0x00, 0x00, 0x00] => some (.classEndpoint attributes)
  | _ => none

/-- Read the controls of a feature unit, behind which stands the number of
no string. -/
def featureUnit? (id source : UInt8) (controls : Bytes) : Option Descriptor :=
  if controls.getLast? = some 0x00 then some (.featureUnit id source controls.dropLast) else none

/-- Read what stands behind the subtype 1: a header, or the streaming
interface's tie. -/
def opening? : Bytes → Option Descriptor
  | [0x00, 0x01, lo, hi, 0x01, streaming] => some (.controlHeader (word lo hi) streaming)
  | [terminal, delay, lo, hi] => some (.streamGeneral terminal delay (word lo hi))
  | _ => none

/-- Read what stands behind the subtype 2: an input terminal, or a sample
format. -/
def source? : Bytes → Option Descriptor
  | [id, k₀, k₁, 0x00, channels, l₀, l₁, 0x00, 0x00] =>
    some (.inputTerminal id (word k₀ k₁) channels (word l₀ l₁))
  | [0x01, channels, subframe, bits, 0x01, r₀, r₁, r₂] =>
    some (.formatType channels subframe bits (word24 r₀ r₁ r₂))
  | _ => none

/-- Read what stands behind the subtype 3. -/
def outputTerminal? : Bytes → Option Descriptor
  | [id, k₀, k₁, 0x00, source, 0x00] => some (.outputTerminal id (word k₀ k₁) source)
  | _ => none

/-- Read what stands behind the type of the audio class's own words on an
interface. -/
def classInterface? : Bytes → Option Descriptor
  | 0x01 :: rest => opening? rest
  | 0x02 :: rest => source? rest
  | 0x03 :: rest => outputTerminal? rest
  | 0x06 :: id :: source :: 0x01 :: controls => featureUnit? id source controls
  | _ => none

/-- Read what stands behind a type. -/
def ofBody? (type : UInt8) (body : Bytes) : Option Descriptor :=
  if type = 0x0B then association? body
  else if type = 0x04 then interface? body
  else if type = 0x24 then classInterface? body
  else if type = 0x05 then endpoint? body
  else if type = 0x25 then classEndpoint? body
  else none

/-- **Read one descriptor**, which must be as long as it says. -/
def ofBytes? : Bytes → Option Descriptor
  | length :: type :: body =>
    if length.toNat = body.length + 2 then ofBody? type body else none
  | _ => none

/-! ## Reading back what is written -/

/-- The numbers fit the fields that they stand in. -/
def Fits : Descriptor → Prop
  | .controlHeader total _ => total < 65536
  | .inputTerminal _ kind _ locations => kind < 65536 ∧ locations < 65536
  | .featureUnit _ _ controls => controls.length < 249
  | .outputTerminal _ kind _ => kind < 65536
  | .streamGeneral _ _ formatTag => formatTag < 65536
  | .formatType _ _ _ rate => rate < 16777216
  | .endpoint _ _ maxPacket => maxPacket < 65536
  | _ => True

/-- What stands behind the type is read back. -/
theorem ofBody?_body {d : Descriptor} (h : d.Fits) : ofBody? d.typeCode d.body = some d := by
  cases d <;>
    simp_all [Fits, ofBody?, typeCode, body, audioClass, le16, le24, association?, interface?,
      classInterface?, opening?, source?, outputTerminal?, featureUnit?, endpoint?, classEndpoint?,
      word_le16, word24_le24]

theorem size_lt {d : Descriptor} (h : d.Fits) : d.size < 256 := by
  cases d <;> simp_all [Fits, size, body, le16, le24]
  omega

/-- **A descriptor is read back as written.** -/
theorem ofBytes?_bytes {d : Descriptor} (h : d.Fits) : ofBytes? d.bytes = some d := by
  have short := size_lt h
  rw [bytes, ofBytes?, if_pos (by rw [UInt8.toNat_ofNat', Nat.mod_eq_of_lt short]; rfl),
    ofBody?_body h]

end AudioGadget.Descriptor
