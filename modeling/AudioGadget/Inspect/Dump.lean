import AudioGadget.Bench.Codec
import AudioGadget.Bench.Core
import AudioGadget.Bench.Sink
import AudioGadget.Gadget.Registration
import AudioGadget.Inspect.Caption
import AudioGadget.Inspect.Chain
import AudioGadget.Text.Column
/-!
# Dump — what a host would read, laid out for people

A gadget is put on the bench and registered as a device registers it at
boot. A `Dump` is what it then says of itself: its descriptors, taken
apart, and its strings. `ofOptions` makes the dump, `render` lays it out
one row for each, so that the octets in the rows are the octets that the
gadget itself writes. Where a log is shown too, two lines of it stand in
front, with the time of day in them; they are no part of the dump.
-/

namespace AudioGadget

/-- What to put on the bench. -/
structure DumpOptions where
  rate : Nat
  channels : Nat
  bits : Nat
  firstInterface : UInt8
  firstString : UInt8
deriving DecidableEq, Repr

/-- The ordinary device: 48 kHz, two channels, 16 bits. -/
instance : Inhabited DumpOptions := ⟨⟨48000, 2, 16, 0, 4⟩⟩

/-- Why there is nothing to lay out. -/
inductive DumpFailure where
  /-- The format is refused. -/
  | format (why : Refusal)
  /-- The core has no endpoint. -/
  | endpoint (why : Refusal)
  /-- The gadget does not write its descriptors. -/
  | descriptors (why : Refusal)
  /-- The gadget says it wrote more than there is room for. -/
  | overrun (length : Nat)
  /-- What the gadget wrote are no descriptors. -/
  | chain (fault : Chain.Fault)
deriving DecidableEq, Repr

/-- The sentence shown to the user. -/
def DumpFailure.message : DumpFailure → String
  | .format why => s!"unsupported format: {why.message}"
  | .endpoint why => s!"endpoint allocation failed: {why.message}"
  | .descriptors why => s!"descriptor build failed: {why.message}"
  | .overrun length => s!"descriptor length {length} out of range"
  | .chain fault => fault.message

/-- What a registered gadget says of itself. -/
structure Dump where
  endpoint : EndpointAddress
  maxPacket : Nat
  /-- All descriptors, end to end. -/
  fragment : Bytes
  /-- The descriptors one by one. -/
  links : List Chain.Link
  /-- The strings, with their numbers. -/
  strings : List (UInt8 × Bytes)
deriving DecidableEq

namespace Dump

/-- A gadget between bench devices. -/
abbrev BenchGadget : Type := Gadget Bench.Core Bench.Sink Bench.Codec

/-- Receive slots of the gadget on the bench. -/
def slotCount : Nat := 2

/-- Octets of the buffer the descriptors are written into. -/
def bufferSize : Nat := 256

/-- Register a gadget as a device does at boot. The two events that it notes
on the way, of its power-on state and of its endpoint, are for a log and
not for the dump: they are left out here. -/
def register (options : DumpOptions) (format : StreamFormat) :
    Except DumpFailure (EndpointAddress × BenchGadget) :=
  let g : BenchGadget := Gadget.unregistered .fresh .fresh .fresh format slotCount
  let step := g.powerOn.next.requestEndpoints
  match step.answer with
  | .error why => .error (.endpoint why)
  | .ok ep =>
    let g := (step.next.setFirstInterface options.firstInterface).2
    .ok (ep, (g.setFirstString options.firstString).2)

/-- The descriptors of a registered gadget. -/
def fragmentOf (g : BenchGadget) : Except DumpFailure Bytes :=
  let (result, buffer) :=
    g.writeDescriptors g.format.maxPacketSize (List.replicate bufferSize 0)
  match result with
  | .error why => .error (.descriptors why)
  | .ok length =>
    if length ≤ buffer.length then .ok (buffer.take length) else .error (.overrun length)

/-- The strings of a registered gadget, of the numbers that it was given. -/
def stringsOf (g : BenchGadget) (first : UInt8) : List (UInt8 × Bytes) :=
  [first, numberAfter first 1].filterMap fun index =>
    (g.stringDescriptor? index).map fun bytes => (index, bytes)

/-- **What a gadget with these options says of itself.** -/
def ofOptions (options : DumpOptions) : Except DumpFailure Dump := do
  let format ← (StreamFormat.ofParts? options.rate options.channels options.bits).mapError .format
  let (endpoint, g) ← register options format
  let fragment ← fragmentOf g
  let links ← (Chain.split fragment).mapError .chain
  return ⟨endpoint, format.maxPacketSize, fragment, links, stringsOf g options.firstString⟩

/-! ## The layout -/

/-- The heading over the rows. -/
def heading (d : Dump) (options : DumpOptions) : String :=
  s!"USB audio function: {options.rate} Hz, {options.channels} ch, {options.bits} bit, " ++
    s!"EP 0x{Text.hexByte d.endpoint.byte}, max packet {d.maxPacket} B, " ++
    s!"{d.fragment.length} descriptor bytes\n"

/-- The row of one descriptor: where it starts, a few words, its octets. -/
def row (link : Chain.Link) : String :=
  let offset := Text.alignRight 4 (toString link.offset)
  let words := Text.alignLeft 28 (caption link.block)
  s!"  {offset}  {words} {Text.hexRow link.block}\n"

/-- The row of one string: its number and its octets. -/
def stringRow (index : UInt8) (bytes : Bytes) : String :=
  s!"  string {Text.alignRight 3 (toString index)}  {Text.hexRow bytes}\n"

/-- **The whole dump as text.** -/
def render (d : Dump) (options : DumpOptions) : String :=
  "\n" ++ d.heading options ++ "\n" ++ String.join (d.links.map row) ++ "\n" ++
    String.join (d.strings.map fun s => stringRow s.1 s.2) ++ "\n"

end Dump

end AudioGadget
