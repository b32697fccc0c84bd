import AudioGadget.Gadget.Registration
import AudioGadget.Inspect.Chain
import AudioGadget.Proofs.Descriptors.Writer
/-!
# Survey — what a host learns from a run of descriptors

A host walks from one descriptor to the next by their lengths and reads
each by itself. Class-specific descriptors mean something only behind an
interface of their part of the function, so a host also remembers which
part was opened last, and gives up on one that stands elsewhere. A
`Survey` is what it has noted at the end: whatever is needed to open the
stream and to work the controls.

The survey knows nothing of how a fragment is laid out. That a fragment is
surveyed as what its numbering and format say (`survey_bytes`) is proved
in two steps: descriptors end to end are taken apart and read one by one
(`ofBytes?_flatMap`), and the twelve of a fragment are noted in turn.
-/

namespace AudioGadget

/-- The two parts of an audio function. -/
inductive Part where
  | control
  | streaming
deriving DecidableEq, Repr

/-- The part that an interface subclass names. -/
def Part.ofSubclass? (subclass : UInt8) : Option Part :=
  if subclass = 0x01 then some .control
  else if subclass = 0x02 then some .streaming
  else none

/-- The part behind whose interface a descriptor belongs, unless it may
stand anywhere. -/
def Descriptor.part? : Descriptor → Option Part
  | .association .. | .interface .. => none
  | .controlHeader .. | .inputTerminal .. | .featureUnit .. | .outputTerminal .. => some .control
  | .streamGeneral .. | .formatType .. | .endpoint .. | .classEndpoint .. => some .streaming

/-! ## What is noted -/

/-- Interfaces that make one function: the first, how many, and the string
that names the function. -/
structure Association where
  first : UInt8
  count : UInt8
  string : UInt8
deriving DecidableEq, Repr

/-- One setting of an interface. -/
structure Setting where
  part : Option Part
  number : UInt8
  alternate : UInt8
  endpoints : Nat
  string : UInt8
deriving DecidableEq, Repr

/-- What opens the control part: the octets of its descriptors, and the
interface that streams for it. -/
structure ControlHeader where
  total : Nat
  streaming : UInt8
deriving DecidableEq, Repr

/-- A feature unit, with the control octets of the master and of every
channel. -/
structure OfferedUnit where
  id : UInt8
  controls : Bytes
deriving DecidableEq, Repr

/-- A sample format. -/
structure SampleFormat where
  channels : Nat
  subframeBytes : Nat
  bits : Nat
  rate : Nat
deriving DecidableEq, Repr

/-- An endpoint that carries the stream. -/
structure StreamEndpoint where
  address : UInt8
  maxPacket : Nat
deriving DecidableEq, Repr

/-- **What a host has learned**, each list in the order of the
descriptors. -/
structure Survey where
  /-- The part whose interface was opened last. -/
  within : Option Part
  associations : List Association
  settings : List Setting
  headers : List ControlHeader
  /-- Octets of the control part's own descriptors, as they were met. -/
  controlOctets : Nat
  /-- The channels of every input terminal. -/
  terminalChannels : List Nat
  units : List OfferedUnit
  formats : List SampleFormat
  endpoints : List StreamEndpoint
deriving DecidableEq, Repr

namespace Survey

/-- Nothing was met yet. -/
def blank : Survey :=
  ⟨none, [], [], [], 0, [], [], [], []⟩

/-- Note what a descriptor says. -/
def learn (s : Survey) : Descriptor → Survey
  | .association first count string =>
    { s with associations := s.associations ++ [⟨first, count, string⟩] }
  | .interface number alternate endpoints subclass string =>
    let part := Part.ofSubclass? subclass
    { s with
      within := part
      settings := s.settings ++ [⟨part, number, alternate, endpoints.toNat, string⟩] }
  | .controlHeader total streaming => { s with headers := s.headers ++ [⟨total, streaming⟩] }
  | .inputTerminal _ _ channels _ =>
    { s with terminalChannels := s.terminalChannels ++ [channels.toNat] }
  | .featureUnit id _ controls => { s with units := s.units ++ [⟨id, controls⟩] }
  | .formatType channels subframe bits rate =>
    { s with formats := s.formats ++ [⟨channels.toNat, subframe.toNat, bits.toNat, rate⟩] }
  | .endpoint address _ maxPacket =>
    { s with endpoints := s.endpoints ++ [⟨address, maxPacket⟩] }
  | .outputTerminal .. | .streamGeneral .. | .classEndpoint .. => s

/-- Count the octets of a descriptor of the control part. -/
def weigh (s : Survey) (d : Descriptor) (length : Nat) : Survey :=
  if d.part? = some .control then { s with controlOctets := s.controlOctets + length } else s

/-- Take in a descriptor of some length, if this is a place for it. -/
def follow? (s : Survey) (d : Descriptor) (length : Nat) : Option Survey :=
  if d.part? = none ∨ d.part? = s.within then some ((s.weigh d length).learn d) else none

/-- Take in one block. -/
def note? (s : Survey) (block : Bytes) : Option Survey :=
  (Descriptor.ofBytes? block).bind fun d => s.follow? d block.length

/-- **Walk a run of descriptors by their lengths** and note what they say. -/
def ofBytes? (bytes : Bytes) : Option Survey :=
  match Chain.split bytes with
  | .error _ => none
  | .ok links => (links.map Chain.Link.block).foldlM note? blank

/-! ## Descriptors end to end -/

theorem isBlock_bytes {d : Descriptor} (h : d.Fits) : Chain.IsBlock d.bytes where
  two_le := Nat.le_add_left 2 d.body.length
  head_eq := by
    have short := Descriptor.size_lt h
    have first : (UInt8.ofNat d.size).toNat = d.size := by
      rw [UInt8.toNat_ofNat', Nat.mod_eq_of_lt short]
    exact congrArg some first

theorem note?_bytes {d : Descriptor} (h : d.Fits) (s : Survey) :
    s.note? d.bytes = s.follow? d d.size := by
  rw [note?, Descriptor.ofBytes?_bytes h]
  rfl

/-- **Descriptors end to end are taken apart** into themselves. -/
theorem split_flatMap {ds : List Descriptor} (h : ∀ d ∈ ds, d.Fits) :
    Chain.split (ds.flatMap Descriptor.bytes) =
      .ok (Chain.linksFrom 0 (ds.map Descriptor.bytes)) := by
  have blocks : ∀ block ∈ ds.map Descriptor.bytes, Chain.IsBlock block := by
    intro block mem
    obtain ⟨d, among, rfl⟩ := List.mem_map.1 mem
    exact isBlock_bytes (h d among)
  rw [List.flatMap_def]
  exact Chain.splitFrom_flatten blocks 0

/-- **And are taken in one by one.** -/
theorem ofBytes?_flatMap {ds : List Descriptor} (h : ∀ d ∈ ds, d.Fits) :
    ofBytes? (ds.flatMap Descriptor.bytes) = ds.foldlM (fun s d => s.follow? d d.size) blank := by
  have noted (s : Survey) : (ds.map Descriptor.bytes).foldlM note? s =
      ds.foldlM (fun s d => s.follow? d d.size) s := by
    induction ds generalizing s with
    | nil => rfl
    | cons d ds ih =>
      obtain ⟨first, others⟩ := List.forall_mem_cons.1 h
      rw [List.map_cons, List.foldlM_cons, List.foldlM_cons, note?_bytes first]
      exact congrArg _ (funext fun s => ih others s)
  simp only [ofBytes?, split_flatMap h, Chain.map_block_linksFrom, noted]

/-! ## The descriptors of a fragment -/

/-- **What there is to learn of a function.** -/
def ofNumbering (n : Numbering) (maxPacket : Nat) : Survey where
  within := some .streaming
  associations := [⟨n.controlInterface, 2, n.functionString⟩]
  settings :=
    [ ⟨some .control, n.controlInterface, 0, 0, n.functionString⟩,
      ⟨some .streaming, n.streamingInterface, 0, 0, n.streamingString⟩,
      ⟨some .streaming, n.streamingInterface, 1, 1, n.streamingString⟩ ]
  headers := [⟨38 + n.format.channels, n.streamingInterface⟩]
  controlOctets := 38 + n.format.channels
  terminalChannels := [n.format.channels]
  units := [⟨2, 0x03 :: List.replicate n.format.channels 0x02⟩]
  formats := [⟨n.format.channels, n.format.subframeBytes, n.format.bits, n.format.rate.hz⟩]
  endpoints := [⟨n.endpoint.byte, maxPacket⟩]

/-- **A fragment is surveyed as what its numbering and format say.** -/
theorem survey_bytes (n : Numbering) {maxPacket : Nat} (h : maxPacket ≤ isoPacketLimit) :
    ofBytes? (Fragment.bytes n maxPacket) = some (ofNumbering n maxPacket) := by
  -- an octet keeps each of the counts that it is given
  have few : n.format.channels ≤ 8 := n.format.channels_le
  have depth : n.format.bits = 16 ∨ n.format.bits = 24 ∨ n.format.bits = 32 := by
    simpa [bitDepths] using n.format.bits_mem
  have narrow : n.format.subframeBytes < UInt8.size := by
    simp only [StreamFormat.subframeBytes, Layout.subframeBytes, StreamFormat.layout, UInt8.size]
    omega
  have channels : (UInt8.ofNat n.format.channels).toNat = n.format.channels :=
    UInt8.toNat_ofNat_of_lt (by simp only [UInt8.size]; omega)
  have bits : (UInt8.ofNat n.format.bits).toNat = n.format.bits :=
    UInt8.toNat_ofNat_of_lt (by simp only [UInt8.size]; omega)
  have subframe : (UInt8.ofNat n.format.subframeBytes).toNat = n.format.subframeBytes :=
    UInt8.toNat_ofNat_of_lt narrow
  have total : Fragment.controlTotal n.format.channels = 38 + n.format.channels := by
    simp only [Fragment.controlTotal, Fragment.featureUnitSize]
    omega
  rw [Fragment.bytes, ofBytes?_flatMap (Fragment.fits_descriptors n h)]
  simp [Fragment.descriptors, Fragment.controlPart, Fragment.streamingPart, follow?, learn, weigh,
    blank, Descriptor.part?, Descriptor.size, Descriptor.body, le16, Fragment.featureControls,
    ofNumbering, Part.ofSubclass?, -UInt8.toNat_ofNat', channels, bits, subframe, total]
  exact ⟨by omega, rfl, rfl, .inr rfl⟩

/-- What a gadget writes of itself is surveyed as its numbering. -/
theorem of_writeDescriptors {U S C : Type} {g : Gadget U S C} {maxPacket length : Nat}
    {dest out : Bytes} (h : g.writeDescriptors maxPacket dest = (.ok length, out)) :
    ∃ n, g.numbering? = .ok n ∧ maxPacket ≤ g.pool.packetLength ∧
      ofBytes? (out.take length) = some (ofNumbering n maxPacket) := by
  obtain ⟨n, numbered, lends, written⟩ := Gadget.of_writeDescriptors_eq_ok h
  obtain ⟨fits, -, front⟩ := Fragment.of_write_eq_ok written
  exact ⟨n, numbered, lends, front ▸ survey_bytes n fits⟩

end Survey

namespace Fragment

/-- **A fragment is written whole or not at all, and is surveyed as what it
was written from.** Too large a packet is refused first, then too short a
buffer, and a refusal leaves the buffer alone. Otherwise the fragment has
the length that is announced for it, the octets behind it stay, and a host
that walks it finds the numbers and the format of the function, each once:
two settings of the streaming interface, of which the second has the
endpoint, mute and volume on the master, volume on every channel, and a
header that declares as many octets as the control part turns out to
have. A writer that goes from descriptor to descriptor, and checks the
length and the room of each, does the same. -/
theorem write_surveyed (n : Numbering) (maxPacket : Nat) (dest : Bytes) :
    let needed := size n.format.channels
    let result := (write n maxPacket dest).1
    let after := (write n maxPacket dest).2
    (result = .error (.packetTooLarge maxPacket isoPacketLimit) ↔ isoPacketLimit < maxPacket) ∧
      (result = .error (.bufferTooSmall needed dest.length) ↔
        maxPacket ≤ isoPacketLimit ∧ dest.length < needed) ∧
      (result = .ok needed ↔ maxPacket ≤ isoPacketLimit ∧ needed ≤ dest.length) ∧
      (result ≠ .ok needed → after = dest) ∧
      (result = .ok needed →
        after.length = dest.length ∧ after.drop needed = dest.drop needed ∧
          ∃ s, Survey.ofBytes? (after.take needed) = some s ∧
            s.associations = [⟨n.controlInterface, 2, n.functionString⟩] ∧
            s.settings =
              [ ⟨some .control, n.controlInterface, 0, 0, n.functionString⟩,
                ⟨some .streaming, n.streamingInterface, 0, 0, n.streamingString⟩,
                ⟨some .streaming, n.streamingInterface, 1, 1, n.streamingString⟩ ] ∧
            s.headers = [⟨s.controlOctets, n.streamingInterface⟩] ∧
            s.terminalChannels = [n.format.channels] ∧
            s.units = [⟨2, 0x03 :: List.replicate n.format.channels 0x02⟩] ∧
            s.formats =
              [⟨n.format.channels, n.format.subframeBytes, n.format.bits, n.format.rate.hz⟩] ∧
            s.endpoints = [⟨n.endpoint.byte, maxPacket⟩]) ∧
      writeInTurn n maxPacket dest = write n maxPacket dest := by
  intro needed result after
  have inTurn : writeInTurn n maxPacket dest = write n maxPacket dest :=
    writeInTurn_eq n maxPacket dest
  by_cases large : isoPacketLimit < maxPacket
  · have refused : write n maxPacket dest =
        (.error (.packetTooLarge maxPacket isoPacketLimit), dest) := by
      rw [write, if_pos large]
    simp [result, after, inTurn, refused, large, Nat.not_le.2 large]
  · have fits : maxPacket ≤ isoPacketLimit := Nat.le_of_not_lt large
    by_cases short : dest.length < needed
    · have refused : write n maxPacket dest =
          (.error (.bufferTooSmall needed dest.length), dest) := by
        rw [write, if_neg large, if_pos short]
      simp [result, after, inTurn, refused, large, fits, short, Nat.not_le.2 short]
    · have room : needed ≤ dest.length := Nat.le_of_not_lt short
      have written : write n maxPacket dest = (.ok needed, bytes n maxPacket ++ dest.drop needed) :=
        write_of_le fits room
      have whole : (bytes n maxPacket).length = needed := length_bytes n maxPacket
      have done : result = .ok needed := congrArg Prod.fst written
      have filled : after = bytes n maxPacket ++ dest.drop needed := congrArg Prod.snd written
      have front : after.take needed = bytes n maxPacket := by
        rw [filled, ← whole, List.take_left]
      refine ⟨by simp [done, large], by simp [done, short], by simp [done, fits, room],
        fun refused => absurd done refused, fun _ => ⟨?_, ?_, ?_⟩, inTurn⟩
      · rw [filled, List.length_append, List.length_drop, whole]
        omega
      · rw [filled, ← whole, List.drop_left]
      · rw [front, Survey.survey_bytes n fits]
        exact ⟨_, rfl, rfl, rfl, rfl, rfl, rfl, rfl, rfl⟩

end Fragment

/-- The format every host handles, with eight channels, numbered from 1, on
endpoint 3. -/
def octophonic : Numbering where
  format :=
    { (default : StreamFormat) with
      channels := 8
      channels_pos := by decide
      channels_le := by decide
      packet_le := by decide }
  controlInterface := 1
  streamingInterface := 2
  endpoint := .ofNumber 3 .hostToDevice
  firstString := 255

theorem write_surveyed_octophonic :
    (Fragment.write octophonic 784 (List.replicate 117 0xAA)).1 = .ok 115 ∧
      (Fragment.write octophonic 784 (List.replicate 117 0xAA)).2.drop 115 = [0xAA, 0xAA] ∧
      ∃ s, Survey.ofBytes? ((Fragment.write octophonic 784 (List.replicate 117 0xAA)).2.take 115) =
          some s ∧
        s.headers = [⟨s.controlOctets, 2⟩] ∧ s.units = [⟨2, [3, 2, 2, 2, 2, 2, 2, 2, 2]⟩] ∧
        s.formats = [⟨8, 2, 16, 48000⟩] ∧ s.endpoints = [⟨3, 784⟩] := by
  obtain ⟨-, -, written, -, whole, -⟩ :=
    Fragment.write_surveyed octophonic 784 (List.replicate 117 0xAA)
  have done : (Fragment.write octophonic 784 (List.replicate 117 0xAA)).1 = .ok 115 :=
    written.2 (by decide)
  obtain ⟨-, behind, s, learned, -, -, headers, -, units, formats, endpoints⟩ := whole done
  exact ⟨done, behind, s, learned, headers, units, formats, endpoints⟩

end AudioGadget
