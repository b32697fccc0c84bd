import AudioGadget.Function.Descriptor.Reader
import AudioGadget.Function.Fragment
/-!
# Writer — a fragment, one descriptor after the other

`Fragment.write` lays a fragment out as a whole. A writer that does not
look ahead keeps the place in the buffer that it has come to, and puts
descriptor by descriptor there. Before it copies one it asks whether the
length is an octet and whether there is room for all of it, and the body
of a feature unit has to be made up in a small buffer first.

What such a writer has done is known from the octets it was given: they
stand in front, and behind them the caller's buffer is as it was
(`Writer.behind`). One descriptor goes behind them whole (`put_behind`),
so a list does (`putAll_behind`). The descriptors of a fragment pass every
check on the way, once the packet size is in range and there is room for
the whole, and what comes of it is the fragment (`writeInTurn_eq`).
-/

namespace AudioGadget

namespace Descriptor

/-! ## The body that is made up -/

/-- Octets that the body of a feature unit is made up in. -/
def unitRoom : Nat := 16

/-- The pieces that the body of a feature unit is made up of: all up to the
controls of the master, then those of one channel after the other, and the
number of no string. -/
def unitPieces (id source : UInt8) (controls : Bytes) : List Bytes :=
  ([0x06, id, source, 0x01] ++ controls.take 1) ::
    ((controls.drop 1).map (fun control => [control]) ++ [[0x00]])

/-- Make up the body of a feature unit, piece by piece. -/
def makeUnit? (id source : UInt8) (controls : Bytes) : Option Bytes :=
  (unitPieces id source controls).foldlM (fun held piece => Bytes.append? unitRoom held piece) []

/-- **Make up the body of a descriptor.** A total or a packet size that no word
holds becomes the largest word. -/
def make? : Descriptor → Option Bytes
  | .controlHeader total streaming => some (controlHeader (min total 65535) streaming).body
  | .featureUnit id source controls => makeUnit? id source controls
  | .endpoint address attributes maxPacket =>
    some (endpoint address attributes (min maxPacket 65535)).body
  | d => some d.body

/-- The pieces are the body, end to end. -/
theorem flatMap_unitPieces (id source : UInt8) (controls : Bytes) :
    (unitPieces id source controls).flatMap (fun piece => piece) =
      (featureUnit id source controls).body := by
  have channels : ((controls.drop 1).map fun control => [control]).flatten = controls.drop 1 := by
    rw [← List.flatMap_def]
    exact List.flatMap_singleton' _
  have parts : controls.take 1 ++ controls.drop 1 = controls := List.take_append_drop 1 controls
  rw [List.flatMap_id', unitPieces, List.flatten_cons, List.flatten_append, channels,
    ← List.append_assoc, List.append_assoc _ (controls.take 1), parts]
  rfl

/-- A feature unit is made up if there is room for its body. -/
theorem makeUnit?_eq {id source : UInt8} {controls : Bytes}
    (room : (featureUnit id source controls).body.length ≤ unitRoom) :
    makeUnit? id source controls = some (featureUnit id source controls).body := by
  have fits : ([] : Bytes).length + (featureUnit id source controls).body.length ≤ unitRoom := by
    rwa [List.length_nil, Nat.zero_add]
  rw [makeUnit?, Bytes.foldlM_append? _ _ (Nat.zero_le _), flatMap_unitPieces, if_pos fits,
    List.nil_append]

/-- **The body that is made up is the descriptor's**, where its numbers fit. -/
theorem make?_eq {d : Descriptor} (fits : d.Fits) (small : d.body.length ≤ unitRoom) :
    d.make? = some d.body := by
  cases d with
  | controlHeader total streaming =>
    have word : min total 65535 = total := Nat.min_eq_left (Nat.le_of_lt_succ fits)
    rw [make?, word]
  | featureUnit id source controls => exact makeUnit?_eq small
  | endpoint address attributes maxPacket =>
    have word : min maxPacket 65535 = maxPacket := Nat.min_eq_left (Nat.le_of_lt_succ fits)
    rw [make?, word]
  | association | interface | inputTerminal | outputTerminal | streamGeneral | formatType
  | classEndpoint => rfl

end Descriptor

/-! ## Writing in turn -/

/-- A caller's buffer, and the place in it that writing has come to. -/
structure Writer where
  buffer : Bytes
  position : Nat

namespace Writer

/-- **Put a descriptor at the place that was come to**, its length and its type
in front of its body. A length that is no octet is refused, and then one for
which there is no room; what is refused leaves no trace. -/
def put (w : Writer) (d : Descriptor) : Except Refusal Unit × Writer :=
  match d.make? with
  | none => (.error .unsupportedFormat, w)
  | some body =>
    let length := body.length + 2
    let stop := w.position + length
    if 256 ≤ length then
      (.error .unsupportedFormat, w)
    else if w.buffer.length < stop then
      (.error (.bufferTooSmall stop w.buffer.length), w)
    else
      (.ok (),
        { buffer := w.buffer.take w.position ++ (UInt8.ofNat length :: d.typeCode :: body) ++
            w.buffer.drop stop
          position := stop })

/-- Put descriptors one behind the other, up to the first that is refused. -/
def putAll (w : Writer) : List Descriptor → Except Refusal Unit × Writer
  | [] => (.ok (), w)
  | d :: rest =>
    match w.put d with
    | (.ok (), next) => next.putAll rest
    | (.error why, next) => (.error why, next)

/-- **A writer that was given some octets**: they stand in front. -/
def behind (dest written : Bytes) : Writer :=
  ⟨Bytes.overwrite dest written, written.length⟩

variable {dest written : Bytes}

/-- **A descriptor goes behind what was written.** -/
theorem put_behind {d : Descriptor} (made : d.make? = some d.body) (octet : d.size < 256)
    (room : written.length + d.size ≤ dest.length) :
    (behind dest written).put d = (.ok (), behind dest (written ++ d.bytes)) := by
  have short : ¬ 256 ≤ d.body.length + 2 := Nat.not_le.2 octet
  have fits : ¬ (behind dest written).buffer.length <
      (behind dest written).position + (d.body.length + 2) := by
    rw [behind, Bytes.length_overwrite]
    exact Nat.not_lt.2 room
  have next : behind dest (written ++ d.bytes) =
      { buffer := (Bytes.overwrite dest written).take written.length ++ d.bytes ++
          (Bytes.overwrite dest written).drop (written.length + d.size)
        position := written.length + d.size } := by
    rw [behind, Bytes.overwrite_append room, List.length_append]
    rfl
  simp only [put, made]
  rw [if_neg short, if_neg fits, next]
  rfl

/-- **And so does one after the other.** -/
theorem putAll_behind {ds : List Descriptor} (made : ∀ d ∈ ds, d.make? = some d.body)
    (octet : ∀ d ∈ ds, d.size < 256)
    (room : written.length + (ds.flatMap Descriptor.bytes).length ≤ dest.length) :
    (behind dest written).putAll ds =
      (.ok (), behind dest (written ++ ds.flatMap Descriptor.bytes)) := by
  -- what is left gets shorter while what was written grows: the room for both together stays
  induction ds generalizing written with
  | nil => rw [List.flatMap_nil, List.append_nil, putAll]
  | cons d ds ih =>
    obtain ⟨made₁, made⟩ := List.forall_mem_cons.1 made
    obtain ⟨octet₁, octet⟩ := List.forall_mem_cons.1 octet
    rw [List.flatMap_cons, List.length_append, Descriptor.length_bytes, ← Nat.add_assoc] at room
    have room₁ : written.length + d.size ≤ dest.length := Nat.le_of_add_right_le room
    have rest : (written ++ d.bytes).length + (ds.flatMap Descriptor.bytes).length ≤
        dest.length := by
      rwa [List.length_append, Descriptor.length_bytes]
    rw [putAll, put_behind made₁ octet₁ room₁, List.flatMap_cons, ← List.append_assoc]
    exact ih made octet rest

end Writer

/-! ## The descriptors of a fragment -/

theorem channelLocations_lt (channels : Nat) : channelLocations channels < 65536 := by
  have top : 2 ^ min channels 16 ≤ 2 ^ 16 :=
    Nat.pow_le_pow_right (by decide) (Nat.min_le_right channels 16)
  unfold channelLocations
  split
  · decide
  · rw [Nat.shiftLeft_eq]
    omega

namespace Fragment

/-- **Every number of a fragment fits the field it stands in.** -/
theorem fits_descriptors (n : Numbering) {maxPacket : Nat} (h : maxPacket ≤ isoPacketLimit) :
    ∀ d ∈ descriptors n maxPacket, d.Fits := by
  have channels : n.format.channels ≤ 8 := n.format.channels_le
  have rate : n.format.rate.hz ≤ 768000 := n.format.rate.le_max
  have packet : maxPacket ≤ 1023 := h
  have total : controlTotal n.format.channels < 65536 := by
    simp only [controlTotal, featureUnitSize]
    omega
  have controls : (featureControls n.format.channels).length < 249 := by
    simp only [featureControls, List.length_cons, List.length_replicate]
    omega
  simp only [descriptors, controlPart, streamingPart, List.cons_append, List.nil_append,
    List.forall_mem_cons, Descriptor.Fits]
  simp [total, controls, channelLocations_lt]
  omega

/-- No body in a fragment needs more room than a feature unit's has. -/
theorem length_body_le (n : Numbering) (maxPacket : Nat) :
    ∀ d ∈ descriptors n maxPacket, d.body.length ≤ Descriptor.unitRoom := by
  have channels : n.format.channels ≤ 8 := n.format.channels_le
  simp only [descriptors, controlPart, streamingPart, List.cons_append, List.nil_append,
    List.forall_mem_cons, Descriptor.body, Descriptor.unitRoom]
  simp [le16, le24, featureControls]
  omega

/-- **Write the fragment one descriptor after the other.** The packet size is
checked first, then the room for the whole, and the length that is told is the
place that was come to. -/
def writeInTurn (n : Numbering) (maxPacket : Nat) (dest : Bytes) : Except Refusal Nat × Bytes :=
  let needed := size n.format.channels
  if maxPacket > isoPacketLimit then
    (.error (.packetTooLarge maxPacket isoPacketLimit), dest)
  else if dest.length < needed then
    (.error (.bufferTooSmall needed dest.length), dest)
  else
    match (Writer.mk dest 0).putAll (descriptors n maxPacket) with
    | (.ok (), w) => (.ok w.position, w.buffer)
    | (.error why, w) => (.error why, w.buffer)

/-- **What comes of it is the fragment**: no descriptor is refused on the way,
and the place at the end is the length that was announced. -/
theorem writeInTurn_eq (n : Numbering) (maxPacket : Nat) (dest : Bytes) :
    writeInTurn n maxPacket dest = write n maxPacket dest := by
  rw [writeInTurn, write]
  by_cases large : maxPacket > isoPacketLimit
  · rw [if_pos large, if_pos large]
  · by_cases short : dest.length < size n.format.channels
    · rw [if_neg large, if_pos short, if_neg large, if_pos short]
    · have fits := fits_descriptors n (Nat.le_of_not_lt large)
      have made : ∀ d ∈ descriptors n maxPacket, d.make? = some d.body := fun d among =>
        Descriptor.make?_eq (fits d among) (length_body_le n maxPacket d among)
      have octet : ∀ d ∈ descriptors n maxPacket, d.size < 256 := fun d among =>
        Descriptor.size_lt (fits d among)
      have room : ([] : Bytes).length + (bytes n maxPacket).length ≤ dest.length := by
        rw [length_bytes, List.length_nil, Nat.zero_add]
        exact Nat.le_of_not_lt short
      have start : Writer.mk dest 0 = Writer.behind dest [] := by
        rw [Writer.behind, Bytes.overwrite_nil, List.length_nil]
      rw [if_neg large, if_neg short, if_neg large, if_neg short, start,
        Writer.putAll_behind made octet room, List.nil_append, ← bytes]
      show (Except.ok (bytes n maxPacket).length, Bytes.overwrite dest (bytes n maxPacket)) = _
      rw [length_bytes]

end Fragment

end AudioGadget
