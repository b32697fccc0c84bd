import AudioGadget.Chore.Program
import AudioGadget.Proofs.Chore.Words
import AudioGadget.Proofs.Descriptors.Assigned
import AudioGadget.Proofs.Inspect.Listing
import AudioGadget.Proofs.Inspect.Walk
/-!
# Faithful — a dump shows what a gadget writes

The gadget on the bench is registered by four calls, so it is one of the
gadgets that have the numbers asked for, and these all write one fragment
(`exists_writeDescriptors_run`). The fragment has room in the bench buffer,
and every number in it fits its field, so it is taken apart into the twelve
descriptors that it was put together from, whatever the numbers in them
look like. Their words depend on neither format nor numbers
(`map_caption_descriptors`).

Hence a format that is accepted is dumped, and nothing behind that can
fail (`ofOptions_eq_ok`).
-/

namespace AudioGadget

open Bench Chore

/-! ## What a gadget writes -/

namespace Gadget

variable {U S C : Type}

/-- A gadget that was given its numbers and an endpoint has them all. -/
theorem Assigned.numbering?_eq {g : Gadget U S C} {interface string : UInt8} {ep : EndpointAddress}
    (h : Assigned g (some interface) (some string)) (reserved : g.endpoint = some ep) :
    g.numbering? = .ok ⟨g.format, interface, numberAfter interface 1, ep, string⟩ := by
  simp [numbering?, h.control, h.streaming, h.string, reserved]

variable [UsbCore U] [PcmSink S] [Codec C]

/-- **And writes the fragment of these**, for the packet of its format, to the
front of any buffer with room. -/
theorem exists_writeDescriptors_run (usb : U) (sink : S) (codec : C) (format : StreamFormat)
    (slots : Nat) (calls : List Call) (interface string : UInt8) (ep : EndpointAddress)
    (dest : Bytes) :
    let g := ((Gadget.unregistered usb sink codec format slots).run calls).2
    lastInterface? calls = some interface → lastString? calls = some string →
      g.endpoint = some ep → Fragment.size format.channels ≤ dest.length →
        ∃ out, g.writeDescriptors format.maxPacketSize dest =
            (.ok (Fragment.size format.channels), out) ∧
          out.take (Fragment.size format.channels) =
            Fragment.bytes ⟨format, interface, numberAfter interface 1, ep, string⟩
              format.maxPacketSize := by
  intro g numbered named reserved room
  have assigned : Assigned g (lastInterface? calls) (lastString? calls) :=
    assigned_run usb sink codec format slots calls
  have terms : SameTerms _ g := terms_run _ calls
  have own : g.format = format := terms.format
  have lends : ¬ g.pool.packetLength < format.maxPacketSize := by
    rw [terms.packetLength]
    exact Nat.not_lt.2 (Nat.le_min.2 ⟨Nat.le_refl _, format.maxPacketSize_le⟩)
  have written : Fragment.write ⟨format, interface, numberAfter interface 1, ep, string⟩
      format.maxPacketSize dest = (.ok (Fragment.size format.channels), _) :=
    Fragment.write_of_le format.maxPacketSize_le room
  obtain ⟨-, -, front⟩ := Fragment.of_write_eq_ok written
  rw [numbered, named] at assigned
  refine ⟨_, ?_, front⟩
  rw [writeDescriptors, assigned.numbering?_eq reserved, own]
  exact (if_neg lends).trans written

end Gadget

/-! ## Words for it -/

namespace Fragment

/-- **The words for the descriptors of a function**, in their order. -/
def words : List String :=
  [ "interface association", "AudioControl interface", "AC header",
    "input terminal (USB stream)", "feature unit", "output terminal (speaker)",
    "AudioStreaming alt 0 (idle)", "AudioStreaming alt 1", "AS general", "format type I",
    "isochronous OUT endpoint", "CS endpoint (EP_GENERAL)" ]

/-- **No number and no format changes a word.** What tells the descriptors
apart are constants: types, subtypes and subclasses, the number of a
setting, and two lengths that are the same for every format. -/
theorem map_caption_descriptors (n : Numbering) (maxPacket : Nat) :
    (descriptors n maxPacket).map (fun d => caption d.bytes) = words := rfl

end Fragment

/-! ## The gadget on the bench -/

namespace Dump

/-- The calls that register the gadget on the bench. -/
def registration (options : DumpOptions) : List Call :=
  [.powerOn, .requestEndpoints, .setFirstInterface options.firstInterface,
    .setFirstString options.firstString]

/-- The gadget on the bench, once it is registered. -/
def registered (options : DumpOptions) (format : StreamFormat) : BenchGadget :=
  ((Gadget.unregistered .fresh .fresh .fresh format slotCount).run (registration options)).2

/-- The endpoint that the bench gives out first. -/
def benchEndpoint : EndpointAddress :=
  .ofNumber 1 .hostToDevice

/-- The numbers of a gadget with these options. -/
def numberingOf (options : DumpOptions) (format : StreamFormat) : Numbering :=
  ⟨format, options.firstInterface, numberAfter options.firstInterface 1, benchEndpoint,
    options.firstString⟩

/-- The links of what it writes. -/
def linksOf (options : DumpOptions) (format : StreamFormat) : List Chain.Link :=
  Chain.linksFrom 0 ((Fragment.descriptors (numberingOf options format)
    format.maxPacketSize).map Descriptor.bytes)

/-- **Registering cannot fail**: the core has an endpoint left. -/
theorem register_eq (options : DumpOptions) (format : StreamFormat) :
    register options format = .ok (benchEndpoint, registered options format) := rfl

theorem size_le_bufferSize (format : StreamFormat) :
    Fragment.size format.channels ≤ bufferSize := by
  have few : format.channels ≤ 8 := format.channels_le
  simp only [Fragment.size, Fragment.controlTotal, Fragment.featureUnitSize, bufferSize]
  omega

/-- **Nor can writing**: the slots lend the packet, and the buffer has room. -/
theorem fragmentOf_registered (options : DumpOptions) (format : StreamFormat) :
    fragmentOf (registered options format) =
      .ok (Fragment.bytes (numberingOf options format) format.maxPacketSize) := by
  have room : Fragment.size format.channels ≤ (List.replicate bufferSize (0 : UInt8)).length := by
    rw [List.length_replicate]
    exact size_le_bufferSize format
  obtain ⟨out, written, front⟩ :=
    Gadget.exists_writeDescriptors_run Core.fresh Sink.fresh Codec.fresh format slotCount
      (registration options) options.firstInterface options.firstString benchEndpoint _
      rfl rfl rfl room
  change (registered options format).writeDescriptors _ _ = _ at written
  have inside : Fragment.size format.channels ≤ out.length :=
    calc Fragment.size format.channels
        = (out.take (Fragment.size format.channels)).length := by rw [front, Fragment.length_bytes]
      _ ≤ out.length := List.length_take_le' _ _
  have own : (registered options format).format = format := rfl
  rw [fragmentOf, own, written]
  dsimp only
  rw [if_pos inside, front]
  rfl

/-- **Nor taking apart what was written.** -/
theorem split_bytes (options : DumpOptions) (format : StreamFormat) :
    Chain.split (Fragment.bytes (numberingOf options format) format.maxPacketSize) =
      .ok (linksOf options format) :=
  Survey.split_flatMap (Fragment.fits_descriptors _ format.maxPacketSize_le)

/-- What a gadget with these options says of itself, part by part. -/
def ofFormat (options : DumpOptions) (format : StreamFormat) : Dump where
  endpoint := benchEndpoint
  maxPacket := format.maxPacketSize
  fragment := Fragment.bytes (numberingOf options format) format.maxPacketSize
  links := linksOf options format
  strings := stringsOf (registered options format) options.firstString

/-- **A format that is accepted is dumped.** -/
theorem ofOptions_eq_ok {options : DumpOptions} {format : StreamFormat}
    (accepted : StreamFormat.ofParts? options.rate options.channels options.bits = .ok format) :
    ofOptions options = .ok (ofFormat options format) := by
  have bound {α β : Type} (a : α) (f : α → Except DumpFailure β) : (Except.ok a >>= f) = f a := rfl
  simp only [ofOptions, accepted, Except.mapError, bound, register_eq, fragmentOf_registered,
    split_bytes]
  rfl

/-- And any other is refused for what is wrong with it. -/
theorem ofOptions_eq_error {options : DumpOptions} {e : Refusal}
    (refused : StreamFormat.ofParts? options.rate options.channels options.bits = .error e) :
    ofOptions options = .error (.format e) := by
  rw [ofOptions, refused]
  rfl

/-! ## What is shown of it -/

/-- **Entries show what a gadget with these options writes**: the twelve
descriptors by name and in order, each where the octets before it end, and
together the octets that every gadget of the format writes that was given
these numbers last, on the endpoint that the bench gives out. -/
structure Faithful (options : DumpOptions) (format : StreamFormat) (entries : List Entry) :
    Prop where
  words : entries.map Entry.words = Fragment.words
  placed : Chain.Placed (entries.map Entry.link)
  octets {U S C : Type} [UsbCore U] [PcmSink S] [Codec C] (usb : U) (sink : S) (codec : C)
    (slots : Nat) (calls : List Call) (dest : Bytes) :
    let g := ((Gadget.unregistered usb sink codec format slots).run calls).2
    lastInterface? calls = some options.firstInterface →
      lastString? calls = some options.firstString → g.endpoint = some benchEndpoint →
        Fragment.size format.channels ≤ dest.length →
          ∃ length out, g.writeDescriptors format.maxPacketSize dest = (.ok length, out) ∧
            out.take length = entries.flatMap fun e => e.link.block

/-- The blocks of the links are the descriptors. -/
theorem map_block_linksOf (options : DumpOptions) (format : StreamFormat) :
    (linksOf options format).map Chain.Link.block =
      (Fragment.descriptors (numberingOf options format) format.maxPacketSize).map
        Descriptor.bytes :=
  Chain.map_block_linksFrom 0 _

theorem faithful_linksOf (options : DumpOptions) (format : StreamFormat) :
    Faithful options format ((linksOf options format).map Entry.ofLink) where
  words :=
    calc ((linksOf options format).map Entry.ofLink).map Entry.words
        = ((linksOf options format).map Chain.Link.block).map caption := by
          rw [List.map_map, List.map_map]
          rfl
      _ = Fragment.words := by
          rw [map_block_linksOf, List.map_map]
          exact Fragment.map_caption_descriptors _ _
  placed := by
    rw [List.map_map]
    exact (List.map_id (linksOf options format)).symm ▸ Chain.placed_linksFrom _
  octets := by
    intro U S C _ _ _ usb sink codec slots calls dest g numbered named reserved room
    obtain ⟨out, written, front⟩ := Gadget.exists_writeDescriptors_run usb sink codec format slots
      calls _ _ _ dest numbered named reserved room
    refine ⟨_, out, written, ?_⟩
    calc out.take (Fragment.size format.channels)
        = ((Fragment.descriptors (numberingOf options format) format.maxPacketSize).map
            Descriptor.bytes).flatten := by rw [front, Fragment.bytes, List.flatMap_def]; rfl
      _ = ((linksOf options format).map Entry.ofLink).flatMap fun e => e.link.block := by
          rw [← map_block_linksOf, List.flatMap_map, List.flatMap_def]
          rfl

/-- **The rows of a dump are faithful.** -/
theorem exists_entries (options : DumpOptions) (format : StreamFormat) :
    ∃ entries, entries? ((ofFormat options format).render options) = some entries ∧
      Faithful options format entries := by
  refine ⟨_, entries?_render options fun link among => ⟨?_, ?_⟩, faithful_linksOf options format⟩
  · -- no link starts behind the fragment, and that is shorter than the buffer
    have place := Chain.offset_le_of_mem_linksFrom among
    have short := size_le_bufferSize format
    have whole := Fragment.length_bytes (numberingOf options format) format.maxPacketSize
    rw [Fragment.bytes, List.flatMap_def] at whole
    rw [whole, Nat.zero_add] at place
    exact Nat.lt_of_le_of_lt (Nat.le_trans place short) (by decide)
  · have mem := List.mem_map_of_mem (f := Chain.Link.block) among
    have blocks : (ofFormat options format).links.map Chain.Link.block = _ :=
      map_block_linksOf options format
    rw [blocks] at mem
    obtain ⟨d, -, same⟩ := List.mem_map.1 mem
    rw [← same]
    exact List.cons_ne_nil _ _

end Dump

namespace Chore.Program

variable {τ : Type} [BuildTool τ] (tool : τ) (landing : Bool) {options : DumpOptions}

/-- A format that is refused ends the program with its sentence. -/
theorem runCommand_refused {e : Refusal}
    (refused : StreamFormat.ofParts? options.rate options.channels options.bits = .error e) :
    runCommand tool landing (.descriptor options) =
      ⟨1, [], ⟨"", "Error: unsupported format: " ++ e.message ++ "\n"⟩⟩ := by
  have sentence : Failure.render ⟨(DumpFailure.format e).message, none⟩ =
      "Error: unsupported format: " ++ e.message ++ "\n" :=
    calc Failure.render ⟨(DumpFailure.format e).message, none⟩
        = "Error: " ++ ("unsupported format: " ++ e.message) ++ "\n" := rfl
      _ = "Error: " ++ "unsupported format: " ++ e.message ++ "\n" := by
          rw [← @String.append_assoc "Error: "]
      _ = "Error: unsupported format: " ++ e.message ++ "\n" := rfl
  rw [runCommand, Dump.ofOptions_eq_error refused]
  simp only [finish, Screen.andThen, Screen.blank, Screen.complain, sentence, String.empty_append]

/-- Any other is shown, and nothing else happens. -/
theorem runCommand_accepted {format : StreamFormat}
    (accepted : StreamFormat.ofParts? options.rate options.channels options.bits = .ok format) :
    runCommand tool landing (.descriptor options) =
      ⟨0, [], .say ((Dump.ofFormat options format).render options)⟩ := by
  rw [runCommand, Dump.ofOptions_eq_ok accepted]
  rfl

/-- **The dump is faithful, and nothing fails behind the format.** Whatever five
numbers of their width are given, there is a command line that asks for them;
and a run on any command line that does ends with 0 exactly if the numbers are
a format, and otherwise with 1 and what is wrong with them. No other reason
not to dump is ever met. The rows of a format that is accepted are then read
back from what is shown: always the same twelve words, each descriptor where
the ones before it end, and in them the octets that a gadget of the format
with these numbers writes. -/
theorem dump_is_faithful (rate : UInt32) (channels bits firstInterface firstString : UInt8) :
    let options : DumpOptions :=
      ⟨rate.toNat, channels.toNat, bits.toNat, firstInterface, firstString⟩
    let parts := StreamFormat.ofParts? rate.toNat channels.toNat bits.toNat
    Arguments.command? (Arguments.dumpWords options) = some (.descriptor options) ∧
      (∀ why, Dump.ofOptions options = .error why → ∃ e, parts = .error e ∧ why = .format e) ∧
      ∀ args, Arguments.command? args = some (.descriptor options) →
        let done := Program.run tool landing args
        (done.exitCode = 0 ↔ ∃ format, parts = .ok format) ∧
          (∀ e, parts = .error e →
            done = ⟨1, [], ⟨"", "Error: unsupported format: " ++ e.message ++ "\n"⟩⟩) ∧
          ∀ format, parts = .ok format →
            done.screen.err = "" ∧
              ∃ entries, Dump.entries? done.screen.out = some entries ∧
                Dump.Faithful options format entries := by
  intro options parts
  refine ⟨Arguments.command?_dumpWords rate.toNat_lt channels.toNat_lt bits.toNat_lt, ?_, ?_⟩
  · intro why failed
    rcases checked : parts with e | format
    · have refused : Dump.ofOptions options = .error (.format e) := Dump.ofOptions_eq_error checked
      exact ⟨e, rfl, Except.error.inj (failed.symm.trans refused)⟩
    · have dumped : Dump.ofOptions options = .ok _ := Dump.ofOptions_eq_ok checked
      cases failed.symm.trans dumped
  · intro args asked done
    have ran : done = runCommand tool landing (.descriptor options) := by
      simp only [done, run, asked]
    rcases checked : parts with e | format
    · have refused : done = _ := ran.trans (runCommand_refused tool landing checked)
      rw [refused]
      refine ⟨by simp, fun e' same => ?_, nofun⟩
      cases same
      rfl
    · have shown : done = _ := ran.trans (runCommand_accepted tool landing checked)
      rw [shown]
      refine ⟨by simp, nofun, fun format' same => ?_⟩
      cases same
      exact ⟨rfl, Dump.exists_entries options format⟩

/-- The last interface there is, in the rows and in a buffer without an octet
to spare; and eight channels of 32 bits at a rate that the bus cannot carry. -/
theorem dump_is_faithful_last :
    (∃ entries length out,
      Dump.entries? (run (MissingTool.mk "") false
        (Arguments.dumpWords ⟨48000, 2, 16, 255, 254⟩)).screen.out = some entries ∧
      entries.map Dump.Entry.words = Fragment.words ∧
      (numberedFrom 255 254).writeDescriptors 196 (List.replicate 109 0) = (.ok length, out) ∧
      out.take length = entries.flatMap fun e => e.link.block) ∧
    (run (MissingTool.mk "") false (Arguments.dumpWords ⟨96000, 8, 32, 0, 4⟩)).exitCode = 1 := by
  constructor
  · obtain ⟨asked, -, ends⟩ := dump_is_faithful (MissingTool.mk "") false 48000 2 16 255 254
    obtain ⟨-, -, accepted⟩ := ends _ asked
    obtain ⟨-, entries, read, shown⟩ := accepted default (by decide +kernel)
    obtain ⟨length, out, written, front⟩ := shown.octets Core.fresh Sink.fresh Bench.Codec.fresh 2
      [.powerOn, .requestEndpoints, .setFirstInterface 255, .setFirstString 254, .connect]
      (List.replicate 109 0) rfl rfl rfl (by decide)
    exact ⟨entries, length, out, read, shown.words, written, front⟩
  · obtain ⟨asked, -, ends⟩ := dump_is_faithful (MissingTool.mk "") false 96000 8 32 0 4
    obtain ⟨-, refused, -⟩ := ends _ asked
    exact congrArg ProgramRun.exitCode (refused (.packetTooLarge 3104 1023) (by decide +kernel))

end Chore.Program

end AudioGadget
