import AudioGadget.Bench.Codec
import AudioGadget.Bench.Core
import AudioGadget.Bench.Sink
import AudioGadget.Proofs.Descriptors.Survey
import AudioGadget.Proofs.Reception.Ledger
/-!
# Announced — a packet of the announced size always fits

The descriptors announce how large a packet may be and where it must go.
The endpoint was reserved for packets of the format, the slots lend as
much for each reception, and a report is held against what was lent. All
of these are the same number from the start on (`SameTerms`), and what is
announced is at most that, so whatever a host sends within the
announcement is received and reaches the sink whole.
-/

namespace AudioGadget

open Bench

/-! ## One report -/

namespace SlotPool

/-- **What fits the lease is not too large**, however it was received. -/
theorem receive_ne_oversized {S : Type} [PcmSink S] {p : SlotPool} {report : Report}
    (fits : report.length ≤ p.packetLength) (sink : S) (slot : Slot) :
    (p.receive sink slot report).1 ≠ .oversized := by
  unfold receive
  split
  · rw [if_neg (Nat.not_lt.2 fits)]
    unfold forward
    split
    · simp
    · split <;> simp
  · simp
  · simp

/-- **The octets of a packet that fits are offered**, unless there are none. -/
theorem calls_receive {S : Type} [PcmSink S] {p : SlotPool} {report : Report}
    (received : report.status = .success) (fits : report.length ≤ p.packetLength)
    (sink : Watched S SinkCall) (slot : Slot) :
    let packet := slot.contents.take report.length
    (p.receive sink slot report).2.2.calls = sink.calls ++
      if report.length = 0 then [] else [.accept packet (PcmSink.accept sink.inner packet).1] := by
  intro packet
  have whole : packet.length = report.length :=
    slot.length_take (Nat.le_trans fits p.packetLength_le)
  have offer : p.receive sink slot report = forward p.counts sink packet :=
    receive_of_fits received fits sink slot
  rw [offer, ← whole]
  unfold forward
  rcases packet with _ | ⟨first, rest⟩
  · exact (List.append_nil _).symm
  · rw [if_neg (by simp), if_neg (by simp)]
    split <;> rename_i accept <;> exact congrArg (·.2.calls) accept.symm

end SlotPool

namespace Gadget

variable {U S C : Type} [UsbCore U] [PcmSink S] [Codec C]

omit [Codec C] in
/-- **A report is heard if it is of the gadget's endpoint and its slot is
out.** -/
theorem transferComplete_ne_ignored_iff {g : Gadget U S C} {ep : EndpointAddress}
    {report : Report} :
    (g.transferComplete ep .hostToDevice report).1 ≠ .ignored ↔
      g.endpoint = some ep ∧ g.pool.lentSlot? report.buffer ≠ none := by
  cases reports g ep .hostToDevice report with
  | ignored foreign next =>
    rw [next]
    simpa using fun own => foreign own rfl
  | stale own _ found _ next =>
    rw [next]
    simp [own, found]
  | running own _ found _ next =>
    rw [next]
    simp [own, found, SlotPool.receive_ne_ignored]

omit [Codec C] in
theorem transferComplete_ne_oversized {g : Gadget U S C} {report : Report}
    (fits : report.length ≤ g.pool.packetLength) (ep : EndpointAddress) (direction : Direction) :
    (g.transferComplete ep direction report).1 ≠ .oversized := by
  cases reports g ep direction report with
  | ignored _ next | stale _ _ _ _ next =>
    rw [next]
    simp
  | running _ _ _ _ next =>
    rw [next]
    exact SlotPool.receive_ne_oversized fits g.sink _

omit [Codec C] in
/-- **The octets of a packet that fits reach the sink**, while the stream
runs. -/
theorem offered_transferComplete {g : Gadget U (Watched S SinkCall) C} {ep : EndpointAddress}
    {report : Report} {slot : Slot} (own : g.endpoint = some ep)
    (found : g.pool.lentSlot? report.buffer = some slot) (running : g.isOperational = true)
    (received : report.status = .success) (fits : report.length ≤ g.pool.packetLength) :
    let packet := slot.contents.take report.length
    g.sink.since (g.transferComplete ep .hostToDevice report).2.sink =
      if report.length = 0 then []
      else [.accept packet (PcmSink.accept g.sink.inner packet).1] := by
  cases reports g ep .hostToDevice report with
  | ignored foreign => cases (foreign own rfl).symm.trans found
  | stale _ _ _ idle => cases idle.symm.trans running
  | running _ _ found' _ next =>
    cases found'.symm.trans found
    rw [next]
    exact Watched.since_of_append _ (SlotPool.calls_receive received fits g.sink slot.release)

end Gadget

/-! ## Every run -/

section Runs

variable {U S C : Type} [UsbCore U] [PcmSink S] [Codec C]

/-- An endpoint in the history is one that the core was asked for. -/
theorem Gadget.asked_of_reserved {g : Gadget (Watched U CoreCall) S C} {calls : List Call}
    {type : TransferType} {direction : Direction} {size : Nat} {ep : EndpointAddress}
    (entered : .reserved type direction size ep ∈ g.history calls) :
    .allocEndpoint type direction size (some ep) ∈ (g.run calls).2.usb.calls := by
  have among : Entry.reserved type direction size ep ∈
      (g.run calls).2.usb.calls.filterMap Entry.ofCoreCall? := by
    rw [← asked_history]
    exact List.mem_append_right _ (List.mem_filter.2 ⟨entered, rfl⟩)
  obtain ⟨asked, made, same⟩ := List.mem_filterMap.1 among
  cases asked with
  | allocEndpoint _ _ _ given =>
    obtain ⟨given, rfl, entry⟩ := Option.map_eq_some_iff.1 same
    cases entry
    exact made
  | submitReceive | cancel => cases same

/-- **What an announcement rests on**: the slots lend as much as `maxPacket`,
and there is no endpoint but `ep`. -/
structure Bears (maxPacket : Nat) (ep : EndpointAddress) (g : Gadget U S C) : Prop where
  lends : maxPacket ≤ g.pool.packetLength
  only : ∀ other, g.endpoint = some other → other = ep

omit [UsbCore U] [PcmSink S] [Codec C] in
/-- A slot that is out is on that endpoint. -/
theorem Bears.endpoint {maxPacket : Nat} {ep : EndpointAddress} {history : List Entry}
    {g : Gadget (Watched U CoreCall) S C} (bears : Bears maxPacket ep g) (order : InOrder history g)
    {buffer : BufferId} (out : g.pool.lentSlot? buffer ≠ none) : g.endpoint = some ep := by
  obtain ⟨other, own⟩ := order.exists_endpoint out
  rw [own, bears.only other own]

/-- **It is so from the start**, if it is so in the end. -/
theorem bears_of_prefix {g : Gadget U S C} {calls earlier : List Call} {maxPacket : Nat}
    {ep : EndpointAddress} (lends : maxPacket ≤ g.pool.packetLength)
    (given : (g.run calls).2.endpoint = some ep) (part : earlier <+: calls) :
    Bears maxPacket ep (g.run earlier).2 := by
  obtain ⟨rest, rfl⟩ := part
  refine ⟨(Gadget.terms_run g earlier).packetLength ▸ lends, fun other own => ?_⟩
  have kept := (Gadget.terms_run (g.run earlier).2 rest).endpoint other own
  rw [Gadget.run_append] at given
  exact Option.some.inj (kept.symm.trans given)

/-- What a gadget asks a core for is asked on its own endpoint, and in the
size of the format. -/
theorem suits_unregistered (usb : U) (sink : S) (codec : C) (format : StreamFormat) (slots : Nat)
    (calls : List Call) :
    let g := ((Gadget.unregistered (Watched.of usb) sink codec format slots).run calls).2
    ∀ asked ∈ g.usb.calls, g.Suits asked :=
  Gadget.suits_run (by simp [Gadget.unregistered, Watched.of]) calls

/-- **A packet of the announced size always fits.** Wherever in a run the
descriptors are written, the endpoint they announce is the one that was
reserved, and the only one that buffers are lent for and that reports are
heard on; and the packet size they announce is no more than was reserved,
and than every buffer that is lent. So in no state of the run is a report
within that size too large, and a packet of it reaches the sink with every
octet while the stream runs. -/
theorem announced_fits (usb : U) (sink : S) (codec : C) (format : StreamFormat) (slots : Nat)
    (before after : List Call) (maxPacket length : Nat) (dest out : Bytes) :
    let start := Gadget.unregistered (Watched.of usb) (Watched.of sink) codec format slots
    let calls := before ++ .writeDescriptors maxPacket dest :: after
    let asked := (start.run calls).2.usb.calls
    (start.run before).2.writeDescriptors maxPacket dest = (.ok length, out) →
    ∃ survey ep, Survey.ofBytes? (out.take length) = some survey ∧
      survey.endpoints = [⟨ep.byte, maxPacket⟩] ∧
      (∃ size, CoreCall.allocEndpoint .isochronous .hostToDevice size (some ep) ∈ asked) ∧
      (∀ type direction size given,
        CoreCall.allocEndpoint type direction size given ∈ asked → maxPacket ≤ size) ∧
      (∀ other lease taken, CoreCall.submitReceive other lease taken ∈ asked →
        other = ep ∧ maxPacket ≤ lease.length) ∧
      ∀ earlier, earlier <+: calls →
        let g := (start.run earlier).2
        (∀ other report, (g.transferComplete other .hostToDevice report).1 ≠ .ignored ↔
          other = ep ∧ g.pool.lentSlot? report.buffer ≠ none) ∧
        (∀ other direction report, report.status = .success → report.length ≤ maxPacket →
          (g.transferComplete other direction report).1 ≠ .oversized) ∧
        ∀ report slot, report.status = .success → report.length ≤ maxPacket →
          g.pool.lentSlot? report.buffer = some slot → g.isOperational = true →
            let packet := slot.contents.take report.length
            packet.length = report.length ∧
              g.sink.since (g.transferComplete ep .hostToDevice report).2.sink =
                if report.length = 0 then []
                else [SinkCall.accept packet (PcmSink.accept g.sink.inner packet).1] := by
  intro start calls asked written
  obtain ⟨n, numbered, lends, learned⟩ := Survey.of_writeDescriptors written
  obtain ⟨-, -, -, own, -⟩ := Gadget.of_numbering?_eq_ok numbered
  rw [(Gadget.terms_run start before).packetLength] at lends
  -- the endpoint of the numbering stays to the end, so no other was there before
  have reserved : (start.run calls).2.endpoint = some n.endpoint := by
    rw [Gadget.run_append]
    exact (Gadget.terms_run (start.run before).2 _).endpoint _ own
  have order (earlier : List Call) : InOrder (start.history earlier) (start.run earlier).2 :=
    (inOrder_unregistered usb (Watched.of sink) codec format slots).run earlier
  have terms := Gadget.terms_run start calls
  have fits : maxPacket ≤ format.maxPacketSize :=
    Nat.le_trans lends (Nat.min_le_left format.maxPacketSize slotSize)
  have suits : ∀ one ∈ asked, (start.run calls).2.Suits one :=
    suits_unregistered usb (Watched.of sink) codec format slots calls
  refine ⟨_, n.endpoint, learned, rfl, ?_, ?_, ?_, ?_⟩
  · exact ⟨_, Gadget.asked_of_reserved ((order calls).reserved n.endpoint reserved)⟩
  · intro type direction size given among
    cases suits _ among with
    | alloc whole => exact whole ▸ terms.format ▸ fits
  · intro other lease taken among
    cases suits _ among with
    | submit own' whole =>
      refine ⟨Option.some.inj (own'.symm.trans reserved), ?_⟩
      rw [whole, terms.packetLength]
      exact lends
  · intro earlier part g
    have bears : Bears maxPacket n.endpoint g := bears_of_prefix lends reserved part
    refine ⟨fun other report => ?_, fun other direction report _ small => ?_, ?_⟩
    · rw [Gadget.transferComplete_ne_ignored_iff]
      refine and_congr_left fun out => ⟨bears.only other, ?_⟩
      rintro rfl
      exact bears.endpoint (order earlier) out
    · exact Gadget.transferComplete_ne_oversized (Nat.le_trans small bears.lends) other direction
    · intro report slot received small found running packet
      have whole : report.length ≤ g.pool.packetLength := Nat.le_trans small bears.lends
      have out : g.pool.lentSlot? report.buffer ≠ none := by simp [found]
      have own : g.endpoint = some n.endpoint := bears.endpoint (order earlier) out
      exact ⟨slot.length_take (Nat.le_trans whole g.pool.packetLength_le),
        Gadget.offered_transferComplete own found running received whole⟩

/-- A gadget gets its numbers. -/
def numbered : List Call :=
  [.powerOn, .requestEndpoints, .setFirstInterface 0, .setFirstString 1]

/-- A host comes and starts the stream. -/
def listening : List Call :=
  [.connect, .setInterface 1 1]

/-- A gadget with one slot on the bench, watched from both sides. -/
def overheard : Gadget (Watched Core CoreCall) (Watched Sink SinkCall) Bench.Codec :=
  .unregistered (Watched.of Core.fresh) (Watched.of Sink.fresh) Codec.fresh default 1

/-- The largest packet of an announcement below the size of the format. -/
def fullReport : Report :=
  ⟨.success, 192, ⟨0⟩⟩

/-- The whole of it, with an announcement of 192 octets. -/
def broadcast : List Call :=
  numbered ++ .writeDescriptors 192 (List.replicate 109 0) :: listening

/-- A packet of the announced size is offered whole. -/
theorem announced_fits_full :
    let ep : EndpointAddress := .ofNumber 1 .hostToDevice
    (∃ out survey,
        (overheard.run numbered).2.writeDescriptors 192 (List.replicate 109 0) = (.ok 109, out) ∧
          Survey.ofBytes? (out.take 109) = some survey ∧ survey.endpoints = [⟨ep.byte, 192⟩]) ∧
      (overheard.run broadcast).2.usb.calls =
        [.allocEndpoint .isochronous .hostToDevice 196 (some ep),
          .submitReceive ep ⟨⟨0⟩, 196⟩ true] ∧
      ((overheard.run broadcast).2.transferComplete ep .hostToDevice fullReport).1 ≠ .oversized ∧
      ∃ packet : Bytes, packet.length = 192 ∧
        (overheard.run broadcast).2.sink.since
            ((overheard.run broadcast).2.transferComplete ep .hostToDevice fullReport).2.sink =
          [.accept packet .accepted] := by
  intro ep
  have same : Gadget.unregistered (Watched.of Core.fresh) (Watched.of Sink.fresh) Codec.fresh
      default 1 = overheard := rfl
  have calls : numbered ++ .writeDescriptors 192 (List.replicate 109 0) :: listening = broadcast :=
    rfl
  have done : ((overheard.run numbered).2.writeDescriptors 192 (List.replicate 109 0)).1 =
      .ok 109 := by rfl
  have written : (overheard.run numbered).2.writeDescriptors 192 (List.replicate 109 0) =
      (.ok 109, _) := Prod.ext done rfl
  have announced := announced_fits Core.fresh Sink.fresh Codec.fresh default 1 numbered listening
    192 109 (List.replicate 109 0) _ written
  rw [same, calls] at announced
  obtain ⟨survey, ep', surveyed, endpoints, -, -, submitted, states⟩ := announced
  have asked : (overheard.run broadcast).2.usb.calls =
      [.allocEndpoint .isochronous .hostToDevice 196 (some ep),
        .submitReceive ep ⟨⟨0⟩, 196⟩ true] := by decide +kernel
  have lent : .submitReceive ep ⟨⟨0⟩, 196⟩ true ∈ (overheard.run broadcast).2.usb.calls := by
    simp [asked]
  obtain ⟨rfl, -⟩ := submitted ep ⟨⟨0⟩, 196⟩ true lent
  obtain ⟨-, fits, whole⟩ := states broadcast List.prefix_rfl
  have out : ((overheard.run broadcast).2.pool.lentSlot? fullReport.buffer).isSome := by
    decide +kernel
  have running : (overheard.run broadcast).2.isOperational = true := by decide +kernel
  have willing : (overheard.run broadcast).2.sink.inner.refusing = false := by decide +kernel
  obtain ⟨slot, found⟩ := Option.isSome_iff_exists.1 out
  obtain ⟨length, offered⟩ := whole fullReport slot rfl (by decide) found running
  refine ⟨⟨_, survey, written, surveyed, endpoints⟩, asked,
    fits ep .hostToDevice fullReport rfl (by decide), _, length, ?_⟩
  rw [offered, if_neg (by decide)]
  simp [PcmSink.accept, Sink.accept, willing]

end Runs

end AudioGadget
