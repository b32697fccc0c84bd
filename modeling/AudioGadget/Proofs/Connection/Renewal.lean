import AudioGadget.Bench.Codec
import AudioGadget.Bench.Core
import AudioGadget.Bench.Sink
import AudioGadget.Proofs.Script
/-!
# Renewal — a connection knows nothing of the ones before

When a host comes the gadget is as it was when it was made, but for its
numbers: every level, the setting, the write that waited, the slots that
were out and the counters are back. What is left of earlier connections is
in places that decide nothing, the octets in buffers of its own and the
collaborators, so all that a host can learn in a connection follows from
the numbers and from what core and sink answer in it.
-/

namespace AudioGadget

open Bench

/-- The pool with every buffer as it was made. -/
def SlotPool.blank (p : SlotPool) : SlotPool :=
  { p with slots := p.flags.map fun lent => { Slot.fresh with lent } }

@[simp] theorem SlotPool.flags_blank (p : SlotPool) : p.blank.flags = p.flags := by
  simp only [blank, flags, List.map_map]
  rfl

/-- Up to its buffers a pool is its flags, its lease and its counters. -/
theorem SlotPool.blank_eq_iff {p q : SlotPool} :
    p.blank = q.blank ↔
      p.flags = q.flags ∧ p.packetLength = q.packetLength ∧ p.counts = q.counts := by
  constructor
  · intro same
    have lends := congrArg SlotPool.packetLength same
    have counts := congrArg SlotPool.counts same
    exact ⟨by rw [← flags_blank p, same, flags_blank], lends, counts⟩
  · rintro ⟨flags, lends, counts⟩
    simp only [blank, mk.injEq]
    exact ⟨by rw [flags], lends, counts⟩

namespace Gadget

variable {U S C U' S' C' : Type}

/-- **The gadget itself**: no collaborators, and nothing in the buffers. -/
def outline (g : Gadget U S C) : Gadget Absent Absent Absent :=
  { g with usb := ⟨⟩, sink := ⟨⟩, codec := ⟨⟩, pool := g.pool.blank }

/-- The numbers that were assigned: both interfaces, the endpoint and the
first string. -/
def numbers (g : Gadget U S C) :
    (Option UInt8 × Option UInt8) × Option EndpointAddress × Option UInt8 :=
  ((g.controlInterface, g.streaming.number), g.endpoint, g.firstString)

/-- The gadget with the numbers of another one. -/
def numberedAs (g : Gadget U S C) (h : Gadget U' S' C') : Gadget U S C :=
  { g with
    controlInterface := h.controlInterface
    endpoint := h.endpoint
    firstString := h.firstString
    streaming := { g.streaming with number := h.streaming.number } }

/-- The outline is the control side with the slots. -/
theorem outline_eq_iff {g : Gadget U S C} {h : Gadget U' S' C'} :
    g.outline = h.outline ↔ g.controlSide = h.controlSide ∧ g.pool.flags = h.pool.flags ∧
      g.pool.counts = h.pool.counts := by
  constructor
  · intro same
    have emptied (g : Gadget U S C) :
        g.controlSide = { g.outline with pool := g.outline.pool.emptied } := rfl
    have pool : g.pool.blank = h.pool.blank := congrArg Gadget.pool same
    obtain ⟨flags, -, counts⟩ := SlotPool.blank_eq_iff.1 pool
    refine ⟨?_, flags, counts⟩
    rw [emptied, same]
    rfl
  · rintro ⟨control, flags, counts⟩
    have filled (g : Gadget U S C) : g.outline = { g.controlSide with pool := g.pool.blank } := rfl
    have pool : g.pool.blank = h.pool.blank :=
      SlotPool.blank_eq_iff.2 ⟨flags, (of_controlSide control).packetLength, counts⟩
    rw [filled, control, pool]
    rfl

/-- A gadget of the same outline, with scripts to read from. -/
def scripted (g : Gadget U S C) (core : Script.Core) (sink : Script.Sink) :
    Gadget Script.Core Script.Sink Absent :=
  { g.outline with usb := core, sink := sink }

/-- It repeats every gadget of that outline. -/
theorem repeats_scripted {g : Gadget U S C} {h : Gadget U' S' C'} (same : g.outline = h.outline)
    (core : Script.Core) (sink : Script.Sink) :
    Repeats (g.scripted core sink) h core sink := by
  obtain ⟨control, flags, counts⟩ := outline_eq_iff.1 same
  exact ⟨control, (SlotPool.flags_blank _).trans flags, counts, rfl, rfl⟩

/-! ## When a host comes -/

/-- The outline of a new gadget that got the numbers of `h`. -/
theorem outline_numberedAs (usb : U) (sink : S) (codec : C) (h : Gadget U' S' C') (slots : Nat)
    (lends : h.pool.packetLength = h.format.maxPacketSize) (size : h.pool.flags.length = slots)
    (channels : h.feature.channels = h.format.channels) :
    ((unregistered usb sink codec h.format slots).numberedAs h).outline =
      { h.outline with
        feature := h.feature.reset
        streaming := h.streaming.reset
        pending := none
        pool := h.pool.releaseAll.resetCounts.blank } := by
  have pool : (SlotPool.idle slots h.format.maxPacketSize).blank =
      h.pool.releaseAll.resetCounts.blank := by
    refine SlotPool.blank_eq_iff.2 ⟨?_, ?_, rfl⟩
    · rw [SlotPool.flags_resetCounts, SlotPool.flags_releaseAll, List.map_const', size]
      simp [SlotPool.idle, SlotPool.flags, Slot.fresh]
    · exact (Nat.min_eq_left h.format.maxPacketSize_le).trans lends.symm
  have feature : FeatureUnit.powerOn h.format.channels = h.feature.reset :=
    congrArg FeatureUnit.powerOn channels.symm
  have parts : ((unregistered usb sink codec h.format slots).numberedAs h).outline =
      { h.outline with
        feature := .powerOn h.format.channels
        streaming := h.streaming.reset
        pending := none
        pool := (SlotPool.idle slots h.format.maxPacketSize).blank } := rfl
  rw [parts, pool, feature]

section Connect

variable [UsbCore U] [PcmSink S] [Codec C]

/-- What is left when a host comes. -/
theorem outline_connect (g : Gadget U S C) :
    (g.perform .connect).next.outline =
      { g.outline with
        feature := g.feature.reset
        streaming := g.streaming.reset
        pending := none
        pool := g.pool.releaseAll.resetCounts.blank } := by
  have synced : (g.perform .connect).next.outline =
      { g.wind.outline with pool := g.wind.pool.resetCounts.blank } := rfl
  rw [synced, wind_eq]
  rfl

/-- No number changes when a host comes. -/
theorem numberedAs_connect (g : Gadget U' S' C') (h : Gadget U S C) :
    g.numberedAs (h.perform .connect).next = g.numberedAs h := by
  have wound : g.numberedAs (h.perform .connect).next = g.numberedAs h.wind := rfl
  rw [wound, wind_eq]
  rfl

/-- **A gadget that a host comes to is new**, but for its numbers. -/
theorem outline_renewed (usb : U) (sink : S) (codec : C) (usb' : U') (sink' : S') (codec' : C')
    (format : StreamFormat) (slots : Nat) (before : List Call) :
    let start := unregistered (Watched.of usb : Watched U CoreCall) sink codec format slots
    let g := (start.run (before ++ [.connect])).2
    g.outline = ((unregistered usb' sink' codec' format slots).numberedAs g).outline := by
  intro start g
  -- the three facts about the history that a reset relies on
  let h := (start.run before).2
  have terms : SameTerms start h := terms_run start before
  have lends : h.pool.packetLength = h.format.maxPacketSize := by
    rw [terms.packetLength, terms.format]
    exact Nat.min_eq_left format.maxPacketSize_le
  have size : h.pool.flags.length = slots := by
    rw [length_flags_run]
    simp [start, unregistered, SlotPool.idle, SlotPool.flags]
  have channels : h.feature.channels = h.format.channels := by
    rw [terms.format]
    exact channels_run start before
  have format : h.format = format := terms.format
  have connected : g = (h.perform .connect).next := run_concat start before .connect
  rw [connected, numberedAs_connect, ← format,
    outline_numberedAs usb' sink' codec' h slots lends size channels, outline_connect]

end Connect

/-! ## The connection -/

/-- A gadget that got the numbers of another one has nothing else of it. -/
theorem numberedAs_of_numbers {g h : Gadget U S C} {h' : Gadget U' S' C'}
    (same : h'.numbers = h.numbers) : g.numberedAs h' = g.numberedAs h := by
  simp only [numbers, Prod.mk.injEq] at same
  obtain ⟨⟨control, streaming⟩, endpoint, string⟩ := same
  simp only [numberedAs, control, streaming, endpoint, string]

variable [UsbCore U] [PcmSink S] [Codec C] [UsbCore U'] [PcmSink S'] [Codec C']

omit [UsbCore U'] [PcmSink S'] [Codec C'] in
/-- **A script of a whole run repeats every part of it.** -/
theorem repeats_prefix {g : Gadget (Watched U CoreCall) (Watched S SinkCall) C}
    {r : Gadget Script.Core Script.Sink Absent} {calls part : List Call}
    (repeats : Repeats r g (Script.Core.of (g.usb.since (g.run calls).2.usb))
      (Script.Sink.of (g.sink.since (g.run calls).2.sink)))
    (prior : part <+: calls) :
    (r.run part).1 = (g.run part).1 ∧ (r.run part).2.outline = (g.run part).2.outline := by
  obtain ⟨rest, rfl⟩ := prior
  obtain ⟨made, offered, asked, told, again⟩ := g.repeatable_run part
  obtain ⟨later, later', asked', told', -⟩ := (g.run part).2.repeatable_run rest
  have usb : g.usb.since (g.run (part ++ rest)).2.usb = made ++ later := by
    refine Watched.since_of_append _ ?_
    rw [run_append, asked', asked, List.append_assoc]
  have sink : g.sink.since (g.run (part ++ rest)).2.sink = offered ++ later' := by
    refine Watched.since_of_append _ ?_
    rw [run_append, told', told, List.append_assoc]
  -- the part has read its own lines, and those of the rest are still there
  rw [usb, sink, ← Script.Core.append_nil (.of (made ++ later)), Script.Core.of_append,
    ← Script.Sink.append_nil (.of (offered ++ later')), Script.Sink.of_append] at repeats
  obtain ⟨answers, last⟩ := again repeats
  exact ⟨answers, outline_eq_iff.2 ⟨last.control, last.flags, last.counts⟩⟩

/-- **Gadgets of one outline that hear the same answers do the same**, all
along. -/
theorem run_of_outline {g : Gadget (Watched U CoreCall) (Watched S SinkCall) C}
    {h : Gadget (Watched U' CoreCall) (Watched S' SinkCall) C'} (same : g.outline = h.outline)
    {calls part : List Call}
    (core : Script.Core.of (g.usb.since (g.run calls).2.usb) =
      Script.Core.of (h.usb.since (h.run calls).2.usb))
    (sink : Script.Sink.of (g.sink.since (g.run calls).2.sink) =
      Script.Sink.of (h.sink.since (h.run calls).2.sink))
    (prior : part <+: calls) :
    (g.run part).1 = (h.run part).1 ∧ (g.run part).2.outline = (h.run part).2.outline := by
  -- one script is read for both
  have left := repeats_scripted (g := g) rfl (.of (g.usb.since (g.run calls).2.usb))
    (.of (g.sink.since (g.run calls).2.sink))
  have right := repeats_scripted same (.of (g.usb.since (g.run calls).2.usb))
    (.of (g.sink.since (g.run calls).2.sink))
  rw [core, sink] at right
  obtain ⟨answers, outline⟩ := repeats_prefix left prior
  obtain ⟨answers', outline'⟩ := repeats_prefix right prior
  rw [core, sink] at answers outline
  exact ⟨answers.symm.trans answers', outline.symm.trans outline'⟩

/-- **Nothing leaks from one connection to the next.** When a host comes, the
gadget is as it was when it was made, but for its numbers, the octets in
its buffers and the collaborators. So of two histories with the same
format and numbers, in whatever company, what follows is the same as long
as core and sink answer the same: every call is answered alike, and after
each of them the levels, the setting, the write that waits, the slots that
are out and the counters are the same. -/
theorem nothing_leaks (usb : U) (sink : S) (codec : C) (usb' : U') (sink' : S') (codec' : C')
    (format : StreamFormat) (slots : Nat) (before before' after : List Call) :
    let made := unregistered (Watched.of usb : Watched U CoreCall)
      (Watched.of sink : Watched S SinkCall) codec format slots
    let made' := unregistered (Watched.of usb' : Watched U' CoreCall)
      (Watched.of sink' : Watched S' SinkCall) codec' format slots
    let g := (made.run (before ++ [.connect])).2
    let g' := (made'.run (before' ++ [.connect])).2
    g.outline = (made'.numberedAs g).outline ∧
      (g.numbers = g'.numbers →
        Script.Core.of (g.usb.since (g.run after).2.usb) =
          Script.Core.of (g'.usb.since (g'.run after).2.usb) →
        Script.Sink.of (g.sink.since (g.run after).2.sink) =
          Script.Sink.of (g'.sink.since (g'.run after).2.sink) →
        ∀ part, part <+: after →
          (g.run part).1 = (g'.run part).1 ∧ (g.run part).2.outline = (g'.run part).2.outline) := by
  intro made made' g g'
  have new : g.outline = (made'.numberedAs g).outline :=
    outline_renewed usb _ codec _ _ codec' format slots before
  have new' : g'.outline = (made'.numberedAs g').outline :=
    outline_renewed usb' _ codec' _ _ codec' format slots before'
  refine ⟨new, fun numbers core sink part prior => run_of_outline ?_ core sink prior⟩
  rw [new, new', numberedAs_of_numbers numbers]

end Gadget

/-- A gadget gets its numbers, and no host comes. -/
def unvisited : List Call :=
  [.powerOn, .requestEndpoints, .setFirstInterface 0, .setFirstString 1]

/-- A host turns channel 1 down, starts the stream, and is gone while a mute
waits for its data. -/
def visited : List Call :=
  unvisited ++ [.connect, .setInterface 1 1,
    .controlRequest (Request.featurePacket 0 .setCurrent .volume 1) [], .dataStage [0, 0xF6],
    .controlRequest (Request.featurePacket 0 .setCurrent .mute 0) []]

/-- The next host sends data out of turn, asks for the volume of channel 1
and starts the stream. -/
def revisited : List Call :=
  [.dataStage [1], .controlRequest (Request.featurePacket 0 .getCurrent .volume 1) [0, 0],
    .setInterface 1 1,
    .transferComplete (.ofNumber 1 .hostToDevice) .hostToDevice ⟨.success, 192, ⟨0⟩⟩]

/-- A gadget on the bench, watched by core and sink, with one slot. -/
def renewable : Gadget (Watched Core CoreCall) (Watched Sink SinkCall) Bench.Codec :=
  .unregistered (.of Core.fresh) (.of Sink.fresh) Codec.fresh default 1

/-- The host cannot tell whether another one was there before. -/
theorem nothing_leaks_revisited :
    let g := (renewable.run (visited ++ [.connect])).2
    let g' := (renewable.run (unvisited ++ [.connect])).2
    (g.run revisited).1 = (g'.run revisited).1 ∧
      (g.run revisited).2.outline = (g'.run revisited).2.outline ∧
      (g.run revisited).2.pool.counts.packetsAccepted.val = 1 := by
  intro g g'
  obtain ⟨-, same⟩ := Gadget.nothing_leaks Core.fresh Sink.fresh Codec.fresh Core.fresh Sink.fresh
    Codec.fresh default 1 visited unvisited revisited
  have numbers : g.numbers = g'.numbers := by decide +kernel
  have core : Script.Core.of (g.usb.since (g.run revisited).2.usb) =
      Script.Core.of (g'.usb.since (g'.run revisited).2.usb) := by decide +kernel
  have sink : Script.Sink.of (g.sink.since (g.run revisited).2.sink) =
      Script.Sink.of (g'.sink.since (g'.run revisited).2.sink) := by decide +kernel
  obtain ⟨answers, outline⟩ := same numbers core sink revisited List.prefix_rfl
  exact ⟨answers, outline, by decide +kernel⟩

end AudioGadget
