import AudioGadget.Bench.Codec
import AudioGadget.Bench.Core
import AudioGadget.Bench.Sink
import AudioGadget.Proofs.Control.Dialogue
/-!
# Granted — which setup packets are handled, and with what

A setup packet is handled if it asks this function for something and that
can be had: the control exists on the channel, the answer has room, the
setting can be selected. `Grants` lists the conditions, one line for each
kind of request, and `handled_iff_granted` says that there are no others.

The reply to a packet that is handled counts the octets of its data stage:
as many as the packet announces where the host reads, and none where it
writes. They are what the request is to be told (`Informs`), nothing of the
buffer is written beyond them, and a packet by which the host reads leaves
the gadget as it was.
-/

namespace AudioGadget

open Bench

/-- A reply that is not a refusal has a count. -/
theorem Reply.exists_handled_iff {reply : Reply} :
    (∃ n, reply = .handled n) ↔ reply ≠ .unhandled := by
  cases reply <;> simp

/-- **A buffer with an answer** at its front, and as it was behind it. -/
structure Bytes.Holds (dest out octets : Bytes) : Prop where
  fits : octets.length ≤ dest.length
  whole : out = octets ++ dest.drop octets.length

section Holds

variable {dest out octets : Bytes}

theorem Bytes.Holds.nothing (dest : Bytes) : Bytes.Holds dest dest [] :=
  ⟨Nat.zero_le _, rfl⟩

theorem Bytes.Holds.length (h : Bytes.Holds dest out octets) : out.length = dest.length := by
  rw [h.whole, List.length_append, List.length_drop]
  have := h.fits
  omega

theorem Bytes.Holds.front (h : Bytes.Holds dest out octets) : out.take octets.length = octets := by
  rw [h.whole, List.take_left]

theorem Bytes.Holds.rest (h : Bytes.Holds dest out octets) :
    out.drop octets.length = dest.drop octets.length := by
  rw [h.whole, List.drop_left]

end Holds

/-- **What is handled was written whole**, and nothing behind it. -/
theorem Reply.of_write_eq_handled {dest : Bytes} {answer : Option Bytes} {n : Nat}
    (h : (Reply.write dest answer).1 = .handled n) :
    ∃ octets, answer = some octets ∧ octets.length = n ∧
      Bytes.Holds dest (Reply.write dest answer).2 octets := by
  rcases answer with _ | octets
  · cases h
  · by_cases room : octets.length ≤ dest.length
    · rw [Reply.write_of_le room] at h ⊢
      cases h
      exact ⟨octets, rfl, rfl, room, rfl⟩
    · rw [Reply.write, if_neg room] at h
      cases h

namespace Request

/-- The direction of a request's data stage. -/
def direction : Request → Direction
  | .feature verb _ _ => verb.direction
  | .getInterface _ => .deviceToHost
  | .setInterface .. => .hostToDevice

/-- Octets that the host reads. -/
def answerLength : Request → Nat
  | .feature .setCurrent _ _ => 0
  | .feature _ c _ => c.payloadLength
  | .getInterface _ => 1
  | .setInterface .. => 0

/-- **A packet announces what its request reads**, and the way it goes. -/
theorem direction_of_asks {control streaming : UInt8} {p : SetupPacket} {request : Request}
    (asks : Asks control streaming p request) :
    request.direction = p.direction ∧
      request.answerLength = if p.direction = .deviceToHost then p.length.toNat else 0 := by
  cases asks with
  | feature verb c channel => cases verb <;> cases c <;> exact ⟨rfl, rfl⟩
  | getInterface | setInterface => exact ⟨rfl, rfl⟩

end Request

/-- There are the settings 0 and 1. -/
theorem Alternate.exists_ofNumber?_iff {n : UInt8} :
    (∃ a, ofNumber? n = .ok a) ↔ n = 0 ∨ n = 1 := by
  constructor
  · rintro ⟨a, known⟩
    cases a with
    | inactive => exact .inl (ofNumber?_eq_ok_iff.1 known)
    | operational => exact .inr (ofNumber?_eq_ok_iff.1 known)
  · rintro (rfl | rfl)
    · exact ⟨.inactive, rfl⟩
    · exact ⟨.operational, rfl⟩

namespace Gadget

variable {U S C : Type}

/-- **What a request needs**, of a function with this control interface, in a
packet with this value and with this much room for the answer. -/
def Grants (g : Gadget U S C) (control : UInt8) (value : UInt16) (room : Nat) : Request → Prop
  | .feature .setCurrent c channel => g.feature.supports c channel = true
  | .feature .getCurrent c channel =>
    g.feature.supports c channel = true ∧ c.payloadLength ≤ room
  | .feature .getMinimum c channel | .feature .getMaximum c channel
  | .feature .getResolution c channel =>
    c = .volume ∧ channel.toNat ≤ g.format.channels ∧ 2 ≤ room
  | .getInterface _ => 0 < room
  | .setInterface interface _ =>
    if interface = control then value = 0 else (value = 0 ∨ value = 1) ∧ g.endpoint ≠ none

/-- **What a request is to be told** by a function with this streaming
interface: a level, an end of the range of volumes or its step, or a setting,
of which the control interface has one only. A write is told nothing. -/
def Informs (g : Gadget U S C) (streaming : UInt8) (octets : Bytes) : Request → Prop
  | .feature .getCurrent .mute _ => octets = [if g.feature.muted then 1 else 0]
  | .feature .getCurrent .volume channel =>
    ∃ level, g.feature.volume? channel = some level ∧ octets = leSigned16 level.raw
  | .feature .getMinimum _ _ => octets = leSigned16 (-20480)
  | .feature .getMaximum _ _ => octets = leSigned16 0
  | .feature .getResolution _ _ => octets = leSigned16 128
  | .getInterface interface =>
    octets = [if interface = streaming then g.streaming.selected.number else 0]
  | .feature .setCurrent _ _ | .setInterface .. => octets = []

variable [UsbCore U] [PcmSink S]

/-! ## What each request is answered -/

/-- **A setting that exists can be selected as soon as there is an
endpoint.** -/
theorem setInterface_ok_iff {g : Gadget U S C} {interface alternate : UInt8} :
    (g.setInterface interface alternate).answer = .ok () ↔
      g.streaming.number = some interface ∧ (alternate = 0 ∨ alternate = 1) ∧
        g.endpoint ≠ none := by
  rw [← Alternate.exists_ofNumber?_iff]
  by_cases own : g.streaming.number = some interface
  · rcases known : Alternate.ofNumber? alternate with e | a
    · simp [setInterface, StreamingInterface.select?, own, known]
    · rcases reserved : g.endpoint with _ | ep
      · simp [setInterface, StreamingInterface.select?, own, known, reserved]
      · have selected : (g.setInterface interface alternate).answer = .ok () := by
          simp only [setInterface, StreamingInterface.select?, own, known, reserved, if_true]
          split <;> rfl
        simp [selected, own]
  · simp [setInterface, StreamingInterface.select?, own]

theorem handled_selectForHost {g : Gadget U S C} {control interface alternate : UInt8} :
    (g.selectForHost control interface alternate).answer ≠ .unhandled ↔
      if interface = control then alternate = 0
      else g.streaming.number = some interface ∧ (alternate = 0 ∨ alternate = 1) ∧
        g.endpoint ≠ none := by
  rw [← setInterface_ok_iff]
  rcases answer_selectForHost g control interface alternate with ⟨taken, answer⟩ | ⟨refused, answer⟩
  · simpa [answer] using taken
  · simpa [answer] using refused

omit [UsbCore U] [PcmSink S] in
/-- The streaming interface says its setting, and the control interface
says 0. -/
theorem alternateAnswer_eq {g : Gadget U S C} {streaming : UInt8}
    (own : g.streaming.number = some streaming) (interface : UInt8) :
    g.alternateAnswer streaming interface =
      some [if interface = streaming then g.streaming.selected.number else 0] := by
  unfold alternateAnswer
  by_cases named : interface = streaming
  · simp only [getInterface, StreamingInterface.current?, named, own, if_true]
    rfl
  · rw [if_neg named, if_neg named]

/-- **A request is handled if what it needs is there.** -/
theorem handled_answerRequest {g : Gadget U S C} {control streaming : UInt8} {p : SetupPacket}
    {request : Request} (own : g.streaming.number = some streaming)
    (channels : g.feature.channels = g.format.channels)
    (asks : Request.Asks control streaming p request) (dest : Bytes) :
    (g.answerRequest control streaming request dest).answer.1 ≠ .unhandled ↔
      g.Grants control p.value dest.length request := by
  have room : g.feature.channels ≤ channelLimit := channels ▸ g.format.channels_le
  cases asks with
  | feature verb c channel =>
    have read (reads : verb ≠ .setCurrent) :
        (Reply.write dest (g.feature.read? verb c channel)).1 ≠ .unhandled ↔
          g.feature.supports c channel = true ∧ (verb = .getCurrent ∨ c = .volume) ∧
            c.payloadLength ≤ dest.length := by
      rw [Reply.write_ne_unhandled_iff, FeatureUnit.fits_read?_iff room reads]
    cases verb with
    | setCurrent =>
      simp only [answerRequest, acceptWrite, Grants]
      split <;> simp_all
    | getCurrent =>
      refine (read (by simp)).trans ?_
      simp [Grants]
    | getMinimum | getMaximum | getResolution =>
      refine (read (by simp)).trans ?_
      rw [Grants, ← channels]
      constructor
      · rintro ⟨offered, none | rfl, fits⟩
        · cases none
        · exact ⟨rfl, (FeatureUnit.supports_volume_iff room).1 offered, fits⟩
      · rintro ⟨rfl, among, fits⟩
        exact ⟨(FeatureUnit.supports_volume_iff room).2 among, .inr rfl, fits⟩
  | @getInterface interface _ _ _ =>
    show (Reply.write dest (g.alternateAnswer streaming interface)).1 ≠ .unhandled ↔ _
    rw [alternateAnswer_eq own, Reply.write_ne_unhandled_iff]
    simp [Grants, Nat.one_le_iff_ne_zero, Nat.pos_iff_ne_zero]
  | @setInterface interface named high value =>
    change (g.selectForHost control interface (Request.alternateOfWord value)).answer ≠ .unhandled ↔
      if interface = control then value = 0 else (value = 0 ∨ value = 1) ∧ g.endpoint ≠ none
    have zero : Request.alternateOfWord value = 0 ↔ value = 0 :=
      Request.alternateOfWord_eq_iff (by decide)
    have one : Request.alternateOfWord value = 1 ↔ value = 1 :=
      Request.alternateOfWord_eq_iff (by decide)
    rw [handled_selectForHost, zero, one]
    split
    · rfl
    · rename_i other
      have theirs : interface = streaming := named.resolve_left other
      rw [theirs, own]
      simp

omit [UsbCore U] [PcmSink S] in
/-- A write is accepted before there is anything to count. -/
theorem count_acceptWrite {g : Gadget U S C} {control : Control} {channel : UInt8} {n : Nat}
    (handled : (g.acceptWrite control channel).answer = .handled n) : n = 0 := by
  unfold acceptWrite at handled
  split at handled
  · cases handled
    rfl
  · cases handled

/-- And a selection sends nothing back. -/
theorem count_selectForHost {g : Gadget U S C} {control interface alternate : UInt8} {n : Nat}
    (handled : (g.selectForHost control interface alternate).answer = .handled n) : n = 0 := by
  rcases answer_selectForHost g control interface alternate with ⟨-, answer⟩ | ⟨-, answer⟩
  · cases answer.symm.trans handled
    rfl
  · cases answer.symm.trans handled

omit [UsbCore U] [PcmSink S] in
/-- What is read of a control is what the host is to be told. -/
theorem informs_of_read? {g : Gadget U S C} {verb : Verb} {c : Control} {channel : UInt8}
    {octets : Bytes} (read : g.feature.read? verb c channel = some octets) (streaming : UInt8) :
    g.Informs streaming octets (.feature verb c channel) := by
  unfold FeatureUnit.read? at read
  split at read
  · split at read
    · exact (Option.some.inj read).symm
    · obtain ⟨level, has, rfl⟩ := Option.map_eq_some_iff.1 read
      exact ⟨level, has, rfl⟩
    · exact (Option.some.inj read).symm
    · exact (Option.some.inj read).symm
    · exact (Option.some.inj read).symm
    · cases read
  · cases read

/-- **A reply counts what its request is told**: that stands in front, and
nothing is written behind it. -/
theorem informs_answerRequest {g : Gadget U S C} {control streaming : UInt8} {request : Request}
    {dest : Bytes} {n : Nat} (own : g.streaming.number = some streaming)
    (handled : (g.answerRequest control streaming request dest).answer.1 = .handled n) :
    ∃ octets, octets.length = n ∧ n = request.answerLength ∧ g.Informs streaming octets request ∧
      Bytes.Holds dest (g.answerRequest control streaming request dest).answer.2 octets := by
  cases request with
  | feature verb c channel =>
    cases verb with
    | setCurrent =>
      obtain rfl : n = 0 := count_acceptWrite handled
      exact ⟨[], rfl, rfl, rfl, .nothing dest⟩
    | getCurrent | getMinimum | getMaximum | getResolution =>
      obtain ⟨octets, read, length, holds⟩ := Reply.of_write_eq_handled handled
      have announced := length.symm.trans (FeatureUnit.length_of_read? read)
      exact ⟨octets, length, announced, informs_of_read? read streaming, holds⟩
  | getInterface interface =>
    obtain ⟨octets, said, length, holds⟩ := Reply.of_write_eq_handled handled
    obtain rfl := Option.some.inj ((alternateAnswer_eq own interface).symm.trans said)
    exact ⟨_, length, length.symm, rfl, holds⟩
  | setInterface interface alternate =>
    obtain rfl : n = 0 := count_selectForHost handled
    exact ⟨[], rfl, rfl, rfl, .nothing dest⟩

/-- **A request by which the host reads changes nothing.** -/
theorem next_answerRequest {g : Gadget U S C} {request : Request}
    (reads : request.direction = .deviceToHost) (control streaming : UInt8) (dest : Bytes) :
    (g.answerRequest control streaming request dest).next = g := by
  cases request with
  | feature verb c channel =>
    cases verb with
    | setCurrent => cases reads
    | getCurrent | getMinimum | getMaximum | getResolution => rfl
  | getInterface => rfl
  | setInterface => cases reads

/-! ## What a setup packet is answered -/

omit [UsbCore U] [PcmSink S] in
/-- The interfaces are known once both of them have a number. -/
theorem interfaces?_eq_some_iff {g : Gadget U S C} {control streaming : UInt8} :
    g.interfaces? = some (control, streaming) ↔
      g.controlInterface = some control ∧ g.streaming.number = some streaming := by
  unfold interfaces?
  split
  · rename_i first second
    simp [first, second]
  · rename_i missing
    simpa using missing control streaming

/-- **A setup packet is handled if what it asks for can be had.** -/
theorem handled_controlRequest {g : Gadget U S C} (channels : g.feature.channels = g.format.channels)
    (p : SetupPacket) (dest : Bytes) :
    (∃ n, (g.controlRequest p dest).answer.1 = .handled n) ↔
      ∃ control streaming request, g.controlInterface = some control ∧
        g.streaming.number = some streaming ∧
        Request.ofSetup? p control streaming = some request ∧
        g.Grants control p.value dest.length request := by
  have granted {control streaming : UInt8} {request : Request}
      (own : g.interfaces? = some (control, streaming))
      (read : Request.ofSetup? p control streaming = some request) :
      (∃ n, (g.controlRequest p dest).answer.1 = .handled n) ↔
        g.Grants control p.value dest.length request := by
    rw [Reply.exists_handled_iff, (controlRequest_of_read own read dest).1]
    exact handled_answerRequest (g := g.dropPending) (interfaces?_eq_some_iff.1 own).2 channels
      (Request.asks_of_ofSetup? read) dest
  constructor
  · rintro ⟨n, handled⟩
    cases serves g p dest with
    | unread _ answer _ =>
      rw [answer] at handled
      cases handled
    | @read control streaming request own read _ _ =>
      obtain ⟨first, second⟩ := interfaces?_eq_some_iff.1 own
      exact ⟨control, streaming, request, first, second, read, (granted own read).1 ⟨n, handled⟩⟩
  · rintro ⟨control, streaming, request, first, second, read, grants⟩
    exact (granted (interfaces?_eq_some_iff.2 ⟨first, second⟩) read).2 grants

/-- **A reply counts the octets that the packet announces for the host to
read**. They are what its request is told, and nothing behind them is
written. -/
theorem informs_controlRequest {g : Gadget U S C} {p : SetupPacket} {dest : Bytes} {n : Nat}
    {control streaming : UInt8} {request : Request}
    (own : g.interfaces? = some (control, streaming))
    (read : Request.ofSetup? p control streaming = some request)
    (handled : (g.controlRequest p dest).answer.1 = .handled n) :
    ∃ octets, octets.length = n ∧
      n = (if p.direction = .deviceToHost then p.length.toNat else 0) ∧
      g.Informs streaming octets request ∧
      Bytes.Holds dest (g.controlRequest p dest).answer.2 octets := by
  rw [(controlRequest_of_read own read dest).1] at handled ⊢
  obtain ⟨octets, count, announced, informs, holds⟩ :=
    informs_answerRequest (g := g.dropPending) (interfaces?_eq_some_iff.1 own).2 handled
  have asked := (Request.direction_of_asks (Request.asks_of_ofSetup? read)).2
  exact ⟨octets, count, announced.trans asked, informs, holds⟩

/-- **A packet by which the host reads changes nothing**, beyond the write
that waited. -/
theorem next_controlRequest {g : Gadget U S C} {p : SetupPacket}
    (reads : p.direction = .deviceToHost) (dest : Bytes) :
    (g.controlRequest p dest).next = g.dropPending := by
  cases serves g p dest with
  | unread _ _ next => exact next
  | @read _ _ request _ read _ next =>
    have way : request.direction = .deviceToHost :=
      (Request.direction_of_asks (Request.asks_of_ofSetup? read)).1.trans reads
    rw [next, next_answerRequest way]

variable [Codec C]

/-- The unit has as many channels as the stream, whatever was called. -/
theorem channels_unregistered (usb : U) (sink : S) (codec : C) (format : StreamFormat)
    (slots : Nat) (calls : List Call) :
    let g := ((Gadget.unregistered usb sink codec format slots).run calls).2
    g.feature.channels = g.format.channels := by
  intro g
  have terms := terms_run (Gadget.unregistered usb sink codec format slots) calls
  rw [terms.format, channels_run]
  rfl

/-- **A setup packet is handled exactly if it asks for something that can be
had.** Both interfaces have their numbers, the packet is read as a request
of this function, and what the request needs is there. The reply then
counts what the packet announces for the host to read, or nothing where
the host writes; so much has room, and the buffer behind it is as it was.
In front of it stands what the request is to be told. A packet by which
the host reads leaves the gadget and whoever it works with as they were,
but for a write that waited. -/
theorem handled_iff_granted (usb : U) (sink : S) (codec : C) (format : StreamFormat) (slots : Nat)
    (calls : List Call) (setup : SetupPacket) (dest : Bytes) :
    let g := ((Gadget.unregistered usb sink codec format slots).run calls).2
    let step := g.controlRequest setup dest
    ((∃ n, step.answer.1 = .handled n) ↔
        ∃ control streaming request, g.controlInterface = some control ∧
          g.streaming.number = some streaming ∧
          Request.ofSetup? setup control streaming = some request ∧
          g.Grants control setup.value dest.length request) ∧
      (∀ n, step.answer.1 = .handled n →
        n = (if setup.direction = .deviceToHost then setup.length.toNat else 0) ∧
          n ≤ dest.length ∧ step.answer.2.length = dest.length ∧
          step.answer.2.drop n = dest.drop n ∧
          ∀ control streaming request, g.interfaces? = some (control, streaming) →
            Request.ofSetup? setup control streaming = some request →
              g.Informs streaming (step.answer.2.take n) request) ∧
      (setup.direction = .deviceToHost → step.next = { g with pending := none }) := by
  intro g step
  have granted := handled_controlRequest (g := g)
    (channels_unregistered usb sink codec format slots calls) setup dest
  refine ⟨granted, fun n handled => ?_, fun reads => next_controlRequest reads dest⟩
  obtain ⟨control, streaming, request, first, second, read, -⟩ := granted.1 ⟨n, handled⟩
  obtain ⟨octets, rfl, announced, -, holds⟩ :=
    informs_controlRequest (interfaces?_eq_some_iff.2 ⟨first, second⟩) read handled
  refine ⟨announced, holds.fits, holds.length, holds.rest, fun control' streaming' request' => ?_⟩
  intro own' read'
  obtain ⟨octets', same, -, informs, holds'⟩ := informs_controlRequest own' read' handled
  rw [← same, holds'.front]
  exact informs

end Gadget

/-- A gadget with interfaces 5 and 6 that nothing was asked for yet. -/
def readied : List Call :=
  [.powerOn, .requestEndpoints, .setFirstInterface 5, .connect]

/-- The softest volume of the master, with room behind it. -/
theorem handled_iff_granted_readied :
    let start := Gadget.unregistered Core.fresh Sink.fresh Codec.fresh default 1
    let step := (start.run readied).2.controlRequest
      (Request.featurePacket 5 .getMinimum .volume 0) [7, 7, 7]
    step.answer.1 = .handled 2 ∧ step.answer.2.take 2 = [0x00, 0xB0] ∧
      step.answer.2.drop 2 = [7] := by
  intro start step
  obtain ⟨handled, count, -⟩ :=
    Gadget.handled_iff_granted Core.fresh Sink.fresh Codec.fresh default 1 readied
      (Request.featurePacket 5 .getMinimum .volume 0) [7, 7, 7]
  have own : (start.run readied).2.controlInterface = some 5 ∧
      (start.run readied).2.streaming.number = some 6 := by decide +kernel
  have asked : Request.ofSetup? (Request.featurePacket 5 .getMinimum .volume 0) 5 6 =
      some (.feature .getMinimum .volume 0) := by decide
  have replied : ∃ n, step.answer.1 = .handled n :=
    handled.2 ⟨5, 6, _, own.1, own.2, asked, rfl, by decide, by decide⟩
  obtain ⟨n, reply⟩ := replied
  obtain ⟨two, -, -, rest, told⟩ := count n reply
  obtain rfl : n = 2 := two
  have softest : step.answer.2.take 2 = leSigned16 (-20480) :=
    told 5 6 _ (Gadget.interfaces?_eq_some_iff.2 own) asked
  exact ⟨reply, softest, rest⟩

end AudioGadget
