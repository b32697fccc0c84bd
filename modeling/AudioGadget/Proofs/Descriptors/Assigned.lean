import AudioGadget.Bench.Codec
import AudioGadget.Bench.Core
import AudioGadget.Bench.Sink
import AudioGadget.Proofs.Connection.Teardown
import AudioGadget.Proofs.Control.Granted
import AudioGadget.Proofs.Descriptors.Survey
/-!
# Assigned — a host uses the numbers that it finds

A device gives its audio function two interface numbers and two string
numbers by naming the first of each, and the function writes all four into
its descriptors. What is assigned last holds, and nothing else touches it
(`assigned_run`).

A host then addresses the streaming interface by its number and asks for
the strings by theirs. The second number of a pair is the one after the
first, and after 255 there is none: the function writes 255 again, and
answers for the first of the pair. So a host can start the stream exactly
if the control interface is not number 255 (`selects_iff`), and reads both
names exactly if the first string is not (`names_iff`).
-/

namespace AudioGadget

open Bench

/-- After every number but the last comes another one. -/
theorem toNat_numberAfter_one {n : UInt8} (room : n ≠ 255) :
    (numberAfter n 1).toNat = n.toNat + 1 := by
  have bound := n.toNat_lt
  have last : n.toNat ≠ 255 := fun same => room (UInt8.toNat_inj.1 same)
  rw [numberAfter, UInt8.toNat_ofNat']
  omega

theorem numberAfter_one_eq_self_iff {n : UInt8} : numberAfter n 1 = n ↔ n = 255 := by
  constructor
  · intro same
    by_contra room
    have next := toNat_numberAfter_one room
    rw [same] at next
    omega
  · rintro rfl
    rfl

/-- The first interface that a call assigns. -/
def Call.firstInterface? : Call → Option UInt8
  | .setFirstInterface number => some number
  | _ => none

/-- The first string that it assigns. -/
def Call.firstString? : Call → Option UInt8
  | .setFirstString number => some number
  | _ => none

/-- **The first interface assigned last** in a run. -/
def lastInterface? (calls : List Call) : Option UInt8 :=
  (calls.filterMap Call.firstInterface?).getLast?

/-- **The first string assigned last.** -/
def lastString? (calls : List Call) : Option UInt8 :=
  (calls.filterMap Call.firstString?).getLast?

theorem lastInterface?_concat (calls : List Call) (call : Call) :
    lastInterface? (calls ++ [call]) = call.firstInterface?.or (lastInterface? calls) := by
  unfold lastInterface?
  rw [List.filterMap_append]
  rcases given : call.firstInterface? with _ | number <;> simp [given]

theorem lastString?_concat (calls : List Call) (call : Call) :
    lastString? (calls ++ [call]) = call.firstString?.or (lastString? calls) := by
  unfold lastString?
  rw [List.filterMap_append]
  rcases given : call.firstString? with _ | number <;> simp [given]

namespace Gadget

variable {U S C : Type}

/-! ## What is assigned -/

/-- **The gadget has these numbers**: an interface for control and the next
one for streaming, and a first string. -/
structure Assigned (g : Gadget U S C) (interface string : Option UInt8) : Prop where
  control : g.controlInterface = interface
  streaming : g.streaming.number = interface.map (numberAfter · 1)
  string : g.firstString = string

/-- The two gadgets have the same numbers. -/
structure SameNumbers (g g' : Gadget U S C) : Prop where
  control : g'.controlInterface = g.controlInterface
  streaming : g'.streaming.number = g.streaming.number
  string : g'.firstString = g.firstString

/-- The numbers are on either side of a gadget. -/
theorem SameNumbers.of_controlSide {g g' : Gadget U S C} (same : g'.controlSide = g.controlSide) :
    SameNumbers g g' :=
  ⟨congrArg (·.controlInterface) same, congrArg (·.streaming.number) same,
    congrArg (·.firstString) same⟩

theorem SameNumbers.of_receivingSide {g g' : Gadget U S C}
    (same : g'.receivingSide = g.receivingSide) : SameNumbers g g' :=
  ⟨congrArg (·.controlInterface) same, congrArg (·.streaming.number) same,
    congrArg (·.firstString) same⟩

theorem Assigned.of_same {g g' : Gadget U S C} {interface string : Option UInt8}
    (h : Assigned g interface string) (same : SameNumbers g g') : Assigned g' interface string :=
  ⟨same.control.trans h.control, same.streaming.trans h.streaming, same.string.trans h.string⟩

theorem numbers_wind [UsbCore U] [PcmSink S] (g : Gadget U S C) : SameNumbers g g.wind := by
  rw [wind_eq]
  exact ⟨rfl, rfl, rfl⟩

theorem numbers_setInterface [UsbCore U] [PcmSink S] (g : Gadget U S C)
    (interface alternate : UInt8) : SameNumbers g (g.setInterface interface alternate).next := by
  unfold setInterface
  split
  · exact ⟨rfl, rfl, rfl⟩
  · rename_i t s chosen
    obtain ⟨a, -, rfl, -⟩ := select?_eq_ok chosen
    split
    · exact ⟨rfl, rfl, rfl⟩
    · cases t <;> exact ⟨rfl, rfl, rfl⟩

theorem numbers_answerRequest [UsbCore U] [PcmSink S] (g : Gadget U S C)
    (control streaming : UInt8) (request : Request) (dest : Bytes) :
    SameNumbers g (g.answerRequest control streaming request dest).next := by
  cases request with
  | feature verb c channel =>
    cases verb with
    | setCurrent =>
      change SameNumbers g (g.acceptWrite c channel).next
      unfold acceptWrite
      split <;> exact ⟨rfl, rfl, rfl⟩
    | getCurrent | getMinimum | getMaximum | getResolution => exact ⟨rfl, rfl, rfl⟩
  | getInterface => exact ⟨rfl, rfl, rfl⟩
  | setInterface interface alternate =>
    change SameNumbers g (g.selectForHost control interface alternate).next
    rw [next_selectForHost]
    split
    · exact ⟨rfl, rfl, rfl⟩
    · exact numbers_setInterface g interface alternate

theorem numbers_controlRequest [UsbCore U] [PcmSink S] (g : Gadget U S C) (setup : SetupPacket)
    (dest : Bytes) : SameNumbers g (g.controlRequest setup dest).next := by
  cases serves g setup dest with
  | unread _ _ next => exact next ▸ ⟨rfl, rfl, rfl⟩
  | @read control streaming request _ _ _ next =>
    have answered := numbers_answerRequest g.dropPending control streaming request dest
    exact next ▸ ⟨answered.control, answered.streaming, answered.string⟩

variable [UsbCore U] [PcmSink S] [Codec C]

/-- **A number stays until another one is assigned.** -/
theorem Assigned.perform {g : Gadget U S C} {interface string : Option UInt8}
    (h : Assigned g interface string) (call : Call) :
    Assigned (g.perform call).next (call.firstInterface?.or interface)
      (call.firstString?.or string) := by
  cases call with
  | setFirstInterface number => exact ⟨rfl, rfl, h.string⟩
  | setFirstString number => exact ⟨h.control, h.streaming, rfl⟩
  | powerOn => exact h.of_same ⟨rfl, rfl, rfl⟩
  | connect =>
    have wound := numbers_wind g
    exact h.of_same ⟨wound.control, wound.streaming, wound.string⟩
  | disconnect => exact h.of_same (numbers_wind g)
  | requestEndpoints =>
    obtain ⟨usb, endpoint, next⟩ := g.exists_next_requestEndpoints
    have next : (g.perform .requestEndpoints).next = _ := next
    rw [next]
    exact h.of_same ⟨rfl, rfl, rfl⟩
  | setInterface interface alternate => exact h.of_same (numbers_setInterface g interface alternate)
  | controlRequest setup dest => exact h.of_same (numbers_controlRequest g setup dest)
  | dataStage data => exact h.of_same (.of_receivingSide (g.receivingSide_dataStage data))
  | transferComplete | fillInFlight => exact h.of_same (.of_controlSide (g.controlSide_of_isBus rfl))
  | getInterface | writeDescriptors | stringDescriptor => exact h

/-- **What was assigned last holds**, from whatever was assigned before. -/
theorem assigned_run (usb : U) (sink : S) (codec : C) (format : StreamFormat) (slots : Nat)
    (calls : List Call) :
    Assigned ((Gadget.unregistered usb sink codec format slots).run calls).2
      (lastInterface? calls) (lastString? calls) := by
  induction calls using List.reverseRecOn with
  | nil => exact ⟨rfl, rfl, rfl⟩
  | append_singleton calls call ih =>
    rw [run_concat, lastInterface?_concat, lastString?_concat]
    exact ih.perform call

/-- What is not assigned again in a run still holds after it. -/
theorem assigned_later {g : Gadget U S C} {interface string : Option UInt8}
    (h : Assigned g interface string) {calls : List Call}
    (none : ∀ call ∈ calls, call.firstInterface? = none ∧ call.firstString? = none) :
    Assigned (g.run calls).2 interface string := by
  induction calls generalizing g with
  | nil => exact h
  | cons call calls ih =>
    obtain ⟨first, others⟩ := List.forall_mem_cons.1 none
    have next := h.perform call
    rw [first.1, first.2] at next
    exact ih next others

/-! ## The interfaces -/

/-- **A host can select the stream by its number.** The two interfaces have
different ones; selecting setting 1 of the streaming interface is handled
and starts the stream, and the interfaces then say what is selected. -/
structure Selects (g : Gadget U S C) (control streaming : UInt8) : Prop where
  apart : control ≠ streaming
  selects (high : UInt8) (dest : Bytes) :
    let step := g.controlRequest (Request.setInterfacePacket streaming high 1) dest
    step.answer.1 = .handled 0 ∧ step.next.isOperational = true ∧
      ∀ high value first rest,
        (step.next.controlRequest (Request.getInterfacePacket streaming high value)
            (first :: rest)).answer = (.handled 1, 1 :: rest) ∧
          (step.next.controlRequest (Request.getInterfacePacket control high value)
            (first :: rest)).answer = (.handled 1, 0 :: rest)

omit [Codec C] in
/-- **The setting of an interface is read by its number.** -/
theorem answer_getInterfacePacket {g : Gadget U S C} {control streaming interface n : UInt8}
    (own : g.interfaces? = some (control, streaming))
    (named : interface = control ∨ interface = streaming)
    (answered : g.alternateAnswer streaming interface = some [n]) (high first : UInt8)
    (value : UInt16) (rest : Bytes) :
    (g.controlRequest (Request.getInterfacePacket interface high value) (first :: rest)).answer =
      (.handled 1, n :: rest) := by
  have read := Request.ofSetup?_of_asks (.getInterface named high value)
  rw [(controlRequest_of_read own read _).1]
  change Reply.write (first :: rest) (g.alternateAnswer streaming interface) = _
  have room : [n].length ≤ (first :: rest).length := Nat.le_add_left 1 rest.length
  rw [answered, Reply.write_of_le room]
  rfl

omit [Codec C] in
/-- **A stream with an endpoint is started by its number**, unless the control
interface has the same one. -/
theorem answer_setInterfacePacket {g : Gadget U S C} {control streaming : UInt8}
    (own : g.interfaces? = some (control, streaming)) (reserved : g.endpoint ≠ none)
    (apart : control ≠ streaming) (high : UInt8) (dest : Bytes) :
    let step := g.controlRequest (Request.setInterfacePacket streaming high 1) dest
    step.answer.1 = .handled 0 ∧ step.next.streaming.selected = .operational := by
  intro step
  have taken : (g.setInterface streaming 1).answer = .ok () :=
    setInterface_ok_iff.2 ⟨(interfaces?_eq_some_iff.1 own).2, .inr rfl, reserved⟩
  obtain ⟨next, ⟨-, handled⟩ | ⟨⟨e, refused⟩, -⟩⟩ :=
    controlRequest_setInterfacePacket own apart high 1 dest
  · have next : step.next = (g.setInterface streaming 1).next.dropPending := next
    refine ⟨congrArg Prod.fst handled, ?_⟩
    rw [next]
    rcases selected_setInterface g streaming 1 with ⟨e, refused⟩ | ⟨-, number⟩
    · cases taken.symm.trans refused
    · exact (Except.ok.inj (Alternate.ofNumber?_eq_ok_iff.2 number)).symm
  · cases taken.symm.trans refused

omit [Codec C] in
/-- **A host can select the stream by its number if the numbers differ.** -/
theorem selects_of_apart {g : Gadget U S C} {control streaming : UInt8}
    (own : g.interfaces? = some (control, streaming)) (reserved : g.endpoint ≠ none)
    (apart : control ≠ streaming) : Selects g control streaming := by
  refine ⟨apart, fun high dest => ?_⟩
  intro step
  obtain ⟨handled, selected⟩ := answer_setInterfacePacket own reserved apart high dest
  have running : step.next.isOperational = true := decide_eq_true selected
  refine ⟨handled, running, fun high' value first rest => ?_⟩
  obtain ⟨first', second⟩ := interfaces?_eq_some_iff.1 own
  have same := numbers_controlRequest g (Request.setInterfacePacket streaming high 1) dest
  have number : step.next.streaming.number = some streaming := same.streaming.trans second
  have own' : step.next.interfaces? = some (control, streaming) :=
    interfaces?_eq_some_iff.2 ⟨same.control.trans first', number⟩
  have current : step.next.getInterface streaming = .ok 1 := by
    rw [getInterface, StreamingInterface.current?, if_pos number, selected]
    rfl
  constructor
  · refine answer_getInterfacePacket own' (.inr rfl) ?_ high' first value rest
    rw [alternateAnswer, if_pos rfl, current]
  · refine answer_getInterfacePacket own' (.inl rfl) ?_ high' first value rest
    rw [alternateAnswer, if_neg apart]

/-! ## The strings -/

/-- **A host reads both names by their numbers**, and nothing by any other
number. -/
structure Names (g : Gadget U S C) (function stream : UInt8) : Prop where
  whole : (g.stringDescriptor? function).bind Strings.decode? = some Identity.functionName
  part : (g.stringDescriptor? stream).bind Strings.decode? = some Identity.streamingName
  others (index : UInt8) (other : index ≠ function) (other' : index ≠ stream) :
    g.stringDescriptor? index = none

omit [UsbCore U] [PcmSink S] [Codec C] in
/-- A text that fits is read by the number that it is for. -/
theorem decode?_stringDescriptor? {g : Gadget U S C} {first index : UInt8} {text : String}
    (own : g.firstString = some first) (found : Strings.text? first index = some text)
    (fits : (Text.Utf16.units text.toList).length ≤ 63) :
    (g.stringDescriptor? index).bind Strings.decode? = some text := by
  obtain ⟨octets, written⟩ := Option.isSome_iff_exists.1 ((Strings.encode?_isSome_iff text).2 fits)
  have descriptor : g.stringDescriptor? index = some octets := by
    simp [stringDescriptor?, own, found, written]
  rw [descriptor]
  exact Strings.decode?_of_encode? written

omit [UsbCore U] [PcmSink S] [Codec C] in
/-- **Both names are read if there is a number after the first.** -/
theorem names_iff {g : Gadget U S C} {first : UInt8} (own : g.firstString = some first) :
    Names g first (numberAfter first 1) ↔ first ≠ 255 := by
  have named : Strings.text? first first = some Identity.functionName := if_pos rfl
  have function : (g.stringDescriptor? first).bind Strings.decode? = some Identity.functionName :=
    decode?_stringDescriptor? own named (by decide)
  constructor
  · rintro names rfl
    have both := names.part.symm.trans names.whole
    exact absurd both (by decide)
  · intro room
    have next := toNat_numberAfter_one room
    have named' : Strings.text? first (numberAfter first 1) = some Identity.streamingName := by
      rw [Strings.text?, next, if_neg (Nat.succ_ne_self _), if_pos rfl]
    refine ⟨function, decode?_stringDescriptor? own named' (by decide), fun index other other' => ?_⟩
    have unnamed : Strings.text? first index = none := by
      rw [Strings.text?, if_neg, if_neg]
      · exact fun same => other' (UInt8.toNat_inj.1 (same.trans next.symm))
      · exact fun same => other (UInt8.toNat_inj.1 same)
    simp [stringDescriptor?, own, unnamed]

/-! ## Every run -/

omit [Codec C] in
/-- **The stream is selected by its number if there is a number after the
first.** -/
theorem selects_iff {g : Gadget U S C} {first : UInt8} {string : Option UInt8}
    (assigned : Assigned g (some first) string) (reserved : g.endpoint ≠ none) :
    Selects g first (numberAfter first 1) ↔ first ≠ 255 := by
  have own : g.interfaces? = some (first, numberAfter first 1) :=
    interfaces?_eq_some_iff.2 ⟨assigned.control, assigned.streaming⟩
  constructor
  · intro selects last
    exact selects.apart (numberAfter_one_eq_self_iff.2 last).symm
  · intro room
    exact selects_of_apart own reserved fun same => room (numberAfter_one_eq_self_iff.1 same.symm)

/-- **A host can use every number of the fragment, unless the first of a pair
is the last that there is.** Whatever was called before, in whatever order,
and whatever is called afterwards without assigning numbers again: a
fragment that was written holds the interface and the string assigned last,
each with the number after it. The interfaces can be told apart and the
stream can be started by its number exactly if the first interface is not
255, and both names are read by their numbers, and nothing by another,
exactly if the first string is not 255. -/
theorem usable_iff (usb : U) (sink : S) (codec : C) (format : StreamFormat) (slots : Nat)
    (before after : List Call) (maxPacket length : Nat) (dest out : Bytes) :
    let start := Gadget.unregistered usb sink codec format slots
    let g := ((start.run before).2.run after).2
    (start.run before).2.writeDescriptors maxPacket dest = (.ok length, out) →
    (∀ call ∈ after, call.firstInterface? = none ∧ call.firstString? = none) →
      ∃ survey control streaming function name,
        lastInterface? before = some control ∧ lastString? before = some function ∧
        Survey.ofBytes? (out.take length) = some survey ∧
        survey.associations = [⟨control, 2, function⟩] ∧
        survey.settings =
          [ ⟨some .control, control, 0, 0, function⟩,
            ⟨some .streaming, streaming, 0, 0, name⟩,
            ⟨some .streaming, streaming, 1, 1, name⟩ ] ∧
        (Selects g control streaming ↔ control ≠ 255) ∧ (Names g function name ↔ function ≠ 255) := by
  intro start g written kept
  obtain ⟨n, numbered, -, learned⟩ := Survey.of_writeDescriptors written
  obtain ⟨-, control, streaming, own, string⟩ := of_numbering?_eq_ok numbered
  have assigned := assigned_run usb sink codec format slots before
  have interface : lastInterface? before = some n.controlInterface :=
    assigned.control.symm.trans control
  have first : lastString? before = some n.firstString := assigned.string.symm.trans string
  have next : n.streamingInterface = numberAfter n.controlInterface 1 := by
    have second := assigned.streaming.symm.trans streaming
    rw [interface] at second
    exact (Option.some.inj second).symm
  rw [interface, first] at assigned
  have later : Assigned g (some n.controlInterface) (some n.firstString) :=
    assigned_later assigned kept
  have reserved : g.endpoint ≠ none := by
    rw [(terms_run (start.run before).2 after).endpoint n.endpoint own]
    simp
  refine ⟨_, n.controlInterface, n.streamingInterface, n.functionString, n.streamingString,
    interface, first, learned, rfl, rfl, ?_, names_iff later.string⟩
  rw [next]
  exact selects_iff later reserved

end Gadget

/-- A gadget on the bench with these numbers, after a host has come. -/
def numberedFrom (interface string : UInt8) : Gadget Core Sink Bench.Codec :=
  ((Gadget.unregistered Core.fresh Sink.fresh Codec.fresh default 2).run
    [.powerOn, .requestEndpoints, .setFirstInterface interface, .setFirstString string,
      .connect]).2

/-- **The last interface number is given twice**, and the stream cannot be
selected by it. -/
theorem not_selects_last :
    (∃ out survey, (numberedFrom 255 1).writeDescriptors 192 (List.replicate 109 0) =
        (.ok 109, out) ∧
      Survey.ofBytes? (out.take 109) = some survey ∧
      survey.settings.map Setting.number = [255, 255, 255]) ∧
      ¬ Gadget.Selects (numberedFrom 255 1) 255 255 ∧
      ((numberedFrom 255 1).controlRequest (Request.setInterfacePacket 255 0 1) []).answer.1 =
        .unhandled ∧
      ((numberedFrom 255 1).controlRequest
        (Request.setInterfacePacket 255 0 1) []).next.isOperational = false := by
  have done : ((numberedFrom 255 1).writeDescriptors 192 (List.replicate 109 0)).1 = .ok 109 := by
    rfl
  have written : (numberedFrom 255 1).writeDescriptors 192 (List.replicate 109 0) = (.ok 109, _) :=
    Prod.ext done rfl
  obtain ⟨n, numbered, -, learned⟩ := Survey.of_writeDescriptors written
  have known : (numberedFrom 255 1).numbering? =
      .ok ⟨default, 255, 255, .ofNumber 1 .hostToDevice, 1⟩ := by rfl
  obtain rfl := Except.ok.inj (numbered.symm.trans known)
  exact ⟨⟨_, _, written, learned, rfl⟩, fun selects => selects.apart rfl, by decide +kernel,
    by decide +kernel⟩

/-- The last pair of each kind can be used, also by the next host. -/
theorem usable_iff_last :
    ((numberedFrom 254 254).writeDescriptors 192 (List.replicate 109 0)).1 = .ok 109 ∧
      ∃ streaming name,
        Gadget.Selects ((numberedFrom 254 254).run [.disconnect, .connect]).2 254 streaming ∧
        Gadget.Names ((numberedFrom 254 254).run [.disconnect, .connect]).2 254 name := by
  have done : ((numberedFrom 254 254).writeDescriptors 192 (List.replicate 109 0)).1 = .ok 109 := by
    rfl
  have written : (numberedFrom 254 254).writeDescriptors 192 (List.replicate 109 0) =
      (.ok 109, _) := Prod.ext done rfl
  have kept : ∀ call ∈ [Call.disconnect, Call.connect],
      call.firstInterface? = none ∧ call.firstString? = none := by decide
  obtain ⟨survey, control, streaming, function, name, interface, string, -, -, -, selects, names⟩ :=
    Gadget.usable_iff Core.fresh Sink.fresh Codec.fresh default 2
      [.powerOn, .requestEndpoints, .setFirstInterface 254, .setFirstString 254, .connect]
      [.disconnect, .connect] 192 109 (List.replicate 109 0) _ written kept
  obtain rfl : 254 = control := Option.some.inj interface
  obtain rfl : 254 = function := Option.some.inj string
  exact ⟨done, streaming, name, selects.2 (by decide), names.2 (by decide)⟩

end AudioGadget
