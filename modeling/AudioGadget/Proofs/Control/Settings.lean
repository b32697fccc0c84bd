import AudioGadget.Proofs.Descriptors.Assigned
/-!
# Settings — two ways to select one

The device selects a setting of the streaming interface by name, and a host
selects one by a setup packet. The packet comes through the control pipe,
with a word for the setting where the device has an octet, and is checked
there again. It does what the device does, all the same, and is handled
where the device succeeds (`controlRequest_setInterfacePacket`); a word
beyond an octet is no setting (`setInterface_of_large`).

So it does not matter who selects. What both report is the setting that was
accepted last, in either way, since everything was last put back.
`Selection` follows a run from outside, call by call with its answers, and
`Keeps` says that the gadget agrees with it.
-/

namespace AudioGadget

open Bench

/-- **What a run says of the streaming interface**: where its numbers begin,
and the setting that was accepted last. -/
structure Selection where
  /-- The first interface that was assigned last. -/
  first : Option UInt8
  setting : UInt8
deriving DecidableEq

namespace Selection

/-- Before any call there is no number, and setting 0. -/
def initial : Selection := ⟨none, 0⟩

/-- **The packet selects a setting of the streaming interface**, if the
numbers begin here. A number that both interfaces have is the control
interface's. -/
def Names (first : Option UInt8) (setup : SetupPacket) : Prop :=
  setup.requestType = 0x01 ∧ setup.request = setInterfaceCode ∧
    first.map (numberAfter · 1) = some (lowByte setup.index) ∧
    first ≠ some (lowByte setup.index)

instance (first : Option UInt8) (setup : SetupPacket) : Decidable (Names first setup) :=
  inferInstanceAs (Decidable (_ ∧ _))

/-- **The setting that a call decides**, with its answer, if the numbers begin
here: power-on and the ends of a connection put it back, and a selection
counts if it was accepted. -/
def decided? (first : Option UInt8) : Call → Answer → Option UInt8
  | .powerOn, _ | .connect, _ | .disconnect, _ => some 0
  | .setInterface _ alternate, .selected (.ok ()) => some alternate
  | .controlRequest setup _, .control (.handled _) _ =>
    if Names first setup then some (Request.alternateOfWord setup.value) else none
  | _, _ => none

/-- What one call adds, with its answer. -/
def after (s : Selection) (entry : Call × Answer) : Selection where
  first := entry.1.firstInterface?.or s.first
  setting := (decided? s.first entry.1 entry.2).getD s.setting

/-- What a whole run says. -/
def ofTranscript (log : List (Call × Answer)) : Selection :=
  log.foldl after initial

/-- A packet that is not for the stream decides nothing. -/
theorem decided?_of_not_names {first : Option UInt8} {setup : SetupPacket}
    (other : ¬ Names first setup) (dest : Bytes) (answer : Answer) :
    decided? first (.controlRequest setup dest) answer = none := by
  unfold decided?
  split <;> simp_all

end Selection

namespace Gadget

variable {U S C : Type} {g : Gadget U S C} {s : Selection}

/-- **The gadget agrees with what the run says.** -/
structure Keeps (g : Gadget U S C) (s : Selection) : Prop where
  control : g.controlInterface = s.first
  streaming : g.streaming.number = s.first.map (numberAfter · 1)
  setting : g.streaming.selected.number = s.setting

variable [UsbCore U] [PcmSink S]

/-- A word beyond an octet selects nothing. -/
theorem setInterface_of_large {value : UInt16} (large : 255 < value.toNat) (interface : UInt8) :
    (∃ e, (g.setInterface interface (Request.alternateOfWord value)).answer = .error e) ∧
      (g.setInterface interface (Request.alternateOfWord value)).next = g := by
  have last : Request.alternateOfWord value = 255 := by
    rw [Request.alternateOfWord, Nat.min_eq_left (Nat.le_of_lt large)]
    rfl
  rcases result : (g.setInterface interface (Request.alternateOfWord value)).answer with e | done
  · exact ⟨⟨e, rfl⟩, (setInterface_of_error result).1⟩
  · obtain ⟨-, zero | one, -⟩ := setInterface_ok_iff.1 result
    · cases last.symm.trans zero
    · cases last.symm.trans one

/-! ## What is reported -/

/-- **A packet that selects a setting of the stream is followed**, and any
other leaves the setting. -/
theorem Keeps.controlRequest (h : Keeps g s) (setup : SetupPacket) (dest out : Bytes) :
    (g.controlRequest setup dest).next.streaming.selected.number =
      (Selection.decided? s.first (.controlRequest setup dest)
        (.control (g.controlRequest setup dest).answer.1 out)).getD s.setting := by
  cases serves g setup dest with
  | unread _ answer next =>
    rw [answer, next]
    exact h.setting
  | @read control streaming request own read _ next =>
    obtain ⟨first, second⟩ := interfaces?_eq_some_iff.1 own
    have first : s.first = some control := h.control.symm.trans first
    cases Request.asks_of_ofSetup? read with
    | feature verb c channel =>
      have other : ¬ Selection.Names s.first (Request.featurePacket control verb c channel) := by
        rintro ⟨type, -⟩
        cases verb <;> cases type
      rw [Selection.decided?_of_not_names other, next, ← h.setting]
      cases verb with
      | setCurrent =>
        change (g.dropPending.acceptWrite c channel).next.streaming.selected.number = _
        unfold acceptWrite
        split <;> rfl
      | getCurrent | getMinimum | getMaximum | getResolution => rfl
    | @getInterface interface _ high value =>
      have other : ¬ Selection.Names s.first (Request.getInterfacePacket interface high value) := by
        rintro ⟨type, -⟩
        cases type
      rw [Selection.decided?_of_not_names other, next, ← h.setting]
      rfl
    | @setInterface interface named high value =>
      by_cases theirs : interface = control
      · have other :
            ¬ Selection.Names s.first (Request.setInterfacePacket interface high value) := by
          rintro ⟨-, -, -, apart⟩
          refine apart ?_
          rw [Request.setInterfacePacket, lowByte_field16, theirs, first]
        rw [Selection.decided?_of_not_names other, next, ← h.setting]
        change (g.dropPending.selectForHost control interface _).next.streaming.selected.number = _
        rw [next_selectForHost, if_pos theirs]
        rfl
      · obtain rfl : interface = streaming := named.resolve_left theirs
        have names : Selection.Names s.first (Request.setInterfacePacket interface high value) := by
          refine ⟨rfl, rfl, ?_, ?_⟩
          · rw [Request.setInterfacePacket, lowByte_field16, ← h.streaming, second]
          · rw [Request.setInterfacePacket, lowByte_field16, first]
            exact fun same => theirs (Option.some.inj same).symm
        obtain ⟨next, ⟨taken, reply⟩ | ⟨⟨e, refused⟩, reply⟩⟩ :=
          controlRequest_setInterfacePacket own (Ne.symm theirs) high value dest
        · rw [reply, next]
          simp only [Selection.decided?, if_pos names, Option.getD_some]
          rcases selected_setInterface g interface (Request.alternateOfWord value) with
            ⟨e, refused⟩ | ⟨-, number⟩
          · cases taken.symm.trans refused
          · exact number.symm
        · rw [reply, next, (setInterface_of_error refused).1]
          exact h.setting

variable [Codec C]

/-- **Every call is followed.** -/
theorem Keeps.perform (h : Keeps g s) (call : Call) :
    Keeps (g.perform call).next (s.after (call, (g.perform call).answer)) := by
  have numbers : Assigned g s.first g.firstString := ⟨h.control, h.streaming, rfl⟩
  have assigned := numbers.perform call
  refine ⟨assigned.control, assigned.streaming, ?_⟩
  cases call with
  | powerOn => rfl
  | connect | disconnect =>
    change g.wind.streaming.selected.number = 0
    rw [wind_eq]
    rfl
  | requestEndpoints =>
    obtain ⟨usb, endpoint, next⟩ := g.exists_next_requestEndpoints
    have next : (g.perform .requestEndpoints).next = _ := next
    rw [next]
    exact h.setting
  | setInterface interface alternate =>
    change (g.setInterface interface alternate).next.streaming.selected.number =
      (Selection.decided? s.first (.setInterface interface alternate)
        (.selected (g.setInterface interface alternate).answer)).getD s.setting
    rcases selected_setInterface g interface alternate with ⟨e, refused⟩ | ⟨taken, number⟩
    · rw [refused, (setInterface_of_error refused).1]
      exact h.setting
    · rw [taken]
      exact number.symm
  | controlRequest setup dest => exact h.controlRequest setup dest _
  | dataStage data =>
    exact (congrArg Alternate.number (sameStream_dataStage g data).selected).trans h.setting
  | transferComplete ep direction report =>
    have bus : (Call.transferComplete ep direction report).isBus = true := rfl
    have same := g.controlSide_of_isBus bus
    exact (congrArg (·.streaming.selected.number) same).trans h.setting
  | fillInFlight => exact h.setting
  | setFirstInterface | setFirstString => exact h.setting
  | getInterface | writeDescriptors | stringDescriptor => exact h.setting

/-- **So is every run.** -/
theorem Keeps.run (h : Keeps g s) (calls : List Call) :
    Keeps (g.run calls).2 ((g.transcript calls).foldl Selection.after s) := by
  induction calls generalizing g s with
  | nil => exact h
  | cons call calls ih => exact ih (h.perform call)

/-- **It does not matter who selects.** In a gadget that was called in any way,
and whose numbers begin at `n`, before the last that there is: a packet that
selects a setting of the streaming interface leaves the gadget and all it
works with as the call does, but for a write that waited, and is handled if
the call succeeds. A word that is no octet is not handled and changes
nothing else. And the setting that either way of asking reports is the one
that was accepted last, in either way, since everything was put back. -/
theorem selections_agree (usb : U) (sink : S) (codec : C) (format : StreamFormat) (slots : Nat)
    (calls : List Call) (n : UInt8) (last : lastInterface? calls = some n) (room : n.toNat ≤ 254) :
    let start := Gadget.unregistered usb sink codec format slots
    let g := (start.run calls).2
    let streaming := numberAfter n 1
    let setting := (Selection.ofTranscript (start.transcript calls)).setting
    (∀ high value dest,
      let asked := g.controlRequest (Request.setInterfacePacket streaming high value) dest
      let direct := g.setInterface streaming (UInt8.ofNat value.toNat)
      (value.toNat ≤ 255 →
        asked.next = { direct.next with pending := none } ∧
          (direct.answer = .ok () ∧ asked.answer = (.handled 0, dest) ∨
            (∃ e, direct.answer = .error e) ∧ asked.answer = (.unhandled, dest))) ∧
      (255 < value.toNat →
        asked.next = { g with pending := none } ∧ asked.answer = (.unhandled, dest))) ∧
    g.getInterface streaming = .ok setting ∧
    ∀ high value first rest,
      (g.controlRequest (Request.getInterfacePacket streaming high value) (first :: rest)).answer =
        (.handled 1, setting :: rest) := by
  intro start g streaming setting
  have assigned := assigned_run usb sink codec format slots calls
  rw [last] at assigned
  have own : g.interfaces? = some (n, streaming) :=
    interfaces?_eq_some_iff.2 ⟨assigned.control, assigned.streaming⟩
  have apart : n ≠ streaming := by
    intro same
    rw [numberAfter_one_eq_self_iff.1 same.symm] at room
    exact absurd room (by decide)
  have keeps : Keeps g (Selection.ofTranscript (start.transcript calls)) :=
    Keeps.run (g := start) ⟨rfl, rfl, rfl⟩ calls
  have number : g.streaming.number = some streaming := assigned.streaming
  have reported : g.getInterface streaming = .ok setting := by
    rw [getInterface, StreamingInterface.current?, if_pos number]
    exact congrArg Except.ok keeps.setting
  refine ⟨fun high value dest => ⟨fun small => ?_, fun large => ?_⟩, reported, ?_⟩
  · have same : Request.alternateOfWord value = UInt8.ofNat value.toNat := by
      rw [Request.alternateOfWord, Nat.min_eq_right small]
    have agrees := controlRequest_setInterfacePacket own apart high value dest
    rw [same] at agrees
    exact agrees
  · obtain ⟨⟨e, refused⟩, kept⟩ := g.setInterface_of_large large streaming
    obtain ⟨next, ⟨taken, -⟩ | ⟨-, reply⟩⟩ :=
      controlRequest_setInterfacePacket own apart high value dest
    · cases taken.symm.trans refused
    · exact ⟨next.trans (congrArg dropPending kept), reply⟩
  · intro high value first rest
    refine answer_getInterfacePacket own (.inr rfl) ?_ high first value rest
    rw [alternateAnswer, if_pos rfl, reported]

end Gadget

/-- The stream is started by name, the interfaces get other numbers, and a
write is announced. -/
def relocated : List Call :=
  [.powerOn, .requestEndpoints, .setFirstInterface 5, .connect, .setInterface 6 1,
    .setFirstInterface 254, .controlRequest (Request.featurePacket 254 .setCurrent .volume 1) []]

/-- Setting 1 is still reported, also for the new number. The word 257 does
not select it, and the word 0 ends the stream. -/
theorem selections_agree_relocated :
    let start := Gadget.unregistered Core.fresh Sink.fresh Codec.fresh default 2
    let g := (start.run relocated).2
    lastInterface? relocated = some 254 ∧ g.pending ≠ none ∧ g.getInterface 255 = .ok 1 ∧
      (g.controlRequest (Request.setInterfacePacket 255 9 257) [7]).answer = (.unhandled, [7]) ∧
      (g.controlRequest (Request.setInterfacePacket 255 9 257) [7]).next = g.dropPending ∧
      (g.controlRequest (Request.setInterfacePacket 255 9 0) [7]).next =
        (g.setInterface 255 0).next.dropPending ∧
      (g.controlRequest (Request.getInterfacePacket 255 9 3) [7, 7]).answer =
        (.handled 1, [1, 7]) := by
  intro start g
  have last : lastInterface? relocated = some 254 := by decide
  have waits : g.pending ≠ none := by decide +kernel
  have setting : (Selection.ofTranscript (start.transcript relocated)).setting = 1 := by
    decide +kernel
  obtain ⟨asked, reported, answered⟩ :=
    Gadget.selections_agree Core.fresh Sink.fresh Codec.fresh default 2 relocated 254 last
      (by decide)
  rw [setting] at reported answered
  obtain ⟨dropped, refused⟩ := (asked 9 257 [7]).2 (by decide)
  exact ⟨last, waits, reported, refused, dropped, ((asked 9 0 [7]).1 (by decide)).1,
    answered 9 3 7 [7]⟩

end AudioGadget
