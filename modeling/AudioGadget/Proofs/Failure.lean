import AudioGadget.Bench.Codec
import AudioGadget.Bench.Core
import AudioGadget.Bench.Sink
import AudioGadget.Proofs.Stream
/-!
# Failure — a call that fails leaves no trace

There are many reasons to refuse a call, and they are found in different
places: a foreign interface, a setting that does not exist, a number that
is missing, a buffer without room, a packet that is too large, a name that
is not out. Each of them is found before anything is changed and before
anybody is told, so a refusal leaves the gadget, its collaborators and the
caller's buffer as they were.

Two things remain of some. A setup packet and the data of a write use up
the write that waits, whatever comes of them; and a core that has no
endpoint to give was asked for one.
-/

namespace AudioGadget

open Bench

/-- The call was refused. -/
def Answer.isFailure : Answer → Bool
  | .endpoint (.error _) | .selected (.error _) | .alternate (.error _) => true
  | .descriptors (.error _) _ => true
  | .control .unhandled _ | .data .unhandled => true
  | .completion .ignored => true
  | _ => false

/-- An endpoint that was refused was refused for a reason. -/
theorem Answer.exists_error_of_endpoint {given : Except Refusal EndpointAddress}
    (failed : (Answer.endpoint given).isFailure = true) : ∃ e, given = .error e := by
  cases given with
  | error e => exact ⟨e, rfl⟩
  | ok ep => cases failed

/-- The buffer that comes back with an answer. -/
def Answer.dest? : Answer → Option Bytes
  | .descriptors _ dest | .control _ dest => some dest
  | _ => none

/-- The buffer that a call brings for its answer. -/
def Call.dest? : Call → Option Bytes
  | .writeDescriptors _ dest | .controlRequest _ dest => some dest
  | _ => none

/-- The call is on the control pipe, where a write may wait. -/
def Call.isPiped : Call → Bool
  | .controlRequest .. | .dataStage _ => true
  | _ => false

/-- **A fragment that is refused is not begun.** -/
theorem Fragment.write_of_error {n : Numbering} {maxPacket : Nat} {dest out : Bytes} {e : Refusal}
    (h : write n maxPacket dest = (.error e, out)) : out = dest := by
  unfold write at h
  dsimp only at h
  split at h
  · cases h
    rfl
  · split at h
    · cases h
      rfl
    · cases h

namespace Gadget

variable {U S C : Type}

/-! ## Where the calls are refused -/

theorem writeDescriptors_of_error {g : Gadget U S C} {maxPacket : Nat} {dest out : Bytes}
    {e : Refusal} (h : g.writeDescriptors maxPacket dest = (.error e, out)) : out = dest := by
  unfold writeDescriptors at h
  split at h
  · cases h
    rfl
  · split at h
    · cases h
      rfl
    · exact Fragment.write_of_error h

/-- **A core that gives no endpoint was asked for one**, and that is all. -/
theorem requestEndpoints_of_error [UsbCore U] {g : Gadget U S C} {e : Refusal}
    (h : g.requestEndpoints.answer = .error e) :
    (UsbCore.allocEndpoint g.usb .isochronous .hostToDevice g.format.maxPacketSize).1 = none ∧
      g.requestEndpoints.next = { g with
        usb := (UsbCore.allocEndpoint g.usb .isochronous .hostToDevice g.format.maxPacketSize).2 } := by
  unfold requestEndpoints at h ⊢
  split at h
  · cases h
  · split at h
    · rename_i refused
      rw [refused]
      exact ⟨rfl, rfl⟩
    · cases h

/-- A write that is not announced properly is not accepted. -/
theorem acceptWrite_of_unhandled {g : Gadget U S C} {control : Control} {channel : UInt8}
    (h : (g.acceptWrite control channel).answer = .unhandled) :
    (g.acceptWrite control channel).next = g := by
  by_cases supported : g.feature.supports control channel = true
  · rw [acceptWrite, if_pos supported] at h
    cases h
  · rw [acceptWrite, if_neg supported]

theorem selectForHost_of_unhandled [UsbCore U] [PcmSink S] {g : Gadget U S C}
    {control interface alternate : UInt8}
    (h : (g.selectForHost control interface alternate).answer = .unhandled) :
    (g.selectForHost control interface alternate).next = g := by
  rw [next_selectForHost]
  split
  · rfl
  · rename_i other
    rcases answer_selectForHost g control interface alternate with ⟨-, handled⟩ | ⟨refused, -⟩
    · cases handled.symm.trans h
    · rw [if_neg other] at refused
      rcases answer : (g.setInterface interface alternate).answer with e | done
      · exact (setInterface_of_error answer).1
      · exact absurd answer refused

/-- **A request that is not served changes nothing.** -/
theorem answerRequest_of_unhandled [UsbCore U] [PcmSink S] {g : Gadget U S C}
    {control streaming : UInt8} {request : Request} {dest : Bytes}
    (h : (g.answerRequest control streaming request dest).answer.1 = .unhandled) :
    (g.answerRequest control streaming request dest).next = g ∧
      (g.answerRequest control streaming request dest).answer.2 = dest := by
  unfold answerRequest at h ⊢
  split at h
  · exact ⟨acceptWrite_of_unhandled h, rfl⟩
  · exact ⟨rfl, Reply.write_unhandled h⟩
  · exact ⟨rfl, Reply.write_unhandled h⟩
  · exact ⟨selectForHost_of_unhandled h, rfl⟩

/-- **Nor does a setup packet that is not answered**, beyond the write that
waited. -/
theorem controlRequest_of_unhandled [UsbCore U] [PcmSink S] {g : Gadget U S C}
    {setup : SetupPacket} {dest : Bytes}
    (h : (g.controlRequest setup dest).answer.1 = .unhandled) :
    (g.controlRequest setup dest).next = g.dropPending ∧
      (g.controlRequest setup dest).answer.2 = dest := by
  cases serves g setup dest with
  | unread _ answer next => exact ⟨next, congrArg Prod.snd answer⟩
  | read _ _ answer next =>
    rw [answer] at h ⊢
    rw [next]
    exact answerRequest_of_unhandled h

theorem dropPending_of_none {g : Gadget U S C} (none : g.pending = none) : g.dropPending = g := by
  rw [dropPending, ← none]

/-- Data that is not taken is not stored. -/
theorem dataStage_of_unhandled [Codec C] {g : Gadget U S C} {data : Bytes}
    (h : (g.dataStage data).answer = .unhandled) : (g.dataStage data).next = g.dropPending := by
  rcases waits : g.pending with _ | write
  · simp only [dataStage, waits, dropPending_of_none waits]
  · simp only [dataStage, waits] at h ⊢
    split at h
    · rename_i whole
      rw [if_pos whole]
      split at h
      · rfl
      · cases h
    · rename_i wrong
      rw [if_neg wrong]

/-- A report that is ignored is not read. -/
theorem transferComplete_of_ignored [UsbCore U] [PcmSink S] {g : Gadget U S C}
    {ep : EndpointAddress} {direction : Direction} {report : Report}
    (h : (g.transferComplete ep direction report).1 = .ignored) :
    (g.transferComplete ep direction report).2 = g := by
  cases reports g ep direction report with
  | ignored _ next => rw [next]
  | stale _ _ _ _ next =>
    rw [next] at h
    cases h
  | running _ _ _ _ next =>
    rw [next] at h
    exact absurd h (SlotPool.receive_ne_ignored _ _ _ _)

/-! ## Every call -/

/-- **A call left no trace**: `g'` is the gadget `g` from before, apart from
the core and a write that waited. -/
structure Traceless (g g' : Gadget U S C) (call : Call) : Prop where
  next : g' = { g with usb := g'.usb, pending := if call.isPiped then none else g.pending }
  usb : call ≠ .requestEndpoints → g'.usb = g.usb

theorem Traceless.refl {g : Gadget U S C} {call : Call} (unpiped : call.isPiped = false) :
    Traceless g g call :=
  ⟨by rw [unpiped]; rfl, fun _ => rfl⟩

theorem Traceless.dropped {g : Gadget U S C} {call : Call} (piped : call.isPiped = true) :
    Traceless g g.dropPending call :=
  ⟨by rw [piped]; rfl, fun _ => rfl⟩

/-- **Every failed call left none**, and its buffer is as it was. -/
theorem traceless_of_isFailure [UsbCore U] [PcmSink S] [Codec C] {g : Gadget U S C} {call : Call}
    (failed : (g.perform call).answer.isFailure = true) :
    Traceless g (g.perform call).next call ∧ (g.perform call).answer.dest? = call.dest? := by
  cases call with
  | powerOn | connect | disconnect => cases failed
  | setFirstInterface | setFirstString | stringDescriptor | fillInFlight => cases failed
  | requestEndpoints =>
    obtain ⟨e, refused⟩ := Answer.exists_error_of_endpoint failed
    obtain ⟨-, next⟩ := requestEndpoints_of_error refused
    refine ⟨⟨?_, fun other => absurd rfl other⟩, rfl⟩
    change g.requestEndpoints.next = { g with usb := g.requestEndpoints.next.usb }
    rw [next]
  | setInterface interface alternate =>
    rcases refused : (g.setInterface interface alternate).answer with e | done
    · have next : (g.perform (.setInterface interface alternate)).next = g :=
        (setInterface_of_error refused).1
      rw [next]
      exact ⟨.refl rfl, rfl⟩
    · simp [perform, refused, Answer.isFailure] at failed
  | getInterface interface => exact ⟨.refl rfl, rfl⟩
  | writeDescriptors maxPacket dest =>
    rcases refused : g.writeDescriptors maxPacket dest with ⟨e | length, out⟩
    · have same : (g.perform (.writeDescriptors maxPacket dest)).answer.dest? = some out := by
        simp only [perform, refused, Answer.dest?]
      exact ⟨.refl rfl, same.trans (congrArg some (writeDescriptors_of_error refused))⟩
    · simp [perform, refused, Answer.isFailure] at failed
  | controlRequest setup dest =>
    have unhandled : (g.controlRequest setup dest).answer.1 = .unhandled := by
      rcases reply : (g.controlRequest setup dest).answer.1 with n | _
      · simp [perform, reply, Answer.isFailure] at failed
      · rfl
    obtain ⟨next, out⟩ := controlRequest_of_unhandled unhandled
    have next : (g.perform (.controlRequest setup dest)).next = g.dropPending := next
    rw [next]
    exact ⟨.dropped rfl, congrArg some out⟩
  | dataStage data =>
    have unhandled : (g.dataStage data).answer = .unhandled := by
      rcases reply : (g.dataStage data).answer with n | _
      · simp [perform, reply, Answer.isFailure] at failed
      · rfl
    have next : (g.perform (.dataStage data)).next = g.dropPending :=
      dataStage_of_unhandled unhandled
    rw [next]
    exact ⟨.dropped rfl, rfl⟩
  | transferComplete ep direction report =>
    have ignored : (g.transferComplete ep direction report).1 = .ignored := by
      rcases outcome : (g.transferComplete ep direction report).1 with _ | _ | _ | _ | _ | _ <;>
        simp_all [perform, Answer.isFailure]
    have next : (g.perform (.transferComplete ep direction report)).next = g :=
      transferComplete_of_ignored ignored
    rw [next]
    exact ⟨.refl rfl, rfl⟩

variable [UsbCore U] [PcmSink S] [Codec C]

/-- **Failure leaves no trace.** A call that is refused leaves the gadget as
it was; a setup packet and the data of a write leave no write waiting. The
sink and the codec are not told anything, and the core is asked for nothing
but the endpoint that it did not give. The caller's buffer is what it was,
octet for octet. -/
theorem failure_leaves_no_trace
    (g : Gadget (Watched U CoreCall) (Watched S SinkCall) (Watched C CodecCall)) (call : Call)
    (failed : (g.perform call).answer.isFailure = true) :
    let step := g.perform call
    Traceless g step.next call ∧
      step.next.usb.calls = g.usb.calls ++
        (if call = .requestEndpoints then
          [.allocEndpoint .isochronous .hostToDevice g.format.maxPacketSize none]
        else []) ∧
      step.next.sink.calls = g.sink.calls ∧ step.next.codec.calls = g.codec.calls ∧
      step.answer.dest? = call.dest? := by
  intro step
  obtain ⟨traceless, out⟩ := traceless_of_isFailure failed
  have asked : step.next.usb.calls = g.usb.calls ++
      (if call = .requestEndpoints then
        [.allocEndpoint .isochronous .hostToDevice g.format.maxPacketSize none]
      else []) := by
    by_cases reserving : call = .requestEndpoints
    · subst reserving
      obtain ⟨e, refused⟩ := Answer.exists_error_of_endpoint failed
      obtain ⟨none, next⟩ := requestEndpoints_of_error refused
      have next : step.next = _ := next
      rw [next, ← none]
      rfl
    · rw [if_neg reserving, List.append_nil, traceless.usb reserving]
  refine ⟨traceless, asked, ?_, ?_, out⟩
  · exact congrArg (·.sink.calls) traceless.next
  · exact congrArg (·.codec.calls) traceless.next

end Gadget

/-- A gadget whose core has no endpoint left. -/
def stranded :
    Gadget (Watched Core CoreCall) (Watched Sink SinkCall) (Watched Bench.Codec CodecCall) :=
  .unregistered (Watched.of Core.fresh.exhaust) (Watched.of Sink.fresh) (Watched.of Codec.fresh)
    default 1

/-- A write is announced, and its data is not sent. -/
def unsent : List Call :=
  [.powerOn, .setFirstInterface 0, .connect,
    .controlRequest (Request.featurePacket 0 .setCurrent .volume 1) []]

/-- The volume is asked for, with room for one octet of it. -/
def tooTight : Call :=
  .controlRequest (Request.featurePacket 0 .getCurrent .volume 1) [7]

/-- There is no endpoint to reserve, and no room to read a volume. -/
theorem failure_leaves_no_trace_stranded :
    ((stranded.run unsent).2.perform .requestEndpoints).answer.isFailure = true ∧
      ((stranded.run unsent).2.perform .requestEndpoints).next.usb.calls =
        [.allocEndpoint .isochronous .hostToDevice 196 none] ∧
      (stranded.run unsent).2.pending ≠ none ∧
      ((stranded.run unsent).2.perform tooTight).answer.isFailure = true ∧
      ((stranded.run unsent).2.perform tooTight).next = (stranded.run unsent).2.dropPending ∧
      ((stranded.run unsent).2.perform tooTight).answer.dest? = some [7] := by
  have refused : ((stranded.run unsent).2.perform .requestEndpoints).answer.isFailure = true := by
    decide +kernel
  have tight : ((stranded.run unsent).2.perform tooTight).answer.isFailure = true := by
    decide +kernel
  have waits : (stranded.run unsent).2.pending ≠ none := by decide +kernel
  obtain ⟨-, asked, -⟩ :=
    Gadget.failure_leaves_no_trace (stranded.run unsent).2 .requestEndpoints refused
  obtain ⟨left, -, -, -, out⟩ :=
    Gadget.failure_leaves_no_trace (stranded.run unsent).2 tooTight tight
  refine ⟨refused, asked, waits, tight, ?_, out⟩
  rw [left.next, left.usb (by decide)]
  rfl

end AudioGadget
