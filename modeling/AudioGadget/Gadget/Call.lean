import AudioGadget.Gadget.Connection
import AudioGadget.Gadget.ControlPipe
import AudioGadget.Gadget.Reception
import AudioGadget.Gadget.Registration
/-!
# Call — the operations of a gadget as values

A run of a gadget is a list of calls: what the core, the host and the
hardware do to it, in any order and with any arguments. `perform` gives
each call its meaning and `run` strings them together, so that a law
about every run is an induction over a list.
-/

namespace AudioGadget

/-- One operation on a gadget. -/
inductive Call where
  | powerOn
  | connect
  | disconnect
  | requestEndpoints
  | setFirstInterface (number : UInt8)
  | setFirstString (number : UInt8)
  | setInterface (interface alternate : UInt8)
  | getInterface (interface : UInt8)
  | writeDescriptors (maxPacket : Nat) (dest : Bytes)
  | stringDescriptor (index : UInt8)
  | controlRequest (setup : SetupPacket) (dest : Bytes)
  | dataStage (data : Bytes)
  | transferComplete (ep : EndpointAddress) (direction : Direction) (report : Report)
  /-- The core's transfers write into a slot that is out. -/
  | fillInFlight (buffer : BufferId) (data : Bytes)
deriving DecidableEq

/-- What a call answers. -/
inductive Answer where
  | done
  | endpoint (result : Except Refusal EndpointAddress)
  /-- The first number left over. -/
  | nextNumber (number : UInt8)
  | selected (result : Except Refusal Unit)
  | alternate (result : Except Refusal UInt8)
  /-- The length written and the caller's buffer. -/
  | descriptors (result : Except Refusal Nat) (dest : Bytes)
  | string (descriptor : Option Bytes)
  /-- The reply and the caller's buffer. -/
  | control (reply : Reply) (dest : Bytes)
  | data (reply : Reply)
  | completion (outcome : Completion)
  | filled (found : Bool)

namespace Gadget

variable {U S C : Type} [UsbCore U] [PcmSink S] [Codec C]

/-- Perform one call. -/
def perform (g : Gadget U S C) : Call → Step (Gadget U S C) Answer
  | .powerOn => let step := g.powerOn; ⟨.done, step.next, step.log⟩
  | .connect => let step := g.connect; ⟨.done, step.next, step.log⟩
  | .disconnect => let step := g.disconnect; ⟨.done, step.next, step.log⟩
  | .requestEndpoints =>
    let step := g.requestEndpoints
    ⟨.endpoint step.answer, step.next, step.log⟩
  | .setFirstInterface n =>
    let (next, g) := g.setFirstInterface n
    ⟨.nextNumber next, g, []⟩
  | .setFirstString n =>
    let (next, g) := g.setFirstString n
    ⟨.nextNumber next, g, []⟩
  | .setInterface interface alternate =>
    let step := g.setInterface interface alternate
    ⟨.selected step.answer, step.next, step.log⟩
  | .getInterface interface => ⟨.alternate (g.getInterface interface), g, []⟩
  | .writeDescriptors maxPacket dest =>
    let (result, dest) := g.writeDescriptors maxPacket dest
    ⟨.descriptors result dest, g, []⟩
  | .stringDescriptor index => ⟨.string (g.stringDescriptor? index), g, []⟩
  | .controlRequest setup dest =>
    let step := g.controlRequest setup dest
    ⟨.control step.answer.1 step.answer.2, step.next, step.log⟩
  | .dataStage data =>
    let step := g.dataStage data
    ⟨.data step.answer, step.next, step.log⟩
  | .transferComplete ep direction report =>
    let (outcome, g) := g.transferComplete ep direction report
    ⟨.completion outcome, g, []⟩
  | .fillInFlight buffer data =>
    let (found, g) := g.fillInFlight buffer data
    ⟨.filled found, g, []⟩

/-- Perform calls in order: their answers and the gadget after the last. -/
def run (g : Gadget U S C) : List Call → List Answer × Gadget U S C
  | [] => ([], g)
  | call :: calls =>
    let step := g.perform call
    let (answers, last) := step.next.run calls
    (step.answer :: answers, last)

/-- **A run goes on where it stopped.** -/
theorem run_append (g : Gadget U S C) (calls more : List Call) :
    g.run (calls ++ more) =
      ((g.run calls).1 ++ ((g.run calls).2.run more).1, ((g.run calls).2.run more).2) := by
  induction calls generalizing g with
  | nil => rfl
  | cons call calls ih => simp [run, ih]

theorem run_concat (g : Gadget U S C) (calls : List Call) (call : Call) :
    (g.run (calls ++ [call])).2 = ((g.run calls).2.perform call).next := by
  rw [run_append]
  rfl

/-- **The calls of a run, each with its answer.** -/
def transcript (g : Gadget U S C) (calls : List Call) : List (Call × Answer) :=
  calls.zip (g.run calls).1

theorem transcript_cons (g : Gadget U S C) (call : Call) (calls : List Call) :
    g.transcript (call :: calls) =
      (call, (g.perform call).answer) :: (g.perform call).next.transcript calls := rfl

end Gadget

end AudioGadget
