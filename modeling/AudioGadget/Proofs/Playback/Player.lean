import AudioGadget.Proofs.Playback.Cue
import AudioGadget.Proofs.Playback.Queue
/-!
# Player — a gadget with a pipeline behind it

A `Player` is a gadget whose sink is a pipeline, watched for the calls it
is asked. Its turns are the calls on the gadget and the drains of the
DAC, in any order, and `play` writes down what can be heard of them: the
stream begins and ends, receptions are reported, audio is drained.

`Scene` lists what one turn can be, and `scene_turn` says that every turn
is one of these. What is true of all recordings is proved by one case for
a scene.
-/

namespace AudioGadget

open Bench Gadget

/-- **A gadget that plays through a pipeline** of `capacity` octets. -/
abbrev Player (U C : Type) (capacity : Nat) :=
  Gadget U (Watched (Pipeline capacity) SinkCall) C

/-- Something that happens to a player. -/
inductive Turn where
  | call (call : Call)
  /-- The DAC asks for as much audio as `out` has room for. -/
  | drain (out : Bytes)
deriving DecidableEq

/-- **Something that can be heard of a turn.** -/
inductive Moment where
  | started
  | stopped
  /-- A reception was reported, what became of it, and its payload: as much
  of its slot as was reported, as the slot stood at that moment. -/
  | completed (report : Report) (outcome : Completion) (payload : Bytes)
  /-- The audio of one drain, without the silence behind it. -/
  | drained (audio : Bytes)
deriving DecidableEq

/-- The moment a call to the sink makes, if it makes one. -/
def Moment.ofSinkCall? : SinkCall → Option Moment
  | .start => some .started
  | .stop => some .stopped
  | .accept .. => none

namespace Player

variable {U C : Type} {capacity : Nat}

def pipeline (g : Player U C capacity) : Pipeline capacity :=
  g.sink.inner

/-- The octets that a report is about. -/
def payload (g : Player U C capacity) (report : Report) : Bytes :=
  match g.pool.slots[report.buffer.place]? with
  | some slot => slot.contents.take report.length
  | none => []

/-- What a report by itself adds to the recording. -/
def reported (g : Player U C capacity) : Call → Answer → List Moment
  | .transferComplete _ _ report, .completion outcome =>
    [.completed report outcome (g.payload report)]
  | _, _ => []

variable [UsbCore U] [Codec C]

/-- One turn, and its moments. -/
def turn (g : Player U C capacity) : Turn → List Moment × Player U C capacity
  | .call call =>
    let step := g.perform call
    (g.reported call step.answer ++ (g.sink.since step.next.sink).filterMap Moment.ofSinkCall?,
      step.next)
  | .drain out =>
    let (taken, filled, pipeline) := g.pipeline.drain out
    ([.drained (filled.take taken)], { g with sink := { g.sink with inner := pipeline } })

/-- **The recording of some turns**, and the player after them. -/
def play (g : Player U C capacity) : List Turn → List Moment × Player U C capacity
  | [] => ([], g)
  | t :: turns =>
    let (moments, next) := g.turn t
    let (later, last) := next.play turns
    (moments ++ later, last)

theorem play_append (g : Player U C capacity) (turns more : List Turn) :
    g.play (turns ++ more) =
      ((g.play turns).1 ++ ((g.play turns).2.play more).1, ((g.play turns).2.play more).2) := by
  induction turns generalizing g with
  | nil => rfl
  | cons t turns ih => simp [play, ih]

/-- Everything switched off, and the pipeline empty. -/
def off (usb : U) (codec : C) (format : StreamFormat) (layout : Layout) (slots : Nat) :
    Player U C capacity :=
  Gadget.unregistered usb (Watched.of (.idle layout)) codec format slots

/-! ## One packet, case by case -/

/-- **What becomes of a packet that came back** while the stream runs. -/
inductive Received (sink : Watched (Pipeline capacity) SinkCall) (report : Report)
    (packet : Bytes) : Completion → Watched (Pipeline capacity) SinkCall → Prop
  | spoilt {outcome : Completion} (spoilt : outcome ≠ .forwarded) :
      Received sink report packet outcome sink
  | empty (none : report.length = 0) (nothing : packet = []) :
      Received sink report packet .forwarded sink
  | offered (whole : packet.length = report.length) :
      Received sink report packet
        (if (PcmSink.accept sink packet).1 = .accepted then .forwarded else .dropped)
        (PcmSink.accept sink packet).2

omit [UsbCore U] [Codec C] in
/-- **A packet that fits its lease is offered whole.** -/
theorem received_receive (p : SlotPool) (sink : Watched (Pipeline capacity) SinkCall) (slot : Slot)
    (report : Report) :
    Received sink report (slot.contents.take report.length) (p.receive sink slot report).1
      (p.receive sink slot report).2.2 := by
  unfold SlotPool.receive
  split
  · split
    · exact .spoilt (by simp)
    · rename_i fits
      have whole : (slot.contents.take report.length).length = report.length :=
        slot.length_take (Nat.le_trans (Nat.not_lt.1 fits) p.packetLength_le)
      unfold SlotPool.forward
      split
      · rename_i nothing
        rw [List.isEmpty_iff] at nothing
        exact .empty (by simpa [nothing] using whole.symm) nothing
      · have offered : Received sink report (slot.contents.take report.length) _ _ := .offered whole
        split
        · rename_i sink' accept
          simpa [accept] using offered
        · rename_i sink' accept
          simpa [accept] using offered
  · exact .spoilt (by simp)
  · exact .spoilt (by simp)

/-! ## What a turn can be -/

/-- **What one turn does to the pipeline**, `g` before and `g'` afterwards,
and what can be heard of it. -/
inductive Scene (g g' : Player U C capacity) : Turn → List Moment → Prop
  /-- Nothing reaches the pipeline. -/
  | rest {t : Turn} (running : g'.isOperational = g.isOperational)
      (pipeline : g'.pipeline = g.pipeline) : Scene g g' t []
  /-- The gadget is switched on. The pipeline is not told. -/
  | powered (idle : g'.isOperational = false) (pipeline : g'.pipeline = g.pipeline) :
      Scene g g' (.call .powerOn) []
  /-- The stream begins. -/
  | started {t : Turn} (running : g'.isOperational = true)
      (pipeline : g'.pipeline = g.pipeline.start) : Scene g g' t [.started]
  /-- The stream ends. -/
  | stopped {t : Turn} (idle : g'.isOperational = false)
      (pipeline : g'.pipeline = g.pipeline.stop) : Scene g g' t [.stopped]
  /-- A report that is not of a packet. -/
  | spoilt {t : Turn} {report : Report} {outcome : Completion} {payload : Bytes}
      (running : g'.isOperational = g.isOperational) (spoilt : outcome ≠ .forwarded)
      (pipeline : g'.pipeline = g.pipeline) : Scene g g' t [.completed report outcome payload]
  /-- A packet without octets. -/
  | empty {t : Turn} {report : Report} (running : g'.isOperational = g.isOperational)
      (none : report.length = 0) (pipeline : g'.pipeline = g.pipeline) :
      Scene g g' t [.completed report .forwarded []]
  /-- A packet that is offered to the pipeline. -/
  | offered {t : Turn} {report : Report} {intake : Intake} {payload : Bytes}
      (running : g.isOperational = true) (still : g'.isOperational = true)
      (whole : payload.length = report.length)
      (accept : g.pipeline.accept payload = (intake, g'.pipeline)) :
      Scene g g' t
        [.completed report (if intake = .accepted then .forwarded else .dropped) payload]
  /-- A drain. -/
  | drained {out : Bytes} (running : g'.isOperational = g.isOperational)
      (pipeline : g'.pipeline = (g.pipeline.drain out).2.2) :
      Scene g g' (.drain out)
        [.drained ((g.pipeline.drain out).2.1.take (g.pipeline.drain out).1)]

/-- **A call that is no report keeps the stream, begins it or ends it.** -/
theorem scene_of_silent (g : Player U C capacity) {call : Call}
    (silent : ∀ answer, g.reported call answer = []) :
    Scene g (g.turn (.call call)).2 (.call call) (g.turn (.call call)).1 := by
  simp only [turn, silent, List.nil_append]
  cases cue_perform g call with
  | silent running sink =>
    rw [sink, Watched.since_self]
    exact .rest running (congrArg Watched.inner sink)
  | powered idle sink =>
    rw [sink, Watched.since_self]
    exact .powered idle (congrArg Watched.inner sink)
  | started _ running sink =>
    rw [Watched.since_of_append [.start] (by rw [sink]; rfl)]
    exact .started running (congrArg Watched.inner sink)
  | stopped _ idle sink =>
    rw [Watched.since_of_append [.stop] (by rw [sink]; rfl)]
    exact .stopped idle (congrArg Watched.inner sink)
  | offered => cases silent (.completion .ignored)

/-- A report whose packet the pipeline is not offered makes one moment. -/
theorem turn_transferComplete {g g' : Player U C capacity} {ep : EndpointAddress}
    {direction : Direction} {report : Report} {outcome : Completion} {calls : List SinkCall}
    (next : g.transferComplete ep direction report = (outcome, g'))
    (made : g'.sink.calls = g.sink.calls ++ calls)
    (silent : calls.filterMap Moment.ofSinkCall? = []) :
    g.turn (.call (.transferComplete ep direction report)) =
      ([.completed report outcome (g.payload report)], g') := by
  simp only [turn, perform, next, reported, Watched.since_of_append calls made, silent,
    List.append_nil]

/-- **A report is spoilt, empty, or offers its packet.** -/
theorem scene_transferComplete (g : Player U C capacity) (ep : EndpointAddress)
    (direction : Direction) (report : Report) :
    Scene g (g.turn (.call (.transferComplete ep direction report))).2
      (.call (.transferComplete ep direction report))
      (g.turn (.call (.transferComplete ep direction report))).1 := by
  cases reports g ep direction report with
  | ignored _ next =>
    rw [turn_transferComplete next (List.append_nil _).symm rfl]
    exact .spoilt rfl (by simp) rfl
  | stale own out found idle next =>
    rw [turn_transferComplete next (List.append_nil _).symm rfl]
    exact .spoilt rfl (by simp) rfl
  | @running slot own out found running next =>
    -- the payload is read before the slot is lent again
    have here : g.pool.slots[report.buffer.place]? = some slot :=
      (Option.filter_eq_some_iff.1 found).1
    have payload : g.payload report = slot.release.contents.take report.length := by
      simp [Player.payload, here, Slot.release]
    have received := received_receive g.pool g.sink slot.release report
    rw [← payload] at received
    dsimp only at next
    generalize (g.pool.receive g.sink slot.release report).1 = outcome at received next
    generalize (g.pool.receive g.sink slot.release report).2.2 = sink at received next
    cases received with
    | spoilt spoilt =>
      rw [turn_transferComplete next (List.append_nil _).symm rfl]
      exact .spoilt rfl spoilt rfl
    | empty none nothing =>
      rw [turn_transferComplete next (List.append_nil _).symm rfl, nothing]
      exact .empty rfl none rfl
    | offered whole =>
      have made : (PcmSink.accept g.sink (g.payload report)).2.calls =
          g.sink.calls ++ [.accept (g.payload report) (g.pipeline.accept (g.payload report)).1] :=
        rfl
      rw [turn_transferComplete next made rfl]
      exact .offered running running whole rfl

/-- **Every turn is one of these.** -/
theorem scene_turn (g : Player U C capacity) (t : Turn) : Scene g (g.turn t).2 t (g.turn t).1 := by
  cases t with
  | drain out => exact .drained rfl rfl
  | call call =>
    cases call with
    | transferComplete ep direction report => exact scene_transferComplete g ep direction report
    | _ => exact scene_of_silent g fun _ => rfl

end Player

end AudioGadget
