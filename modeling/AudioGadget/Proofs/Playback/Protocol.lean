import Mathlib.Data.List.Chain
import AudioGadget.Bench.Codec
import AudioGadget.Bench.Core
import AudioGadget.Bench.Sink
import AudioGadget.Proofs.Playback.Alignment
import AudioGadget.Proofs.Playback.Cue
/-!
# Protocol — in which order a sink is called

The sink knows of streams only by what it is told. It is told of every
stream that begins, so while one runs it was started more recently than
stopped, and packets are offered only then. It is told of every stream
that ends too, unless the gadget is switched on again while one runs; but
for that, the calls are one stream after the other (`InTurn`).

`Within` is the invariant: it says which call may come next. A pipeline
behind the gadget is thus never offered a packet without a stream, and
its count of late packets stays where it began.
-/

namespace AudioGadget

open Bench

/-- **The sink was started more recently than it was stopped.** -/
def Started (calls : List SinkCall) : Prop :=
  ∃ before after, calls = before ++ .start :: after ∧ .stop ∉ after

/-- The calls that tell of one stream, and of the packets in it. -/
def session (packets : List (Bytes × Intake)) : List SinkCall :=
  .start :: packets.map (fun p => .accept p.1 p.2) ++ [.stop]

/-- **One stream after the other**, the last one perhaps not over. -/
def InTurn (calls : List SinkCall) : Prop :=
  ∃ streams : List (List (Bytes × Intake)), calls <+: streams.flatMap session

/-- The starts and the stops among the calls. -/
def bounds (calls : List SinkCall) : List SinkCall :=
  calls.filter fun c => c = .start ∨ c = .stop

/-! ## One more call -/

theorem not_started_nil : ¬ Started [] := by
  rintro ⟨before, after, h, -⟩
  simp at h

theorem started_concat {calls : List SinkCall} {call : SinkCall} :
    Started (calls ++ [call]) ↔ call = .start ∨ (Started calls ∧ call ≠ .stop) := by
  constructor
  · rintro ⟨before, after, split, never⟩
    rcases List.eq_nil_or_concat after with rfl | ⟨after, last, rfl⟩
    · obtain ⟨-, same⟩ := List.append_inj' split rfl
      cases same
      exact .inl rfl
    · rw [List.concat_eq_append, ← List.cons_append, ← List.append_assoc] at split
      obtain ⟨rfl, same⟩ := List.append_inj' split rfl
      cases same
      rw [List.concat_eq_append, List.mem_append, not_or] at never
      exact .inr ⟨⟨before, after, rfl, never.1⟩, fun stop => never.2 (by simp [stop])⟩
  · rintro (rfl | ⟨⟨before, after, rfl, never⟩, other⟩)
    · exact ⟨calls, [], rfl, by simp⟩
    · exact ⟨before, after ++ [call], by simp, by simp [never, other.symm]⟩

/-- **Where a sink stands** after some calls: between two streams, or
within one. -/
inductive Within : Bool → List SinkCall → Prop
  | between (streams : List (List (Bytes × Intake))) : Within false (streams.flatMap session)
  | during (streams : List (List (Bytes × Intake))) (packets : List (Bytes × Intake)) :
      Within true (streams.flatMap session ++ .start :: packets.map fun p => .accept p.1 p.2)

namespace Within

variable {calls : List SinkCall} {running : Bool}

theorem start (h : Within false calls) : Within true (calls ++ [.start]) := by
  cases h with
  | between streams => exact .during streams []

theorem accept (h : Within true calls) (packet : Bytes) (intake : Intake) :
    Within true (calls ++ [.accept packet intake]) := by
  cases h with
  | during streams packets =>
    have later := Within.during streams (packets ++ [(packet, intake)])
    simpa using later

theorem stop (h : Within true calls) : Within false (calls ++ [.stop]) := by
  cases h with
  | during streams packets =>
    have later := Within.between (streams ++ [packets])
    simpa [session] using later

theorem inTurn (h : Within running calls) : InTurn calls := by
  cases h with
  | between streams => exact ⟨streams, List.prefix_rfl⟩
  | during streams packets =>
    refine ⟨streams ++ [packets], [.stop], ?_⟩
    simp [session]

/-- **The sink is started exactly within a stream.** -/
theorem started_iff (h : Within running calls) : Started calls ↔ running = true := by
  cases h with
  | between streams =>
    refine iff_of_false ?_ Bool.false_ne_true
    rcases List.eq_nil_or_concat streams with rfl | ⟨streams, last, rfl⟩
    · exact not_started_nil
    · have ends : (streams.concat last).flatMap session =
          streams.flatMap session ++ .start :: (last.map fun p => .accept p.1 p.2) ++ [.stop] := by
        simp [session]
      rw [ends, started_concat]
      simp
  | during streams packets => exact iff_of_true ⟨_, _, rfl, by simp⟩ rfl

end Within

theorem bounds_session (packets : List (Bytes × Intake)) :
    bounds (session packets) = [.start, .stop] := by
  have packet : ∀ c ∈ packets.map fun p => SinkCall.accept p.1 p.2, c ≠ .start ∧ c ≠ .stop := by
    intro c mem
    obtain ⟨p, -, rfl⟩ := List.mem_map.1 mem
    simp
  simpa [bounds, session] using packet

/-- **Starts and stops take turns.** -/
theorem InTurn.bounds_isChain {calls : List SinkCall} (h : InTurn calls) :
    (bounds calls).IsChain (· ≠ ·) := by
  obtain ⟨streams, front⟩ := h
  have whole : (bounds (streams.flatMap session)).IsChain (· ≠ ·) := by
    clear front
    unfold bounds
    rw [List.filter_flatMap]
    induction streams with
    | nil => exact .nil
    | cons packets streams ih =>
      have marks : (session packets).filter _ = _ := bounds_session packets
      rw [List.flatMap_cons, marks]
      cases streams with
      | nil => simp
      | cons next streams =>
        have marks' : (session next).filter _ = _ := bounds_session next
        rw [List.flatMap_cons, marks'] at ih ⊢
        simpa using ih
  exact whole.prefix (front.filter _)

/-! ## Every run -/

namespace Gadget

variable {U S C : Type} [UsbCore U] [PcmSink S] [Codec C]
variable {g : Gadget U (Watched S SinkCall) C}

/-- **While a stream runs, the sink is started.** -/
theorem started_perform (h : g.isOperational = true → Started g.sink.calls) (call : Call)
    (running : (g.perform call).next.isOperational = true) :
    Started (g.perform call).next.sink.calls := by
  cases cue_perform g call with
  | silent same sink => exact sink ▸ h (same ▸ running)
  | powered idle | stopped _ idle => cases idle.symm.trans running
  | started _ _ sink =>
    rw [sink]
    exact started_concat.2 (.inl rfl)
  | offered was _ _ _ sink =>
    rw [sink]
    exact started_concat.2 (.inr ⟨h was, by simp⟩)

theorem started_run (h : g.isOperational = true → Started g.sink.calls) (calls : List Call)
    (running : (g.run calls).2.isOperational = true) : Started (g.run calls).2.sink.calls := by
  induction calls generalizing g with
  | nil => exact h running
  | cons call calls ih => exact ih (started_perform h call) running

/-- A packet is offered while a stream runs, and is the first thing that
its call asks of the sink. -/
theorem offered_perform {call : Call} {before after : List SinkCall} {packet : Bytes}
    {intake : Intake}
    (asked : g.sink.since (g.perform call).next.sink = before ++ .accept packet intake :: after) :
    before = [] ∧ g.isOperational = true ∧ packet ≠ [] ∧ packet.length ≤ g.pool.packetLength := by
  cases cue_perform g call with
  | silent _ sink | powered _ sink =>
    rw [sink, Watched.since_self] at asked
    simp at asked
  | started _ _ sink =>
    rw [sink, Watched.since_of_append [.start] rfl] at asked
    rcases before with _ | ⟨_, before⟩ <;> simp at asked
  | stopped _ _ sink =>
    rw [sink, Watched.since_of_append [.stop] rfl] at asked
    rcases before with _ | ⟨_, before⟩ <;> simp at asked
  | @offered _ _ _ offer running _ filled fits sink =>
    rw [sink, Watched.since_of_append [.accept offer (PcmSink.accept g.sink.inner offer).1] rfl]
      at asked
    rcases before with _ | ⟨_, before⟩
    · simp only [List.nil_append, List.cons.injEq, SinkCall.accept.injEq] at asked
      obtain ⟨⟨rfl, -⟩, -⟩ := asked
      exact ⟨rfl, running, filled, fits⟩
    · simp at asked

/-- **Every call but a switching on keeps the turns**, and so does that
one if no stream runs. -/
theorem within_perform (h : Within g.isOperational g.sink.calls) {call : Call}
    (quiet : call = .powerOn → g.isOperational = false) :
    Within (g.perform call).next.isOperational (g.perform call).next.sink.calls := by
  cases cue_perform g call with
  | silent running sink =>
    rw [running, sink]
    exact h
  | powered idle sink =>
    rw [idle, sink, ← quiet rfl]
    exact h
  | started was running sink =>
    rw [running, sink]
    exact (was ▸ h).start
  | stopped was idle sink =>
    rw [idle, sink]
    exact (was ▸ h).stop
  | offered was running _ _ sink =>
    rw [running, sink]
    exact (was ▸ h).accept _ _

theorem within_run (h : Within g.isOperational g.sink.calls) (calls : List Call)
    (quiet : ∀ n, calls[n]? = some .powerOn → (g.run (calls.take n)).2.isOperational = false) :
    Within (g.run calls).2.isOperational (g.run calls).2.sink.calls := by
  induction calls generalizing g with
  | nil => exact h
  | cons call calls ih =>
    have first : call = .powerOn → g.isOperational = false := fun on => quiet 0 (by simp [on])
    exact ih (within_perform h first) fun n on => quiet (n + 1) on

end Gadget

/-! ## A pipeline behind the gadget -/

namespace Player

variable {U C : Type} {capacity : Nat} {layout : Layout}

/-- **A player in tune counts no packet as late.** -/
theorem Tuned.late {g g' : Player U C capacity} {t : Turn} {moments : List Moment}
    (h : Tuned layout g) (scene : Scene g g' t moments) : g'.pipeline.late = g.pipeline.late := by
  cases scene with
  | rest _ pipeline | powered _ pipeline | spoilt _ _ pipeline | empty _ _ pipeline =>
    rw [pipeline]
  | started _ pipeline | stopped _ pipeline =>
    rw [pipeline]
    rfl
  | offered running _ _ accept =>
    have streams := h.streams running
    unfold Pipeline.accept at accept
    rw [if_neg streams] at accept
    split at accept
    · exact congrArg (Pipeline.late ·.2) accept.symm
    · exact congrArg (Pipeline.late ·.2) accept.symm
  | drained _ pipeline =>
    rw [pipeline]
    unfold Pipeline.drain
    split
    · dsimp only
      split <;> rfl
    · rfl

theorem late_play [UsbCore U] [Codec C] {g : Player U C capacity} (h : Tuned layout g)
    (turns : List Turn) : (g.play turns).2.pipeline.late = g.pipeline.late := by
  induction turns generalizing g with
  | nil => rfl
  | cons t turns ih =>
    have scene := scene_turn g t
    exact (ih (h.scene scene)).trans (h.late scene)

end Player

section Runs

variable {U S C : Type} [UsbCore U] [PcmSink S] [Codec C]

/-- **A sink is called in the order of the streams.** After any run: while
a stream runs the sink was started more recently than stopped, and a
packet is offered only then, never empty and never longer than the
format's. If the gadget was not switched on while a stream ran, the sink
is started exactly while one runs, and its calls are one stream after the
other. A pipeline is never offered a packet late, whatever is drained
from it. -/
theorem sink_follows_stream (usb : U) (sink : S) (codec : C) (format : StreamFormat)
    (slots : Nat) (calls : List Call) :
    let start := Gadget.unregistered usb (Watched.of sink) codec format slots
    let g := (start.run calls).2
    (g.isOperational = true → Started g.sink.calls) ∧
      (∀ call before packet intake after,
        g.sink.since (g.perform call).next.sink = before ++ .accept packet intake :: after →
          g.isOperational = true ∧ Started (g.sink.calls ++ before) ∧
            packet ≠ [] ∧ packet.length ≤ format.maxPacketSize) ∧
      ((∀ n, calls[n]? = some .powerOn → (start.run (calls.take n)).2.isOperational = false) →
        (Started g.sink.calls ↔ g.isOperational = true) ∧ InTurn g.sink.calls ∧
          (bounds g.sink.calls).IsChain (· ≠ ·)) ∧
      ∀ (capacity : Nat) (layout : Layout) (turns : List Turn),
        ((Player.off usb codec format layout slots : Player U C capacity).play
          turns).2.pipeline.late.val = 0 := by
  intro start g
  have started : g.isOperational = true → Started g.sink.calls :=
    Gadget.started_run (fun running => by cases running) calls
  have lends : g.pool.packetLength = format.maxPacketSize :=
    (Gadget.terms_run start calls).packetLength.trans (Nat.min_eq_left format.maxPacketSize_le)
  refine ⟨started, ?_, fun quiet => ?_, fun capacity layout turns => ?_⟩
  · intro call before packet intake after asked
    obtain ⟨rfl, running, filled, fits⟩ := Gadget.offered_perform asked
    rw [List.append_nil]
    exact ⟨running, started running, filled, lends ▸ fits⟩
  · have first : Within start.isOperational start.sink.calls := .between []
    have within := Gadget.within_run first calls quiet
    exact ⟨within.started_iff, within.inTurn, within.inTurn.bounds_isChain⟩
  · have tuned : Player.Tuned layout
        (Player.off usb codec format layout slots : Player U C capacity) :=
      Player.tuned_off usb codec format slots
    rw [Player.late_play tuned turns]
    rfl

/-- A stream with a packet that ends, and another after the gadget was
switched on again. -/
def rerun : List Call :=
  [.powerOn, .requestEndpoints, .setFirstInterface 0, .connect, .setInterface 1 1,
    .transferComplete (.ofNumber 1 .hostToDevice) .hostToDevice ⟨.success, 8, ⟨0⟩⟩,
    .setInterface 1 0, .powerOn, .setInterface 1 1]

/-- A gadget with two slots on the bench, its sink watched. -/
def attended : Gadget Core (Watched Sink SinkCall) Bench.Codec :=
  .unregistered Core.fresh (Watched.of Sink.fresh) Codec.fresh default 2

theorem sink_follows_stream_rerun :
    (∀ n, rerun[n]? = some .powerOn →
        (attended.run (rerun.take n)).2.isOperational = false) ∧
      (attended.run rerun).2.isOperational = true ∧
      Started (attended.run rerun).2.sink.calls ∧ InTurn (attended.run rerun).2.sink.calls ∧
      (attended.run rerun).2.sink.calls =
        [.start, .accept [0, 0, 0, 0, 0, 0, 0, 0] .accepted, .stop, .start] := by
  have few : ∀ n < rerun.length, rerun[n]? = some .powerOn →
      (attended.run (rerun.take n)).2.isOperational = false := by decide +kernel
  have quiet : ∀ n, rerun[n]? = some .powerOn →
      (attended.run (rerun.take n)).2.isOperational = false := fun n on =>
    few n (List.getElem?_eq_some_iff.1 on).1 on
  have running : (attended.run rerun).2.isOperational = true := by decide +kernel
  obtain ⟨started, -, turns, -⟩ :=
    sink_follows_stream Core.fresh Sink.fresh Codec.fresh default 2 rerun
  exact ⟨quiet, running, started running, (turns quiet).2.1, by decide +kernel⟩

end Runs

end AudioGadget
