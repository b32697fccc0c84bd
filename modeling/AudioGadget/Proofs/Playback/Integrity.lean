import Mathlib.Data.List.DropRight
import AudioGadget.Bench.Codec
import AudioGadget.Bench.Core
import AudioGadget.Proofs.Playback.Player
/-!
# Integrity — what the DAC hears is what was forwarded

While a stream runs, the audio drained since it began and the octets
still in the pipeline are, in this order, the payloads of the receptions
that were forwarded since then. Without a stream the pipeline is empty
and the DAC gets silence. So nothing forwarded is lost, doubled, split or
put out of order, nothing else is heard, and nothing of one stream is
heard in another.

`Whole` is the invariant. Only the latest stream counts in it, so a
stream that begins meets an empty recording and an empty pipeline.
-/

namespace AudioGadget

open Bench

namespace Moment

def heard : Moment → Bytes
  | .drained audio => audio
  | _ => []

/-- The payload of a moment, if it was forwarded. -/
def forwarded : Moment → Bytes
  | .completed _ .forwarded payload => payload
  | _ => []

end Moment

/-- **The moments since the latest stream began.** -/
def latest (log : List Moment) : List Moment :=
  log.rtakeWhile fun m => m ≠ .started

/-- What was drained in the latest stream. -/
def heard (log : List Moment) : Bytes :=
  (latest log).flatMap Moment.heard

/-- What was forwarded in it, in the order of the reports. -/
def forwarded (log : List Moment) : Bytes :=
  (latest log).flatMap Moment.forwarded

/-- A stream that begins has no moments yet. -/
theorem latest_concat_started (log : List Moment) : latest (log ++ [.started]) = [] :=
  List.rtakeWhile_concat_neg _ _ _ (by simp)

theorem latest_concat {m : Moment} (log : List Moment) (h : m ≠ .started) :
    latest (log ++ [m]) = latest log ++ [m] :=
  List.rtakeWhile_concat_pos _ _ _ (by simpa using h)

theorem heard_concat {m : Moment} (log : List Moment) (h : m ≠ .started) :
    heard (log ++ [m]) = heard log ++ m.heard := by
  simp [heard, latest_concat log h]

theorem forwarded_concat {m : Moment} (log : List Moment) (h : m ≠ .started) :
    forwarded (log ++ [m]) = forwarded log ++ m.forwarded := by
  simp [forwarded, latest_concat log h]

namespace Player

variable {U C : Type} {capacity : Nat}

/-- **What a recording says of the player it led to.** -/
structure Whole (log : List Moment) (g : Player U C capacity) : Prop where
  sound : g.pipeline.ring.Sound
  phase : g.pipeline.phase = .stopped ↔ g.isOperational = false
  streams : g.isOperational = true → heard log ++ g.pipeline.queued = forwarded log
  silent : g.isOperational = false → g.pipeline.queued = []

variable {log : List Moment} {g g' : Player U C capacity} {t : Turn} {moments : List Moment}

theorem whole_off (usb : U) (codec : C) (format : StreamFormat) (layout : Layout) (slots : Nat) :
    Whole [] (off usb codec format layout slots : Player U C capacity) where
  sound := Ring.sound_empty
  phase := iff_of_true rfl rfl
  streams := fun running => by cases running
  silent := fun _ => rfl

/-- A moment of which nothing is heard and nothing kept. -/
theorem Whole.quiet (h : Whole log g) {m : Moment} (other : m ≠ .started) (heard : m.heard = [])
    (forwarded : m.forwarded = []) (running : g'.isOperational = g.isOperational)
    (ring : g'.pipeline.ring = g.pipeline.ring) (phase : g'.pipeline.phase = g.pipeline.phase) :
    Whole (log ++ [m]) g' := by
  have queued : g'.pipeline.queued = g.pipeline.queued := congrArg Ring.toList ring
  refine ⟨ring ▸ h.sound, by rw [phase, running, h.phase], fun streams => ?_, fun idle => ?_⟩
  · rw [heard_concat log other, forwarded_concat log other, heard, forwarded, queued,
      List.append_nil, List.append_nil]
    exact h.streams (running ▸ streams)
  · rw [queued]
    exact h.silent (running ▸ idle)

/-- **Every scene keeps the recording whole**, if the gadget is not switched
on again while the stream runs. -/
theorem Whole.scene (h : Whole log g) (scene : Scene g g' t moments)
    (once : t = .call .powerOn → g.isOperational = false) : Whole (log ++ moments) g' := by
  cases scene with
  | rest running pipeline =>
    rw [List.append_nil]
    exact ⟨pipeline ▸ h.sound, by rw [pipeline, running, h.phase],
      fun streams => pipeline ▸ h.streams (running ▸ streams),
      fun idle => pipeline ▸ h.silent (running ▸ idle)⟩
  | powered idle pipeline =>
    -- the pipeline is not told, so it must have been without a stream already
    have was := once rfl
    rw [List.append_nil]
    refine ⟨pipeline ▸ h.sound, ?_, fun streams => ?_, fun _ => pipeline ▸ h.silent was⟩
    · exact iff_of_true (pipeline ▸ h.phase.2 was) idle
    · cases idle.symm.trans streams
  | started running pipeline =>
    refine ⟨?_, ?_, fun _ => ?_, fun idle => ?_⟩
    · rw [pipeline]
      exact Ring.sound_clear _
    · simp [pipeline, Pipeline.start, running]
    -- recording and queue both begin anew, whatever was left of them
    · simp [heard, forwarded, latest_concat_started, pipeline]
    · cases idle.symm.trans running
  | stopped idle pipeline =>
    refine ⟨?_, ?_, fun running => ?_, fun _ => ?_⟩
    · rw [pipeline]
      exact Ring.sound_clear _
    · simp [pipeline, Pipeline.stop, idle]
    · cases idle.symm.trans running
    · simp [pipeline]
  | @spoilt _ report outcome payload running spoilt pipeline =>
    refine h.quiet (by simp) rfl ?_ running (pipeline ▸ rfl) (pipeline ▸ rfl)
    cases outcome <;> first | rfl | exact absurd rfl spoilt
  | empty running none pipeline =>
    exact h.quiet (by simp) rfl rfl running (pipeline ▸ rfl) (pipeline ▸ rfl)
  | @offered _ report intake payload running still whole accept =>
    have streams : g.pipeline.phase ≠ .stopped := fun stopped => by
      cases running.symm.trans (h.phase.1 stopped)
    have takes := Pipeline.takes_accept h.sound streams payload
    rw [accept] at takes
    cases takes with
    | rejected ring layout phase =>
      exact h.quiet (by simp) rfl rfl (still.trans running.symm) ring phase
    | accepted sound queued layout phase =>
      refine ⟨sound, ?_, fun _ => ?_, fun idle => ?_⟩
      · exact iff_of_false phase (by simp [still])
      · rw [heard_concat log (by simp), forwarded_concat log (by simp), queued,
          ← h.streams running]
        simp [Moment.heard, Moment.forwarded]
      · cases idle.symm.trans still
  | @drained out running pipeline =>
    have drains := Pipeline.drains_drain h.sound out
    refine ⟨?_, ?_, fun streams => ?_, fun idle => ?_⟩
    · rw [pipeline]
      exact drains.sound
    · rw [pipeline, drains.phase, h.phase, running]
    · rw [heard_concat log (by simp), forwarded_concat log (by simp),
        ← h.streams (running ▸ streams)]
      simp [Moment.heard, Moment.forwarded, drains.audio, pipeline, drains.queued]
    · rw [pipeline, drains.queued, h.silent (running ▸ idle), List.drop_nil]

variable [UsbCore U] [Codec C]

/-- **Every turn keeps the recording whole.** -/
theorem Whole.turn (h : Whole log g) (t : Turn)
    (once : t = .call .powerOn → g.isOperational = false) :
    Whole (log ++ (g.turn t).1) (g.turn t).2 :=
  h.scene (scene_turn g t) once

/-- So does switching on before anything else. -/
theorem Whole.powered (h : Whole log g) (idle : g.isOperational = false) (boots : Nat) :
    Whole (log ++ (g.play (List.replicate boots (.call .powerOn))).1)
      (g.play (List.replicate boots (.call .powerOn))).2 := by
  induction boots generalizing log g with
  | zero => simpa [play] using h
  | succ boots ih =>
    have later := ih (h.turn (.call .powerOn) fun _ => idle) rfl
    rw [List.append_assoc] at later
    exact later

/-- **So does every run.** -/
theorem Whole.play (h : Whole log g) (turns : List Turn) (once : .call .powerOn ∉ turns) :
    Whole (log ++ (g.play turns).1) (g.play turns).2 := by
  induction turns generalizing log g with
  | nil => simpa [Player.play] using h
  | cons t turns ih =>
    rw [List.mem_cons, not_or] at once
    have later := ih (h.turn t fun on => absurd on.symm once.1) once.2
    rw [List.append_assoc] at later
    exact later

/-- **The DAC hears what was forwarded.** After any run of a gadget that is
switched on before anything else, if at all: while a stream runs, what
was drained since it began and what is still queued are the payloads
forwarded since then, in order. Without a stream nothing is queued and a
drain returns silence. -/
theorem heard_append_queued (usb : U) (codec : C) (format : StreamFormat) (layout : Layout)
    (slots boots : Nat) (turns : List Turn) (once : .call .powerOn ∉ turns) :
    let played := (off usb codec format layout slots : Player U C capacity).play
      (List.replicate boots (.call .powerOn) ++ turns)
    (played.2.isOperational = true →
      heard played.1 ++ played.2.pipeline.queued = forwarded played.1) ∧
    (played.2.isOperational = false → played.2.pipeline.queued = [] ∧
      ∀ out, played.2.pipeline.drain out =
        (0, List.replicate out.length 0, played.2.pipeline)) := by
  intro played
  have whole : Whole played.1 played.2 := by
    have start : Whole [] (off usb codec format layout slots : Player U C capacity) :=
      whole_off usb codec format layout slots
    have run := (start.powered rfl boots).play turns once
    simp only [played, play_append]
    exact run
  refine ⟨whole.streams, fun idle => ⟨whole.silent idle, fun out => ?_⟩⟩
  refine Pipeline.drain_of_not_running ?_ out
  rw [whole.phase.2 idle]
  decide

/-- Two streams, one after the other, each with a packet that is drained
halfway. -/
def encore : List Turn :=
  [.call .requestEndpoints, .call (.setFirstInterface 0), .call .connect,
    .call (.setInterface 1 1), .call (.fillInFlight ⟨0⟩ [1, 2, 3, 4, 5, 6, 7, 8]),
    .call (.transferComplete (.ofNumber 1 .hostToDevice) .hostToDevice ⟨.success, 8, ⟨0⟩⟩),
    .drain [0, 0, 0, 0], .call (.setInterface 1 0), .call (.setInterface 1 1),
    .call (.fillInFlight ⟨1⟩ [9, 10, 11, 12, 13, 14, 15, 16]),
    .call (.transferComplete (.ofNumber 1 .hostToDevice) .hostToDevice ⟨.success, 8, ⟨1⟩⟩),
    .drain [0, 0, 0, 0]]

/-- Half of the second packet is heard, half is queued, and the first is
gone. -/
theorem heard_append_queued_encore :
    let played := (off Core.fresh Codec.fresh default default 2 :
      Player Core Bench.Codec 16).play (List.replicate 1 (.call .powerOn) ++ encore)
    .call .powerOn ∉ encore ∧ played.2.isOperational = true ∧
      heard played.1 = [9, 10, 11, 12] ∧
      heard played.1 ++ played.2.pipeline.queued = forwarded played.1 := by
  have once : .call .powerOn ∉ encore := by decide
  have streams : ((off Core.fresh Codec.fresh default default 2 :
      Player Core Bench.Codec 16).play
        (List.replicate 1 (.call .powerOn) ++ encore)).2.isOperational = true := by decide +kernel
  refine ⟨once, streams, by decide +kernel, ?_⟩
  exact (heard_append_queued Core.fresh Codec.fresh default default 2 1 encore once).1 streams

end Player

end AudioGadget
