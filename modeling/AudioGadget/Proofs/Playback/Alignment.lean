import Mathlib.Data.List.Induction
import AudioGadget.Bench.Codec
import AudioGadget.Bench.Core
import AudioGadget.Proofs.Playback.Player
/-!
# Alignment — channels keep their places

A drain asks for whole frames, but it takes what there is, and what there
is was cut by the bus. `Framed` says that only whole frames are queued
and only whole frames are drained. Nothing on the way from the report to
the ring looks at the length of a packet in frames, so a run is framed
exactly if every packet that was forwarded was (`framed_iff_wholePackets`).
-/

namespace AudioGadget.Player

open Bench

variable {U C : Type} {capacity : Nat} {layout : Layout}
variable {log : List Moment} {g g' : Player U C capacity} {t : Turn} {moments : List Moment}

/-- **Whole frames are queued, and whole frames were drained.** -/
structure Framed (layout : Layout) (log : List Moment) (g : Player U C capacity) : Prop where
  queued : layout.frameBytes ∣ g.pipeline.buffered
  drained : ∀ audio, .drained audio ∈ log → layout.frameBytes ∣ audio.length

/-- **Every packet that was forwarded is of whole frames.** -/
def WholePackets (layout : Layout) (log : List Moment) : Prop :=
  ∀ report payload, .completed report .forwarded payload ∈ log →
    layout.frameBytes ∣ report.length

theorem framed_append {more : List Moment} :
    Framed layout (log ++ more) g ↔
      Framed layout more g ∧ ∀ audio, .drained audio ∈ log → layout.frameBytes ∣ audio.length := by
  constructor
  · intro h
    exact ⟨⟨h.queued, fun audio mem => h.drained audio (List.mem_append_right _ mem)⟩,
      fun audio mem => h.drained audio (List.mem_append_left _ mem)⟩
  · rintro ⟨new, old⟩
    refine ⟨new.queued, fun audio mem => ?_⟩
    rcases List.mem_append.1 mem with before | after
    · exact old audio before
    · exact new.drained audio after

theorem wholePackets_append {more : List Moment} :
    WholePackets layout (log ++ more) ↔ WholePackets layout log ∧ WholePackets layout more := by
  constructor
  · intro h
    exact ⟨fun report payload mem => h report payload (List.mem_append_left _ mem),
      fun report payload mem => h report payload (List.mem_append_right _ mem)⟩
  · rintro ⟨old, new⟩ report payload mem
    rcases List.mem_append.1 mem with before | after
    · exact old report payload before
    · exact new report payload after

/-! ## The invariant -/

/-- **A player in tune**: its pipeline cuts frames of the right layout, and
streams when the gadget does. -/
structure Tuned (layout : Layout) (g : Player U C capacity) : Prop where
  sound : g.pipeline.ring.Sound
  layout : g.pipeline.layout = layout
  streams : g.isOperational = true → g.pipeline.phase ≠ .stopped

theorem tuned_off (usb : U) (codec : C) (format : StreamFormat) (slots : Nat) :
    Tuned layout (off usb codec format layout slots : Player U C capacity) :=
  ⟨Ring.sound_empty, rfl, fun running => by cases running⟩

/-- A pipeline that was left alone is in tune. -/
theorem Tuned.kept (h : Tuned layout g) (pipeline : g'.pipeline = g.pipeline)
    (running : g'.isOperational = true → g.isOperational = true) : Tuned layout g' :=
  ⟨pipeline ▸ h.sound, pipeline ▸ h.layout, fun streams => pipeline ▸ h.streams (running streams)⟩

/-- **Every scene leaves a player in tune.** -/
theorem Tuned.scene (h : Tuned layout g) (scene : Scene g g' t moments) : Tuned layout g' := by
  cases scene with
  | rest running pipeline | spoilt running _ pipeline | empty running _ pipeline =>
    exact h.kept pipeline (running ▸ id)
  | powered idle pipeline => exact h.kept pipeline fun streams => by cases idle.symm.trans streams
  | started running pipeline =>
    refine ⟨?_, ?_, fun _ => ?_⟩
    · rw [pipeline]
      exact Ring.sound_clear _
    · rw [pipeline]
      exact h.layout
    · rw [pipeline]
      exact Phase.noConfusion
  | stopped idle pipeline =>
    refine ⟨?_, ?_, fun streams => ?_⟩
    · rw [pipeline]
      exact Ring.sound_clear _
    · rw [pipeline]
      exact h.layout
    · cases idle.symm.trans streams
  | @offered _ report intake payload running still whole accept =>
    have takes := Pipeline.takes_accept h.sound (h.streams running) payload
    rw [accept] at takes
    cases takes with
    | rejected ring layout phase =>
      exact ⟨ring ▸ h.sound, layout.trans h.layout, fun _ => phase ▸ h.streams running⟩
    | accepted sound _ layout phase => exact ⟨sound, layout.trans h.layout, fun _ => phase⟩
  | @drained out running pipeline =>
    have drains := Pipeline.drains_drain h.sound out
    rw [← pipeline] at drains
    refine ⟨drains.sound, drains.layout.trans h.layout, fun streams stopped => ?_⟩
    exact h.streams (running ▸ streams) (drains.phase.1 stopped)

/-- A scene in which nothing is forwarded and nothing drained. -/
theorem framed_iff_of_quiet (queued : layout.frameBytes ∣ g'.pipeline.buffered)
    (silent : ∀ audio, .drained audio ∉ moments) (whole : WholePackets layout moments) :
    Framed layout moments g' ↔ WholePackets layout moments :=
  iff_of_true ⟨queued, fun audio mem => absurd mem (silent audio)⟩ whole

/-- **A scene goes on with whole frames exactly if its packet is whole.** -/
theorem Tuned.framed_iff (h : Tuned layout g) (scene : Scene g g' t moments)
    (queued : layout.frameBytes ∣ g.pipeline.buffered) :
    Framed layout moments g' ↔ WholePackets layout moments := by
  cases scene with
  | rest _ pipeline | powered _ pipeline =>
    exact framed_iff_of_quiet (pipeline ▸ queued) (by simp) (by simp [WholePackets])
  | started _ pipeline | stopped _ pipeline =>
    refine framed_iff_of_quiet ?_ (by simp) (by simp [WholePackets])
    simp [pipeline]
  | @spoilt _ report outcome payload _ spoilt pipeline =>
    refine framed_iff_of_quiet (pipeline ▸ queued) (by simp) fun report' payload' mem => ?_
    cases List.mem_singleton.1 mem
    exact absurd rfl spoilt
  | empty _ none pipeline =>
    refine framed_iff_of_quiet (pipeline ▸ queued) (by simp) fun report' payload' mem => ?_
    cases List.mem_singleton.1 mem
    exact none ▸ Nat.dvd_zero _
  | @offered _ report intake payload running _ whole accept =>
    have takes := Pipeline.takes_accept h.sound (h.streams running) payload
    rw [accept] at takes
    cases takes with
    | rejected ring =>
      have same : g'.pipeline.buffered = g.pipeline.buffered := congrArg Ring.count ring
      exact framed_iff_of_quiet (same ▸ queued) (by simp) (by simp [WholePackets])
    | accepted _ grown =>
      -- the queue grows by the packet, so one is whole if the other is
      have sum : g'.pipeline.buffered = g.pipeline.buffered + report.length := by
        rw [← Pipeline.length_queued, grown, List.length_append, Pipeline.length_queued, whole]
      have cut : layout.frameBytes ∣ g'.pipeline.buffered ↔ layout.frameBytes ∣ report.length := by
        rw [sum]
        exact (Nat.dvd_add_iff_right queued).symm
      constructor
      · intro framed report' payload' mem
        cases List.mem_singleton.1 mem
        exact cut.1 framed.queued
      · intro packets
        exact ⟨cut.2 (packets report payload (by simp)), fun audio mem => by simp at mem⟩
  | @drained out running pipeline =>
    have drains := Pipeline.drains_drain h.sound out
    have taken : layout.frameBytes ∣ (g.pipeline.drain out).1 := by
      rcases drains.amount with none | some
      · exact none ▸ Nat.dvd_zero _
      · rw [some, h.layout]
        exact Layout.frameBytes_dvd_min queued _
    have left : layout.frameBytes ∣ g'.pipeline.buffered := by
      rw [← Pipeline.length_queued, pipeline, drains.queued, List.length_drop,
        Pipeline.length_queued]
      exact Nat.dvd_sub queued taken
    refine iff_of_true ⟨left, fun audio mem => ?_⟩ (by simp [WholePackets])
    cases List.mem_singleton.1 mem
    rw [drains.audio, List.length_take, Pipeline.length_queued, Nat.min_eq_left drains.within]
    exact taken

/-! ## Every run -/

variable [UsbCore U] [Codec C]

theorem Tuned.play (h : Tuned layout g) (turns : List Turn) : Tuned layout (g.play turns).2 := by
  induction turns generalizing g with
  | nil => exact h
  | cons t turns ih => exact ih (h.scene (scene_turn g t))

theorem play_concat (g : Player U C capacity) (turns : List Turn) (t : Turn) :
    g.play (turns ++ [t]) =
      ((g.play turns).1 ++ ((g.play turns).2.turn t).1, ((g.play turns).2.turn t).2) := by
  rw [play_append]
  simp [Player.play]

/-- **A run is framed throughout exactly if every packet that was forwarded
in it was of whole frames**, by the length that the core reported. -/
theorem framed_iff_wholePackets (usb : U) (codec : C) (format : StreamFormat) (slots : Nat)
    (turns : List Turn) :
    let start : Player U C capacity := off usb codec format format.layout slots
    (∀ before, before <+: turns →
        Framed format.layout (start.play before).1 (start.play before).2) ↔
      WholePackets format.layout (start.play turns).1 := by
  intro start
  have tuned : Tuned format.layout start := tuned_off usb codec format slots
  -- from the last turn backwards: what one scene does decides about it
  induction turns using List.reverseRecOn with
  | nil =>
    refine iff_of_true (fun before empty => ?_) fun _ _ mem => by cases mem
    rw [List.prefix_nil.1 empty]
    exact ⟨Nat.dvd_zero _, fun _ mem => by cases mem⟩
  | append_singleton turns t ih =>
    have step (queued : format.layout.frameBytes ∣ (start.play turns).2.pipeline.buffered) :
        Framed format.layout ((start.play turns).2.turn t).1 ((start.play turns).2.turn t).2 ↔
          WholePackets format.layout ((start.play turns).2.turn t).1 :=
      (tuned.play turns).framed_iff (scene_turn _ t) queued
    rw [play_concat, wholePackets_append]
    constructor
    · intro always
      have so_far : ∀ before, before <+: turns →
          Framed format.layout (start.play before).1 (start.play before).2 := fun before h =>
        always before (h.trans (List.prefix_append turns [t]))
      have last := always (turns ++ [t]) (List.prefix_refl _)
      rw [play_concat, framed_append] at last
      exact ⟨ih.1 so_far, (step (so_far turns (List.prefix_refl _)).queued).1 last.1⟩
    · rintro ⟨packets, packet⟩ before h
      have so_far := ih.2 packets
      have now := so_far turns (List.prefix_refl _)
      rcases List.prefix_concat_iff.1 h with rfl | earlier
      · rw [play_concat, framed_append]
        exact ⟨(step now.queued).2 packet, now.drained⟩
      · exact so_far before earlier

/-- A packet of nine octets, where a frame has four, and a drain. -/
def torn : List Turn :=
  [.call .powerOn, .call .requestEndpoints, .call (.setFirstInterface 0), .call .connect,
    .call (.setInterface 1 1),
    .call (.transferComplete (.ofNumber 1 .hostToDevice) .hostToDevice ⟨.success, 9, ⟨0⟩⟩),
    .drain (List.replicate 12 0)]

/-- **The packet is queued as it came**, and the drain takes all nine octets. -/
theorem not_framed_torn :
    let start : Player Core Bench.Codec 16 :=
      off Core.fresh Codec.fresh default (default : StreamFormat).layout 2
    (start.play (torn.take 6)).2.pipeline.buffered = 9 ∧
      ¬ Framed (default : StreamFormat).layout (start.play (torn.take 6)).1
        (start.play (torn.take 6)).2 ∧
      ∃ audio, .drained audio ∈ (start.play torn).1 ∧
        ¬ (default : StreamFormat).layout.frameBytes ∣ audio.length := by
  intro start
  have nine : (start.play (torn.take 6)).2.pipeline.buffered = 9 := by decide +kernel
  refine ⟨nine, fun framed => ?_, List.replicate 9 0, by decide +kernel, by decide +kernel⟩
  exact absurd (nine ▸ framed.queued) (by decide +kernel)

end AudioGadget.Player
