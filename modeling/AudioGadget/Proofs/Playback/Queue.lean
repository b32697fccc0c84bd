import AudioGadget.Playback.Pipeline
/-!
# Queue — the pipeline as a queue of octets

Between the bus and the DAC lies a queue: `queued` is what it holds,
oldest octet first. Seen so, a packet that is taken is appended whole, a
drain takes from the front, and a stream that begins or ends leaves
nothing. `Passes` lists what one call can do, with its answer, and `Takes` and
`Drains` say in outline what becomes of a packet and what a drain does.
-/

namespace AudioGadget

/-- **A read moves the oldest octets** to the front of the buffer, as many
as there are and fit. -/
theorem Ring.readInto_eq {capacity : Nat} {r : Ring capacity} (sound : r.Sound) (out : Bytes) :
    ∃ r' : Ring capacity, r'.Sound ∧ r'.toList = r.toList.drop (min out.length r.count) ∧
      r.readInto out = (min out.length r.count,
        r.toList.take (min out.length r.count) ++ out.drop (min out.length r.count), r') := by
  obtain ⟨oldest, rest, sound'⟩ := take_eq sound (Nat.min_le_right out.length r.count)
  have length : (r.toList.take (min out.length r.count)).length = min out.length r.count := by
    rw [List.length_take, length_toList]
    omega
  have fits : (r.toList.take (min out.length r.count)).length ≤ out.length := by omega
  refine ⟨_, sound', rest, ?_⟩
  simp only [readInto, oldest]
  rw [Bytes.overwrite_of_le fits, length]

/-- What can be asked of a pipeline. -/
inductive PipelineCall where
  | start
  | stop
  | accept (packet : Bytes)
  /-- The DAC asks for as much audio as `out` has room for. -/
  | drain (out : Bytes)
deriving DecidableEq

/-- What it answers. -/
inductive PipelineAnswer where
  | done
  | intake (intake : Intake)
  /-- How much of the buffer is audio, and the buffer. -/
  | filled (taken : Nat) (out : Bytes)
deriving DecidableEq

namespace Pipeline

variable {capacity : Nat} {p p' : Pipeline capacity}

/-- **What waits for the DAC**, oldest octet first. -/
def queued (p : Pipeline capacity) : Bytes :=
  p.ring.toList

@[simp] theorem length_queued (p : Pipeline capacity) : p.queued.length = p.buffered :=
  Ring.length_toList p.ring

@[simp] theorem queued_start (p : Pipeline capacity) : p.start.queued = [] := rfl

@[simp] theorem queued_stop (p : Pipeline capacity) : p.stop.queued = [] := rfl

/-! ## One call, case by case -/

/-- Do what is asked. -/
def perform (p : Pipeline capacity) : PipelineCall → PipelineAnswer × Pipeline capacity
  | .start => (.done, p.start)
  | .stop => (.done, p.stop)
  | .accept packet =>
    let (intake, next) := p.accept packet
    (.intake intake, next)
  | .drain out =>
    let (taken, filled, next) := p.drain out
    (.filled taken filled, next)

/-- **What one call does**, with its answer. -/
inductive Passes (p : Pipeline capacity) :
    PipelineCall → PipelineAnswer → Pipeline capacity → Prop
  | started : Passes p .start .done p.start
  | stopped : Passes p .stop .done p.stop
  /-- A packet without a stream is counted and thrown away. -/
  | late {packet : Bytes} (idle : p.phase = .stopped) :
      Passes p (.accept packet) (.intake .accepted) { p with late := p.late.bump }
  /-- There is no room, and nothing of the packet is taken. -/
  | refused {packet : Bytes} (streams : p.phase ≠ .stopped)
      (full : capacity < p.buffered + packet.length) :
      Passes p (.accept packet) (.intake .rejected) { p with overflows := p.overflows.bump }
  /-- The packet is taken whole, and the cushion is not full yet, if it is
  being filled. -/
  | taken {packet : Bytes} {ring : Ring capacity} (streams : p.phase ≠ .stopped)
      (room : p.buffered + packet.length ≤ capacity) (sound : ring.Sound)
      (queued : ring.toList = p.queued ++ packet)
      (short : p.phase = .priming → p.buffered + packet.length < p.threshold) :
      Passes p (.accept packet) (.intake .accepted) { p with ring }
  /-- The packet is taken whole, and fills the cushion. -/
  | primed {packet : Bytes} {ring : Ring capacity} (priming : p.phase = .priming)
      (room : p.buffered + packet.length ≤ capacity) (sound : ring.Sound)
      (queued : ring.toList = p.queued ++ packet)
      (filled : p.threshold ≤ p.buffered + packet.length) :
      Passes p (.accept packet) (.intake .accepted) { p with ring, phase := .running }
  /-- Nothing is played, and the DAC gets silence. -/
  | silent {out : Bytes} (quiet : p.phase ≠ .running) :
      Passes p (.drain out) (.filled 0 (List.replicate out.length 0)) p
  /-- There is as much as the DAC asks for. -/
  | played {out : Bytes} {ring : Ring capacity} (running : p.phase = .running)
      (enough : p.layout.wholeFrames out.length ≤ p.buffered) (sound : ring.Sound)
      (queued : ring.toList = p.queued.drop (p.layout.wholeFrames out.length)) :
      Passes p (.drain out)
        (.filled (p.layout.wholeFrames out.length)
          (p.queued.take (p.layout.wholeFrames out.length) ++
            List.replicate (out.length - p.layout.wholeFrames out.length) 0))
        { p with ring }
  /-- There is less, and it is all taken. -/
  | dry {out : Bytes} {ring : Ring capacity} (running : p.phase = .running)
      (short : p.buffered < p.layout.wholeFrames out.length) (sound : ring.Sound)
      (empty : ring.toList = []) :
      Passes p (.drain out)
        (.filled p.buffered (p.queued ++ List.replicate (out.length - p.buffered) 0))
        { p with ring, underruns := p.underruns.bump, phase := .priming }

theorem passes_accept (sound : p.ring.Sound) (packet : Bytes) :
    Passes p (.accept packet) (.intake (p.accept packet).1) (p.accept packet).2 := by
  have held : p.buffered ≤ capacity := sound.count_le
  by_cases idle : p.phase = .stopped
  · rw [accept, if_pos idle]
    exact .late idle
  · rw [accept, if_neg idle]
    by_cases fits : packet.length ≤ p.ring.free
    · obtain ⟨sound', list⟩ := Ring.toList_foldl_push sound packet fits
      have grown : (packet.foldl Ring.push p.ring).count = p.buffered + packet.length := by
        rw [← Ring.length_toList, list, List.length_append, Ring.length_toList]
        rfl
      have room : p.buffered + packet.length ≤ capacity := grown ▸ sound'.count_le
      simp only [Ring.append?, if_pos fits, grown]
      by_cases filled : p.phase = .priming ∧ p.threshold ≤ p.buffered + packet.length
      · rw [if_pos filled]
        exact .primed filled.1 room sound' list filled.2
      · rw [if_neg filled]
        exact .taken idle room sound' list fun priming =>
          Nat.not_le.1 fun full => filled ⟨priming, full⟩
    · simp only [Ring.append?, if_neg fits]
      refine .refused idle ?_
      change ¬ packet.length ≤ capacity - p.buffered at fits
      omega

theorem passes_drain (sound : p.ring.Sound) (out : Bytes) :
    Passes p (.drain out) (.filled (p.drain out).1 (p.drain out).2.1) (p.drain out).2.2 := by
  by_cases running : p.phase = .running
  · have fits := p.layout.wholeFrames_le out.length
    have room : (out.take (p.layout.wholeFrames out.length)).length =
        p.layout.wholeFrames out.length := by
      rw [List.length_take]
      omega
    obtain ⟨ring, sound', rest, read⟩ :=
      Ring.readInto_eq sound (out.take (p.layout.wholeFrames out.length))
    rw [room] at rest read
    have front (tail : Bytes) :
        (p.ring.toList.take (min (p.layout.wholeFrames out.length) p.ring.count) ++ tail).take
            (min (p.layout.wholeFrames out.length) p.ring.count) =
          p.queued.take (min (p.layout.wholeFrames out.length) p.ring.count) := by
      refine List.take_left' ?_
      rw [List.length_take, Ring.length_toList]
      omega
    simp only [drain, if_pos running, read, front]
    by_cases short : p.ring.count < p.layout.wholeFrames out.length
    · have all : min (p.layout.wholeFrames out.length) p.ring.count = p.ring.count :=
        Nat.min_eq_right (Nat.le_of_lt short)
      rw [all, ← Ring.length_toList, List.drop_length] at rest
      rw [all, if_pos short, ← Ring.length_toList, queued, List.take_length, Ring.length_toList]
      exact .dry running short sound' rest
    · have enough : min (p.layout.wholeFrames out.length) p.ring.count =
          p.layout.wholeFrames out.length := Nat.min_eq_left (Nat.not_lt.1 short)
      rw [enough] at rest ⊢
      rw [if_neg (Nat.lt_irrefl _)]
      exact .played running (Nat.not_lt.1 short) sound' rest
  · rw [drain_of_not_running running]
    exact .silent running

/-- **Every call is one of these.** -/
theorem passes_perform (sound : p.ring.Sound) (call : PipelineCall) :
    Passes p call (p.perform call).1 (p.perform call).2 := by
  cases call with
  | start => exact .started
  | stop => exact .stopped
  | accept packet => exact passes_accept sound packet
  | drain out => exact passes_drain sound out

/-! ## A packet and a drain, in outline -/

/-- **What becomes of a packet** while there is a stream. -/
inductive Takes (p : Pipeline capacity) (packet : Bytes) : Intake → Pipeline capacity → Prop
  /-- There is no room, and nothing of it is taken. -/
  | rejected {p' : Pipeline capacity} (ring : p'.ring = p.ring) (layout : p'.layout = p.layout)
      (phase : p'.phase = p.phase) : Takes p packet .rejected p'
  /-- It is taken whole. -/
  | accepted {p' : Pipeline capacity} (sound : p'.ring.Sound)
      (queued : p'.queued = p.queued ++ packet) (layout : p'.layout = p.layout)
      (phase : p'.phase ≠ .stopped) : Takes p packet .accepted p'

/-- **While there is a stream a packet is taken whole or refused.** -/
theorem takes_accept (sound : p.ring.Sound) (streams : p.phase ≠ .stopped) (packet : Bytes) :
    Takes p packet (p.accept packet).1 (p.accept packet).2 := by
  have passes := passes_accept sound packet
  generalize (p.accept packet).1 = intake at passes ⊢
  generalize (p.accept packet).2 = next at passes ⊢
  cases passes with
  | late idle => exact absurd idle streams
  | refused => exact .rejected rfl rfl rfl
  | taken _ _ sound queued => exact .accepted sound queued rfl streams
  | primed _ _ sound queued => exact .accepted sound queued rfl nofun

/-- **What a drain of `out` does**: how much it takes, what it returns and
what it leaves. -/
structure Drains (p : Pipeline capacity) (out : Bytes) (taken : Nat) (filled : Bytes)
    (p' : Pipeline capacity) : Prop where
  filled : filled = p.queued.take taken ++ List.replicate (out.length - taken) 0
  /-- Nothing, all there is, or whole frames. -/
  amount : taken = 0 ∨ taken = min (p.layout.wholeFrames out.length) p.buffered
  sound : p'.ring.Sound
  queued : p'.queued = p.queued.drop taken
  layout : p'.layout = p.layout
  phase : p'.phase = .stopped ↔ p.phase = .stopped

/-- **A drain takes from the front** and leaves the rest. -/
theorem drains_drain (sound : p.ring.Sound) (out : Bytes) :
    Drains p out (p.drain out).1 (p.drain out).2.1 (p.drain out).2.2 := by
  have passes := passes_drain sound out
  generalize (p.drain out).1 = taken at passes ⊢
  generalize (p.drain out).2.1 = filled at passes ⊢
  generalize (p.drain out).2.2 = next at passes ⊢
  cases passes with
  | silent => exact ⟨by simp, .inl rfl, sound, by simp, rfl, Iff.rfl⟩
  | played _ enough sound queued =>
    exact ⟨rfl, .inr (Nat.min_eq_left enough).symm, sound, queued, rfl, Iff.rfl⟩
  | dry running short sound empty =>
    have all := (Nat.min_eq_right (Nat.le_of_lt short)).symm
    refine ⟨?_, .inr all, sound, ?_, rfl, by simp [running]⟩
    · rw [← length_queued, List.take_length]
    · rw [← length_queued, List.drop_length]
      exact empty

theorem Drains.within {out filled : Bytes} {taken : Nat} (h : Drains p out taken filled p') :
    taken ≤ p.buffered := by
  rcases h.amount with rfl | rfl
  · exact Nat.zero_le _
  · exact Nat.min_le_right _ _

/-- What is returned of a drain was in front of the queue. -/
theorem Drains.audio {out filled : Bytes} {taken : Nat} (h : Drains p out taken filled p') :
    filled.take taken = p.queued.take taken := by
  rw [h.filled]
  refine List.take_left' ?_
  rw [List.length_take, length_queued]
  exact Nat.min_eq_left h.within

/-! ## One call after the other -/

/-- A call, the pipeline that it met, and what that answered. -/
structure Visit (capacity : Nat) where
  met : Pipeline capacity
  call : PipelineCall
  answer : PipelineAnswer

/-- The pipeline after some calls. -/
def after (p : Pipeline capacity) (calls : List PipelineCall) : Pipeline capacity :=
  calls.foldl (fun p call => (p.perform call).2) p

/-- **The calls of a run**, each with the pipeline that it met. -/
def visits (p : Pipeline capacity) : List PipelineCall → List (Visit capacity)
  | [] => []
  | call :: calls => ⟨p, call, (p.perform call).1⟩ :: (p.perform call).2.visits calls

section Passes

variable {call : PipelineCall} {answer : PipelineAnswer}

theorem Passes.sound (h : Passes p call answer p') (sound : p.ring.Sound) : p'.ring.Sound := by
  cases h with
  | started | stopped => exact Ring.sound_clear _
  | late | refused | silent => exact sound
  | taken _ _ sound' | primed _ _ sound' | played _ _ sound' | dry _ _ sound' => exact sound'

theorem Passes.layout (h : Passes p call answer p') : p'.layout = p.layout := by
  cases h <;> rfl

end Passes

/-- **A run keeps the ring sound**, and never looks at another layout. -/
theorem sound_after (sound : p.ring.Sound) (calls : List PipelineCall) :
    (p.after calls).ring.Sound ∧ (p.after calls).layout = p.layout := by
  induction calls generalizing p with
  | nil => exact ⟨sound, rfl⟩
  | cons call calls ih =>
    have passes := passes_perform sound call
    obtain ⟨sound', layout⟩ := ih (passes.sound sound)
    exact ⟨sound', layout.trans passes.layout⟩

end Pipeline

end AudioGadget
