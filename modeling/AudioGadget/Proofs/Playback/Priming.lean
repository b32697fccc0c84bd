import Mathlib.Order.Bounds.Basic
import AudioGadget.Proofs.Playback.Queue
/-!
# Priming — the cushion can always be filled

While a pipeline primes it plays nothing, so what has no room then will
never have any: a cushion that did not fit would mean silence for ever. It
does fit. Priming begins with an empty ring, after a start or after the
ring ran dry, and ends as soon as the cushion is full, with half the ring
or less. Until then a packet as large as the other half has room
(`Poised.accepts`).

The counters tell what went wrong apart from that: packets without room,
drains that ran dry, and packets without a stream (`Counts`).
-/

namespace AudioGadget

/-- **Rounding down to whole frames loses none of them.** -/
theorem Layout.isGreatest_wholeFrames {l : Layout} (cuts : 0 < l.frameBytes) (length : Nat) :
    IsGreatest {n | l.frameBytes ∣ n ∧ n ≤ length} (l.wholeFrames length) := by
  refine ⟨⟨l.frameBytes_dvd_wholeFrames length (Nat.ne_of_gt cuts), l.wholeFrames_le length⟩, ?_⟩
  rintro n ⟨whole, within⟩
  rw [wholeFrames, if_neg (Nat.ne_of_gt cuts), ← Nat.div_mul_cancel whole]
  exact Nat.mul_le_mul_right _ (Nat.div_le_div_right within)

namespace Pipeline

variable {capacity : Nat} {p p' : Pipeline capacity}
variable {call : PipelineCall} {answer : PipelineAnswer}

/-! ## What waits in each phase -/

/-- **Nothing waits without a stream**, and while the pipeline primes there is
nothing or less than the cushion. -/
structure Poised (p : Pipeline capacity) : Prop where
  sound : p.ring.Sound
  idle : p.phase = .stopped → p.buffered = 0
  cushion : p.phase = .priming → p.buffered = 0 ∨ p.buffered < p.threshold

theorem poised_idle (layout : Layout) : Poised (.idle layout : Pipeline capacity) :=
  ⟨Ring.sound_empty, fun _ => rfl, nofun⟩

/-- A ring that took a packet counts it. -/
theorem count_of_queued {ring : Ring capacity} {packet : Bytes}
    (queued : ring.toList = p.queued ++ packet) : ring.count = p.buffered + packet.length := by
  rw [← Ring.length_toList, queued, List.length_append, length_queued]

/-- **Every call leaves it so.** -/
theorem Poised.passes (h : Poised p) (passes : Passes p call answer p') : Poised p' := by
  have sound := passes.sound h.sound
  cases passes with
  | started => exact ⟨sound, nofun, fun _ => .inl rfl⟩
  | stopped => exact ⟨sound, fun _ => rfl, nofun⟩
  | late | refused | silent => exact ⟨sound, h.idle, h.cushion⟩
  | taken streams _ _ queued short =>
    refine ⟨sound, fun idle => absurd idle streams, fun priming => .inr ?_⟩
    change _ < p.threshold
    rw [buffered, count_of_queued queued]
    exact short priming
  | primed => exact ⟨sound, nofun, nofun⟩
  | played running =>
    exact ⟨sound, fun idle => (by cases running.symm.trans idle),
      fun priming => (by cases running.symm.trans priming)⟩
  | @dry _ ring _ _ _ empty =>
    refine ⟨sound, nofun, fun _ => .inl ?_⟩
    rw [buffered, ← Ring.length_toList]
    exact congrArg List.length empty

/-- So does a run. -/
theorem Poised.after (h : Poised p) (calls : List PipelineCall) : Poised (p.after calls) := by
  induction calls generalizing p with
  | nil => exact h
  | cons call calls ih => exact ih (h.passes (passes_perform h.sound call))

theorem threshold_le (p : Pipeline capacity) : p.threshold ≤ capacity / 2 :=
  p.layout.wholeFrames_le _

/-- **A packet is refused for want of room and for nothing else.** -/
theorem Poised.rejects_iff (h : Poised p) (packet : Bytes) :
    (p.accept packet).1 = .rejected ↔
      p.phase ≠ .stopped ∧ capacity < p.buffered + packet.length := by
  have passes := passes_accept h.sound packet
  generalize (p.accept packet).1 = intake at passes ⊢
  generalize (p.accept packet).2 = next at passes
  cases passes with
  | late idle => exact iff_of_false nofun fun streams => streams.1 idle
  | refused streams full => exact iff_of_true rfl ⟨streams, full⟩
  | taken _ room | primed _ room =>
    exact iff_of_false nofun fun full => absurd room (Nat.not_le.2 full.2)

/-- **While the pipeline primes, a packet of the other half has room.** -/
theorem Poised.accepts (h : Poised p) (priming : p.phase = .priming) {packet : Bytes}
    (other : packet.length ≤ capacity - capacity / 2) : (p.accept packet).1 = .accepted := by
  rcases intake : (p.accept packet).1 with _ | _
  · rfl
  · obtain ⟨-, full⟩ := (h.rejects_iff packet).1 intake
    have half := p.threshold_le
    rcases h.cushion priming with none | short <;> omega

/-- **A pipeline begins to play with the packet that fills the cushion.** -/
theorem Poised.plays_iff (h : Poised p) (quiet : p.phase ≠ .running) (call : PipelineCall) :
    (p.perform call).2.phase = .running ↔
      p.phase = .priming ∧ ∃ packet, call = .accept packet ∧
        (p.perform call).1 = .intake .accepted ∧ p.threshold ≤ (p.perform call).2.buffered := by
  have passes := passes_perform h.sound call
  generalize (p.perform call).1 = answer at passes ⊢
  generalize (p.perform call).2 = next at passes ⊢
  cases passes with
  | started | stopped => exact iff_of_false nofun (by simp)
  | late idle => exact iff_of_false quiet fun plays => by cases idle.symm.trans plays.1
  | refused => exact iff_of_false quiet (by simp)
  | @taken packet ring _ _ _ queued short =>
    refine iff_of_false quiet ?_
    rintro ⟨priming, _, -, -, filled⟩
    have count : ring.count = p.buffered + packet.length := count_of_queued queued
    have filled : p.threshold ≤ ring.count := filled
    have below := short priming
    omega
  | @primed packet ring priming _ _ queued filled =>
    refine iff_of_true rfl ⟨priming, packet, rfl, rfl, ?_⟩
    rw [buffered, count_of_queued queued]
    exact filled
  | silent => exact iff_of_false quiet (by simp)
  | played running | dry running => exact absurd running quiet

/-! ## What is counted -/

namespace Visit

/-- There is no room for a packet. -/
def isRefused (v : Visit capacity) : Bool :=
  match v.call with
  | .accept packet => v.met.phase ≠ .stopped ∧ capacity < v.met.buffered + packet.length
  | _ => false

/-- The DAC asks for more than there is. -/
def isDry (v : Visit capacity) : Bool :=
  match v.call with
  | .drain out =>
    v.met.phase = .running ∧ v.met.buffered < v.met.layout.wholeFrames out.length
  | _ => false

/-- A packet comes without a stream. -/
def isLate (v : Visit capacity) : Bool :=
  match v.call with
  | .accept _ => v.met.phase = .stopped
  | _ => false

end Visit

/-- **The counters count these visits.** -/
structure Counts (p p' : Pipeline capacity) (visits : List (Visit capacity)) : Prop where
  refused : p'.overflows = p.overflows.add (visits.countP Visit.isRefused)
  dry : p'.underruns = p.underruns.add (visits.countP Visit.isDry)
  late : p'.late = p.late.add (visits.countP Visit.isLate)

theorem Counts.refl (p : Pipeline capacity) : Counts p p [] :=
  ⟨(Counter.add_zero _).symm, (Counter.add_zero _).symm, (Counter.add_zero _).symm⟩

theorem Counts.trans {p'' : Pipeline capacity} {visits more : List (Visit capacity)}
    (h : Counts p p' visits) (h' : Counts p' p'' more) : Counts p p'' (visits ++ more) := by
  constructor
  · rw [h'.refused, h.refused, Counter.add_add, List.countP_append]
  · rw [h'.dry, h.dry, Counter.add_add, List.countP_append]
  · rw [h'.late, h.late, Counter.add_add, List.countP_append]

/-- A single visit counts in a counter once or not at all. -/
theorem counts_singleton_iff {v : Visit capacity} :
    Counts p p' [v] ↔
      p'.overflows = p.overflows.add (if v.isRefused then 1 else 0) ∧
        p'.underruns = p.underruns.add (if v.isDry then 1 else 0) ∧
        p'.late = p.late.add (if v.isLate then 1 else 0) := by
  simp only [← List.countP_singleton]
  exact ⟨fun h => ⟨h.refused, h.dry, h.late⟩, fun h => ⟨h.1, h.2.1, h.2.2⟩⟩

/-- **One call counts itself**, in at most one counter. -/
theorem counts_passes (passes : Passes p call answer p') : Counts p p' [⟨p, call, answer⟩] := by
  rw [counts_singleton_iff]
  cases passes with
  | started | stopped =>
    simp [Visit.isRefused, Visit.isDry, Visit.isLate, Pipeline.start, Pipeline.stop]
  | late idle => simp [Visit.isRefused, Visit.isDry, Visit.isLate, Counter.bump, idle]
  | refused streams full =>
    simp [Visit.isRefused, Visit.isDry, Visit.isLate, Counter.bump, streams, full]
  | taken streams room =>
    simp [Visit.isRefused, Visit.isDry, Visit.isLate, streams, Nat.not_lt.2 room]
  | primed priming room =>
    simp [Visit.isRefused, Visit.isDry, Visit.isLate, priming, Nat.not_lt.2 room]
  | silent quiet => simp [Visit.isRefused, Visit.isDry, Visit.isLate, quiet]
  | played running enough =>
    simp [Visit.isRefused, Visit.isDry, Visit.isLate, Nat.not_lt.2 enough]
  | dry running short =>
    simp [Visit.isRefused, Visit.isDry, Visit.isLate, Counter.bump, running, short]

/-- So does every call of a run. -/
theorem counts_after (sound : p.ring.Sound) (calls : List PipelineCall) :
    Counts p (p.after calls) (p.visits calls) := by
  induction calls generalizing p with
  | nil => exact .refl p
  | cons call calls ih =>
    have passes := passes_perform sound call
    exact (counts_passes passes).trans (ih (passes.sound sound))

/-- **The counters of an idle pipeline begin at nothing.** -/
theorem Counts.of_idle {layout : Layout} {visits : List (Visit capacity)}
    (h : Counts (.idle layout) p visits) :
    p.overflows = .ofNat (visits.countP Visit.isRefused) ∧
      p.underruns = .ofNat (visits.countP Visit.isDry) ∧
      p.late = .ofNat (visits.countP Visit.isLate) := by
  obtain ⟨refused, dry, late⟩ := h
  simp only [idle, Counter.default_add] at refused dry late
  exact ⟨refused, dry, late⟩

/-! ## Every run -/

/-- **A pipeline never waits for what has no room.** Whatever was asked of it:
no more is queued than the ring holds, nothing without a stream, and while
priming nothing or less than the cushion, which is as many whole frames as
fit in half the ring. It begins to play only from priming, with the packet
that fills the cushion. A packet is refused only for want of room, and while
priming none that is as large as the other half or smaller. The counters
count the packets that had no room, the drains that ran dry, and the packets
that came without a stream, as far as a counter goes. -/
theorem priming_never_stalls (layout : Layout) (calls : List PipelineCall) :
    let start : Pipeline capacity := .idle layout
    let p := start.after calls
    (p.buffered ≤ capacity ∧ (p.phase = .stopped → p.buffered = 0) ∧
      (p.phase = .priming → p.buffered = 0 ∨ p.buffered < p.threshold)) ∧
    (p.threshold ≤ capacity / 2 ∧
      (0 < layout.frameBytes →
        IsGreatest {n | layout.frameBytes ∣ n ∧ n ≤ capacity / 2} p.threshold)) ∧
    (∀ call, p.phase ≠ .running →
      ((p.perform call).2.phase = .running ↔
        p.phase = .priming ∧ ∃ packet, call = .accept packet ∧
          (p.perform call).1 = .intake .accepted ∧ p.threshold ≤ (p.perform call).2.buffered)) ∧
    (∀ packet, (p.accept packet).1 = .rejected ↔
      p.phase ≠ .stopped ∧ capacity < p.buffered + packet.length) ∧
    (p.phase = .priming → ∀ packet : Bytes, packet.length ≤ capacity - capacity / 2 →
      (p.accept packet).1 = .accepted) ∧
    p.overflows = .ofNat ((start.visits calls).countP Visit.isRefused) ∧
    p.underruns = .ofNat ((start.visits calls).countP Visit.isDry) ∧
    p.late = .ofNat ((start.visits calls).countP Visit.isLate) := by
  intro start p
  have poised : Poised p := (poised_idle layout).after calls
  have own : p.layout = layout := (sound_after Ring.sound_empty calls).2
  have counts : Counts start p (start.visits calls) := counts_after Ring.sound_empty calls
  refine ⟨⟨poised.sound.count_le, poised.idle, poised.cushion⟩, ⟨p.threshold_le, fun cuts => ?_⟩,
    fun call quiet => poised.plays_iff quiet call, poised.rejects_iff,
    fun priming packet other => poised.accepts priming other, counts.of_idle⟩
  rw [threshold, own]
  exact Layout.isGreatest_wholeFrames cuts _

/-- A packet too early, a cushion of frames in a ring of nine octets, a packet
too much, and a drain that runs dry. -/
def stutter : List PipelineCall :=
  [.accept [0], .start, .accept [1, 2, 3], .accept [4, 5], .accept [6, 7, 8, 9, 10],
    .drain (List.replicate 9 0), .accept [11, 12]]

/-- It primes again, with two octets of four, and five more have room. -/
theorem priming_never_stalls_stutter :
    let start : Pipeline 9 := .idle ⟨48000, 2, 8⟩
    let p := start.after stutter
    p.phase = .priming ∧ p.buffered = 2 ∧ p.threshold = 4 ∧
      (p.accept [13, 14, 15, 16, 17]).1 = .accepted ∧
      (p.perform (.accept [13, 14])).2.phase = .running ∧
      p.overflows = .ofNat 1 ∧ p.underruns = .ofNat 1 ∧ p.late = .ofNat 1 := by
  obtain ⟨-, -, plays, -, accepts, overflows, underruns, late⟩ :=
    @priming_never_stalls 9 ⟨48000, 2, 8⟩ stutter
  have priming : ((idle ⟨48000, 2, 8⟩ : Pipeline 9).after stutter).phase = .priming := by
    decide +kernel
  have runs := (plays (.accept [13, 14]) (by decide +kernel)).2
    ⟨priming, [13, 14], rfl, by decide +kernel, by decide +kernel⟩
  have counted : ((idle ⟨48000, 2, 8⟩ : Pipeline 9).visits stutter).countP Visit.isRefused = 1 ∧
      ((idle ⟨48000, 2, 8⟩ : Pipeline 9).visits stutter).countP Visit.isDry = 1 ∧
      ((idle ⟨48000, 2, 8⟩ : Pipeline 9).visits stutter).countP Visit.isLate = 1 := by
    decide +kernel
  rw [counted.1] at overflows
  rw [counted.2.1] at underruns
  rw [counted.2.2] at late
  exact ⟨priming, by decide +kernel, by decide +kernel, accepts priming _ (by decide), runs,
    overflows, underruns, late⟩

end Pipeline

end AudioGadget
