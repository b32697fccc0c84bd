import Mathlib.Data.List.Induction
import Mathlib.Logic.Function.Basic
import AudioGadget.Proofs.Control.Loudness
/-!
# Polling — what was asked for last reaches the DAC

The control pipe tells a shadow its levels and a task polls it for what
there is to write. Neither waits for the other: between two polls the
shadow may be told much or nothing, changes may cancel out, and a change
under mute moves no register. All they share is the flag, and the flag is
up exactly if a level has changed since the last poll, or there was none
(`waiting_iff`). So the writes handed out last are those of the levels
that are kept now, unless the flag is up (`handed_of_rested`), and the
levels that are kept are the last ones asked for (`levels_after`).
-/

namespace AudioGadget

open Bench

/-- **The levels** that an output stage is set by. -/
structure Levels where
  muted : Bool
  master : Volume
  left : Volume
  right : Volume
deriving DecidableEq

/-- **What happens to a shadow.** -/
inductive Touch where
  /-- The control pipe tells it a level. -/
  | told (call : CodecCall)
  /-- The task asks what there is to write. -/
  | polled
deriving DecidableEq

/-- What the control pipe says in a run. -/
def Touch.call? : Touch → Option CodecCall
  | .told call => some call
  | .polled => none

/-! ## The levels that were asked for -/

namespace Levels

/-- The registers of a DAC at these levels. Muted, both outputs are silent;
otherwise each output sits below the master. -/
def registers (l : Levels) : List RegisterWrite :=
  [⟨leftRegister, if l.muted then 0xFF else (Attenuation.combined l.master l.left).value⟩,
    ⟨rightRegister, if l.muted then 0xFF else (Attenuation.combined l.master l.right).value⟩]

/-- The volume that a call asks of the right output. Channel 2 drives it, and
so does channel 1 where it is the only one. -/
def right? (streamChannels : Nat) : CodecCall → Option Volume
  | .setMute _ => none
  | .setVolume channel v =>
    if channel = 2 ∨ channel = 1 ∧ streamChannels = 1 then some v else none

/-- **The levels that the calls asked for last**, and full scale where they
asked for none. -/
def requested (streamChannels : Nat) (calls : List CodecCall) : Levels where
  muted := (lastMute? calls).getD false
  master := (lastVolume? 0 calls).getD .unity
  left := (lastVolume? 1 calls).getD .unity
  right := ((calls.filterMap (right? streamChannels)).getLast?).getD .unity

end Levels

namespace DacShadow

/-- The levels that a shadow keeps. -/
def levels (s : DacShadow) : Levels :=
  ⟨s.muted, s.master, s.left, s.right⟩

/-- A shadow that was told a level. -/
def hear (s : DacShadow) : CodecCall → DacShadow
  | .setMute muted => s.setMute muted
  | .setVolume channel v => s.setVolume channel v

/-- One touch: the writes that it hands out, and the shadow afterwards. -/
def touch (s : DacShadow) : Touch → Option (List RegisterWrite) × DacShadow
  | .told call => (none, s.hear call)
  | .polled => s.takePending

/-- A shadow after a run of touches. -/
def after (s : DacShadow) (run : List Touch) : DacShadow :=
  run.foldl (fun s touch => (s.touch touch).2) s

/-- **The writes that a run hands out**, poll by poll. -/
def handed (s : DacShadow) : List Touch → List (List RegisterWrite)
  | [] => []
  | touch :: run => (s.touch touch).1.toList ++ (s.touch touch).2.handed run

/-- **A level has changed since the last poll.** -/
def Changed (s : DacShadow) (run : List Touch) : Prop :=
  ∃ earlier call later, run = earlier ++ .told call :: later ∧ .polled ∉ later ∧
    ((s.after earlier).hear call).levels ≠ (s.after earlier).levels

theorem after_concat (s : DacShadow) (run : List Touch) (touch : Touch) :
    s.after (run ++ [touch]) = ((s.after run).touch touch).2 := by
  simp [after]

theorem handed_concat (s : DacShadow) (run : List Touch) (touch : Touch) :
    s.handed (run ++ [touch]) = s.handed run ++ ((s.after run).touch touch).1.toList := by
  induction run generalizing s with
  | nil => simp [handed, after]
  | cons first run ih =>
    rw [List.cons_append, handed, handed, ih, List.append_assoc]
    rfl

/-! ## One touch -/

variable {s : DacShadow} {call : CodecCall} {run : List Touch}

/-- The registers are a matter of the levels. -/
theorem registers_eq (s : DacShadow) : s.registers = s.levels.registers := by
  unfold registers Levels.registers levels
  cases s.muted <;> rfl

/-- A poll hands out the registers if the flag is up. -/
theorem takePending_fst (s : DacShadow) :
    s.takePending.1 = if s.dirty then some s.registers else none := by
  unfold takePending
  split <;> rfl

/-- It lowers the flag. -/
@[simp] theorem dirty_takePending (s : DacShadow) : s.takePending.2.dirty = false := by
  unfold takePending
  split
  · rfl
  · rename_i rested
    simpa using rested

/-- It changes no level. -/
@[simp] theorem levels_takePending (s : DacShadow) : s.takePending.2.levels = s.levels := by
  unfold takePending
  split <;> rfl

@[simp] theorem streamChannels_takePending (s : DacShadow) :
    s.takePending.2.streamChannels = s.streamChannels := by
  unfold takePending
  split <;> rfl

/-- **A call raises the flag if it changes a level**, and leaves it otherwise. -/
theorem dirty_hear (s : DacShadow) (call : CodecCall) :
    (s.hear call).dirty = true ↔ s.dirty = true ∨ (s.hear call).levels ≠ s.levels := by
  cases call with
  | setMute muted =>
    simp only [hear, setMute]
    split
    · simp
    · rename_i other
      simp [levels, Ne.symm other]
  | setVolume channel v =>
    -- channels and flag are no part of a change, so the rest of the shadow differs
    have width : (s.withVolume channel v).streamChannels = s.streamChannels := by
      grind [withVolume]
    have flag : (s.withVolume channel v).dirty = s.dirty := by
      grind [withVolume]
    simp only [hear, setVolume]
    split
    · simp
    · rename_i other
      have moved : (s.withVolume channel v).levels ≠ s.levels := by
        intro same
        simp only [levels, Levels.mk.injEq] at same
        obtain ⟨muted, master, left, right⟩ := same
        apply other
        rw [DacShadow.mk.injEq]
        exact ⟨width, muted, master, left, right, flag⟩
      exact iff_of_true rfl (.inr moved)

/-- The right output is moved by channel 2, and by channel 1 where it is the
only one. -/
theorem right_hear (s : DacShadow) (call : CodecCall) :
    (s.hear call).right = (Levels.right? s.streamChannels call).getD s.right := by
  cases call with
  | setMute muted => exact s.right_setMute muted
  | setVolume channel v =>
    obtain ⟨_, eq⟩ := s.exists_setVolume channel v
    rw [hear, eq]
    grind [withVolume, Levels.right?]

theorem streamChannels_hear (s : DacShadow) (call : CodecCall) :
    (s.hear call).streamChannels = s.streamChannels := by
  cases call with
  | setMute muted => exact s.streamChannels_setMute muted
  | setVolume channel v => exact s.streamChannels_setVolume channel v

theorem streamChannels_after (s : DacShadow) (run : List Touch) :
    (s.after run).streamChannels = s.streamChannels := by
  induction run using List.reverseRecOn with
  | nil => rfl
  | append_singleton run touch ih =>
    rw [after_concat, ← ih]
    cases touch with
    | told call => exact streamChannels_hear _ call
    | polled => exact streamChannels_takePending _

/-! ## The flag, along a run -/

theorem changed_concat_told :
    s.Changed (run ++ [.told call]) ↔
      s.Changed run ∨ ((s.after run).hear call).levels ≠ (s.after run).levels := by
  constructor
  · rintro ⟨earlier, one, later, split, unpolled, moved⟩
    rcases List.eq_nil_or_concat later with rfl | ⟨later, last, rfl⟩
    · -- the change is the last touch itself
      obtain ⟨rfl, same⟩ := List.append_inj' split rfl
      cases same
      exact .inr moved
    · rw [List.concat_eq_append, ← List.cons_append, ← List.append_assoc] at split
      rw [List.concat_eq_append] at unpolled
      obtain ⟨rfl, -⟩ := List.append_inj' split rfl
      exact .inl ⟨earlier, one, later, rfl, fun mem => unpolled (List.mem_append_left _ mem), moved⟩
  · rintro (⟨earlier, one, later, rfl, unpolled, moved⟩ | moved)
    · refine ⟨earlier, one, later ++ [.told call], by simp, ?_, moved⟩
      simpa using unpolled
    · exact ⟨run, call, [], rfl, List.not_mem_nil, moved⟩

theorem not_changed_concat_polled : ¬ s.Changed (run ++ [.polled]) := by
  rintro ⟨earlier, one, later, split, unpolled, -⟩
  rcases List.eq_nil_or_concat later with rfl | ⟨later, last, rfl⟩
  · obtain ⟨-, same⟩ := List.append_inj' split rfl
    cases same
  · rw [List.concat_eq_append, ← List.cons_append, ← List.append_assoc] at split
    obtain ⟨-, same⟩ := List.append_inj' split rfl
    cases same
    exact unpolled (by simp)

/-- **The flag is up exactly if there is something to hear of**: no poll was
made, or a level has changed since the last one. -/
theorem waiting_iff (start : s.dirty = true) (run : List Touch) :
    (s.after run).dirty = true ↔ .polled ∉ run ∨ s.Changed run := by
  induction run using List.reverseRecOn with
  | nil => simpa [after] using start
  | append_singleton run touch ih =>
    rw [after_concat]
    cases touch with
    | told call =>
      have unpolled : Touch.polled ∉ run ++ [Touch.told call] ↔ Touch.polled ∉ run := by simp
      rw [touch, dirty_hear, ih, unpolled, changed_concat_told, or_assoc]
    | polled =>
      simp [touch, not_changed_concat_polled]

/-! ## What was handed out, along a run -/

/-- **Nothing is waiting, so the last writes are the right ones.** -/
theorem handed_of_rested (start : s.dirty = true) {run : List Touch}
    (rested : (s.after run).dirty = false) :
    (s.handed run).getLast? = some (s.after run).registers := by
  induction run using List.reverseRecOn with
  | nil => cases start.symm.trans rested
  | append_singleton run touch ih =>
    rw [after_concat] at rested ⊢
    rw [handed_concat]
    cases touch with
    | told call =>
      -- a call that leaves the flag down has changed no level
      have still : ¬ ((s.after run).dirty = true ∨
          ((s.after run).hear call).levels ≠ (s.after run).levels) := by
        rw [← dirty_hear, Bool.not_eq_true]
        exact rested
      obtain ⟨before, same⟩ := not_or.1 still
      have last := ih (Bool.not_eq_true _ ▸ before)
      rw [touch, Option.toList_none, List.append_nil, last, registers_eq, registers_eq,
        not_not.1 same]
    | polled =>
      rw [touch, registers_takePending, takePending_fst]
      rcases before : (s.after run).dirty with _ | _
      · simpa using ih before
      · simp

/-- **A call asks for the levels that a shadow keeps when it hears it.** -/
theorem levels_hear {s : DacShadow} {streamChannels : Nat}
    (width : s.streamChannels = streamChannels) {calls : List CodecCall}
    (kept : s.levels = .requested streamChannels calls) (call : CodecCall) :
    (s.hear call).levels = .requested streamChannels (calls ++ [call]) := by
  have right := s.right_hear call
  simp only [levels, Levels.requested, Levels.mk.injEq] at kept ⊢
  obtain ⟨muted, master, left, outer⟩ := kept
  rw [width, outer] at right
  rw [right]
  cases call with
  | setMute now =>
    simp only [hear, muted_setMute, master_setMute, left_setMute, lastMute?_concat_setMute,
      lastVolume?_concat_setMute]
    refine ⟨rfl, master, left, ?_⟩
    simp [Levels.right?]
  | setVolume channel v =>
    simp only [hear, muted_setVolume, master_setVolume, left_setVolume, lastMute?_concat_setVolume,
      lastVolume?_concat_setVolume]
    refine ⟨muted, ?_, ?_, ?_⟩
    · split
      · rfl
      · exact master
    · split
      · rfl
      · exact left
    · by_cases drives : channel = 2 ∨ channel = 1 ∧ streamChannels = 1 <;>
        simp [Levels.right?, drives]

/-- **The levels that are kept are the last ones asked for.** -/
theorem levels_after (streamChannels : Nat) (run : List Touch) :
    ((powerOn streamChannels).after run).levels =
      .requested streamChannels (run.filterMap Touch.call?) := by
  induction run using List.reverseRecOn with
  | nil => rfl
  | append_singleton run touch ih =>
    rw [after_concat, List.filterMap_append]
    cases touch with
    | told call => exact levels_hear (streamChannels_after _ run) ih call
    | polled =>
      have silent : [Touch.polled].filterMap Touch.call? = [] := rfl
      rw [touch, levels_takePending, ih, silent, List.append_nil]

end DacShadow

/-! ## The registers of the DAC -/

/-- **A DAC that has performed some writes**: what each register holds, if it
was written. -/
def performed (writes : List RegisterWrite) : UInt8 → Option UInt8 :=
  writes.foldl (fun held w => Function.update held w.register (some w.value)) fun _ => none

/-- Whatever was written before, the registers hold what was written last. -/
theorem performed_append_registers (writes : List RegisterWrite) (l : Levels) :
    ∀ w ∈ l.registers, performed (writes ++ l.registers) w.register = some w.value := by
  have apart : leftRegister ≠ rightRegister := by decide
  simp [performed, Levels.registers, Function.update_of_ne apart]

/-- **No update is lost**, however calls and polls follow each other. A poll
has something to write exactly if it is the first one or a call since the
one before has changed a level, and what it hands out are the registers as
they should be then. While nothing is waiting, the writes handed out last
are still the right ones. A second poll in a row has nothing to write, and
whenever a poll has nothing to write, a DAC that has performed every write
is at the levels that were asked for last. -/
theorem no_update_is_lost (streamChannels : Nat) (run : List Touch) :
    let start := DacShadow.powerOn streamChannels
    let s := start.after run
    let requested := Levels.requested streamChannels (run.filterMap Touch.call?)
    (s.takePending.1.isSome = true ↔ .polled ∉ run ∨ start.Changed run) ∧
      (∀ writes, s.takePending.1 = some writes → writes = s.registers) ∧
      (s.dirty = false → (start.handed run).getLast? = some s.registers) ∧
      s.registers = requested.registers ∧
      s.takePending.2.takePending.1 = none ∧
      (s.takePending.1 = none →
        ∀ w ∈ requested.registers,
          performed (start.handed run).flatten w.register = some w.value) := by
  intro start s requested
  have kept : s.registers = requested.registers := by
    rw [DacShadow.registers_eq, DacShadow.levels_after]
  have raised : s.takePending.1.isSome = true ↔ s.dirty = true := by
    rw [DacShadow.takePending_fst]
    split <;> simp_all
  refine ⟨?_, fun writes => DacShadow.eq_registers_of_takePending, DacShadow.handed_of_rested rfl,
    kept, ?_, fun none => ?_⟩
  · rw [raised]
    exact DacShadow.waiting_iff rfl run
  · rw [DacShadow.takePending_fst, DacShadow.dirty_takePending]
    rfl
  · -- nothing is waiting, so the last batch of writes is the one asked for
    have rested : s.dirty = false := by
      rw [none] at raised
      simpa using raised
    have last := DacShadow.handed_of_rested rfl rested
    obtain ⟨earlier, split⟩ := List.getLast?_eq_some_iff.1 last
    rw [split, List.flatten_append, List.flatten_singleton, kept]
    exact performed_append_registers earlier.flatten requested

/-- The left output is turned down and written; then, under mute, the right
one, and a channel that drives none. -/
def muffled : List Touch :=
  [.polled, .told (.setVolume 1 ⟨24, by omega⟩), .polled, .told (.setMute true),
    .told (.setVolume 2 ⟨30, by omega⟩), .told (.setVolume 5 ⟨40, by omega⟩),
    .told (.setMute false)]

/-- The next poll has something to write, although the mute is what it was,
and after it both outputs are where they were put. -/
theorem no_update_is_lost_muffled :
    let start := DacShadow.powerOn 2
    start.Changed muffled ∧
      (start.after (muffled ++ [.polled])).takePending.1 = none ∧
      performed (start.handed (muffled ++ [.polled])).flatten 15 = some 24 ∧
      performed (start.handed (muffled ++ [.polled])).flatten 16 = some 30 := by
  intro start
  obtain ⟨due, -⟩ := no_update_is_lost 2 muffled
  obtain ⟨-, -, -, -, -, written⟩ := no_update_is_lost 2 (muffled ++ [.polled])
  have polled : Touch.polled ∈ muffled := by decide
  have something : ((DacShadow.powerOn 2).after muffled).takePending.1.isSome = true := by
    decide +kernel
  have nothing : ((DacShadow.powerOn 2).after (muffled ++ [.polled])).takePending.1 = none := by
    decide +kernel
  have held := written nothing
  have asked : (Levels.requested 2 ((muffled ++ [Touch.polled]).filterMap Touch.call?)).registers =
      [⟨15, 24⟩, ⟨16, 30⟩] := by decide +kernel
  rw [asked] at held
  obtain ⟨left, rest⟩ := List.forall_mem_cons.1 held
  obtain ⟨right, -⟩ := List.forall_mem_cons.1 rest
  exact ⟨(due.1 something).resolve_left (not_not.2 polled), nothing, left, right⟩

end AudioGadget
