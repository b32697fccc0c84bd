import Mathlib.Data.Bool.Count
import Mathlib.Data.List.Induction
import AudioGadget.Bench.Codec
import AudioGadget.Bench.Sink
import AudioGadget.Proofs.Reception.History
/-!
# Refusals — a stream misses the slots that the core refused

Whatever is reported of a slot, the slot is offered to the core again, so
the slots that are at home while a stream runs are those the core would
not take when they were last offered. A slot that was refused is matched
by no report and offered no more, so each of them counts for one refusal
since the stream began (`idle_eq_refusals`). Slots that were out already
when it began are neither offered then nor lost.

`Course.idle_count` reads this off the courses of a call. The counter of
refusals is kept apart from the flags and may have counted before, so it
shows no fewer.
-/

namespace AudioGadget

open Bench

/-- The core was asked to take a buffer and would not. -/
def Entry.isRefusal : Entry → Bool
  | .submitted _ _ taken => !taken
  | _ => false

/-- The same, as the core saw it. -/
def Bench.CoreCall.isRefusal : CoreCall → Bool
  | .submitReceive _ _ taken => !taken
  | _ => false

/-- What the core refused is all in the history. -/
theorem Entry.countP_isRefusal (calls : List CoreCall) :
    (calls.filterMap ofCoreCall?).countP isRefusal = calls.countP CoreCall.isRefusal := by
  rw [List.countP_filterMap]
  refine List.countP_congr fun call _ => ?_
  cases call with
  | allocEndpoint _ _ _ given => cases given <;> rfl
  | submitReceive | cancel => rfl

/-- How many slots are at home. -/
def SlotPool.idleCount (p : SlotPool) : Nat :=
  p.slots.countP fun s => !s.lent

theorem SlotPool.idleCount_eq (p : SlotPool) : p.idleCount = p.flags.count false := by
  simp [idleCount, flags, List.count, List.countP_map, Function.comp_def]

theorem SlotPool.busyCount_add_idleCount (p : SlotPool) :
    p.busyCount + p.idleCount = p.flags.length := by
  have busy : p.busyCount = p.flags.count true := by
    simp [busyCount, flags, List.count, List.countP_map, Function.comp_def]
  rw [busy, idleCount_eq, List.count_true_add_count_false]

/-! ## What one call leaves at home -/

theorem count_false_set {flags : List Bool} {place : Nat} (out : flags[place]? = some true)
    (taken : Bool) :
    (flags.set place taken).count false = flags.count false + (if taken then 0 else 1) := by
  obtain ⟨inside, flag⟩ := List.getElem?_eq_some_iff.1 out
  rw [List.count_set inside, flag]
  cases taken <;> rfl

theorem SlotPool.idleCount_of_set {p p' : SlotPool} {place : Nat} {slot : Slot}
    (out : p.flags[place]? = some true) (slots : p'.slots = p.slots.set place slot) :
    p'.idleCount = p.idleCount + (if slot.lent then 0 else 1) := by
  have flags : p'.flags = p.flags.set place slot.lent := by
    simp only [SlotPool.flags, slots, List.map_set]
  rw [idleCount_eq, idleCount_eq, flags, count_false_set out]

/-- **After a round of lending the refused slots are at home**, and no
others. -/
theorem Arms.count_false {ep : EndpointAddress} {length place : Nat} {flags flags' : List Bool}
    {entries : List Entry} (h : Arms ep length place flags entries flags') :
    flags'.count false = entries.countP Entry.isRefusal := by
  induction h with
  | nil => rfl
  | passed _ ih => simpa using ih
  | offered taken _ ih => cases taken <;> simp [Entry.isRefusal, ih]

namespace Gadget

variable {U S C : Type}

/-- **A call that leaves a stream running** leaves at home what was at home
in that stream, and what the core refuses. -/
theorem Course.idle_count {g g' : Gadget (Watched U CoreCall) S C} {call : Call}
    {entries : List Entry} (h : Course g g' call entries) (running : g'.isOperational = true) :
    g'.pool.flags.count false =
      (if g.isOperational then g.pool.flags.count false else 0) +
        entries.countP Entry.isRefusal := by
  cases h with
  | rest _ _ was flags => simp [was running, flags]
  | reserved _ _ same flags => simp [← same, running, flags, Entry.isRefusal]
  | reclaimed _ _ idle => cases idle.symm.trans running
  | ignored same =>
    subst same
    simp [running, Entry.isRefusal]
  | stale _ _ _ _ idle => cases idle.symm.trans running
  | @rearmed _ _ _ taken _ out was _ _ _ flags =>
    rw [flags, count_false_set out taken, was]
    cases taken <;> rfl
  | armed _ _ idle _ _ arms =>
    rw [arms.count_false, idle]
    simp

variable [UsbCore U] [PcmSink S] [Codec C]

/-! ## The counter of refusals -/

omit [UsbCore U] [Codec C] in
theorem rearmFailures_receive (p : SlotPool) (sink : S) (slot : Slot) (report : Report) :
    (p.receive sink slot report).2.1.rearmFailures = p.counts.rearmFailures := by
  unfold SlotPool.receive SlotPool.forward
  split
  · split
    · rfl
    · split
      · rfl
      · split <;> rfl
  · rfl
  · rfl

/-- **The counter grows with the slots at home** in a running stream. -/
def Counted (g g' : Gadget U S C) : Prop :=
  g'.pool.counts.rearmFailures = g.pool.counts.rearmFailures.add
    (g'.pool.idleCount - if g.isOperational then g.pool.idleCount else 0)

omit [UsbCore U] [PcmSink S] [Codec C] in
theorem counted_of_kept {g g' : Gadget U S C} (running : g'.isOperational = true)
    (still : g'.isOperational = g.isOperational) (flags : g'.pool.flags = g.pool.flags)
    (counts : g'.pool.counts = g.pool.counts) : Counted g g' := by
  unfold Counted
  rw [← still, running, counts, SlotPool.idleCount_eq, SlotPool.idleCount_eq, flags]
  simp

omit [Codec C] in
theorem counted_transferComplete (g : Gadget U S C) (ep : EndpointAddress) (direction : Direction)
    (report : Report) (running : (g.transferComplete ep direction report).2.isOperational = true) :
    Counted g (g.transferComplete ep direction report).2 := by
  cases reports g ep direction report with
  | ignored _ next =>
    rw [next] at running ⊢
    exact counted_of_kept running rfl rfl rfl
  | stale _ _ _ idle next =>
    rw [next] at running
    cases idle.symm.trans running
  | @running slot _ _ found was next =>
    obtain ⟨-, -, busy⟩ := SlotPool.of_lentSlot?_eq_some found
    have received := rearmFailures_receive g.pool g.sink slot.release report
    have out := slot.release.lent_lend g.usb ep (g.pool.lease report.buffer.place)
    rw [next]
    dsimp only
    generalize slot.release.lend g.usb ep (g.pool.lease report.buffer.place) = offer at out
    unfold Counted
    dsimp only
    rw [SlotPool.idleCount_of_set busy rfl, was]
    -- the slot is at home again exactly if this offer was refused
    by_cases refused : offer.1 = .refused
    · have home : offer.2.1.lent = false := by simpa [refused] using out
      simp [refused, home, TransferCounts.refused, Counter.bump, received]
    · have taken := out.2 refused
      simp [refused, taken, received]

theorem counted_perform (g : Gadget U S C) (call : Call)
    (running : (g.perform call).next.isOperational = true) : Counted g (g.perform call).next := by
  by_cases control : call.isControl = true
  · cases switches_of_isControl g control with
    | kept same =>
      exact counted_of_kept running same.isOperational (same.pool ▸ rfl) (same.pool ▸ rfl)
    | @began ep _ idle same =>
      have refused : (g.begun ep).pool.idleCount =
          (SlotPool.armFrom ep g.pool.packetLength 0 g.pool.slots g.usb).refused :=
        SlotPool.armFrom_refused _ _ _ _ _
      unfold Counted
      rw [same.pool, refused, idle]
      rfl
    | ended _ _ same => cases same.isOperational.symm.trans running
  · cases call with
    | powerOn | connect | disconnect => cases running
    | requestEndpoints =>
      obtain ⟨usb, endpoint, next⟩ := g.exists_next_requestEndpoints
      have next : (g.perform .requestEndpoints).next = _ := next
      rw [next] at running ⊢
      exact counted_of_kept running rfl rfl rfl
    | transferComplete ep direction report =>
      exact counted_transferComplete g ep direction report running
    | fillInFlight buffer data =>
      exact counted_of_kept running rfl (g.pool.flags_fill buffer data)
        (g.pool.counts_fill buffer data)
    | _ => exact absurd rfl control

/-! ## Every run -/

/-- How often the core refused a buffer between two states of a run. -/
def refusals (g g' : Gadget (Watched U CoreCall) S C) : Nat :=
  (g.usb.since g'.usb).countP CoreCall.isRefusal

theorem refusals_perform (g : Gadget (Watched U CoreCall) S C) (call : Call) :
    refusals g (g.perform call).next = (g.entries call).countP Entry.isRefusal := by
  have own : (Entry.ofCall call (g.perform call).answer).countP Entry.isRefusal = 0 := by
    refine List.countP_eq_zero.2 fun e mem => ?_
    have silent := Entry.not_isAsked_of_ofCall mem
    cases e <;> simp_all [Entry.isAsked, Entry.isRefusal]
  unfold entries refusals
  rw [List.countP_append, own, Entry.countP_isRefusal, Nat.zero_add]

theorem refusals_concat (g : Gadget (Watched U CoreCall) S C) (calls : List Call) (call : Call) :
    refusals g (g.run (calls ++ [call])).2 =
      refusals g (g.run calls).2 + refusals (g.run calls).2 (g.run (calls ++ [call])).2 := by
  obtain ⟨made, so_far⟩ := calls_run g calls
  obtain ⟨more, now⟩ := calls_perform (g.run calls).2 call
  unfold refusals
  rw [run_concat, Watched.since_of_append made so_far, Watched.since_of_append more now,
    Watched.since_of_append (made ++ more) (by rw [now, so_far, List.append_assoc]),
    List.countP_append]

/-- **A stream that misses `refused` slots**, and has them on its counter. -/
structure Short (refused : Nat) (g : Gadget (Watched U CoreCall) S C) : Prop where
  idle : g.pool.idleCount = refused
  counted : min refused countLimit ≤ g.pool.counts.rearmFailures.val

/-- **Every refusal of a running stream costs one slot more.** -/
theorem Short.perform {g : Gadget (Watched U CoreCall) S C} {refused : Nat} (call : Call)
    (h : g.isOperational = true → Short refused g)
    (running : (g.perform call).next.isOperational = true) :
    Short ((if g.isOperational then refused else 0) + refusals g (g.perform call).next)
      (g.perform call).next := by
  have idle := (course_perform g call).idle_count running
  have counted := congrArg Counter.val (counted_perform g call running)
  rw [← refusals_perform, ← SlotPool.idleCount_eq, ← SlotPool.idleCount_eq] at idle
  rw [Counter.val_add, idle] at counted
  rcases was : g.isOperational with _ | _
  · simp only [was, Bool.false_eq_true, if_false, Nat.zero_add] at idle counted ⊢
    exact ⟨idle, by omega⟩
  · have short := h was
    simp only [was, if_true] at idle counted ⊢
    rw [short.idle] at idle counted
    have before := short.counted
    exact ⟨idle, by omega⟩

/-- **A running stream began at some call**, runs since, and misses what
was refused since. -/
theorem short_run {g : Gadget (Watched U CoreCall) S C} (idle : g.isOperational = false)
    (calls : List Call) (running : (g.run calls).2.isOperational = true) :
    ∃ before call after, calls = before ++ call :: after ∧
      (g.run before).2.isOperational = false ∧
      (∀ part, part <+: after → (g.run (before ++ call :: part)).2.isOperational = true) ∧
      Short (refusals (g.run before).2 (g.run calls).2) (g.run calls).2 := by
  induction calls using List.reverseRecOn with
  | nil => cases idle.symm.trans running
  | append_singleton calls last ih =>
    rw [run_concat] at running ⊢
    rcases was : (g.run calls).2.isOperational with _ | _
    · refine ⟨calls, last, [], rfl, was, fun part empty => ?_, ?_⟩
      · rw [List.prefix_nil.1 empty, run_concat]
        exact running
      · have none : (g.run calls).2.isOperational = true → Short 0 (g.run calls).2 :=
          fun on => by cases was.symm.trans on
        simpa [was] using Short.perform last none running
    · obtain ⟨before, call, after, rfl, still, streams, short⟩ := ih was
      refine ⟨before, call, after ++ [last], by simp, still, fun part front => ?_, ?_⟩
      · rcases List.prefix_concat_iff.1 front with rfl | earlier
        · rw [← List.cons_append, ← List.append_assoc, run_concat]
          exact running
        · exact streams part earlier
      · have next := Short.perform last (fun _ => short) running
        rw [was, if_pos rfl] at next
        have total := refusals_concat (g.run before).2 (call :: after) last
        have here : (g.run (before ++ call :: after)).2 =
            ((g.run before).2.run (call :: after)).2 := by
          rw [run_append]
        rw [run_concat, ← here] at total
        exact total ▸ next

/-- **A stream misses the slots that the core refused, and no others.**
Whenever a stream runs it began at some call and runs since, and as many
slots are at home as the core refused from that call on. The counter of
refusals shows them all, if it can count the slots, and without a refusal
every slot is out. -/
theorem idle_eq_refusals (usb : U) (sink : S) (codec : C) (format : StreamFormat) (slots : Nat)
    (calls : List Call) :
    let start := Gadget.unregistered (Watched.of usb) sink codec format slots
    let g := (start.run calls).2
    g.isOperational = true →
      ∃ before call after, calls = before ++ call :: after ∧
        (start.run before).2.isOperational = false ∧
        (∀ part, part <+: after → (start.run (before ++ call :: part)).2.isOperational = true) ∧
        let refused := (((start.run before).2.usb.since g.usb).countP CoreCall.isRefusal)
        g.pool.idleCount = refused ∧
          (slots ≤ countLimit → refused ≤ g.pool.counts.rearmFailures.val) ∧
          (refused = 0 → g.busySlots = slots) := by
  intro start g running
  obtain ⟨before, call, after, split, idle, streams, short⟩ := short_run rfl calls running
  have home : g.pool.idleCount = refusals (start.run before).2 g := short.idle
  have counted : min (refusals (start.run before).2 g) countLimit ≤
      g.pool.counts.rearmFailures.val := short.counted
  have all : g.pool.busyCount + g.pool.idleCount = slots := by
    have length : g.pool.flags.length = start.pool.flags.length := length_flags_run start calls
    rw [SlotPool.busyCount_add_idleCount, length]
    simp [start, unregistered, SlotPool.flags, SlotPool.idle]
  refine ⟨before, call, after, split, idle, streams, home, fun few => ?_, fun none => ?_⟩
  · change refusals (start.run before).2 g ≤ _
    omega
  · change refusals (start.run before).2 g = 0 at none
    change g.pool.busyCount = slots
    omega

end Gadget

/-- A core that takes buffers as its script says, and all once it has
ended. -/
structure Scripted where
  script : List Bool

instance : UsbCore Scripted where
  allocEndpoint core _ direction _ := (some (.ofNumber 1 direction), core)
  submitReceive core _ _ := (core.script.headD true, ⟨core.script.tail⟩)
  cancel core _ := core

/-- It refuses one buffer of the first three, and two more later. -/
def stubborn : Scripted :=
  ⟨[true, false, true, false, true, false]⟩

/-- A gadget with three slots on a stubborn core. -/
def thwarted : Gadget (Watched Scripted CoreCall) Sink Bench.Codec :=
  .unregistered (Watched.of stubborn) Sink.fresh Codec.fresh default 3

/-- Two streams. One slot comes back between them, and one that was out
all along in the second. -/
def reopened : List Call :=
  [.powerOn, .requestEndpoints, .setFirstInterface 0, .connect, .setInterface 1 1,
    .setInterface 1 0,
    .transferComplete (.ofNumber 1 .hostToDevice) .hostToDevice ⟨.success, 8, ⟨0⟩⟩,
    .setInterface 1 1,
    .transferComplete (.ofNumber 1 .hostToDevice) .hostToDevice ⟨.success, 8, ⟨2⟩⟩]

theorem idle_eq_refusals_reopened :
    (thwarted.run reopened).2.isOperational = true ∧
      (∃ before call after, reopened = before ++ call :: after ∧
        (thwarted.run before).2.isOperational = false ∧
        (thwarted.run reopened).2.pool.idleCount =
          Gadget.refusals (thwarted.run before).2 (thwarted.run reopened).2) ∧
      (thwarted.run reopened).2.pool.idleCount = 2 ∧
      (thwarted.run reopened).2.pool.counts.rearmFailures.val = 3 := by
  have running : (thwarted.run reopened).2.isOperational = true := by decide +kernel
  have law := Gadget.idle_eq_refusals stubborn Sink.fresh Codec.fresh default 3 reopened
  rw [← thwarted] at law
  obtain ⟨before, call, after, split, idle, -, home, -⟩ := law running
  exact ⟨running, ⟨before, call, after, split, idle, home⟩, by decide +kernel, by decide +kernel⟩

end AudioGadget
