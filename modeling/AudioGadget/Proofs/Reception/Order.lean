import Mathlib.Data.List.Nodup
import AudioGadget.Bench.Core
import AudioGadget.Bench.Sink
import AudioGadget.Proofs.Reception.Receiver
/-!
# Order — receptions may be reported in any order

A reception is settled by its own report and its own slot: what becomes of
it can be foreseen (`SlotPool.verdict`), and so can the request to lend the
slot again (`SlotPool.resubmission?`). Where the sink goes by the packet
alone and the core gives one answer to all, an arrival under another name
changes neither of them. So a whole list of arrivals under different names
brings what was foreseen when the first one came (`Foreseen`), and nothing
of this depends on their order: counts add up, and slots are put back each
at its own place.

A gadget hears only what arrives on its endpoint (`Gadget.heard?`). What it
hears is dealt with by its pool, and the rest changes nothing.
-/

namespace AudioGadget

open Bench

/-! ## Collaborators that do not mind the order -/

section Steady

variable {U S : Type} [UsbCore U] [PcmSink S]

/-- **The sink goes by the packet alone**: whatever it was offered before, it
makes `intake packet` of the next. -/
def JudgesBy (sink : S) (intake : Bytes → Intake) : Prop :=
  ∀ (offered : List Bytes) (packet : Bytes),
    (PcmSink.accept (offered.foldl (fun s p => (PcmSink.accept s p).2) sink) packet).1 =
      intake packet

/-- **The core takes every buffer, or refuses every one.** -/
def Insists (usb : U) (taken : Bool) : Prop :=
  ∀ (asked : List (EndpointAddress × Lease)) (ep : EndpointAddress) (lease : Lease),
    (UsbCore.submitReceive (asked.foldl (fun u q => (UsbCore.submitReceive u q.1 q.2).2) usb)
      ep lease).1 = taken

variable {sink : S} {intake : Bytes → Intake} {usb : U} {taken : Bool}

theorem JudgesBy.accept (h : JudgesBy sink intake) (packet : Bytes) :
    (PcmSink.accept sink packet).1 = intake packet ∧
      JudgesBy (PcmSink.accept sink packet).2 intake :=
  ⟨h [] packet, fun offered => h (packet :: offered)⟩

theorem Insists.submitReceive (h : Insists usb taken) (ep : EndpointAddress) (lease : Lease) :
    (UsbCore.submitReceive usb ep lease).1 = taken ∧
      Insists (UsbCore.submitReceive usb ep lease).2 taken :=
  ⟨h [] ep lease, fun asked => h ((ep, lease) :: asked)⟩

/-- An offer leaves such a core as it is. -/
theorem Insists.lend (h : Insists usb taken) (s : Slot) (ep : EndpointAddress) (lease : Lease) :
    Insists (s.lend usb ep lease).2.2 taken := by
  rcases out : s.lent with _ | _
  · rw [Slot.lend_of_home out rfl]
    exact (h.submitReceive ep lease).2
  · rw [Slot.lend_of_lent out]
    exact h

/-- A packet that came in leaves such a sink as it is. -/
theorem JudgesBy.receive (h : JudgesBy sink intake) (p : SlotPool) (slot : Slot)
    (report : Report) : JudgesBy (p.receive sink slot report).2.2 intake := by
  have forwarded (packet : Bytes) :
      JudgesBy (SlotPool.forward p.counts sink packet).2.2 intake := by
    have next := (h.accept packet).2
    unfold SlotPool.forward
    split
    · exact h
    · split <;> rename_i answer <;> rw [answer] at next <;> exact next
  unfold SlotPool.receive
  split
  · split
    · exact h
    · exact forwarded _
  · exact h
  · exact h

end Steady

/-! ## What can be foreseen of an arrival -/

namespace SlotPool

variable {S : Type} [PcmSink S]

/-- **What an arrival turns out to be.** -/
def verdict (p : SlotPool) (sink : S) (a : Arrival) : Verdict :=
  match p.lentSlot? a.report.buffer with
  | none => .foreign
  | some slot => if a.operational then p.judge sink slot a.report else .late

/-- **The request that follows from it**: while the stream runs, a slot that was
out is lent again under its own name. -/
def resubmission? (p : SlotPool) (taken : Bool) (a : Arrival) : Option CoreCall :=
  match p.lentSlot? a.report.buffer with
  | none => none
  | some _ =>
    if a.operational then
      some (.submitReceive a.ep (p.lease a.report.buffer.place) taken)
    else none

/-- The slots once it is dealt with. -/
def putBack (taken : Bool) (slots : List Slot) (a : Arrival) : List Slot :=
  slots.modify a.report.buffer.place fun slot =>
    if slot.lent then { slot with lent := a.operational && taken } else slot

variable {p p' : SlotPool} {a : Arrival} {taken : Bool}

theorem putBack_of_unknown (unknown : p.lentSlot? a.report.buffer = none) :
    putBack taken p.slots a = p.slots := by
  refine List.ext_getElem? fun i => ?_
  rw [putBack, List.getElem?_modify]
  split
  · rename_i here
    rcases there : p.slots[i]? with _ | slot
    · rfl
    · have home : slot.lent = false := by
        simpa [lentSlot?, here, there, Option.filter] using unknown
      simp [home]
  · simp

theorem putBack_of_found {slot : Slot} (found : p.lentSlot? a.report.buffer = some slot)
    (taken : Bool) :
    putBack taken p.slots a =
      p.slots.set a.report.buffer.place { slot with lent := a.operational && taken } := by
  obtain ⟨there, out, -⟩ := of_lentSlot?_eq_some found
  obtain ⟨inside, -⟩ := List.getElem?_eq_some_iff.1 there
  refine List.ext_getElem? fun i => ?_
  rw [putBack, List.getElem?_modify, List.getElem?_set]
  split
  · rename_i here
    rw [← here, there]
    simp [out]
  · simp

/-- Two slots are put back in either order. -/
theorem putBack_comm {b : Arrival} (apart : a.report.buffer ≠ b.report.buffer)
    (slots : List Slot) :
    putBack taken (putBack taken slots a) b = putBack taken (putBack taken slots b) a := by
  refine List.modify_modify_ne _ _ slots fun same => apart ?_
  exact congrArg BufferId.mk same

/-- **What is foreseen of an arrival depends on its own slot**, and on nothing
else of the pool. -/
theorem lentSlot?_putBack {b : Arrival} (apart : a.report.buffer ≠ b.report.buffer)
    (slots : p'.slots = putBack taken p.slots a) :
    p'.lentSlot? b.report.buffer = p.lentSlot? b.report.buffer := by
  have place : a.report.buffer.place ≠ b.report.buffer.place := fun same =>
    apart (congrArg BufferId.mk same)
  rw [lentSlot?, slots, putBack, List.getElem?_modify_ne _ _ place]
  rfl

/-- Two sinks that go by the same judge alike. -/
theorem judge_eq {sink sink' : S} {intake : Bytes → Intake} (h : JudgesBy sink intake)
    (h' : JudgesBy sink' intake) (lends : p'.packetLength = p.packetLength) (slot : Slot)
    (report : Report) : p'.judge sink' slot report = p.judge sink slot report := by
  simp only [judge, lends, (h.accept _).1, (h'.accept _).1]

theorem verdict_eq {sink sink' : S} {intake : Bytes → Intake} (h : JudgesBy sink intake)
    (h' : JudgesBy sink' intake) (lends : p'.packetLength = p.packetLength)
    (same : p'.lentSlot? a.report.buffer = p.lentSlot? a.report.buffer) :
    p'.verdict sink' a = p.verdict sink a := by
  simp only [verdict, same, judge_eq h h' lends]

theorem resubmission?_eq (lends : p'.packetLength = p.packetLength)
    (same : p'.lentSlot? a.report.buffer = p.lentSlot? a.report.buffer) :
    p'.resubmission? taken a = p.resubmission? taken a := by
  simp only [resubmission?, same, lease, lends]

end SlotPool

/-! ## One arrival after the other -/

namespace Receiver

variable {U S : Type}

/-- Deal with arrivals in order: what became of each, and the receiver after
the last. -/
def completeAll [UsbCore U] [PcmSink S] (r : Receiver U S) :
    List Arrival → List Completion × Receiver U S
  | [] => ([], r)
  | a :: arrivals =>
    let (outcome, r) := r.complete a
    let (outcomes, last) := r.completeAll arrivals
    (outcome :: outcomes, last)

/-- **What could be foreseen came about**: between `r` and `last` these arrivals
were dealt with as they are judged at `r`. -/
structure Foreseen [PcmSink S] (r : Receiver (Watched U CoreCall) (Watched S SinkCall))
    (taken : Bool) (arrivals : List Arrival) (outcomes : List Completion)
    (last : Receiver (Watched U CoreCall) (Watched S SinkCall)) : Prop where
  outcomes : outcomes = (arrivals.map (r.pool.verdict r.sink)).map Verdict.outcome
  slots : last.pool.slots = arrivals.foldl (SlotPool.putBack taken) r.pool.slots
  packetLength : last.pool.packetLength = r.pool.packetLength
  counts : last.pool.counts = r.pool.counts.after (arrivals.map (r.pool.verdict r.sink))
    ((arrivals.filterMap (r.pool.resubmission? taken)).countP CoreCall.isRefusal)
  usb : last.usb.calls = r.usb.calls ++ arrivals.filterMap (r.pool.resubmission? taken)
  sink : last.sink.calls =
    r.sink.calls ++ (arrivals.map (r.pool.verdict r.sink)).filterMap Verdict.offer?

variable [UsbCore U] [PcmSink S] {intake : Bytes → Intake} {taken : Bool}

/-! Neither collaborator is changed by an arrival. -/

theorem judgesBy_complete {r : Receiver U S} (judges : JudgesBy r.sink intake)
    (a : Arrival) : JudgesBy (r.complete a).2.sink intake := by
  cases meets r a with
  | ignored _ next => exact next ▸ judges
  | stale _ _ next => exact next ▸ judges
  | running _ _ next =>
    rw [next]
    exact judges.receive _ _ _

theorem insists_complete {r : Receiver U S} (insists : Insists r.usb taken) (a : Arrival) :
    Insists (r.complete a).2.usb taken := by
  cases meets r a with
  | ignored _ next => exact next ▸ insists
  | stale _ _ next => exact next ▸ insists
  | running _ _ next =>
    rw [next]
    exact insists.lend _ _ _

/-- **An arrival brings what was foreseen.** -/
theorem foreseen_complete {r : Receiver (Watched U CoreCall) (Watched S SinkCall)}
    (insists : Insists r.usb taken) (a : Arrival) :
    Foreseen r taken [a] [(r.complete a).1] (r.complete a).2 := by
  cases meets r a with
  | ignored unknown next =>
    have verdict : r.pool.verdict r.sink a = .foreign := by simp only [SlotPool.verdict, unknown]
    have silent : r.pool.resubmission? taken a = none := by
      simp only [SlotPool.resubmission?, unknown]
    rw [next]
    refine ⟨?_, (SlotPool.putBack_of_unknown unknown).symm, rfl, ?_, ?_, ?_⟩ <;>
      simp [verdict, silent, Verdict.outcome, Verdict.offer?, TransferCounts.after_singleton,
        TransferCounts.note]
  | stale found idle next =>
    have verdict : r.pool.verdict r.sink a = .late := by simp [SlotPool.verdict, found, idle]
    have silent : r.pool.resubmission? taken a = none := by
      simp [SlotPool.resubmission?, found, idle]
    have home := SlotPool.putBack_of_found found taken
    rw [idle] at home
    rw [next]
    refine ⟨?_, home.symm, rfl, ?_, ?_, ?_⟩ <;>
      simp [verdict, silent, Verdict.outcome, Verdict.offer?, TransferCounts.after_singleton,
        TransferCounts.note]
  | @running slot found running next =>
    have verdict : r.pool.verdict r.sink a = r.pool.judge r.sink slot.release a.report := by
      simp only [SlotPool.verdict, found, running, if_true]
      rfl
    have asked : r.pool.resubmission? taken a =
        some (.submitReceive a.ep (r.pool.lease a.report.buffer.place) taken) := by
      simp only [SlotPool.resubmission?, found, running, if_true]
    have home := SlotPool.putBack_of_found found taken
    rw [running, Bool.true_and] at home
    have answer : UsbCore.submitReceive r.usb a.ep (r.pool.lease a.report.buffer.place) =
        (taken, _) := Prod.ext_iff.2 ⟨(insists.submitReceive a.ep _).1, rfl⟩
    obtain ⟨outcome, counts, told⟩ := r.pool.receive_judged r.sink slot.release a.report
    rw [← verdict] at outcome counts told
    rw [next, Slot.lend_of_home slot.lent_release answer]
    refine ⟨?_, home.symm, rfl, ?_, ?_, ?_⟩
    · rw [outcome]
      rfl
    · simp only [counts, List.map_cons, List.map_nil, List.filterMap_cons, asked,
        List.filterMap_nil]
      cases taken
      · rw [if_neg Bool.false_ne_true, if_pos rfl, ← TransferCounts.after_singleton,
          TransferCounts.refused_after]
        rfl
      · rw [if_pos rfl, if_neg (by decide), ← TransferCounts.after_singleton]
        rfl
    · simp only [List.filterMap_cons, asked, List.filterMap_nil]
      exact Watched.submitReceive_calls answer
    · rw [told, List.map_singleton, List.filterMap_cons]
      cases (r.pool.verdict r.sink a).offer? <;> rfl

/-- **An arrival under another name changes nothing of what is foreseen.** -/
theorem foresight_complete {r : Receiver (Watched U CoreCall) (Watched S SinkCall)}
    (judges : JudgesBy r.sink intake) (insists : Insists r.usb taken) {a b : Arrival}
    (apart : a.report.buffer ≠ b.report.buffer) :
    let next := (r.complete a).2
    next.pool.verdict next.sink b = r.pool.verdict r.sink b ∧
      next.pool.resubmission? taken b = r.pool.resubmission? taken b := by
  have first := foreseen_complete insists a
  have same := SlotPool.lentSlot?_putBack apart first.slots
  exact ⟨SlotPool.verdict_eq judges (judgesBy_complete judges a) first.packetLength same,
    SlotPool.resubmission?_eq first.packetLength same⟩

/-- So what was foreseen of the others comes about after it. -/
theorem foreseen_cons {r : Receiver (Watched U CoreCall) (Watched S SinkCall)}
    (judges : JudgesBy r.sink intake) (insists : Insists r.usb taken) {a : Arrival}
    {arrivals : List Arrival} (apart : ∀ b ∈ arrivals, a.report.buffer ≠ b.report.buffer)
    {outcomes : List Completion} {last : Receiver (Watched U CoreCall) (Watched S SinkCall)}
    (rest : Foreseen (r.complete a).2 taken arrivals outcomes last) :
    Foreseen r taken (a :: arrivals) ((r.complete a).1 :: outcomes) last := by
  have first := foreseen_complete insists a
  have verdicts : arrivals.map ((r.complete a).2.pool.verdict (r.complete a).2.sink) =
      arrivals.map (r.pool.verdict r.sink) :=
    List.map_congr_left fun b other => (foresight_complete judges insists (apart b other)).1
  have requests : arrivals.filterMap ((r.complete a).2.pool.resubmission? taken) =
      arrivals.filterMap (r.pool.resubmission? taken) :=
    List.filterMap_congr fun b other => (foresight_complete judges insists (apart b other)).2
  refine ⟨?_, ?_, rest.packetLength.trans first.packetLength, ?_, ?_, ?_⟩
  · rw [rest.outcomes, verdicts]
    exact List.cons_eq_cons.2 ⟨(List.cons_eq_cons.1 first.outcomes).1, rfl⟩
  · rw [rest.slots, first.slots]
    rfl
  · rw [rest.counts, first.counts, TransferCounts.after_after, verdicts, requests,
      ← List.map_append, ← List.countP_append, ← List.filterMap_append]
    rfl
  · rw [rest.usb, first.usb, requests, List.append_assoc, ← List.filterMap_append]
    rfl
  · rw [rest.sink, first.sink, verdicts, List.append_assoc, ← List.filterMap_append,
      ← List.map_append]
    rfl

/-- **Arrivals under different names bring what was foreseen** when the first
one came. -/
theorem foreseen_completeAll {r : Receiver (Watched U CoreCall) (Watched S SinkCall)}
    (judges : JudgesBy r.sink intake) (insists : Insists r.usb taken) {arrivals : List Arrival}
    (apart : (arrivals.map (·.report.buffer)).Nodup) :
    Foreseen r taken arrivals (r.completeAll arrivals).1 (r.completeAll arrivals).2 := by
  induction arrivals generalizing r with
  | nil =>
    exact ⟨rfl, rfl, rfl, (TransferCounts.after_nil _).symm, (List.append_nil _).symm,
      (List.append_nil _).symm⟩
  | cons a arrivals ih =>
    obtain ⟨new, others⟩ := List.nodup_cons.1 apart
    refine foreseen_cons judges insists (fun b other same => new ?_)
      (ih (judgesBy_complete judges a) (insists_complete insists a) others)
    exact List.mem_map.2 ⟨b, other, same.symm⟩

end Receiver

/-! ## Any order -/

/-- Verdicts count the same in any order. -/
theorem TransferCounts.after_perm (c : TransferCounts) {vs ws : List Verdict} (h : vs.Perm ws)
    (refused : Nat) : c.after vs refused = c.after ws refused := by
  have marks (m : Mark) : (vs.filterMap Verdict.mark?).count m =
      (ws.filterMap Verdict.mark?).count m := (h.filterMap _).count_eq m
  simp only [after, marks, (h.map Verdict.octetsTaken).sum_nat]

/-- Slots are put back in any order. -/
theorem SlotPool.foldl_putBack_perm {taken : Bool} {arrivals arrivals' : List Arrival}
    (apart : (arrivals.map (·.report.buffer)).Nodup) (h : arrivals.Perm arrivals')
    (slots : List Slot) :
    arrivals.foldl (putBack taken) slots = arrivals'.foldl (putBack taken) slots := by
  refine h.foldl_eq' (fun a mem b mem' slots => ?_) slots
  by_cases same : a = b
  · rw [same]
  · exact putBack_comm (fun named => same (List.inj_on_of_nodup_map apart mem mem' named)) slots

section Perm

variable {U S : Type}

/-- **The two runs differ in the order of their calls alone**: what came of each
reception is the same, the pool they leave is the same, with its flags and
its counters, and core and sink were asked the same. -/
structure SameButOrder {τ : Type} (told told' : List τ)
    (start last last' : Receiver (Watched U CoreCall) (Watched S SinkCall)) : Prop where
  told : told.Perm told'
  pool : last.pool = last'.pool
  usb : (start.usb.since last.usb).Perm (start.usb.since last'.usb)
  sink : (start.sink.since last.sink).Perm (start.sink.since last'.sink)

variable [PcmSink S] {r last last' : Receiver (Watched U CoreCall) (Watched S SinkCall)}
  {taken : Bool} {arrivals arrivals' : List Arrival} {outcomes outcomes' : List Completion}

theorem Receiver.Foreseen.since_usb (h : Foreseen r taken arrivals outcomes last) :
    r.usb.since last.usb = arrivals.filterMap (r.pool.resubmission? taken) :=
  Watched.since_of_append _ h.usb

theorem Receiver.Foreseen.zip_outcomes (h : Foreseen r taken arrivals outcomes last) :
    arrivals.zip outcomes = arrivals.map fun a => (a, (r.pool.verdict r.sink a).outcome) := by
  have pairs := List.zip_map' (f := id) (g := Verdict.outcome ∘ r.pool.verdict r.sink)
    (l := arrivals)
  rw [List.map_id] at pairs
  rw [h.outcomes, List.map_map, pairs]
  rfl

/-- **What can be foreseen does not depend on the order.** -/
theorem Receiver.Foreseen.sameButOrder (h : Foreseen r taken arrivals outcomes last)
    (h' : Foreseen r taken arrivals' outcomes' last')
    (apart : (arrivals.map (·.report.buffer)).Nodup) (perm : arrivals.Perm arrivals') :
    SameButOrder (arrivals.zip outcomes) (arrivals'.zip outcomes') r last last' where
  told := by
    rw [h.zip_outcomes, h'.zip_outcomes]
    exact perm.map _
  pool := by
    have slots : last.pool.slots = last'.pool.slots := by
      rw [h.slots, h'.slots, SlotPool.foldl_putBack_perm apart perm]
    have counts : last.pool.counts = last'.pool.counts := by
      rw [h.counts, h'.counts, TransferCounts.after_perm _ (perm.map _),
        (perm.filterMap _).countP_eq]
    have lends : last.pool.packetLength = last'.pool.packetLength :=
      h.packetLength.trans h'.packetLength.symm
    rcases last with ⟨⟨⟩, _, _⟩
    rcases last' with ⟨⟨⟩, _, _⟩
    simp_all
  usb := by
    rw [h.since_usb, h'.since_usb]
    exact perm.filterMap _
  sink := by
    rw [Watched.since_of_append _ h.sink, Watched.since_of_append _ h'.sink]
    exact (perm.map _).filterMap _

end Perm

/-! ## At a gadget -/

/-- What the core reports to a gadget. -/
structure Notice where
  ep : EndpointAddress
  direction : Direction
  report : Report
deriving DecidableEq

/-- The report as a call. -/
def Notice.call (n : Notice) : Call :=
  .transferComplete n.ep n.direction n.report

namespace Gadget

variable {U S C : Type}

/-- The pool of a gadget, between its core and its sink. -/
def receiver (g : Gadget U S C) : Receiver U S :=
  ⟨g.pool, g.usb, g.sink⟩

/-- The gadget with another one in its place. -/
def withReceiver (g : Gadget U S C) (r : Receiver U S) : Gadget U S C :=
  { g with pool := r.pool, usb := r.usb, sink := r.sink }

/-- **What the pool is told of a notice**, if it is on the gadget's endpoint. -/
def heard? (g : Gadget U S C) (n : Notice) : Option Arrival :=
  if g.endpoint = some n.ep ∧ n.direction = .hostToDevice then
    some ⟨n.ep, n.report, g.isOperational⟩
  else none

variable {g : Gadget U S C} {n : Notice} {a : Arrival}

theorem report_of_heard? (heard : g.heard? n = some a) : a.report = n.report := by
  unfold heard? at heard
  split at heard
  · cases heard
    rfl
  · cases heard

/-- The verdict on a notice is that on what is heard of it. -/
theorem verdict_of_heard [PcmSink S] (heard : g.heard? n = some a) :
    g.verdict n.ep n.direction n.report = g.pool.verdict g.sink a := by
  unfold heard? at heard
  split at heard
  · rename_i own
    cases heard
    rw [verdict, if_pos own]
    rfl
  · cases heard

theorem verdict_of_unheard [PcmSink S] (unheard : g.heard? n = none) :
    g.verdict n.ep n.direction n.report = .foreign := by
  unfold heard? at unheard
  split at unheard
  · cases unheard
  · rename_i foreign
    rw [verdict, if_neg foreign]

variable [UsbCore U] [PcmSink S] [Codec C]

/-- A notice that is not heard is ignored. -/
theorem perform_of_unheard (unheard : g.heard? n = none) :
    (g.perform n.call).answer = .completion .ignored ∧ (g.perform n.call).next = g := by
  unfold heard? at unheard
  split at unheard
  · cases unheard
  · rename_i foreign
    simp only [perform, Notice.call, transferComplete, if_neg foreign, and_self]

/-- And one that is heard is dealt with by the pool. -/
theorem perform_of_heard (heard : g.heard? n = some a) :
    (g.perform n.call).answer = .completion (g.receiver.complete a).1 ∧
      (g.perform n.call).next = g.withReceiver (g.receiver.complete a).2 := by
  unfold heard? at heard
  split at heard
  · rename_i own
    cases heard
    simp only [perform, Notice.call, transferComplete, if_pos own]
    exact ⟨rfl, rfl⟩
  · cases heard

/-- **A gadget that is given notices has its pool deal with what it hears.** -/
theorem run_notices (g : Gadget U S C) (notices : List Notice) :
    (g.run (notices.map Notice.call)).2 =
      g.withReceiver (g.receiver.completeAll (notices.filterMap g.heard?)).2 := by
  induction notices generalizing g with
  | nil => rfl
  | cons n notices ih =>
    have rest := ih (g.perform n.call).next
    rcases heard : g.heard? n with _ | a
    · rw [(perform_of_unheard heard).2] at rest
      rw [List.filterMap_cons_none heard, ← rest, List.map_cons, run,
        (perform_of_unheard heard).2]
    · rw [(perform_of_heard heard).2] at rest
      rw [List.filterMap_cons_some heard, List.map_cons, run, (perform_of_heard heard).2]
      exact rest

variable {intake : Bytes → Intake} {taken : Bool}

omit [Codec C] in
/-- The pool comes to this verdict. -/
theorem outcome_of_heard {g : Gadget (Watched U CoreCall) (Watched S SinkCall) C}
    (insists : Insists g.usb taken) (heard : g.heard? n = some a) :
    (g.receiver.complete a).1 = (g.verdict n.ep n.direction n.report).outcome := by
  have foreseen := (Receiver.foreseen_complete (r := g.receiver) insists a).outcomes
  rw [verdict_of_heard heard]
  exact (List.cons_eq_cons.1 foreseen).1

omit [Codec C] in
/-- A notice under another name changes no verdict. -/
theorem verdict_withReceiver {g : Gadget (Watched U CoreCall) (Watched S SinkCall) C}
    (judges : JudgesBy g.sink intake) (insists : Insists g.usb taken) {m : Notice}
    (heard : g.heard? n = some a) (apart : n.report.buffer ≠ m.report.buffer) :
    (g.withReceiver (g.receiver.complete a).2).verdict m.ep m.direction m.report =
      g.verdict m.ep m.direction m.report := by
  have same : (g.withReceiver (g.receiver.complete a).2).heard? m = g.heard? m := rfl
  rcases later : g.heard? m with _ | b
  · rw [verdict_of_unheard later, verdict_of_unheard (same.trans later)]
  · rw [verdict_of_heard later, verdict_of_heard (same.trans later)]
    rw [← report_of_heard? heard, ← report_of_heard? later] at apart
    exact (Receiver.foresight_complete (r := g.receiver) judges insists apart).1

/-- **Notices under different names are answered by the verdicts on them** when
the first one came. -/
theorem answers_notices {g : Gadget (Watched U CoreCall) (Watched S SinkCall) C}
    (judges : JudgesBy g.sink intake) (insists : Insists g.usb taken) {notices : List Notice}
    (apart : (notices.map (·.report.buffer)).Nodup) :
    (g.run (notices.map Notice.call)).1 =
      notices.map fun n => .completion (g.verdict n.ep n.direction n.report).outcome := by
  induction notices generalizing g with
  | nil => rfl
  | cons n notices ih =>
    obtain ⟨new, others⟩ := List.nodup_cons.1 apart
    rcases heard : g.heard? n with _ | a
    · obtain ⟨answer, next⟩ := perform_of_unheard heard
      simp only [List.map_cons, run, answer, next, ih judges insists others,
        verdict_of_unheard heard, Verdict.outcome]
    · obtain ⟨answer, next⟩ := perform_of_heard heard
      have rest := ih (g := g.withReceiver (g.receiver.complete a).2)
        (Receiver.judgesBy_complete (r := g.receiver) judges a)
        (Receiver.insists_complete (r := g.receiver) insists a) others
      have same : notices.map (fun m => Answer.completion
            ((g.withReceiver (g.receiver.complete a).2).verdict
              m.ep m.direction m.report).outcome) =
          notices.map fun m => .completion (g.verdict m.ep m.direction m.report).outcome := by
        refine List.map_congr_left fun m other => ?_
        rw [verdict_withReceiver judges insists heard fun named =>
          new (List.mem_map.2 ⟨m, other, named.symm⟩)]
      simp only [List.map_cons, run, answer, next, rest, same, outcome_of_heard insists heard]

theorem transcript_notices {g : Gadget (Watched U CoreCall) (Watched S SinkCall) C}
    (judges : JudgesBy g.sink intake) (insists : Insists g.usb taken) {notices : List Notice}
    (apart : (notices.map (·.report.buffer)).Nodup) :
    g.transcript (notices.map Notice.call) =
      notices.map fun n =>
        (n.call, .completion (g.verdict n.ep n.direction n.report).outcome) := by
  rw [transcript, answers_notices judges insists apart, List.zip_map']

omit [UsbCore U] [PcmSink S] [Codec C] in
/-- What is heard of notices under different names is under different names. -/
theorem nodup_heard (g : Gadget U S C) {notices : List Notice}
    (apart : (notices.map (·.report.buffer)).Nodup) :
    ((notices.filterMap g.heard?).map (·.report.buffer)).Nodup := by
  refine List.pairwise_map.2 ((List.pairwise_map.1 apart).filterMap g.heard? ?_)
  intro n m different a heard b later
  rwa [report_of_heard? heard, report_of_heard? later]

/-- **Receptions may be reported in any order.** Of a pool, or a gadget, in
whatever state, with a sink that goes by the packet alone and a core that
takes every buffer or refuses every one: whichever way reports under
different names are ordered, each comes to the same, and the slots, the
counters and the calls to core and sink are the same but for their order.
The core is asked once for each report whose slot was out while the stream
ran, for that same slot, and for nothing else. -/
theorem completions_in_any_order (intake : Bytes → Intake) (taken : Bool) :
    (∀ (r : Receiver (Watched U CoreCall) (Watched S SinkCall)) (arrivals arrivals' : List Arrival),
      JudgesBy r.sink intake → Insists r.usb taken →
      (arrivals.map (·.report.buffer)).Nodup → arrivals.Perm arrivals' →
        let last := (r.completeAll arrivals).2
        let last' := (r.completeAll arrivals').2
        SameButOrder (arrivals.zip (r.completeAll arrivals).1)
            (arrivals'.zip (r.completeAll arrivals').1) r last last' ∧
          r.usb.since last.usb = arrivals.filterMap (r.pool.resubmission? taken)) ∧
    ∀ (g : Gadget (Watched U CoreCall) (Watched S SinkCall) C) (notices notices' : List Notice),
      JudgesBy g.sink intake → Insists g.usb taken →
      (notices.map (·.report.buffer)).Nodup → notices.Perm notices' →
        let calls := notices.map Notice.call
        let calls' := notices'.map Notice.call
        let last := (g.run calls).2
        let last' := (g.run calls').2
        SameButOrder (g.transcript calls) (g.transcript calls') g.receiver last.receiver
            last'.receiver ∧
          g.usb.since last.usb =
            (notices.filterMap g.heard?).filterMap (g.pool.resubmission? taken) := by
  refine ⟨fun r arrivals arrivals' judges insists apart perm => ?_,
    fun g notices notices' judges insists apart perm => ?_⟩
  · have apart' : (arrivals'.map (·.report.buffer)).Nodup := (perm.map _).nodup_iff.1 apart
    have foreseen := Receiver.foreseen_completeAll judges insists apart
    have foreseen' := Receiver.foreseen_completeAll judges insists apart'
    exact ⟨foreseen.sameButOrder foreseen' apart perm, foreseen.since_usb⟩
  · have apart' : (notices'.map (·.report.buffer)).Nodup := (perm.map _).nodup_iff.1 apart
    have foreseen := Receiver.foreseen_completeAll (r := g.receiver) judges insists
      (nodup_heard g apart)
    have foreseen' := Receiver.foreseen_completeAll (r := g.receiver) judges insists
      (nodup_heard g apart')
    obtain ⟨-, pool, usb, sink⟩ :=
      foreseen.sameButOrder foreseen' (nodup_heard g apart) (perm.filterMap _)
    simp only [run_notices]
    refine ⟨⟨?_, pool, usb, sink⟩, foreseen.since_usb⟩
    rw [transcript_notices judges insists apart, transcript_notices judges insists apart']
    exact perm.map _

end Gadget

/-- A sink on the bench goes by its switch, which no packet turns. -/
theorem judgesBy_bench (sink : Watched Sink SinkCall) :
    JudgesBy sink fun _ => if sink.inner.refusing then .rejected else .accepted := by
  intro offered packet
  induction offered generalizing sink with
  | nil =>
    simp only [List.foldl_nil, PcmSink.accept, Sink.accept]
    split <;> rfl
  | cons first offered ih =>
    have kept : (PcmSink.accept sink first).2.inner.refusing = sink.inner.refusing := by
      simp only [PcmSink.accept, Sink.accept, Watched.note]
      split <;> rfl
    rw [List.foldl_cons, ih, kept]

/-- And so does a core. -/
theorem insists_bench (usb : Watched Core CoreCall) : Insists usb (!usb.inner.refusing) := by
  intro asked ep lease
  induction asked generalizing usb with
  | nil =>
    simp only [List.foldl_nil, UsbCore.submitReceive, Core.submitReceive]
    split <;> simp_all
  | cons first asked ih =>
    have kept : (UsbCore.submitReceive usb first.1 first.2).2.inner.refusing =
        usb.inner.refusing := by
      simp only [UsbCore.submitReceive, Core.submitReceive, Watched.note]
      split <;> rfl
    rw [List.foldl_cons, ih, kept]

/-- A gadget on the bench with three slots, all of them out. -/
def threefold : Gadget (Watched Core CoreCall) (Watched Sink SinkCall) Bench.Codec :=
  ((Gadget.unregistered (.of Core.fresh) (.of Sink.fresh) Codec.fresh default 3).run
    (arrival ++ [.setInterface 1 1])).2

/-- A packet, a failure, a packet that is too long, a name that is not out, and
a report on another endpoint. -/
def scattered : List Notice :=
  let ep : EndpointAddress := .ofNumber 1 .hostToDevice
  [⟨ep, .hostToDevice, ⟨.success, 192, ⟨0⟩⟩⟩, ⟨ep, .hostToDevice, ⟨.error, 0, ⟨1⟩⟩⟩,
    ⟨ep, .hostToDevice, ⟨.success, 197, ⟨2⟩⟩⟩, ⟨ep, .hostToDevice, ⟨.success, 8, ⟨3⟩⟩⟩,
    ⟨.ofNumber 2 .hostToDevice, .hostToDevice, ⟨.success, 8, ⟨4⟩⟩⟩]

/-- Reported the other way round, they come to the same. -/
theorem completions_in_any_order_scattered :
    (scattered.map (·.report.buffer)).Nodup ∧
      (threefold.transcript (scattered.map Notice.call)).Perm
        (threefold.transcript (scattered.reverse.map Notice.call)) ∧
      (threefold.run (scattered.map Notice.call)).2.pool =
        (threefold.run (scattered.reverse.map Notice.call)).2.pool ∧
      (threefold.usb.since (threefold.run (scattered.map Notice.call)).2.usb).length = 3 ∧
      (threefold.run (scattered.map Notice.call)).2.pool.counts.packetsAccepted.val = 1 := by
  have apart : (scattered.map (·.report.buffer)).Nodup := by decide
  obtain ⟨-, law⟩ := Gadget.completions_in_any_order (U := Core) (S := Sink) (C := Bench.Codec)
    (fun _ => if threefold.sink.inner.refusing then .rejected else .accepted)
    (!threefold.usb.inner.refusing)
  obtain ⟨same, -⟩ := law threefold scattered scattered.reverse (judgesBy_bench _)
    (insists_bench _) apart (List.reverse_perm _).symm
  exact ⟨apart, same.told, same.pool, by decide +kernel, by decide +kernel⟩

end AudioGadget
