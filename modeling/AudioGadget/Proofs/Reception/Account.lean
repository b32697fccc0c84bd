import AudioGadget.Bench.Codec
import AudioGadget.Proofs.Reception.Refusals
import AudioGadget.Proofs.Script
/-!
# Account — the counters miss nothing and count nothing twice

What a report turns out to be is settled by the state it finds: `verdict`
says it from the endpoint, the slot, the stream, the lease and the answer
of the sink. A verdict shows in one counter at most (`Verdict.mark?`), and
a refusal of the core shows beside it.

The counters of a pool after some verdicts and refusals are those before
with as much added (`TransferCounts.after`). `Accounts` says this of two
states, together with what the gadget answered and what its core and its
sink were asked between them. Every call that does not start the count
over is such a pair (`accounts_perform`), so every run of such calls is
one too, and a counter that started at zero shows the whole sum, capped
once.
-/

namespace AudioGadget

open Bench

/-- **What a report turns out to be.** -/
inductive Verdict where
  /-- It is not on the gadget's endpoint, or its buffer is not out. -/
  | foreign
  /-- The buffer was out, but no stream runs. -/
  | late
  /-- The reception failed or was called off. -/
  | failed
  /-- More octets are reported than were lent. -/
  | overlong
  /-- A packet without octets. -/
  | empty
  /-- A packet, and what the sink makes of it. -/
  | offered (packet : Bytes) (intake : Intake)
deriving DecidableEq

/-- The counter that a report shows in. -/
inductive Mark where
  | accepted
  | dropped
  | errored
  | oversized
  | stale
deriving DecidableEq

/-- The sink was offered a packet. -/
def Bench.SinkCall.isOffer : SinkCall → Bool
  | .accept .. => true
  | .start | .stop => false

/-- What became of a reception, in answer to its report. -/
def Answer.outcome? : Answer → Option Completion
  | .completion outcome => some outcome
  | _ => none

/-- **The count starts over.** -/
def Call.resetsCounts : Call → Bool
  | .powerOn | .connect => true
  | _ => false

namespace Verdict

/-- What the gadget answers. -/
def outcome : Verdict → Completion
  | foreign => .ignored
  | late => .stale
  | failed => .errored
  | overlong => .oversized
  | empty => .forwarded
  | offered _ .accepted => .forwarded
  | offered _ .rejected => .dropped

/-- **The one counter that it shows in**, if it shows in any. -/
def mark? : Verdict → Option Mark
  | foreign | empty => none
  | late => some .stale
  | failed => some .errored
  | overlong => some .oversized
  | offered _ .accepted => some .accepted
  | offered _ .rejected => some .dropped

/-- Octets that the sink took. -/
def octetsTaken : Verdict → Nat
  | offered packet .accepted => packet.length
  | _ => 0

/-- What the sink was asked. -/
def offer? : Verdict → Option SinkCall
  | offered packet intake => some (.accept packet intake)
  | _ => none

/-- **A report that was heard shows**, unless its packet was empty. -/
theorem mark?_eq_none_iff (v : Verdict) : v.mark? = none ↔ v.outcome = .ignored ∨ v = empty := by
  cases v with
  | offered _ intake => cases intake <;> simp [mark?, outcome]
  | _ => simp [mark?, outcome]

/-- How many reports show. -/
theorem length_marks (vs : List Verdict) :
    (vs.filterMap mark?).length + vs.count empty = vs.countP (·.outcome ≠ .ignored) := by
  rw [List.length_filterMap_eq_countP]
  induction vs with
  | nil => rfl
  | cons v vs ih =>
    have one : (if v.mark?.isSome then 1 else 0) + (if v == empty then 1 else 0) =
        if decide (v.outcome ≠ .ignored) then 1 else 0 := by
      cases v with
      | offered _ intake => cases intake <;> rfl
      | _ => rfl
    rw [List.countP_cons, List.count_cons, List.countP_cons]
    omega

/-- And how many of them were offered to the sink. -/
theorem length_offers (vs : List Verdict) :
    (vs.filterMap offer?).length =
      (vs.filterMap mark?).count .accepted + (vs.filterMap mark?).count .dropped := by
  simp only [List.length_filterMap_eq_countP, List.count, List.countP_filterMap]
  induction vs with
  | nil => rfl
  | cons v vs ih =>
    have one : (if v.offer?.isSome then 1 else 0) =
        (if (v.mark?.map (· == .accepted)).getD false then 1 else 0) +
          if (v.mark?.map (· == .dropped)).getD false then 1 else 0 := by
      cases v with
      | offered _ intake => cases intake <;> rfl
      | _ => rfl
    rw [List.countP_cons, List.countP_cons, List.countP_cons]
    omega

end Verdict

/-! ## The counters -/

namespace TransferCounts

/-- **The counters after some verdicts and refusals.** -/
def after (c : TransferCounts) (vs : List Verdict) (refused : Nat) : TransferCounts :=
  let marks := vs.filterMap Verdict.mark?
  { packetsAccepted := c.packetsAccepted.add (marks.count .accepted)
    bytesAccepted := c.bytesAccepted.add (vs.map Verdict.octetsTaken).sum
    packetsDropped := c.packetsDropped.add (marks.count .dropped)
    transferErrors := c.transferErrors.add (marks.count .errored)
    staleCompletions := c.staleCompletions.add (marks.count .stale)
    rearmFailures := c.rearmFailures.add refused
    oversizedCompletions := c.oversizedCompletions.add (marks.count .oversized) }

/-- Refusals show in their own counter alone. -/
theorem after_refusals (c : TransferCounts) (refused : Nat) :
    c.after [] refused = { c with rearmFailures := c.rearmFailures.add refused } := by
  simp [after]

theorem after_nil (c : TransferCounts) : c.after [] 0 = c := by
  simp [after_refusals]

/-- **It makes no difference where a run is split.** -/
theorem after_after (c : TransferCounts) (vs ws : List Verdict) (m n : Nat) :
    (c.after vs m).after ws n = c.after (vs ++ ws) (m + n) := by
  simp [after, Counter.add_add]

/-- Note one verdict. -/
def note (c : TransferCounts) : Verdict → TransferCounts
  | .foreign | .empty => c
  | .late => c.stale
  | .failed => c.errored
  | .overlong => c.oversized
  | .offered packet .accepted => c.accepted packet.length
  | .offered _ .rejected => c.dropped

/-- **A verdict is noted where it shows**, and nowhere else. -/
theorem after_singleton (c : TransferCounts) (v : Verdict) : c.after [v] 0 = c.note v := by
  have marks : [v].filterMap Verdict.mark? = v.mark?.toList := by
    cases shown : v.mark? <;> simp [shown]
  simp only [after, marks, List.map_cons, List.map_nil, List.sum_cons, List.sum_nil]
  cases v with
  | foreign | empty => simp [note, Verdict.mark?, Verdict.octetsTaken]
  | late => simp [note, stale, Counter.bump, Verdict.mark?, Verdict.octetsTaken]
  | failed => simp [note, errored, Counter.bump, Verdict.mark?, Verdict.octetsTaken]
  | overlong => simp [note, oversized, Counter.bump, Verdict.mark?, Verdict.octetsTaken]
  | offered packet intake =>
    cases intake with
    | accepted => simp [note, accepted, Counter.bump, Verdict.mark?, Verdict.octetsTaken]
    | rejected => simp [note, dropped, Counter.bump, Verdict.mark?, Verdict.octetsTaken]

theorem refused_after (c : TransferCounts) (vs : List Verdict) (n : Nat) :
    (c.after vs n).refused = c.after vs (n + 1) := by
  simp [after, refused, Counter.bump, Counter.add_add]

/-- **Counters that show the verdicts and refusals since zero**, each of them
up to its limit. -/
structure Shows (c : TransferCounts) (vs : List Verdict) (refused : Nat) : Prop where
  packetsAccepted :
    c.packetsAccepted.val = min ((vs.filterMap Verdict.mark?).count .accepted) countLimit
  bytesAccepted : c.bytesAccepted.val = min (vs.map Verdict.octetsTaken).sum countLimit
  packetsDropped :
    c.packetsDropped.val = min ((vs.filterMap Verdict.mark?).count .dropped) countLimit
  transferErrors :
    c.transferErrors.val = min ((vs.filterMap Verdict.mark?).count .errored) countLimit
  staleCompletions :
    c.staleCompletions.val = min ((vs.filterMap Verdict.mark?).count .stale) countLimit
  oversizedCompletions :
    c.oversizedCompletions.val = min ((vs.filterMap Verdict.mark?).count .oversized) countLimit
  rearmFailures : c.rearmFailures.val = min refused countLimit

theorem shows_after_zero (vs : List Verdict) (refused : Nat) :
    (zero.after vs refused).Shows vs refused := by
  have from_zero (n : Nat) : ((default : Counter).add n).val = min n countLimit := by
    rw [Counter.default_add, Counter.val_ofNat]
  exact ⟨from_zero _, from_zero _, from_zero _, from_zero _, from_zero _, from_zero _,
    from_zero _⟩

end TransferCounts

/-! ## One packet -/

namespace SlotPool

variable {S : Type} [PcmSink S]

/-- What a packet that came back while streaming turns out to be. -/
def judge (p : SlotPool) (sink : S) (slot : Slot) (report : Report) : Verdict :=
  if report.status ≠ .success then .failed
  else if p.packetLength < report.length then .overlong
  else if report.length = 0 then .empty
  else
    let packet := slot.contents.take report.length
    .offered packet (PcmSink.accept sink packet).1

/-- **A packet is dealt with as it is judged**: the answer, the counters and
the sink are those of its verdict. -/
theorem receive_judged (p : SlotPool) (sink : Watched S SinkCall) (slot : Slot) (report : Report) :
    let v := p.judge sink slot report
    (p.receive sink slot report).1 = v.outcome ∧
      (p.receive sink slot report).2.1 = p.counts.note v ∧
      (p.receive sink slot report).2.2.calls = sink.calls ++ v.offer?.toList := by
  rcases ended : report.status with _ | _ | _
  · by_cases fits : report.length ≤ p.packetLength
    · have whole : (slot.contents.take report.length).length = report.length :=
        slot.length_take (Nat.le_trans fits p.packetLength_le)
      simp only [receive_of_fits ended fits, judge, ended, ne_eq, not_true_eq_false,
        if_false, if_neg (Nat.not_lt.2 fits)]
      generalize slot.contents.take report.length = packet at whole
      rcases packet with _ | ⟨first, rest⟩
      · rw [if_pos (by simpa using whole.symm)]
        exact ⟨rfl, rfl, (List.append_nil _).symm⟩
      · rw [if_neg (by simp [← whole])]
        rcases answer : PcmSink.accept sink.inner (first :: rest) with ⟨_ | _, inner⟩ <;>
          simp [forward, PcmSink.accept, answer, Watched.note, Verdict.outcome, Verdict.offer?,
            TransferCounts.note]
    · simp only [receive, ended, judge, ne_eq, not_true_eq_false, if_false,
        if_pos (Nat.lt_of_not_le fits)]
      exact ⟨rfl, rfl, (List.append_nil _).symm⟩
  · simp only [receive, ended, judge]
    exact ⟨rfl, rfl, (List.append_nil _).symm⟩
  · simp only [receive, ended, judge]
    exact ⟨rfl, rfl, (List.append_nil _).symm⟩

end SlotPool

/-! ## One call -/

section Lending

variable {U : Type} [UsbCore U]

/-- **An offer to the core is refused as the core says.** -/
theorem Slot.refusal_lend {s : Slot} (own : s.lent = false) (usb : Watched U CoreCall)
    (ep : EndpointAddress) (lease : Lease) :
    ∃ made, (s.lend usb ep lease).2.2.calls = usb.calls ++ made ∧
      made.countP CoreCall.isRefusal = if (s.lend usb ep lease).1 = .refused then 1 else 0 := by
  obtain ⟨taken, asked, flag⟩ := Slot.lend_watched own usb ep lease
  have out := s.lent_lend usb ep lease
  rw [flag] at out
  refine ⟨_, asked, ?_⟩
  cases taken
  · have refused : (s.lend usb ep lease).1 = .refused := by simpa using out
    rw [if_pos refused]
    rfl
  · rw [if_neg (out.1 rfl)]
    rfl

/-- **A round of lending counts what the core refused.** -/
theorem SlotPool.refusals_armFrom (ep : EndpointAddress) (length place : Nat) (slots : List Slot)
    (usb : Watched U CoreCall) :
    ∃ made, (armFrom ep length place slots usb).usb.calls = usb.calls ++ made ∧
      made.countP CoreCall.isRefusal = (armFrom ep length place slots usb).refused := by
  obtain ⟨made, asked, arms⟩ := arms_armFrom ep length place slots usb
  refine ⟨made, asked, ?_⟩
  rw [← Entry.countP_isRefusal, ← arms.count_false, ← armFrom_refused]
  simp [List.count, List.countP_map, Function.comp_def]

end Lending

namespace Gadget

variable {U S C : Type}

/-- **What a report turns out to be** in this state. -/
def verdict [PcmSink S] (g : Gadget U S C) (ep : EndpointAddress) (direction : Direction)
    (report : Report) : Verdict :=
  if g.endpoint = some ep ∧ direction = .hostToDevice then
    match g.pool.lentSlot? report.buffer with
    | none => .foreign
    | some slot => if g.isOperational then g.pool.judge g.sink slot report else .late
  else .foreign

variable [UsbCore U] [PcmSink S] [Codec C]

/-- The verdict on a call, if it is a report. -/
def verdict? (g : Gadget U S C) : Call → Option Verdict
  | .transferComplete ep direction report => some (g.verdict ep direction report)
  | _ => none

/-- **The verdicts of a run**, the first report first. -/
def verdicts (g : Gadget U S C) : List Call → List Verdict
  | [] => []
  | call :: calls => (g.verdict? call).toList ++ (g.perform call).next.verdicts calls

/-- **What lies between two states is accounted for**: `g'` came from `g` with
these verdicts and answers, and with these calls to the core and the sink. -/
structure Accounts (g g' : Gadget (Watched U CoreCall) (Watched S SinkCall) C)
    (verdicts : List Verdict) (answers : List Answer) (made : List CoreCall)
    (told : List SinkCall) : Prop where
  usb : g'.usb.calls = g.usb.calls ++ made
  sink : g'.sink.calls = g.sink.calls ++ told
  counts : g'.pool.counts = g.pool.counts.after verdicts (made.countP CoreCall.isRefusal)
  outcomes : answers.filterMap Answer.outcome? = verdicts.map Verdict.outcome
  offers : told.filter SinkCall.isOffer = verdicts.filterMap Verdict.offer?

variable {g g' g'' : Gadget (Watched U CoreCall) (Watched S SinkCall) C}

omit [UsbCore U] [PcmSink S] [Codec C] in
theorem Accounts.refl (g : Gadget (Watched U CoreCall) (Watched S SinkCall) C) :
    Accounts g g [] [] [] [] :=
  ⟨(List.append_nil _).symm, (List.append_nil _).symm, (TransferCounts.after_nil _).symm, rfl, rfl⟩

omit [UsbCore U] [PcmSink S] [Codec C] in
theorem Accounts.trans {vs ws : List Verdict} {answers more : List Answer}
    {made later : List CoreCall} {told after : List SinkCall}
    (h : Accounts g g' vs answers made told) (h' : Accounts g' g'' ws more later after) :
    Accounts g g'' (vs ++ ws) (answers ++ more) (made ++ later) (told ++ after) where
  usb := by rw [h'.usb, h.usb, List.append_assoc]
  sink := by rw [h'.sink, h.sink, List.append_assoc]
  counts := by rw [h'.counts, h.counts, TransferCounts.after_after, List.countP_append]
  outcomes := by rw [List.filterMap_append, h.outcomes, h'.outcomes, List.map_append]
  offers := by rw [List.filter_append, h.offers, h'.offers, List.filterMap_append]

omit [UsbCore U] [PcmSink S] [Codec C] in
/-- A call that brings no report, nothing that the core refuses and nothing
to play is accounted for by leaving the counters. -/
theorem accounts_of_quiet {answer : Answer} {made : List CoreCall} {told : List SinkCall}
    (usb : g'.usb.calls = g.usb.calls ++ made) (sink : g'.sink.calls = g.sink.calls ++ told)
    (counts : g'.pool.counts = g.pool.counts) (taken : made.countP CoreCall.isRefusal = 0)
    (silent : answer.outcome? = none) (none : told.filter SinkCall.isOffer = []) :
    Accounts g g' [] [answer] made told := by
  refine ⟨usb, sink, ?_, ?_, none⟩
  · rw [counts, taken, TransferCounts.after_nil]
  · simp [silent]

/-- A call of the control side answers with no outcome. -/
theorem outcome?_of_isControl (g : Gadget U S C) {call : Call} (h : call.isControl = true) :
    (g.perform call).answer.outcome? = none ∧ g.verdict? call = none := by
  cases call <;> first | exact ⟨rfl, rfl⟩ | cases h

theorem accounts_of_isControl (g : Gadget (Watched U CoreCall) (Watched S SinkCall) C)
    {call : Call} (h : call.isControl = true) :
    ∃ made told, Accounts g (g.perform call).next [] [(g.perform call).answer] made told := by
  obtain ⟨silent, -⟩ := g.outcome?_of_isControl h
  cases switches_of_isControl g h with
  | kept same =>
    refine ⟨[], [], accounts_of_quiet ?_ ?_ (same.pool ▸ rfl) rfl silent rfl⟩
    · rw [same.usb, List.append_nil]
    · rw [same.sink, List.append_nil]
  | @began ep _ _ same =>
    -- the slots that the core refuses when the stream begins are counted together
    obtain ⟨made, asked, refused⟩ :=
      SlotPool.refusals_armFrom ep g.pool.packetLength 0 g.pool.slots g.usb
    refine ⟨made, [.start], ?_, ?_, ?_, ?_, rfl⟩
    · rw [same.usb]
      exact asked
    · rw [same.sink]
      rfl
    · rw [same.pool, refused, TransferCounts.after_refusals]
      rfl
    · simp [silent]
  | ended _ _ same =>
    refine ⟨[], [.stop], accounts_of_quiet ?_ ?_ (same.pool ▸ rfl) rfl silent rfl⟩
    · rw [same.usb]
      exact (List.append_nil _).symm
    · rw [same.sink]
      rfl

omit [Codec C] in
theorem accounts_transferComplete (g : Gadget (Watched U CoreCall) (Watched S SinkCall) C)
    (ep : EndpointAddress) (direction : Direction) (report : Report) :
    ∃ made told, Accounts g (g.transferComplete ep direction report).2
      [g.verdict ep direction report] [.completion (g.transferComplete ep direction report).1]
      made told := by
  cases reports g ep direction report with
  | ignored foreign next =>
    have verdict : g.verdict ep direction report = .foreign := by
      unfold verdict
      split
      · rename_i ours
        rw [foreign ours.1 ours.2]
      · rfl
    rw [verdict, next]
    refine ⟨[], [], (List.append_nil _).symm, (List.append_nil _).symm, ?_, rfl, rfl⟩
    rw [List.countP_nil, TransferCounts.after_singleton]
    rfl
  | stale own out found idle next =>
    have verdict : g.verdict ep direction report = .late := by
      simp [Gadget.verdict, own, out, found, idle]
    rw [verdict, next]
    refine ⟨[], [], (List.append_nil _).symm, (List.append_nil _).symm, ?_, rfl, rfl⟩
    rw [List.countP_nil, TransferCounts.after_singleton]
    rfl
  | @running slot own out found running next =>
    have verdict : g.verdict ep direction report = g.pool.judge g.sink slot.release report := by
      simp only [Gadget.verdict, own, out, found, running, and_self, if_true]
      rfl
    obtain ⟨outcome, counts, told⟩ := g.pool.receive_judged g.sink slot.release report
    obtain ⟨made, asked, refused⟩ :=
      Slot.refusal_lend slot.lent_release g.usb ep (g.pool.lease report.buffer.place)
    rw [verdict, next]
    dsimp only
    generalize g.pool.judge g.sink slot.release report = v at outcome counts told
    refine ⟨made, v.offer?.toList, asked, told, ?_, ?_, ?_⟩
    · dsimp only
      rw [refused, counts, ← TransferCounts.after_singleton]
      split
      · rw [TransferCounts.refused_after]
      · rfl
    · rw [outcome]
      rfl
    · cases v <;> rfl

omit [Codec C] in
/-- Bringing everything home is not counted. -/
theorem accounts_disconnect (g : Gadget (Watched U CoreCall) (Watched S SinkCall) C) :
    ∃ made told, Accounts g g.wind [] [.done] made told := by
  obtain ⟨made, told, asked, since, cancels, stops⟩ := g.calls_wind
  have taken : made.countP CoreCall.isRefusal = 0 := by
    rcases cancels with rfl | ⟨ep, rfl⟩ <;> rfl
  have none : told.filter SinkCall.isOffer = [] := by
    rcases stops with rfl | rfl <;> rfl
  have counts : g.wind.pool.counts = g.pool.counts := by rw [wind_eq]; rfl
  exact ⟨made, told, accounts_of_quiet asked since counts taken rfl none⟩

omit [PcmSink S] [Codec C] in
/-- Nor is the endpoint. -/
theorem accounts_requestEndpoints (g : Gadget (Watched U CoreCall) (Watched S SinkCall) C) :
    ∃ made, Accounts g g.requestEndpoints.next [] [.endpoint g.requestEndpoints.answer] made [] := by
  rcases reserved : g.endpoint with _ | ep
  · rw [next_requestEndpoints reserved]
    refine ⟨[.allocEndpoint _ _ _ _], accounts_of_quiet rfl (List.append_nil _).symm rfl ?_ rfl rfl⟩
    rfl
  · rw [requestEndpoints_of_endpoint reserved]
    exact ⟨[], accounts_of_quiet (List.append_nil _).symm (List.append_nil _).symm rfl rfl rfl rfl⟩

/-- **Every call is accounted for**, unless the count starts over. -/
theorem accounts_perform (g : Gadget (Watched U CoreCall) (Watched S SinkCall) C) {call : Call}
    (goes_on : call.resetsCounts = false) :
    ∃ made told, Accounts g (g.perform call).next (g.verdict? call).toList
      [(g.perform call).answer] made told := by
  by_cases control : call.isControl = true
  · rw [(g.outcome?_of_isControl control).2]
    exact g.accounts_of_isControl control
  · cases call with
    | powerOn | connect => cases goes_on
    | disconnect => exact g.accounts_disconnect
    | requestEndpoints =>
      obtain ⟨made, accounts⟩ := g.accounts_requestEndpoints
      exact ⟨made, [], accounts⟩
    | transferComplete ep direction report => exact g.accounts_transferComplete ep direction report
    | fillInFlight buffer data =>
      exact ⟨[], [], accounts_of_quiet (List.append_nil _).symm (List.append_nil _).symm
        (g.pool.counts_fill buffer data) rfl rfl rfl⟩
    | _ => exact absurd rfl control

/-- **So is every run of such calls.** -/
theorem accounts_run (g : Gadget (Watched U CoreCall) (Watched S SinkCall) C) {calls : List Call}
    (go_on : ∀ call ∈ calls, call.resetsCounts = false) :
    ∃ made told, Accounts g (g.run calls).2 (g.verdicts calls) (g.run calls).1 made told := by
  induction calls generalizing g with
  | nil => exact ⟨[], [], .refl g⟩
  | cons call calls ih =>
    obtain ⟨first, others⟩ := List.forall_mem_cons.1 go_on
    obtain ⟨made, told, one⟩ := g.accounts_perform first
    obtain ⟨later, after, rest⟩ := ih (g.perform call).next others
    exact ⟨made ++ later, told ++ after, one.trans rest⟩

/-- Where the count starts over it starts at zero. -/
theorem counts_of_resetsCounts (g : Gadget U S C) {call : Call}
    (reset : call.resetsCounts = true) : (g.perform call).next.pool.counts = .zero := by
  cases call with
  | powerOn | connect => rfl
  | _ => cases reset

/-- So it does from the start, and after every such call. -/
theorem counts_of_getLast? {g : Gadget U S C} (fresh : g.pool.counts = .zero) {calls : List Call}
    (reset : ∀ last ∈ calls.getLast?, last.resetsCounts = true) :
    (g.run calls).2.pool.counts = .zero := by
  rcases List.eq_nil_or_concat calls with rfl | ⟨calls, last, rfl⟩
  · exact fresh
  · rw [List.concat_eq_append] at reset ⊢
    rw [run_concat]
    exact counts_of_resetsCounts _ (reset last (by simp))

/-- **The counters are exact.** From the last call on that starts the count
over, every counter is the number of what it counts, up to its limit:
packets that the sink took and their octets, packets that it turned away,
receptions that failed, that were too long, that ended without a stream,
and buffers that the core refused. The answers and the offers to the sink
are those of the same verdicts, in the same order. So whatever was heard
shows in one counter, unless it was a packet without octets, and the sink
was offered as many packets as it took and turned away. -/
theorem counts_exact (usb : U) (sink : S) (codec : C) (format : StreamFormat) (slots : Nat)
    (before calls : List Call) :
    let start := Gadget.unregistered (Watched.of usb) (Watched.of sink) codec format slots
    let g := (start.run before).2
    let g' := (g.run calls).2
    let verdicts := g.verdicts calls
    let marks := verdicts.filterMap Verdict.mark?
    let offers := (g.sink.since g'.sink).filter SinkCall.isOffer
    (∀ last ∈ before.getLast?, last.resetsCounts = true) →
    (∀ call ∈ calls, call.resetsCounts = false) →
      g'.pool.counts.Shows verdicts ((g.usb.since g'.usb).countP CoreCall.isRefusal) ∧
        (g.run calls).1.filterMap Answer.outcome? = verdicts.map Verdict.outcome ∧
        offers = verdicts.filterMap Verdict.offer? ∧
        offers.length = marks.count .accepted + marks.count .dropped ∧
        (∀ v ∈ verdicts, v.mark? = none ↔ v.outcome = .ignored ∨ v = .empty) ∧
        marks.length + verdicts.count .empty =
          ((g.run calls).1.filterMap Answer.outcome?).countP (· ≠ .ignored) := by
  intro start g g' verdicts marks offers reset go_on
  obtain ⟨made, told, accounts⟩ := g.accounts_run go_on
  have fresh : g.pool.counts = .zero := counts_of_getLast? rfl reset
  have offered : offers = verdicts.filterMap Verdict.offer? := by
    rw [← accounts.offers, ← Watched.since_of_append told accounts.sink]
  refine ⟨?_, accounts.outcomes, offered, ?_, fun v _ => v.mark?_eq_none_iff, ?_⟩
  · rw [accounts.counts, fresh, Watched.since_of_append made accounts.usb]
    exact TransferCounts.shows_after_zero _ _
  · rw [offered, Verdict.length_offers]
  · rw [Verdict.length_marks, accounts.outcomes, List.countP_map]
    rfl

end Gadget

/-- A core that does not take the second buffer it is asked to take, and none
of the last two. -/
def reluctant : Script.Core :=
  ⟨[some (.ofNumber 1 .hostToDevice)],
    [true, false, true, true, true, true, true, true, false, false]⟩

/-- A sink that has no room for its second packet. -/
def cramped : Script.Sink :=
  ⟨[.accepted, .rejected]⟩

/-- A gadget with two slots between them. -/
def strained : Gadget (Watched Script.Core CoreCall) (Watched Script.Sink SinkCall) Bench.Codec :=
  .unregistered (Watched.of reluctant) (Watched.of cramped) Codec.fresh default 2

/-- A host comes. -/
def arrival : List Call :=
  [.powerOn, .requestEndpoints, .setFirstInterface 0, .connect]

/-- Everything that can be reported, in one connection with two streams. -/
def eventful : List Call :=
  let reported (status : TransferStatus) (length : Nat) : Call :=
    .transferComplete (.ofNumber 1 .hostToDevice) .hostToDevice ⟨status, length, ⟨0⟩⟩
  [.setInterface 1 1, reported .success 8, reported .success 0, reported .success 9,
    reported .error 8, reported .cancelled 8, reported .success 197, .setInterface 1 0,
    reported .success 8, reported .success 8, .setInterface 1 1, .disconnect]

/-- Seven reports are heard, and the empty one among them does not show. -/
theorem counts_exact_eventful :
    (∀ last ∈ arrival.getLast?, last.resetsCounts = true) ∧
      (∀ call ∈ eventful, call.resetsCounts = false) ∧
      ((strained.run arrival).2.verdicts eventful).map Verdict.outcome =
        [.forwarded, .forwarded, .dropped, .errored, .errored, .oversized, .stale, .ignored] ∧
      ((strained.run arrival).2.verdicts eventful).filterMap Verdict.mark? =
        [.accepted, .dropped, .errored, .errored, .oversized, .stale] ∧
      (((strained.run arrival).2.verdicts eventful).map Verdict.octetsTaken).sum = 8 ∧
      ((strained.run arrival).2.run eventful).2.pool.counts.Shows
        ((strained.run arrival).2.verdicts eventful) 3 := by
  have reset : ∀ last ∈ arrival.getLast?, last.resetsCounts = true := by decide
  have go_on : ∀ call ∈ eventful, call.resetsCounts = false := by decide
  have law := Gadget.counts_exact reluctant cramped Codec.fresh default 2 arrival eventful
  rw [← strained] at law
  obtain ⟨shows, -⟩ := law reset go_on
  have refused : ((strained.run arrival).2.usb.since
      ((strained.run arrival).2.run eventful).2.usb).countP CoreCall.isRefusal = 3 := by
    decide +kernel
  rw [refused] at shows
  exact ⟨reset, go_on, by decide +kernel, by decide +kernel, by decide +kernel, shows⟩

end AudioGadget
