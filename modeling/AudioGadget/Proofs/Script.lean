import AudioGadget.Proofs.Reception.History
import AudioGadget.Proofs.Sides
/-!
# Script — a gadget that is given the same answers does the same

All that a gadget hears of its core and its sink are their answers. Taken
down from a run they make a script, and a collaborator that reads its
answers from a script stands in for the one that gave them: the gadget
then answers the host the same and ends in the same state, up to what is
in its buffers (`repeats_run`). Two gadgets that heard the same answers
are therefore both repeated by one and the same scripted gadget.

The octets in the buffers go to the sink, and nothing that a gadget
decides depends on them: a packet is empty if its length is reported as 0,
and that is all a gadget asks.
-/

namespace AudioGadget

open Bench

/-! ## Scripts -/

/-- The endpoint a core gave, in answer to that. -/
def Bench.CoreCall.given? : CoreCall → Option (Option EndpointAddress)
  | .allocEndpoint _ _ _ given => some given
  | .submitReceive .. | .cancel _ => none

/-- Whether it took a buffer, in answer to that. -/
def Bench.CoreCall.taken? : CoreCall → Option Bool
  | .submitReceive _ _ taken => some taken
  | .allocEndpoint .. | .cancel _ => none

/-- What a sink made of a packet. -/
def Bench.SinkCall.intake? : SinkCall → Option Intake
  | .accept _ intake => some intake
  | .start | .stop => none

namespace Script

/-- **A core that reads its answers from a script.** -/
structure Core where
  given : List (Option EndpointAddress)
  taken : List Bool
deriving DecidableEq

/-- **A sink that reads its answers from a script.** -/
structure Sink where
  intakes : List Intake
deriving DecidableEq

instance : UsbCore Core where
  allocEndpoint c _ _ _ := (c.given.headD none, { c with given := c.given.tail })
  submitReceive c _ _ := (c.taken.headD false, { c with taken := c.taken.tail })
  cancel c _ := c

instance : PcmSink Sink where
  accept s _ := (s.intakes.headD .rejected, { s with intakes := s.intakes.tail })
  start s := s
  stop s := s

/-- The answers a core gave to `calls`. -/
def Core.of (calls : List CoreCall) : Core :=
  ⟨calls.filterMap CoreCall.given?, calls.filterMap CoreCall.taken?⟩

/-- The answers a sink gave to `calls`. -/
def Sink.of (calls : List SinkCall) : Sink :=
  ⟨calls.filterMap SinkCall.intake?⟩

instance : Append Core where
  append c rest := ⟨c.given ++ rest.given, c.taken ++ rest.taken⟩

instance : Append Sink where
  append s rest := ⟨s.intakes ++ rest.intakes⟩

theorem Core.of_append (calls more : List CoreCall) (rest : Core) :
    Core.of (calls ++ more) ++ rest = Core.of calls ++ (Core.of more ++ rest) := by
  change Core.mk _ _ = Core.mk _ _
  simp only [Core.of, List.filterMap_append, List.append_assoc]
  rfl

theorem Sink.of_append (calls more : List SinkCall) (rest : Sink) :
    Sink.of (calls ++ more) ++ rest = Sink.of calls ++ (Sink.of more ++ rest) := by
  change Sink.mk _ = Sink.mk _
  simp only [Sink.of, List.filterMap_append, List.append_assoc]
  rfl

theorem Core.append_nil (c : Core) : c ++ Core.mk [] [] = c := by
  change Core.mk _ _ = c
  rw [List.append_nil, List.append_nil]

theorem Sink.append_nil (s : Sink) : s ++ Sink.mk [] = s := by
  change Sink.mk _ = s
  rw [List.append_nil]

/-! The next answer in a script is that of the next call. -/

theorem Core.submitReceive_of (ep : EndpointAddress) (lease : Lease) (taken : Bool)
    (calls : List CoreCall) (rest : Core) :
    UsbCore.submitReceive (Core.of (.submitReceive ep lease taken :: calls) ++ rest) ep lease =
      (taken, Core.of calls ++ rest) := rfl

theorem Core.allocEndpoint_of (type : TransferType) (direction : Direction) (maxPacket : Nat)
    (given : Option EndpointAddress) (calls : List CoreCall) (rest : Core) :
    UsbCore.allocEndpoint (Core.of (.allocEndpoint type direction maxPacket given :: calls) ++ rest)
      type direction maxPacket = (given, Core.of calls ++ rest) := rfl

theorem Sink.accept_of (packet packet' : Bytes) (intake : Intake) (calls : List SinkCall)
    (rest : Sink) :
    PcmSink.accept (Sink.of (.accept packet intake :: calls) ++ rest) packet' =
      (intake, Sink.of calls ++ rest) := rfl

end Script

/-- A watched core notes what it was asked, and its answer. -/
theorem Bench.Watched.submitReceive_calls {U : Type} [UsbCore U] {usb usb' : Watched U CoreCall}
    {ep : EndpointAddress} {lease : Lease} {taken : Bool}
    (answer : UsbCore.submitReceive usb ep lease = (taken, usb')) :
    usb'.calls = usb.calls ++ [.submitReceive ep lease taken] := by
  cases answer
  rfl

/-- And so does a watched sink. -/
theorem Bench.Watched.accept_calls {S : Type} [PcmSink S] {sink sink' : Watched S SinkCall}
    {packet : Bytes} {intake : Intake} (answer : PcmSink.accept sink packet = (intake, sink')) :
    sink'.calls = sink.calls ++ [.accept packet intake] := by
  cases answer
  rfl

/-! ## The slots -/

/-- What becomes of an offer of a slot that is at home. -/
theorem Slot.lend_of_home {U : Type} [UsbCore U] {s : Slot} (home : s.lent = false) {usb usb' : U}
    {ep : EndpointAddress} {lease : Lease} {taken : Bool}
    (answer : UsbCore.submitReceive usb ep lease = (taken, usb')) :
    s.lend usb ep lease =
      (if taken then .taken else .refused, { s with lent := taken }, usb') := by
  unfold Slot.lend
  rw [if_neg (by simp [home]), answer]
  cases s
  cases home
  cases taken <;> rfl

namespace SlotPool

/-- **A round of lending is repeated by the script of its answers.** -/
theorem armFrom_script {U : Type} [UsbCore U] (ep : EndpointAddress) (length place : Nat)
    (slots : List Slot) (usb : Watched U CoreCall) :
    ∃ made, (armFrom ep length place slots usb).usb.calls = usb.calls ++ made ∧
      ∀ (slots' : List Slot) (rest : Script.Core), slots'.map Slot.lent = slots.map Slot.lent →
        let arming := armFrom ep length place slots usb
        let again := armFrom ep length place slots' (Script.Core.of made ++ rest)
        again.slots.map Slot.lent = arming.slots.map Slot.lent ∧
          again.refused = arming.refused ∧ again.usb = rest := by
  induction slots generalizing place usb with
  | nil =>
    refine ⟨[], (List.append_nil _).symm, fun slots' rest flags => ?_⟩
    rw [List.map_eq_nil_iff.1 flags]
    exact ⟨rfl, rfl, rfl⟩
  | cons slot slots ih =>
    -- a slot at home takes one line of the script, a slot that is out takes none
    rcases out : slot.lent with _ | _
    · rcases answer : UsbCore.submitReceive usb ep ⟨⟨place⟩, length⟩ with ⟨taken, usb'⟩
      obtain ⟨made, since, again⟩ := ih (place + 1) usb'
      refine ⟨.submitReceive ep ⟨⟨place⟩, length⟩ taken :: made, ?_, ?_⟩
      · simp only [armFrom, Slot.lend_of_home out answer, Arming.note, since,
          Watched.submitReceive_calls answer, List.append_assoc, List.singleton_append]
      · intro slots' rest flags
        obtain ⟨slot', slots', rfl, home, flags⟩ := List.map_eq_cons_iff.1 flags
        have read := Script.Core.submitReceive_of ep ⟨⟨place⟩, length⟩ taken made rest
        obtain ⟨flags, refused, usb⟩ := again slots' rest flags
        simp only [armFrom, Slot.lend_of_home out answer, Slot.lend_of_home (home.trans out) read,
          Arming.note, List.map_cons, flags, refused, usb, and_self]
    · obtain ⟨made, since, again⟩ := ih (place + 1) usb
      refine ⟨made, ?_, fun slots' rest flags => ?_⟩
      · simp only [armFrom, Slot.lend_of_lent out, Arming.note, since]
      · obtain ⟨slot', slots', rfl, home, flags⟩ := List.map_eq_cons_iff.1 flags
        obtain ⟨flags, refused, usb⟩ := again slots' rest flags
        simp only [armFrom, Slot.lend_of_lent out, Slot.lend_of_lent (home.trans out),
          Arming.note, List.map_cons, flags, refused, usb, home, and_self]

/-- So what it leaves of a pool is the same. -/
theorem armIdle_script {U : Type} [UsbCore U] (p : SlotPool) (usb : Watched U CoreCall)
    (ep : EndpointAddress) :
    ∃ made, (p.armIdle usb ep).2.2.calls = usb.calls ++ made ∧
      ∀ (p' : SlotPool) (rest : Script.Core), p'.packetLength = p.packetLength →
        p'.flags = p.flags → p'.counts = p.counts →
          let again := p'.armIdle (Script.Core.of made ++ rest) ep
          again.2.1.flags = (p.armIdle usb ep).2.1.flags ∧
            again.2.1.counts = (p.armIdle usb ep).2.1.counts ∧ again.2.2 = rest := by
  obtain ⟨made, since, again⟩ := armFrom_script ep p.packetLength 0 p.slots usb
  refine ⟨made, since, fun p' rest lends out counts => ?_⟩
  obtain ⟨flags, refused, usb⟩ := again p'.slots rest out
  simp only [armIdle, SlotPool.flags, lends, counts, flags, refused, usb, and_self]

/-- **An offer to the sink is repeated by the script of its answer**, with any
packet of the same length. -/
theorem forward_script {S : Type} [PcmSink S] (counts : TransferCounts) (sink : Watched S SinkCall)
    (packet : Bytes) :
    ∃ offered, (forward counts sink packet).2.2.calls = sink.calls ++ offered ∧
      ∀ (packet' : Bytes) (rest : Script.Sink), packet'.length = packet.length →
        forward counts (Script.Sink.of offered ++ rest) packet' =
          ((forward counts sink packet).1, (forward counts sink packet).2.1, rest) := by
  rcases packet with _ | ⟨b, bs⟩
  · refine ⟨[], (List.append_nil _).symm, fun packet' rest length => ?_⟩
    rw [List.eq_nil_of_length_eq_zero length]
    rfl
  · rcases answer : PcmSink.accept sink (b :: bs) with ⟨intake, sink'⟩
    refine ⟨[.accept (b :: bs) intake], ?_, fun packet' rest length => ?_⟩
    · rw [← Watched.accept_calls answer]
      simp only [forward, answer, List.isEmpty_cons]
      cases intake <;> rfl
    · have filled : packet'.isEmpty = false := by
        rcases packet' with _ | _
        · cases length
        · rfl
      simp only [forward, answer, filled, List.isEmpty_cons, length,
        Script.Sink.accept_of (b :: bs) packet' intake [] rest]
      cases intake <;> rfl

/-- **So is a packet that comes in**, with any slot. -/
theorem receive_script {S : Type} [PcmSink S] (p : SlotPool) (sink : Watched S SinkCall)
    (slot : Slot) (report : Report) :
    ∃ offered, (p.receive sink slot report).2.2.calls = sink.calls ++ offered ∧
      ∀ (p' : SlotPool) (slot' : Slot) (rest : Script.Sink),
        p'.packetLength = p.packetLength → p'.counts = p.counts →
          p'.receive (Script.Sink.of offered ++ rest) slot' report =
            ((p.receive sink slot report).1, (p.receive sink slot report).2.1, rest) := by
  rcases ended : report.status with _ | _ | _
  · by_cases fits : p.packetLength < report.length
    · refine ⟨[], ?_, fun p' slot' rest lends counts => ?_⟩
      · simp only [receive, ended, if_pos fits, List.append_nil]
      · simp only [receive, ended, lends, counts, if_pos fits]
        rfl
    · obtain ⟨offered, since, again⟩ :=
        forward_script p.counts sink (slot.contents.take report.length)
      refine ⟨offered, ?_, fun p' slot' rest lends counts => ?_⟩
      · rw [receive_of_fits ended (Nat.not_lt.1 fits), since]
      · -- both slots hold as much as the lease, so the packets are of one length
        have room : report.length ≤ slotSize := Nat.le_trans (Nat.not_lt.1 fits) p.packetLength_le
        have length : (slot'.contents.take report.length).length =
            (slot.contents.take report.length).length :=
          (slot'.length_take room).trans (slot.length_take room).symm
        have fits' : report.length ≤ p'.packetLength := lends ▸ Nat.not_lt.1 fits
        rw [receive_of_fits ended (Nat.not_lt.1 fits), receive_of_fits ended fits', counts,
          again _ rest length]
  · refine ⟨[], ?_, fun p' slot' rest _ counts => ?_⟩
    · simp only [receive, ended, List.append_nil]
    · simp only [receive, ended, counts]
      rfl
  · refine ⟨[], ?_, fun p' slot' rest _ counts => ?_⟩
    · simp only [receive, ended, List.append_nil]
    · simp only [receive, ended, counts]
      rfl

end SlotPool

/-! ## One call -/

namespace Gadget

variable {U S C : Type}

/-- **A gadget that repeats another one**: it agrees with it in everything
but the buffers and the codec, and has these answers to read. -/
structure Repeats (r : Gadget Script.Core Script.Sink Absent) (g : Gadget U S C)
    (core : Script.Core) (sink : Script.Sink) : Prop where
  control : r.controlSide = g.controlSide
  flags : r.pool.flags = g.pool.flags
  counts : r.pool.counts = g.pool.counts
  usb : r.usb = core
  sink : r.sink = sink

variable [UsbCore U] [PcmSink S] [Codec C]

/-- **A call that can be repeated**: the core was asked `made` and the sink
`offered`, and whoever reads the answers to that from a script answers the
same and is left with what the script holds beyond. -/
structure Repeatable (g : Gadget (Watched U CoreCall) (Watched S SinkCall) C) (call : Call)
    (made : List CoreCall) (offered : List SinkCall) : Prop where
  usb : (g.perform call).next.usb.calls = g.usb.calls ++ made
  sink : (g.perform call).next.sink.calls = g.sink.calls ++ offered
  again {r : Gadget Script.Core Script.Sink Absent} {core : Script.Core} {sink : Script.Sink}
    (repeats : Repeats r g (Script.Core.of made ++ core) (Script.Sink.of offered ++ sink)) :
    (r.perform call).answer = (g.perform call).answer ∧
      Repeats (r.perform call).next (g.perform call).next core sink

variable {g : Gadget (Watched U CoreCall) (Watched S SinkCall) C}

/-- What a call needs of the control side is repeated, whatever the
answers. -/
theorem Repeats.agree {r : Gadget Script.Core Script.Sink Absent} {core : Script.Core}
    {sink : Script.Sink} (repeats : Repeats r g core sink) {call : Call} (own : call.isBus = false)
    (named : call ≠ .requestEndpoints) :
    (r.perform call).answer = (g.perform call).answer ∧
      (r.perform call).next.controlSide = (g.perform call).next.controlSide ∧
      r.isOperational = g.isOperational ∧
      (r.perform call).next.isOperational = (g.perform call).next.isOperational := by
  obtain ⟨answer, control⟩ := agree_controlSide repeats.control own named
  exact ⟨answer, control, (of_controlSide repeats.control).isOperational,
    (of_controlSide control).isOperational⟩

/-- A call on the control pipe is repeated, with the stream it starts or
stops. -/
theorem repeatable_of_isControl {call : Call} (h : call.isControl = true) :
    ∃ made offered, Repeatable g call made offered := by
  have own : call.isBus = false := by cases call <;> first | rfl | cases h
  have named : call ≠ .requestEndpoints := by
    rintro rfl
    cases h
  -- whether the stream starts or stops is seen on the control side, so it does in both
  cases switches_of_isControl g h with
  | kept same =>
    refine ⟨[], [], ⟨?_, ?_, fun {r core sink} repeats => ?_⟩⟩
    · rw [same.usb, List.append_nil]
    · rw [same.sink, List.append_nil]
    · obtain ⟨answer, control, before, after⟩ := repeats.agree own named
      have still := (switches_of_isControl r h).steady
        (after.trans (same.isOperational.trans before.symm))
      refine ⟨answer, control, ?_, ?_, still.usb.trans repeats.usb, still.sink.trans repeats.sink⟩
      · rw [still.pool, same.pool, repeats.flags]
      · rw [still.pool, same.pool, repeats.counts]
  | @began ep reserved idle same =>
    obtain ⟨made, since, again⟩ := g.pool.armIdle_script g.usb ep
    refine ⟨made, [.start], ⟨?_, ?_, fun {r core sink} repeats => ?_⟩⟩
    · rw [same.usb]
      exact since
    · rw [same.sink]
      rfl
    · obtain ⟨answer, control, before, after⟩ := repeats.agree own named
      have common := of_controlSide repeats.control
      obtain ⟨ep', reserved', started⟩ := (switches_of_isControl r h).start (before.trans idle)
        (after.trans same.isOperational)
      obtain rfl : ep' = ep := Option.some.inj
        (reserved'.symm.trans (common.endpoint.trans reserved))
      obtain ⟨flags, counts, usb⟩ :=
        again r.pool core common.packetLength repeats.flags repeats.counts
      rw [← repeats.usb] at flags counts usb
      refine ⟨answer, control, ?_, ?_, started.usb.trans usb, started.sink.trans repeats.sink⟩
      · rw [started.pool, same.pool]
        exact flags
      · rw [started.pool, same.pool]
        exact counts
  | ended _ running same =>
    refine ⟨[], [.stop], ⟨?_, ?_, fun {r core sink} repeats => ?_⟩⟩
    · rw [same.usb]
      exact (List.append_nil _).symm
    · rw [same.sink]
      rfl
    · obtain ⟨answer, control, before, after⟩ := repeats.agree own named
      have stopped := (switches_of_isControl r h).stop (before.trans running)
        (after.trans same.isOperational)
      refine ⟨answer, control, ?_, ?_, stopped.usb.trans repeats.usb,
        stopped.sink.trans repeats.sink⟩
      · rw [stopped.pool, same.pool]
        exact repeats.flags
      · rw [stopped.pool, same.pool]
        exact repeats.counts

omit [Codec C] in
/-- **Bringing everything home asks for nothing that is answered.** -/
theorem wind_script (g : Gadget (Watched U CoreCall) (Watched S SinkCall) C) :
    ∃ made offered, g.wind.usb.calls = g.usb.calls ++ made ∧
      g.wind.sink.calls = g.sink.calls ++ offered ∧
      ∀ {r : Gadget Script.Core Script.Sink Absent} {core : Script.Core} {sink : Script.Sink},
        Repeats r g (Script.Core.of made ++ core) (Script.Sink.of offered ++ sink) →
          r.wind.pool.flags = g.wind.pool.flags ∧ r.wind.pool.counts = g.wind.pool.counts ∧
            r.wind.usb = core ∧ r.wind.sink = sink := by
  -- neither script has a line for what is told
  have unread (r : Gadget Script.Core Script.Sink Absent) :
      r.wind.usb = r.usb ∧ r.wind.sink = r.sink := by
    rw [wind_eq]
    refine ⟨?_, ite_self _⟩
    rcases usb_reclaim r with kept | ⟨ep, -, cancelled⟩
    · exact kept
    · exact cancelled
  obtain ⟨made, offered, asked, told, cancels, stops⟩ := g.calls_wind
  have silent (core : Script.Core) : Script.Core.of made ++ core = core := by
    rcases cancels with rfl | ⟨ep, rfl⟩ <;> rfl
  have silent' (sink : Script.Sink) : Script.Sink.of offered ++ sink = sink := by
    rcases stops with rfl | rfl <;> rfl
  refine ⟨made, offered, asked, told, fun {r core sink} repeats => ?_⟩
  refine ⟨?_, ?_, ?_, ?_⟩
  · rw [flags_wind, flags_wind, repeats.flags]
  · rw [wind_eq, wind_eq]
    exact repeats.counts
  · rw [(unread r).1, repeats.usb, silent]
  · rw [(unread r).2, repeats.sink, silent']

theorem repeatable_connect (g : Gadget (Watched U CoreCall) (Watched S SinkCall) C) :
    ∃ made offered, Repeatable g .connect made offered := by
  obtain ⟨made, offered, asked, told, again⟩ := g.wind_script
  refine ⟨made, offered, asked, told, fun {r core sink} repeats => ?_⟩
  have own : Call.connect.isBus = false := rfl
  obtain ⟨answer, control, -⟩ := repeats.agree own (by simp)
  obtain ⟨flags, -, usb, sink⟩ := again repeats
  exact ⟨answer, control, flags, rfl, usb, sink⟩

theorem repeatable_disconnect (g : Gadget (Watched U CoreCall) (Watched S SinkCall) C) :
    ∃ made offered, Repeatable g .disconnect made offered := by
  obtain ⟨made, offered, asked, told, again⟩ := g.wind_script
  refine ⟨made, offered, asked, told, fun {r core sink} repeats => ?_⟩
  have own : Call.disconnect.isBus = false := rfl
  obtain ⟨answer, control, -⟩ := repeats.agree own (by simp)
  obtain ⟨flags, counts, usb, sink⟩ := again repeats
  exact ⟨answer, control, flags, counts, usb, sink⟩

theorem repeatable_powerOn (g : Gadget (Watched U CoreCall) (Watched S SinkCall) C) :
    Repeatable g .powerOn [] [] := by
  refine ⟨(List.append_nil _).symm, (List.append_nil _).symm, fun {r core sink} repeats => ?_⟩
  have own : Call.powerOn.isBus = false := rfl
  obtain ⟨answer, control, -⟩ := repeats.agree own (by simp)
  refine ⟨answer, control, ?_, rfl, repeats.usb, repeats.sink⟩
  change r.pool.releaseAll.flags = g.pool.releaseAll.flags
  rw [SlotPool.flags_releaseAll, SlotPool.flags_releaseAll, repeats.flags]

/-! ### The endpoint -/

theorem repeatable_requestEndpoints (g : Gadget (Watched U CoreCall) (Watched S SinkCall) C) :
    ∃ made, Repeatable g .requestEndpoints made [] := by
  rcases unreserved : g.endpoint with _ | ep
  · have next : (g.perform .requestEndpoints).next = _ := next_requestEndpoints unreserved
    let given :=
      (UsbCore.allocEndpoint g.usb .isochronous .hostToDevice g.format.maxPacketSize).1
    refine ⟨[.allocEndpoint .isochronous .hostToDevice g.format.maxPacketSize given], ?_, ?_, ?_⟩
    · rw [next]
      rfl
    · rw [next, List.append_nil]
    · intro r core sink repeats
      have common := of_controlSide repeats.control
      have read : UsbCore.allocEndpoint r.usb .isochronous .hostToDevice r.format.maxPacketSize =
          (given, core) := by
        rw [repeats.usb, common.format]
        exact Script.Core.allocEndpoint_of _ _ _ given [] core
      obtain ⟨answer, control⟩ := agree_requestEndpoints repeats.control fun _ => by rw [read]
      have again : (r.perform .requestEndpoints).next = _ :=
        next_requestEndpoints (common.endpoint.trans unreserved)
      refine ⟨congrArg Answer.endpoint answer, control, ?_, ?_, ?_, ?_⟩
      · rw [again, next]
        exact repeats.flags
      · rw [again, next]
        exact repeats.counts
      · rw [again, read]
      · rw [again]
        exact repeats.sink
  · have next : (g.perform .requestEndpoints).next = g := by
      simp only [perform, requestEndpoints_of_endpoint unreserved]
    refine ⟨[], ?_, ?_, fun {r core sink} repeats => ?_⟩
    · rw [next, List.append_nil]
    · rw [next, List.append_nil]
    · have reserved := (of_controlSide repeats.control).endpoint.trans unreserved
      have again : r.perform .requestEndpoints = ⟨.endpoint (.ok ep), r, []⟩ := by
        simp only [perform, requestEndpoints_of_endpoint reserved]
      rw [again, next]
      simp only [perform, requestEndpoints_of_endpoint unreserved]
      exact ⟨trivial, repeats⟩

/-! ### The bus -/

omit [UsbCore U] [PcmSink S] [Codec C] in
/-- What is out is out in both, under the same name. -/
theorem Repeats.lentSlot? {r : Gadget Script.Core Script.Sink Absent} {h : Gadget U S C}
    {core : Script.Core} {sink : Script.Sink} (repeats : Repeats r h core sink)
    (buffer : BufferId) : r.pool.lentSlot? buffer = none ↔ h.pool.lentSlot? buffer = none := by
  rw [SlotPool.lentSlot?_eq_none_iff, SlotPool.lentSlot?_eq_none_iff, repeats.flags]

omit [UsbCore U] [PcmSink S] [Codec C] in
theorem Repeats.exists_lentSlot? {r : Gadget Script.Core Script.Sink Absent} {h : Gadget U S C}
    {core : Script.Core} {sink : Script.Sink} (repeats : Repeats r h core sink)
    {buffer : BufferId} {slot : Slot} (found : h.pool.lentSlot? buffer = some slot) :
    ∃ slot', r.pool.lentSlot? buffer = some slot' := by
  rw [← Option.isSome_iff_exists, Option.isSome_iff_ne_none, Ne, repeats.lentSlot?, found]
  exact Option.some_ne_none slot

/-- A report is repeated with its outcome. -/
theorem repeatable_transferComplete (g : Gadget (Watched U CoreCall) (Watched S SinkCall) C)
    (ep : EndpointAddress) (direction : Direction) (report : Report) :
    ∃ made offered, Repeatable g (.transferComplete ep direction report) made offered := by
  have bus : Call.isBus (.transferComplete ep direction report) = true := rfl
  have sides {r : Gadget Script.Core Script.Sink Absent} (same : r.controlSide = g.controlSide) :
      (r.perform (.transferComplete ep direction report)).next.controlSide =
        (g.perform (.transferComplete ep direction report)).next.controlSide := by
    rw [controlSide_of_isBus r bus, controlSide_of_isBus g bus, same]
  cases reports g ep direction report with
  | ignored foreign next =>
    refine ⟨[], [], ?_, ?_, fun {r core sink} repeats => ?_⟩
    · simp only [perform, next, List.append_nil]
    · simp only [perform, next, List.append_nil]
    · have common := of_controlSide repeats.control
      have again : r.transferComplete ep direction report = (.ignored, r) :=
        transferComplete_of_unheard fun own out =>
          (repeats.lentSlot? _).2 (foreign (common.endpoint ▸ own) out)
      simp only [perform, next, again]
      exact ⟨trivial, repeats⟩
  | @stale slot own out found idle next =>
    refine ⟨[], [], ?_, ?_, fun {r core sink} repeats => ?_⟩
    · simp only [perform, next, List.append_nil]
    · simp only [perform, next, List.append_nil]
    · have common := of_controlSide repeats.control
      obtain ⟨slot', found'⟩ := repeats.exists_lentSlot? found
      have again := transferComplete_of_idle (common.endpoint.trans own) out found'
        (common.isOperational.trans idle)
      have control := sides repeats.control
      simp only [perform, next, again] at control ⊢
      refine ⟨trivial, control, ?_, ?_, repeats.usb, repeats.sink⟩
      · have flags := repeats.flags
        simp only [SlotPool.flags, List.map_set, Slot.lent_release] at flags ⊢
        rw [flags]
      · simp only [repeats.counts]
  | @running slot own out found running next =>
    -- the packet goes to the sink, and the slot is offered to the core again
    rcases answer : UsbCore.submitReceive g.usb ep (g.pool.lease report.buffer.place) with
      ⟨taken, usb⟩
    obtain ⟨offered, told, read⟩ := g.pool.receive_script g.sink slot.release report
    have offer := Slot.lend_of_home slot.lent_release answer
    simp only [offer] at next
    refine ⟨[.submitReceive ep (g.pool.lease report.buffer.place) taken], offered, ?_, ?_,
      fun {r core sink} repeats => ?_⟩
    · simp only [perform, next]
      exact Watched.submitReceive_calls answer
    · simp only [perform, next]
      exact told
    · have common := of_controlSide repeats.control
      obtain ⟨slot', found'⟩ := repeats.exists_lentSlot? found
      have again := transferComplete_of_running (common.endpoint.trans own) out found'
        (common.isOperational.trans running)
      have lease : r.pool.lease report.buffer.place = g.pool.lease report.buffer.place := by
        unfold SlotPool.lease
        rw [common.packetLength]
      have offer' := Slot.lend_of_home slot'.lent_release
        (Script.Core.submitReceive_of ep (g.pool.lease report.buffer.place) taken [] core)
      have received := read r.pool slot'.release sink common.packetLength repeats.counts
      have control := sides repeats.control
      simp only [repeats.usb, repeats.sink, lease, offer', received] at again
      simp only [perform, next, again] at control ⊢
      refine ⟨trivial, control, ?_, rfl, rfl, rfl⟩
      have flags := repeats.flags
      simp only [SlotPool.flags, List.map_set] at flags ⊢
      rw [flags]

/-- Nobody is asked when a transfer writes into a slot. -/
theorem repeatable_fillInFlight (g : Gadget (Watched U CoreCall) (Watched S SinkCall) C)
    (buffer : BufferId) (data : Bytes) : Repeatable g (.fillInFlight buffer data) [] [] := by
  have bus : Call.isBus (.fillInFlight buffer data) = true := rfl
  have filled (p : SlotPool) : (p.fill buffer data).1 = (p.lentSlot? buffer).isSome := by
    unfold SlotPool.fill
    split <;> rename_i found <;> rw [found] <;> rfl
  refine ⟨(List.append_nil _).symm, (List.append_nil _).symm, fun {r core sink} repeats => ?_⟩
  have found : (r.pool.lentSlot? buffer).isSome = (g.pool.lentSlot? buffer).isSome := by
    rw [Bool.eq_iff_iff, Option.isSome_iff_ne_none, Option.isSome_iff_ne_none, Ne, Ne,
      repeats.lentSlot?]
  refine ⟨?_, ?_, ?_, ?_, repeats.usb, repeats.sink⟩
  · change Answer.filled (r.pool.fill buffer data).1 = Answer.filled (g.pool.fill buffer data).1
    rw [filled r.pool, filled g.pool, found]
  · rw [controlSide_of_isBus r bus, controlSide_of_isBus g bus]
    exact repeats.control
  · change (r.pool.fill buffer data).2.flags = (g.pool.fill buffer data).2.flags
    rw [SlotPool.flags_fill, SlotPool.flags_fill, repeats.flags]
  · change (r.pool.fill buffer data).2.counts = (g.pool.fill buffer data).2.counts
    rw [SlotPool.counts_fill, SlotPool.counts_fill, repeats.counts]

/-- **Every call can be repeated.** -/
theorem repeatable_perform (g : Gadget (Watched U CoreCall) (Watched S SinkCall) C) (call : Call) :
    ∃ made offered, Repeatable g call made offered := by
  by_cases control : call.isControl = true
  · exact repeatable_of_isControl control
  · cases call with
    | powerOn => exact ⟨[], [], g.repeatable_powerOn⟩
    | connect => exact g.repeatable_connect
    | disconnect => exact g.repeatable_disconnect
    | requestEndpoints =>
      obtain ⟨made, repeatable⟩ := g.repeatable_requestEndpoints
      exact ⟨made, [], repeatable⟩
    | transferComplete ep direction report =>
      exact g.repeatable_transferComplete ep direction report
    | fillInFlight buffer data => exact ⟨[], [], g.repeatable_fillInFlight buffer data⟩
    | _ => exact absurd rfl control

/-- **So can every run.** -/
theorem repeatable_run (g : Gadget (Watched U CoreCall) (Watched S SinkCall) C)
    (calls : List Call) :
    ∃ made offered, (g.run calls).2.usb.calls = g.usb.calls ++ made ∧
      (g.run calls).2.sink.calls = g.sink.calls ++ offered ∧
      ∀ {r : Gadget Script.Core Script.Sink Absent} {core : Script.Core} {sink : Script.Sink},
        Repeats r g (Script.Core.of made ++ core) (Script.Sink.of offered ++ sink) →
          (r.run calls).1 = (g.run calls).1 ∧
            Repeats (r.run calls).2 (g.run calls).2 core sink := by
  induction calls generalizing g with
  | nil =>
    exact ⟨[], [], (List.append_nil _).symm, (List.append_nil _).symm,
      fun repeats => ⟨rfl, repeats⟩⟩
  | cons call calls ih =>
    obtain ⟨made, offered, one⟩ := g.repeatable_perform call
    obtain ⟨later, later', asked, told, rest⟩ := ih (g.perform call).next
    refine ⟨made ++ later, offered ++ later', ?_, ?_, fun {r core sink} repeats => ?_⟩
    · exact asked.trans (by rw [one.usb, List.append_assoc])
    · exact told.trans (by rw [one.sink, List.append_assoc])
    · rw [Script.Core.of_append, Script.Sink.of_append] at repeats
      obtain ⟨answer, next⟩ := one.again repeats
      obtain ⟨answers, last⟩ := rest next
      exact ⟨List.cons_eq_cons.2 ⟨answer, answers⟩, last⟩

end Gadget

end AudioGadget
