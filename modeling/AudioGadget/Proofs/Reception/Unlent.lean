import Mathlib.Data.List.Forall2
import AudioGadget.Proofs.Reception.Receiver
/-!
# Unlent — octets beyond the lease are never read

A slot is longer than what is lent of it, it keeps what earlier packets
left there, and a transfer may write to any length. `Bytes.AgreeBelow`
says of two buffers that no octet below the lease tells them apart, and
`Receiver.Alike` says it of two receivers slot by slot, where everything
else is the same. Every operation answers alike receivers the same and
leaves them alike (`Alike.perform`), also where transfers write what only
differs beyond the lease; so it is with a run of operations.

What makes it so is one comparison: a length beyond the lease is a fault
of the core (`SlotPool.receive`), and the lease is no longer than a slot,
so that every stretch that is lent or read is there (`Slot.exists_front?`).
-/

namespace AudioGadget

open Bench

namespace Bytes

/-- The front of a buffer, where the buffer reaches that far. -/
def front? (b : Bytes) (length : Nat) : Option Bytes :=
  if length ≤ b.length then some (b.take length) else none

/-- **The buffers agree below `n`**: the same octet at each place, or none. -/
def AgreeBelow (n : Nat) (b b' : Bytes) : Prop :=
  ∀ i < n, b[i]? = b'[i]?

variable {n : Nat} {b b' : Bytes}

theorem AgreeBelow.take_eq (h : AgreeBelow n b b') {length : Nat} (within : length ≤ n) :
    b.take length = b'.take length := by
  refine List.ext_getElem? fun i => ?_
  rw [List.getElem?_take, List.getElem?_take]
  split
  · exact h i (by omega)
  · rfl

/-- An octet of the data stands where the data reaches, and where the buffer
does. -/
theorem getElem?_overwrite (dest data : Bytes) (i : Nat) :
    (overwrite dest data)[i]? = if i < dest.length then data[i]?.or dest[i]? else none := by
  by_cases inside : i < dest.length
  · rw [if_pos inside, overwrite, List.getElem?_append, List.length_take, List.getElem?_take]
    by_cases written : i < data.length
    · rw [if_pos (by omega), if_pos inside, List.getElem?_eq_getElem written, Option.or]
    · rw [if_neg (by omega), List.getElem?_drop, List.getElem?_eq_none (Nat.le_of_not_lt written),
        Option.none_or]
      congr 1
      omega
  · rw [if_neg inside, List.getElem?_eq_none (by rw [length_overwrite]; omega)]

/-- **Writing keeps an agreement**, whatever the data is beyond it. -/
theorem AgreeBelow.overwrite {data data' : Bytes} (h : AgreeBelow n b b')
    (length : b.length = b'.length) (agree : AgreeBelow n data data') :
    AgreeBelow n (b.overwrite data) (b'.overwrite data') := by
  intro i below
  rw [getElem?_overwrite, getElem?_overwrite, h i below, agree i below, length]

end Bytes

/-! ## Slots -/

namespace Slot

/-- **The slots agree on what is lent of them.** -/
structure AgreeBelow (n : Nat) (s s' : Slot) : Prop where
  lent : s'.lent = s.lent
  contents : Bytes.AgreeBelow n s.contents s'.contents

variable {n : Nat} {s s' : Slot}

theorem AgreeBelow.refl (n : Nat) (s : Slot) : AgreeBelow n s s :=
  ⟨rfl, fun _ _ => rfl⟩

theorem AgreeBelow.release (h : AgreeBelow n s s') : AgreeBelow n s.release s'.release :=
  ⟨rfl, h.contents⟩

theorem AgreeBelow.fill {data data' : Bytes} (h : AgreeBelow n s s')
    (agree : Bytes.AgreeBelow n data data') : AgreeBelow n (s.fill data) (s'.fill data') :=
  ⟨h.lent, h.contents.overwrite (s.length_contents.trans s'.length_contents.symm) agree⟩

/-- **The core is asked the same of both**, and they still agree. -/
theorem AgreeBelow.lend {U : Type} [UsbCore U] (h : AgreeBelow n s s') (usb : U)
    (ep : EndpointAddress) (lease : Lease) :
    (s'.lend usb ep lease).1 = (s.lend usb ep lease).1 ∧
      (s'.lend usb ep lease).2.2 = (s.lend usb ep lease).2.2 ∧
      AgreeBelow n (s.lend usb ep lease).2.1 (s'.lend usb ep lease).2.1 := by
  rcases out : s.lent with _ | _
  · rw [lend_of_home out rfl, lend_of_home (h.lent.trans out) rfl]
    exact ⟨rfl, rfl, rfl, h.contents⟩
  · rw [lend_of_lent out, lend_of_lent (h.lent.trans out)]
    exact ⟨rfl, rfl, h⟩

/-- **What is no longer than a slot can be cut from it.** -/
theorem exists_front? (s : Slot) {length : Nat} (fits : length ≤ slotSize) :
    ∃ front, s.contents.front? length = some front ∧ front.length = length := by
  refine ⟨s.contents.take length, ?_, s.length_take fits⟩
  rw [Bytes.front?, s.length_contents, if_pos fits]

end Slot

/-! ## Pools -/

section Pairs

variable {α : Type} {R : α → α → Prop} {l l' : List α}

/-- What stands at a place of one list stands for what is there in the other. -/
theorem forall₂_getElem? (h : List.Forall₂ R l l') {i : Nat} {a : α} (there : l[i]? = some a) :
    ∃ a', l'[i]? = some a' ∧ R a a' := by
  obtain ⟨inside, rfl⟩ := List.getElem?_eq_some_iff.1 there
  have inside' : i < l'.length := h.length_eq ▸ inside
  exact ⟨l'[i], List.getElem?_eq_getElem inside', h.get inside inside'⟩

theorem forall₂_set (h : List.Forall₂ R l l') {a a' : α} (alike : R a a') (i : Nat) :
    List.Forall₂ R (l.set i a) (l'.set i a') := by
  induction h generalizing i with
  | nil => exact .nil
  | cons first rest ih =>
    cases i with
    | zero => exact .cons alike rest
    | succ i => exact .cons first (ih i)

end Pairs

namespace SlotPool

/-- **The pools differ in octets beyond the lease alone.** -/
structure Alike (p p' : SlotPool) : Prop where
  packetLength : p'.packetLength = p.packetLength
  counts : p'.counts = p.counts
  slots : List.Forall₂ (Slot.AgreeBelow p.packetLength) p.slots p'.slots

theorem Alike.refl (p : SlotPool) : Alike p p :=
  ⟨rfl, rfl, List.forall₂_same.2 fun s _ => .refl _ s⟩

variable {p p' : SlotPool}

theorem Alike.flags (h : Alike p p') : p'.flags = p.flags := by
  have same : List.Forall₂ (fun s s' : Slot => s.lent = s'.lent) p.slots p'.slots :=
    h.slots.imp fun _ _ agree => agree.lent.symm
  rw [eq_comm, SlotPool.flags, SlotPool.flags, ← List.forall₂_eq_eq_eq,
    List.forall₂_map_left_iff, List.forall₂_map_right_iff]
  exact same

/-- What is out under a name in one of them is out in the other. -/
theorem Alike.lentSlot? (h : Alike p p') {buffer : BufferId} {slot : Slot}
    (found : p.lentSlot? buffer = some slot) :
    ∃ slot', p'.lentSlot? buffer = some slot' ∧ Slot.AgreeBelow p.packetLength slot slot' := by
  obtain ⟨there, out, -⟩ := of_lentSlot?_eq_some found
  obtain ⟨slot', there', agree⟩ := forall₂_getElem? h.slots there
  refine ⟨slot', ?_, agree⟩
  rw [SlotPool.lentSlot?, there', Option.filter_some, agree.lent, if_pos out]

theorem Alike.lentSlot?_eq_none (h : Alike p p') {buffer : BufferId}
    (unknown : p.lentSlot? buffer = none) : p'.lentSlot? buffer = none := by
  rw [lentSlot?_eq_none_iff, h.flags, ← lentSlot?_eq_none_iff]
  exact unknown

/-- A slot that is replaced in both is replaced by slots that agree. -/
theorem Alike.set (h : Alike p p') (place : Nat) {slot slot' : Slot}
    (agree : Slot.AgreeBelow p.packetLength slot slot') (counts : TransferCounts) :
    Alike { p with slots := p.slots.set place slot, counts }
      { p' with slots := p'.slots.set place slot', counts } :=
  ⟨h.packetLength, rfl, forall₂_set h.slots agree place⟩

/-- **A round of lending asks the same for both.** -/
theorem armFrom_alike {U : Type} [UsbCore U] (ep : EndpointAddress) (length : Nat) {n : Nat}
    {slots slots' : List Slot} (h : List.Forall₂ (Slot.AgreeBelow n) slots slots') (place : Nat)
    (usb : U) :
    let arming := armFrom ep length place slots usb
    let arming' := armFrom ep length place slots' usb
    arming'.armed = arming.armed ∧ arming'.refused = arming.refused ∧ arming'.usb = arming.usb ∧
      List.Forall₂ (Slot.AgreeBelow n) arming.slots arming'.slots := by
  induction h generalizing place usb with
  | nil => exact ⟨rfl, rfl, rfl, .nil⟩
  | @cons slot slot' _ _ agree _ ih =>
    obtain ⟨lending, after, agrees⟩ := agree.lend usb ep ⟨⟨place⟩, length⟩
    obtain ⟨armed, refused, usb, others⟩ := ih (place + 1) (slot.lend usb ep ⟨⟨place⟩, length⟩).2.2
    simp only [armFrom, Arming.note, lending, after, armed, refused, usb, true_and]
    exact .cons agrees others

/-- **A packet is dealt with the same**: it is as long as the lease at most. -/
theorem Alike.receive {S : Type} [PcmSink S] (h : Alike p p') (sink : S) {slot slot' : Slot}
    (agree : Slot.AgreeBelow p.packetLength slot slot') (report : Report) :
    p'.receive sink slot' report = p.receive sink slot report := by
  rcases ended : report.status with _ | _ | _
  · by_cases fits : report.length ≤ p.packetLength
    · rw [receive_of_fits ended fits, receive_of_fits ended (h.packetLength.symm ▸ fits), h.counts,
        agree.contents.take_eq fits]
    · simp only [SlotPool.receive, ended, h.packetLength, h.counts, if_pos (Nat.lt_of_not_le fits)]
  · simp only [SlotPool.receive, ended, h.counts]
  · simp only [SlotPool.receive, ended, h.counts]

end SlotPool

/-! ## Operations -/

/-- **The same operation**, but that transfers may write different octets beyond
the lease. -/
inductive PoolCall.AgreeBelow (n : Nat) : PoolCall → PoolCall → Prop
  | same (call : PoolCall) : AgreeBelow n call call
  | fill (buffer : BufferId) {data data' : Bytes} (agree : Bytes.AgreeBelow n data data') :
      AgreeBelow n (.fill buffer data) (.fill buffer data')

namespace Receiver

variable {U S : Type} [UsbCore U] [PcmSink S] {r r' : Receiver U S}

/-- **The receivers differ in octets beyond the lease alone.** -/
structure Alike (r r' : Receiver U S) : Prop where
  pool : SlotPool.Alike r.pool r'.pool
  usb : r'.usb = r.usb
  sink : r'.sink = r.sink

theorem Alike.complete (h : Alike r r') (a : Arrival) :
    (r'.complete a).1 = (r.complete a).1 ∧ Alike (r.complete a).2 (r'.complete a).2 := by
  cases meets r a with
  | ignored unknown next =>
    rw [next, complete_of_unknown (h.pool.lentSlot?_eq_none unknown)]
    exact ⟨rfl, h⟩
  | stale found idle next =>
    obtain ⟨slot', found', agree⟩ := h.pool.lentSlot? found
    rw [next, complete_of_idle found' idle, h.pool.counts]
    exact ⟨rfl, h.pool.set _ agree.release _, h.usb, h.sink⟩
  | running found running next =>
    obtain ⟨slot', found', agree⟩ := h.pool.lentSlot? found
    have lease : r'.pool.lease a.report.buffer.place = r.pool.lease a.report.buffer.place := by
      rw [SlotPool.lease, SlotPool.lease, h.pool.packetLength]
    obtain ⟨lending, after, agrees⟩ :=
      agree.release.lend r.usb a.ep (r.pool.lease a.report.buffer.place)
    rw [next, complete_of_running found' running, h.usb, h.sink, lease,
      h.pool.receive r.sink agree.release, lending, after]
    exact ⟨rfl, h.pool.set _ agrees _, rfl, rfl⟩

theorem Alike.fill (h : Alike r r') (buffer : BufferId) {data data' : Bytes}
    (agree : Bytes.AgreeBelow r.pool.packetLength data data') :
    (r'.perform (.fill buffer data')).1 = (r.perform (.fill buffer data)).1 ∧
      Alike (r.perform (.fill buffer data)).2 (r'.perform (.fill buffer data')).2 := by
  rcases found : r.pool.lentSlot? buffer with _ | slot
  · have unknown := h.pool.lentSlot?_eq_none found
    simp only [perform, SlotPool.fill, found, unknown]
    exact ⟨trivial, h⟩
  · obtain ⟨slot', found', agrees⟩ := h.pool.lentSlot? found
    simp only [perform, SlotPool.fill, found, found', h.pool.counts]
    exact ⟨trivial, h.pool.set _ (agrees.fill agree) _, h.usb, h.sink⟩

/-- **Every operation answers alike receivers the same**, and leaves them
alike. -/
theorem Alike.perform (h : Alike r r') {call call' : PoolCall}
    (agree : PoolCall.AgreeBelow r.pool.packetLength call call') :
    (r'.perform call').1 = (r.perform call).1 ∧ Alike (r.perform call).2 (r'.perform call').2 := by
  cases agree with
  | fill buffer agree => exact h.fill buffer agree
  | same =>
    cases call with
    | armIdle ep =>
      obtain ⟨armed, refused, usb, slots⟩ :=
        SlotPool.armFrom_alike ep r.pool.packetLength h.pool.slots 0 r.usb
      simp only [Receiver.perform, SlotPool.armIdle, h.usb, h.pool.packetLength, h.pool.counts,
        armed, refused, usb, true_and]
      exact ⟨⟨rfl, rfl, slots⟩, rfl, h.sink⟩
    | complete a =>
      obtain ⟨outcome, alike⟩ := h.complete a
      exact ⟨congrArg PoolAnswer.completion outcome, alike⟩
    | fill buffer data => exact h.fill buffer fun _ _ => rfl
    | releaseAll =>
      have home : List.Forall₂ (Slot.AgreeBelow r.pool.packetLength)
          (r.pool.slots.map Slot.release) (r'.pool.slots.map Slot.release) := by
        rw [List.forall₂_map_left_iff, List.forall₂_map_right_iff]
        exact h.pool.slots.imp fun _ _ agree => agree.release
      exact ⟨rfl, ⟨h.pool.packetLength, h.pool.counts, home⟩, h.usb, h.sink⟩
    | resetCounts => exact ⟨rfl, ⟨h.pool.packetLength, rfl, h.pool.slots⟩, h.usb, h.sink⟩

/-- **So does a run of operations.** -/
theorem Alike.run (h : Alike r r') {calls calls' : List PoolCall}
    (agree : List.Forall₂ (PoolCall.AgreeBelow r.pool.packetLength) calls calls') :
    (r'.run calls').1 = (r.run calls).1 ∧ Alike (r.run calls).2 (r'.run calls').2 := by
  generalize fixed : r.pool.packetLength = n at agree
  induction agree generalizing r r' with
  | nil => exact ⟨rfl, h⟩
  | @cons call call' _ _ first _ ih =>
    obtain ⟨answer, next⟩ := h.perform (fixed.symm ▸ first)
    obtain ⟨answers, last⟩ := ih next ((r.packetLength_perform call).trans fixed)
    exact ⟨List.cons_eq_cons.2 ⟨answer, answers⟩, last⟩

end Receiver

/-! ## What is read -/

section Reads

variable {U S : Type} [UsbCore U] [PcmSink S]

/-- **What an operation has the sink read**: nothing, or the packet that was
reported, as long as it was reported, from the front of its slot. -/
inductive Receiver.Reads (r : Receiver U S) : PoolCall → List SinkCall → Prop
  | nothing (call : PoolCall) : Reads r call []
  | packet {a : Arrival} {slot : Slot} {packet : Bytes} (intake : Intake)
      (found : r.pool.lentSlot? a.report.buffer = some slot)
      (fits : a.report.length ≤ r.pool.packetLength)
      (cut : slot.contents.front? a.report.length = some packet)
      (whole : packet.length = a.report.length) :
      Reads r (.complete a) [.accept packet intake]

/-- A sink is offered no packet, or one of the length that was reported. -/
theorem SlotPool.receive_reads (p : SlotPool) (sink : Watched S SinkCall) (slot : Slot)
    (report : Report) :
    (p.receive sink slot report).2.2.calls = sink.calls ∨
      ∃ packet intake, report.length ≤ p.packetLength ∧
        slot.contents.front? report.length = some packet ∧ packet.length = report.length ∧
        (p.receive sink slot report).2.2.calls = sink.calls ++ [.accept packet intake] := by
  obtain ⟨-, -, told⟩ := p.receive_judged sink slot report
  simp only [judge] at told
  split at told
  · exact .inl (told.trans (List.append_nil _))
  · split at told
    · exact .inl (told.trans (List.append_nil _))
    · rename_i fits
      split at told
      · exact .inl (told.trans (List.append_nil _))
      · have fits := Nat.le_of_not_lt fits
        have inside := Nat.le_trans fits p.packetLength_le
        refine .inr ⟨_, _, fits, ?_, slot.length_take inside, told⟩
        rw [Bytes.front?, slot.length_contents, if_pos inside]

/-- **Only a report has the sink read something.** -/
theorem Receiver.reads_perform (r : Receiver U (Watched S SinkCall)) (call : PoolCall) :
    Reads r call (r.sink.since (r.perform call).2.sink) := by
  cases call with
  | complete a =>
    change Reads r (.complete a) (r.sink.since (r.complete a).2.sink)
    cases meets r a with
    | ignored _ next =>
      rw [next, Watched.since_self]
      exact .nothing _
    | stale _ _ next =>
      rw [next, Watched.since_self]
      exact .nothing _
    | @running slot found _ next =>
      rw [next]
      rcases r.pool.receive_reads r.sink slot.release a.report with
        unread | ⟨packet, intake, fits, cut, whole, read⟩
      · rw [Watched.since_of_append [] (unread.trans (List.append_nil _).symm)]
        exact .nothing _
      · rw [Watched.since_of_append _ read]
        exact .packet intake found fits cut whole
  | armIdle | fill | releaseAll | resetCounts =>
    exact (Watched.since_self r.sink).symm ▸ .nothing _

/-- Between the two the core was lent as much as is settled, every time. -/
def Receiver.Lends (r r' : Receiver (Watched U CoreCall) S) : Prop :=
  ∃ made, r'.usb.calls = r.usb.calls ++ made ∧
    ∀ ep lease taken, .submitReceive ep lease taken ∈ made → lease.length = r.pool.packetLength

omit [UsbCore U] [PcmSink S] in
theorem Receiver.Lends.of_usb_eq {r r' : Receiver (Watched U CoreCall) S} (same : r'.usb = r.usb) :
    Lends r r' :=
  ⟨[], by rw [same, List.append_nil], fun _ _ _ mem => (List.not_mem_nil mem).elim⟩

theorem Receiver.lends_perform (r : Receiver (Watched U CoreCall) S) (call : PoolCall) :
    Lends r (r.perform call).2 := by
  cases call with
  | armIdle ep =>
    obtain ⟨made, asked, arms⟩ :=
      SlotPool.arms_armFrom ep r.pool.packetLength 0 r.pool.slots r.usb
    refine ⟨made, asked, fun ep lease taken mem => ?_⟩
    obtain ⟨place, _, asks, -⟩ := arms.asks (List.mem_filterMap.2 ⟨_, mem, rfl⟩)
    cases asks
    rfl
  | complete a =>
    change Lends r (r.complete a).2
    cases meets r a with
    | ignored _ next => exact .of_usb_eq (by rw [next])
    | stale _ _ next => exact .of_usb_eq (by rw [next])
    | @running slot _ _ next =>
      obtain ⟨taken, asked, -⟩ :=
        Slot.lend_watched slot.lent_release r.usb a.ep (r.pool.lease a.report.buffer.place)
      rw [next]
      refine ⟨_, asked, fun ep lease taken mem => ?_⟩
      cases List.mem_singleton.1 mem
      rfl
  | fill | releaseAll | resetCounts => exact .of_usb_eq rfl

theorem Receiver.lends_run (r : Receiver (Watched U CoreCall) S) (calls : List PoolCall) :
    Lends r (r.run calls).2 := by
  induction calls generalizing r with
  | nil => exact .of_usb_eq rfl
  | cons call calls ih =>
    obtain ⟨made, asked, lends⟩ := r.lends_perform call
    obtain ⟨later, asked', lends'⟩ := ih (r.perform call).2
    refine ⟨made ++ later, ?_, fun ep lease taken mem => ?_⟩
    · rw [← List.append_assoc, ← asked]
      exact asked'
    · rcases List.mem_append.1 mem with now | after
      · exact lends ep lease taken now
      · exact (lends' ep lease taken after).trans (r.packetLength_perform call)

/-- **Octets beyond the lease are never read.** Of two runs with the same
operations, in which transfers write the same octets below the lease and
anything beyond it, every answer is the same, and so is what the core and
the sink were asked, with every octet that was offered, which slots are out
and what was counted. Core and sink are any two that both runs start with,
be it that they go by what they are asked or that they read their answers
from a script. A packet that is offered is as long as it was reported;
whatever is lent or read is within the lease, and so much can be cut from
any slot, so that no stretch of a slot is ever missing. -/
theorem unlent_octets_are_never_read (usb : U) (sink : S) (size packetLength : Nat) :
    let start := Receiver.mk (.idle size packetLength) (Watched.of usb : Watched U CoreCall)
      (Watched.of sink : Watched S SinkCall)
    let lent := start.pool.packetLength
    (∀ calls calls', List.Forall₂ (PoolCall.AgreeBelow lent) calls calls' →
      let last := (start.run calls).2
      let last' := (start.run calls').2
      (start.run calls').1 = (start.run calls).1 ∧ last'.usb = last.usb ∧
        last'.sink = last.sink ∧ last'.pool.flags = last.pool.flags ∧
        last'.pool.counts = last.pool.counts) ∧
    ∀ calls,
      let last := (start.run calls).2
      last.pool.packetLength = lent ∧
        (∀ ep lease taken, .submitReceive ep lease taken ∈ last.usb.calls → lease.length = lent) ∧
        (∀ slot ∈ last.pool.slots, ∀ length ≤ lent,
          ∃ front, slot.contents.front? length = some front ∧ front.length = length) ∧
        ∀ call, last.Reads call (last.sink.since (last.perform call).2.sink) := by
  intro start lent
  refine ⟨fun calls calls' agree => ?_,
    fun calls => ⟨start.packetLength_run calls, ?_, ?_, Receiver.reads_perform _⟩⟩
  · have alike : Receiver.Alike start start := ⟨.refl _, rfl, rfl⟩
    obtain ⟨answers, last⟩ := alike.run agree
    exact ⟨answers, last.usb, last.sink, last.pool.flags, last.pool.counts⟩
  · obtain ⟨made, asked, lends⟩ := start.lends_run calls
    rw [asked]
    exact lends
  · exact fun slot _ length within =>
      slot.exists_front? (Nat.le_trans within start.pool.packetLength_le)

end Reads

/-- A core that takes what it is asked to take, but for the second buffer, and
a sink that has no room for its second packet. -/
def choosy : Receiver (Watched Script.Core CoreCall) (Watched Script.Sink SinkCall) :=
  ⟨.idle 2 4, .of ⟨[], [true, false, true, true, true]⟩, .of ⟨[.accepted, .rejected]⟩⟩

/-- A slot of four octets is filled with as much, or past its end, and
reported as three octets, as four and as five. -/
def overfilled (past : Bytes) : List PoolCall :=
  let reported (length : Nat) : PoolCall :=
    .complete ⟨.ofNumber 1 .hostToDevice, ⟨.success, length, ⟨0⟩⟩, true⟩
  [.armIdle (.ofNumber 1 .hostToDevice), .fill ⟨0⟩ ([1, 2, 3, 4] ++ past), reported 3,
    .fill ⟨0⟩ [5, 6], reported 4, reported 5]

/-- Nobody can tell what was written past the end. -/
theorem unlent_octets_are_never_read_overfilled :
    List.Forall₂ (PoolCall.AgreeBelow choosy.pool.packetLength) (overfilled [])
        (overfilled (List.replicate 2000 9)) ∧
      (choosy.run (overfilled (List.replicate 2000 9))).1 = (choosy.run (overfilled [])).1 ∧
      (choosy.run (overfilled (List.replicate 2000 9))).2.sink.calls =
        [.accept [1, 2, 3] .accepted, .accept [5, 6, 3, 4] .rejected] ∧
      (choosy.run (overfilled [])).1 = [.armed 1, .filled true, .completion .forwarded,
        .filled true, .completion .dropped, .completion .oversized] := by
  have agree (past : Bytes) :
      List.Forall₂ (PoolCall.AgreeBelow choosy.pool.packetLength) (overfilled [])
        (overfilled past) := by
    refine .cons (.same _) (.cons (.fill _ fun i below => ?_)
      (List.forall₂_same.2 fun _ _ => .same _))
    have below : i < ([1, 2, 3, 4] : Bytes).length := below
    rw [List.getElem?_append_left below, List.getElem?_append_left below]
  have law := unlent_octets_are_never_read (U := Script.Core) (S := Script.Sink)
    ⟨[], [true, false, true, true, true]⟩ ⟨[.accepted, .rejected]⟩ 2 4
  rw [← choosy] at law
  obtain ⟨same, -⟩ := law
  obtain ⟨answers, -, read, -⟩ := same _ _ (agree (List.replicate 2000 9))
  have offered : (choosy.run (overfilled [])).2.sink.calls =
      [.accept [1, 2, 3] .accepted, .accept [5, 6, 3, 4] .rejected] := by decide +kernel
  have answered : (choosy.run (overfilled [])).1 = [.armed 1, .filled true,
      .completion .forwarded, .filled true, .completion .dropped, .completion .oversized] := by
    decide +kernel
  exact ⟨agree _, answers, (congrArg Watched.calls read).trans offered, answered⟩

end AudioGadget
