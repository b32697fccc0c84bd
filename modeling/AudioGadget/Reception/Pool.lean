import AudioGadget.Playback.Sink
import AudioGadget.Reception.Counts
import AudioGadget.Reception.Slot
/-!
# Pool — the receive buffers of a stream

The pool keeps its slots lent while a stream runs: `armIdle` lends them
all when it starts, and `complete` lends each one again as soon as its
packet is dealt with, whatever became of the packet. A slot is named by
its place in the pool.

A completion is sorted into one of six kinds (`Completion`), and every
kind but one shows in the counters.
-/

namespace AudioGadget

/-- What became of a reported reception. -/
inductive Completion where
  /-- The packet went to the sink. -/
  | forwarded
  /-- The sink had no room for it. -/
  | dropped
  /-- The reception failed or was called off. -/
  | errored
  /-- More octets were reported than the buffer lent. -/
  | oversized
  /-- There is no stream; the slot is ours again. -/
  | stale
  /-- No buffer of ours is out under that name. -/
  | ignored
deriving DecidableEq, Repr

/-- What the core reports about a reception. -/
structure Report where
  status : TransferStatus
  length : Nat
  buffer : BufferId
deriving DecidableEq, Repr

/-- The receive slots of a function and the counters of its connection. -/
structure SlotPool where
  slots : List Slot
  /-- Octets lent for one reception. -/
  packetLength : Nat
  packetLength_le : packetLength ≤ slotSize
  counts : TransferCounts
deriving DecidableEq

namespace SlotPool

/-- A pool of idle slots that lend `packetLength` octets each, or their
whole buffer where that is shorter. -/
def idle (size packetLength : Nat) : SlotPool :=
  ⟨List.replicate size .fresh, min packetLength slotSize, Nat.min_le_right _ _, default⟩

/-- Forget what was counted. -/
def resetCounts (p : SlotPool) : SlotPool :=
  { p with counts := .zero }

/-- How many slots the core has. -/
def busyCount (p : SlotPool) : Nat :=
  p.slots.countP Slot.lent

/-- The lease on the slot at a place. -/
def lease (p : SlotPool) (place : Nat) : Lease :=
  ⟨⟨place⟩, p.packetLength⟩

/-- The slot that is out under a name, if there is one. -/
def lentSlot? (p : SlotPool) (buffer : BufferId) : Option Slot :=
  p.slots[buffer.place]?.filter Slot.lent

/-- Take every slot back. The core has let go of them all. -/
def releaseAll (p : SlotPool) : SlotPool :=
  { p with slots := p.slots.map Slot.release }

/-! ## Lending every idle slot -/

/-- What a round of lending brought. -/
structure Arming (U : Type) where
  slots : List Slot
  /-- Slots that were idle and are out now. -/
  armed : Nat
  /-- Slots that the core would not take. -/
  refused : Nat
  usb : U

/-- Note one more offer, made before the others. -/
def Arming.note {U : Type} (later : Arming U) (lending : Lending) (slot : Slot) : Arming U :=
  { later with
    slots := slot :: later.slots
    armed := later.armed + if lending = .taken then 1 else 0
    refused := later.refused + if lending = .refused then 1 else 0 }

/-- Lend the idle ones of `slots`, the first of which is at `place`. -/
def armFrom {U : Type} [UsbCore U] (ep : EndpointAddress) (length : Nat) :
    Nat → List Slot → U → Arming U
  | _, [], usb => ⟨[], 0, 0, usb⟩
  | place, slot :: rest, usb =>
    let (lending, slot, usb) := slot.lend usb ep ⟨⟨place⟩, length⟩
    (armFrom ep length (place + 1) rest usb).note lending slot

/-- **Lend every idle slot, in order**, and say how many were taken. -/
def armIdle {U : Type} [UsbCore U] (p : SlotPool) (usb : U) (ep : EndpointAddress) :
    Nat × SlotPool × U :=
  let arming := armFrom ep p.packetLength 0 p.slots usb
  (arming.armed,
    { p with
      slots := arming.slots
      counts := { p.counts with rearmFailures := p.counts.rearmFailures.add arming.refused } },
    arming.usb)

/-! ## One completion -/

/-- Offer a received packet to the sink. A packet without octets is not
offered, and not counted. -/
def forward {S : Type} [PcmSink S] (counts : TransferCounts) (sink : S) (packet : Bytes) :
    Completion × TransferCounts × S :=
  if packet.isEmpty then
    (.forwarded, counts, sink)
  else
    match PcmSink.accept sink packet with
    | (.accepted, sink) => (.forwarded, counts.accepted packet.length, sink)
    | (.rejected, sink) => (.dropped, counts.dropped, sink)

/-- Deal with the contents of a slot that came back while streaming. A
length beyond the lease is a fault of the core: nothing of it is read. -/
def receive {S : Type} [PcmSink S] (p : SlotPool) (sink : S) (slot : Slot) (report : Report) :
    Completion × TransferCounts × S :=
  match report.status with
  | .success =>
    if p.packetLength < report.length then
      (.oversized, p.counts.oversized, sink)
    else
      forward p.counts sink (slot.contents.take report.length)
  | .error => (.errored, p.counts.errored, sink)
  | .cancelled => (.errored, p.counts.errored, sink)

/-- **Deal with a reported reception.** While the stream runs the slot is
lent again before this returns, whatever became of its packet; without a
stream it comes home. A name that is not out is ignored. -/
def complete {U S : Type} [UsbCore U] [PcmSink S] (p : SlotPool) (usb : U) (sink : S)
    (ep : EndpointAddress) (report : Report) (operational : Bool) :
    Completion × SlotPool × U × S :=
  match p.lentSlot? report.buffer with
  | none => (.ignored, p, usb, sink)
  | some slot =>
    let slot := slot.release
    let place := report.buffer.place
    if operational then
      let (outcome, counts, sink) := p.receive sink slot report
      let (lending, slot, usb) := slot.lend usb ep (p.lease place)
      let counts := if lending = .refused then counts.refused else counts
      (outcome, { p with slots := p.slots.set place slot, counts }, usb, sink)
    else
      (.stale, { p with slots := p.slots.set place slot, counts := p.counts.stale }, usb, sink)

/-- What the core's transfers write into a slot that is out, and whether
there is such a slot. -/
def fill (p : SlotPool) (buffer : BufferId) (data : Bytes) : Bool × SlotPool :=
  match p.lentSlot? buffer with
  | none => (false, p)
  | some slot => (true, { p with slots := p.slots.set buffer.place (slot.fill data) })

/-! ## What the operations keep -/

/-- **After a round of lending the idle slots are the refused ones.** -/
theorem armFrom_refused {U : Type} [UsbCore U] (ep : EndpointAddress) (length place : Nat)
    (slots : List Slot) (usb : U) :
    (armFrom ep length place slots usb).slots.countP (fun s => !s.lent) =
      (armFrom ep length place slots usb).refused := by
  induction slots generalizing place usb with
  | nil => rfl
  | cons slot rest ih =>
    have out := slot.lent_lend usb ep ⟨⟨place⟩, length⟩
    simp only [armFrom, Arming.note, List.countP_cons, ih]
    by_cases refused : (slot.lend usb ep ⟨⟨place⟩, length⟩).1 = .refused <;> simp_all

@[simp] theorem busyCount_releaseAll (p : SlotPool) : p.releaseAll.busyCount = 0 := by
  simp [busyCount, releaseAll, List.countP_map]

/-- **What a transfer writes into a slot is not counted**, and what is lent stays
as long. -/
@[simp] theorem counts_fill (p : SlotPool) (buffer : BufferId) (data : Bytes) :
    (p.fill buffer data).2.counts = p.counts := by
  unfold fill
  split <;> rfl

@[simp] theorem packetLength_fill (p : SlotPool) (buffer : BufferId) (data : Bytes) :
    (p.fill buffer data).2.packetLength = p.packetLength := by
  unfold fill
  split <;> rfl

/-- A completion under a name that is not out changes nothing. -/
theorem complete_of_lentSlot?_eq_none {U S : Type} [UsbCore U] [PcmSink S] {p : SlotPool}
    {report : Report} (h : p.lentSlot? report.buffer = none) (usb : U) (sink : S)
    (ep : EndpointAddress) (operational : Bool) :
    p.complete usb sink ep report operational = (.ignored, p, usb, sink) := by
  simp [complete, h]

/-- Without a stream the slot comes home, its packet unread. -/
theorem complete_of_idle {U S : Type} [UsbCore U] [PcmSink S] {p : SlotPool} {report : Report}
    {slot : Slot} (found : p.lentSlot? report.buffer = some slot) (usb : U) (sink : S)
    (ep : EndpointAddress) :
    p.complete usb sink ep report false =
      (.stale,
        { p with
          slots := p.slots.set report.buffer.place slot.release
          counts := p.counts.stale },
        usb, sink) := by
  simp [complete, found]

/-- **While the stream runs** the packet is dealt with first, and then the slot
is offered again. -/
theorem complete_of_running {U S : Type} [UsbCore U] [PcmSink S] {p : SlotPool} {report : Report}
    {slot : Slot} (found : p.lentSlot? report.buffer = some slot) (usb : U) (sink : S)
    (ep : EndpointAddress) :
    let received := p.receive sink slot.release report
    let offer := slot.release.lend usb ep (p.lease report.buffer.place)
    p.complete usb sink ep report true =
      (received.1,
        { p with
          slots := p.slots.set report.buffer.place offer.2.1
          counts := if offer.1 = .refused then received.2.1.refused else received.2.1 },
        offer.2.2, received.2.2) := by
  simp [complete, found]

end SlotPool

end AudioGadget
