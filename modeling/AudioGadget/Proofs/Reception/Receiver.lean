import AudioGadget.Proofs.Reception.Account
/-!
# Receiver — a pool between its core and its sink

A pool asks its core to take slots and offers its sink what came in them.
A receiver is a pool together with these two, so that a run of operations
on a pool is a function of one state. It is smaller than a gadget: whether
the stream runs, and on which endpoint, it is told with every arrival.

`Meets` lists what becomes of an arrival, and `meets` says that this is
all. The laws of a pool on its own are read off it.
-/

namespace AudioGadget

open Bench

/-- A reception as a pool is told of it. -/
structure Arrival where
  /-- The endpoint that it came in on, and that the slot is lent on again. -/
  ep : EndpointAddress
  report : Report
  /-- Whether the stream runs. -/
  operational : Bool
deriving DecidableEq

/-- One operation on a pool. -/
inductive PoolCall where
  | armIdle (ep : EndpointAddress)
  | complete (arrival : Arrival)
  /-- The core's transfers write into a slot that is out. -/
  | fill (buffer : BufferId) (data : Bytes)
  | releaseAll
  | resetCounts
deriving DecidableEq

/-- What it answers. -/
inductive PoolAnswer where
  | done
  /-- So many slots were idle and are out now. -/
  | armed (slots : Nat)
  | completion (outcome : Completion)
  | filled (found : Bool)
deriving DecidableEq

/-- A pool, the core that it lends to and the sink that it serves. -/
structure Receiver (U S : Type) where
  pool : SlotPool
  usb : U
  sink : S

namespace Receiver

variable {U S : Type} [UsbCore U] [PcmSink S]

/-- Deal with a reception that the pool is told of. -/
def complete (r : Receiver U S) (a : Arrival) : Completion × Receiver U S :=
  let (outcome, pool, usb, sink) := r.pool.complete r.usb r.sink a.ep a.report a.operational
  (outcome, ⟨pool, usb, sink⟩)

/-- Perform one operation. -/
def perform (r : Receiver U S) : PoolCall → PoolAnswer × Receiver U S
  | .armIdle ep =>
    let (slots, pool, usb) := r.pool.armIdle r.usb ep
    (.armed slots, { r with pool, usb })
  | .complete a =>
    let (outcome, r) := r.complete a
    (.completion outcome, r)
  | .fill buffer data =>
    let (found, pool) := r.pool.fill buffer data
    (.filled found, { r with pool })
  | .releaseAll => (.done, { r with pool := r.pool.releaseAll })
  | .resetCounts => (.done, { r with pool := r.pool.resetCounts })

/-- Perform operations in order: their answers and the receiver after the
last. -/
def run (r : Receiver U S) : List PoolCall → List PoolAnswer × Receiver U S
  | [] => ([], r)
  | call :: calls =>
    let (answer, r) := r.perform call
    let (answers, last) := r.run calls
    (answer :: answers, last)

/-! ## One arrival -/

/-- **What becomes of an arrival.** While the stream runs, the packet is
dealt with first, and then the slot is offered again. -/
inductive Meets (r : Receiver U S) (a : Arrival) : Prop
  /-- Its name is not out. -/
  | ignored (unknown : r.pool.lentSlot? a.report.buffer = none)
      (next : r.complete a = (.ignored, r))
  /-- There is no stream: the slot comes home, its packet unread. -/
  | stale {slot : Slot} (found : r.pool.lentSlot? a.report.buffer = some slot)
      (idle : a.operational = false)
      (next : r.complete a = (.stale, { r with pool := { r.pool with
        slots := r.pool.slots.set a.report.buffer.place slot.release
        counts := r.pool.counts.stale } }))
  /-- The stream runs. -/
  | running {slot : Slot} (found : r.pool.lentSlot? a.report.buffer = some slot)
      (running : a.operational = true)
      (next :
        let received := r.pool.receive r.sink slot.release a.report
        let offer := slot.release.lend r.usb a.ep (r.pool.lease a.report.buffer.place)
        r.complete a = (received.1,
          { pool := { r.pool with
              slots := r.pool.slots.set a.report.buffer.place offer.2.1
              counts := if offer.1 = .refused then received.2.1.refused else received.2.1 }
            usb := offer.2.2
            sink := received.2.2 }))

/-- An arrival under a name that is not out is ignored. -/
theorem complete_of_unknown {r : Receiver U S} {a : Arrival}
    (unknown : r.pool.lentSlot? a.report.buffer = none) : r.complete a = (.ignored, r) := by
  rw [complete, SlotPool.complete_of_lentSlot?_eq_none unknown]

/-- Without a stream the slot comes home. -/
theorem complete_of_idle {r : Receiver U S} {a : Arrival} {slot : Slot}
    (found : r.pool.lentSlot? a.report.buffer = some slot) (idle : a.operational = false) :
    r.complete a = (.stale, { r with pool := { r.pool with
      slots := r.pool.slots.set a.report.buffer.place slot.release
      counts := r.pool.counts.stale } }) := by
  rw [complete, idle, SlotPool.complete_of_idle found]

/-- While the stream runs it is offered again. -/
theorem complete_of_running {r : Receiver U S} {a : Arrival} {slot : Slot}
    (found : r.pool.lentSlot? a.report.buffer = some slot) (running : a.operational = true) :
    let received := r.pool.receive r.sink slot.release a.report
    let offer := slot.release.lend r.usb a.ep (r.pool.lease a.report.buffer.place)
    r.complete a = (received.1,
      { pool := { r.pool with
          slots := r.pool.slots.set a.report.buffer.place offer.2.1
          counts := if offer.1 = .refused then received.2.1.refused else received.2.1 }
        usb := offer.2.2
        sink := received.2.2 }) := by
  rw [complete, running, SlotPool.complete_of_running found]

/-- **Every arrival is one of these.** -/
theorem meets (r : Receiver U S) (a : Arrival) : Meets r a := by
  rcases found : r.pool.lentSlot? a.report.buffer with _ | slot
  · exact .ignored found (complete_of_unknown found)
  · rcases streams : a.operational with _ | _
    · exact .stale found streams (complete_of_idle found streams)
    · exact .running found streams (complete_of_running found streams)

/-! ## What no operation changes -/

theorem packetLength_complete (r : Receiver U S) (a : Arrival) :
    (r.complete a).2.pool.packetLength = r.pool.packetLength := by
  cases meets r a with
  | ignored _ next => rw [next]
  | stale _ _ next => rw [next]
  | running _ _ next => rw [next]

/-- **What is lent of a slot is settled from the start.** -/
theorem packetLength_perform (r : Receiver U S) (call : PoolCall) :
    (r.perform call).2.pool.packetLength = r.pool.packetLength := by
  cases call with
  | complete a => exact r.packetLength_complete a
  | fill buffer data => exact r.pool.packetLength_fill buffer data
  | armIdle | releaseAll | resetCounts => rfl

theorem packetLength_run (r : Receiver U S) (calls : List PoolCall) :
    (r.run calls).2.pool.packetLength = r.pool.packetLength := by
  induction calls generalizing r with
  | nil => rfl
  | cons call calls ih => exact (ih _).trans (r.packetLength_perform call)

end Receiver

end AudioGadget
