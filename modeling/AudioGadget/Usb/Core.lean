import AudioGadget.Bytes
import AudioGadget.Usb.Endpoint
/-!
# Core — the device controller, as the audio function sees it

The controller hands out endpoints and takes receive buffers: from the
moment a buffer is submitted until its completion is reported, its
octets belong to the controller. All the audio function knows of a lent
buffer afterwards is where it starts, so that is a buffer's identity.

`UsbCore` lists what a controller can be asked. Its answers are its own:
nothing here fixes when it refuses, and every law of the audio function
is about all controllers.
-/

namespace AudioGadget

/-- Where a buffer starts, which is all that identifies it. Places are
counted in whatever its owner lays out: octets of a block, slots of a
pool. -/
structure BufferId where
  place : Nat
deriving DecidableEq, Repr

/-- How far the second buffer starts behind the first. -/
def BufferId.offset (a b : BufferId) : Int :=
  b.place - a.place

/-- A stretch of a memory block, from `start` up to `stop`. -/
structure Stretch where
  start : Nat
  stop : Nat
deriving DecidableEq, Repr

/-- **Stretches that start together are the same buffer**, however long. -/
def Stretch.id (s : Stretch) : BufferId :=
  ⟨s.start⟩

/-- The front of a buffer, lent for one reception. -/
structure Lease where
  buffer : BufferId
  length : Nat
deriving DecidableEq, Repr

/-- How a reception ended. -/
inductive TransferStatus where
  /-- The reported number of octets arrived. -/
  | success
  /-- The packet was damaged or missed. -/
  | error
  /-- The transfer was taken back, by a bus reset or a closed endpoint. -/
  | cancelled
deriving DecidableEq, Repr

/-- A controller with state `σ`. -/
class UsbCore (σ : Type) where
  /-- Reserve an endpoint that carries packets of the given size. -/
  allocEndpoint : σ → TransferType → Direction → Nat → Option EndpointAddress × σ
  /-- Lend a buffer to receive the next packet. `false` is a refusal: the
  buffer stays with the caller. -/
  submitReceive : σ → EndpointAddress → Lease → Bool × σ
  /-- Call off every reception queued on an endpoint. Completions may
  still be reported. -/
  cancel : σ → EndpointAddress → σ

end AudioGadget
