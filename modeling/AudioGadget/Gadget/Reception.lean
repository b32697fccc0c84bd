import AudioGadget.Gadget.Basic
/-!
# Reception — completions come in

The core reports each reception on the endpoint it was queued on. Only
the function's own endpoint counts, and only in the direction from the
host; everything else is ignored. Nothing is noted in the log here.
-/

namespace AudioGadget.Gadget

variable {U S C : Type}

/-- **Deal with a reported reception.** -/
def transferComplete [UsbCore U] [PcmSink S] (g : Gadget U S C) (ep : EndpointAddress)
    (direction : Direction) (report : Report) : Completion × Gadget U S C :=
  if g.endpoint = some ep ∧ direction = .hostToDevice then
    let (outcome, pool, usb, sink) := g.pool.complete g.usb g.sink ep report g.isOperational
    (outcome, { g with pool, usb, sink })
  else
    (.ignored, g)

/-- What the core's transfers write into a slot that is out, and whether
there is such a slot. -/
def fillInFlight (g : Gadget U S C) (buffer : BufferId) (data : Bytes) :
    Bool × Gadget U S C :=
  let (found, pool) := g.pool.fill buffer data
  (found, { g with pool })

/-- A report on anything but the function's endpoint changes nothing. -/
theorem transferComplete_of_foreign [UsbCore U] [PcmSink S] {g : Gadget U S C}
    {ep : EndpointAddress} (h : g.endpoint ≠ some ep) (direction : Direction)
    (report : Report) : g.transferComplete ep direction report = (.ignored, g) := by
  simp [transferComplete, h]

end AudioGadget.Gadget
