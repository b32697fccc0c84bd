import AudioGadget.Pcm.Format
import AudioGadget.Usb.Core
/-!
# Slot — one receive buffer and who owns it

A slot's buffer is the function's own, or it is lent to the core. Only
an own buffer may be lent, and only a lent one is filled, so `lend` and
`fill` each look at the flag first.
-/

namespace AudioGadget

/-- Octets in a receive buffer: a full-speed isochronous packet. -/
def slotSize : Nat := isoPacketLimit

/-- What became of an offer to lend. -/
inductive Lending where
  /-- The core had the buffer already and was not asked. -/
  | kept
  /-- The core took the buffer. -/
  | taken
  /-- The core would not take it. -/
  | refused
deriving DecidableEq, Repr

/-- A receive buffer and whether the core has it. -/
structure Slot where
  contents : Bytes
  /-- Whether the buffer is the core's for now. -/
  lent : Bool
  length_contents : contents.length = slotSize
deriving DecidableEq

namespace Slot

/-- A fresh buffer of our own. -/
def fresh : Slot :=
  ⟨List.replicate slotSize 0, false, List.length_replicate ..⟩

instance : Inhabited Slot := ⟨fresh⟩

/-- The buffer is lent. -/
def mark (s : Slot) : Slot :=
  { s with lent := true }

/-- The buffer is our own again. -/
def release (s : Slot) : Slot :=
  { s with lent := false }

/-- Lend the front of the buffer for the next packet on `ep`. A slot that
is out stays out, and the core is not asked twice. -/
def lend {U : Type} [UsbCore U] (s : Slot) (usb : U) (ep : EndpointAddress) (lease : Lease) :
    Lending × Slot × U :=
  if s.lent then
    (.kept, s, usb)
  else
    match UsbCore.submitReceive usb ep lease with
    | (true, usb) => (.taken, s.mark, usb)
    | (false, usb) => (.refused, s, usb)

/-- What the core's transfers write into the buffer. Data past its end is
lost, octets past the data stay. -/
def fill (s : Slot) (data : Bytes) : Slot :=
  { s with
    contents := Bytes.overwrite s.contents data
    length_contents := by rw [Bytes.length_overwrite, s.length_contents] }

@[simp] theorem lent_mark (s : Slot) : s.mark.lent = true := rfl

@[simp] theorem lent_release (s : Slot) : s.release.lent = false := rfl

@[simp] theorem lent_fill (s : Slot) (data : Bytes) : (s.fill data).lent = s.lent := rfl

/-- As much as a slot holds can be taken from it. -/
theorem length_take (s : Slot) {length : Nat} (fits : length ≤ slotSize) :
    (s.contents.take length).length = length := by
  rw [List.length_take, s.length_contents]
  omega

/-- **A slot that is out is not lent twice.** -/
theorem lend_of_lent {U : Type} [UsbCore U] {s : Slot} (h : s.lent = true) (usb : U)
    (ep : EndpointAddress) (lease : Lease) : s.lend usb ep lease = (.kept, s, usb) := by
  rw [lend, if_pos h]

/-- Afterwards the slot is out, unless the core refused it. -/
theorem lent_lend {U : Type} [UsbCore U] (s : Slot) (usb : U) (ep : EndpointAddress)
    (lease : Lease) :
    (s.lend usb ep lease).2.1.lent = true ↔ (s.lend usb ep lease).1 ≠ .refused := by
  simp only [lend]
  split
  · simpa
  · split <;> simp_all

end Slot

end AudioGadget
