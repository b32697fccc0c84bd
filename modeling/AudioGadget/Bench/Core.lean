import AudioGadget.Usb.Core
/-!
# Core — a controller for the bench

A bench controller plays no USB. It hands out endpoint numbers from 1
up, takes every buffer unless told to refuse, and keeps a record: the
first allocations, the latest submissions, and how many calls there
were.
-/

namespace AudioGadget.Bench

/-- One submission that was taken. -/
structure Submission where
  endpoint : EndpointAddress
  lease : Lease
deriving DecidableEq, Repr

/-- One endpoint that was handed out. -/
structure Allocation where
  type : TransferType
  direction : Direction
  maxPacket : Nat
deriving DecidableEq, Repr

/-- A recording controller. -/
structure Core where
  /-- The number the next endpoint gets. -/
  nextNumber : Nat
  /-- Whether no endpoint is left, whatever the number. -/
  exhausted : Bool
  /-- Whether submissions are refused. -/
  refusing : Bool
  submissions : List Submission
  submitCount : Nat
  cancelCount : Nat
  allocations : List Allocation
deriving DecidableEq

namespace Core

/-- A controller that was never asked anything. -/
def fresh : Core :=
  ⟨1, false, false, [], 0, 0, []⟩

instance : Inhabited Core := ⟨fresh⟩

/-- Allocations that are kept, the first ones. -/
def allocationsKept : Nat := 8

/-- Submissions that are kept, the latest ones. -/
def submissionsKept : Nat := 64

/-- Have no endpoint left from now on. -/
def exhaust (c : Core) : Core :=
  { c with exhausted := true }

/-- Refuse submissions, or take them again. -/
def setRefusing (c : Core) (refusing : Bool) : Core :=
  { c with refusing }

/-- Forget the submissions that were kept. The counts stay. -/
def clearSubmissions (c : Core) : Core :=
  { c with submissions := [] }

/-- Hand out the next endpoint, while there is one. -/
def allocEndpoint (c : Core) (type : TransferType) (direction : Direction) (maxPacket : Nat) :
    Option EndpointAddress × Core :=
  if c.exhausted ∨ 15 < c.nextNumber then
    (none, c)
  else
    let all := c.allocations ++ [Allocation.mk type direction maxPacket]
    (some (EndpointAddress.ofNumber c.nextNumber direction),
      { c with
        nextNumber := c.nextNumber + 1
        allocations := all.take allocationsKept })

/-- Take a buffer and keep a record of it, or refuse. -/
def submitReceive (c : Core) (ep : EndpointAddress) (lease : Lease) : Bool × Core :=
  if c.refusing then
    (false, c)
  else
    let all := c.submissions ++ [Submission.mk ep lease]
    (true,
      { c with
        submissions := all.drop (all.length - submissionsKept)
        submitCount := c.submitCount + 1 })

/-- Count a call to cancel. -/
def cancel (c : Core) (_ : EndpointAddress) : Core :=
  { c with cancelCount := c.cancelCount + 1 }

instance : UsbCore Core where
  allocEndpoint := Core.allocEndpoint
  submitReceive := Core.submitReceive
  cancel := Core.cancel

end Core

end AudioGadget.Bench
