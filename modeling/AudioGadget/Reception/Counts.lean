import AudioGadget.Counter
/-!
# Counts — what became of the packets of a connection

Trouble on the isochronous pipe is not reported but counted. Each event
has its own counter, and the counters stop at their limit.
-/

namespace AudioGadget

/-- The transfer counters of one connection. -/
structure TransferCounts where
  /-- Packets the sink took. -/
  packetsAccepted : Counter
  /-- Octets the sink took. -/
  bytesAccepted : Counter
  /-- Packets the sink had no room for. -/
  packetsDropped : Counter
  /-- Receptions that failed or were called off. -/
  transferErrors : Counter
  /-- Receptions that ended without a stream. -/
  staleCompletions : Counter
  /-- Submissions the core refused. -/
  rearmFailures : Counter
  /-- Receptions said to be longer than the lent buffer. -/
  oversizedCompletions : Counter
deriving DecidableEq

namespace TransferCounts

/-- Nothing has happened yet. -/
def zero : TransferCounts :=
  ⟨default, default, default, default, default, default, default⟩

instance : Inhabited TransferCounts := ⟨zero⟩

/-- Count a packet of `length` octets that the sink took. -/
def accepted (c : TransferCounts) (length : Nat) : TransferCounts :=
  { c with packetsAccepted := c.packetsAccepted.bump, bytesAccepted := c.bytesAccepted.add length }

/-- Count a packet that the sink had no room for. -/
def dropped (c : TransferCounts) : TransferCounts :=
  { c with packetsDropped := c.packetsDropped.bump }

/-- Count a reception that failed or was called off. -/
def errored (c : TransferCounts) : TransferCounts :=
  { c with transferErrors := c.transferErrors.bump }

/-- Count a reception that ended without a stream. -/
def stale (c : TransferCounts) : TransferCounts :=
  { c with staleCompletions := c.staleCompletions.bump }

/-- Count a submission that the core refused. -/
def refused (c : TransferCounts) : TransferCounts :=
  { c with rearmFailures := c.rearmFailures.bump }

/-- Count a reception said to be longer than the lent buffer. -/
def oversized (c : TransferCounts) : TransferCounts :=
  { c with oversizedCompletions := c.oversizedCompletions.bump }

end TransferCounts

end AudioGadget
