import AudioGadget.Playback.Sink
/-!
# Sink — a destination for the bench

A bench sink plays nothing. It takes every packet unless told to refuse,
counts what it is asked, and keeps the front of the last packet taken.
-/

namespace AudioGadget.Bench

/-- A recording sink. -/
structure Sink where
  started : Bool
  startCount : Nat
  stopCount : Nat
  /-- Packets offered, taken or not. -/
  acceptCalls : Nat
  bytesAccepted : Nat
  lastPacket : Bytes
  /-- Whether packets are refused. -/
  refusing : Bool
deriving DecidableEq

namespace Sink

/-- A sink that was never asked anything. -/
def fresh : Sink :=
  ⟨false, 0, 0, 0, 0, [], false⟩

instance : Inhabited Sink := ⟨fresh⟩

/-- Octets of the last packet that are kept. -/
def bytesKept : Nat := 1024

/-- Refuse packets, or take them again. -/
def setRefusing (s : Sink) (refusing : Bool) : Sink :=
  { s with refusing }

/-- Take a packet or refuse it; count it either way. -/
def accept (s : Sink) (packet : Bytes) : Intake × Sink :=
  let s := { s with acceptCalls := s.acceptCalls + 1 }
  if s.refusing then
    (.rejected, s)
  else
    (.accepted,
      { s with
        bytesAccepted := s.bytesAccepted + packet.length
        lastPacket := packet.take bytesKept })

/-- A stream begins. -/
def start (s : Sink) : Sink :=
  { s with started := true, startCount := s.startCount + 1 }

/-- The stream ends. -/
def stop (s : Sink) : Sink :=
  { s with started := false, stopCount := s.stopCount + 1 }

instance : PcmSink Sink where
  accept := Sink.accept
  start := Sink.start
  stop := Sink.stop

end Sink

end AudioGadget.Bench
