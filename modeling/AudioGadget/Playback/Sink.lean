import AudioGadget.Bytes
/-!
# Sink — where received audio goes

A sink takes one packet at a time, whole or not at all, and is told when
a stream starts and when it stops. What it does with the audio is its
own affair.
-/

namespace AudioGadget

/-- What a sink makes of a packet. -/
inductive Intake where
  /-- Taken, or knowingly thrown away by a sink that is not playing. -/
  | accepted
  /-- No room; nothing was taken. -/
  | rejected
deriving DecidableEq, Repr

/-- A destination for PCM, with state `σ`. -/
class PcmSink (σ : Type) where
  /-- Offer one packet of interleaved audio. -/
  accept : σ → Bytes → Intake × σ
  /-- A stream begins. -/
  start : σ → σ
  /-- The stream ends; what is held back is dropped. -/
  stop : σ → σ

end AudioGadget
