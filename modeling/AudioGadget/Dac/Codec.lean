import AudioGadget.Level.Volume
/-!
# Codec — whoever sets the levels of the analogue output

A codec is told the mute of the master and the volume of a channel, 0
being the master. It reports nothing back: a host that set a volume is
never kept waiting for the hardware.
-/

namespace AudioGadget

/-- A codec, with state `σ`. -/
class Codec (σ : Type) where
  setMute : σ → Bool → σ
  setVolume : σ → UInt8 → Volume → σ

end AudioGadget
