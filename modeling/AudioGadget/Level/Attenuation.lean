import AudioGadget.Level.Volume
/-!
# Attenuation — register values of the DAC

Each output of the DAC has one attenuation register of eight bits, in
the same half-decibel steps as `Volume`. The all-ones value is silence.
A channel sits below the master, so their attenuations add, and the sum
stops at the largest register value.
-/

namespace AudioGadget

/-- The value of an attenuation register: 0 is full scale, 255 silence. -/
structure Attenuation where
  value : UInt8
deriving DecidableEq, Repr

namespace Attenuation

/-- The value that silences an output. -/
def muted : Attenuation := ⟨0xFF⟩

/-- The register value for a number of half-decibel steps. -/
def ofSteps (steps : Nat) : Attenuation :=
  ⟨UInt8.ofNat (min 255 steps)⟩

/-- The register value for one level. -/
def ofVolume (v : Volume) : Attenuation :=
  ofSteps v.attenuation

/-- The register value for a channel below a master: attenuations add. -/
def combined (master channel : Volume) : Attenuation :=
  ofSteps (master.attenuation + channel.attenuation)

end Attenuation

end AudioGadget
