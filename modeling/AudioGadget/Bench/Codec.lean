import AudioGadget.Dac.Codec
/-!
# Codec — levels for the bench

A bench codec sets nothing. It keeps the first calls of each kind.
-/

namespace AudioGadget.Bench

/-- A recording codec. -/
structure Codec where
  mutes : List Bool
  volumes : List (UInt8 × Volume)
deriving DecidableEq

namespace Codec

/-- A codec that was never told anything. -/
def fresh : Codec :=
  ⟨[], []⟩

instance : Inhabited Codec := ⟨fresh⟩

/-- Calls of a kind that are kept, the first ones. -/
def callsKept : Nat := 32

instance : AudioGadget.Codec Codec where
  setMute c muted := { c with mutes := (c.mutes ++ [muted]).take callsKept }
  setVolume c channel v := { c with volumes := (c.volumes ++ [(channel, v)]).take callsKept }

end Codec

end AudioGadget.Bench
