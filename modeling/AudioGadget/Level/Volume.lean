import AudioGadget.Bytes
import AudioGadget.OutOfRange
/-!
# Volume — levels on the half-decibel grid

The host speaks of volume in steps of 1/256 dB, as a signed word. The
DAC attenuates in steps of 0.5 dB and never amplifies, so a level is a
number of half-decibel steps below full scale, from 0 to 160. The host's
word is read in two ways: `nearest` rounds and clamps whatever it is
given, `ofRaw?` takes only levels that are on the grid already.
-/

namespace AudioGadget

/-- A playback level: `attenuation` half-decibel steps below full scale. -/
structure Volume where
  attenuation : Nat
  le_steps : attenuation ≤ 160
deriving DecidableEq

namespace Volume

/-- The host's units in one half-decibel step. -/
def resolution : Nat := 128

/-- Full scale, 0 dB: the level at power-on. -/
def unity : Volume := ⟨0, by decide⟩

/-- The loudest level. -/
def loudest : Volume := ⟨0, by decide⟩

/-- The softest level, 80 dB down. -/
def softest : Volume := ⟨160, by decide⟩

instance : Inhabited Volume := ⟨unity⟩

/-- The level in the host's units of 1/256 dB. -/
def raw (v : Volume) : Int :=
  -(resolution * v.attenuation : Nat)

example : softest.raw = -20480 := rfl

/-- Whole half-decibel steps in a distance from full scale. -/
def stepsOf (raw : Int) : Nat :=
  raw.natAbs / resolution

/-- **Round to the nearest level, halves upward, and clamp.** Every number
has a nearest level: what the host means by silence is the softest one,
and anything above full scale is full scale. -/
def nearest (raw : Int) : Volume :=
  ⟨min 160 (-((raw + (resolution / 2 : Nat)) / resolution)).toNat, Nat.min_le_left _ _⟩

/-- The level of a number on the grid, and a refusal of any other. -/
def ofRaw? (raw : Int) : Except OutOfRange Volume :=
  if h : softest.raw ≤ raw ∧ raw ≤ loudest.raw ∧ raw % resolution = 0 then
    .ok ⟨stepsOf raw, by
      obtain ⟨h₁, h₂, -⟩ := h
      simp only [softest, loudest, Volume.raw, resolution] at h₁ h₂
      simp only [stepsOf, resolution]
      omega⟩
  else
    .error ⟨raw, softest.raw, loudest.raw⟩

/-- The level as it travels on the control pipe: a signed word. -/
def bytes (v : Volume) : Bytes :=
  leSigned16 v.raw

/-- Louder is greater. -/
instance : Ord Volume := ⟨fun a b => compare a.raw b.raw⟩

end Volume

end AudioGadget
