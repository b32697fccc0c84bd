import AudioGadget.OutOfRange
/-!
# SampleRate — how many sample frames a second

Rates run from 8 kHz to 768 kHz. The bus moves once a millisecond, so
what matters downstream is `perTick`: the most sample frames one
millisecond can bring.
-/

namespace AudioGadget

/-- A supported sample rate in hertz. -/
structure SampleRate where
  hz : Nat
  min_le : 8000 ≤ hz
  le_max : hz ≤ 768000
deriving DecidableEq

namespace SampleRate

/-- The lowest supported rate. -/
def lowest : SampleRate := ⟨8000, by decide, by decide⟩

/-- The highest supported rate. -/
def highest : SampleRate := ⟨768000, by decide, by decide⟩

/-- 48 kHz, the rate every host handles. -/
def hz48000 : SampleRate := ⟨48000, by decide, by decide⟩

/-- The largest number a refusal shows. -/
def shownLimit : Nat := 2147483647

/-- The rate of `hz` hertz, refused outside the supported range. -/
def ofHz? (hz : Nat) : Except OutOfRange SampleRate :=
  if h : 8000 ≤ hz ∧ hz ≤ 768000 then
    .ok ⟨hz, h.1, h.2⟩
  else
    .error ⟨min hz shownLimit, lowest.hz, highest.hz⟩

/-- Sample frames in one millisecond, rounded up. -/
def perTick (r : SampleRate) : Nat :=
  (r.hz + 999) / 1000

/-- **A millisecond's worth covers the rate.** -/
theorem hz_le_perTick (r : SampleRate) : r.hz ≤ 1000 * r.perTick := by
  simp only [perTick]
  omega

end SampleRate

end AudioGadget
