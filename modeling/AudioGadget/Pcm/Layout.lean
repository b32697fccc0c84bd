/-!
# Layout — how samples lie in a PCM stream

A sample sits in a whole number of octets, its subframe; one sample for
every channel makes a frame. Streams are cut only between frames, or
channels would trade places, so `wholeFrames` rounds a length down.
-/

namespace AudioGadget

/-- The layout of an interleaved PCM stream. -/
structure Layout where
  sampleRate : Nat
  channels : Nat
  bitDepth : Nat
deriving DecidableEq, Repr

namespace Layout

instance : Inhabited Layout := ⟨48000, 2, 16⟩

/-- Octets that hold one sample: enough for its bits. -/
def subframeBytes (l : Layout) : Nat :=
  (l.bitDepth + 7) / 8

/-- Octets that hold one sample for every channel. -/
def frameBytes (l : Layout) : Nat :=
  l.subframeBytes * l.channels

/-- A length rounded down to whole frames. Where a frame has no octets
there is nothing to align, and the length stays. -/
def wholeFrames (l : Layout) (length : Nat) : Nat :=
  if l.frameBytes = 0 then length else length / l.frameBytes * l.frameBytes

theorem wholeFrames_le (l : Layout) (length : Nat) : l.wholeFrames length ≤ length := by
  simp only [wholeFrames]
  split
  · exact Nat.le_refl _
  · exact Nat.div_mul_le_self _ _

/-- **What is rounded down is a whole number of frames.** -/
theorem frameBytes_dvd_wholeFrames (l : Layout) (length : Nat) (h : l.frameBytes ≠ 0) :
    l.frameBytes ∣ l.wholeFrames length := by
  simp only [wholeFrames, if_neg h]
  exact Nat.dvd_mul_left _ _

/-- **Whole frames, as many as are asked for and there are.** -/
theorem frameBytes_dvd_min {l : Layout} {there : Nat} (whole : l.frameBytes ∣ there)
    (length : Nat) : l.frameBytes ∣ min (l.wholeFrames length) there := by
  by_cases h : l.frameBytes = 0
  · -- no length but zero is whole
    have none : there = 0 := Nat.eq_zero_of_zero_dvd (h ▸ whole)
    rw [none, Nat.min_zero]
    exact Nat.dvd_zero _
  · rcases Nat.le_total (l.wholeFrames length) there with asked | short
    · rw [Nat.min_eq_left asked]
      exact l.frameBytes_dvd_wholeFrames length h
    · rw [Nat.min_eq_right short]
      exact whole

end Layout

end AudioGadget
