import AudioGadget.Level.Attenuation
import AudioGadget.Dac.Codec
/-!
# Shadow — the DAC's attenuation registers, before they are written

Levels arrive from the control pipe, which cannot wait for the bus of
the DAC. The shadow keeps the latest ones and remembers whether the
registers they amount to may differ from those written last; a task that
polls `takePending` does the writing.
-/

namespace AudioGadget

/-- One write to a register of the DAC. -/
structure RegisterWrite where
  register : UInt8
  value : UInt8
deriving DecidableEq, Repr

/-- The register that attenuates the left output. -/
def leftRegister : UInt8 := 15

/-- The register that attenuates the right output. -/
def rightRegister : UInt8 := 16

/-- The latest levels, and whether they wait to be written. -/
structure DacShadow where
  streamChannels : Nat
  muted : Bool
  master : Volume
  left : Volume
  right : Volume
  dirty : Bool
deriving DecidableEq

namespace DacShadow

/-- Everything at full scale, waiting for its first write. -/
def powerOn (streamChannels : Nat) : DacShadow :=
  ⟨streamChannels, false, .unity, .unity, .unity, true⟩

/-- **What the registers should hold.** Muted, both outputs are silent;
otherwise each output sits below the master. -/
def registers (s : DacShadow) : List RegisterWrite :=
  let left := if s.muted then .muted else Attenuation.combined s.master s.left
  let right := if s.muted then .muted else Attenuation.combined s.master s.right
  [⟨leftRegister, left.value⟩, ⟨rightRegister, right.value⟩]

/-- The writes to perform, if anything changed since they were last asked
for. -/
def takePending (s : DacShadow) : Option (List RegisterWrite) × DacShadow :=
  if s.dirty then (some s.registers, { s with dirty := false }) else (none, s)

/-- Mute or unmute. Only a change waits to be written. -/
def setMute (s : DacShadow) (muted : Bool) : DacShadow :=
  if s.muted = muted then s else { s with muted, dirty := true }

/-- The levels after a volume change. A single channel drives both
outputs, and channels past the second drive none. -/
def withVolume (s : DacShadow) (channel : UInt8) (v : Volume) : DacShadow :=
  if channel = 0 then { s with master := v }
  else if channel = 1 then
    if s.streamChannels = 1 then { s with left := v, right := v } else { s with left := v }
  else if channel = 2 then { s with right := v }
  else s

/-- Set a volume. Only a change waits to be written. -/
def setVolume (s : DacShadow) (channel : UInt8) (v : Volume) : DacShadow :=
  let next := s.withVolume channel v
  if next = s then s else { next with dirty := true }

/-- A shadow stands in for the codec. -/
instance : Codec DacShadow where
  setMute := DacShadow.setMute
  setVolume := DacShadow.setVolume

/-! ## What a change moves

Whether a change waits to be written is all that sets `setVolume` apart
from `withVolume`, so both move the same levels. -/

/-- The channel that is heard on the right output. -/
def rightChannel (streamChannels : Nat) : UInt8 :=
  if streamChannels = 1 then 1 else 2

theorem exists_setMute (s : DacShadow) (muted : Bool) :
    ∃ dirty, s.setMute muted = { s with muted, dirty } := by
  unfold setMute
  split
  · rename_i same
    exact ⟨s.dirty, by rw [← same]⟩
  · exact ⟨true, rfl⟩

theorem exists_setVolume (s : DacShadow) (channel : UInt8) (v : Volume) :
    ∃ dirty, s.setVolume channel v = { s.withVolume channel v with dirty } := by
  unfold setVolume
  dsimp only
  split
  · rename_i same
    exact ⟨s.dirty, by rw [same]⟩
  · exact ⟨true, rfl⟩

section SetMute

variable (s : DacShadow) (muted : Bool)

@[simp] theorem streamChannels_setMute : (s.setMute muted).streamChannels = s.streamChannels := by
  obtain ⟨_, eq⟩ := s.exists_setMute muted
  rw [eq]

@[simp] theorem muted_setMute : (s.setMute muted).muted = muted := by
  obtain ⟨_, eq⟩ := s.exists_setMute muted
  rw [eq]

@[simp] theorem master_setMute : (s.setMute muted).master = s.master := by
  obtain ⟨_, eq⟩ := s.exists_setMute muted
  rw [eq]

@[simp] theorem left_setMute : (s.setMute muted).left = s.left := by
  obtain ⟨_, eq⟩ := s.exists_setMute muted
  rw [eq]

@[simp] theorem right_setMute : (s.setMute muted).right = s.right := by
  obtain ⟨_, eq⟩ := s.exists_setMute muted
  rw [eq]

end SetMute

section SetVolume

variable (s : DacShadow) (channel : UInt8) (v : Volume)

@[simp] theorem streamChannels_setVolume :
    (s.setVolume channel v).streamChannels = s.streamChannels := by
  obtain ⟨_, eq⟩ := s.exists_setVolume channel v
  rw [eq]
  grind [withVolume]

@[simp] theorem muted_setVolume : (s.setVolume channel v).muted = s.muted := by
  obtain ⟨_, eq⟩ := s.exists_setVolume channel v
  rw [eq]
  grind [withVolume]

theorem master_setVolume :
    (s.setVolume channel v).master = if channel = 0 then v else s.master := by
  obtain ⟨_, eq⟩ := s.exists_setVolume channel v
  rw [eq]
  grind [withVolume]

theorem left_setVolume : (s.setVolume channel v).left = if channel = 1 then v else s.left := by
  obtain ⟨_, eq⟩ := s.exists_setVolume channel v
  rw [eq]
  grind [withVolume]

variable {s channel}

/-- **The right output is moved by its channel alone**, among those that
the stream has. -/
theorem right_setVolume (among : channel.toNat ≤ s.streamChannels) :
    (s.setVolume channel v).right =
      if channel = rightChannel s.streamChannels then v else s.right := by
  obtain ⟨_, eq⟩ := s.exists_setVolume channel v
  rw [eq]
  have absent : channel = 2 → s.streamChannels ≠ 1 := by
    rintro rfl mono
    rw [mono] at among
    exact absurd among (by decide)
  grind [withVolume, rightChannel]

end SetVolume

/-! ## What is written -/

/-- Asking does not change what the registers should hold. -/
@[simp] theorem registers_takePending (s : DacShadow) : s.takePending.2.registers = s.registers := by
  simp only [takePending]
  split <;> rfl

/-- **What is handed out is what the registers should hold.** -/
theorem eq_registers_of_takePending {s : DacShadow} {writes : List RegisterWrite}
    (h : s.takePending.1 = some writes) : writes = s.registers := by
  simp only [takePending] at h
  split at h
  · exact (Option.some.inj h).symm
  · cases h

end DacShadow

end AudioGadget
