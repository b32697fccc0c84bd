import AudioGadget.Level.Volume
import AudioGadget.Function.Control
import AudioGadget.Pcm.Format
/-!
# FeatureUnit — mute and the volume of every channel

Channel 0 is the master, and the stream's own channels count from 1.
Mute exists on the master alone, volume on every channel. The channel
number 255 stands for "all channels at once" in the audio class, and
this unit does not offer it.

`Control` values are read by `read?` and changed by `setMuted` and
`setVolume?`; the lemmas say which reading sees which change.
-/

namespace AudioGadget

/-- Volumes the unit has room for: the master and the most channels a
stream may have. -/
def volumeCount : Nat := channelLimit + 1

/-- The channel number that stands for all channels. -/
def everyChannel : UInt8 := 0xFF

/-- Mute and volumes of a stream with `channels` channels. -/
structure FeatureUnit where
  channels : Nat
  muted : Bool
  volumes : Vector Volume volumeCount
deriving DecidableEq

namespace FeatureUnit

/-- At power-on nothing is muted and everything plays at full scale. -/
def powerOn (channels : Nat) : FeatureUnit :=
  ⟨channels, false, Vector.replicate volumeCount Volume.unity⟩

/-- Back to the levels of power-on. -/
def reset (u : FeatureUnit) : FeatureUnit :=
  powerOn u.channels

/-- Whether a control exists on a channel. -/
def supports (u : FeatureUnit) (control : Control) (channel : UInt8) : Bool :=
  channel ≠ everyChannel &&
    match control with
    | .mute => channel = 0
    | .volume => channel.toNat ≤ u.channels

/-- Mute or unmute the master. -/
def setMuted (u : FeatureUnit) (muted : Bool) : FeatureUnit :=
  { u with muted }

/-- The volume of a channel, if the channel exists. -/
def volume? (u : FeatureUnit) (channel : UInt8) : Option Volume :=
  if channel.toNat ≤ u.channels then u.volumes[channel.toNat]? else none

/-- Give a channel a volume, if the channel exists. -/
def setVolume? (u : FeatureUnit) (channel : UInt8) (v : Volume) : Option FeatureUnit :=
  if h : channel.toNat ≤ u.channels ∧ channel.toNat < volumeCount then
    some { u with volumes := u.volumes.set channel.toNat v h.2 }
  else
    none

/-- The octets that answer a verb which reads, and nothing for a reading
that is not offered. Only volume has a range and a resolution. -/
def read? (u : FeatureUnit) (verb : Verb) (control : Control) (channel : UInt8) : Option Bytes :=
  if u.supports control channel then
    match control, verb with
    | .mute, .getCurrent => some [if u.muted then 1 else 0]
    | .volume, .getCurrent => (u.volume? channel).map Volume.bytes
    | .volume, .getMinimum => some Volume.softest.bytes
    | .volume, .getMaximum => some Volume.loudest.bytes
    | .volume, .getResolution => some (leSigned16 Volume.resolution)
    | _, _ => none
  else
    none

/-! ## Which controls there are -/

theorem supports_mute_iff {u : FeatureUnit} {channel : UInt8} :
    u.supports .mute channel = true ↔ channel = 0 := by
  simp only [supports, Bool.and_eq_true, decide_eq_true_eq]
  refine ⟨And.right, fun master => ⟨?_, master⟩⟩
  rw [master]
  decide

/-- No channel of a stream has the number that stands for all. -/
theorem supports_volume_iff {u : FeatureUnit} {channel : UInt8} (room : u.channels ≤ channelLimit) :
    u.supports .volume channel = true ↔ channel.toNat ≤ u.channels := by
  simp only [supports, Bool.and_eq_true, decide_eq_true_eq]
  refine ⟨And.right, fun among => ⟨?_, among⟩⟩
  rintro rfl
  exact absurd (Nat.le_trans among room) (by decide)

/-! ## What is answered -/

/-- Every channel of a stream has a volume. -/
theorem exists_volume? {u : FeatureUnit} {channel : UInt8} (room : u.channels ≤ channelLimit)
    (among : channel.toNat ≤ u.channels) : ∃ v, u.volume? channel = some v := by
  have inside : channel.toNat < volumeCount := Nat.lt_succ_of_le (Nat.le_trans among room)
  exact ⟨u.volumes[channel.toNat], by simp [volume?, among, inside]⟩

/-- Only a channel of the stream has a volume. -/
theorem toNat_le_of_volume? {u : FeatureUnit} {channel : UInt8} {v : Volume}
    (h : u.volume? channel = some v) : channel.toNat ≤ u.channels := by
  unfold volume? at h
  split at h
  · assumption
  · cases h

/-- And only such a channel can be given one. -/
theorem toNat_le_of_setVolume? {u w : FeatureUnit} {channel : UInt8} {v : Volume}
    (h : u.setVolume? channel v = some w) : channel.toNat ≤ u.channels := by
  unfold setVolume? at h
  split at h
  · rename_i bounds
    exact bounds.1
  · cases h

/-- An answer has the length of the control's value. -/
theorem length_of_read? {u : FeatureUnit} {verb : Verb} {c : Control} {channel : UInt8}
    {octets : Bytes} (h : u.read? verb c channel = some octets) :
    octets.length = c.payloadLength := by
  unfold read? at h
  split at h
  · split at h
    · cases h
      rfl
    · obtain ⟨v, -, rfl⟩ := Option.map_eq_some_iff.1 h
      rfl
    · cases h
      rfl
    · cases h
      rfl
    · cases h
      rfl
    · cases h
  · cases h

/-- **Every offered control has a current value, and a volume has a range
and a resolution.** -/
theorem isSome_read?_iff {u : FeatureUnit} {verb : Verb} {c : Control} {channel : UInt8}
    (room : u.channels ≤ channelLimit) (reads : verb ≠ .setCurrent) :
    (u.read? verb c channel).isSome ↔
      u.supports c channel = true ∧ (verb = .getCurrent ∨ c = .volume) := by
  unfold read?
  by_cases offered : u.supports c channel = true
  · cases c with
    | mute => cases verb <;> simp_all
    | volume =>
      obtain ⟨v, level⟩ := exists_volume? room ((supports_volume_iff room).1 offered)
      cases verb <;> simp_all
  · simp [offered]

/-- **A value is read if the control has it and its octets have room.** -/
theorem fits_read?_iff {u : FeatureUnit} {verb : Verb} {c : Control} {channel : UInt8}
    (room : u.channels ≤ channelLimit) (reads : verb ≠ .setCurrent) {available : Nat} :
    (∃ octets, u.read? verb c channel = some octets ∧ octets.length ≤ available) ↔
      u.supports c channel = true ∧ (verb = .getCurrent ∨ c = .volume) ∧
        c.payloadLength ≤ available := by
  rw [← and_assoc, ← isSome_read?_iff room reads, Option.isSome_iff_exists]
  constructor
  · rintro ⟨octets, read, fits⟩
    exact ⟨⟨octets, read⟩, length_of_read? read ▸ fits⟩
  · rintro ⟨⟨octets, read⟩, fits⟩
    exact ⟨octets, read, (length_of_read? read).symm ▸ fits⟩

/-! ## Which reading sees which change -/

@[simp] theorem reset_reset (u : FeatureUnit) : u.reset.reset = u.reset := rfl

@[simp] theorem channels_reset (u : FeatureUnit) : u.reset.channels = u.channels := rfl

@[simp] theorem volume?_setMuted (u : FeatureUnit) (b : Bool) (channel : UInt8) :
    (u.setMuted b).volume? channel = u.volume? channel := rfl

/-- **A volume is read back as set, and no other channel moves.** -/
theorem volume?_of_setVolume? {u w : FeatureUnit} {channel : UInt8} {v : Volume}
    (h : u.setVolume? channel v = some w) (other : UInt8) :
    w.volume? other = if other = channel then some v else u.volume? other := by
  simp only [setVolume?] at h
  split at h
  · rename_i bound
    cases h
    by_cases same : other = channel
    · subst same
      simp [volume?, bound.1]
    · have apart : ¬ channel.toNat = other.toNat := fun e => same (UInt8.toNat_inj.1 e.symm)
      simp only [volume?, if_neg same]
      split
      · rw [Vector.getElem?_set_ne _ apart]
      · rfl
  · cases h

/-- Setting a volume leaves the mute and the channel count alone. -/
theorem muted_of_setVolume? {u w : FeatureUnit} {channel : UInt8} {v : Volume}
    (h : u.setVolume? channel v = some w) : w.muted = u.muted ∧ w.channels = u.channels := by
  simp only [setVolume?] at h
  split at h
  · cases h
    exact ⟨rfl, rfl⟩
  · cases h

/-- At power-on every channel that exists plays at full scale. -/
theorem volume?_powerOn {channels : Nat} {channel : UInt8} (h : channel.toNat ≤ channels)
    (room : channel.toNat < volumeCount) :
    (powerOn channels).volume? channel = some Volume.unity := by
  simp [volume?, powerOn, h, room]

end FeatureUnit

end AudioGadget
