import AudioGadget.Pcm.SampleRate
import AudioGadget.Pcm.Layout
import AudioGadget.Refusal
/-!
# StreamFormat — what the playback function can stream

A format is a rate, a channel count and a bit depth that together fit
the bus: one millisecond of audio, with one frame to spare for a host
clock that runs fast, is at most one full-speed isochronous packet. The
type carries these limits, so the sizes derived from a format need no
further check (`maxPacketSize_le`, `frameBytes_dvd_maxPacketSize`).
-/

namespace AudioGadget

/-- The largest isochronous packet at full speed. -/
def isoPacketLimit : Nat := 1023

/-- The most channels the feature unit describes. -/
def channelLimit : Nat := 8

/-- The bit depths a stream may have. -/
def bitDepths : List Nat := [16, 24, 32]

/-- A packet that carries one millisecond at `rate` and one frame more. -/
def packetFor (rate : SampleRate) (layout : Layout) : Nat :=
  (rate.perTick + 1) * layout.frameBytes

/-- A stream format that fits the bus. -/
structure StreamFormat where
  rate : SampleRate
  channels : Nat
  bits : Nat
  channels_pos : 0 < channels
  channels_le : channels ≤ channelLimit
  bits_mem : bits ∈ bitDepths
  packet_le : packetFor rate ⟨rate.hz, channels, bits⟩ ≤ isoPacketLimit
deriving DecidableEq

namespace StreamFormat

/-- 48 kHz, two channels, 16 bits: the format every host handles. -/
instance : Inhabited StreamFormat :=
  ⟨⟨SampleRate.hz48000, 2, 16, by decide, by decide, by decide, by decide⟩⟩

/-- The same format as the playback side sees it. -/
def layout (f : StreamFormat) : Layout :=
  ⟨f.rate.hz, f.channels, f.bits⟩

/-- Octets that hold one sample. -/
def subframeBytes (f : StreamFormat) : Nat :=
  f.layout.subframeBytes

/-- Octets that hold one sample for every channel. -/
def frameBytes (f : StreamFormat) : Nat :=
  f.layout.frameBytes

/-- The packet size the endpoint is opened with. -/
def maxPacketSize (f : StreamFormat) : Nat :=
  packetFor f.rate f.layout

/-- **Check the parts, then the packet.** An unknown rate, channel count or
bit depth is an unsupported format; a packet beyond the bus limit is
reported with its size. -/
def ofParts? (hz channels bits : Nat) : Except Refusal StreamFormat :=
  match SampleRate.ofHz? hz with
  | .error _ => .error .unsupportedFormat
  | .ok rate =>
    if h : (0 < channels ∧ channels ≤ channelLimit) ∧ bits ∈ bitDepths then
      let requested := packetFor rate ⟨rate.hz, channels, bits⟩
      if fits : requested ≤ isoPacketLimit then
        .ok ⟨rate, channels, bits, h.1.1, h.1.2, h.2, fits⟩
      else
        .error (.packetTooLarge requested isoPacketLimit)
    else
      .error .unsupportedFormat

/-! ## Sizes that follow from the format -/

theorem maxPacketSize_le (f : StreamFormat) : f.maxPacketSize ≤ isoPacketLimit :=
  f.packet_le

/-- **A full packet holds whole frames.** -/
theorem frameBytes_dvd_maxPacketSize (f : StreamFormat) : f.frameBytes ∣ f.maxPacketSize :=
  Nat.dvd_mul_left _ _

theorem subframeBytes_pos (f : StreamFormat) : 0 < f.subframeBytes := by
  have h := f.bits_mem
  simp only [bitDepths, List.mem_cons, List.not_mem_nil, or_false] at h
  simp only [subframeBytes, Layout.subframeBytes, layout]
  omega

theorem frameBytes_pos (f : StreamFormat) : 0 < f.frameBytes :=
  Nat.mul_pos f.subframeBytes_pos f.channels_pos

theorem maxPacketSize_pos (f : StreamFormat) : 0 < f.maxPacketSize :=
  Nat.mul_pos (Nat.succ_pos _) f.frameBytes_pos

example : (default : StreamFormat).maxPacketSize = 196 := rfl

end StreamFormat

end AudioGadget
