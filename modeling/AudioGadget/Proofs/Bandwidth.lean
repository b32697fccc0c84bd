import Mathlib.Algebra.Order.Floor.Div
import AudioGadget.Bench.Codec
import AudioGadget.Bench.Core
import AudioGadget.Bench.Sink
import AudioGadget.Proofs.Sides
/-!
# Bandwidth — a format that was accepted fits everywhere

Three numbers make a format, and each of them has its legal values. What
couples them is the packet: a millisecond of audio, rounded up to frames,
and one frame more, has to be an isochronous packet of the bus
(`ofParts?_eq_ok`, `ofParts?_eq_error`). The size grows with each number, so
a smaller legal one always fits as well.

Everything downstream is sized from such a format, and nothing is sized
again. `packetWithin` computes the packet in words that stop at their top,
and `requestEndpointsWithin` compares it with all that it has to fit: none of
the words stops, and none of the comparisons fails.
-/

namespace AudioGadget

/-! ## Legal numbers -/

/-- **Numbers that are legal one by one.** -/
structure Legal (hz channels bits : Nat) : Prop where
  rate : 8000 ≤ hz ∧ hz ≤ 768000
  channels : 1 ≤ channels ∧ channels ≤ 8
  bits : bits = 16 ∨ bits = 24 ∨ bits = 32

/-- **The octets of a packet**: the frames of a millisecond, rounded up, and
one frame more. -/
def packetOctets (hz channels bits : Nat) : Nat :=
  (hz ⌈/⌉ 1000 + 1) * channels * (bits / 8)

theorem packetOctets_mono {hz hz' channels channels' bits bits' : Nat} (rate : hz' ≤ hz)
    (fewer : channels' ≤ channels) (shorter : bits' ≤ bits) :
    packetOctets hz' channels' bits' ≤ packetOctets hz channels bits := by
  have frames : hz' ⌈/⌉ 1000 ≤ hz ⌈/⌉ 1000 := by
    rw [Nat.ceilDiv_eq_add_pred_div, Nat.ceilDiv_eq_add_pred_div]
    omega
  have octets : bits' / 8 ≤ bits / 8 := Nat.div_le_div_right shorter
  exact Nat.mul_le_mul (Nat.mul_le_mul (Nat.add_le_add_right frames 1) fewer) octets

/-- A legal sample fills its octets. -/
theorem Legal.subframeBytes {hz channels bits : Nat} (legal : Legal hz channels bits) :
    (⟨hz, channels, bits⟩ : Layout).subframeBytes = bits / 8 := by
  have depth := legal.bits
  simp only [Layout.subframeBytes]
  omega

theorem Legal.mem_bitDepths {hz channels bits : Nat} (legal : Legal hz channels bits) :
    bits ∈ bitDepths := by
  rcases legal.bits with rfl | rfl | rfl <;> decide

/-- **The packet of legal numbers** has as many octets. -/
theorem Legal.packetFor {hz channels bits : Nat} (legal : Legal hz channels bits)
    {rate : SampleRate} (same : rate.hz = hz) :
    packetFor rate ⟨rate.hz, channels, bits⟩ = packetOctets hz channels bits := by
  subst same
  rw [AudioGadget.packetFor, Layout.frameBytes, legal.subframeBytes, packetOctets,
    SampleRate.perTick, Nat.ceilDiv_eq_add_pred_div, Nat.mul_comm (bits / 8), Nat.mul_assoc]
  rfl

namespace StreamFormat

/-! ## What is accepted -/

/-- The numbers of a format are legal. -/
theorem legal (f : StreamFormat) : Legal f.rate.hz f.channels f.bits where
  rate := ⟨f.rate.min_le, f.rate.le_max⟩
  channels := ⟨f.channels_pos, f.channels_le⟩
  bits := by simpa [bitDepths] using f.bits_mem

/-- And its packet has the octets that they make. -/
theorem maxPacketSize_eq (f : StreamFormat) :
    f.maxPacketSize = packetOctets f.rate.hz f.channels f.bits :=
  f.legal.packetFor rfl

variable {hz channels bits : Nat}

/-- **Legal numbers are a format if their packet fits the bus.** -/
theorem ofParts?_eq_ok (legal : Legal hz channels bits)
    (fits : packetOctets hz channels bits ≤ isoPacketLimit) :
    ∃ f, ofParts? hz channels bits = .ok f ∧ f.rate.hz = hz ∧ f.channels = channels ∧
      f.bits = bits := by
  let rate : SampleRate := ⟨hz, legal.rate.1, legal.rate.2⟩
  have packet : packetFor rate ⟨hz, channels, bits⟩ = packetOctets hz channels bits :=
    legal.packetFor rfl
  rw [← packet] at fits
  refine ⟨⟨⟨hz, legal.rate.1, legal.rate.2⟩, channels, bits, legal.channels.1, legal.channels.2,
    legal.mem_bitDepths, fits⟩, ?_, rfl, rfl, rfl⟩
  unfold ofParts? SampleRate.ofHz?
  rw [dif_pos legal.rate]
  dsimp only
  rw [dif_pos ⟨⟨legal.channels.1, legal.channels.2⟩, legal.mem_bitDepths⟩, dif_pos fits]

/-- If it does not, they are refused with its size. -/
theorem ofParts?_eq_packetTooLarge (legal : Legal hz channels bits)
    (large : isoPacketLimit < packetOctets hz channels bits) :
    ofParts? hz channels bits =
      .error (.packetTooLarge (packetOctets hz channels bits) isoPacketLimit) := by
  let rate : SampleRate := ⟨hz, legal.rate.1, legal.rate.2⟩
  have packet : packetFor rate ⟨hz, channels, bits⟩ = packetOctets hz channels bits :=
    legal.packetFor rfl
  rw [← packet] at large ⊢
  unfold ofParts? SampleRate.ofHz?
  rw [dif_pos legal.rate]
  dsimp only
  rw [dif_pos ⟨⟨legal.channels.1, legal.channels.2⟩, legal.mem_bitDepths⟩,
    dif_neg (Nat.not_le.2 large)]

/-- Other numbers are refused, whatever their packet. -/
theorem ofParts?_eq_unsupportedFormat (illegal : ¬ Legal hz channels bits) :
    ofParts? hz channels bits = .error .unsupportedFormat := by
  unfold ofParts? SampleRate.ofHz?
  split
  · rfl
  · rename_i known
    split at known
    · rename_i rate
      -- the rate is legal, so the channels or the bits are not
      rw [dif_neg]
      rintro ⟨⟨some, few⟩, depth⟩
      exact illegal ⟨rate, ⟨some, few⟩, by simpa [bitDepths] using depth⟩
    · cases known

/-- **A format is accepted exactly if its numbers are legal and its packet
fits**, and it is made of them. -/
theorem ofParts?_eq_ok_iff {f : StreamFormat} :
    ofParts? hz channels bits = .ok f ↔
      (f.rate.hz = hz ∧ f.channels = channels ∧ f.bits = bits) ∧ Legal hz channels bits ∧
        packetOctets hz channels bits ≤ isoPacketLimit := by
  constructor
  · intro accepted
    by_cases legal : Legal hz channels bits
    · rcases Nat.lt_or_ge isoPacketLimit (packetOctets hz channels bits) with large | fits
      · rw [ofParts?_eq_packetTooLarge legal large] at accepted
        cases accepted
      · obtain ⟨f', made, parts⟩ := ofParts?_eq_ok legal fits
        cases accepted.symm.trans made
        exact ⟨parts, legal, fits⟩
    · rw [ofParts?_eq_unsupportedFormat legal] at accepted
      cases accepted
  · rintro ⟨⟨rate, few, depth⟩, legal, fits⟩
    obtain ⟨f', made, rate', few', depth'⟩ := ofParts?_eq_ok legal fits
    rw [made]
    -- a format is its numbers
    obtain ⟨⟨_, _, _⟩, _, _, _, _, _, _⟩ := f
    obtain ⟨⟨_, _, _⟩, _, _, _, _, _, _⟩ := f'
    cases rate.trans rate'.symm
    cases few.trans few'.symm
    cases depth.trans depth'.symm
    rfl

theorem exists_ofParts?_iff :
    (∃ f, ofParts? hz channels bits = .ok f) ↔
      Legal hz channels bits ∧ packetOctets hz channels bits ≤ isoPacketLimit := by
  constructor
  · rintro ⟨f, made⟩
    exact (ofParts?_eq_ok_iff.1 made).2
  · rintro ⟨legal, fits⟩
    obtain ⟨f, made, -⟩ := ofParts?_eq_ok legal fits
    exact ⟨f, made⟩

/-- **A refusal says which of the two failed.** -/
theorem ofParts?_eq_error_iff {e : Refusal} :
    ofParts? hz channels bits = .error e ↔
      (Legal hz channels bits ∧ isoPacketLimit < packetOctets hz channels bits ∧
          e = .packetTooLarge (packetOctets hz channels bits) isoPacketLimit) ∨
        (¬ Legal hz channels bits ∧ e = .unsupportedFormat) := by
  by_cases legal : Legal hz channels bits
  · rcases Nat.lt_or_ge isoPacketLimit (packetOctets hz channels bits) with large | fits
    · rw [ofParts?_eq_packetTooLarge legal large]
      simp [legal, large, eq_comm]
    · obtain ⟨f, made, -⟩ := ofParts?_eq_ok legal fits
      rw [made]
      simp [legal, Nat.not_lt.2 fits]
  · rw [ofParts?_eq_unsupportedFormat legal]
    simp [legal, eq_comm]

end StreamFormat

/-! ## Words that stop at their top -/

/-- **The octets of a packet, in words that stop at `top`.** -/
def packetWithin (top : Nat) (rate : SampleRate) (layout : Layout) : Nat :=
  let frames := min top (min top rate.perTick + 1)
  let frame := min top (layout.subframeBytes * layout.channels)
  min top (frames * frame)

/-- No word on the way to a packet stops. -/
structure Unstopped (top : Nat) (rate : SampleRate) (layout : Layout) : Prop where
  frames : rate.perTick + 1 ≤ top
  frame : layout.frameBytes ≤ top
  packet : packetFor rate layout ≤ top

/-- **So the packet is what it should be.** -/
theorem Unstopped.packetWithin {top : Nat} {rate : SampleRate} {layout : Layout}
    (free : Unstopped top rate layout) : packetWithin top rate layout = packetFor rate layout := by
  have frames : min top (min top rate.perTick + 1) = rate.perTick + 1 := by
    have := free.frames
    omega
  have frame : min top (layout.subframeBytes * layout.channels) = layout.frameBytes :=
    Nat.min_eq_right free.frame
  rw [AudioGadget.packetWithin, frames, frame]
  exact Nat.min_eq_right free.packet

/-- **Legal numbers stop no word of sixteen bits or more**, whether their packet
fits the bus or not. -/
theorem Legal.unstopped {hz channels bits top : Nat} (legal : Legal hz channels bits)
    (wide : 65535 ≤ top) {rate : SampleRate} (same : rate.hz = hz) :
    Unstopped top rate ⟨rate.hz, channels, bits⟩ := by
  subst same
  have frames : rate.perTick + 1 ≤ 769 := by
    have := rate.le_max
    simp only [SampleRate.perTick]
    omega
  have subframe : bits / 8 ≤ 4 := by
    have := legal.bits
    omega
  have frame : (⟨rate.hz, channels, bits⟩ : Layout).frameBytes ≤ 4 * 8 := by
    rw [Layout.frameBytes, legal.subframeBytes]
    exact Nat.mul_le_mul subframe legal.channels.2
  have packet : AudioGadget.packetFor rate ⟨rate.hz, channels, bits⟩ ≤ 769 * (4 * 8) :=
    Nat.mul_le_mul frames frame
  exact ⟨by omega, by omega, by omega⟩

namespace StreamFormat

/-- A format stops no word that holds a packet of the bus. -/
theorem unstopped (f : StreamFormat) {top : Nat} (wide : isoPacketLimit ≤ top) :
    Unstopped top f.rate f.layout := by
  have fits : f.maxPacketSize ≤ top := Nat.le_trans f.maxPacketSize_le wide
  -- each factor is no more than the packet, as none of them is zero
  have frames : f.rate.perTick + 1 ≤ f.maxPacketSize := Nat.le_mul_of_pos_right _ f.frameBytes_pos
  have frame : f.frameBytes ≤ f.maxPacketSize := Nat.le_mul_of_pos_left _ (Nat.succ_pos _)
  exact ⟨Nat.le_trans frames fits, Nat.le_trans frame fits, fits⟩

/-- **There is a frame to spare** over what a millisecond brings. -/
theorem headroom (f : StreamFormat) :
    (f.rate.hz + 1000) * f.frameBytes ≤ 1000 * f.maxPacketSize := by
  have covered := f.rate.hz_le_perTick
  have frames : f.rate.hz + 1000 ≤ 1000 * (f.rate.perTick + 1) := by omega
  calc (f.rate.hz + 1000) * f.frameBytes
      ≤ 1000 * (f.rate.perTick + 1) * f.frameBytes := Nat.mul_le_mul_right _ frames
    _ = 1000 * f.maxPacketSize := Nat.mul_assoc _ _ _

/-- **What a format is written into holds it**: the packet a slot, and the field
that a core is told it in; the rate and the subframe their fields in a
descriptor. -/
structure Written (f : StreamFormat) : Prop where
  slot : f.maxPacketSize ≤ slotSize
  packet : f.maxPacketSize < 2 ^ 16
  rate : f.rate.hz < 2 ^ 24
  subframe : f.subframeBytes < 2 ^ 8

theorem written (f : StreamFormat) : f.Written := by
  have packet := f.maxPacketSize_le
  have rate := f.rate.le_max
  have subframe : f.subframeBytes ≤ 4 := by
    have depth := f.legal.bits
    simp only [StreamFormat.subframeBytes, Layout.subframeBytes, layout]
    omega
  simp only [isoPacketLimit] at packet
  exact ⟨f.maxPacketSize_le, by omega, by omega, by omega⟩

end StreamFormat

/-! ## The endpoint -/

namespace Gadget

variable {U S C : Type} [UsbCore U]

/-- **Reserve the endpoint, and compare first.** The packet, in words that
stop at `top`, has to fit a slot and the sixteen bits in which a core is told
its size. -/
def requestEndpointsWithin (top : Nat) (g : Gadget U S C) :
    Step (Gadget U S C) (Except Refusal EndpointAddress) :=
  match g.endpoint with
  | some ep => ⟨.ok ep, g, []⟩
  | none =>
    let size := packetWithin top g.format.rate g.format.layout
    if slotSize < size then
      ⟨.error (.packetTooLarge size slotSize), g, []⟩
    else if 2 ^ 16 ≤ size then
      ⟨.error (.packetTooLarge size slotSize), g, []⟩
    else
      match UsbCore.allocEndpoint g.usb .isochronous .hostToDevice size with
      | (none, usb) => ⟨.error .endpointUnavailable, { g with usb }, []⟩
      | (some ep, usb) => ⟨.ok ep, { g with usb, endpoint := some ep }, [.endpointReserved ep]⟩

/-- **No comparison ever fails.** -/
theorem requestEndpointsWithin_eq {top : Nat} (wide : isoPacketLimit ≤ top) (g : Gadget U S C) :
    g.requestEndpointsWithin top = g.requestEndpoints := by
  have size : packetWithin top g.format.rate g.format.layout = g.format.maxPacketSize :=
    (g.format.unstopped wide).packetWithin
  have written := g.format.written
  unfold requestEndpointsWithin requestEndpoints
  rw [size]
  cases g.endpoint with
  | some ep => rfl
  | none =>
    dsimp only
    exact (if_neg (Nat.not_lt.2 written.slot)).trans (if_neg (Nat.not_le.2 written.packet))

/-- **A core that has no endpoint left is all that can go wrong.** -/
theorem answer_requestEndpoints_eq_error_iff (g : Gadget U S C) (e : Refusal) :
    g.requestEndpoints.answer = .error e ↔
      g.endpoint = none ∧
        (UsbCore.allocEndpoint g.usb .isochronous .hostToDevice g.format.maxPacketSize).1 = none ∧
        e = .endpointUnavailable := by
  obtain ⟨-, answer⟩ := g.controlSide_requestEndpoints
  rw [answer]
  rcases g.endpoint with _ | ep
  · rcases (UsbCore.allocEndpoint g.usb .isochronous .hostToDevice g.format.maxPacketSize).1 with
      _ | ep <;> simp [eq_comm]
  · simp

end Gadget

/-- **A format is accepted exactly if it fits, and then it fits everywhere.**
Three numbers are a format if each is legal and their packet is one of the
bus; a refusal says which of the two failed, and how large the packet would
be. With a format every smaller legal one is accepted. Its packet is whole
frames, with one to spare over a millisecond at its rate, and is written in
full wherever it goes. No word of the computation stops, whether the packet
fits or not, and when the endpoint is reserved nothing but the core can
refuse. -/
theorem accepted_formats_fit (hz channels bits : Nat) :
    ((∃ f, StreamFormat.ofParts? hz channels bits = .ok f) ↔
        Legal hz channels bits ∧ packetOctets hz channels bits ≤ 1023) ∧
      (∀ e, StreamFormat.ofParts? hz channels bits = .error e ↔
        (Legal hz channels bits ∧ 1023 < packetOctets hz channels bits ∧
            e = .packetTooLarge (packetOctets hz channels bits) 1023) ∨
          (¬ Legal hz channels bits ∧ e = .unsupportedFormat)) ∧
      (∀ top, 65535 ≤ top → Legal hz channels bits → ∀ rate : SampleRate, rate.hz = hz →
        Unstopped top rate ⟨rate.hz, channels, bits⟩ ∧
          packetWithin top rate ⟨rate.hz, channels, bits⟩ = packetOctets hz channels bits) ∧
      ∀ f, StreamFormat.ofParts? hz channels bits = .ok f →
        f.rate.hz = hz ∧ f.channels = channels ∧ f.bits = bits ∧
          f.maxPacketSize = packetOctets hz channels bits ∧
          (∀ hz' channels' bits', Legal hz' channels' bits' → hz' ≤ hz → channels' ≤ channels →
            bits' ≤ bits → ∃ f', StreamFormat.ofParts? hz' channels' bits' = .ok f') ∧
          0 < f.maxPacketSize ∧ f.frameBytes ∣ f.maxPacketSize ∧
          (hz + 1000) * f.frameBytes ≤ 1000 * f.maxPacketSize ∧
          f.Written ∧
          (∀ top, 1023 ≤ top → Unstopped top f.rate f.layout) ∧
          ∀ {U S C : Type} [UsbCore U] (g : Gadget U S C), g.format = f → ∀ top, 1023 ≤ top →
            g.requestEndpointsWithin top = g.requestEndpoints ∧
              ∀ e, g.requestEndpoints.answer = .error e →
                g.endpoint = none ∧ e = .endpointUnavailable := by
  refine ⟨StreamFormat.exists_ofParts?_iff, fun e => StreamFormat.ofParts?_eq_error_iff, ?_, ?_⟩
  · intro top wide legal rate same
    have free := legal.unstopped wide same
    exact ⟨free, free.packetWithin.trans (legal.packetFor same)⟩
  · intro f accepted
    obtain ⟨⟨rfl, rfl, rfl⟩, -, fits⟩ := StreamFormat.ofParts?_eq_ok_iff.1 accepted
    refine ⟨rfl, rfl, rfl, f.maxPacketSize_eq, ?_, f.maxPacketSize_pos,
      f.frameBytes_dvd_maxPacketSize, f.headroom, f.written, fun top wide => f.unstopped wide, ?_⟩
    · intro hz' channels' bits' legal rate few depth
      have smaller := packetOctets_mono rate few depth
      exact StreamFormat.exists_ofParts?_iff.2 ⟨legal, Nat.le_trans smaller fits⟩
    · intro U S C _ g _ top wide
      refine ⟨g.requestEndpointsWithin_eq wide, fun e refused => ?_⟩
      obtain ⟨free, -, cause⟩ := (g.answer_requestEndpoints_eq_error_iff e).1 refused
      exact ⟨free, cause⟩

/-- Eight channels of 24 bits at 41 kHz are just within the bus, and one hertz
more is beyond it. Fewer channels still fit, and a core that has no endpoint
left is all that stands in the way. -/
theorem accepted_formats_fit_octophonic :
    Legal 41000 8 24 ∧ packetOctets 41000 8 24 = 1008 ∧
      StreamFormat.ofParts? 41001 8 24 = .error (.packetTooLarge 1032 1023) ∧
      (∃ f, StreamFormat.ofParts? 41000 3 16 = .ok f) ∧
      ∃ f, StreamFormat.ofParts? 41000 8 24 = .ok f ∧ f.maxPacketSize = 1008 ∧
        let g : Gadget Bench.Core Bench.Sink Bench.Codec :=
          .unregistered Bench.Core.fresh.exhaust Bench.Sink.fresh Bench.Codec.fresh f 2
        g.requestEndpoints.answer = .error .endpointUnavailable ∧
          g.requestEndpointsWithin 65535 = g.requestEndpoints := by
  have legal : Legal 41000 8 24 := ⟨by omega, by omega, by omega⟩
  have fewer : Legal 41000 3 16 := ⟨by omega, by omega, by omega⟩
  have above : Legal 41001 8 24 := ⟨by omega, by omega, by omega⟩
  have octets : packetOctets 41000 8 24 = 1008 := by
    simp [packetOctets, Nat.ceilDiv_eq_add_pred_div]
  have beyond : packetOctets 41001 8 24 = 1032 := by
    simp [packetOctets, Nat.ceilDiv_eq_add_pred_div]
  obtain ⟨accepts, -, -, fits⟩ := accepted_formats_fit 41000 8 24
  obtain ⟨-, refuses, -⟩ := accepted_formats_fit 41001 8 24
  obtain ⟨f, accepted⟩ := accepts.2 ⟨legal, by omega⟩
  obtain ⟨-, -, -, size, smaller, -, -, -, -, -, endpoint⟩ := fits f accepted
  obtain ⟨same, -⟩ := endpoint
    (.unregistered Bench.Core.fresh.exhaust Bench.Sink.fresh Bench.Codec.fresh f 2) rfl 65535
    (by omega)
  have refused := (refuses (.packetTooLarge 1032 1023)).2 (.inl ⟨above, by omega, by rw [beyond]⟩)
  exact ⟨legal, octets, refused, smaller 41000 3 16 fewer (by omega) (by omega) (by omega), f,
    accepted, size.trans octets, rfl, same⟩

end AudioGadget
