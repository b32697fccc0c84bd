import Mathlib.Data.Nat.Bitwise
import AudioGadget.Bench.Codec
import AudioGadget.Bench.Core
import AudioGadget.Bench.Sink
import AudioGadget.Proofs.Control.Dialogue
import AudioGadget.Proofs.Descriptors.Survey
/-!
# Offer — the controls that a fragment advertises are those that are served

What a feature unit offers is written down twice: in the control octets
of its descriptor, one for the master and one for each channel, and in
the requests that the gadget answers. A host knows only the octets, and
the number of the unit and of its interface from the same fragment, so it
asks with those (`unitPacket`) and expects what they promise (`Offers`).

Both sides come down to the same short list, mute on the master and
volume on the master and every channel: `offers_iff` for the octets,
`handled_unitPacket` for the requests.
-/

namespace AudioGadget

/-! ## What the octets promise -/

/-- The bit of a selector is set in an octet. The lowest bit is that of
selector 1, and an octet has eight. -/
def HasBit (octet selector : UInt8) : Prop :=
  1 ≤ selector.toNat ∧ selector.toNat ≤ 8 ∧ octet.toNat.testBit (selector.toNat - 1) = true

/-- **A unit offers a control on a channel** if the channel has an octet in
which the bit of the selector is set. -/
def OfferedUnit.Offers (u : OfferedUnit) (channel selector : UInt8) : Prop :=
  ∃ octet, u.controls[channel.toNat]? = some octet ∧ HasBit octet selector

/-- The control interfaces that were met. -/
def Survey.controlInterfaces (s : Survey) : List UInt8 :=
  (s.settings.filter fun setting => setting.part = some .control).map Setting.number

theorem hasBit_master {selector : UInt8} : HasBit 0x03 selector ↔ selector = 1 ∨ selector = 2 := by
  have low (i : Nat) : Nat.testBit 3 i = decide (i < 2) := Nat.testBit_two_pow_sub_one 2 i
  simp only [HasBit, ← UInt8.toNat_inj]
  show _ ∧ _ ∧ Nat.testBit 3 _ = true ↔ selector.toNat = 1 ∨ selector.toNat = 2
  rw [low, decide_eq_true_eq]
  omega

theorem hasBit_volume {selector : UInt8} : HasBit 0x02 selector ↔ selector = 2 := by
  have second (i : Nat) : Nat.testBit 2 i = decide (1 = i) := @Nat.testBit_two_pow 1 i
  simp only [HasBit, ← UInt8.toNat_inj]
  show _ ∧ _ ∧ Nat.testBit 2 _ = true ↔ selector.toNat = 2
  rw [second, decide_eq_true_eq]
  omega

/-- **Mute is offered on the master, volume on every channel**, and nothing
else is. -/
theorem offers_iff {id channel selector : UInt8} {channels : Nat} :
    (OfferedUnit.mk id (0x03 :: List.replicate channels 0x02)).Offers channel selector ↔
      (selector = 1 ∧ channel = 0) ∨ (selector = 2 ∧ channel.toNat ≤ channels) := by
  have master : channel = 0 ↔ channel.toNat = 0 := UInt8.toNat_inj.symm
  unfold OfferedUnit.Offers
  rw [master]
  rcases channel.toNat with _ | k
  · simp [hasBit_master]
  · simp only [List.getElem?_cons_succ, List.getElem?_replicate, Nat.add_one_le_iff]
    by_cases among : k < channels
    · simp [among, hasBit_volume]
    · simp [among]

/-! ## What is served -/

/-- What a host sends to a unit of a control interface. -/
def unitPacket (interface unit : UInt8) (verb : Verb) (channel selector : UInt8)
    (length : UInt16) : SetupPacket where
  requestType := Request.classRequestType verb.direction
  request := verb.code
  value := field16 channel selector
  index := field16 interface unit
  length := length

/-- A selector that names no control is not read, whatever the verb. -/
theorem ofSetup?_unitPacket_of_none {selector : UInt8} (unknown : Control.ofCode? selector = none)
    (interface streaming : UInt8) (verb : Verb) (channel : UInt8) (length : UInt16) :
    Request.ofSetup? (unitPacket interface featureUnitId verb channel selector length) interface
      streaming = none := by
  cases verb <;>
    simp [Request.ofSetup?, Request.ofClass?, unitPacket, Request.classRequestType, Verb.direction,
      Verb.ofCode?_code, SetupPacket.recipient, SetupPacket.kind, SetupPacket.direction,
      Direction.ofTopBit, unknown]

namespace Gadget

variable {U S C : Type} [UsbCore U] [PcmSink S]

/-- **What a unit is asked is handled if the control exists on the
channel**, and if it has a range where the range is asked for. -/
theorem handled_featurePacket {g : Gadget U S C} {control streaming : UInt8}
    (own : g.interfaces? = some (control, streaming)) (room : g.feature.channels ≤ channelLimit)
    (verb : Verb) (c : Control) (channel : UInt8) {dest : Bytes}
    (fits : verb ≠ .setCurrent → c.payloadLength ≤ dest.length) :
    (g.controlRequest (Request.featurePacket control verb c channel) dest).answer.1 ≠ .unhandled ↔
      g.feature.supports c channel = true ∧
        (verb = .setCurrent ∨ verb = .getCurrent ∨ c = .volume) := by
  by_cases writes : verb = .setCurrent
  · subst writes
    rw [(controlRequest_of_read own (Request.ofSetup?_featurePacket ..) dest).1]
    change (g.dropPending.acceptWrite c channel).answer ≠ .unhandled ↔ _
    unfold acceptWrite
    by_cases offered : g.feature.supports c channel = true <;> simp [dropPending, offered]
  · rw [answer_featurePacket own writes, Reply.write_ne_unhandled_iff,
      FeatureUnit.fits_read?_iff room writes]
    simp [writes, fits writes]

/-- **A packet to the unit is handled if its selector names a control that
the channel has**, and one with a range where the range is asked for. -/
theorem handled_unitPacket {g : Gadget U S C} {control streaming : UInt8}
    (own : g.interfaces? = some (control, streaming)) (room : g.feature.channels ≤ channelLimit)
    (verb : Verb) (channel : UInt8) {selector : UInt8} {size : UInt16} (dest : Bytes)
    (right : ∀ c, Control.ofCode? selector = some c → size = UInt16.ofNat c.payloadLength)
    (fits : verb ≠ .setCurrent →
      ∀ c, Control.ofCode? selector = some c → c.payloadLength ≤ dest.length) :
    (g.controlRequest (unitPacket control featureUnitId verb channel selector size)
        dest).answer.1 ≠ .unhandled ↔
      ∃ c, Control.ofCode? selector = some c ∧ g.feature.supports c channel = true ∧
        (verb = .setCurrent ∨ verb = .getCurrent ∨ c = .volume) := by
  rcases known : Control.ofCode? selector with _ | c
  · have unread (first second : UInt8) (named : g.interfaces? = some (first, second)) :
        Request.ofSetup? (unitPacket control featureUnitId verb channel selector size) first
          second = none := by
      obtain ⟨rfl, rfl⟩ := Prod.mk.inj (Option.some.inj (own.symm.trans named))
      exact ofSetup?_unitPacket_of_none known control streaming verb channel size
    rw [(controlRequest_of_unread unread dest).1]
    simp
  · have packet : unitPacket control featureUnitId verb channel selector size =
        Request.featurePacket control verb c channel := by
      rw [right c known, Control.ofCode?_eq_some_iff.1 known]
      rfl
    rw [packet, handled_featurePacket own room verb c channel fun reads => fits reads c known]
    simp

/-- **The controls that a fragment advertises are those that are served.**
Whatever was set or streamed before, a host that takes the numbers of the
control interface and of the feature unit from the fragment gets a
request handled, on any channel and for any selector, exactly if the
octet of that channel is there and has the selector's bit; and the ends
and the step of a range exactly if the selector is that of the volume as
well. The packet announces the length of the control's value, and what is
asked for has room. -/
theorem served_iff_offered [Codec C] (usb : U) (sink : S) (codec : C) (format : StreamFormat)
    (slots : Nat) (calls : List Call) (maxPacket length : Nat) (dest out : Bytes) :
    let g := ((Gadget.unregistered usb sink codec format slots).run calls).2
    g.writeDescriptors maxPacket dest = (.ok length, out) →
      ∃ survey interface unit, Survey.ofBytes? (out.take length) = some survey ∧
        survey.controlInterfaces = [interface] ∧ survey.units = [unit] ∧
        ∀ (verb : Verb) (channel selector : UInt8) (size : UInt16) (buffer : Bytes),
          (selector = 1 → size = 1) → (selector = 2 → size = 2) →
          (verb ≠ .setCurrent → selector = 1 ∨ selector = 2 → size.toNat ≤ buffer.length) →
            ((g.controlRequest (unitPacket interface unit.id verb channel selector size)
                buffer).answer.1 ≠ .unhandled ↔
              unit.Offers channel selector ∧
                (verb = .setCurrent ∨ verb = .getCurrent ∨ selector = 2)) := by
  intro g written
  obtain ⟨n, numbered, -, surveyed⟩ := Survey.of_writeDescriptors written
  obtain ⟨format', control, streaming, -, -⟩ := Gadget.of_numbering?_eq_ok numbered
  have own : g.interfaces? = some (n.controlInterface, n.streamingInterface) := by
    simp only [interfaces?, control, streaming]
  have kept : g.format = format := (terms_run _ calls).format
  have channels : g.feature.channels = n.format.channels := by
    rw [format', kept]
    exact channels_run _ calls
  have room : g.feature.channels ≤ channelLimit := channels ▸ n.format.channels_le
  refine ⟨_, n.controlInterface, _, surveyed, rfl, rfl, ?_⟩
  intro verb channel selector size buffer mute volume fits
  -- the packet's own conditions, by the control that its selector names
  have right (c : Control) (known : Control.ofCode? selector = some c) :
      size = UInt16.ofNat c.payloadLength ∧ (selector = 1 ∨ selector = 2) := by
    have code := Control.ofCode?_eq_some_iff.1 known
    cases c with
    | mute => exact ⟨mute code, .inl code⟩
    | volume => exact ⟨volume code, .inr code⟩
  have served := handled_unitPacket own room verb channel buffer
    (fun c known => (right c known).1) fun reads c known => by
      have whole := fits reads (right c known).2
      rw [(right c known).1] at whole
      cases c <;> exact whole
  refine served.trans ?_
  rw [offers_iff, ← channels]
  constructor
  · rintro ⟨c, known, offered, asked⟩
    have code := Control.ofCode?_eq_some_iff.1 known
    cases c with
    | mute =>
      have plain : verb = .setCurrent ∨ verb = .getCurrent := by simpa using asked
      exact ⟨.inl ⟨code, FeatureUnit.supports_mute_iff.1 offered⟩, plain.imp_right .inl⟩
    | volume =>
      exact ⟨.inr ⟨code, (FeatureUnit.supports_volume_iff room).1 offered⟩, .inr (.inr code)⟩
  · rintro ⟨⟨rfl, master⟩ | ⟨rfl, among⟩, asked⟩
    · exact ⟨.mute, rfl, FeatureUnit.supports_mute_iff.2 master, by simpa using asked⟩
    · exact ⟨.volume, rfl, (FeatureUnit.supports_volume_iff room).2 among, .inr (.inr rfl)⟩

end Gadget

/-- A gadget that was numbered from 5 on, streams, and has channel 1 turned
down. -/
def turnedDown : List Call :=
  [.powerOn, .requestEndpoints, .setFirstInterface 5, .setFirstString 1, .connect,
    .setInterface 6 1, .controlRequest (Request.featurePacket 5 .setCurrent .volume 1) [],
    .dataStage [0, 0xF6]]

/-- A gadget on the bench, with two slots. -/
def shown : Gadget Bench.Core Bench.Sink Bench.Codec :=
  .unregistered .fresh .fresh .fresh default 2

/-- The numbers it has. -/
def turnedDownNumbers : Numbering :=
  ⟨default, 5, 6, .ofNumber 1 .hostToDevice, 1⟩

/-- The last channel has a softest level, and there is no channel behind
it. -/
theorem served_iff_offered_turnedDown :
    let g := (shown.run turnedDown).2
    ∃ out, g.writeDescriptors 196 (List.replicate 109 0) = (.ok 109, out) ∧
      (g.controlRequest (unitPacket 5 2 .getMinimum 2 2 2) [0, 0]).answer.1 ≠ .unhandled ∧
      (g.controlRequest (unitPacket 5 2 .getCurrent 3 2 2) [0, 0]).answer.1 = .unhandled := by
  intro g
  have numbered : g.numbering? = .ok turnedDownNumbers := by rfl
  have done : (g.writeDescriptors 196 (List.replicate 109 0)).1 = .ok 109 := by rfl
  have written : g.writeDescriptors 196 (List.replicate 109 0) = (.ok 109, _) := Prod.ext done rfl
  obtain ⟨survey, interface, unit, surveyed, own, units, served⟩ :=
    Gadget.served_iff_offered Bench.Core.fresh Bench.Sink.fresh Bench.Codec.fresh default 2
      turnedDown 196 109 _ _ written
  obtain ⟨n, numbered', -, surveyed'⟩ := Survey.of_writeDescriptors written
  cases numbered.symm.trans numbered'
  cases surveyed.symm.trans surveyed'
  cases own
  cases units
  refine ⟨_, written, ?_, ?_⟩
  · exact (served .getMinimum 2 2 2 [0, 0] (by decide) (by decide) (by decide)).2
      ⟨offers_iff.2 (.inr ⟨rfl, by decide⟩), .inr (.inr rfl)⟩
  · by_contra handled
    obtain ⟨offered, -⟩ :=
      (served .getCurrent 3 2 2 [0, 0] (by decide) (by decide) (by decide)).1 handled
    exact absurd (offers_iff.1 offered) (by decide)

end AudioGadget
