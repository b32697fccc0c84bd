import Mathlib.Data.List.Induction
import AudioGadget.Bench.Codec
import AudioGadget.Bench.Core
import AudioGadget.Bench.Sink
import AudioGadget.Proofs.Control.Dialogue
/-!
# Handshake — a write takes the data that directly follows it

A write waits from the packet that announced it to the next thing the
host says, whatever that is. So what waits can be read off the last
exchange (`Awaits`): it is the write of an accepted packet, or nothing.
The packet was accepted because its control exists on its channel, and
the length that waits is that of the control's value, which is all that
storing needs, so data of the announced length cannot fail.
-/

namespace AudioGadget

open Bench

namespace Gadget

variable {U S C : Type} [Codec C]

/-! ## Storing -/

/-- **A write that the unit offers is stored if its data has the length of
a value**, and only then. -/
theorem applyWrite?_isSome {feature : FeatureUnit} {control : Control} {channel : UInt8}
    (offered : feature.supports control channel = true) (room : feature.channels ≤ channelLimit)
    (codec : C) (data : Bytes) :
    (applyWrite? feature codec control channel data).isSome ↔
      data.length = control.payloadLength := by
  unfold applyWrite?
  rw [if_pos offered]
  cases control with
  | mute => rcases data with _ | ⟨b, _ | ⟨more, rest⟩⟩ <;> simp [Control.payloadLength]
  | volume =>
    have among := (FeatureUnit.supports_volume_iff room).1 offered
    have inside : channel.toNat < volumeCount := by
      unfold volumeCount
      omega
    rcases data with _ | ⟨lo, _ | ⟨hi, _ | ⟨more, rest⟩⟩⟩ <;>
      simp [FeatureUnit.setVolume?, among, inside, Control.payloadLength]

/-- What the data of a write is answered. -/
theorem answer_dataStage {g : Gadget U S C} {write : PendingWrite}
    (waits : g.pending = some write)
    (offered : g.feature.supports write.control write.channel = true)
    (room : g.feature.channels ≤ channelLimit)
    (whole : write.length = write.control.payloadLength) (data : Bytes) :
    (g.dataStage data).answer = .handled 0 ↔ data.length = write.length := by
  have stored := applyWrite?_isSome offered room g.codec data
  rw [← whole] at stored
  unfold dataStage
  rw [waits]
  dsimp only [dropPending]
  by_cases right : data.length = write.length
  · obtain ⟨⟨feature, codec⟩, applied⟩ := Option.isSome_iff_exists.1 (stored.2 right)
    simp [right, applied]
  · simp [right]

theorem answer_dataStage_of_free {g : Gadget U S C} (free : g.pending = none) (data : Bytes) :
    (g.dataStage data).answer = .unhandled := by
  simp [dataStage, free]

/-- Data that is taken is stored as the write that waited. -/
theorem stores_of_taken {g : Gadget U S C} {write : PendingWrite} {data : Bytes}
    (waits : g.pending = some write) (taken : (g.dataStage data).answer = .handled 0) :
    Stores g (g.dataStage data).next write.channel write.control data := by
  have heeds := heeds_dataStage g data
  rw [taken] at heeds
  cases heeds with
  | stored waited _ stores =>
    cases waits.symm.trans waited
    exact stores

/-! ## What waits, by the last exchange -/

/-- **What waits is the write of the last exchange**, if that was one. -/
inductive Awaits (g : Gadget U S C) (last? : Option Exchange) : Prop
  | nothing (free : g.pending = none)
      (other : ∀ setup control channel, last? = some (.asked setup (.handled 0)) →
        ¬ setup.Sets control channel)
  | write {setup : SetupPacket} {control : Control} {channel : UInt8}
      (last : last? = some (.asked setup (.handled 0))) (sets : setup.Sets control channel)
      (offered : g.feature.supports control channel = true)
      (waits : g.pending = some ⟨control, channel, control.payloadLength⟩)

theorem Awaits.heeds {g g' : Gadget U S C} {last? exchange? : Option Exchange}
    (h : Awaits g last?) (heeds : Heeds g g' exchange?) : Awaits g' (exchange?.or last?) := by
  cases heeds with
  | quiet same =>
    cases h with
    | nothing free other => exact .nothing (same.pending.trans free) other
    | write last sets offered waits =>
      exact .write last sets (same.feature ▸ offered) (same.pending.trans waits)
  | reset _ free => exact .nothing free (by simp)
  | answered same other =>
    refine .nothing same.pending fun setup control channel last sets => ?_
    cases last
    exact other control channel sets rfl
  | accepted sets offered feature _ waits => exact .write rfl sets (feature ▸ offered) waits
  | stored _ _ _ free => exact .nothing free (by simp)
  | spurned same => exact .nothing same.pending (by simp)

theorem Awaits.answer_dataStage {g : Gadget U S C} {last? : Option Exchange}
    (h : Awaits g last?) (room : g.feature.channels ≤ channelLimit) (data : Bytes) :
    (g.dataStage data).answer = .handled 0 ↔
      ∃ setup control channel, last? = some (.asked setup (.handled 0)) ∧
        setup.Sets control channel ∧ data.length = setup.length.toNat := by
  cases h with
  | nothing free other =>
    rw [answer_dataStage_of_free free]
    refine ⟨nofun, ?_⟩
    rintro ⟨setup, control, channel, last, sets, -⟩
    exact absurd sets (other setup control channel last)
  | @write setup control channel last sets offered waits =>
    rw [Gadget.answer_dataStage waits offered room rfl, ← sets.length]
    refine ⟨fun right => ⟨setup, control, channel, last, sets, right⟩, ?_⟩
    rintro ⟨setup', _, _, last', -, right⟩
    cases last.symm.trans last'
    exact right

variable [UsbCore U] [PcmSink S]

theorem awaits_run {g : Gadget U S C} (free : g.pending = none) (calls : List Call) :
    Awaits (g.run calls).2 (g.dialogue calls).getLast? := by
  induction calls using List.reverseRecOn with
  | nil => exact .nothing free (by simp [dialogue])
  | append_singleton calls call ih =>
    have next := ih.heeds (heeds_perform _ call)
    rw [run_concat, dialogue_concat, List.getLast?_append]
    rcases said : (g.run calls).2.exchange? call with _ | exchange <;>
      simpa [said] using next

theorem exchange?_eq_reset {g : Gadget U S C} {call : Call}
    (h : g.exchange? call = some .reset) :
    call = .powerOn ∨ call = .connect ∨ call = .disconnect := by
  cases call <;> simp_all [exchange?, perform, Exchange.ofCall?]

theorem exchange?_eq_sent {g : Gadget U S C} {call : Call} {data : Bytes} {reply : Reply}
    (h : g.exchange? call = some (.sent data reply)) :
    call = .dataStage data ∧ (g.dataStage data).answer = reply := by
  cases call with
  | dataStage =>
    cases h
    exact ⟨rfl, rfl⟩
  | _ => simp [exchange?, perform, Exchange.ofCall?] at h

/-- **Data that was taken stands right behind its packet.** -/
theorem followed_run {g : Gadget U S C} (free : g.pending = none)
    (room : g.feature.channels ≤ channelLimit) (calls : List Call) {before after : List Exchange}
    {data : Bytes} (said : g.dialogue calls = before ++ .sent data (.handled 0) :: after) :
    ∃ setup control channel, before.getLast? = some (.asked setup (.handled 0)) ∧
      setup.Sets control channel ∧ data.length = setup.length.toNat := by
  induction calls using List.reverseRecOn generalizing after with
  | nil => simp [dialogue] at said
  | append_singleton calls call ih =>
    rw [dialogue_concat] at said
    rcases last : (g.run calls).2.exchange? call with _ | exchange
    · rw [last, Option.toList_none, List.append_nil] at said
      exact ih said
    · rw [last, Option.toList_some] at said
      rcases List.eq_nil_or_concat after with rfl | ⟨after, final, rfl⟩
      · obtain ⟨rfl, same⟩ := List.append_inj' said rfl
        cases same
        obtain ⟨-, taken⟩ := exchange?_eq_sent last
        rw [← channels_run g calls] at room
        exact ((awaits_run free calls).answer_dataStage room data).1 taken
      · rw [List.concat_eq_append, ← List.cons_append, ← List.append_assoc] at said
        exact ih (List.append_inj' said rfl).1

/-- A call that is the data of a write, and is taken. -/
def TakesWrite (g : Gadget U S C) (call : Call) : Prop :=
  ∃ data, call = .dataStage data ∧ (g.dataStage data).answer = .handled 0

/-- **Nothing but a write that is taken and the resets changes a level.** -/
theorem feature_perform {g : Gadget U S C} {call : Call}
    (changed : (g.perform call).next.feature ≠ g.feature) :
    (call = .powerOn ∨ call = .connect ∨ call = .disconnect) ∨ g.TakesWrite call := by
  have heeds := heeds_perform g call
  generalize said : g.exchange? call = exchange? at heeds
  cases heeds with
  | quiet same | answered same | spurned same => exact absurd same.feature changed
  | accepted _ _ same => exact absurd same changed
  | reset => exact .inl (exchange?_eq_reset said)
  | stored => exact .inr ⟨_, exchange?_eq_sent said⟩

/-- The codec is left alone by power-on and by the end of a connection as
well. -/
theorem codec_perform {g : Gadget U S C} {call : Call}
    (changed : (g.perform call).next.codec ≠ g.codec) : call = .connect ∨ g.TakesWrite call := by
  have heeds := heeds_perform g call
  generalize said : g.exchange? call = exchange? at heeds
  cases heeds with
  | quiet same | answered same | spurned same => exact absurd same.codec changed
  | accepted _ _ _ same => exact absurd same changed
  | reset =>
    rcases exchange?_eq_reset said with rfl | rfl | rfl
    · exact absurd rfl changed
    · exact .inl rfl
    · exact absurd (congrArg Gadget.codec (wind_eq g)) changed
  | stored => exact .inr ⟨_, exchange?_eq_sent said⟩

/-- **A write is stored if and only if its data follows it at once**, in the
length it announced. It is stored under the control and on the channel of
its own packet, at most once, since data that is taken stands right behind
its packet; and nothing else changes a level, save the resets. What waits
can always be stored. -/
theorem stored_iff_follows (usb : U) (sink : S) (codec : C) (format : StreamFormat) (slots : Nat)
    (calls : List Call) :
    let start := Gadget.unregistered usb sink codec format slots
    let g := (start.run calls).2
    let said := start.dialogue calls
    (∀ data, (g.dataStage data).answer = .handled 0 ↔
        ∃ setup control channel, said.getLast? = some (.asked setup (.handled 0)) ∧
          setup.Sets control channel ∧ data.length = setup.length.toNat) ∧
      (∀ data setup control channel, (g.dataStage data).answer = .handled 0 →
        said.getLast? = some (.asked setup (.handled 0)) → setup.Sets control channel →
          Stores g (g.dataStage data).next channel control data) ∧
      (∀ before data after, said = before ++ .sent data (.handled 0) :: after →
        ∃ setup control channel, before.getLast? = some (.asked setup (.handled 0)) ∧
          setup.Sets control channel ∧ data.length = setup.length.toNat) ∧
      (∀ call, (g.perform call).next.feature ≠ g.feature →
        (call = .powerOn ∨ call = .connect ∨ call = .disconnect) ∨ g.TakesWrite call) ∧
      (∀ call, (g.perform call).next.codec ≠ g.codec → call = .connect ∨ g.TakesWrite call) ∧
      ∀ write, g.pending = some write →
        write.length = write.control.payloadLength ∧
          g.feature.supports write.control write.channel = true := by
  intro start g said
  have waits : Awaits g said.getLast? := awaits_run rfl calls
  have room : start.feature.channels ≤ channelLimit := format.channels_le
  have room' : g.feature.channels ≤ channelLimit := channels_run start calls ▸ room
  refine ⟨waits.answer_dataStage room', ?_, fun before data after => followed_run rfl room calls,
    fun call => feature_perform, fun call => codec_perform, ?_⟩
  · intro data setup control channel taken last sets
    cases waits with
    | nothing _ other => exact absurd sets (other setup control channel last)
    | write last' sets' _ waits =>
      cases last.symm.trans last'
      obtain ⟨rfl, rfl⟩ := sets.unique sets'
      exact stores_of_taken waits taken
  · intro write pending
    cases waits with
    | nothing free => cases free.symm.trans pending
    | write _ _ offered waits =>
      cases waits.symm.trans pending
      exact ⟨rfl, offered⟩

end Gadget

/-- A host that mutes, thinks better of it, and turns channel 2 down. -/
def hesitant : List Call :=
  [.powerOn, .requestEndpoints, .setFirstInterface 0, .connect,
    .controlRequest (Request.featurePacket 0 .setCurrent .mute 0) [],
    .controlRequest (Request.featurePacket 0 .setCurrent .volume 2) []]

/-- A gadget on the bench, with one slot. -/
def tried : Gadget Core Sink Bench.Codec :=
  .unregistered Core.fresh Sink.fresh Codec.fresh default 1

/-- Data for the packet that was given up is not taken; data for the other
one is, and sets its channel. -/
theorem stored_iff_follows_hesitant :
    ((tried.run hesitant).2.dataStage [1]).answer ≠ .handled 0 ∧
      ((tried.run hesitant).2.dataStage [0, 0xF6]).answer = .handled 0 ∧
      Gadget.Stores (tried.run hesitant).2 ((tried.run hesitant).2.dataStage [0, 0xF6]).next 2
        .volume [0, 0xF6] := by
  obtain ⟨taken, stores, -⟩ :=
    Gadget.stored_iff_follows Core.fresh Sink.fresh Codec.fresh default 1 hesitant
  have last : (tried.dialogue hesitant).getLast? =
      some (.asked (Request.featurePacket 0 .setCurrent .volume 2) (.handled 0)) := by
    decide +kernel
  have sets : (Request.featurePacket 0 .setCurrent .volume 2).Sets .volume 2 :=
    sets_featurePacket 0
  have right : ((tried.run hesitant).2.dataStage [0, 0xF6]).answer = .handled 0 :=
    (taken [0, 0xF6]).2 ⟨_, _, _, last, sets, rfl⟩
  refine ⟨fun wrong => ?_, right, stores _ _ _ _ right last sets⟩
  obtain ⟨setup, control, channel, last', -, length⟩ := (taken [1]).1 wrong
  cases last.symm.trans last'
  cases length

end AudioGadget
