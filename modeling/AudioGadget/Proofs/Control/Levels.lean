import AudioGadget.Proofs.Control.Handshake
/-!
# Levels — a control reads as it was last written

A level is not kept as it was written: a volume is rounded to the grid on
its way in, and the resets put every level back. So what a reading answers
is a matter of the whole run. It depends on one thing, though, the last
data that was taken for this control on this channel since everything was
put back (`lastWrite?`), and a run keeps that in step with the levels
(`Remembers`). Which data belongs to which packet is the handshake's
affair (`Awaits`).
-/

namespace AudioGadget

open Bench

/-- **`value` is `raw` on the grid**: the nearest multiple of a step, of two
the upper one, and no softer and no louder than the ends of the range. -/
def Volume.Rounds (raw value : Int) : Prop :=
  ∃ multiple : Int, (resolution : Int) ∣ multiple ∧ 2 * (multiple - raw) ≤ resolution ∧
    2 * (raw - multiple) < resolution ∧ value = max softest.raw (min loudest.raw multiple)

theorem Volume.rounds_nearest (raw : Int) : Rounds raw (nearest raw).raw := by
  refine ⟨resolution * ((raw + 64) / resolution), Int.dvd_mul_right .., ?_, ?_, ?_⟩
  all_goals
    simp only [resolution, nearest, softest, loudest, Volume.raw]
    omega

/-- **The last data that was taken for a control on a channel**, since
everything was last put back. The newest exchange is the first. -/
def lastWrite? (control : Control) (channel : UInt8) : List Exchange → Option Bytes
  | [] => none
  | .reset :: _ => none
  | .sent data (.handled _) :: .asked setup _ :: older =>
    if setup.Sets control channel then some data else lastWrite? control channel older
  | _ :: older => lastWrite? control channel older

theorem lastWrite?_asked (control : Control) (channel : UInt8) (setup : SetupPacket)
    (reply : Reply) (past : List Exchange) :
    lastWrite? control channel (.asked setup reply :: past) = lastWrite? control channel past := rfl

/-- Data counts for what its own packet sets. -/
theorem lastWrite?_sent {setup : SetupPacket} {control : Control} {channel : UInt8}
    (sets : setup.Sets control channel) (control' : Control) (channel' : UInt8) (data : Bytes)
    (reply : Reply) (older : List Exchange) :
    lastWrite? control' channel' (.sent data (.handled 0) :: .asked setup reply :: older) =
      if control' = control ∧ channel' = channel then some data
      else lastWrite? control' channel' (.asked setup reply :: older) := by
  rw [lastWrite?, lastWrite?_asked]
  by_cases own : control' = control ∧ channel' = channel
  · obtain ⟨rfl, rfl⟩ := own
    rw [if_pos sets, if_pos ⟨rfl, rfl⟩]
  · rw [if_neg fun other => own (sets.unique other), if_neg own]

/-- The volume of a channel after its last write. -/
inductive VolumeAfter : Option Bytes → Volume → Prop
  | reset : VolumeAfter none .unity
  | written (lo hi : UInt8) : VolumeAfter (some [lo, hi]) (.nearest (signedWord lo hi))

/-- The mute after its last write. -/
inductive MuteAfter : Option Bytes → Bool → Prop
  | reset : MuteAfter none false
  | written (b : UInt8) : MuteAfter (some [b]) (b ≠ 0)

theorem VolumeAfter.rounds {data? : Option Bytes} {v : Volume} (h : VolumeAfter data? v) :
    (data? = none → v.raw = 0) ∧
      ∀ data, data? = some data →
        ∃ lo hi, data = [lo, hi] ∧ Volume.Rounds (signedWord lo hi) v.raw := by
  cases h with
  | reset => exact ⟨fun _ => rfl, nofun⟩
  | written lo hi =>
    refine ⟨nofun, fun data same => ?_⟩
    cases same
    exact ⟨lo, hi, rfl, Volume.rounds_nearest _⟩

theorem MuteAfter.eq_true_iff {data? : Option Bytes} {muted : Bool} (h : MuteAfter data? muted) :
    muted = true ↔ ∃ b, data? = some [b] ∧ b ≠ 0 := by
  cases h with
  | reset => simp
  | written b => simp

namespace Gadget

variable {U S C : Type}

/-- What is answered when the feature unit of an interface is asked for the
current value of a control. -/
def reading [UsbCore U] [PcmSink S] (g : Gadget U S C) (interface : UInt8) (c : Control)
    (channel : UInt8) (dest : Bytes) : Reply × Bytes :=
  (g.controlRequest (Request.featurePacket interface .getCurrent c channel) dest).answer

/-- A reading is answered from the feature unit, whatever waits. -/
theorem reading_eq [UsbCore U] [PcmSink S] {g : Gadget U S C} {control streaming : UInt8}
    (own : g.interfaces? = some (control, streaming)) (c : Control) (channel : UInt8)
    (dest : Bytes) :
    g.reading control c channel dest =
      Reply.write dest (g.feature.read? .getCurrent c channel) :=
  answer_featurePacket own (by decide) c channel dest

/-- **The levels are those last written**; `past` is what was said, the
newest first. -/
structure Remembers (g : Gadget U S C) (past : List Exchange) : Prop where
  volume : ∀ channel, channel.toNat ≤ g.feature.channels →
    ∃ v, g.feature.volume? channel = some v ∧ VolumeAfter (lastWrite? .volume channel past) v
  mute : MuteAfter (lastWrite? .mute 0 past) g.feature.muted

theorem Remembers.of_feature {g g' : Gadget U S C} {past past' : List Exchange}
    (h : Remembers g past) (same : g'.feature = g.feature)
    (last : ∀ control channel, lastWrite? control channel past' = lastWrite? control channel past) :
    Remembers g' past' := by
  constructor
  · rw [same]
    simpa only [last] using h.volume
  · rw [same, last]
    exact h.mute

theorem remembers_powerOn {g : Gadget U S C} {past : List Exchange} {channels : Nat}
    (feature : g.feature = .powerOn channels) (room : channels ≤ channelLimit)
    (none : ∀ control channel, lastWrite? control channel past = none) : Remembers g past := by
  constructor
  · rw [feature]
    intro channel among
    have inside : channel.toNat < volumeCount := Nat.lt_succ_of_le (Nat.le_trans among room)
    exact ⟨.unity, FeatureUnit.volume?_powerOn among inside, none .. ▸ .reset⟩
  · rw [feature, none]
    exact .reset

theorem Remembers.read?_volume {g : Gadget U S C} {past : List Exchange} (h : Remembers g past)
    (room : g.feature.channels ≤ channelLimit) {channel : UInt8}
    (among : channel.toNat ≤ g.feature.channels) :
    ∃ v, g.feature.read? .getCurrent .volume channel = some (Volume.bytes v) ∧
      VolumeAfter (lastWrite? .volume channel past) v := by
  obtain ⟨v, level, after⟩ := h.volume channel among
  refine ⟨v, ?_, after⟩
  simp [FeatureUnit.read?, (FeatureUnit.supports_volume_iff room).2 among, level]

variable [Codec C]

/-- **A write that is taken is the last of its control and channel**, and
the others keep theirs. -/
theorem Remembers.stores {g g' : Gadget U S C} {control : Control} {channel : UInt8}
    {data : Bytes} {past past' : List Exchange} (h : Remembers g past)
    (stores : Stores g g' channel control data)
    (offered : g.feature.supports control channel = true)
    (last : ∀ control' channel', lastWrite? control' channel' past' =
      if control' = control ∧ channel' = channel then some data
      else lastWrite? control' channel' past) :
    Remembers g' past' := by
  cases stores with
  | mute b feature =>
    have master := FeatureUnit.supports_mute_iff.1 offered
    constructor
    · rw [feature]
      simp only [last, reduceCtorEq, false_and, if_false]
      exact h.volume
    · rw [feature, last, if_pos ⟨rfl, master.symm⟩]
      exact .written b
  | volume lo hi feature =>
    obtain ⟨muted, channels⟩ := FeatureUnit.muted_of_setVolume? feature
    constructor
    · intro other among
      rw [FeatureUnit.volume?_of_setVolume? feature, last]
      by_cases same : other = channel
      · rw [if_pos same, if_pos ⟨rfl, same⟩]
        exact ⟨_, rfl, .written lo hi⟩
      · rw [if_neg same, if_neg fun own => same own.2]
        exact h.volume other (channels ▸ among)
    · rw [muted, last, if_neg (by simp)]
      exact h.mute

theorem Remembers.heeds {g g' : Gadget U S C} {past : List Exchange} {exchange? : Option Exchange}
    (h : Remembers g past) (waits : Awaits g past.head?) (room : g.feature.channels ≤ channelLimit)
    (heeds : Heeds g g' exchange?) : Remembers g' (exchange?.toList ++ past) := by
  cases heeds with
  | quiet same => exact h.of_feature same.feature fun _ _ => rfl
  | reset feature => exact remembers_powerOn feature room fun _ _ => rfl
  | answered same => exact h.of_feature same.feature fun _ _ => rfl
  | accepted _ _ same => exact h.of_feature same fun _ _ => rfl
  | spurned same => exact h.of_feature same.feature fun _ _ => rfl
  | stored waited _ stores =>
    cases waits with
    | nothing free => cases free.symm.trans waited
    | write last sets offered waits =>
      cases waits.symm.trans waited
      -- the packet of this data is what was said just before
      obtain ⟨older, rfl⟩ := List.head?_eq_some_iff.1 last
      exact h.stores stores offered fun _ _ => lastWrite?_sent sets ..

/-- A write that is taken is read under its own control on its own channel,
and nowhere else. -/
theorem Stores.read? {g g' : Gadget U S C} {control : Control} {channel : UInt8} {data : Bytes}
    (h : Stores g g' channel control data) (offered : g.feature.supports control channel = true)
    {control' : Control} {channel' : UInt8} (other : ¬(control' = control ∧ channel' = channel)) :
    g'.feature.read? .getCurrent control' channel' =
      g.feature.read? .getCurrent control' channel' := by
  have supports : g'.feature.supports control' channel' = g.feature.supports control' channel' := by
    unfold FeatureUnit.supports
    rw [h.channels]
  unfold FeatureUnit.read?
  rw [supports]
  split
  · rename_i offered'
    cases h with
    | mute b feature =>
      cases control' with
      | mute =>
        have same : channel' = channel := (FeatureUnit.supports_mute_iff.1 offered').trans
          (FeatureUnit.supports_mute_iff.1 offered).symm
        exact absurd ⟨rfl, same⟩ other
      | volume => rw [feature, FeatureUnit.volume?_setMuted]
    | volume lo hi feature =>
      cases control' with
      | mute => rw [(FeatureUnit.muted_of_setVolume? feature).1]
      | volume =>
        have apart : channel' ≠ channel := fun same => other ⟨rfl, same⟩
        rw [FeatureUnit.volume?_of_setVolume? feature, if_neg apart]
  · rfl

/-! ## Every run -/

variable [UsbCore U] [PcmSink S]

theorem remembers_run (usb : U) (sink : S) (codec : C) (format : StreamFormat) (slots : Nat)
    (calls : List Call) :
    let start := Gadget.unregistered usb sink codec format slots
    Remembers (start.run calls).2 (start.dialogue calls).reverse := by
  intro start
  have room : start.feature.channels ≤ channelLimit := format.channels_le
  induction calls using List.reverseRecOn with
  | nil => exact remembers_powerOn rfl format.channels_le fun _ _ => rfl
  | append_singleton calls call ih =>
    have waits : Awaits (start.run calls).2 (start.dialogue calls).reverse.head? := by
      rw [List.head?_reverse]
      exact awaits_run rfl calls
    rw [← channels_run start calls] at room
    have next := ih.heeds waits room (heeds_perform _ call)
    rw [run_concat, dialogue_concat, List.reverse_append]
    rcases said : (start.run calls).2.exchange? call with _ | exchange <;>
      simpa [said] using next

/-- **A reading changes with the data of its own control and channel**, and
with the resets. -/
theorem read?_perform {g : Gadget U S C} {last? : Option Exchange} (waits : Awaits g last?)
    {call : Call} {control : Control} {channel : UInt8}
    (changed : (g.perform call).next.feature.read? .getCurrent control channel ≠
      g.feature.read? .getCurrent control channel) :
    (call = .powerOn ∨ call = .connect ∨ call = .disconnect) ∨
      ∃ data setup, call = .dataStage data ∧ (g.dataStage data).answer = .handled 0 ∧
        last? = some (.asked setup (.handled 0)) ∧ setup.Sets control channel := by
  rcases feature_perform fun same => changed (by rw [same]) with reset | ⟨data, rfl, taken⟩
  · exact .inl reset
  · cases waits with
    | nothing free => cases (answer_dataStage_of_free free data).symm.trans taken
    | @write setup control' channel' last sets offered waits =>
      refine .inr ⟨data, setup, rfl, taken, last, ?_⟩
      by_contra none
      refine changed ((stores_of_taken waits taken).read? offered fun own => ?_)
      obtain ⟨rfl, rfl⟩ := own
      exact none sets

/-- **A control reads as it was last written**, by data that was taken since
everything was last put back: a volume rounded to the grid and clamped, 0
where there is no such write, and a mute as the truth value of its octet.
Only the resets and a taken write to this very control and channel change
a reading. -/
theorem reading_is_last_write (usb : U) (sink : S) (codec : C) (format : StreamFormat)
    (slots : Nat) (calls : List Call) (control streaming : UInt8) :
    let start := Gadget.unregistered usb sink codec format slots
    let g := (start.run calls).2
    let past := (start.dialogue calls).reverse
    g.interfaces? = some (control, streaming) →
      (∀ channel dest, channel.toNat ≤ format.channels → 2 ≤ dest.length →
        ∃ value, g.reading control .volume channel dest =
            (.handled 2, leSigned16 value ++ dest.drop 2) ∧
          (lastWrite? .volume channel past = none → value = 0) ∧
          ∀ data, lastWrite? .volume channel past = some data →
            ∃ lo hi, data = [lo, hi] ∧ Volume.Rounds (signedWord lo hi) value) ∧
      (∀ dest, 1 ≤ dest.length →
        ∃ octet, g.reading control .mute 0 dest = (.handled 1, octet :: dest.drop 1) ∧
          (octet = 0 ∨ octet = 1) ∧
          (octet = 1 ↔ ∃ b, lastWrite? .mute 0 past = some [b] ∧ b ≠ 0)) ∧
      ∀ call c channel dest interface streaming',
        (g.perform call).next.interfaces? = some (interface, streaming') →
          (g.perform call).next.reading interface c channel dest ≠
              g.reading control c channel dest →
            (call = .powerOn ∨ call = .connect ∨ call = .disconnect) ∨
              ∃ data setup, call = .dataStage data ∧ (g.dataStage data).answer = .handled 0 ∧
                past.head? = some (.asked setup (.handled 0)) ∧ setup.Sets c channel := by
  intro start g past own
  have remembers : Remembers g past := remembers_run usb sink codec format slots calls
  have channels : g.feature.channels = format.channels := channels_run start calls
  have room : g.feature.channels ≤ channelLimit := channels ▸ format.channels_le
  refine ⟨fun channel dest among fits => ?_, fun dest fits => ?_, ?_⟩
  · obtain ⟨v, read, after⟩ := remembers.read?_volume room (channels ▸ among)
    refine ⟨v.raw, ?_, after.rounds⟩
    rw [reading_eq own, read]
    exact Reply.write_of_le fits
  · refine ⟨if g.feature.muted then 1 else 0, ?_, ?_, ?_⟩
    · rw [reading_eq own, FeatureUnit.read?, if_pos (FeatureUnit.supports_mute_iff.2 rfl)]
      exact Reply.write_of_le fits
    · cases g.feature.muted <;> decide
    · rw [← remembers.mute.eq_true_iff]
      cases g.feature.muted <;> decide
  · intro call c channel dest interface streaming' own' changed
    have waits : Awaits g past.head? := by
      rw [List.head?_reverse]
      exact awaits_run rfl calls
    refine read?_perform waits fun same => changed ?_
    rw [reading_eq own, reading_eq own', same]

end Gadget

/-- Channel 2 is set between two steps, and a mute has data that is too
long. -/
def fumbled : List Call :=
  [.powerOn, .requestEndpoints, .setFirstInterface 0, .connect,
    .controlRequest (Request.featurePacket 0 .setCurrent .volume 2) [], .dataStage [0x30, 0xF6],
    .controlRequest (Request.featurePacket 0 .setCurrent .mute 0) [], .dataStage [1, 1]]

theorem reading_is_last_write_fumbled :
    (tried.run fumbled).2.interfaces? = some (0, 1) ∧
      (∃ value, (tried.run fumbled).2.reading 0 .volume 2 [7, 7, 7] =
          (.handled 2, leSigned16 value ++ [7]) ∧ Volume.Rounds (-2512) value) ∧
      (tried.run fumbled).2.reading 0 .volume 1 [7, 7] = (.handled 2, [0, 0]) ∧
      (tried.run fumbled).2.reading 0 .mute 0 [7] = (.handled 1, [0]) := by
  have own : (tried.run fumbled).2.interfaces? = some (0, 1) := by decide +kernel
  obtain ⟨volumes, mutes, -⟩ :=
    Gadget.reading_is_last_write Core.fresh Sink.fresh Codec.fresh default 1 fumbled 0 1 own
  refine ⟨own, ?_, ?_, ?_⟩
  · obtain ⟨value, answer, -, written⟩ := volumes 2 [7, 7, 7] (by decide) (by decide)
    have last : lastWrite? .volume 2 (tried.dialogue fumbled).reverse = some [0x30, 0xF6] := by
      decide +kernel
    obtain ⟨lo, hi, same, rounds⟩ := written _ last
    cases same
    have raw : signedWord 0x30 0xF6 = -2512 := by decide +kernel
    rw [raw] at rounds
    exact ⟨value, answer, rounds⟩
  · obtain ⟨value, answer, reset, -⟩ := volumes 1 [7, 7] (by decide) (by decide)
    have none : lastWrite? .volume 1 (tried.dialogue fumbled).reverse = none := by decide +kernel
    rw [reset none] at answer
    exact answer
  · obtain ⟨octet, answer, few, one⟩ := mutes [7] (by decide)
    have none : lastWrite? .mute 0 (tried.dialogue fumbled).reverse = none := by decide +kernel
    have zero : octet = 0 := few.resolve_right fun is => by
      obtain ⟨b, last, -⟩ := one.1 is
      cases none.symm.trans last
    rw [zero] at answer
    exact answer

end AudioGadget
