import Mathlib.Data.List.Induction
import AudioGadget.Bench.Core
import AudioGadget.Bench.Sink
import AudioGadget.Dac.Shadow
import AudioGadget.Proofs.Control.Handshake
/-!
# Loudness — the codec plays at the levels of the feature unit

A codec reports nothing back, so it is at the right levels only if it was
told of every change as it was made, and of every level when a host comes.
`Tells` lists what a call can tell it: nothing, everything, or the one
level that a write stores. A call of the first kind that puts the levels
back is the only one to leave the codec behind, and that is power-on or
the end of a connection.

What a codec makes of the words it hears is its own affair. `Follows` asks
of it that its levels can be read somehow, and that each word moves the
reading as the feature unit moves; then in a connection it agrees with the
unit (`agrees_run`). A codec that keeps a list of what it heard follows,
and so does the shadow of the DAC, whose outputs are not channels.
-/

namespace AudioGadget

open Bench

/-! ## What was heard last -/

/-- The mute that a codec is told. -/
def Bench.CodecCall.mute? : CodecCall → Option Bool
  | .setMute muted => some muted
  | .setVolume .. => none

/-- The volume that a codec is told for a channel. -/
def Bench.CodecCall.volume? (channel : UInt8) : CodecCall → Option Volume
  | .setMute _ => none
  | .setVolume other v => if other = channel then some v else none

/-- **The last mute that a codec was told.** -/
def lastMute? (calls : List CodecCall) : Option Bool :=
  (calls.filterMap CodecCall.mute?).getLast?

/-- **The last volume that a codec was told for a channel.** -/
def lastVolume? (channel : UInt8) (calls : List CodecCall) : Option Volume :=
  (calls.filterMap (CodecCall.volume? channel)).getLast?

theorem lastMute?_concat_setMute (calls : List CodecCall) (muted : Bool) :
    lastMute? (calls ++ [.setMute muted]) = some muted := by
  simp [lastMute?, CodecCall.mute?]

theorem lastMute?_concat_setVolume (calls : List CodecCall) (channel : UInt8) (v : Volume) :
    lastMute? (calls ++ [.setVolume channel v]) = lastMute? calls := by
  simp [lastMute?, CodecCall.mute?]

theorem lastVolume?_concat_setMute (channel : UInt8) (calls : List CodecCall) (muted : Bool) :
    lastVolume? channel (calls ++ [.setMute muted]) = lastVolume? channel calls := by
  simp [lastVolume?, CodecCall.volume?]

theorem lastVolume?_concat_setVolume (channel : UInt8) (calls : List CodecCall) (other : UInt8)
    (v : Volume) :
    lastVolume? channel (calls ++ [.setVolume other v]) =
      if other = channel then some v else lastVolume? channel calls := by
  by_cases same : other = channel <;> simp [lastVolume?, CodecCall.volume?, same]

/-! ## What a call tells the codec -/

namespace Gadget

variable {U S C : Type}

/-- What a codec is told of the volume of one channel. -/
def tellVolume [Codec C] (u : FeatureUnit) (codec : C) (channel : Nat) : C :=
  match u.volume? (UInt8.ofNat channel) with
  | some v => Codec.setVolume codec (UInt8.ofNat channel) v
  | none => codec

/-- What a codec is told when a host comes: the mute, and every volume. -/
def tellAll [Codec C] (u : FeatureUnit) (codec : C) : C :=
  (List.range (u.channels + 1)).foldl (tellVolume u) (Codec.setMute codec u.muted)

/-- **What a call tells the codec**, `g` before and `g'` afterwards. -/
inductive Tells [Codec C] (g g' : Gadget U S C) : Call → Prop
  | silent {call : Call} (feature : g'.feature = g.feature) (codec : g'.codec = g.codec) :
      Tells g g' call
  /-- The levels are put back, and the codec hears nothing of it. -/
  | left {call : Call} (ends : call = .powerOn ∨ call = .disconnect)
      (feature : g'.feature = g.feature.reset) (codec : g'.codec = g.codec) : Tells g g' call
  /-- A host has come. -/
  | synced (feature : g'.feature = g.feature.reset)
      (codec : g'.codec = tellAll g.feature.reset g.codec) : Tells g g' .connect
  /-- A write was stored. -/
  | stored {call : Call} {control : Control} {channel : UInt8} {data : Bytes}
      (stores : Stores g g' channel control data) : Tells g g' call

/-- A host that comes finds the levels put back, and the codec told. -/
theorem synced_connect [UsbCore U] [PcmSink S] [Codec C] (g : Gadget U S C) :
    (g.perform .connect).next.feature = g.feature.reset ∧
      (g.perform .connect).next.codec = tellAll g.feature.reset g.codec := by
  have told : (g.perform .connect).next.codec = tellAll g.wind.feature g.wind.codec := rfl
  have back : (g.perform .connect).next.feature = g.wind.feature := rfl
  rw [told, back, wind_eq]
  exact ⟨rfl, rfl⟩

theorem tells_perform [UsbCore U] [PcmSink S] [Codec C] (g : Gadget U S C) (call : Call) :
    Tells g (g.perform call).next call := by
  have heeds := heeds_perform g call
  generalize said : g.exchange? call = exchange? at heeds
  cases heeds with
  | quiet same | answered same | spurned same => exact .silent same.feature same.codec
  | accepted _ _ feature codec => exact .silent feature codec
  | stored _ _ stores => exact .stored stores
  | reset feature =>
    rcases exchange?_eq_reset said with rfl | rfl | rfl
    · exact .left (.inl rfl) feature rfl
    · exact .synced (synced_connect g).1 (synced_connect g).2
    · have codec : g.wind.codec = g.codec := by rw [wind_eq]
      exact .left (.inr rfl) feature codec

end Gadget

/-! ## A codec that follows -/

/-- **A codec whose levels can be read** and that moves them as it is told.
`heard u k codec` reads that it is muted as `u` is, and is at the volumes
of `u` on the channels below `k`; `fit` is what it brings from the start. -/
structure Follows {C : Type} [Codec C] (fit : Nat → C → Prop)
    (heard : FeatureUnit → Nat → C → Prop) : Prop where
  fit_mute {n : Nat} {codec : C} (muted : Bool) : fit n codec → fit n (Codec.setMute codec muted)
  fit_volume {n : Nat} {codec : C} (channel : UInt8) (v : Volume) :
    fit n codec → fit n (Codec.setVolume codec channel v)
  /-- Whoever tells it everything begins with the mute. -/
  first {u : FeatureUnit} {codec : C} :
    fit u.channels codec → heard u 0 (Codec.setMute codec u.muted)
  /-- The volumes come after it, channel by channel. -/
  next {u : FeatureUnit} {codec : C} {channel : UInt8} {v : Volume} :
    u.volume? channel = some v → heard u channel.toNat codec →
      heard u (channel.toNat + 1) (Codec.setVolume codec channel v)
  muted {u : FeatureUnit} {k : Nat} {codec : C} (muted : Bool) :
    heard u k codec → heard (u.setMuted muted) k (Codec.setMute codec muted)
  volume {u w : FeatureUnit} {k : Nat} {codec : C} {channel : UInt8} {v : Volume} :
    u.setVolume? channel v = some w → heard u k codec →
      heard w k (Codec.setVolume codec channel v)

namespace Follows

open Gadget

variable {U S C : Type} [Codec C] {fit : Nat → C → Prop} {heard : FeatureUnit → Nat → C → Prop}

theorem fit_tellAll (h : Follows fit heard) {n : Nat} {codec : C} (start : fit n codec)
    (u : FeatureUnit) : fit n (tellAll u codec) := by
  unfold tellAll
  generalize List.range (u.channels + 1) = channels
  have told := h.fit_mute u.muted start
  generalize Codec.setMute codec u.muted = codec at told ⊢
  induction channels generalizing codec with
  | nil => exact told
  | cons channel channels ih =>
    apply ih
    unfold tellVolume
    split
    · exact h.fit_volume _ _ told
    · exact told

/-- **A codec that was told everything is at every level.** -/
theorem heard_tellAll (h : Follows fit heard) {u : FeatureUnit} {codec : C}
    (start : fit u.channels codec) (room : u.channels ≤ channelLimit) :
    heard u (u.channels + 1) (tellAll u codec) := by
  -- the channels are told in order, so after `k` of them all below `k` are right
  have upTo (k : Nat) (among : k ≤ u.channels + 1) :
      heard u k ((List.range k).foldl (tellVolume u) (Codec.setMute codec u.muted)) := by
    induction k with
    | zero => exact h.first start
    | succ k ih =>
      have few : k ≤ 8 := Nat.le_trans (Nat.le_of_succ_le_succ among) room
      have place : (UInt8.ofNat k).toNat = k :=
        UInt8.toNat_ofNat_of_lt (by simp only [UInt8.size]; omega)
      have among : (UInt8.ofNat k).toNat ≤ u.channels := place.symm ▸ Nat.le_of_succ_le_succ among
      obtain ⟨v, level⟩ := FeatureUnit.exists_volume? room among
      have below := ih (by omega)
      rw [← place] at below
      have told := h.next level below
      rw [List.range_succ, List.foldl_append]
      simp only [List.foldl_cons, List.foldl_nil, tellVolume, level]
      rwa [place] at told
  exact upTo _ (Nat.le_refl _)

variable [UsbCore U] [PcmSink S]

theorem fit_perform (h : Follows fit heard) {n : Nat} {g : Gadget U S C} (start : fit n g.codec)
    (call : Call) : fit n (g.perform call).next.codec := by
  cases tells_perform g call with
  | silent _ codec | left _ _ codec => exact codec ▸ start
  | synced _ codec => exact codec ▸ h.fit_tellAll start _
  | stored stores =>
    cases stores with
    | mute _ _ codec => exact codec ▸ h.fit_mute _ start
    | volume _ _ _ codec => exact codec ▸ h.fit_volume _ _ start

theorem fit_run (h : Follows fit heard) {n : Nat} {g : Gadget U S C} (start : fit n g.codec)
    (calls : List Call) : fit n (g.run calls).2.codec := by
  induction calls generalizing g with
  | nil => exact start
  | cons call calls ih => exact ih (h.fit_perform start call)

/-- A codec is at the levels of the gadget's feature unit. -/
def Agrees (heard : FeatureUnit → Nat → C → Prop) (g : Gadget U S C) : Prop :=
  heard g.feature (g.feature.channels + 1) g.codec

/-- **A host that comes finds the codec at its levels.** -/
theorem agrees_connect (h : Follows fit heard) {g : Gadget U S C}
    (start : fit g.feature.channels g.codec) (room : g.feature.channels ≤ channelLimit) :
    Agrees heard (g.perform .connect).next := by
  obtain ⟨feature, codec⟩ := g.synced_connect
  unfold Agrees
  rw [feature, codec]
  exact h.heard_tellAll start room

/-- **And it stays there until the connection ends**, as every level that a
write stores is told with it. -/
theorem agrees_perform (h : Follows fit heard) {g : Gadget U S C} {call : Call}
    (start : fit g.feature.channels g.codec) (room : g.feature.channels ≤ channelLimit)
    (stays : call ≠ .powerOn ∧ call ≠ .disconnect) (agrees : Agrees heard g) :
    Agrees heard (g.perform call).next := by
  cases tells_perform g call with
  | silent feature codec =>
    unfold Agrees
    rw [feature, codec]
    exact agrees
  | left ends => exact absurd ends (not_or.2 stays)
  | synced => exact h.agrees_connect start room
  | stored stores =>
    unfold Agrees
    cases stores with
    | mute b feature codec =>
      rw [feature, codec]
      exact h.muted _ agrees
    | volume lo hi feature codec =>
      rw [codec, (FeatureUnit.muted_of_setVolume? feature).2]
      exact h.volume feature agrees

theorem agrees_run (h : Follows fit heard) {g : Gadget U S C}
    (start : fit g.feature.channels g.codec) (room : g.feature.channels ≤ channelLimit)
    {calls : List Call} (stays : ∀ call ∈ calls, call ≠ .powerOn ∧ call ≠ .disconnect)
    (agrees : Agrees heard g) : Agrees heard (g.run calls).2 := by
  induction calls generalizing g with
  | nil => exact agrees
  | cons call calls ih =>
    have same : (g.perform call).next.feature.channels = g.feature.channels :=
      channels_run g [call]
    refine ih (g := (g.perform call).next) ?_ (same.symm ▸ room) ?_ ?_
    · exact same.symm ▸ h.fit_perform start call
    · exact fun later among => stays later (List.mem_cons_of_mem _ among)
    · exact h.agrees_perform start room (stays call List.mem_cons_self) agrees

/-- **In a connection the codec is at the levels of the feature unit**,
whatever happened before it. -/
theorem agrees_connection (h : Follows fit heard) {usb : U} {sink : S} {codec : C}
    {format : StreamFormat} (start : fit format.channels codec) (slots : Nat)
    (before : List Call) {after : List Call}
    (stays : ∀ call ∈ after, call ≠ .powerOn ∧ call ≠ .disconnect) :
    Agrees heard
      ((unregistered usb sink codec format slots).run (before ++ .connect :: after)).2 := by
  let g := unregistered usb sink codec format slots
  have channels (calls : List Call) : (g.run calls).2.feature.channels = format.channels :=
    channels_run g calls
  have fits (calls : List Call) : fit (g.run calls).2.feature.channels (g.run calls).2.codec := by
    rw [channels]
    exact h.fit_run start calls
  have room (calls : List Call) : (g.run calls).2.feature.channels ≤ channelLimit := by
    rw [channels]
    exact format.channels_le
  -- what happened before the host came matters only for what the codec brings along
  have connected : Agrees heard (g.run (before ++ [.connect])).2 := by
    rw [run_concat]
    exact h.agrees_connect (fits before) (room before)
  rw [List.append_cons, run_append]
  exact h.agrees_run (fits _) (room _) stays connected

end Follows

/-! ## What a reading becomes

A reading of a channel's volume is `level?` until the channel is told. -/

namespace FeatureUnit

variable {u w : FeatureUnit} {channel other : UInt8} {v : Volume} {level? : Option Volume}

/-- The channels are told in order: what was right below the next one is
right with it. -/
theorem volume?_of_below (told : u.volume? channel = some v)
    (before : other.toNat < channel.toNat → u.volume? other = level?)
    (below : other.toNat < channel.toNat + 1) :
    u.volume? other = if channel = other then some v else level? := by
  split
  · rename_i same
    rw [← same, told]
  · rename_i apart
    have differ : channel.toNat ≠ other.toNat := fun same => apart (UInt8.toNat_inj.1 same)
    exact before (by omega)

/-- A write moves the reading of its own channel. -/
theorem volume?_of_set (set : u.setVolume? channel v = some w)
    (before : u.volume? other = level?) :
    w.volume? other = if channel = other then some v else level? := by
  rw [volume?_of_setVolume? set, ← before]
  exact if_congr eq_comm rfl rfl

end FeatureUnit

/-! ## A codec that keeps what it hears -/

/-- The last words to a codec are the levels of `u`, on the channels below
`k`. -/
structure LastTold {C : Type} (u : FeatureUnit) (k : Nat) (codec : Watched C CodecCall) :
    Prop where
  mute : lastMute? codec.calls = some u.muted
  volume {channel : UInt8} :
    channel.toNat < k → u.volume? channel = lastVolume? channel codec.calls

/-- **The last words follow the feature unit.** -/
theorem follows_lastTold {C : Type} [Codec C] :
    Follows (C := Watched C CodecCall) (fun _ _ => True) LastTold where
  fit_mute _ _ := trivial
  fit_volume _ _ _ := trivial
  first _ := ⟨lastMute?_concat_setMute .., fun none => absurd none (Nat.not_lt_zero _)⟩
  next level told := by
    refine ⟨(lastMute?_concat_setVolume ..).trans told.mute, fun below => ?_⟩
    exact (FeatureUnit.volume?_of_below level told.volume below).trans
      (lastVolume?_concat_setVolume ..).symm
  muted muted told := by
    refine ⟨lastMute?_concat_setMute .., fun below => ?_⟩
    exact (told.volume below).trans (lastVolume?_concat_setMute ..).symm
  volume set told := by
    have muted := (FeatureUnit.muted_of_setVolume? set).1
    refine ⟨(lastMute?_concat_setVolume ..).trans (muted ▸ told.mute), fun below => ?_⟩
    exact (FeatureUnit.volume?_of_set set (told.volume below)).trans
      (lastVolume?_concat_setVolume ..).symm

/-! ## The shadow of the DAC -/

/-- The outputs of a shadow are at the levels of `u`, as far as they are
driven by channels below `k`. -/
structure DacShadow.Plays (s : DacShadow) (u : FeatureUnit) (k : Nat) : Prop where
  width : s.streamChannels = u.channels
  muted : s.muted = u.muted
  master : (0 : UInt8).toNat < k → u.volume? 0 = some s.master
  left : (1 : UInt8).toNat < k → u.volume? 1 = some s.left
  right : (rightChannel u.channels).toNat < k →
    u.volume? (rightChannel u.channels) = some s.right

namespace DacShadow

variable {u w : FeatureUnit} {s : DacShadow} {k : Nat} {channel : UInt8} {v : Volume}

theorem plays_zero (width : s.streamChannels = u.channels) : (s.setMute u.muted).Plays u 0 where
  width := (s.streamChannels_setMute u.muted).trans width
  muted := s.muted_setMute u.muted
  master none := absurd none (Nat.not_lt_zero _)
  left none := absurd none (Nat.not_lt_zero _)
  right none := absurd none (Nat.not_lt_zero _)

theorem Plays.next (plays : s.Plays u channel.toNat) (told : u.volume? channel = some v) :
    (s.setVolume channel v).Plays u (channel.toNat + 1) where
  width := (s.streamChannels_setVolume channel v).trans plays.width
  muted := (s.muted_setVolume channel v).trans plays.muted
  master := by
    rw [master_setVolume, apply_ite some]
    exact FeatureUnit.volume?_of_below told plays.master
  left := by
    rw [left_setVolume, apply_ite some]
    exact FeatureUnit.volume?_of_below told plays.left
  right := by
    have among : channel.toNat ≤ s.streamChannels :=
      plays.width ▸ FeatureUnit.toNat_le_of_volume? told
    rw [right_setVolume v among, plays.width, apply_ite some]
    exact FeatureUnit.volume?_of_below told plays.right

theorem Plays.setMute (plays : s.Plays u k) (muted : Bool) :
    (s.setMute muted).Plays (u.setMuted muted) k where
  width := (s.streamChannels_setMute muted).trans plays.width
  muted := s.muted_setMute muted
  master := s.master_setMute muted ▸ plays.master
  left := s.left_setMute muted ▸ plays.left
  right := s.right_setMute muted ▸ plays.right

theorem Plays.setVolume (plays : s.Plays u k) (set : u.setVolume? channel v = some w) :
    (s.setVolume channel v).Plays w k where
  width := by rw [streamChannels_setVolume, (FeatureUnit.muted_of_setVolume? set).2, plays.width]
  muted := by rw [muted_setVolume, (FeatureUnit.muted_of_setVolume? set).1, plays.muted]
  master below := by
    rw [master_setVolume, apply_ite some]
    exact FeatureUnit.volume?_of_set set (plays.master below)
  left below := by
    rw [left_setVolume, apply_ite some]
    exact FeatureUnit.volume?_of_set set (plays.left below)
  right := by
    have among : channel.toNat ≤ s.streamChannels :=
      plays.width ▸ FeatureUnit.toNat_le_of_setVolume? set
    rw [right_setVolume v among, plays.width, (FeatureUnit.muted_of_setVolume? set).2,
      apply_ite some]
    exact fun below => FeatureUnit.volume?_of_set set (plays.right below)

/-- **The shadow follows what it is told.** -/
theorem follows_plays :
    Follows (fun n (s : DacShadow) => s.streamChannels = n) (fun u k s => s.Plays u k) where
  fit_mute muted width := (streamChannels_setMute _ muted).trans width
  fit_volume channel v width := (streamChannels_setVolume _ channel v).trans width
  first width := plays_zero width
  next told plays := plays.next told
  muted muted plays := plays.setMute muted
  volume set plays := plays.setVolume set

/-- **What the DAC is given.** Muted, both outputs are silent; otherwise
each is attenuated by the master and its own channel together. -/
theorem Plays.registers (plays : s.Plays u (u.channels + 1)) (any : 0 < u.channels) :
    ∃ master first second, u.volume? 0 = some master ∧ u.volume? 1 = some first ∧
      u.volume? (if u.channels = 1 then 1 else 2) = some second ∧
      s.registers =
        if u.muted then [⟨15, 0xFF⟩, ⟨16, 0xFF⟩]
        else
          [⟨15, UInt8.ofNat (min 255 (master.attenuation + first.attenuation))⟩,
            ⟨16, UInt8.ofNat (min 255 (master.attenuation + second.attenuation))⟩] := by
  have left : (1 : UInt8).toNat < u.channels + 1 := Nat.succ_lt_succ any
  have right : (rightChannel u.channels).toNat < u.channels + 1 := by
    unfold rightChannel
    split
    · exact left
    · show 2 < u.channels + 1
      omega
  refine ⟨s.master, s.left, s.right, plays.master (Nat.succ_pos _), plays.left left,
    plays.right right, ?_⟩
  rw [DacShadow.registers, plays.muted]
  cases u.muted <;> rfl

end DacShadow

/-- **From the start of a connection to its end the codec is at the levels
of the feature unit.** The last mute and the last volume of every channel
that it was told are those of the unit, and a shadow of the DAC gives the
levels of master and outputs to the registers, whatever it held when the
host came. -/
theorem codec_agrees {U S C : Type} [UsbCore U] [PcmSink S] [Codec C] (usb : U) (sink : S)
    (format : StreamFormat) (slots : Nat) (before after : List Call)
    (stays : ∀ call ∈ after, call ≠ .powerOn ∧ call ≠ .disconnect) :
    let calls := before ++ .connect :: after
    (∀ codec : C,
        let g := ((Gadget.unregistered usb sink (Watched.of codec) format slots).run calls).2
        lastMute? g.codec.calls = some g.feature.muted ∧
          ∀ channel : UInt8, channel.toNat ≤ format.channels →
            ∃ v, g.feature.volume? channel = some v ∧
              lastVolume? channel g.codec.calls = some v) ∧
      ∀ shadow : DacShadow, shadow.streamChannels = format.channels →
        let g := ((Gadget.unregistered usb sink shadow format slots).run calls).2
        ∃ master first second, g.feature.volume? 0 = some master ∧
          g.feature.volume? 1 = some first ∧
          g.feature.volume? (if format.channels = 1 then 1 else 2) = some second ∧
          g.codec.registers =
            if g.feature.muted then [⟨15, 0xFF⟩, ⟨16, 0xFF⟩]
            else
              [⟨15, UInt8.ofNat (min 255 (master.attenuation + first.attenuation))⟩,
                ⟨16, UInt8.ofNat (min 255 (master.attenuation + second.attenuation))⟩] := by
  intro calls
  constructor
  · intro codec g
    have channels : g.feature.channels = format.channels := Gadget.channels_run _ calls
    have told : LastTold g.feature (g.feature.channels + 1) g.codec :=
      follows_lastTold.agrees_connection trivial slots before stays
    refine ⟨told.mute, fun channel among => ?_⟩
    rw [← channels] at among
    obtain ⟨v, level⟩ := FeatureUnit.exists_volume? (channels ▸ format.channels_le) among
    exact ⟨v, level, (told.volume (Nat.lt_succ_of_le among)).symm.trans level⟩
  · intro shadow width g
    have channels : g.feature.channels = format.channels := Gadget.channels_run _ calls
    have plays : g.codec.Plays g.feature (g.feature.channels + 1) :=
      DacShadow.follows_plays.agrees_connection width slots before stays
    rw [← channels]
    exact plays.registers (channels ▸ format.channels_pos)

/-- A connection in which channel 2 was turned down and the master muted,
and the end of it. -/
def departed : List Call :=
  [.powerOn, .requestEndpoints, .setFirstInterface 0, .connect,
    .controlRequest (Request.featurePacket 0 .setCurrent .volume 2) [], .dataStage [0, 0xF6],
    .controlRequest (Request.featurePacket 0 .setCurrent .mute 0) [], .dataStage [1], .disconnect]

/-- The next host turns channel 1 down, by 10 dB. -/
def arrived : List Call :=
  [.controlRequest (Request.featurePacket 0 .setCurrent .volume 1) [], .dataStage [0, 0xF6]]

/-- A gadget with the shadow of a DAC for its codec, and one slot. -/
def shadowed : Gadget Core Sink DacShadow :=
  .unregistered Core.fresh Sink.fresh (.powerOn 2) default 1

/-- The DAC is muted to the end of the first connection, and 10 dB down on
the left in the second. -/
theorem codec_agrees_returned :
    (shadowed.run departed).2.codec.muted = true ∧
      (shadowed.run (departed ++ .connect :: arrived)).2.codec.registers =
        [⟨15, 20⟩, ⟨16, 0⟩] := by
  have stays : ∀ call ∈ arrived, call ≠ .powerOn ∧ call ≠ .disconnect := by decide
  obtain ⟨-, registers⟩ :=
    codec_agrees (C := Bench.Codec) Core.fresh Sink.fresh default 1 departed arrived stays
  obtain ⟨master, first, second, level, level₁, level₂, written⟩ :=
    registers (DacShadow.powerOn 2) rfl
  have muted : (shadowed.run departed).2.codec.muted = true := by decide +kernel
  have unmuted : (shadowed.run (departed ++ .connect :: arrived)).2.feature.muted ≠ true := by
    decide +kernel
  have shown : [0, 1, 2].map (shadowed.run (departed ++ .connect :: arrived)).2.feature.volume? =
      [some ⟨0, by omega⟩, some ⟨20, by omega⟩, some ⟨0, by omega⟩] := by
    decide +kernel
  have shown' : [some master, some first, some second] =
      [some ⟨0, by omega⟩, some ⟨20, by omega⟩, some ⟨0, by omega⟩] :=
    level ▸ level₁ ▸ level₂ ▸ shown
  cases shown'
  exact ⟨muted, written.trans (if_neg unmuted)⟩

end AudioGadget
