import AudioGadget.Proofs.Stream
/-!
# Dialogue — what the host and the controls say to each other

Of all that happens to a gadget only setup packets, the data that follows
them and the three resets reach the levels or a write that waits. What
passes in a run is its `dialogue`, as the host could write it down: the
packets and data with their replies, and when everything was put back.

`Heeds` lists what an exchange does to the levels of the feature unit, to
the codec and to a waiting write, and `heeds_perform` says that every call
is one of these. A law about levels is then an induction over a run with a
case for each.
-/

namespace AudioGadget

/-- A packet that sets a control on a channel, of whichever interface. -/
def SetupPacket.Sets (p : SetupPacket) (control : Control) (channel : UInt8) : Prop :=
  p = Request.featurePacket (lowByte p.index) .setCurrent control channel

instance (p : SetupPacket) (control : Control) (channel : UInt8) :
    Decidable (p.Sets control channel) :=
  inferInstanceAs (Decidable (_ = _))

section Packet

variable {p : SetupPacket} {control control' : Control} {channel channel' : UInt8}

theorem sets_featurePacket (interface : UInt8) :
    (Request.featurePacket interface .setCurrent control channel).Sets control channel := by
  simp [SetupPacket.Sets, Request.featurePacket]

/-- The length a setup packet announces is that of the control's value. -/
theorem SetupPacket.Sets.length (h : p.Sets control channel) :
    p.length.toNat = control.payloadLength := by
  rw [h]
  cases control <;> rfl

/-- **A packet that sets a control is read as that or not at all.** -/
theorem SetupPacket.Sets.request {interface streaming : UInt8} {request : Request}
    (h : p.Sets control channel) (read : Request.ofSetup? p interface streaming = some request) :
    request = .feature .setCurrent control channel := by
  have type : p.requestType = 0x21 := by rw [h]; rfl
  have recipient : p.recipient = .interface := by simp [SetupPacket.recipient, type]
  have kind : p.kind = .classSpecific := by simp [SetupPacket.kind, type]
  simp only [Request.ofSetup?, recipient, kind, if_true] at read
  obtain ⟨verb, control', rfl, -, code, value, -⟩ := Request.of_ofClass?_eq_some read
  have set : p.request = Verb.setCurrent.code := by rw [h]; rfl
  have field : p.value = field16 channel control.code := by rw [h]; rfl
  obtain rfl : verb = .setCurrent := by
    have same := Verb.ofCode?_eq_some_iff.2 (code.symm.trans set)
    simpa using same
  obtain rfl : control' = control := by
    have same := congrArg highByte (value.symm.trans field)
    rw [highByte_field16, highByte_field16] at same
    simpa using Control.ofCode?_eq_some_iff.2 same
  rw [field, lowByte_field16]

/-- A packet sets one control on one channel. -/
theorem SetupPacket.Sets.unique (h : p.Sets control channel) (h' : p.Sets control' channel') :
    control' = control ∧ channel' = channel := by
  have read : Request.ofSetup? p (lowByte p.index) 0 = _ :=
    (congrArg (Request.ofSetup? · _ _) h').trans (Request.ofSetup?_featurePacket ..)
  cases h.request read
  exact ⟨rfl, rfl⟩

end Packet

/-- What passes on the control pipe. -/
inductive Exchange where
  /-- Everything was put back: at power-on, by a new connection, or by the
  end of one. -/
  | reset
  | asked (setup : SetupPacket) (reply : Reply)
  | sent (data : Bytes) (reply : Reply)
deriving DecidableEq

/-- What a call with its answer is on the control pipe. -/
def Exchange.ofCall? : Call → Answer → Option Exchange
  | .powerOn, _ | .connect, _ | .disconnect, _ => some .reset
  | .controlRequest setup _, .control reply _ => some (.asked setup reply)
  | .dataStage data, .data reply => some (.sent data reply)
  | _, _ => none

namespace Gadget

variable {U S C : Type}

/-- The levels stay, and so does a write that waits. -/
structure SameControls (g g' : Gadget U S C) : Prop where
  feature : g'.feature = g.feature
  codec : g'.codec = g.codec
  pending : g'.pending = g.pending

/-- **What a write does**: its control takes the value on its channel, and
the codec is told once. -/
inductive Stores [Codec C] (g g' : Gadget U S C) (channel : UInt8) : Control → Bytes → Prop
  | mute (b : UInt8) (feature : g'.feature = g.feature.setMuted (b ≠ 0))
      (codec : g'.codec = Codec.setMute g.codec (b ≠ 0)) : Stores g g' channel .mute [b]
  | volume (lo hi : UInt8)
      (feature : g.feature.setVolume? channel (.nearest (signedWord lo hi)) = some g'.feature)
      (codec : g'.codec = Codec.setVolume g.codec channel (.nearest (signedWord lo hi))) :
      Stores g g' channel .volume [lo, hi]

/-- **What an exchange does to the controls**, and a call that is none. -/
inductive Heeds [Codec C] (g g' : Gadget U S C) : Option Exchange → Prop
  | quiet (same : SameControls g g') : Heeds g g' none
  | reset (feature : g'.feature = g.feature.reset) (free : g'.pending = none) :
      Heeds g g' (some .reset)
  /-- A packet that sets nothing, or that was not taken. -/
  | answered {setup : SetupPacket} {reply : Reply} (same : SameControls g.dropPending g')
      (other : ∀ control channel, setup.Sets control channel → reply ≠ .handled 0) :
      Heeds g g' (some (.asked setup reply))
  /-- A write was accepted and waits. -/
  | accepted {setup : SetupPacket} {control : Control} {channel : UInt8}
      (sets : setup.Sets control channel) (offered : g.feature.supports control channel = true)
      (feature : g'.feature = g.feature) (codec : g'.codec = g.codec)
      (waits : g'.pending = some ⟨control, channel, control.payloadLength⟩) :
      Heeds g g' (some (.asked setup (.handled 0)))
  /-- The data of the write that waited. -/
  | stored {write : PendingWrite} {data : Bytes} (waited : g.pending = some write)
      (whole : data.length = write.length) (stores : Stores g g' write.channel write.control data)
      (free : g'.pending = none) : Heeds g g' (some (.sent data (.handled 0)))
  | spurned {data : Bytes} (same : SameControls g.dropPending g') :
      Heeds g g' (some (.sent data .unhandled))

/-! ## One call -/

theorem controls_setInterface [UsbCore U] [PcmSink S] (g : Gadget U S C)
    (interface alternate : UInt8) : SameControls g (g.setInterface interface alternate).next := by
  unfold setInterface
  split
  · exact ⟨rfl, rfl, rfl⟩
  · split
    · exact ⟨rfl, rfl, rfl⟩
    · split <;> exact ⟨rfl, rfl, rfl⟩

theorem controls_selectForHost [UsbCore U] [PcmSink S] (g : Gadget U S C)
    (control interface alternate : UInt8) :
    SameControls g (g.selectForHost control interface alternate).next := by
  rw [next_selectForHost]
  split
  · exact ⟨rfl, rfl, rfl⟩
  · exact controls_setInterface g interface alternate

theorem controls_requestEndpoints [UsbCore U] (g : Gadget U S C) :
    SameControls g g.requestEndpoints.next := by
  obtain ⟨usb, endpoint, next⟩ := g.exists_next_requestEndpoints
  rw [next]
  exact ⟨rfl, rfl, rfl⟩

theorem controls_transferComplete [UsbCore U] [PcmSink S] (g : Gadget U S C)
    (ep : EndpointAddress) (direction : Direction) (report : Report) :
    SameControls g (g.transferComplete ep direction report).2 := by
  cases reports g ep direction report with
  | ignored _ next => exact next ▸ ⟨rfl, rfl, rfl⟩
  | stale _ _ _ _ next => exact next ▸ ⟨rfl, rfl, rfl⟩
  | running _ _ _ _ next => exact next ▸ ⟨rfl, rfl, rfl⟩

/-- A question to the feature unit is answered from its levels. -/
theorem answer_featurePacket [UsbCore U] [PcmSink S] {g : Gadget U S C} {control streaming : UInt8}
    (own : g.interfaces? = some (control, streaming)) {verb : Verb} (reads : verb ≠ .setCurrent)
    (c : Control) (channel : UInt8) (dest : Bytes) :
    (g.controlRequest (Request.featurePacket control verb c channel) dest).answer =
      Reply.write dest (g.feature.read? verb c channel) := by
  rw [(controlRequest_of_read own (Request.ofSetup?_featurePacket ..) dest).1]
  cases verb with
  | setCurrent => exact absurd rfl reads
  | getCurrent | getMinimum | getMaximum | getResolution => rfl

variable [Codec C]

/-- **A setup packet drops the write that waits**, and the next waits if it
is one and is accepted. -/
theorem heeds_controlRequest [UsbCore U] [PcmSink S] (g : Gadget U S C) (setup : SetupPacket)
    (dest : Bytes) :
    Heeds g (g.controlRequest setup dest).next
      (some (.asked setup (g.controlRequest setup dest).answer.1)) := by
  cases serves g setup dest with
  | unread _ answer next =>
    rw [answer, next]
    exact .answered ⟨rfl, rfl, rfl⟩ fun _ _ _ => by simp
  | @read control streaming request _ read answer next =>
    rw [answer, next]
    unfold answerRequest
    split
    · rename_i c channel
      have sets : setup.Sets c channel := by
        rw [Request.eq_featurePacket_of_ofSetup? read]
        exact sets_featurePacket control
      unfold acceptWrite
      split
      · rename_i offered
        exact .accepted sets offered rfl rfl rfl
      · exact .answered ⟨rfl, rfl, rfl⟩ fun _ _ _ => by simp
    · rename_i verb c channel other
      refine .answered ⟨rfl, rfl, rfl⟩ fun c' channel' sets => ?_
      cases sets.request read
      exact (other rfl).elim
    · refine .answered ⟨rfl, rfl, rfl⟩ fun c' channel' sets => ?_
      cases sets.request read
    · refine .answered (controls_selectForHost g.dropPending _ _ _) fun c' channel' sets => ?_
      cases sets.request read

theorem stores_of_applyWrite? {g g' : Gadget U S C} {control : Control} {channel : UInt8}
    {data : Bytes}
    (h : applyWrite? g.feature g.codec control channel data = some (g'.feature, g'.codec)) :
    Stores g g' channel control data := by
  unfold applyWrite? at h
  split at h
  · split at h
    · simp only [Option.some.injEq, Prod.mk.injEq] at h
      exact .mute _ h.1.symm h.2.symm
    · simp only [Option.map_eq_some_iff, Prod.mk.injEq] at h
      obtain ⟨feature, set, rfl, codec⟩ := h
      exact .volume _ _ set codec.symm
    · cases h
  · cases h

/-- **Data uses up the write that waits**, and is stored if it is its. -/
theorem heeds_dataStage (g : Gadget U S C) (data : Bytes) :
    Heeds g (g.dataStage data).next (some (.sent data (g.dataStage data).answer)) := by
  unfold dataStage
  split
  · rename_i free
    exact .spurned ⟨rfl, rfl, free⟩
  · rename_i write waited
    dsimp only
    split
    · rename_i whole
      split
      · exact .spurned ⟨rfl, rfl, rfl⟩
      · rename_i feature codec applied
        exact .stored waited whole (stores_of_applyWrite? applied) rfl
    · exact .spurned ⟨rfl, rfl, rfl⟩

/-- The exchange of a call, if it is one. -/
def exchange? [UsbCore U] [PcmSink S] (g : Gadget U S C) (call : Call) : Option Exchange :=
  Exchange.ofCall? call (g.perform call).answer

/-- **Every call is one of these.** -/
theorem heeds_perform [UsbCore U] [PcmSink S] (g : Gadget U S C) (call : Call) :
    Heeds g (g.perform call).next (g.exchange? call) := by
  cases call with
  | powerOn => exact .reset rfl rfl
  | connect => exact .reset (congrArg Gadget.feature (wind_eq g)) (wind_home g).2.2
  | disconnect => exact .reset (congrArg Gadget.feature (wind_eq g)) (wind_home g).2.2
  | requestEndpoints => exact .quiet (controls_requestEndpoints g)
  | setInterface interface alternate => exact .quiet (controls_setInterface g interface alternate)
  | controlRequest setup dest => exact heeds_controlRequest g setup dest
  | dataStage data => exact heeds_dataStage g data
  | transferComplete ep direction report =>
    exact .quiet (controls_transferComplete g ep direction report)
  | setFirstInterface | setFirstString | fillInFlight => exact .quiet ⟨rfl, rfl, rfl⟩
  | getInterface | writeDescriptors | stringDescriptor => exact .quiet ⟨rfl, rfl, rfl⟩

/-! ## A whole run -/

theorem Stores.channels {g g' : Gadget U S C} {control : Control} {channel : UInt8} {data : Bytes}
    (h : Stores g g' channel control data) : g'.feature.channels = g.feature.channels := by
  cases h with
  | mute _ feature => rw [feature]; rfl
  | volume _ _ feature => exact (FeatureUnit.muted_of_setVolume? feature).2

theorem Heeds.channels {g g' : Gadget U S C} {exchange? : Option Exchange}
    (h : Heeds g g' exchange?) : g'.feature.channels = g.feature.channels := by
  cases h with
  | quiet same | answered same | spurned same => exact congrArg _ same.feature
  | reset feature => rw [feature, FeatureUnit.channels_reset]
  | accepted _ _ feature => rw [feature]
  | stored _ _ stores => exact stores.channels

/-- The feature unit has the channels of the stream, all along. -/
theorem channels_run [UsbCore U] [PcmSink S] (g : Gadget U S C) (calls : List Call) :
    (g.run calls).2.feature.channels = g.feature.channels := by
  induction calls generalizing g with
  | nil => rfl
  | cons call calls ih => exact (ih _).trans (heeds_perform g call).channels

/-- What passes on the control pipe in a run, the first first. -/
def dialogue [UsbCore U] [PcmSink S] (g : Gadget U S C) : List Call → List Exchange
  | [] => []
  | call :: calls => (g.exchange? call).toList ++ (g.perform call).next.dialogue calls

theorem dialogue_concat [UsbCore U] [PcmSink S] (g : Gadget U S C) (calls : List Call)
    (call : Call) :
    g.dialogue (calls ++ [call]) =
      g.dialogue calls ++ ((g.run calls).2.exchange? call).toList := by
  induction calls generalizing g with
  | nil => exact List.append_nil _
  | cons first calls ih =>
    simp only [List.cons_append, dialogue, ih, List.append_assoc]
    rfl

end Gadget

end AudioGadget
