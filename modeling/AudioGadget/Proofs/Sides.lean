import AudioGadget.Proofs.Control.Loudness
/-!
# Sides — what a call needs to know of a gadget

A gadget has a control side and a receiving side. The control side is
everything but the collaborators and the slots; the receiving side is
everything but the levels, the codec and a write that waits. Either is a
gadget itself, in which what belongs to the other side is missing or at
rest, so that it can be asked the same.

What a call answers, and what it leaves of a side, is found by asking that
side alone: `controlSide_perform` and `receivingSide_perform` say for which
calls, and the other calls leave the side as it was. Two gadgets that agree
on a side therefore still do after a call (`agree_controlSide` and
`agree_receivingSide`), and two that agree on both sides and on the codec
are the same (`eq_of_sides`).
-/

namespace AudioGadget

/-- **A collaborator that is missing.** It has nothing to give, and keeps
nothing. -/
structure Absent where
deriving DecidableEq

instance : UsbCore Absent where
  allocEndpoint _ _ _ _ := (none, ⟨⟩)
  submitReceive _ _ _ := (false, ⟨⟩)
  cancel _ _ := ⟨⟩

instance : PcmSink Absent where
  accept _ _ := (.rejected, ⟨⟩)
  start _ := ⟨⟩
  stop _ := ⟨⟩

instance : Codec Absent where
  setMute _ _ := ⟨⟩
  setVolume _ _ _ := ⟨⟩

/-- A pool without slots, that lends as much. -/
def SlotPool.emptied (p : SlotPool) : SlotPool :=
  { p with slots := [], counts := .zero }

namespace Gadget

variable {U S C : Type}

/-- **The control side** of a gadget: no collaborators, and no slots. -/
def controlSide (g : Gadget U S C) : Gadget Absent Absent Absent :=
  { g with usb := ⟨⟩, sink := ⟨⟩, codec := ⟨⟩, pool := g.pool.emptied }

/-- **The receiving side** of a gadget: no codec, no write that waits, and
every level where it is at power-on. -/
def receivingSide (g : Gadget U S C) : Gadget U S Absent :=
  { g with codec := ⟨⟩, feature := g.feature.reset, pending := none }

/-- A gadget is its two sides and its codec. -/
theorem eq_of_sides {g h : Gadget U S C} (control : g.controlSide = h.controlSide)
    (receiving : g.receivingSide = h.receivingSide) (codec : g.codec = h.codec) : g = h := by
  cases g
  cases h
  simp only [controlSide, receivingSide, mk.injEq] at control receiving codec ⊢
  simp only [control, receiving, codec, and_self]

end Gadget

/-- A step as it is seen from a side: it answers the same, and leaves the
side of what is left. -/
structure Step.Mirrors {G H α : Type} (side : G → H) (step : Step G α) (mirrored : Step H α) :
    Prop where
  answer : mirrored.answer = step.answer
  next : mirrored.next = side step.next

/-- **What the bus does to a gadget**: it reports a reception, or writes into
a slot that is out. -/
def Call.isBus : Call → Bool
  | .transferComplete .. | .fillInFlight .. => true
  | _ => false

/-- **What a host says to the feature unit**: a class request, or the data of
one. -/
def Call.isClass : Call → Bool
  | .controlRequest setup _ => setup.kind = .classSpecific
  | .dataStage _ => true
  | _ => false

namespace Gadget

variable {U S C U' S' C' : Type}

/-! ## The control side -/

section Control

theorem controlSide_wind [UsbCore U] [PcmSink S] (g : Gadget U S C) :
    g.controlSide.wind = g.wind.controlSide := by
  rw [wind_eq, wind_eq]
  rfl

theorem controlSide_setInterface [UsbCore U] [PcmSink S] (g : Gadget U S C)
    (interface alternate : UInt8) :
    Step.Mirrors controlSide (g.setInterface interface alternate)
      (g.controlSide.setInterface interface alternate) := by
  -- what is told to core and sink depends on more, and none of that is left here
  have streaming : g.controlSide.streaming = g.streaming := rfl
  have endpoint : g.controlSide.endpoint = g.endpoint := rfl
  unfold setInterface
  rw [streaming, endpoint]
  split
  · exact ⟨rfl, rfl⟩
  · split
    · exact ⟨rfl, rfl⟩
    · split <;> exact ⟨rfl, rfl⟩

theorem controlSide_answerRequest [UsbCore U] [PcmSink S] (g : Gadget U S C)
    (control streaming : UInt8) (request : Request) (dest : Bytes) :
    Step.Mirrors controlSide (g.answerRequest control streaming request dest)
      (g.controlSide.answerRequest control streaming request dest) := by
  unfold answerRequest
  split
  · have feature : g.controlSide.feature = g.feature := rfl
    unfold acceptWrite
    rw [feature]
    dsimp only
    split <;> exact ⟨rfl, rfl⟩
  · exact ⟨rfl, rfl⟩
  · exact ⟨rfl, rfl⟩
  · rename_i interface alternate
    have selected := g.controlSide_setInterface interface alternate
    unfold selectForHost
    dsimp only
    split
    · exact ⟨rfl, rfl⟩
    · rw [selected.answer]
      split <;> exact ⟨rfl, selected.next⟩

theorem controlSide_controlRequest [UsbCore U] [PcmSink S] (g : Gadget U S C)
    (setup : SetupPacket) (dest : Bytes) :
    Step.Mirrors controlSide (g.controlRequest setup dest)
      (g.controlSide.controlRequest setup dest) := by
  cases serves g setup dest with
  | unread unread answer next =>
    obtain ⟨mirrored, left⟩ := controlRequest_of_unread (g := g.controlSide) unread dest
    exact ⟨mirrored.trans answer.symm, left.trans (congrArg controlSide next).symm⟩
  | @read control streaming request own read answer next =>
    obtain ⟨mirrored, left⟩ := controlRequest_of_read (g := g.controlSide) own read dest
    have answered := g.dropPending.controlSide_answerRequest control streaming request dest
    exact ⟨mirrored.trans (answered.answer.trans answer.symm),
      left.trans (answered.next.trans (congrArg controlSide next).symm)⟩

/-- What is stored does not depend on the codec that is told. -/
theorem applyWrite?_absent [Codec C] (feature : FeatureUnit) (codec : C) (control : Control)
    (channel : UInt8) (data : Bytes) :
    applyWrite? feature (⟨⟩ : Absent) control channel data =
      (applyWrite? feature codec control channel data).map fun told => (told.1, ⟨⟩) := by
  unfold applyWrite?
  split
  · split
    · rfl
    · rw [Option.map_map]
      rfl
    · rfl
  · rfl

theorem controlSide_dataStage [Codec C] (g : Gadget U S C) (data : Bytes) :
    Step.Mirrors controlSide (g.dataStage data) (g.controlSide.dataStage data) := by
  have pending : g.controlSide.pending = g.pending := rfl
  unfold dataStage
  rw [pending]
  split
  · exact ⟨rfl, rfl⟩
  · rename_i write _
    -- the codec goes through the write, and only its own new state comes of it
    have stored := applyWrite?_absent g.feature g.codec write.control write.channel data
    dsimp only [dropPending, controlSide]
    split
    · rw [stored]
      rcases applyWrite? g.feature g.codec write.control write.channel data with _ | told
      · exact ⟨rfl, rfl⟩
      · exact ⟨rfl, rfl⟩
    · exact ⟨rfl, rfl⟩

variable [UsbCore U] [PcmSink S] [Codec C]

/-- **Most calls need the control side alone**, and leave it as they would if
there were nothing else. Only the endpoint is the core's to give. -/
theorem controlSide_perform (g : Gadget U S C) {call : Call} (own : call.isBus = false)
    (named : call ≠ .requestEndpoints) :
    Step.Mirrors controlSide (g.perform call) (g.controlSide.perform call) := by
  cases call with
  | transferComplete | fillInFlight => cases own
  | requestEndpoints => exact absurd rfl named
  | powerOn | setFirstInterface | setFirstString => exact ⟨rfl, rfl⟩
  | getInterface | writeDescriptors | stringDescriptor => exact ⟨rfl, rfl⟩
  | connect =>
    -- the missing codec is told the levels as well, which leaves it missing
    have next : (g.controlSide.perform .connect).next =
        { g.controlSide.wind with pool := g.controlSide.wind.pool.resetCounts } := rfl
    refine ⟨rfl, next.trans ?_⟩
    rw [controlSide_wind]
    rfl
  | disconnect => exact ⟨rfl, g.controlSide_wind⟩
  | setInterface interface alternate =>
    have selected := g.controlSide_setInterface interface alternate
    exact ⟨congrArg Answer.selected selected.answer, selected.next⟩
  | controlRequest setup dest =>
    have answered := g.controlSide_controlRequest setup dest
    exact ⟨congrArg (fun reply : Reply × Bytes => Answer.control reply.1 reply.2) answered.answer,
      answered.next⟩
  | dataStage data =>
    have taken := g.controlSide_dataStage data
    exact ⟨congrArg Answer.data taken.answer, taken.next⟩

/-- **What the bus does, the control side does not see.** -/
theorem controlSide_of_isBus (g : Gadget U S C) {call : Call} (bus : call.isBus = true) :
    (g.perform call).next.controlSide = g.controlSide := by
  cases call with
  | transferComplete ep direction report =>
    have next : (g.perform (.transferComplete ep direction report)).next =
      (g.transferComplete ep direction report).2 := rfl
    rw [next]
    -- a report works on slots and counters, and the side has neither
    cases reports g ep direction report with
    | ignored _ same => rw [same]
    | stale _ _ _ _ same | running _ _ _ _ same =>
      rw [same]
      rfl
  | fillInFlight buffer data =>
    change { g.controlSide with pool := (g.pool.fill buffer data).2.emptied } = g.controlSide
    unfold SlotPool.fill
    split <;> rfl
  | _ => cases bus

omit [PcmSink S] [Codec C] in
/-- **The core gives an endpoint once.** What it gives is all that the
control side has of it. -/
theorem controlSide_requestEndpoints (g : Gadget U S C) :
    let given := g.endpoint.or
      (UsbCore.allocEndpoint g.usb .isochronous .hostToDevice g.format.maxPacketSize).1
    g.requestEndpoints.next.controlSide = { g.controlSide with endpoint := given } ∧
      g.requestEndpoints.answer = given.elim (.error .endpointUnavailable) .ok := by
  intro given
  unfold requestEndpoints
  rcases reserved : g.endpoint with _ | ep
  · have asked : given =
        (UsbCore.allocEndpoint g.usb .isochronous .hostToDevice g.format.maxPacketSize).1 := by
      simp [given, reserved]
    rw [asked]
    rcases UsbCore.allocEndpoint g.usb .isochronous .hostToDevice g.format.maxPacketSize with
      ⟨_ | ep, usb⟩
    · refine ⟨?_, rfl⟩
      simp only [controlSide, reserved]
    · exact ⟨rfl, rfl⟩
  · have kept : given = some ep := by simp [given, reserved]
    rw [kept]
    refine ⟨?_, rfl⟩
    simp only [controlSide, reserved]

end Control

/-! ## The receiving side -/

section Receiving

variable [UsbCore U] [PcmSink S]

theorem receivingSide_wind (g : Gadget U S C) : g.receivingSide.wind = g.wind.receivingSide := by
  have reclaim : g.receivingSide.reclaim.usb = g.reclaim.usb := rfl
  rw [wind_eq, wind_eq, reclaim]
  rfl

theorem receivingSide_setInterface (g : Gadget U S C) (interface alternate : UInt8) :
    Step.Mirrors receivingSide (g.setInterface interface alternate)
      (g.receivingSide.setInterface interface alternate) := by
  have streaming : g.receivingSide.streaming = g.streaming := rfl
  have endpoint : g.receivingSide.endpoint = g.endpoint := rfl
  unfold setInterface
  rw [streaming, endpoint]
  split
  · exact ⟨rfl, rfl⟩
  · split
    · exact ⟨rfl, rfl⟩
    · split <;> exact ⟨rfl, rfl⟩

/-- A request that is not on the feature unit is answered from the receiving
side. -/
theorem receivingSide_answerRequest (g : Gadget U S C) (control streaming : UInt8)
    {request : Request} (other : ∀ verb c channel, request ≠ .feature verb c channel)
    (dest : Bytes) :
    Step.Mirrors receivingSide (g.answerRequest control streaming request dest)
      (g.receivingSide.answerRequest control streaming request dest) := by
  unfold answerRequest
  split
  · exact absurd rfl (other _ _ _)
  · exact absurd rfl (other _ _ _)
  · exact ⟨rfl, rfl⟩
  · rename_i interface alternate
    have selected := g.receivingSide_setInterface interface alternate
    unfold selectForHost
    dsimp only
    split
    · exact ⟨rfl, rfl⟩
    · rw [selected.answer]
      split <;> exact ⟨rfl, selected.next⟩

theorem receivingSide_controlRequest (g : Gadget U S C) {setup : SetupPacket}
    (other : setup.kind ≠ .classSpecific) (dest : Bytes) :
    Step.Mirrors receivingSide (g.controlRequest setup dest)
      (g.receivingSide.controlRequest setup dest) := by
  cases serves g setup dest with
  | unread unread answer next =>
    obtain ⟨mirrored, left⟩ := controlRequest_of_unread (g := g.receivingSide) unread dest
    exact ⟨mirrored.trans answer.symm, left.trans (congrArg receivingSide next).symm⟩
  | @read control streaming request own read answer next =>
    have apart (verb : Verb) (c : Control) (channel : UInt8) :
        request ≠ .feature verb c channel := by
      rintro rfl
      exact other (Request.kind_of_ofSetup? read)
    obtain ⟨mirrored, left⟩ := controlRequest_of_read (g := g.receivingSide) own read dest
    have answered := g.dropPending.receivingSide_answerRequest control streaming apart dest
    exact ⟨mirrored.trans (answered.answer.trans answer.symm),
      left.trans (answered.next.trans (congrArg receivingSide next).symm)⟩

/-- A report is dealt with on the receiving side. -/
theorem receivingSide_transferComplete (g : Gadget U S C) (ep : EndpointAddress)
    (direction : Direction) (report : Report) :
    g.receivingSide.transferComplete ep direction report =
      ((g.transferComplete ep direction report).1,
        (g.transferComplete ep direction report).2.receivingSide) := by
  have endpoint : g.receivingSide.endpoint = g.endpoint := rfl
  unfold transferComplete
  rw [endpoint]
  split <;> rfl

omit [PcmSink S] in
theorem receivingSide_requestEndpoints (g : Gadget U S C) :
    Step.Mirrors receivingSide g.requestEndpoints g.receivingSide.requestEndpoints := by
  have endpoint : g.receivingSide.endpoint = g.endpoint := rfl
  unfold requestEndpoints
  rw [endpoint]
  split
  · exact ⟨rfl, rfl⟩
  · dsimp only [receivingSide]
    split <;> exact ⟨rfl, rfl⟩

variable [Codec C]

/-- **A call that is none of the feature unit's needs the receiving side
alone**, and leaves it as it would if there were nothing else. -/
theorem receivingSide_perform (g : Gadget U S C) {call : Call} (other : call.isClass = false) :
    Step.Mirrors receivingSide (g.perform call) (g.receivingSide.perform call) := by
  cases call with
  | dataStage => cases other
  | powerOn | setFirstInterface | setFirstString | fillInFlight => exact ⟨rfl, rfl⟩
  | getInterface | writeDescriptors | stringDescriptor => exact ⟨rfl, rfl⟩
  | connect =>
    have next : (g.receivingSide.perform .connect).next =
        { g.receivingSide.wind with pool := g.receivingSide.wind.pool.resetCounts } := rfl
    refine ⟨rfl, next.trans ?_⟩
    rw [receivingSide_wind]
    rfl
  | disconnect => exact ⟨rfl, g.receivingSide_wind⟩
  | requestEndpoints =>
    have reserved := g.receivingSide_requestEndpoints
    exact ⟨congrArg Answer.endpoint reserved.answer, reserved.next⟩
  | setInterface interface alternate =>
    have selected := g.receivingSide_setInterface interface alternate
    exact ⟨congrArg Answer.selected selected.answer, selected.next⟩
  | controlRequest setup dest =>
    have answered := g.receivingSide_controlRequest (of_decide_eq_false other) dest
    exact ⟨congrArg (fun reply : Reply × Bytes => Answer.control reply.1 reply.2) answered.answer,
      answered.next⟩
  | transferComplete ep direction report =>
    have seen := g.receivingSide_transferComplete ep direction report
    exact ⟨congrArg Answer.completion (congrArg Prod.fst seen), congrArg Prod.snd seen⟩

omit [UsbCore U] [PcmSink S] in
theorem receivingSide_dataStage (g : Gadget U S C) (data : Bytes) :
    (g.dataStage data).next.receivingSide = g.receivingSide := by
  -- a write leaves the channels alone, and so the levels at power-on
  have reset : (g.dataStage data).next.feature.reset = g.feature.reset :=
    congrArg FeatureUnit.powerOn (heeds_dataStage g data).channels
  have parts : (g.dataStage data).next.receivingSide =
      { g.receivingSide with feature := (g.dataStage data).next.feature.reset } := by
    unfold dataStage
    split
    · rfl
    · dsimp only
      split
      · split <;> rfl
      · rfl
  rw [parts, reset]
  rfl

/-- **What a host says to the feature unit, the receiving side does not
see.** -/
theorem receivingSide_of_isClass (g : Gadget U S C) {call : Call} (ours : call.isClass = true) :
    (g.perform call).next.receivingSide = g.receivingSide := by
  cases call with
  | dataStage data => exact g.receivingSide_dataStage data
  | controlRequest setup dest =>
    change (g.controlRequest setup dest).next.receivingSide = _
    cases serves g setup dest with
    | unread _ _ next =>
      rw [next]
      rfl
    | read _ read _ next =>
      obtain ⟨verb, c, channel, rfl⟩ :=
        Request.feature_of_classSpecific (of_decide_eq_true ours) read
      rw [next]
      -- an announced write goes into `pending`, which this side does not have
      cases verb with
      | setCurrent =>
        simp only [answerRequest, acceptWrite]
        split <;> rfl
      | _ => rfl
  | _ => cases ours

end Receiving

/-! ## Two gadgets that agree on a side -/

section Two

/-- What gadgets have in common that agree on the control side. -/
structure SameControl (g : Gadget U S C) (h : Gadget U' S' C') : Prop where
  format : g.format = h.format
  endpoint : g.endpoint = h.endpoint
  feature : g.feature = h.feature
  streaming : g.streaming = h.streaming
  pending : g.pending = h.pending
  packetLength : g.pool.packetLength = h.pool.packetLength

theorem of_controlSide {g : Gadget U S C} {h : Gadget U' S' C'}
    (same : g.controlSide = h.controlSide) : SameControl g h := by
  simp only [controlSide, mk.injEq] at same
  obtain ⟨-, -, -, format, -, endpoint, -, feature, streaming, pending, pool⟩ := same
  have lends : g.pool.emptied.packetLength = h.pool.emptied.packetLength := by rw [pool]
  exact ⟨format, endpoint, feature, streaming, pending, lends⟩

/-- So a stream runs in both, or in neither. -/
theorem SameControl.isOperational {g : Gadget U S C} {h : Gadget U' S' C'}
    (same : SameControl g h) : g.isOperational = h.isOperational :=
  congrArg StreamingInterface.isOperational same.streaming

variable [UsbCore U] [PcmSink S] [Codec C] [UsbCore U'] [PcmSink S'] [Codec C']

/-- **Gadgets that agree on the control side answer alike**, and still agree
afterwards. -/
theorem agree_controlSide {g : Gadget U S C} {h : Gadget U' S' C'}
    (same : g.controlSide = h.controlSide) {call : Call} (own : call.isBus = false)
    (named : call ≠ .requestEndpoints) :
    (g.perform call).answer = (h.perform call).answer ∧
      (g.perform call).next.controlSide = (h.perform call).next.controlSide := by
  have left := g.controlSide_perform own named
  have right := h.controlSide_perform own named
  rw [← same] at right
  exact ⟨left.answer.symm.trans right.answer, left.next.symm.trans right.next⟩

omit [PcmSink S] [Codec C] [PcmSink S'] [Codec C'] in
/-- The same, as long as the core gives both of them the same endpoint. -/
theorem agree_requestEndpoints {g : Gadget U S C} {h : Gadget U' S' C'}
    (same : g.controlSide = h.controlSide)
    (given : g.endpoint = none →
      (UsbCore.allocEndpoint g.usb .isochronous .hostToDevice g.format.maxPacketSize).1 =
        (UsbCore.allocEndpoint h.usb .isochronous .hostToDevice h.format.maxPacketSize).1) :
    g.requestEndpoints.answer = h.requestEndpoints.answer ∧
      g.requestEndpoints.next.controlSide = h.requestEndpoints.next.controlSide := by
  obtain ⟨leftNext, leftAnswer⟩ := g.controlSide_requestEndpoints
  obtain ⟨rightNext, rightAnswer⟩ := h.controlSide_requestEndpoints
  rw [leftNext, leftAnswer, rightNext, rightAnswer, ← same, ← (of_controlSide same).endpoint]
  rcases reserved : g.endpoint with _ | ep
  · rw [given reserved]
    exact ⟨rfl, rfl⟩
  · exact ⟨rfl, rfl⟩

/-- So do gadgets that agree on the receiving side. -/
theorem agree_receivingSide {g : Gadget U S C} {h : Gadget U S C'}
    (same : g.receivingSide = h.receivingSide) {call : Call} (other : call.isClass = false) :
    (g.perform call).answer = (h.perform call).answer ∧
      (g.perform call).next.receivingSide = (h.perform call).next.receivingSide := by
  have left := g.receivingSide_perform other
  have right := h.receivingSide_perform other
  rw [← same] at right
  exact ⟨left.answer.symm.trans right.answer, left.next.symm.trans right.next⟩

/-- A call that neither brings a host nor data tells the codec nothing. -/
theorem codec_of_quiet (g : Gadget U S C) {call : Call} (stays : call ≠ .connect)
    (quiet : ∀ data, call ≠ .dataStage data) : (g.perform call).next.codec = g.codec := by
  by_contra changed
  rcases codec_perform changed with comes | ⟨data, sent, -⟩
  · exact stays comes
  · exact quiet data sent

theorem codec_of_isBus (g : Gadget U S C) {call : Call} (bus : call.isBus = true) :
    (g.perform call).next.codec = g.codec := by
  refine codec_of_quiet g ?_ ?_
  · rintro rfl
    cases bus
  · rintro data rfl
    cases bus

/-- **A codec is told the same** by gadgets that agree on the control side. -/
theorem agree_codec {g : Gadget U S C} {h : Gadget U' S' C} (same : g.controlSide = h.controlSide)
    (codec : g.codec = h.codec) (call : Call) :
    (g.perform call).next.codec = (h.perform call).next.codec := by
  have feature := (of_controlSide same).feature
  have pending := (of_controlSide same).pending
  cases call with
  | connect => rw [(synced_connect g).2, (synced_connect h).2, feature, codec]
  | dataStage data =>
    change (g.dataStage data).next.codec = (h.dataStage data).next.codec
    unfold dataStage
    rw [pending]
    split
    · exact codec
    · dsimp only [dropPending]
      rw [feature, codec]
      split
      · split <;> rfl
      · rfl
  | _ =>
    rw [codec_of_quiet g (by simp) (by simp), codec_of_quiet h (by simp) (by simp)]
    exact codec

end Two

end Gadget

end AudioGadget
