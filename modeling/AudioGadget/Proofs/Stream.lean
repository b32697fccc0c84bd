import AudioGadget.Bench.Watched
import AudioGadget.Gadget.Call
/-!
# Stream — what a call does to the receiving side

The receiving side of a gadget is its core, its sink, its endpoint, the
selected setting and the slots. Six calls work on it by name. Every other
call is of the control side and reaches it in one way only: by selecting
a setting, directly or through a setup packet. `Switches` lists what such
a call can do, and `switches_of_isControl` says that this is all, so that
a law about the receiving side is a case for each of the six calls and
three cases for all the others.

What a call finds is asked here once: `serves` says what becomes of a setup
packet, and `reports` what becomes of a report.
-/

namespace AudioGadget

/-- **Calls of the control side.** They reach the slots only by switching
the stream on and off. -/
def Call.isControl : Call → Bool
  | .powerOn | .connect | .disconnect | .requestEndpoints => false
  | .transferComplete .. | .fillInFlight .. => false
  | _ => true

/-- The calls a collaborator was asked after it was seen as `before`. -/
def Bench.Watched.since {σ κ : Type} (before after : Watched σ κ) : List κ :=
  after.calls.drop before.calls.length

theorem Bench.Watched.since_of_append {σ κ : Type} {before after : Watched σ κ} (calls : List κ)
    (h : after.calls = before.calls ++ calls) : before.since after = calls := by
  rw [since, h, List.drop_left]

@[simp] theorem Bench.Watched.since_self {σ κ : Type} (w : Watched σ κ) : w.since w = [] :=
  since_of_append [] (List.append_nil _).symm

/-- What is received and fits the lease is offered to the sink. -/
theorem SlotPool.receive_of_fits {S : Type} [PcmSink S] {p : SlotPool} {report : Report}
    (received : report.status = .success) (fits : report.length ≤ p.packetLength) (sink : S)
    (slot : Slot) :
    p.receive sink slot report = forward p.counts sink (slot.contents.take report.length) := by
  unfold receive
  rw [received]
  exact if_neg (Nat.not_lt.2 fits)

theorem SlotPool.receive_ne_ignored {S : Type} [PcmSink S] (p : SlotPool) (sink : S) (slot : Slot)
    (report : Report) : (p.receive sink slot report).1 ≠ .ignored := by
  unfold receive forward
  split
  · split
    · simp
    · split
      · simp
      · split <;> simp
  · simp
  · simp

namespace Gadget

variable {U S C : Type} {g g' g₀ : Gadget U S C}

/-- The two gadgets agree on the receiving side. -/
structure SameStream (g g' : Gadget U S C) : Prop where
  usb : g'.usb = g.usb
  sink : g'.sink = g.sink
  format : g'.format = g.format
  endpoint : g'.endpoint = g.endpoint
  selected : g'.streaming.selected = g.streaming.selected
  pool : g'.pool = g.pool

theorem SameStream.refl (g : Gadget U S C) : SameStream g g :=
  ⟨rfl, rfl, rfl, rfl, rfl, rfl⟩

theorem SameStream.isOperational (h : SameStream g g') : g'.isOperational = g.isOperational := by
  simp only [Gadget.isOperational, StreamingInterface.isOperational, h.selected]

/-- The gadget with another setting selected, and nobody told. -/
def select (g : Gadget U S C) (a : Alternate) : Gadget U S C :=
  { g with streaming := { g.streaming with selected := a } }

/-- The gadget once its stream has begun on `ep`. -/
def begun [UsbCore U] [PcmSink S] (g : Gadget U S C) (ep : EndpointAddress) : Gadget U S C :=
  ((g.select .operational).beginStream ep).2

/-- The gadget once its stream has ended. The slots that are out stay
out. -/
def ended [PcmSink S] (g : Gadget U S C) : Gadget U S C :=
  { g.select .inactive with sink := PcmSink.stop g.sink }

/-- **What a call of the control side does to the receiving side**, `g`
before and `g'` afterwards. -/
inductive Switches [UsbCore U] [PcmSink S] (g g' : Gadget U S C) : Prop
  /-- Nothing at all. -/
  | kept (same : SameStream g g')
  /-- The stream begins, on an endpoint the gadget has. -/
  | began {ep : EndpointAddress} (own : g.endpoint = some ep) (idle : g.isOperational = false)
      (same : SameStream (g.begun ep) g')
  /-- The stream ends. -/
  | ended (own : g.endpoint ≠ none) (running : g.isOperational = true)
      (same : SameStream g.ended g')

theorem isOperational_begun [UsbCore U] [PcmSink S] (g : Gadget U S C) (ep : EndpointAddress) :
    (g.begun ep).isOperational = true := rfl

theorem isOperational_ended [PcmSink S] (g : Gadget U S C) : g.ended.isOperational = false := rfl

/-- What a call switches is read at the receiving side alone. -/
theorem Switches.of_same [UsbCore U] [PcmSink S] (h₀ : SameStream g₀ g) (h : Switches g g') :
    Switches g₀ g' := by
  cases h with
  | kept same =>
    exact .kept ⟨same.usb.trans h₀.usb, same.sink.trans h₀.sink, same.format.trans h₀.format,
      same.endpoint.trans h₀.endpoint, same.selected.trans h₀.selected, same.pool.trans h₀.pool⟩
  | @began ep own idle same =>
    refine .began (h₀.endpoint ▸ own) (h₀.isOperational ▸ idle) ?_
    have arm : g.pool.armIdle g.usb ep = g₀.pool.armIdle g₀.usb ep := by rw [h₀.pool, h₀.usb]
    refine ⟨same.usb.trans ?_, same.sink.trans ?_, same.format.trans h₀.format,
      same.endpoint.trans h₀.endpoint, same.selected.trans rfl, same.pool.trans ?_⟩
    · exact congrArg (·.2.2) arm
    · exact congrArg PcmSink.start h₀.sink
    · exact congrArg (·.2.1) arm
  | ended own running same =>
    refine .ended (h₀.endpoint ▸ own) (h₀.isOperational ▸ running) ?_
    exact ⟨same.usb.trans h₀.usb, same.sink.trans (congrArg PcmSink.stop h₀.sink),
      same.format.trans h₀.format, same.endpoint.trans h₀.endpoint, same.selected.trans rfl,
      same.pool.trans h₀.pool⟩

/-- A call that leaves the stream as it is leaves the receiving side. -/
theorem Switches.steady [UsbCore U] [PcmSink S] (h : Switches g g')
    (still : g'.isOperational = g.isOperational) : SameStream g g' := by
  cases h with
  | kept same => exact same
  | began _ idle same => cases (still.trans idle).symm.trans same.isOperational
  | ended _ running same => cases (still.trans running).symm.trans same.isOperational

/-- A call that begins it lends the idle slots and starts the sink. -/
theorem Switches.start [UsbCore U] [PcmSink S] (h : Switches g g') (idle : g.isOperational = false)
    (running : g'.isOperational = true) :
    ∃ ep, g.endpoint = some ep ∧ SameStream (g.begun ep) g' := by
  cases h with
  | kept same => cases (same.isOperational.trans idle).symm.trans running
  | began own _ same => exact ⟨_, own, same⟩
  | ended _ was => cases idle.symm.trans was

/-- And a call that ends it stops the sink. -/
theorem Switches.stop [UsbCore U] [PcmSink S] (h : Switches g g') (running : g.isOperational = true)
    (idle : g'.isOperational = false) : SameStream g.ended g' := by
  cases h with
  | kept same => cases (same.isOperational.trans running).symm.trans idle
  | began _ was => cases running.symm.trans was
  | ended _ _ same => exact same

/-! ## Selecting a setting -/

/-- A selection that is not refused is of a setting that there is; it
changes the setting alone, and says what it changed. -/
theorem select?_eq_ok {s s' : StreamingInterface} {t : Transition} {interface alternate : UInt8}
    (h : s.select? interface alternate = .ok (t, s')) :
    ∃ a : Alternate, alternate = a.number ∧ s' = { s with selected := a } ∧
      t = .between s.selected a := by
  simp only [StreamingInterface.select?] at h
  split at h
  · split at h
    · rename_i a known
      cases h
      exact ⟨a, Alternate.ofNumber?_eq_ok_iff.1 known, rfl, rfl⟩
    · cases h
  · cases h

/-- **A selection keeps the stream, begins it or ends it.** -/
theorem switches_setInterface [UsbCore U] [PcmSink S] (g : Gadget U S C)
    (interface alternate : UInt8) : Switches g (g.setInterface interface alternate).next := by
  unfold setInterface
  split
  · exact .kept (.refl g)
  · rename_i t s chosen
    obtain ⟨a, -, rfl, rfl⟩ := select?_eq_ok chosen
    split
    · exact .kept (.refl g)
    · rename_i ep own
      have own' : g.endpoint ≠ none := by simp [own]
      -- of the four ways from one setting to another only two are a change
      rcases before : g.streaming.selected with _ | _ <;> cases a
      · exact .kept ⟨rfl, rfl, rfl, rfl, before.symm, rfl⟩
      · have idle : g.isOperational = false := by
          simp [Gadget.isOperational, StreamingInterface.isOperational, before]
        exact .began own idle ⟨rfl, rfl, rfl, rfl, rfl, rfl⟩
      · have running : g.isOperational = true := by
          simp [Gadget.isOperational, StreamingInterface.isOperational, before]
        exact .ended own' running ⟨rfl, rfl, rfl, rfl, rfl, rfl⟩
      · exact .kept ⟨rfl, rfl, rfl, rfl, before.symm, rfl⟩

/-! ## The control pipe -/

/-- **A host selects as the device does**, but on the control interface there
is nothing to select. -/
theorem next_selectForHost [UsbCore U] [PcmSink S] (g : Gadget U S C)
    (control interface alternate : UInt8) :
    (g.selectForHost control interface alternate).next =
      if interface = control then g else (g.setInterface interface alternate).next := by
  unfold selectForHost
  split
  · rfl
  · dsimp only
    split <;> rfl

/-- The reply says whether the setting was taken; the control interface takes
setting 0. -/
theorem answer_selectForHost [UsbCore U] [PcmSink S] (g : Gadget U S C)
    (control interface alternate : UInt8) :
    let taken := if interface = control then alternate = 0
      else (g.setInterface interface alternate).answer = .ok ()
    taken ∧ (g.selectForHost control interface alternate).answer = .handled 0 ∨
      ¬ taken ∧ (g.selectForHost control interface alternate).answer = .unhandled := by
  intro taken
  unfold taken selectForHost
  split
  · by_cases zero : alternate = 0 <;> simp [zero]
  · dsimp only
    split <;> rename_i answer <;> simp [answer]

/-- **What becomes of a setup packet.** The write that waited is dropped, and
the packet is answered as the request that it is read as, if it is one. -/
inductive Serves [UsbCore U] [PcmSink S] (g : Gadget U S C) (setup : SetupPacket)
    (dest : Bytes) : Prop
  /-- It is no request of this function. -/
  | unread
      (unread : ∀ control streaming, g.interfaces? = some (control, streaming) →
        Request.ofSetup? setup control streaming = none)
      (answer : (g.controlRequest setup dest).answer = (.unhandled, dest))
      (next : (g.controlRequest setup dest).next = g.dropPending)
  /-- It is one. -/
  | read {control streaming : UInt8} {request : Request}
      (own : g.interfaces? = some (control, streaming))
      (read : Request.ofSetup? setup control streaming = some request)
      (answer : (g.controlRequest setup dest).answer =
        (g.dropPending.answerRequest control streaming request dest).answer)
      (next : (g.controlRequest setup dest).next =
        (g.dropPending.answerRequest control streaming request dest).next)

/-- **A packet that is read is answered as its request.** -/
theorem controlRequest_of_read [UsbCore U] [PcmSink S] {control streaming : UInt8}
    {setup : SetupPacket} {request : Request} (own : g.interfaces? = some (control, streaming))
    (read : Request.ofSetup? setup control streaming = some request) (dest : Bytes) :
    (g.controlRequest setup dest).answer =
        (g.dropPending.answerRequest control streaming request dest).answer ∧
      (g.controlRequest setup dest).next =
        (g.dropPending.answerRequest control streaming request dest).next := by
  have dropped : g.dropPending.interfaces? = some (control, streaming) := own
  simp only [controlRequest, dropped, read, and_self]

/-- And one that is not read is not answered. -/
theorem controlRequest_of_unread [UsbCore U] [PcmSink S] {setup : SetupPacket}
    (unread : ∀ control streaming, g.interfaces? = some (control, streaming) →
      Request.ofSetup? setup control streaming = none) (dest : Bytes) :
    (g.controlRequest setup dest).answer = (.unhandled, dest) ∧
      (g.controlRequest setup dest).next = g.dropPending := by
  have dropped : g.dropPending.interfaces? = g.interfaces? := rfl
  rcases own : g.interfaces? with _ | ⟨control, streaming⟩
  · simp only [controlRequest, dropped, own, and_self]
  · simp only [controlRequest, dropped, own, unread control streaming own, and_self]

/-- **Every setup packet is one of these.** -/
theorem serves [UsbCore U] [PcmSink S] (g : Gadget U S C) (setup : SetupPacket) (dest : Bytes) :
    Serves g setup dest := by
  by_cases known : ∃ control streaming request, g.interfaces? = some (control, streaming) ∧
      Request.ofSetup? setup control streaming = some request
  · obtain ⟨control, streaming, request, own, read⟩ := known
    obtain ⟨answer, next⟩ := controlRequest_of_read own read dest
    exact .read own read answer next
  · have unread (control streaming : UInt8) (own : g.interfaces? = some (control, streaming)) :
        Request.ofSetup? setup control streaming = none :=
      Option.eq_none_iff_forall_ne_some.2 fun request read =>
        known ⟨control, streaming, request, own, read⟩
    obtain ⟨answer, next⟩ := controlRequest_of_unread unread dest
    exact .unread unread answer next

/-- A write that waits has no part in a selection. -/
theorem setInterface_dropPending [UsbCore U] [PcmSink S] (g : Gadget U S C)
    (interface alternate : UInt8) :
    (g.dropPending.setInterface interface alternate).answer =
        (g.setInterface interface alternate).answer ∧
      (g.dropPending.setInterface interface alternate).next =
        (g.setInterface interface alternate).next.dropPending := by
  have streaming : g.dropPending.streaming = g.streaming := rfl
  have endpoint : g.dropPending.endpoint = g.endpoint := rfl
  unfold setInterface
  rw [streaming, endpoint]
  split
  · exact ⟨rfl, rfl⟩
  · split
    · exact ⟨rfl, rfl⟩
    · split <;> exact ⟨rfl, rfl⟩

/-- **A host selects as the device does**, by a packet with the number of the
streaming interface. -/
theorem controlRequest_setInterfacePacket [UsbCore U] [PcmSink S] {control streaming : UInt8}
    (own : g.interfaces? = some (control, streaming)) (apart : control ≠ streaming)
    (high : UInt8) (value : UInt16) (dest : Bytes) :
    let asked := g.controlRequest (Request.setInterfacePacket streaming high value) dest
    let direct := g.setInterface streaming (Request.alternateOfWord value)
    asked.next = direct.next.dropPending ∧
      (direct.answer = .ok () ∧ asked.answer = (.handled 0, dest) ∨
        (∃ e, direct.answer = .error e) ∧ asked.answer = (.unhandled, dest)) := by
  intro asked direct
  have read := Request.ofSetup?_of_asks
    (.setInterface (.inr rfl : streaming = control ∨ streaming = streaming) high value)
  obtain ⟨answer, next⟩ := controlRequest_of_read own read dest
  obtain ⟨same, dropped⟩ :=
    g.setInterface_dropPending streaming (Request.alternateOfWord value)
  have next : asked.next =
      (g.dropPending.selectForHost control streaming (Request.alternateOfWord value)).next := next
  have answer : asked.answer =
      ((g.dropPending.selectForHost control streaming (Request.alternateOfWord value)).answer,
        dest) := answer
  rw [next, next_selectForHost, if_neg apart.symm, dropped, answer]
  refine ⟨rfl, ?_⟩
  have replied :=
    answer_selectForHost g.dropPending control streaming (Request.alternateOfWord value)
  simp only [if_neg apart.symm, same] at replied
  rcases replied with ⟨taken, reply⟩ | ⟨refused, reply⟩
  · exact .inl ⟨taken, by rw [reply]⟩
  · rcases result : direct.answer with e | done
    · exact .inr ⟨⟨e, rfl⟩, by rw [reply]⟩
    · exact absurd result refused

theorem switches_selectForHost [UsbCore U] [PcmSink S] (g : Gadget U S C)
    (control interface alternate : UInt8) :
    Switches g (g.selectForHost control interface alternate).next := by
  rw [next_selectForHost]
  split
  · exact .kept (.refl g)
  · exact switches_setInterface g interface alternate

/-- A request keeps the stream, unless it selects a setting. -/
theorem switches_answerRequest [UsbCore U] [PcmSink S] (g : Gadget U S C)
    (control streaming : UInt8) (request : Request) (dest : Bytes) :
    Switches g (g.answerRequest control streaming request dest).next := by
  cases request with
  | feature verb c channel =>
    cases verb with
    | setCurrent =>
      change Switches g (g.acceptWrite c channel).next
      unfold acceptWrite
      split
      · exact .kept ⟨rfl, rfl, rfl, rfl, rfl, rfl⟩
      · exact .kept (.refl g)
    | getCurrent | getMinimum | getMaximum | getResolution => exact .kept (.refl g)
  | getInterface => exact .kept (.refl g)
  | setInterface interface alternate => exact switches_selectForHost g control interface alternate

/-- **A setup packet keeps the stream or selects a setting.** -/
theorem switches_controlRequest [UsbCore U] [PcmSink S] (g : Gadget U S C) (setup : SetupPacket)
    (dest : Bytes) : Switches g (g.controlRequest setup dest).next := by
  -- the write that waited is dropped before the packet is read
  have dropped : SameStream g g.dropPending := ⟨rfl, rfl, rfl, rfl, rfl, rfl⟩
  cases serves g setup dest with
  | unread _ _ next => exact next ▸ .kept dropped
  | read _ _ _ next => exact next ▸ .of_same dropped (switches_answerRequest _ _ _ _ _)

/-- The data of a write does not reach the receiving side. -/
theorem sameStream_dataStage [Codec C] (g : Gadget U S C) (data : Bytes) :
    SameStream g (g.dataStage data).next := by
  unfold dataStage
  split
  · exact .refl g
  · dsimp only
    split
    · split
      · exact ⟨rfl, rfl, rfl, rfl, rfl, rfl⟩
      · exact ⟨rfl, rfl, rfl, rfl, rfl, rfl⟩
    · exact ⟨rfl, rfl, rfl, rfl, rfl, rfl⟩

/-- **Calls of the control side switch the stream and do nothing else to
the receiving side.** -/
theorem switches_of_isControl [UsbCore U] [PcmSink S] [Codec C] (g : Gadget U S C) {call : Call}
    (h : call.isControl = true) : Switches g (g.perform call).next := by
  cases call with
  | powerOn | connect | disconnect | requestEndpoints => cases h
  | transferComplete | fillInFlight => cases h
  | setInterface interface alternate => exact switches_setInterface g interface alternate
  | controlRequest setup dest => exact switches_controlRequest g setup dest
  | dataStage data => exact .kept (sameStream_dataStage g data)
  | setFirstInterface | setFirstString => exact .kept ⟨rfl, rfl, rfl, rfl, rfl, rfl⟩
  | getInterface | writeDescriptors | stringDescriptor => exact .kept (.refl g)

/-! ## The calls that work on it by name -/

/-- **Reserving asks the core once**, and what it gives is the endpoint. -/
theorem next_requestEndpoints [UsbCore U] (h : g.endpoint = none) :
    g.requestEndpoints.next =
      { g with
        usb := (UsbCore.allocEndpoint g.usb .isochronous .hostToDevice g.format.maxPacketSize).2
        endpoint :=
          (UsbCore.allocEndpoint g.usb .isochronous .hostToDevice g.format.maxPacketSize).1 } := by
  simp only [requestEndpoints, h]
  rcases UsbCore.allocEndpoint g.usb .isochronous .hostToDevice g.format.maxPacketSize with
    ⟨_ | ep, usb⟩ <;> rfl

/-- Nothing but the core and the endpoint changes. -/
theorem exists_next_requestEndpoints [UsbCore U] (g : Gadget U S C) :
    ∃ usb endpoint, g.requestEndpoints.next = { g with usb, endpoint } := by
  rcases reserved : g.endpoint with _ | ep
  · exact ⟨_, _, next_requestEndpoints reserved⟩
  · exact ⟨g.usb, g.endpoint, by rw [requestEndpoints_of_endpoint reserved]⟩

/-- **Bringing everything home, part by part.** The sink is told only if a
stream runs. -/
theorem wind_eq [UsbCore U] [PcmSink S] (g : Gadget U S C) :
    g.wind =
      { g with
        usb := g.reclaim.usb
        sink := if g.isOperational then PcmSink.stop g.sink else g.sink
        feature := g.feature.reset
        streaming := g.streaming.reset
        pending := none
        pool := g.pool.releaseAll } := by
  have streams : g.reclaim.isOperational = g.isOperational := rfl
  unfold wind haltSink
  rw [streams]
  split <;> rfl

theorem endpoint_wind [UsbCore U] [PcmSink S] (g : Gadget U S C) :
    g.wind.endpoint = g.endpoint := by
  rw [wind_eq]

/-- The core is asked to call off what is queued, or not at all. -/
theorem usb_reclaim [UsbCore U] (g : Gadget U S C) :
    g.reclaim.usb = g.usb ∨
      ∃ ep, g.endpoint = some ep ∧ g.reclaim.usb = UsbCore.cancel g.usb ep := by
  unfold reclaim
  dsimp only
  split
  · split
    · rename_i ep own
      exact .inr ⟨ep, own, rfl⟩
    · exact .inl rfl
  · exact .inl rfl

/-- **Bringing everything home is told and not asked**: the core calls off what
is queued, and the sink stops, or neither hears of it. -/
theorem calls_wind [UsbCore U] [PcmSink S]
    (g : Gadget (Bench.Watched U Bench.CoreCall) (Bench.Watched S Bench.SinkCall) C) :
    ∃ made told, g.wind.usb.calls = g.usb.calls ++ made ∧
      g.wind.sink.calls = g.sink.calls ++ told ∧
      (made = [] ∨ ∃ ep, made = [.cancel ep]) ∧ (told = [] ∨ told = [.stop]) := by
  have usb : ∃ made, g.wind.usb.calls = g.usb.calls ++ made ∧
      (made = [] ∨ ∃ ep, made = [.cancel ep]) := by
    rw [wind_eq]
    rcases usb_reclaim g with kept | ⟨ep, -, cancelled⟩
    · exact ⟨[], by rw [kept, List.append_nil], .inl rfl⟩
    · exact ⟨[.cancel ep], by rw [cancelled]; rfl, .inr ⟨ep, rfl⟩⟩
  have sink : ∃ told, g.wind.sink.calls = g.sink.calls ++ told ∧ (told = [] ∨ told = [.stop]) := by
    rw [wind_eq]
    rcases g.isOperational with _ | _
    · exact ⟨[], (List.append_nil _).symm, .inl rfl⟩
    · exact ⟨[.stop], rfl, .inr rfl⟩
  obtain ⟨made, asked, cancels⟩ := usb
  obtain ⟨told, since, stops⟩ := sink
  exact ⟨made, told, asked, since, cancels, stops⟩

/-! ## One report, case by case -/

section Report

variable [UsbCore U] [PcmSink S] {ep : EndpointAddress} {direction : Direction} {report : Report}

/-- **What becomes of a report.** While the stream runs the packet is
dealt with first, and then the slot is offered again. -/
inductive Reports (g : Gadget U S C) (ep : EndpointAddress) (direction : Direction)
    (report : Report) : Prop
  /-- It is not ours, or its name is not out. -/
  | ignored (foreign : g.endpoint = some ep → direction = .hostToDevice →
        g.pool.lentSlot? report.buffer = none)
      (next : g.transferComplete ep direction report = (.ignored, g))
  /-- There is no stream: the slot comes home, its packet unread. -/
  | stale {slot : Slot} (own : g.endpoint = some ep) (out : direction = .hostToDevice)
      (found : g.pool.lentSlot? report.buffer = some slot) (idle : g.isOperational = false)
      (next : g.transferComplete ep direction report =
        (.stale, { g with pool := { g.pool with
          slots := g.pool.slots.set report.buffer.place slot.release
          counts := g.pool.counts.stale } }))
  /-- The stream runs. -/
  | running {slot : Slot} (own : g.endpoint = some ep) (out : direction = .hostToDevice)
      (found : g.pool.lentSlot? report.buffer = some slot) (running : g.isOperational = true)
      (next :
        let received := g.pool.receive g.sink slot.release report
        let offer := slot.release.lend g.usb ep (g.pool.lease report.buffer.place)
        g.transferComplete ep direction report =
          (received.1, { g with
            pool := { g.pool with
              slots := g.pool.slots.set report.buffer.place offer.2.1
              counts := if offer.1 = .refused then received.2.1.refused else received.2.1 }
            usb := offer.2.2
            sink := received.2.2 }))

/-- A report that is not ours, or of a name that is not out, is ignored. -/
theorem transferComplete_of_unheard {g : Gadget U S C}
    (foreign : g.endpoint = some ep → direction = .hostToDevice →
      g.pool.lentSlot? report.buffer = none) :
    g.transferComplete ep direction report = (.ignored, g) := by
  by_cases own : g.endpoint = some ep ∧ direction = .hostToDevice
  · unfold transferComplete
    rw [if_pos own, SlotPool.complete_of_lentSlot?_eq_none (foreign own.1 own.2)]
  · simp only [transferComplete, own, if_false]

/-- Without a stream the slot comes home. -/
theorem transferComplete_of_idle {g : Gadget U S C} {slot : Slot} (own : g.endpoint = some ep)
    (out : direction = .hostToDevice) (found : g.pool.lentSlot? report.buffer = some slot)
    (idle : g.isOperational = false) :
    g.transferComplete ep direction report =
      (.stale, { g with pool := { g.pool with
        slots := g.pool.slots.set report.buffer.place slot.release
        counts := g.pool.counts.stale } }) := by
  rw [transferComplete, if_pos ⟨own, out⟩, idle, SlotPool.complete_of_idle found]

/-- While the stream runs it is offered again. -/
theorem transferComplete_of_running {g : Gadget U S C} {slot : Slot} (own : g.endpoint = some ep)
    (out : direction = .hostToDevice) (found : g.pool.lentSlot? report.buffer = some slot)
    (running : g.isOperational = true) :
    let received := g.pool.receive g.sink slot.release report
    let offer := slot.release.lend g.usb ep (g.pool.lease report.buffer.place)
    g.transferComplete ep direction report =
      (received.1, { g with
        pool := { g.pool with
          slots := g.pool.slots.set report.buffer.place offer.2.1
          counts := if offer.1 = .refused then received.2.1.refused else received.2.1 }
        usb := offer.2.2
        sink := received.2.2 }) := by
  rw [transferComplete, if_pos ⟨own, out⟩, running, SlotPool.complete_of_running found]

/-- **Every report is one of these.** -/
theorem reports (g : Gadget U S C) (ep : EndpointAddress) (direction : Direction)
    (report : Report) : Reports g ep direction report := by
  by_cases own : g.endpoint = some ep ∧ direction = .hostToDevice
  · obtain ⟨own, out⟩ := own
    rcases found : g.pool.lentSlot? report.buffer with _ | slot
    · exact .ignored (fun _ _ => found) (transferComplete_of_unheard fun _ _ => found)
    · rcases streams : g.isOperational with _ | _
      · exact .stale own out found streams (transferComplete_of_idle own out found streams)
      · exact .running own out found streams (transferComplete_of_running own out found streams)
  · have foreign : g.endpoint = some ep → direction = .hostToDevice →
        g.pool.lentSlot? report.buffer = none := fun named out => absurd ⟨named, out⟩ own
    exact .ignored foreign (transferComplete_of_unheard foreign)

end Report

/-! ## What no call changes -/

/-- **The format, and what a slot lends, are settled from the start**, and
the endpoint from the moment it is reserved. -/
structure SameTerms (g g' : Gadget U S C) : Prop where
  format : g'.format = g.format
  packetLength : g'.pool.packetLength = g.pool.packetLength
  endpoint : ∀ ep, g.endpoint = some ep → g'.endpoint = some ep

theorem terms_wind [UsbCore U] [PcmSink S] (g : Gadget U S C) : SameTerms g g.wind := by
  rw [wind_eq]
  exact ⟨rfl, rfl, fun _ => id⟩

/-- An endpoint is reserved once. -/
theorem terms_requestEndpoints [UsbCore U] (g : Gadget U S C) :
    SameTerms g g.requestEndpoints.next := by
  rcases reserved : g.endpoint with _ | ep
  · rw [next_requestEndpoints reserved]
    exact ⟨rfl, rfl, fun ep own => by simp [reserved] at own⟩
  · rw [requestEndpoints_of_endpoint reserved]
    exact ⟨rfl, rfl, fun _ => id⟩

theorem terms_transferComplete [UsbCore U] [PcmSink S] (g : Gadget U S C) (ep : EndpointAddress)
    (direction : Direction) (report : Report) :
    SameTerms g (g.transferComplete ep direction report).2 := by
  cases reports g ep direction report with
  | ignored _ next => exact next ▸ ⟨rfl, rfl, fun _ => id⟩
  | stale _ _ _ _ next => exact next ▸ ⟨rfl, rfl, fun _ => id⟩
  | running _ _ _ _ next => exact next ▸ ⟨rfl, rfl, fun _ => id⟩

theorem terms_fillInFlight (g : Gadget U S C) (buffer : BufferId) (data : Bytes) :
    SameTerms g (g.fillInFlight buffer data).2 :=
  ⟨rfl, g.pool.packetLength_fill buffer data, fun _ => id⟩

/-- **No call changes the terms.** -/
theorem terms_perform [UsbCore U] [PcmSink S] [Codec C] (g : Gadget U S C) (call : Call) :
    SameTerms g (g.perform call).next := by
  by_cases control : call.isControl = true
  · cases switches_of_isControl g control with
    | kept same => exact ⟨same.format, congrArg _ same.pool, fun _ => same.endpoint.trans⟩
    | began _ _ same => exact ⟨same.format, same.pool ▸ rfl, fun _ => same.endpoint.trans⟩
    | ended _ _ same => exact ⟨same.format, same.pool ▸ rfl, fun _ => same.endpoint.trans⟩
  · cases call with
    | powerOn => exact ⟨rfl, rfl, fun _ => id⟩
    | connect =>
      have wound := terms_wind g
      exact ⟨wound.format, wound.packetLength, wound.endpoint⟩
    | disconnect => exact terms_wind g
    | requestEndpoints => exact terms_requestEndpoints g
    | transferComplete ep direction report => exact terms_transferComplete g ep direction report
    | fillInFlight buffer data => exact terms_fillInFlight g buffer data
    | _ => exact absurd rfl control

theorem terms_run [UsbCore U] [PcmSink S] [Codec C] (g : Gadget U S C) (calls : List Call) :
    SameTerms g (g.run calls).2 := by
  induction calls generalizing g with
  | nil => exact ⟨rfl, rfl, fun _ => id⟩
  | cons call calls ih =>
    have one := terms_perform g call
    have rest := ih (g.perform call).next
    exact ⟨rest.format.trans one.format, rest.packetLength.trans one.packetLength,
      fun ep own => rest.endpoint ep (one.endpoint ep own)⟩

end Gadget

end AudioGadget
