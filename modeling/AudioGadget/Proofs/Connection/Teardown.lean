import AudioGadget.Bench.Codec
import AudioGadget.Bench.Core
import AudioGadget.Bench.Sink
import AudioGadget.Proofs.Reception.Ledger
import AudioGadget.Proofs.Sides
/-!
# Teardown — the end of a connection is exact, and final

However a connection ends, and whatever was going on, the core is told to
call off what is queued exactly if something is, and the sink is stopped
exactly if it was started. For the first of these the gadget must know an
endpoint whenever a slot is out, which is what the ledger of the slots
says of every reachable state.

Afterwards the gadget is at `Home`: no slot is out and no stream runs.
Only a selection of setting 1 that succeeds leads away from there
(`begins_of_start`), so until then there is nothing that a report could
be taken for.
-/

namespace AudioGadget

open Bench

/-- **The host has setting 1 selected**: it asked for it, by name or with a
setup packet, and was not refused. -/
def Call.begins : Call → Answer → Bool
  | .setInterface _ alternate, .selected (.ok ()) => alternate = 1
  | .controlRequest setup _, .control (.handled _) _ =>
    setup.requestType = 0x01 ∧ setup.request = setInterfaceCode ∧ setup.value = 1
  | _, _ => false

theorem SlotPool.releaseAll_releaseAll (p : SlotPool) :
    p.releaseAll.releaseAll = p.releaseAll := by
  simp only [releaseAll, List.map_map]
  rfl

/-- Where no slot is out, none is out under any name. -/
theorem SlotPool.lentSlot?_of_busyCount {p : SlotPool} (home : p.busyCount = 0)
    (buffer : BufferId) : p.lentSlot? buffer = none := by
  rcases found : p.lentSlot? buffer with _ | slot
  · rfl
  · obtain ⟨at_place, out, -⟩ := of_lentSlot?_eq_some found
    exact absurd out (List.countP_eq_zero.1 home slot (List.mem_of_getElem? at_place))

/-- And where one is out, it is out under the name of its place. -/
theorem SlotPool.exists_lentSlot? {p : SlotPool} (busy : 0 < p.busyCount) :
    ∃ buffer, p.lentSlot? buffer ≠ none := by
  obtain ⟨slot, among, out⟩ := List.countP_pos_iff.1 busy
  obtain ⟨place, at_place⟩ := List.mem_iff_getElem?.1 among
  exact ⟨⟨place⟩, by simp [lentSlot?, at_place, out]⟩

namespace Gadget

variable {U S C : Type}

/-! ## What is told to whom -/

section Reclaim

variable [UsbCore U] {g : Gadget U S C}

theorem usb_reclaim_of_home (home : g.busySlots = 0) : g.reclaim.usb = g.usb := by
  unfold busySlots at home
  simp only [reclaim, home, Nat.lt_irrefl, if_false]

theorem usb_reclaim_of_busy {ep : EndpointAddress} (own : g.endpoint = some ep)
    (busy : 0 < g.busySlots) : g.reclaim.usb = UsbCore.cancel g.usb ep := by
  unfold busySlots at busy
  simp only [reclaim, busy, if_true, own]

variable [PcmSink S]

/-- **Where nothing is out and no stream runs, nobody is told anything.** -/
theorem wind_of_home (home : g.busySlots = 0) (idle : g.isOperational = false) :
    g.wind.usb = g.usb ∧ g.wind.sink = g.sink := by
  rw [wind_eq]
  exact ⟨usb_reclaim_of_home home, if_neg (by simp [idle])⟩

/-- **Nothing is left to bring home.** -/
theorem wind_wind (g : Gadget U S C) : g.wind.wind = g.wind := by
  obtain ⟨home, idle, -⟩ := g.wind_home
  obtain ⟨usb, sink⟩ := wind_of_home home idle
  have again : g.wind.wind =
      { g.wind with
        usb := g.wind.wind.usb
        sink := g.wind.wind.sink
        feature := g.wind.feature.reset
        streaming := g.wind.streaming.reset
        pending := none
        pool := g.wind.pool.releaseAll } := by
    rw [wind_eq]
  rw [again, usb, sink, wind_eq]
  simp only [FeatureUnit.reset_reset, SlotPool.releaseAll_releaseAll]
  rfl

end Reclaim

variable [UsbCore U] [PcmSink S]

/-! ## What leads away from home -/

/-- **A selection is refused, or leaves the setting of its number.** -/
theorem selected_setInterface (g : Gadget U S C) (interface alternate : UInt8) :
    (∃ e, (g.setInterface interface alternate).answer = .error e) ∨
      (g.setInterface interface alternate).answer = .ok () ∧
        alternate = (g.setInterface interface alternate).next.streaming.selected.number := by
  unfold setInterface
  split
  · exact .inl ⟨_, rfl⟩
  · rename_i t s chosen
    obtain ⟨a, rfl, rfl, -⟩ := select?_eq_ok chosen
    split
    · exact .inl ⟨_, rfl⟩
    · right
      cases t <;> exact ⟨rfl, rfl⟩

/-- A selection that starts a stream is one of setting 1, and succeeds. -/
theorem selected_of_start {g : Gadget U S C} {interface alternate : UInt8}
    (idle : g.isOperational = false)
    (running : (g.setInterface interface alternate).next.isOperational = true) :
    (g.setInterface interface alternate).answer = .ok () ∧ alternate = 1 := by
  rcases selected_setInterface g interface alternate with ⟨e, refused⟩ | ⟨taken, number⟩
  · rw [(setInterface_of_error refused).1, idle] at running
    cases running
  · rw [of_decide_eq_true running] at number
    exact ⟨taken, number⟩

/-- A setup packet that starts a stream is the packet that selects setting
1, and it is answered. -/
theorem requested_of_start {g : Gadget U S C} {setup : SetupPacket} {dest : Bytes}
    (idle : g.isOperational = false)
    (running : (g.controlRequest setup dest).next.isOperational = true) :
    (g.controlRequest setup dest).answer.1 = .handled 0 ∧
      ∃ interface high, setup = Request.setInterfacePacket interface high 1 := by
  have dropped : g.dropPending.isOperational = false := idle
  cases serves g setup dest with
  | unread _ _ next =>
    rw [next] at running
    cases dropped.symm.trans running
  | @read control streaming request _ read answer next =>
    rw [next] at running
    rw [answer]
    unfold answerRequest at running ⊢
    split at running
    · unfold acceptWrite at running
      dsimp only at running
      split at running <;> cases idle.symm.trans running
    · cases idle.symm.trans running
    · cases idle.symm.trans running
    · -- of all requests only a selection is left, and it is one of the stream's interface
      rename_i interface alternate
      obtain ⟨⟨high, packet⟩, number, -⟩ := Request.eq_setInterfacePacket_of_ofSetup? read
      dsimp only at running ⊢
      rw [next_selectForHost] at running
      split at running
      · cases idle.symm.trans running
      · rename_i other
        obtain ⟨selected, rfl⟩ := selected_of_start dropped running
        rw [Request.eq_one_of_alternateOfWord number.symm] at packet
        rcases answer_selectForHost g.dropPending control interface 1 with
          ⟨-, handled⟩ | ⟨refused, -⟩
        · exact ⟨handled, interface, high, packet⟩
        · rw [if_neg other] at refused
          exact absurd selected refused

variable [Codec C]

/-- **A stream is started by a selection of setting 1 that succeeds**, and
by nothing else. -/
theorem begins_of_start {g : Gadget U S C} {call : Call} (idle : g.isOperational = false)
    (running : (g.perform call).next.isOperational = true) :
    call.begins (g.perform call).answer = true := by
  by_cases bus : call.isBus = true
  · have still := (of_controlSide (g.controlSide_of_isBus bus)).isOperational
    cases (still.trans idle).symm.trans running
  · cases call with
    | setInterface interface alternate =>
      obtain ⟨selected, rfl⟩ := selected_of_start idle running
      simp only [perform, selected]
      rfl
    | controlRequest setup dest =>
      obtain ⟨answered, interface, high, rfl⟩ := requested_of_start idle running
      simp only [perform, answered]
      rfl
    | powerOn | connect | disconnect => cases running
    | requestEndpoints =>
      obtain ⟨usb, endpoint, next⟩ := g.exists_next_requestEndpoints
      have still := congrArg Gadget.isOperational next
      cases (still.trans idle).symm.trans running
    | dataStage data =>
      have still := (sameStream_dataStage g data).isOperational
      cases (still.trans idle).symm.trans running
    | transferComplete | fillInFlight => exact absurd rfl bus
    | setFirstInterface | setFirstString => cases idle.symm.trans running
    | getInterface | writeDescriptors | stringDescriptor => cases idle.symm.trans running

/-! ## At home -/

/-- **No slot is out and no stream runs.** -/
structure Home (g : Gadget U S C) : Prop where
  slots : g.busySlots = 0
  idle : g.isOperational = false

omit [UsbCore U] [PcmSink S] [Codec C] in
/-- At home there is nothing that the core's transfers could write into. -/
theorem Home.fill {g : Gadget U S C} (home : Home g) (buffer : BufferId) (data : Bytes) :
    (g.fillInFlight buffer data).2 = g := by
  unfold fillInFlight SlotPool.fill
  rw [SlotPool.lentSlot?_of_busyCount home.slots]

omit [Codec C] in
/-- **At home every report is ignored**, and changes nothing. -/
theorem Home.report {g : Gadget U S C} (home : Home g) (ep : EndpointAddress)
    (direction : Direction) (report : Report) :
    g.transferComplete ep direction report = (.ignored, g) := by
  have none := SlotPool.lentSlot?_of_busyCount home.slots report.buffer
  cases reports g ep direction report with
  | ignored _ next => exact next
  | stale _ _ found | running _ _ found => cases none.symm.trans found

/-- **Only the begin of a stream leads away.** -/
theorem Home.perform {g : Gadget U S C} (home : Home g) {call : Call}
    (quiet : call.begins (g.perform call).answer = false) : Home (g.perform call).next := by
  have idle : (g.perform call).next.isOperational = false := by
    rcases running : (g.perform call).next.isOperational with _ | _
    · rfl
    · cases quiet.symm.trans (begins_of_start home.idle running)
  refine ⟨?_, idle⟩
  by_cases control : call.isControl = true
  · -- of these calls only one that starts the stream lends a slot
    have same := (switches_of_isControl g control).steady (idle.trans home.idle.symm)
    exact (congrArg SlotPool.busyCount same.pool).trans home.slots
  · cases call with
    | powerOn => exact SlotPool.busyCount_releaseAll g.pool
    | connect | disconnect => exact g.wind_home.1
    | requestEndpoints =>
      obtain ⟨usb, endpoint, next⟩ := g.exists_next_requestEndpoints
      exact (congrArg busySlots next).trans home.slots
    | transferComplete ep direction report =>
      have same := congrArg Prod.snd (home.report ep direction report)
      exact (congrArg busySlots same).trans home.slots
    | fillInFlight buffer data =>
      exact (congrArg busySlots (home.fill buffer data)).trans home.slots
    | _ => exact absurd rfl control

theorem Home.run {g : Gadget U S C} (home : Home g) {calls : List Call}
    (quiet : ∀ one ∈ g.transcript calls, one.1.begins one.2 = false) :
    Home (g.run calls).2 := by
  induction calls generalizing g with
  | nil => exact home
  | cons call calls ih =>
    rw [transcript_cons] at quiet
    obtain ⟨first, rest⟩ := List.forall_mem_cons.1 quiet
    exact ih (home.perform first) rest

end Gadget

/-! ## Every run -/

section Runs

variable {U S C : Type} [UsbCore U] [PcmSink S] [Codec C]

/-- **What the end of a connection does**, `g` before and `g'` afterwards. The
core is told to call off what is queued if and only if a slot is out, and
the sink is stopped if and only if a stream runs, each once. -/
structure TearsDown (g g' : Gadget (Watched U CoreCall) (Watched S SinkCall) C) : Prop where
  quiet : g.busySlots = 0 → g'.usb = g.usb
  cancelled : 0 < g.busySlots →
    ∃ ep, g.endpoint = some ep ∧ g'.usb.calls = g.usb.calls ++ [.cancel ep]
  silent : g.isOperational = false → g'.sink = g.sink
  stopped : g.isOperational = true → g'.sink.calls = g.sink.calls ++ [.stop]
  home : g'.busySlots = 0
  selected : g'.streaming.selected = .inactive
  free : g'.pending = none

omit [Codec C] in
/-- A gadget that knows an endpoint whenever a slot is out winds up so. -/
theorem tearsDown_wind {g : Gadget (Watched U CoreCall) (Watched S SinkCall) C}
    (known : 0 < g.busySlots → ∃ ep, g.endpoint = some ep) : TearsDown g g.wind where
  quiet home := by
    rw [Gadget.wind_eq]
    exact Gadget.usb_reclaim_of_home home
  cancelled busy := by
    obtain ⟨ep, own⟩ := known busy
    refine ⟨ep, own, ?_⟩
    rw [Gadget.wind_eq]
    exact congrArg Watched.calls (Gadget.usb_reclaim_of_busy own busy)
  silent idle := by
    rw [Gadget.wind_eq, idle]
    rfl
  stopped running := by
    rw [Gadget.wind_eq, running]
    rfl
  home := g.wind_home.1
  selected := rfl
  free := rfl

/-- **The end of a connection is exact, and final.** In every reachable
state a slot is out only if there is an endpoint. Whether the host leaves
or comes, the core is told to call off what is queued exactly if a slot is
out and the sink is stopped exactly if a stream runs, and then every slot
is home, no setting is selected and no write waits. After the host left,
leaving again changes nothing, and coming tells core and sink nothing;
and until setting 1 is selected again, whatever else happens, every report
is ignored and changes nothing. -/
theorem teardown_is_final (usb : U) (sink : S) (codec : C) (format : StreamFormat) (slots : Nat)
    (calls : List Call) :
    let start := Gadget.unregistered (Watched.of usb) (Watched.of sink) codec format slots
    let g := (start.run calls).2
    let gone := (g.perform .disconnect).next
    (0 < g.busySlots → ∃ ep, g.endpoint = some ep) ∧
      (TearsDown g gone ∧ TearsDown g (g.perform .connect).next) ∧
      (gone.perform .disconnect).next = gone ∧
      ((gone.perform .connect).next.usb = gone.usb ∧
        (gone.perform .connect).next.sink = gone.sink) ∧
      ∀ more, (∀ one ∈ gone.transcript more, one.1.begins one.2 = false) →
        let later := (gone.run more).2
        ∀ ep direction report,
          later.transferComplete ep direction report = (.ignored, later) := by
  intro start g gone
  -- a slot that is out was lent on an endpoint, and the gadget keeps its endpoint
  have order : InOrder (start.history calls) g :=
    (inOrder_unregistered usb (Watched.of sink) codec format slots).run calls
  have known (busy : 0 < g.busySlots) : ∃ ep, g.endpoint = some ep := by
    obtain ⟨buffer, out⟩ := SlotPool.exists_lentSlot? busy
    exact order.exists_endpoint out
  have wound := tearsDown_wind known
  have home : Gadget.Home gone := ⟨wound.home, rfl⟩
  refine ⟨known, ⟨wound, ?_⟩, g.wind_wind, Gadget.wind_of_home home.slots home.idle, ?_⟩
  · exact ⟨wound.quiet, wound.cancelled, wound.silent, wound.stopped, wound.home, wound.selected,
      wound.free⟩
  · intro more quiet later ep direction report
    exact (home.run quiet).report ep direction report

end Runs

/-- A gadget under observation, with one slot. -/
def unplugged : Gadget (Watched Core CoreCall) (Watched Sink SinkCall) Bench.Codec :=
  .unregistered (.of Core.fresh) (.of Sink.fresh) Codec.fresh default 1

/-- A stream runs, and a volume was announced, when the cable is pulled. -/
def midway : List Call :=
  [.powerOn, .requestEndpoints, .setFirstInterface 0, .connect, .setInterface 1 1,
    .controlRequest (Request.featurePacket 0 .setCurrent .volume 2) []]

/-- The next host asks for settings 0 and 2, and not for setting 1. -/
def tentative : List Call :=
  [.connect, .controlRequest (Request.setInterfacePacket 1 0 0) [],
    .controlRequest (Request.setInterfacePacket 1 0 2) []]

/-- One reception is called off, the sink is stopped, and what is reported
later is ignored. -/
theorem teardown_is_final_midway :
    let g := (unplugged.run midway).2
    let gone := (g.perform .disconnect).next
    let later := (gone.run tentative).2
    (∃ ep, gone.usb.calls = g.usb.calls ++ [.cancel ep]) ∧
      gone.sink.calls = g.sink.calls ++ [.stop] ∧
      ∀ ep direction report,
        later.transferComplete ep direction report = (.ignored, later) := by
  intro g gone later
  obtain ⟨-, ⟨torn, -⟩, -, -, ignored⟩ :=
    teardown_is_final Core.fresh Sink.fresh Codec.fresh default 1 midway
  have busy : 0 < g.busySlots := by decide +kernel
  have running : g.isOperational = true := by decide +kernel
  have quiet : ∀ one ∈ gone.transcript tentative, one.1.begins one.2 = false := by
    decide +kernel
  obtain ⟨ep, -, cancelled⟩ := torn.cancelled busy
  exact ⟨⟨ep, cancelled⟩, torn.stopped running, ignored tentative quiet⟩

end AudioGadget
