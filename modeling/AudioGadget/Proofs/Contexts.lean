import AudioGadget.Bench.Core
import AudioGadget.Bench.Sink
import AudioGadget.Proofs.Reception.History
import AudioGadget.Proofs.Sides
/-!
# Contexts — reports and requests do not get in each other's way

Receptions are reported in one context and the host's requests come in
another, and both work on the same gadget. They share no part of it:
reports leave the control side as it was, and what the host says to the
feature unit leaves the receiving side as it was. So a run without its
reports goes on, on the control side, as the run did (`undisturbed_run`),
and so does a run without its class requests on the receiving side
(`receivingSide_run`).

The one thing that crosses over is the endpoint, which the core gives to
the control side. A core that has not given it has not been asked for
anything either, so at that moment nothing of the reports shows in it.
-/

namespace AudioGadget

open Bench

/-- A report of a reception. -/
def Call.isReport : Call → Bool
  | .transferComplete .. => true
  | _ => false

theorem Call.isBus_of_isReport {call : Call} (h : call.isReport = true) : call.isBus = true := by
  cases call <;> first | rfl | cases h

/-- A report is nothing that a host says. -/
theorem Call.not_isClass_of_isReport {call : Call} (h : call.isReport = true) :
    call.isClass = false := by
  cases call <;> first | rfl | cases h

namespace Gadget

variable {U S C : Type} [UsbCore U] [PcmSink S] [Codec C]

/-- **Before there is an endpoint the core is asked for nothing else.** -/
theorem usb_of_unreserved {g : Gadget U S C} (unreserved : g.endpoint = none) {call : Call}
    (other : call ≠ .requestEndpoints) : (g.perform call).next.usb = g.usb := by
  have wound : g.wind.usb = g.usb := by
    rw [wind_eq]
    rcases usb_reclaim g with kept | ⟨ep, own, -⟩
    · exact kept
    · cases unreserved.symm.trans own
  by_cases control : call.isControl = true
  · cases switches_of_isControl g control with
    | kept same => exact same.usb
    | began own => cases unreserved.symm.trans own
    | ended own => exact absurd unreserved own
  · cases call with
    | powerOn | fillInFlight => rfl
    | connect | disconnect => exact wound
    | requestEndpoints => exact absurd rfl other
    | transferComplete ep direction report =>
      -- without an endpoint every report is foreign
      have foreign : g.endpoint ≠ some ep := by simp [unreserved]
      exact congrArg (·.2.usb) (transferComplete_of_foreign foreign direction report)
    | _ => exact absurd rfl control

/-! ## Without the reports -/

/-- **Nothing tells the gadgets apart on the control side**, now or later. -/
structure Undisturbed (g h : Gadget U S C) : Prop where
  control : g.controlSide = h.controlSide
  codec : g.codec = h.codec
  /-- As long as the core may still be asked for an endpoint. -/
  usb : g.endpoint = none → g.usb = h.usb

namespace Undisturbed

variable {g h : Gadget U S C}

/-- A report to one of them. -/
theorem report (same : Undisturbed g h) {call : Call} (reports : call.isReport = true) :
    Undisturbed (g.perform call).next h := by
  have bus := Call.isBus_of_isReport reports
  have control := g.controlSide_of_isBus bus
  refine ⟨control.trans same.control, ?_, fun unreserved => ?_⟩
  · exact (g.codec_of_isBus bus).trans same.codec
  · rw [(of_controlSide control).endpoint] at unreserved
    rw [usb_of_unreserved unreserved (by rintro rfl; cases bus)]
    exact same.usb unreserved

/-- **Any other call to both.** They answer alike, unless it is the bus that
asks, and still cannot be told apart. -/
theorem perform (same : Undisturbed g h) (call : Call) :
    (call.isBus = false → (g.perform call).answer = (h.perform call).answer) ∧
      Undisturbed (g.perform call).next (h.perform call).next := by
  have codec := agree_codec same.control same.codec call
  have endpoint := (of_controlSide same.control).endpoint
  by_cases asks : call = .requestEndpoints
  · subst asks
    have format := (of_controlSide same.control).format
    -- a core that is still to be asked is the same core in both
    have given := agree_requestEndpoints same.control fun unreserved => by
      rw [same.usb unreserved, format]
    refine ⟨fun _ => congrArg Answer.endpoint given.1, given.2, codec, ?_⟩
    intro unreserved
    rcases before : g.endpoint with _ | ep
    · have left : g.requestEndpoints.next = _ := next_requestEndpoints before
      have right : h.requestEndpoints.next = _ := next_requestEndpoints (endpoint ▸ before)
      simp only [Gadget.perform, left, right, same.usb before, format]
    · have kept := (g.terms_perform .requestEndpoints).endpoint ep before
      cases unreserved.symm.trans kept
  · have usb (unreserved : (g.perform call).next.endpoint = none) :
        (g.perform call).next.usb = (h.perform call).next.usb := by
      rcases before : g.endpoint with _ | ep
      · rw [usb_of_unreserved before asks, usb_of_unreserved (endpoint ▸ before) asks]
        exact same.usb before
      · cases unreserved.symm.trans ((g.terms_perform call).endpoint ep before)
    rcases bus : call.isBus with _ | _
    · obtain ⟨answer, control⟩ := agree_controlSide same.control bus asks
      exact ⟨fun _ => answer, control, codec, usb⟩
    · refine ⟨fun own => Bool.noConfusion own, ?_, codec, usb⟩
      rw [g.controlSide_of_isBus bus, h.controlSide_of_isBus bus]
      exact same.control

/-- **A run without its reports goes on as the run did.** -/
theorem run (same : Undisturbed g h) (calls : List Call) :
    let quiet := calls.filter (!Call.isReport ·)
    (g.transcript calls).filter (fun one => !one.1.isBus) =
        (h.transcript quiet).filter (fun one => !one.1.isBus) ∧
      Undisturbed (g.run calls).2 (h.run quiet).2 := by
  induction calls generalizing g h with
  | nil => exact ⟨rfl, same⟩
  | cons call calls ih =>
    -- a report is a step of `g` alone, any other call is one of both
    rcases reports : call.isReport with _ | _
    · obtain ⟨answer, next⟩ := same.perform call
      obtain ⟨rest, last⟩ := ih next
      simp only [List.filter_cons, reports, Bool.not_false, if_true, transcript_cons]
      refine ⟨?_, last⟩
      rw [rest]
      rcases bus : call.isBus with _ | _
      · rw [answer bus]
      · rfl
    · obtain ⟨rest, last⟩ := ih (same.report reports)
      have bus := Call.isBus_of_isReport reports
      simp only [List.filter_cons, reports, Bool.not_true, transcript_cons, bus]
      exact ⟨rest, last⟩

end Undisturbed

/-! ## Without what the host says to the feature unit -/

/-- **A run without its class requests goes on as the run did**, on the
receiving side. -/
theorem receivingSide_run {g h : Gadget U S C} (same : g.receivingSide = h.receivingSide)
    (calls : List Call) :
    let plain := calls.filter (!Call.isClass ·)
    (g.transcript calls).filter (fun one => !one.1.isClass) = h.transcript plain ∧
      (g.run calls).2.receivingSide = (h.run plain).2.receivingSide := by
  induction calls generalizing g h with
  | nil => exact ⟨rfl, same⟩
  | cons call calls ih =>
    rcases ours : call.isClass with _ | _
    · obtain ⟨answer, next⟩ := agree_receivingSide same ours
      obtain ⟨rest, last⟩ := ih next
      simp only [List.filter_cons, ours, Bool.not_false, if_true, transcript_cons]
      exact ⟨by rw [rest, answer], last⟩
    · obtain ⟨rest, last⟩ := ih ((g.receivingSide_of_isClass ours).trans same)
      simp only [List.filter_cons, ours, Bool.not_true, transcript_cons]
      exact ⟨rest, last⟩

/-! ## Side by side -/

/-- **A report and a class request can trade places.** Each is answered as it
would be without the other, and both leave the same gadget. -/
theorem perform_comm (g : Gadget U S C) {report said : Call} (reports : report.isReport = true)
    (ours : said.isClass = true) :
    ((g.perform said).next.perform report).answer = (g.perform report).answer ∧
      ((g.perform report).next.perform said).answer = (g.perform said).answer ∧
      ((g.perform report).next.perform said).next =
        ((g.perform said).next.perform report).next := by
  have bus := Call.isBus_of_isReport reports
  have other := Call.not_isClass_of_isReport reports
  have own : said.isBus = false := by
    cases said <;> first | rfl | cases ours
  have named : said ≠ .requestEndpoints := by
    rintro rfl
    cases ours
  -- either side is left as it was by one of the two
  obtain ⟨said_same, control⟩ := agree_controlSide (g.controlSide_of_isBus bus) own named
  obtain ⟨report_same, receiving⟩ := agree_receivingSide (g.receivingSide_of_isClass ours) other
  refine ⟨report_same, said_same, eq_of_sides ?_ ?_ ?_⟩
  · rw [control, controlSide_of_isBus _ bus]
  · rw [receiving, receivingSide_of_isClass _ ours]
  · rw [codec_of_isBus _ bus, agree_codec (g.controlSide_of_isBus bus) (g.codec_of_isBus bus) said]

/-- **Reports and requests do not get in each other's way.** Whatever the
state and the calls:

Without its reports a run answers every other call the same, the bus
aside, and leaves the same levels, the same write waiting, the same
setting, and a codec that was told the same.

Without its class requests and their data it answers every other call the
same, and leaves the same counters, the same slots out, and a core and a
sink that were asked the same.

And a report next to a class request or its data can trade places with
it. -/
theorem contexts_do_not_interfere
    (g : Gadget (Watched U CoreCall) (Watched S SinkCall) (Watched C CodecCall))
    (calls : List Call) :
    let quiet := calls.filter (!Call.isReport ·)
    let plain := calls.filter (!Call.isClass ·)
    ((g.transcript calls).filter (fun one => !one.1.isBus) =
          (g.transcript quiet).filter (fun one => !one.1.isBus) ∧
        (g.run calls).2.feature = (g.run quiet).2.feature ∧
        (g.run calls).2.pending = (g.run quiet).2.pending ∧
        (g.run calls).2.streaming = (g.run quiet).2.streaming ∧
        (g.run calls).2.codec.calls = (g.run quiet).2.codec.calls) ∧
      ((g.transcript calls).filter (fun one => !one.1.isClass) = g.transcript plain ∧
        (g.run calls).2.pool.counts = (g.run plain).2.pool.counts ∧
        (g.run calls).2.pool.flags = (g.run plain).2.pool.flags ∧
        (g.run calls).2.usb.calls = (g.run plain).2.usb.calls ∧
        (g.run calls).2.sink.calls = (g.run plain).2.sink.calls) ∧
      ∀ report said : Call, report.isReport = true → said.isClass = true →
        g.run [report, said] = ((g.run [said, report]).1.reverse, (g.run [said, report]).2) := by
  intro quiet plain
  refine ⟨?_, ?_, ?_⟩
  · have alone : Undisturbed g g := ⟨rfl, rfl, fun _ => rfl⟩
    obtain ⟨answers, same⟩ := alone.run calls
    have common := of_controlSide same.control
    exact ⟨answers, common.feature, common.pending, common.streaming,
      congrArg Watched.calls same.codec⟩
  · obtain ⟨answers, same⟩ := receivingSide_run (g := g) rfl calls
    simp only [receivingSide, mk.injEq] at same
    obtain ⟨usb, sink, -, -, -, -, -, -, -, -, pool⟩ := same
    exact ⟨answers, congrArg SlotPool.counts pool, congrArg SlotPool.flags pool,
      congrArg Watched.calls usb, congrArg Watched.calls sink⟩
  · intro report said reports ours
    obtain ⟨report_same, said_same, next⟩ := g.perform_comm reports ours
    simp only [Gadget.run, report_same, said_same, next, List.reverse_cons, List.reverse_nil,
      List.nil_append, List.singleton_append]

end Gadget

/-- A stream runs, and a write to channel 1 waits for its data. -/
def announced : List Call :=
  [.powerOn, .requestEndpoints, .setFirstInterface 0, .connect, .setInterface 1 1,
    .controlRequest (Request.featurePacket 0 .setCurrent .volume 1) []]

/-- A gadget on the bench, watched from all sides, with one slot. -/
def monitored : Gadget (Watched Core CoreCall) (Watched Sink SinkCall)
    (Watched Bench.Codec CodecCall) :=
  .unregistered (.of Core.fresh) (.of Sink.fresh) (.of Codec.fresh) default 1

/-- A packet that is reported before the data comes, or after it. -/
def packetReport : Call :=
  .transferComplete (.ofNumber 1 .hostToDevice) .hostToDevice ⟨.success, 192, ⟨0⟩⟩

/-- The volume is set and the packet goes to the sink, whichever comes
first. -/
theorem contexts_do_not_interfere_announced :
    let g := (monitored.run announced).2
    let last := (g.run [packetReport, .dataStage [0, 0xF6]]).2
    last = (g.run [.dataStage [0, 0xF6], packetReport]).2 ∧
      last.feature.volume? 1 = some ⟨20, by omega⟩ ∧
      last.pool.counts.packetsAccepted.val = 1 := by
  intro g last
  obtain ⟨-, -, swap⟩ := g.contexts_do_not_interfere []
  have swapped := swap packetReport (.dataStage [0, 0xF6]) (by decide) (by decide)
  have same : last = (g.run [.dataStage [0, 0xF6], packetReport]).2 := by
    simp only [last, swapped]
  exact ⟨same, by decide +kernel, by decide +kernel⟩

end AudioGadget
