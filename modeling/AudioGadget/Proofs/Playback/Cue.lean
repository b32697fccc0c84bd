import AudioGadget.Proofs.Stream
/-!
# Cue — what one call asks of the sink

A sink is started, stopped or offered a packet, and no call does more
than one of these. `Cue` lists the cases with what they leave of the
stream, and `cue_perform` says that every call is one of them, whatever
the sink is. What a sink is asked in a whole run is proved by one case
for a cue.
-/

namespace AudioGadget

variable {U S C : Type} [UsbCore U] [PcmSink S] [Codec C]

omit [UsbCore U] [Codec C] in
/-- **A packet that is offered has octets, and fits its lease.** -/
theorem SlotPool.offers_receive (p : SlotPool) (sink : S) (slot : Slot) (report : Report) :
    (p.receive sink slot report).2.2 = sink ∨
      ∃ packet : Bytes, packet ≠ [] ∧ packet.length ≤ p.packetLength ∧
        (p.receive sink slot report).2.2 = (PcmSink.accept sink packet).2 := by
  unfold receive
  split
  · split
    · exact .inl rfl
    · rename_i fits
      unfold forward
      split
      · exact .inl rfl
      · rename_i filled
        refine .inr ⟨slot.contents.take report.length, by simpa using filled, ?_, ?_⟩
        · rw [List.length_take]
          omega
        · split <;> rename_i accept <;> rw [accept]
  · exact .inl rfl
  · exact .inl rfl

namespace Gadget

/-- **What one call asks of the sink**, `g` before and `g'` afterwards. -/
inductive Cue (g g' : Gadget U S C) : Call → Prop
  | silent {call : Call} (running : g'.isOperational = g.isOperational) (sink : g'.sink = g.sink) :
      Cue g g' call
  /-- Switching on ends a stream without a word. -/
  | powered (idle : g'.isOperational = false) (sink : g'.sink = g.sink) : Cue g g' .powerOn
  | started {call : Call} (was : g.isOperational = false) (running : g'.isOperational = true)
      (sink : g'.sink = PcmSink.start g.sink) : Cue g g' call
  | stopped {call : Call} (was : g.isOperational = true) (idle : g'.isOperational = false)
      (sink : g'.sink = PcmSink.stop g.sink) : Cue g g' call
  | offered {ep : EndpointAddress} {direction : Direction} {report : Report} {packet : Bytes}
      (running : g.isOperational = true) (still : g'.isOperational = true)
      (filled : packet ≠ []) (fits : packet.length ≤ g.pool.packetLength)
      (sink : g'.sink = (PcmSink.accept g.sink packet).2) :
      Cue g g' (.transferComplete ep direction report)

theorem cue_of_isControl (g : Gadget U S C) {call : Call} (h : call.isControl = true) :
    Cue g (g.perform call).next call := by
  cases switches_of_isControl g h with
  | kept same => exact .silent same.isOperational same.sink
  | began _ idle same =>
    exact .started idle (same.isOperational.trans (isOperational_begun g _)) same.sink
  | ended _ running same =>
    exact .stopped running (same.isOperational.trans (isOperational_ended g)) same.sink

/-- Whatever brings everything home stops the sink, if a stream runs. -/
theorem cue_of_winds (g : Gadget U S C) {call : Call}
    (sink : (g.perform call).next.sink = g.wind.sink)
    (idle : (g.perform call).next.isOperational = false) : Cue g (g.perform call).next call := by
  rw [wind_eq] at sink
  rcases running : g.isOperational with _ | _
  · simp only [running] at sink
    exact .silent (idle.trans running.symm) sink
  · simp only [running] at sink
    exact .stopped running idle sink

theorem cue_requestEndpoints (g : Gadget U S C) :
    Cue g (g.perform .requestEndpoints).next .requestEndpoints := by
  obtain ⟨usb, endpoint, next⟩ := g.exists_next_requestEndpoints
  have next : (g.perform .requestEndpoints).next = _ := next
  rw [next]
  exact .silent rfl rfl

omit [Codec C] in
theorem cue_transferComplete (g : Gadget U S C) (ep : EndpointAddress) (direction : Direction)
    (report : Report) :
    Cue g (g.transferComplete ep direction report).2 (.transferComplete ep direction report) := by
  cases reports g ep direction report with
  | ignored _ next | stale _ _ _ _ next =>
    rw [next]
    exact .silent rfl rfl
  | @running slot _ _ _ running next =>
    rw [next]
    rcases g.pool.offers_receive g.sink slot.release report with kept | ⟨packet, filled, fits, sink⟩
    · exact .silent rfl kept
    · exact .offered running running filled fits sink

/-- **Every call is one of these.** -/
theorem cue_perform (g : Gadget U S C) (call : Call) : Cue g (g.perform call).next call := by
  by_cases control : call.isControl = true
  · exact cue_of_isControl g control
  · cases call with
    | powerOn => exact .powered rfl rfl
    | connect | disconnect => exact cue_of_winds g rfl rfl
    | requestEndpoints => exact cue_requestEndpoints g
    | transferComplete ep direction report => exact cue_transferComplete g ep direction report
    | fillInFlight => exact .silent rfl rfl
    | _ => exact absurd rfl control

end Gadget

end AudioGadget
