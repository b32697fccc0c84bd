import AudioGadget.Gadget.Basic
/-!
# Selection — the host starts and stops the stream

Selecting setting 1 lends every idle slot and starts the sink; selecting
setting 0 stops the sink and lets the receptions that are out come home
one by one. Selecting what is selected already does nothing.
-/

namespace AudioGadget.Gadget

variable {U S C : Type}

/-- Lend the idle slots and start the sink. -/
def beginStream [UsbCore U] [PcmSink S] (g : Gadget U S C) (ep : EndpointAddress) :
    Nat × Gadget U S C :=
  let (armed, pool, usb) := g.pool.armIdle g.usb ep
  (armed, { g with pool, usb, sink := PcmSink.start g.sink })

/-- **Select a setting of the streaming interface.** The interface is
checked first, then the setting, then that there is an endpoint; a
refusal changes nothing. -/
def setInterface [UsbCore U] [PcmSink S] (g : Gadget U S C) (interface alternate : UInt8) :
    Step (Gadget U S C) (Except Refusal Unit) :=
  match g.streaming.select? interface alternate with
  | .error e => ⟨.error e, g, []⟩
  | .ok (transition, streaming) =>
    match g.endpoint with
    | none => ⟨.error .numberingIncomplete, g, []⟩
    | some ep =>
      let g := { g with streaming }
      match transition with
      | .activate =>
        let (armed, g) := g.beginStream ep
        ⟨.ok (), g, [.streamStarted armed]⟩
      | .deactivate => ⟨.ok (), { g with sink := PcmSink.stop g.sink }, [.streamIdle]⟩
      | .unchanged => ⟨.ok (), g, [.alternateKept alternate]⟩

/-- The number of the selected setting, for whoever names the streaming
interface. -/
def getInterface (g : Gadget U S C) (interface : UInt8) : Except Refusal UInt8 :=
  (g.streaming.current? interface).map Alternate.number

/-- **A refused selection changes nothing** and is not noted. -/
theorem setInterface_of_error [UsbCore U] [PcmSink S] {g : Gadget U S C}
    {interface alternate : UInt8} {e : Refusal}
    (h : (g.setInterface interface alternate).answer = .error e) :
    (g.setInterface interface alternate).next = g ∧
      (g.setInterface interface alternate).log = [] := by
  simp only [setInterface] at h ⊢
  split at h
  · exact ⟨rfl, rfl⟩
  · split at h
    · exact ⟨rfl, rfl⟩
    · split at h <;> cases h

end AudioGadget.Gadget
