import AudioGadget.Function.Fragment
import AudioGadget.Function.Strings
import AudioGadget.Gadget.Basic
/-!
# Registration — the gadget gets its numbers and describes itself

The core numbers endpoints, interfaces and strings when the device is
put together. Once every number is there, the gadget can write its share
of the configuration descriptor.
-/

namespace AudioGadget.Gadget

variable {U S C : Type}

/-- Reserve the isochronous endpoint. Later calls find the same one. -/
def requestEndpoints [UsbCore U] (g : Gadget U S C) :
    Step (Gadget U S C) (Except Refusal EndpointAddress) :=
  match g.endpoint with
  | some ep => ⟨.ok ep, g, []⟩
  | none =>
    match UsbCore.allocEndpoint g.usb .isochronous .hostToDevice g.format.maxPacketSize with
    | (none, usb) => ⟨.error .endpointUnavailable, { g with usb }, []⟩
    | (some ep, usb) => ⟨.ok ep, { g with usb, endpoint := some ep }, [.endpointReserved ep]⟩

/-- Take interface `n` for control and the next for streaming, and name
the first one left over. -/
def setFirstInterface (g : Gadget U S C) (n : UInt8) : UInt8 × Gadget U S C :=
  (numberAfter n 2,
    { g with
      controlInterface := some n
      streaming := g.streaming.assign (numberAfter n 1) })

/-- Take the strings from `n` on, and name the first one left over. -/
def setFirstString (g : Gadget U S C) (n : UInt8) : UInt8 × Gadget U S C :=
  (numberAfter n stringCount, { g with firstString := some n })

/-- The numbering, once it is complete. -/
def numbering? (g : Gadget U S C) : Except Refusal Numbering :=
  match g.controlInterface, g.streaming.number, g.endpoint, g.firstString with
  | some control, some streaming, some endpoint, some firstString =>
    .ok ⟨g.format, control, streaming, endpoint, firstString⟩
  | _, _, _, _ => .error .numberingIncomplete

/-- **Write the function's descriptors.** The announced packet must fit
what a slot lends; `Fragment.write` checks the rest. -/
def writeDescriptors (g : Gadget U S C) (maxPacket : Nat) (dest : Bytes) :
    Except Refusal Nat × Bytes :=
  match g.numbering? with
  | .error e => (.error e, dest)
  | .ok numbering =>
    if g.pool.packetLength < maxPacket then
      (.error (.packetTooLarge maxPacket g.pool.packetLength), dest)
    else
      Fragment.write numbering maxPacket dest

/-- The string descriptor of a number, if the string is ours. -/
def stringDescriptor? (g : Gadget U S C) (index : UInt8) : Option Bytes := do
  let first ← g.firstString
  let text ← Strings.text? first index
  Strings.encode? text

/-- **An endpoint, once reserved, is the answer to every later request.** -/
theorem requestEndpoints_of_endpoint [UsbCore U] {g : Gadget U S C} {ep : EndpointAddress}
    (h : g.endpoint = some ep) : g.requestEndpoints = ⟨.ok ep, g, []⟩ := by
  simp [requestEndpoints, h]

/-- A complete numbering is made of the numbers that were assigned. -/
theorem of_numbering?_eq_ok {g : Gadget U S C} {n : Numbering} (h : g.numbering? = .ok n) :
    n.format = g.format ∧ g.controlInterface = some n.controlInterface ∧
      g.streaming.number = some n.streamingInterface ∧ g.endpoint = some n.endpoint ∧
      g.firstString = some n.firstString := by
  unfold numbering? at h
  split at h
  · rename_i control streaming endpoint first
    cases h
    exact ⟨rfl, control, streaming, endpoint, first⟩
  · cases h

/-- **Descriptors that were written are the fragment of the numbering**, and
announce no more than a slot lends. -/
theorem of_writeDescriptors_eq_ok {g : Gadget U S C} {maxPacket length : Nat} {dest out : Bytes}
    (h : g.writeDescriptors maxPacket dest = (.ok length, out)) :
    ∃ n, g.numbering? = .ok n ∧ maxPacket ≤ g.pool.packetLength ∧
      Fragment.write n maxPacket dest = (.ok length, out) := by
  unfold writeDescriptors at h
  split at h
  · cases h
  · rename_i n numbered
    split at h
    · cases h
    · rename_i fits
      exact ⟨n, numbered, Nat.not_lt.1 fits, h⟩

end AudioGadget.Gadget
