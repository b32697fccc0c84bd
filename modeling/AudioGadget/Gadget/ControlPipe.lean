import AudioGadget.Function.Reply
import AudioGadget.Function.Request
import AudioGadget.Gadget.Selection
/-!
# ControlPipe — the host reads and writes controls

A reading is answered at once. A write takes two steps: its setup packet
is accepted and remembered, and it takes effect when its data arrives in
exactly the announced length. A new setup packet makes the gadget forget
a write that still waits, and so does any data, good or bad.
-/

namespace AudioGadget.Gadget

variable {U S C : Type}

/-- The interface numbers, once both are assigned. -/
def interfaces? (g : Gadget U S C) : Option (UInt8 × UInt8) :=
  match g.controlInterface, g.streaming.number with
  | some control, some streaming => some (control, streaming)
  | _, _ => none

/-- Accept a write, if there is such a control on such a channel. -/
def acceptWrite (g : Gadget U S C) (control : Control) (channel : UInt8) :
    Step (Gadget U S C) Reply :=
  if g.feature.supports control channel then
    ⟨.handled 0, { g with pending := some ⟨control, channel, control.payloadLength⟩ }, []⟩
  else
    ⟨.unhandled, g, [.missingChannel channel]⟩

/-- The answer to a question for the selected setting. The control
interface has no settings but 0. -/
def alternateAnswer (g : Gadget U S C) (streaming interface : UInt8) : Option Bytes :=
  if interface = streaming then
    match g.getInterface interface with
    | .ok n => some [n]
    | .error _ => none
  else
    some [0]

/-- Select a setting on behalf of the host. On the control interface only
setting 0 can be selected, and selecting it does nothing. -/
def selectForHost [UsbCore U] [PcmSink S] (g : Gadget U S C)
    (control interface alternate : UInt8) : Step (Gadget U S C) Reply :=
  if interface = control then
    ⟨if alternate = 0 then .handled 0 else .unhandled, g, []⟩
  else
    let step := g.setInterface interface alternate
    match step.answer with
    | .ok () => ⟨.handled 0, step.next, step.log⟩
    | .error e => ⟨.unhandled, step.next, step.log ++ [.selectionRefused e]⟩

/-- Answer a request of the function, over the front of `dest`. -/
def answerRequest [UsbCore U] [PcmSink S] (g : Gadget U S C) (control streaming : UInt8)
    (request : Request) (dest : Bytes) : Step (Gadget U S C) (Reply × Bytes) :=
  match request with
  | .feature .setCurrent c channel =>
    let step := g.acceptWrite c channel
    ⟨(step.answer, dest), step.next, step.log⟩
  | .feature verb c channel => ⟨Reply.write dest (g.feature.read? verb c channel), g, []⟩
  | .getInterface interface => ⟨Reply.write dest (g.alternateAnswer streaming interface), g, []⟩
  | .setInterface interface alternate =>
    let step := g.selectForHost control interface alternate
    ⟨(step.answer, dest), step.next, step.log⟩

/-- Forget a write that still waits for its data. -/
def dropPending (g : Gadget U S C) : Gadget U S C :=
  { g with pending := none }

/-- **Answer a setup packet.** Any packet drops a waiting write first, then
it is read and answered; before the interfaces are numbered nothing is. -/
def controlRequest [UsbCore U] [PcmSink S] (g : Gadget U S C) (setup : SetupPacket)
    (dest : Bytes) : Step (Gadget U S C) (Reply × Bytes) :=
  let dropped := if g.pending.isSome then [Event.writeSuperseded] else []
  let g := g.dropPending
  match g.interfaces? with
  | none => ⟨(.unhandled, dest), g, dropped⟩
  | some (control, streaming) =>
    match Request.ofSetup? setup control streaming with
    | none =>
      ⟨(.unhandled, dest), g,
        dropped ++ [.unsupportedRequest setup.request setup.value setup.index]⟩
    | some request =>
      let step := g.answerRequest control streaming request dest
      ⟨step.answer, step.next, dropped ++ step.log⟩

/-! ## The data of a write -/

/-- Store a control's value and tell the codec. Volumes are rounded to the
grid on the way in. -/
def applyWrite? [Codec C] (feature : FeatureUnit) (codec : C) (control : Control)
    (channel : UInt8) (data : Bytes) : Option (FeatureUnit × C) :=
  if feature.supports control channel then
    match control, data with
    | .mute, [b] => some (feature.setMuted (b ≠ 0), Codec.setMute codec (b ≠ 0))
    | .volume, [lo, hi] =>
      let v := Volume.nearest (signedWord lo hi)
      (feature.setVolume? channel v).map fun feature => (feature, Codec.setVolume codec channel v)
    | _, _ => none
  else
    none

/-- The volume that a log line shows for a channel, 0 where it has none. -/
def shownVolume (feature : FeatureUnit) (channel : UInt8) : Int :=
  match feature.volume? channel with
  | some v => v.raw
  | none => 0

/-- **Take the data of a write.** Without a waiting write, or with a wrong
length, nothing is stored; the waiting write is used up either way. -/
def dataStage [Codec C] (g : Gadget U S C) (data : Bytes) : Step (Gadget U S C) Reply :=
  match g.pending with
  | none => ⟨.unhandled, g, [.strayData]⟩
  | some write =>
    let g := g.dropPending
    if data.length = write.length then
      match applyWrite? g.feature g.codec write.control write.channel data with
      | none => ⟨.unhandled, g, []⟩
      | some (feature, codec) =>
        ⟨.handled 0, { g with feature, codec },
          [.controlWritten write.channel feature.muted (shownVolume feature write.channel)]⟩
    else
      ⟨.unhandled, g, [.dataLengthWrong data.length write.length]⟩

end AudioGadget.Gadget
