import AudioGadget.Dac.Codec
import AudioGadget.Playback.Sink
import AudioGadget.Usb.Core
/-!
# Watched — collaborators under observation

A watched collaborator answers as the one inside it does, and keeps
every call with its answer, the first call first. It works with any
collaborator, so a law about what a gadget asks of all cores, sinks and
codecs is a law about these records.
-/

namespace AudioGadget.Bench

/-- A collaborator `σ` and the calls `κ` that it was asked. -/
structure Watched (σ κ : Type) where
  inner : σ
  calls : List κ

/-- Start watching. -/
def Watched.of {σ κ : Type} (inner : σ) : Watched σ κ :=
  ⟨inner, []⟩

/-- Note one more call, and what it left of the collaborator. -/
def Watched.note {σ κ : Type} (w : Watched σ κ) (call : κ) (inner : σ) : Watched σ κ :=
  ⟨inner, w.calls ++ [call]⟩

/-- A call to a core, with its answer. -/
inductive CoreCall where
  | allocEndpoint (type : TransferType) (direction : Direction) (maxPacket : Nat)
      (given : Option EndpointAddress)
  | submitReceive (ep : EndpointAddress) (lease : Lease) (taken : Bool)
  | cancel (ep : EndpointAddress)
deriving DecidableEq

/-- A call to a sink, with its answer. -/
inductive SinkCall where
  | start
  | stop
  | accept (packet : Bytes) (intake : Intake)
deriving DecidableEq

/-- A call to a codec. -/
inductive CodecCall where
  | setMute (muted : Bool)
  | setVolume (channel : UInt8) (volume : Volume)
deriving DecidableEq

instance {σ : Type} [UsbCore σ] : UsbCore (Watched σ CoreCall) where
  allocEndpoint w type direction maxPacket :=
    let (given, inner) := UsbCore.allocEndpoint w.inner type direction maxPacket
    (given, w.note (.allocEndpoint type direction maxPacket given) inner)
  submitReceive w ep lease :=
    let (taken, inner) := UsbCore.submitReceive w.inner ep lease
    (taken, w.note (.submitReceive ep lease taken) inner)
  cancel w ep := w.note (.cancel ep) (UsbCore.cancel w.inner ep)

instance {σ : Type} [PcmSink σ] : PcmSink (Watched σ SinkCall) where
  accept w packet :=
    let (intake, inner) := PcmSink.accept w.inner packet
    (intake, w.note (.accept packet intake) inner)
  start w := w.note .start (PcmSink.start w.inner)
  stop w := w.note .stop (PcmSink.stop w.inner)

instance {σ : Type} [AudioGadget.Codec σ] : AudioGadget.Codec (Watched σ CodecCall) where
  setMute w muted := w.note (.setMute muted) (AudioGadget.Codec.setMute w.inner muted)
  setVolume w channel volume :=
    w.note (.setVolume channel volume) (AudioGadget.Codec.setVolume w.inner channel volume)

end AudioGadget.Bench
