import AudioGadget.Dac.Codec
import AudioGadget.Function.FeatureUnit
import AudioGadget.Function.Numbering
import AudioGadget.Function.Streaming
import AudioGadget.Gadget.Event
import AudioGadget.Reception.Pool
/-!
# Gadget — the audio function of a device, as a whole

A gadget owns everything that belongs to one audio function: its numbers
as far as they are assigned, the feature unit, the alternate setting, a
write that waits for its data, and the receive slots. It works for a USB
core, a sink and a codec that it is given and that it knows only by what
they can be asked, so every statement about a gadget is about all of
them.

Every operation is a function from the gadget to a `Step`: an answer,
the gadget afterwards, and what went into the log.
-/

namespace AudioGadget

/-- A write that was accepted and waits for its data. -/
structure PendingWrite where
  control : Control
  channel : UInt8
  /-- Octets that the data must have. -/
  length : Nat
deriving DecidableEq, Repr

/-- An audio function between a core `U`, a sink `S` and a codec `C`. -/
structure Gadget (U S C : Type) where
  usb : U
  sink : S
  codec : C
  format : StreamFormat
  controlInterface : Option UInt8
  endpoint : Option EndpointAddress
  firstString : Option UInt8
  feature : FeatureUnit
  streaming : StreamingInterface
  pending : Option PendingWrite
  pool : SlotPool

/-- What one operation leaves behind. -/
structure Step (G α : Type) where
  answer : α
  next : G
  log : List Event

namespace Gadget

variable {U S C : Type}

/-- A gadget before registration, with `slots` receive slots. Nothing is
asked of the collaborators yet. -/
def unregistered (usb : U) (sink : S) (codec : C) (format : StreamFormat) (slots : Nat) :
    Gadget U S C where
  usb := usb
  sink := sink
  codec := codec
  format := format
  controlInterface := none
  endpoint := none
  firstString := none
  feature := .powerOn format.channels
  streaming := .unassigned
  pending := none
  pool := .idle slots format.maxPacketSize

/-- Slots that the core has. -/
def busySlots (g : Gadget U S C) : Nat :=
  g.pool.busyCount

/-- Whether the stream runs. -/
def isOperational (g : Gadget U S C) : Bool :=
  g.streaming.isOperational

/-- Put every part that belongs to a connection in its power-on state.
Assigned numbers are kept, and no collaborator is asked. -/
def powerOn (g : Gadget U S C) : Step (Gadget U S C) Unit where
  answer := ()
  next := { g with
    feature := g.feature.reset
    streaming := g.streaming.reset
    pending := none
    pool := g.pool.releaseAll.resetCounts }
  log := [.configured g.format]

end Gadget

end AudioGadget
