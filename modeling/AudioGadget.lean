import AudioGadget.Bench.Codec
import AudioGadget.Bench.Core
import AudioGadget.Bench.Sink
import AudioGadget.Bytes
import AudioGadget.Chore.Arguments
import AudioGadget.Chore.Check
import AudioGadget.Chore.Doc
import AudioGadget.Chore.Plan
import AudioGadget.Chore.Program
import AudioGadget.Chore.Tally
import AudioGadget.Chore.Test
import AudioGadget.Chore.Tool
import AudioGadget.Counter
import AudioGadget.Dac.Codec
import AudioGadget.Dac.Shadow
import AudioGadget.Function.Control
import AudioGadget.Function.Descriptor
import AudioGadget.Function.FeatureUnit
import AudioGadget.Function.Fragment
import AudioGadget.Function.Numbering
import AudioGadget.Function.Reply
import AudioGadget.Function.Request
import AudioGadget.Function.Streaming
import AudioGadget.Function.Strings
import AudioGadget.Gadget.Basic
import AudioGadget.Gadget.Call
import AudioGadget.Gadget.Connection
import AudioGadget.Gadget.ControlPipe
import AudioGadget.Gadget.Event
import AudioGadget.Gadget.Reception
import AudioGadget.Gadget.Registration
import AudioGadget.Gadget.Selection
import AudioGadget.Identity
import AudioGadget.Inspect.Caption
import AudioGadget.Inspect.Chain
import AudioGadget.Inspect.Dump
import AudioGadget.Level.Attenuation
import AudioGadget.Level.Volume
import AudioGadget.Main
import AudioGadget.OutOfRange
import AudioGadget.Pcm.Format
import AudioGadget.Pcm.Layout
import AudioGadget.Pcm.SampleRate
import AudioGadget.Playback.Pipeline
import AudioGadget.Playback.Ring
import AudioGadget.Playback.Sink
import AudioGadget.Reception.Counts
import AudioGadget.Reception.Pool
import AudioGadget.Reception.Slot
import AudioGadget.Refusal
import AudioGadget.Text.Blank
import AudioGadget.Text.Column
import AudioGadget.Text.Decimal
import AudioGadget.Text.Split
import AudioGadget.Text.Utf16
import AudioGadget.Text.Utf8
import AudioGadget.Usb.Core
import AudioGadget.Usb.Endpoint
import AudioGadget.Usb.Setup
import AudioGadget.Function.Descriptor.Reader
import AudioGadget.Bench.Watched
import AudioGadget.Proofs.Reception.History
import AudioGadget.Proofs.Reception.Ledger
import AudioGadget.Proofs.Playback.Alignment
import AudioGadget.Proofs.Playback.Integrity
import AudioGadget.Proofs.Reception.Flight
import AudioGadget.Proofs.Playback.Protocol
import AudioGadget.Proofs.Reception.Refusals
import AudioGadget.Proofs.Control.Levels
import AudioGadget.Proofs.Descriptors.Offer
import AudioGadget.Proofs.Control.Loudness
import AudioGadget.Proofs.Reception.Announced
import AudioGadget.Proofs.Playback.Fifo
import AudioGadget.Proofs.Connection.Teardown
import AudioGadget.Proofs.Sides
import AudioGadget.Proofs.Contexts
import AudioGadget.Proofs.Script
import AudioGadget.Proofs.Connection.Renewal
import AudioGadget.Proofs.Reception.Account
import AudioGadget.Proofs.Control.Granted
import AudioGadget.Proofs.Descriptors.Assigned
import AudioGadget.Proofs.Failure
import AudioGadget.Proofs.Control.Settings
import AudioGadget.Proofs.Control.Grammar
import AudioGadget.Proofs.Playback.Priming
import AudioGadget.Proofs.Playback.Frames
import AudioGadget.Proofs.Dac.Polling
import AudioGadget.Proofs.Reception.Order
import AudioGadget.Proofs.Reception.Unlent
import AudioGadget.Proofs.Bandwidth
import AudioGadget.Proofs.Inspect.Walk
import AudioGadget.Proofs.Descriptors.Spelling
import AudioGadget.Proofs.Text.Printed
import AudioGadget.Proofs.Text.Cut
import AudioGadget.Proofs.Chore.Results
import AudioGadget.Proofs.Chore.Words
import AudioGadget.Proofs.Chore.Flags
import AudioGadget.Proofs.Chore.Performance
import AudioGadget.Proofs.Chore.Conduct
import AudioGadget.Proofs.Inspect.Listing
import AudioGadget.Proofs.Inspect.Faithful
