import AudioGadget.Counter
import AudioGadget.Pcm.Layout
import AudioGadget.Playback.Ring
import AudioGadget.Playback.Sink
/-!
# Pipeline — received audio on its way to the DAC

Packets enter a ring as they are received and leave it in whole frames
as the DAC asks for them. Before playback starts, and again after it ran
dry, half the ring is filled first: a host clock that wavers then finds
a cushion. Without a stream nothing is kept and the DAC gets silence.
-/

namespace AudioGadget

/-- What the pipeline is doing. -/
inductive Phase where
  /-- There is no stream. -/
  | stopped
  /-- Filling the cushion. -/
  | priming
  /-- Playing. -/
  | running
deriving DecidableEq, Repr

/-- A ring of `capacity` octets between the bus and the DAC. -/
structure Pipeline (capacity : Nat) where
  ring : Ring capacity
  layout : Layout
  phase : Phase
  /-- How often the DAC asked for more than there was. -/
  underruns : Counter
  /-- Packets refused for want of room. -/
  overflows : Counter
  /-- Packets that came without a stream. -/
  late : Counter
deriving DecidableEq

namespace Pipeline

variable {capacity : Nat}

/-- An empty pipeline without a stream. -/
def idle (layout : Layout) : Pipeline capacity :=
  ⟨.empty, layout, .stopped, default, default, default⟩

/-- Octets waiting for the DAC. -/
def buffered (p : Pipeline capacity) : Nat :=
  p.ring.count

/-- The fill at which priming ends: half the ring, in whole frames. -/
def threshold (p : Pipeline capacity) : Nat :=
  p.layout.wholeFrames (capacity / 2)

/-- A stream begins: start over with an empty ring. -/
def start (p : Pipeline capacity) : Pipeline capacity :=
  { p with ring := p.ring.clear, phase := .priming }

/-- The stream ends: drop what is waiting. -/
def stop (p : Pipeline capacity) : Pipeline capacity :=
  { p with ring := p.ring.clear, phase := .stopped }

/-- **Take a packet whole or refuse it.** Without a stream it is counted
as late and thrown away. A packet that fills the cushion ends priming. -/
def accept (p : Pipeline capacity) (packet : Bytes) : Intake × Pipeline capacity :=
  if p.phase = .stopped then
    (.accepted, { p with late := p.late.bump })
  else
    match p.ring.append? packet with
    | none => (.rejected, { p with overflows := p.overflows.bump })
    | some ring =>
      let phase := if p.phase = .priming ∧ p.threshold ≤ ring.count then .running else p.phase
      (.accepted, { p with ring, phase })

/-- Fill the DAC's buffer and say how much of it is audio; the rest is
silence. Only whole frames are taken, so channels keep their places.
Running dry is counted, and the cushion is filled again. -/
def drain (p : Pipeline capacity) (out : Bytes) : Nat × Bytes × Pipeline capacity :=
  if p.phase = .running then
    let wanted := p.layout.wholeFrames out.length
    let (taken, audio, ring) := p.ring.readInto (out.take wanted)
    let filled := audio.take taken ++ List.replicate (out.length - taken) 0
    let p := { p with ring }
    if taken < wanted then
      (taken, filled, { p with underruns := p.underruns.bump, phase := .priming })
    else
      (taken, filled, p)
  else
    (0, List.replicate out.length 0, p)

/-- A pipeline is a sink for received audio. -/
instance : PcmSink (Pipeline capacity) where
  accept := Pipeline.accept
  start := Pipeline.start
  stop := Pipeline.stop

@[simp] theorem buffered_start (p : Pipeline capacity) : p.start.buffered = 0 := rfl

@[simp] theorem buffered_stop (p : Pipeline capacity) : p.stop.buffered = 0 := rfl

/-- **Without a stream the DAC gets silence**, and nothing changes. -/
theorem drain_of_not_running {p : Pipeline capacity} (h : p.phase ≠ .running) (out : Bytes) :
    p.drain out = (0, List.replicate out.length 0, p) := by
  rw [drain, if_neg h]

end Pipeline

end AudioGadget
