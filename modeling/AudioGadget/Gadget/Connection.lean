import AudioGadget.Gadget.Basic
/-!
# Connection — a host comes and goes

A connection starts from defaults and leaves nothing behind. Whichever
way it ends, `wind` brings everything home: receptions are called off,
slots taken back, the sink stopped, the setting returned to 0, a waiting
write forgotten and the levels reset.
-/

namespace AudioGadget.Gadget

variable {U S C : Type}

/-- Call off what is queued, if anything is, and take every slot back. -/
def reclaim [UsbCore U] (g : Gadget U S C) : Gadget U S C :=
  let usb :=
    if 0 < g.pool.busyCount then
      match g.endpoint with
      | some ep => UsbCore.cancel g.usb ep
      | none => g.usb
    else g.usb
  { g with usb, pool := g.pool.releaseAll }

/-- Stop the sink, if a stream runs. -/
def haltSink [PcmSink S] (g : Gadget U S C) : Gadget U S C :=
  if g.isOperational then { g with sink := PcmSink.stop g.sink } else g

/-- **Bring everything home.** -/
def wind [UsbCore U] [PcmSink S] (g : Gadget U S C) : Gadget U S C :=
  let g := g.reclaim.haltSink
  { g with
    streaming := g.streaming.reset
    pending := none
    feature := g.feature.reset }

/-- Tell the codec the mute and the volume of every channel, the master
first. -/
def syncCodec [Codec C] (g : Gadget U S C) : Gadget U S C :=
  let muted := Codec.setMute g.codec g.feature.muted
  let tell (codec : C) (channel : Nat) : C :=
    match g.feature.volume? (UInt8.ofNat channel) with
    | some v => Codec.setVolume codec (UInt8.ofNat channel) v
    | none => codec
  { g with codec := (List.range (g.feature.channels + 1)).foldl tell muted }

/-- A host configured the device: start from defaults, count from zero and
tell the codec. -/
def connect [UsbCore U] [PcmSink S] [Codec C] (g : Gadget U S C) : Step (Gadget U S C) Unit :=
  let g := g.wind
  let g := { g with pool := g.pool.resetCounts }
  ⟨(), g.syncCodec, [.connected]⟩

/-- The bus was reset or the cable pulled. Counters keep their values. -/
def disconnect [UsbCore U] [PcmSink S] (g : Gadget U S C) : Step (Gadget U S C) Unit :=
  ⟨(), g.wind, [.disconnected]⟩

/-! ## What is home afterwards -/

@[simp] theorem busySlots_reclaim [UsbCore U] (g : Gadget U S C) : g.reclaim.busySlots = 0 :=
  SlotPool.busyCount_releaseAll _

@[simp] theorem pool_haltSink [PcmSink S] (g : Gadget U S C) : g.haltSink.pool = g.pool := by
  simp only [haltSink]
  split <;> rfl

/-- **Afterwards no slot is out, no stream runs and no write waits.** -/
theorem wind_home [UsbCore U] [PcmSink S] (g : Gadget U S C) :
    g.wind.busySlots = 0 ∧ g.wind.isOperational = false ∧ g.wind.pending = none := by
  refine ⟨?_, rfl, rfl⟩
  simp only [wind, busySlots, pool_haltSink]
  exact busySlots_reclaim g

end AudioGadget.Gadget
