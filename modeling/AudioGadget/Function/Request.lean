import AudioGadget.Usb.Setup
import AudioGadget.Function.Control
/-!
# Request — the control requests the audio function understands

A setup packet is a request of this function if it is addressed to one
of its interfaces, its direction fits its code and its length fits its
answer. `Asks` says which packets ask for what: there is one packet for
each request on the feature unit (`featurePacket`), while a request on an
interface leaves octets free that nobody looks at. `ofSetup?` decides
what a packet asks for.
-/

namespace AudioGadget

/-- The entity number of the feature unit. -/
def featureUnitId : UInt8 := 2

/-- A control request that is meant for the audio function. -/
inductive Request where
  /-- Read or write a control of the feature unit. -/
  | feature (verb : Verb) (control : Control) (channel : UInt8)
  /-- Report the alternate setting of an interface. -/
  | getInterface (interface : UInt8)
  /-- Select an alternate setting of an interface. -/
  | setInterface (interface alternate : UInt8)
deriving DecidableEq, Repr

/-- The standard request code that reports an alternate setting. -/
def getInterfaceCode : UInt8 := 0x0A

/-- The standard request code that selects an alternate setting. -/
def setInterfaceCode : UInt8 := 0x0B

/-- The direction of a verb's data stage. -/
def Verb.direction : Verb → Direction
  | .setCurrent => .hostToDevice
  | _ => .deviceToHost

namespace Request

/-- A word as an alternate setting: what is beyond one octet is no setting,
and reads as the last number, never as a small one. -/
def alternateOfWord (w : UInt16) : UInt8 :=
  UInt8.ofNat (min 255 w.toNat)

/-! ## The packets of the function -/

/-- The type octet of a class request to an interface. -/
def classRequestType : Direction → UInt8
  | .hostToDevice => 0x21
  | .deviceToHost => 0xA1

/-- The type octet of a standard request to an interface. -/
def standardRequestType : Direction → UInt8
  | .hostToDevice => 0x01
  | .deviceToHost => 0x81

/-- The packet that asks the feature unit of a control interface for
something. -/
def featurePacket (control : UInt8) (verb : Verb) (c : Control) (channel : UInt8) :
    SetupPacket where
  requestType := classRequestType verb.direction
  request := verb.code
  value := field16 channel c.code
  index := field16 control featureUnitId
  length := UInt16.ofNat c.payloadLength

/-- The packet that asks for the setting of an interface. -/
def getInterfacePacket (interface high : UInt8) (value : UInt16) : SetupPacket :=
  ⟨0x81, getInterfaceCode, value, field16 interface high, 1⟩

/-- The packet that selects a setting of an interface. -/
def setInterfacePacket (interface high : UInt8) (value : UInt16) : SetupPacket :=
  ⟨0x01, setInterfaceCode, value, field16 interface high, 0⟩

/-- **Which packets ask for what**, of a function with the given control and
streaming interface. -/
inductive Asks (control streaming : UInt8) : SetupPacket → Request → Prop where
  /-- A request on the feature unit. -/
  | feature (verb : Verb) (c : Control) (channel : UInt8) :
      Asks control streaming (featurePacket control verb c channel) (.feature verb c channel)
  /-- A question for the setting of an own interface. -/
  | getInterface {interface : UInt8} (own : interface = control ∨ interface = streaming)
      (high : UInt8) (value : UInt16) :
      Asks control streaming (getInterfacePacket interface high value) (.getInterface interface)
  /-- A selection on an own interface. -/
  | setInterface {interface : UInt8} (own : interface = control ∨ interface = streaming)
      (high : UInt8) (value : UInt16) :
      Asks control streaming (setInterfacePacket interface high value)
        (.setInterface interface (alternateOfWord value))

/-! ## Reading a packet -/

/-- Read a standard request on one of the two interfaces. -/
def ofStandard? (p : SetupPacket) (control streaming : UInt8) : Option Request :=
  let interface := lowByte p.index
  let ours := interface = control ∨ interface = streaming
  if p.request = getInterfaceCode then
    if ours ∧ p.direction = .deviceToHost ∧ p.length = 1 then
      some (.getInterface interface)
    else none
  else if p.request = setInterfaceCode then
    if ours ∧ p.direction = .hostToDevice ∧ p.length = 0 then
      some (.setInterface interface (alternateOfWord p.value))
    else none
  else none

/-- Read a class request on the feature unit, which only the control
interface answers for. -/
def ofClass? (p : SetupPacket) (control : UInt8) : Option Request :=
  if lowByte p.index = control ∧ highByte p.index = featureUnitId then
    match Verb.ofCode? p.request with
    | none => none
    | some verb =>
      if verb.direction = p.direction then
        match Control.ofCode? (highByte p.value) with
        | none => none
        | some c =>
          if p.length.toNat = c.payloadLength then
            some (.feature verb c (lowByte p.value))
          else none
      else none
  else none

/-- **Read a setup packet.** Requests to anybody but an interface, vendor
requests, unknown codes, wrong directions and wrong lengths are nobody's
here. -/
def ofSetup? (p : SetupPacket) (control streaming : UInt8) : Option Request :=
  if p.recipient = .interface then
    match p.kind with
    | .standard => ofStandard? p control streaming
    | .classSpecific => ofClass? p control
    | .vendor => none
    | .reserved => none
  else none

/-- A packet that asks the feature unit for something is read as just that. -/
theorem ofSetup?_featurePacket (control streaming : UInt8) (verb : Verb) (c : Control)
    (channel : UInt8) :
    ofSetup? (featurePacket control verb c channel) control streaming =
      some (.feature verb c channel) := by
  cases verb <;> cases c <;>
    simp [ofSetup?, ofClass?, featurePacket, classRequestType, Verb.direction, Verb.ofCode?_code,
      Control.ofCode?_code, SetupPacket.recipient, SetupPacket.kind, SetupPacket.direction,
      Direction.ofTopBit, Control.payloadLength]

/-- The type octet of a request to an interface, taken apart. -/
theorem toNat_requestType {p : SetupPacket} (recipient : p.recipient = .interface) :
    p.requestType.toNat % 32 = 1 := by
  unfold SetupPacket.recipient at recipient
  split at recipient <;> first | assumption | cases recipient

/-- The type octet of a class request to an interface, read back. -/
theorem requestType_eq {p : SetupPacket} (recipient : p.recipient = .interface)
    (kind : p.kind = .classSpecific) : p.requestType = classRequestType p.direction := by
  have low := toNat_requestType recipient
  have mid : p.requestType.toNat / 32 % 4 = 1 := by
    unfold SetupPacket.kind at kind
    split at kind <;> first | assumption | cases kind
  have bound := p.requestType.toNat_lt
  apply UInt8.toNat_inj.1
  unfold SetupPacket.direction Direction.ofTopBit
  split
  · change _ = 0x21
    omega
  · change _ = 0xA1
    omega

/-- And that of a standard one. -/
theorem requestType_of_standard {p : SetupPacket} (recipient : p.recipient = .interface)
    (kind : p.kind = .standard) : p.requestType = standardRequestType p.direction := by
  have low := toNat_requestType recipient
  have mid : p.requestType.toNat / 32 % 4 = 0 := by
    unfold SetupPacket.kind at kind
    split at kind <;> first | assumption | cases kind
  have bound := p.requestType.toNat_lt
  apply UInt8.toNat_inj.1
  unfold SetupPacket.direction Direction.ofTopBit
  split
  · change _ = 0x01
    omega
  · change _ = 0x81
    omega

/-- What a standard request on an own interface says, field by field. -/
theorem of_ofStandard?_eq_some {p : SetupPacket} {control streaming : UInt8} {request : Request}
    (h : ofStandard? p control streaming = some request) :
    (lowByte p.index = control ∨ lowByte p.index = streaming) ∧
      ((request = .getInterface (lowByte p.index) ∧ p.direction = .deviceToHost ∧
          p.request = getInterfaceCode ∧ p.length = 1) ∨
        (request = .setInterface (lowByte p.index) (alternateOfWord p.value) ∧
          p.direction = .hostToDevice ∧ p.request = setInterfaceCode ∧ p.length = 0)) := by
  unfold ofStandard? at h
  dsimp only at h
  split at h
  · rename_i code
    split at h
    · rename_i fits
      cases h
      exact ⟨fits.1, .inl ⟨rfl, fits.2.1, code, fits.2.2⟩⟩
    · cases h
  · split at h
    · rename_i code
      split at h
      · rename_i fits
        cases h
        exact ⟨fits.1, .inr ⟨rfl, fits.2.1, code, fits.2.2⟩⟩
      · cases h
    · cases h

/-- What a class request on the feature unit says, field by field. -/
theorem of_ofClass?_eq_some {p : SetupPacket} {control : UInt8} {request : Request}
    (h : ofClass? p control = some request) :
    ∃ verb c, request = .feature verb c (lowByte p.value) ∧ verb.direction = p.direction ∧
      p.request = verb.code ∧ p.value = field16 (lowByte p.value) c.code ∧
      p.index = field16 control featureUnitId ∧ p.length = UInt16.ofNat c.payloadLength := by
  unfold ofClass? at h
  split at h
  · rename_i unit
    split at h
    · cases h
    · rename_i verb code
      split at h
      · rename_i way
        split at h
        · cases h
        · rename_i c selector
          split at h
          · rename_i size
            cases h
            refine ⟨verb, c, rfl, way, Verb.ofCode?_eq_some_iff.1 code, ?_, ?_, ?_⟩
            · rw [← Control.ofCode?_eq_some_iff.1 selector, field16_bytes]
            · rw [← unit.1, ← unit.2, field16_bytes]
            · rw [← size, UInt16.ofNat_toNat]
          · cases h
      · cases h
  · cases h

/-- **A packet is read as what it asks for.** -/
theorem asks_of_ofSetup? {p : SetupPacket} {control streaming : UInt8} {request : Request}
    (h : ofSetup? p control streaming = some request) : Asks control streaming p request := by
  unfold ofSetup? at h
  split at h
  · rename_i recipient
    split at h
    · rename_i kind
      obtain ⟨own, ⟨rfl, way, code, length⟩ | ⟨rfl, way, code, length⟩⟩ :=
        of_ofStandard?_eq_some h
      · have packet : p = getInterfacePacket (lowByte p.index) (highByte p.index) p.value := by
          have type := requestType_of_standard recipient kind
          rw [way] at type
          cases p
          simp only [getInterfacePacket, SetupPacket.mk.injEq, field16_bytes, true_and]
          exact ⟨type, code, length⟩
        have asks := Asks.getInterface own (highByte p.index) p.value
        rwa [← packet] at asks
      · have packet : p = setInterfacePacket (lowByte p.index) (highByte p.index) p.value := by
          have type := requestType_of_standard recipient kind
          rw [way] at type
          cases p
          simp only [setInterfacePacket, SetupPacket.mk.injEq, field16_bytes, true_and]
          exact ⟨type, code, length⟩
        have asks := Asks.setInterface own (highByte p.index) p.value
        rwa [← packet] at asks
    · rename_i kind
      obtain ⟨verb, c, rfl, way, code, value, index, length⟩ := of_ofClass?_eq_some h
      have packet : p = featurePacket control verb c (lowByte p.value) := by
        have type := requestType_eq recipient kind
        cases p
        simp only [featurePacket, SetupPacket.mk.injEq]
        exact ⟨way ▸ type, code, value, index, length⟩
      have asks : Asks control streaming (featurePacket control verb c (lowByte p.value)) _ :=
        .feature verb c (lowByte p.value)
      rwa [← packet] at asks
    · cases h
    · cases h
  · cases h

/-- **And nothing is missed**: whatever asks for something is read. -/
theorem ofSetup?_of_asks {p : SetupPacket} {control streaming : UInt8} {request : Request}
    (asks : Asks control streaming p request) : ofSetup? p control streaming = some request := by
  cases asks with
  | feature verb c channel => exact ofSetup?_featurePacket control streaming verb c channel
  | getInterface own high value | setInterface own high value =>
    simp [ofSetup?, ofStandard?, getInterfacePacket, setInterfacePacket, SetupPacket.recipient,
      SetupPacket.kind, SetupPacket.direction, Direction.ofTopBit, getInterfaceCode,
      setInterfaceCode, own]

/-- **Nothing else is read as a request on the feature unit.** -/
theorem eq_featurePacket_of_ofSetup? {p : SetupPacket} {control streaming : UInt8} {verb : Verb}
    {c : Control} {channel : UInt8}
    (h : ofSetup? p control streaming = some (.feature verb c channel)) :
    p = featurePacket control verb c channel := by
  cases asks_of_ofSetup? h
  rfl

/-- **A class request is one on the feature unit**, or none of the
function's. -/
theorem feature_of_classSpecific {p : SetupPacket} {control streaming : UInt8} {request : Request}
    (kind : p.kind = .classSpecific) (h : ofSetup? p control streaming = some request) :
    ∃ verb c channel, request = .feature verb c channel := by
  unfold ofSetup? at h
  rw [kind] at h
  split at h
  · obtain ⟨verb, c, same, -⟩ := of_ofClass?_eq_some h
    exact ⟨verb, c, lowByte p.value, same⟩
  · cases h

/-- And a request on the feature unit is a class request. -/
theorem kind_of_ofSetup? {p : SetupPacket} {control streaming : UInt8} {verb : Verb} {c : Control}
    {channel : UInt8} (h : ofSetup? p control streaming = some (.feature verb c channel)) :
    p.kind = .classSpecific := by
  rw [eq_featurePacket_of_ofSetup? h]
  cases verb <;> simp [featurePacket, SetupPacket.kind, classRequestType, Verb.direction]

/-- **Nothing else is read as a selection**, and the interface is one of the
two. -/
theorem eq_setInterfacePacket_of_ofSetup? {p : SetupPacket}
    {control streaming interface alternate : UInt8}
    (h : ofSetup? p control streaming = some (.setInterface interface alternate)) :
    (∃ high, p = setInterfacePacket interface high p.value) ∧
      alternate = alternateOfWord p.value ∧ (interface = control ∨ interface = streaming) := by
  cases asks_of_ofSetup? h with
  | setInterface own high value => exact ⟨⟨high, rfl⟩, rfl, own⟩

/-- **A word that stands for a small setting is the number of it.** -/
theorem alternateOfWord_eq_iff {w : UInt16} {n : UInt8} (small : n.toNat < 255) :
    alternateOfWord w = n ↔ w = UInt16.ofNat n.toNat := by
  have bound := w.toNat_lt
  rw [alternateOfWord, ← UInt8.toNat_inj, ← UInt16.toNat_inj, UInt8.toNat_ofNat',
    UInt16.toNat_ofNat']
  omega

/-- So the word of setting 1 is 1. -/
theorem eq_one_of_alternateOfWord {w : UInt16} (h : alternateOfWord w = 1) : w = 1 :=
  (alternateOfWord_eq_iff (by decide)).1 h

end Request

end AudioGadget
