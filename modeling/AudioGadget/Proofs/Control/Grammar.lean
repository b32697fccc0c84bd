import Mathlib.Logic.ExistsUnique
import AudioGadget.Function.Request
/-!
# Grammar — how the requests are spelled

A request comes as eight octets: the type, the code, and three words, low
octet first. `Spelled` writes down in numbers which octets spell which
request. The unit's requests leave nothing open, so each of them has one
spelling. A request on an interface leaves open what nobody looks at: the
high octet of its index, and the value of a question.

What is read is what is spelled, and what spells nothing is not read
(`read_iff_spelled`).
-/

namespace AudioGadget.Request

/-- **The octets of a request**, to a function with this control and this
streaming interface: the type and the code, and the words for the value,
the index and the length. -/
def Spelled (control streaming type code : UInt8) (value index length : Nat) : Request → Prop
  | .feature verb c channel =>
    type = (if verb = .setCurrent then 0x21 else 0xA1) ∧ code = verb.code ∧
      value = c.code.toNat * 256 + channel.toNat ∧
      index = featureUnitId.toNat * 256 + control.toNat ∧ length = c.payloadLength
  | .getInterface interface =>
    type = 0x81 ∧ code = 0x0A ∧ length = 1 ∧ index % 256 = interface.toNat ∧
      (interface = control ∨ interface = streaming)
  | .setInterface interface alternate =>
    type = 0x01 ∧ code = 0x0B ∧ length = 0 ∧ index % 256 = interface.toNat ∧
      (interface = control ∨ interface = streaming) ∧ alternate.toNat = min value 255

/-- Read the octets of a request. -/
def ofBytes? (control streaming : UInt8) (raw : Bytes) : Option Request :=
  (SetupPacket.ofBytes? raw).bind (ofSetup? · control streaming)

theorem toNat_field16 (lo hi : UInt8) : (field16 lo hi).toNat = word lo hi :=
  Nat.mod_eq_of_lt (word_lt lo hi)

/-- A field is known by its number. -/
theorem eq_field16_iff {w : UInt16} {lo hi : UInt8} :
    w = field16 lo hi ↔ w.toNat = hi.toNat * 256 + lo.toNat := by
  rw [← UInt16.toNat_inj, toNat_field16, word]
  omega

/-- And its low octet by the remainder. -/
theorem toNat_lowByte (w : UInt16) : (lowByte w).toNat = w.toNat % 256 :=
  UInt8.toNat_ofNat' ..

theorem toNat_alternateOfWord (w : UInt16) : (alternateOfWord w).toNat = min w.toNat 255 := by
  rw [alternateOfWord, UInt8.toNat_ofNat']
  omega

/-- The host writes with one type of packet and reads with the other. -/
theorem classRequestType_direction (verb : Verb) :
    classRequestType verb.direction = if verb = .setCurrent then 0x21 else 0xA1 := by
  cases verb <;> rfl

/-- **A packet is spelled as it asks.** -/
theorem spelled_iff_asks {control streaming : UInt8} {p : SetupPacket} {request : Request} :
    Spelled control streaming p.requestType p.request p.value.toNat p.index.toNat p.length.toNat
      request ↔ Asks control streaming p request := by
  constructor
  · intro spelled
    obtain ⟨type, code, value, index, length⟩ := p
    cases request with
    | feature verb c channel =>
      obtain ⟨type', rfl, value', index', length'⟩ := spelled
      obtain rfl : type = classRequestType verb.direction :=
        type'.trans (classRequestType_direction verb).symm
      obtain rfl : value = field16 channel c.code := eq_field16_iff.2 value'
      obtain rfl : index = field16 control featureUnitId := eq_field16_iff.2 index'
      obtain rfl : length = UInt16.ofNat c.payloadLength := by rw [← length', UInt16.ofNat_toNat]
      exact .feature verb c channel
    | getInterface interface =>
      obtain ⟨rfl, rfl, length', index', own⟩ := spelled
      obtain rfl : length = 1 := UInt16.toNat_inj.1 length'
      obtain rfl : interface = lowByte index :=
        UInt8.toNat_inj.1 (index'.symm.trans (toNat_lowByte index).symm)
      have asks := Asks.getInterface own (highByte index) value
      rwa [getInterfacePacket, field16_bytes] at asks
    | setInterface interface alternate =>
      obtain ⟨rfl, rfl, length', index', own, named⟩ := spelled
      obtain rfl : length = 0 := UInt16.toNat_inj.1 length'
      obtain rfl : interface = lowByte index :=
        UInt8.toNat_inj.1 (index'.symm.trans (toNat_lowByte index).symm)
      obtain rfl : alternate = alternateOfWord value :=
        UInt8.toNat_inj.1 (named.trans (toNat_alternateOfWord value).symm)
      have asks := Asks.setInterface own (highByte index) value
      rwa [setInterfacePacket, field16_bytes] at asks
  · intro asks
    cases asks with
    | feature verb c channel =>
      refine ⟨classRequestType_direction verb, rfl, eq_field16_iff.1 rfl, eq_field16_iff.1 rfl, ?_⟩
      cases c <;> rfl
    | getInterface own high value =>
      refine ⟨rfl, rfl, rfl, ?_, own⟩
      rw [← toNat_lowByte, getInterfacePacket, lowByte_field16]
    | setInterface own high value =>
      refine ⟨rfl, rfl, rfl, ?_, own, toNat_alternateOfWord value⟩
      rw [← toNat_lowByte, setInterfacePacket, lowByte_field16]

/-- **A packet is read as the request that it spells.** -/
theorem ofSetup?_eq_some_iff {control streaming : UInt8} {p : SetupPacket} {request : Request} :
    ofSetup? p control streaming = some request ↔
      Spelled control streaming p.requestType p.request p.value.toNat p.index.toNat
        p.length.toNat request :=
  ⟨fun read => spelled_iff_asks.2 (asks_of_ofSetup? read),
    fun spelled => ofSetup?_of_asks (spelled_iff_asks.1 spelled)⟩

/-- A request on the feature unit is read of the octets of its packet, and of
no others. -/
theorem ofBytes?_eq_feature_iff {control streaming : UInt8} {raw : Bytes} {verb : Verb}
    {c : Control} {channel : UInt8} :
    ofBytes? control streaming raw = some (.feature verb c channel) ↔
      raw = (featurePacket control verb c channel).bytes := by
  constructor
  · intro read
    obtain ⟨p, packet, read⟩ := Option.bind_eq_some_iff.1 read
    rw [← eq_featurePacket_of_ofSetup? read, SetupPacket.bytes_of_ofBytes? packet]
  · rintro rfl
    rw [ofBytes?, SetupPacket.ofBytes?_bytes, Option.bind_some, ofSetup?_featurePacket]

/-- **Eight octets are read as what they spell.** They are no request if they
spell none. Each request on the feature unit is spelled in one way, by the
octets of its packet, and nothing else is read as it. -/
theorem read_iff_spelled (control streaming : UInt8) :
    (∀ type code v₀ v₁ i₀ i₁ l₀ l₁ : UInt8,
      let read := ofBytes? control streaming [type, code, v₀, v₁, i₀, i₁, l₀, l₁]
      let spelled :=
        Spelled control streaming type code (word v₀ v₁) (word i₀ i₁) (word l₀ l₁)
      (∀ request, read = some request ↔ spelled request) ∧
        (read = none ↔ ∀ request, ¬ spelled request)) ∧
    ∀ verb c channel,
      (∃! raw, ofBytes? control streaming raw = some (.feature verb c channel)) ∧
        ofBytes? control streaming (featurePacket control verb c channel).bytes =
          some (.feature verb c channel) := by
  refine ⟨fun type code v₀ v₁ i₀ i₁ l₀ l₁ => ?_, fun verb c channel => ?_⟩
  · intro read spelled
    have read_iff (request : Request) : read = some request ↔ spelled request := by
      simp only [spelled, ← toNat_field16]
      exact ofSetup?_eq_some_iff (p := ⟨type, code, field16 v₀ v₁, field16 i₀ i₁, field16 l₀ l₁⟩)
    refine ⟨read_iff, ?_⟩
    rw [Option.eq_none_iff_forall_ne_some]
    exact forall_congr' fun request => not_congr (read_iff request)
  · have own : ofBytes? control streaming (featurePacket control verb c channel).bytes =
        some (.feature verb c channel) := ofBytes?_eq_feature_iff.2 rfl
    exact ⟨⟨_, own, fun raw read => ofBytes?_eq_feature_iff.1 read⟩, own⟩

/-- The octets of a selection of setting 1, and of setting 257, which reads as
255. -/
example :
    ofBytes? 5 6 [0x01, 0x0B, 1, 0, 6, 9, 0, 0] = some (.setInterface 6 1) ∧
      ofBytes? 5 6 [0x01, 0x0B, 1, 1, 6, 9, 0, 0] = some (.setInterface 6 255) := by
  decide

end AudioGadget.Request
