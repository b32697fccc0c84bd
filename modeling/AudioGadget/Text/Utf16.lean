import AudioGadget.Bytes
/-!
# Utf16 — text in sixteen-bit units

A character of the basic plane is one unit, any other a high and a low
surrogate. Units travel low octet first. The length of a string on the
bus is counted in units, so `units` is the measure that decides whether
a text fits. `decode?` reads what `encode` writes (`decode?_encode`), and
refuses surrogates that stand alone.
-/

namespace AudioGadget.Text.Utf16

/-- The units of one character: one, or a surrogate pair. -/
def unitsOfChar (c : Char) : List Nat :=
  if c.toNat < 0x10000 then
    [c.toNat]
  else
    [0xD800 + (c.toNat - 0x10000) / 0x400, 0xDC00 + (c.toNat - 0x10000) % 0x400]

/-- The units of a text, in order. -/
def units (text : List Char) : List Nat :=
  text.flatMap unitsOfChar

/-- The octets of a text, each unit low octet first. -/
def encode (text : List Char) : Bytes :=
  (units text).flatMap le16

example : units ['a', '😀'] = [0x61, 0xD83D, 0xDE00] := rfl

/-- **Two octets for every unit.** -/
theorem length_encode (text : List Char) : (encode text).length = 2 * (units text).length := by
  simp only [encode]
  induction units text with
  | nil => rfl
  | cons u us ih =>
    simp only [List.flatMap_cons, List.length_append, List.length_cons, ih, le16, List.length_nil]
    omega

/-! ## Reading -/

/-- Whether a unit opens a surrogate pair. -/
def isHigh (unit : Nat) : Bool :=
  0xD800 ≤ unit && unit < 0xDC00

/-- Whether a unit closes a surrogate pair. -/
def isLow (unit : Nat) : Bool :=
  0xDC00 ≤ unit && unit < 0xE000

/-- The character that a surrogate pair spells. -/
def ofPair (high low : Nat) : Char :=
  Char.ofNat (0x10000 + (high - 0xD800) * 0x400 + (low - 0xDC00))

/-- The text that units spell, unless a surrogate stands alone. -/
def ofUnits? : List Nat → Option (List Char)
  | [] => some []
  | u :: rest =>
    if isHigh u then
      match rest with
      | v :: rest => if isLow v then (ofUnits? rest).map (ofPair u v :: ·) else none
      | [] => none
    else if isLow u then none
    else (ofUnits? rest).map (Char.ofNat u :: ·)

/-- The units that octets spell, unless one is cut in half. -/
def unitsOfBytes? : Bytes → Option (List Nat)
  | [] => some []
  | lo :: hi :: rest => (unitsOfBytes? rest).map (word lo hi :: ·)
  | [_] => none

/-- The text that octets spell. -/
def decode? (bytes : Bytes) : Option (List Char) :=
  (unitsOfBytes? bytes).bind ofUnits?

/-- A character is a number outside the surrogates. -/
theorem toNat_range (c : Char) : c.toNat < 0xD800 ∨ (0xE000 ≤ c.toNat ∧ c.toNat < 0x110000) := by
  have := c.valid
  simp only [UInt32.isValidChar, Nat.isValidChar] at this
  simp only [Char.toNat]
  omega

/-- The units of a character spell it, whatever follows. -/
theorem ofUnits?_unitsOfChar (c : Char) (rest : List Nat) :
    ofUnits? (unitsOfChar c ++ rest) = (ofUnits? rest).map (c :: ·) := by
  have range := toNat_range c
  simp only [unitsOfChar]
  split
  · have noHigh : isHigh c.toNat = false := by
      simp only [isHigh, Bool.and_eq_false_imp, decide_eq_true_eq, decide_eq_false_iff_not]
      omega
    have noLow : isLow c.toNat = false := by
      simp only [isLow, Bool.and_eq_false_imp, decide_eq_true_eq, decide_eq_false_iff_not]
      omega
    rw [List.singleton_append, ofUnits?.eq_def]
    simp [noHigh, noLow]
  · have high : isHigh (0xD800 + (c.toNat - 0x10000) / 0x400) = true := by
      simp only [isHigh, Bool.and_eq_true, decide_eq_true_eq]
      omega
    have low : isLow (0xDC00 + (c.toNat - 0x10000) % 0x400) = true := by
      simp only [isLow, Bool.and_eq_true, decide_eq_true_eq]
      omega
    have same : ofPair (0xD800 + (c.toNat - 0x10000) / 0x400)
        (0xDC00 + (c.toNat - 0x10000) % 0x400) = c := by
      rw [ofPair, show 0x10000 + (0xD800 + (c.toNat - 0x10000) / 0x400 - 0xD800) * 0x400 +
        (0xDC00 + (c.toNat - 0x10000) % 0x400 - 0xDC00) = c.toNat by omega, Char.ofNat_toNat]
    simp [ofUnits?, high, low, same]

theorem ofUnits?_units (text : List Char) : ofUnits? (units text) = some text := by
  induction text with
  | nil => simp [units, ofUnits?]
  | cons c text ih =>
    have := ofUnits?_unitsOfChar c (units text)
    rwa [ih] at this

/-- Every unit is a word. -/
theorem lt_of_mem_units {text : List Char} {u : Nat} (h : u ∈ units text) : u < 65536 := by
  obtain ⟨c, -, hu⟩ := List.mem_flatMap.1 h
  have := toNat_range c
  simp only [unitsOfChar] at hu
  split at hu <;> simp only [List.mem_cons, List.not_mem_nil, or_false] at hu <;> omega

theorem unitsOfBytes?_flatMap_le16 {us : List Nat} (h : ∀ u ∈ us, u < 65536) :
    unitsOfBytes? (us.flatMap le16) = some us := by
  induction us with
  | nil => rfl
  | cons u us ih =>
    have first := word_le16 (h u (List.mem_cons_self ..))
    have later := ih fun v hv => h v (List.mem_cons_of_mem _ hv)
    rw [List.flatMap_cons, le16, List.cons_append, List.cons_append, List.nil_append,
      unitsOfBytes?, first, later, Option.map_some]

/-- **A text is read back as written.** -/
@[simp] theorem decode?_encode (text : List Char) : decode? (encode text) = some text := by
  rw [decode?, encode, unitsOfBytes?_flatMap_le16 fun u => lt_of_mem_units, Option.bind_some,
    ofUnits?_units]

end AudioGadget.Text.Utf16
