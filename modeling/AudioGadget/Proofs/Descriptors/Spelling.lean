import Mathlib.Algebra.GroupWithZero.Nat
import AudioGadget.Function.Strings
/-!
# Spelling — a text that fits is spelled in one way

A string descriptor is a text in sixteen-bit units behind its length and
type, and it is read by cutting the units out and putting surrogate pairs
together again. Reading and writing are inverse in both directions: what
is read is spelled in that way only (`decode?_eq_some_iff`), so among the
descriptors that a buffer can hold exactly one is read as a text that
fits, and that one is written (`encode?_eq_some_iff`).

`write?` is the writer that does not know the length beforehand: it
appends unit by unit, is stopped where there is no room for the next, and
fills the length in at the end. A text that fits is never stopped, and a
text that does not fit is, be it between two units of a pair
(`write?_eq`).
-/

namespace AudioGadget

namespace Text.Utf16

/-- **The units of a text, counted by characters**: two for a character
beyond the basic plane, one for any other. -/
def unitCount (text : List Char) : Nat :=
  (text.map fun c => if c.toNat < 0x10000 then 1 else 2).sum

@[simp] theorem length_units (text : List Char) : (units text).length = unitCount text := by
  have one (c : Char) : (unitsOfChar c).length = if c.toNat < 0x10000 then 1 else 2 := by
    unfold unitsOfChar
    split <;> rfl
  simp only [units, List.length_flatMap, one, unitCount]

/-! ## What is read is spelled so -/

theorem toNat_ofNat {n : Nat} (valid : n.isValidChar) : (Char.ofNat n).toNat = n := by
  rw [Char.ofNat, dif_pos valid]
  rfl

/-- A unit that stands for itself spells the character of its number. -/
theorem unitsOfChar_ofNat {u : Nat} (small : u < 65536) (high : isHigh u = false)
    (low : isLow u = false) : unitsOfChar (Char.ofNat u) = [u] := by
  simp only [isHigh, isLow, Bool.and_eq_false_imp, decide_eq_true_eq, decide_eq_false_iff_not]
    at high low
  have valid : u.isValidChar := by
    simp only [Nat.isValidChar]
    omega
  rw [unitsOfChar, toNat_ofNat valid, if_pos small]

/-- A pair of surrogates spells the character that it stands for. -/
theorem unitsOfChar_ofPair {u v : Nat} (high : isHigh u = true) (low : isLow v = true) :
    unitsOfChar (ofPair u v) = [u, v] := by
  simp only [isHigh, isLow, Bool.and_eq_true, decide_eq_true_eq] at high low
  have valid : (0x10000 + (u - 0xD800) * 0x400 + (v - 0xDC00)).isValidChar := by
    simp only [Nat.isValidChar]
    omega
  have number : (ofPair u v).toNat = 0x10000 + (u - 0xD800) * 0x400 + (v - 0xDC00) :=
    toNat_ofNat valid
  have beyond : ¬ (ofPair u v).toNat < 0x10000 := by
    rw [number]
    omega
  have first : 0xD800 + ((ofPair u v).toNat - 0x10000) / 0x400 = u := by
    rw [number]
    omega
  have second : 0xDC00 + ((ofPair u v).toNat - 0x10000) % 0x400 = v := by
    rw [number]
    omega
  rw [unitsOfChar, if_neg beyond, first, second]

/-- **Units are those of the text that they spell.** -/
theorem units_of_ofUnits? {us : List Nat} {text : List Char} (small : ∀ u ∈ us, u < 65536)
    (h : ofUnits? us = some text) : units text = us := by
  fun_induction ofUnits? us generalizing text with
  | case1 =>
    cases h
    rfl
  | case2 u high v rest low ih =>
    obtain ⟨later, read, rfl⟩ := Option.map_eq_some_iff.1 h
    have others : ∀ w ∈ rest, w < 65536 := fun w among => small w (by simp [among])
    calc units (ofPair u v :: later)
        = unitsOfChar (ofPair u v) ++ units later := List.flatMap_cons
      _ = [u, v] ++ rest := by rw [unitsOfChar_ofPair high low, ih others read]
  | case3 => cases h
  | case4 => cases h
  | case5 => cases h
  | case6 u rest high low ih =>
    obtain ⟨later, read, rfl⟩ := Option.map_eq_some_iff.1 h
    obtain ⟨first, others⟩ := List.forall_mem_cons.1 small
    calc units (Char.ofNat u :: later)
        = unitsOfChar (Char.ofNat u) ++ units later := List.flatMap_cons
      _ = [u] ++ rest := by
        rw [unitsOfChar_ofNat first (Bool.not_eq_true _ ▸ high) (Bool.not_eq_true _ ▸ low),
          ih others read]

/-- Octets are those of the units that they spell, each of which is a
word. -/
theorem of_unitsOfBytes? {bytes : Bytes} {us : List Nat} (h : unitsOfBytes? bytes = some us) :
    (∀ u ∈ us, u < 65536) ∧ us.flatMap le16 = bytes := by
  fun_induction unitsOfBytes? bytes generalizing us with
  | case1 =>
    cases h
    exact ⟨List.forall_mem_nil _, rfl⟩
  | case2 lo hi rest ih =>
    obtain ⟨later, read, rfl⟩ := Option.map_eq_some_iff.1 h
    obtain ⟨small, spelled⟩ := ih read
    have low : UInt8.ofNat (word lo hi) = lo := by
      rw [← UInt8.toNat_inj, UInt8.toNat_ofNat', word]
      have := lo.toNat_lt
      omega
    have high : UInt8.ofNat (word lo hi / 256) = hi := by
      rw [← UInt8.toNat_inj, UInt8.toNat_ofNat', word]
      have := lo.toNat_lt
      have := hi.toNat_lt
      omega
    refine ⟨List.forall_mem_cons.2 ⟨word_lt lo hi, small⟩, ?_⟩
    rw [List.flatMap_cons, le16, low, high, spelled]
    rfl
  | case3 => cases h

/-- **A text is read from its own spelling only.** -/
theorem decode?_eq_some_iff {bytes : Bytes} {text : List Char} :
    decode? bytes = some text ↔ bytes = encode text := by
  constructor
  · intro h
    obtain ⟨us, cut, read⟩ := Option.bind_eq_some_iff.1 h
    obtain ⟨small, spelled⟩ := of_unitsOfBytes? cut
    rw [encode, units_of_ofUnits? small read, spelled]
  · rintro rfl
    exact decode?_encode text

end Text.Utf16

namespace Strings

open Text

/-- **Of the descriptors that there is room for, the one that is read as a
text is the one that is written for it.** -/
theorem encode?_eq_some_iff {text : String} {octets : Bytes} :
    encode? text = some octets ↔ octets.length ≤ sizeLimit ∧ decode? octets = some text := by
  constructor
  · intro written
    refine ⟨?_, decode?_of_encode? written⟩
    rw [encode?] at written
    split at written
    · rename_i fits
      cases written
      exact fits
    · cases written
  · rintro ⟨room, read⟩
    rcases octets with _ | ⟨length, _ | ⟨type, body⟩⟩
    · cases read
    · cases read
    · rw [decode?] at read
      split at read
      · rename_i own
        obtain ⟨chars, spelled, rfl⟩ := Option.map_eq_some_iff.1 read
        obtain rfl := Utf16.decode?_eq_some_iff.1 spelled
        obtain ⟨whole, rfl⟩ := own
        have fits : (Utf16.encode chars).length + 2 ≤ sizeLimit := room
        rw [encode?, String.toList_ofList, if_pos fits, ← whole, UInt8.ofNat_toNat]
      · cases read

/-- What stands where in a descriptor that was written. -/
theorem of_encode?_eq_some {text : String} {octets : Bytes} (h : encode? text = some octets) :
    octets.length = 2 + 2 * Utf16.unitCount text.toList ∧
      octets[0]?.map UInt8.toNat = some octets.length ∧ octets[1]? = some descriptorType ∧
      octets.drop 2 = Utf16.encode text.toList := by
  rw [encode?] at h
  split at h
  · rename_i fits
    cases h
    have length : (Utf16.encode text.toList).length = 2 * Utf16.unitCount text.toList := by
      rw [Utf16.length_encode, Utf16.length_units]
    have octet : (UInt8.ofNat ((Utf16.encode text.toList).length + 2)).toNat =
        (Utf16.encode text.toList).length + 2 := by
      simp only [sizeLimit] at fits
      rw [UInt8.toNat_ofNat']
      omega
    refine ⟨?_, congrArg some octet, rfl, rfl⟩
    rw [List.length_cons, List.length_cons, length]
    omega
  · cases h

/-! ## Unit by unit -/

/-- **Write a text unit by unit.** A zero holds the place of the length, which
has to be an octet at the end. -/
def write? (text : String) : Option Bytes := do
  let front ← Bytes.append? sizeLimit [] [0]
  let front ← Bytes.append? sizeLimit front [descriptorType]
  let whole ← (Utf16.units text.toList).foldlM
    (fun written unit => Bytes.append? sizeLimit written (le16 unit)) front
  if whole.length < 256 then some (whole.set 0 (UInt8.ofNat whole.length)) else none

/-- **A text that fits is written in the end, and no other.** -/
theorem write?_eq (text : String) : write? text = encode? text := by
  have front : write? text =
      ((Utf16.units text.toList).foldlM
        (fun written unit => Bytes.append? sizeLimit written (le16 unit))
        [0, descriptorType]).bind fun whole =>
          if whole.length < 256 then some (whole.set 0 (UInt8.ofNat whole.length)) else none := rfl
  have two : ([0, descriptorType] : Bytes).length ≤ sizeLimit := by decide
  have needed : ([0, descriptorType] : Bytes).length + (Utf16.encode text.toList).length =
      (Utf16.encode text.toList).length + 2 := Nat.add_comm _ _
  have length : ([0, descriptorType] ++ Utf16.encode text.toList).length =
      (Utf16.encode text.toList).length + 2 := rfl
  rw [front, Bytes.foldlM_append? le16 _ two, ← Utf16.encode, encode?, needed]
  by_cases fits : (Utf16.encode text.toList).length + 2 ≤ sizeLimit
  · have octet : (Utf16.encode text.toList).length + 2 < 256 := by
      simp only [sizeLimit] at fits
      omega
    rw [if_pos fits, if_pos fits, Option.bind_some, length, if_pos octet]
    rfl
  · rw [if_neg fits, if_neg fits]
    rfl

/-- **A text that fits is spelled in one way, and no other text is spelled so.**
A text fits if it has at most 63 units, where a character beyond the basic
plane counts twice, and a longer one is refused. What is written then says
its own length and type, and the units behind are read as the text. Among
all descriptors that there is room for, no other is read as the text and this
one as no other, and it comes out in the same way when it is written unit by
unit, with the length last. -/
theorem texts_are_read_back (text : String) :
    let units := Utf16.unitCount text.toList
    ((∃ octets, encode? text = some octets) ↔ units ≤ 63) ∧
      (encode? text = none ↔ 63 < units) ∧
      (∀ octets, encode? text = some octets →
        octets.length = 2 + 2 * units ∧ octets[0]?.map UInt8.toNat = some octets.length ∧
          octets[1]? = some 0x03 ∧ Utf16.decode? (octets.drop 2) = some text.toList ∧
          ∀ other, encode? other = some octets → other = text) ∧
      (∀ octets, octets.length ≤ 128 →
        (decode? octets = some text ↔ encode? text = some octets)) ∧
      write? text = encode? text := by
  intro units
  have some_iff : (∃ octets, encode? text = some octets) ↔ units ≤ 63 := by
    rw [← Option.isSome_iff_exists, encode?_isSome_iff, Utf16.length_units]
  refine ⟨some_iff, ?_, fun octets written => ?_, fun octets room => ?_, write?_eq text⟩
  · rw [← Nat.not_le, ← some_iff, ← Option.isSome_iff_exists, Bool.not_eq_true,
      Option.isSome_eq_false_iff, Option.isNone_iff_eq_none]
  · obtain ⟨size, length, type, body⟩ := of_encode?_eq_some written
    refine ⟨size, length, type, Utf16.decode?_eq_some_iff.2 body, fun other same => ?_⟩
    exact Option.some.inj ((decode?_of_encode? same).symm.trans (decode?_of_encode? written))
  · rw [encode?_eq_some_iff]
    exact ⟨fun read => ⟨room, read⟩, fun written => written.2⟩

/-- The longest text that ends in a surrogate pair. -/
def brimful : String :=
  String.ofList (List.replicate 61 'x' ++ ['😀'])

/-- One more character before the pair, and there is room for half of it
only. -/
theorem texts_are_read_back_brimful :
    (∃ octets, encode? brimful = some octets ∧ octets.length = 128 ∧
      Utf16.decode? (octets.drop 2) = some brimful.toList ∧ decode? octets = some brimful) ∧
      encode? (String.ofList ('x' :: brimful.toList)) = none := by
  obtain ⟨fits, -, spelled, read, -⟩ := texts_are_read_back brimful
  obtain ⟨-, refused, -⟩ := texts_are_read_back (String.ofList ('x' :: brimful.toList))
  have letters : brimful.toList = List.replicate 61 'x' ++ ['😀'] := String.toList_ofList
  have units : Utf16.unitCount brimful.toList = 63 := by
    rw [letters, Utf16.unitCount, List.map_append, List.sum_append, List.map_replicate,
      List.sum_replicate_nat]
    rfl
  have more : Utf16.unitCount (String.ofList ('x' :: brimful.toList)).toList = 64 := by
    rw [String.toList_ofList, Utf16.unitCount, List.map_cons, List.sum_cons, ← Utf16.unitCount, units]
    rfl
  obtain ⟨octets, written⟩ := fits.2 (Nat.le_of_eq units)
  obtain ⟨size, -, -, body, -⟩ := spelled octets written
  rw [units] at size
  exact ⟨⟨octets, written, size, body, (read octets (Nat.le_of_eq size)).2 written⟩,
    refused.2 (by rw [more]; decide)⟩

end Strings

end AudioGadget
