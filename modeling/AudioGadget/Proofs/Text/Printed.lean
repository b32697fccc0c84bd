import AudioGadget.Text.Blank
import AudioGadget.Text.Decimal
/-!
# Printed — a number is read back from its digits

A number is printed as its decimal digits, the first of them not zero
unless the number is. Readers accept any run of digits, so they accept
these, and the value they give is the number
(`natural?_toString`, `integer?_toString`).
-/

namespace AudioGadget.Text

/-- A digit lies between the first and the last one. -/
theorem isDigit_iff {c : Char} : isDigit c = true ↔ 48 ≤ c.toNat ∧ c.toNat ≤ 57 := by
  simp only [isDigit, Bool.and_eq_true, decide_eq_true_eq, Char.le_def, UInt32.le_iff_toNat_le]
  rfl

/-- And is no blank. -/
theorem isBlank_of_isDigit {c : Char} (h : isDigit c = true) : isBlank c = false := by
  have range := isDigit_iff.1 h
  simp only [isBlank, Bool.or_eq_false_iff, Bool.and_eq_false_imp, decide_eq_true_eq,
    decide_eq_false_iff_not]
  omega

/-- Digits are read as the number that they make. -/
theorem digitsFrom_of_digits {digits : List Char} (h : ∀ c ∈ digits, isDigit c = true)
    (value : Nat) : digitsFrom value digits = some (Nat.ofDigitChars 10 digits value) := by
  induction digits generalizing value with
  | nil => simp [digitsFrom]
  | cons c rest ih =>
    obtain ⟨first, others⟩ := List.forall_mem_cons.1 h
    rw [digitsFrom, if_pos first, ih others, Nat.ofDigitChars_cons]

theorem toList_toString (n : Nat) : (toString n).toList = Nat.toDigits 10 n := by
  rw [Nat.toString_eq_repr, Nat.toList_repr]

/-- A number is printed in digits. -/
theorem isDigit_of_mem_toString {n : Nat} {c : Char} (h : c ∈ (toString n).toList) :
    isDigit c = true := by
  rw [toList_toString] at h
  have digit := Nat.isDigit_of_mem_toDigits (by decide) (by decide) h
  simp only [Char.isDigit, Bool.and_eq_true, decide_eq_true_eq, ge_iff_le,
    UInt32.le_iff_toNat_le] at digit
  exact isDigit_iff.2 digit

/-- And in one of them at least. -/
theorem toList_toString_ne_nil (n : Nat) : (toString n).toList ≠ [] := by
  rw [toList_toString]
  exact Nat.toDigits_ne_nil

theorem isBlank_of_mem_toString {n : Nat} {c : Char} (h : c ∈ (toString n).toList) :
    isBlank c = false :=
  isBlank_of_isDigit (isDigit_of_mem_toString h)

/-- Nothing but digits stands in a printed number. -/
theorem not_mem_toString {c : Char} (other : isDigit c = false) (n : Nat) :
    c ∉ (toString n).toList := by
  intro inside
  rw [isDigit_of_mem_toString inside] at other
  cases other

/-- **A printed number is read back.** -/
theorem digits?_toString (n : Nat) : digits? (toString n).toList = some n := by
  have some : (toString n).toList.isEmpty = false :=
    List.isEmpty_eq_false_iff.2 (toList_toString_ne_nil n)
  rw [digits?, some, if_neg Bool.false_ne_true,
    digitsFrom_of_digits fun c => isDigit_of_mem_toString, toList_toString,
    Nat.ofDigitChars_ten_toDigits]

/-- The first digit of a printed number is no sign. -/
theorem exists_cons_toString (n : Nat) :
    ∃ c rest, (toString n).toList = c :: rest ∧ c ≠ '+' ∧ c ≠ '-' := by
  obtain ⟨c, rest, digits⟩ := List.exists_cons_of_ne_nil (toList_toString_ne_nil n)
  have digit : isDigit c = true := isDigit_of_mem_toString (digits ▸ List.mem_cons_self ..)
  refine ⟨c, rest, digits, ?_, ?_⟩
  · rintro rfl
    exact absurd digit (by decide)
  · rintro rfl
    exact absurd digit (by decide)

theorem natural?_toString (n : Nat) : natural? (toString n).toList = some n := by
  have read := digits?_toString n
  obtain ⟨c, rest, digits, plus, -⟩ := exists_cons_toString n
  rw [digits] at read ⊢
  rw [natural?, read]
  rintro rest' same
  exact plus (List.cons.inj same).1

theorem integer?_toString (n : Nat) : integer? (toString n).toList = some (n : Int) := by
  have read := digits?_toString n
  obtain ⟨c, rest, digits, plus, minus⟩ := exists_cons_toString n
  rw [digits] at read ⊢
  rw [integer?, read]
  · rfl
  · rintro rest' same
    exact minus (List.cons.inj same).1
  · rintro rest' same
    exact plus (List.cons.inj same).1

end AudioGadget.Text
