import AudioGadget.Text.Blank
import AudioGadget.Text.Split
/-!
# Cut — what is found where a text is cut

A line may end in a carriage return or not, and the last line may lack its
newline; a reader that sees nothing in an empty line and does not mind a
return at the end sees the same in the lines as in the bare pieces
(`filterMap_lines`). Trimming and looking for a word do not mind it
either (`trim_concat`, `afterFirst?_concat`).
-/

namespace AudioGadget.Text

/-! ## Pieces -/

/-- What follows the last separator grows with the text. -/
theorem split_concat {sep c : Char} (other : c ≠ sep) (text : List Char) :
    ∃ front last, split sep text = front ++ [last] ∧
      split sep (text ++ [c]) = front ++ [last ++ [c]] := by
  induction text with
  | nil => exact ⟨[], [], rfl, by simp [split, other]⟩
  | cons d rest ih =>
    obtain ⟨front, last, cut, longer⟩ := ih
    by_cases same : d = sep
    · exact ⟨[] :: front, last, by simp [split, same, cut], by simp [split, same, longer]⟩
    · rcases front with _ | ⟨piece, front⟩
      · exact ⟨[], d :: last, by simp [split, same, cut], by simp [split, same, longer]⟩
      · exact ⟨(d :: piece) :: front, last, by simp [split, same, cut],
          by simp [split, same, longer]⟩

/-- Nothing stands in joined pieces that stands in none of them. -/
theorem not_mem_intercalate {sep c : Char} {pieces : List (List Char)} (other : c ≠ sep)
    (none : ∀ piece ∈ pieces, c ∉ piece) : c ∉ [sep].intercalate pieces := by
  induction pieces with
  | nil => exact List.not_mem_nil
  | cons piece rest ih =>
    obtain ⟨first, others⟩ := List.forall_mem_cons.1 none
    cases rest with
    | nil => rwa [List.intercalate_singleton]
    | cons next rest =>
      rw [List.intercalate_cons_cons, List.append_assoc, List.mem_append, List.mem_append,
        List.mem_singleton]
      rintro (inside | same | later)
      · exact first inside
      · exact other same
      · exact ih others later

/-! ## Lines -/

theorem withoutReturn_concat (line : List Char) : withoutReturn (line ++ ['\r']) = line := by
  simp [withoutReturn]

/-- A line that ends in a return is that line without it and the return. -/
theorem eq_withoutReturn_or (line : List Char) :
    withoutReturn line = line ∨ line = withoutReturn line ++ ['\r'] := by
  rcases List.eq_nil_or_concat line with rfl | ⟨front, c, rfl⟩
  · exact .inl rfl
  · by_cases ret : c = '\r'
    · subst ret
      exact .inr (by rw [List.concat_eq_append, withoutReturn_concat])
    · exact .inl (by simp [withoutReturn, ret])

/-- **A reader that does not mind how a line ends** finds in the lines of a
text what it finds between the newlines. -/
theorem filterMap_lines {α : Type} {read : List Char → Option α} (empty : read [] = none)
    (returned : ∀ line, read (line ++ ['\r']) = read line) (text : List Char) :
    (lines text).filterMap read = (split '\n' text).filterMap read := by
  have same (line : List Char) : read (withoutReturn line) = read line := by
    rcases eq_withoutReturn_or line with whole | cut
    · rw [whole]
    · rw [cut, withoutReturn_concat, returned]
  have pieces : split '\n' text =
      (split '\n' text).dropLast ++ [(split '\n' text).getLastD []] := by
    rcases List.eq_nil_or_concat (split '\n' text) with none | ⟨front, last, cut⟩
    · exact absurd none (split_ne_nil _ _)
    · simp [cut]
  have front : ((split '\n' text).dropLast.map withoutReturn).filterMap read =
      (split '\n' text).dropLast.filterMap read := by
    rw [List.filterMap_map]
    exact congrArg (List.filterMap · _) (funext same)
  have whole : (split '\n' text).filterMap read =
      (split '\n' text).dropLast.filterMap read ++
        [(split '\n' text).getLastD []].filterMap read := by
    rw [← List.filterMap_append, ← pieces]
  rw [whole, lines, List.filterMap_append, front]
  congr 1
  by_cases closed : ((split '\n' text).getLastD []).isEmpty = true
  · rw [if_pos closed, List.isEmpty_iff.1 closed, List.filterMap_cons_none empty]
  · rw [if_neg closed]

/-! ## Ends -/

/-- A blank in front is taken off. -/
theorem trim_cons {c : Char} (blank : isBlank c = true) (text : List Char) :
    trim (c :: text) = trim text := by
  rw [trim, List.dropWhile_cons_of_pos blank, ← trim]

/-- A blank at the end is taken off. -/
theorem trim_concat {c : Char} (blank : isBlank c = true) (text : List Char) :
    trim (text ++ [c]) = trim text := by
  rw [trim, trim, List.dropWhile_append]
  cases kept : text.dropWhile isBlank with
  | nil => simp [List.dropWhile_cons_of_pos blank]
  | cons d rest => simp [List.dropWhile_cons_of_pos blank]

theorem isBlank_of_any {c? : Option Char} (h : c?.any isBlank = false) :
    ∀ c ∈ c?, isBlank c = false := by
  rintro c rfl
  exact h

/-- A text that has no blank at its ends stays. -/
theorem trim_eq_self {text : List Char} (head : ∀ c ∈ text.head?, isBlank c = false)
    (last : ∀ c ∈ text.getLast?, isBlank c = false) : trim text = text := by
  have start : text.dropWhile isBlank = text := by
    cases text with
    | nil => rfl
    | cons c rest => exact List.dropWhile_cons_of_neg (by rw [head c rfl]; exact Bool.false_ne_true)
  have stop : text.reverse.dropWhile isBlank = text.reverse := by
    rw [← List.head?_reverse] at last
    cases reversed : text.reverse with
    | nil => rfl
    | cons c rest =>
      rw [reversed] at last
      exact List.dropWhile_cons_of_neg (by rw [last c rfl]; exact Bool.false_ne_true)
  rw [trim, start, stop, List.reverse_reverse]

/-! ## Words -/

theorem withoutTail?_append (front tail : List Char) :
    withoutTail? tail (front ++ tail) = some front := by
  have ends : tail.isSuffixOf (front ++ tail) = true :=
    List.isSuffixOf_iff_suffix.2 (List.suffix_append ..)
  rw [withoutTail?, if_pos ends, List.length_append, Nat.add_sub_cancel, List.take_left]

theorem withoutTail?_of_not_suffix {tail text : List Char} (h : ¬ tail <:+ text) :
    withoutTail? tail text = none :=
  if_neg fun ends => h (List.isSuffixOf_iff_suffix.1 ends)

theorem afterFirst?_append (word rest : List Char) : afterFirst? word (word ++ rest) = some rest := by
  have stands : word.isPrefixOf (word ++ rest) = true :=
    List.isPrefixOf_iff_prefix.2 (List.prefix_append ..)
  cases whole : word ++ rest with
  | nil =>
    obtain ⟨rfl, rfl⟩ := List.append_eq_nil_iff.1 whole
    rfl
  | cons c more =>
    rw [whole] at stands
    rw [afterFirst?, if_pos stands, ← whole, List.drop_left]

/-- A word that stands nowhere is not found. -/
theorem afterFirst?_of_not_infix {word text : List Char} (h : ¬ word <:+: text) :
    afterFirst? word text = none := by
  induction text with
  | nil =>
    have some : ¬ word.isEmpty = true := fun empty => h (by simp [List.isEmpty_iff.1 empty])
    exact if_neg some
  | cons c rest ih =>
    have here : ¬ word.isPrefixOf (c :: rest) = true := fun stands =>
      h (List.isPrefixOf_iff_prefix.1 stands).isInfix
    rw [afterFirst?, if_neg here]
    exact ih fun later => h (List.infix_cons later)

/-- And everything stands before it. -/
theorem beforeFirst_of_not_infix {word text : List Char} (h : ¬ word <:+: text) :
    beforeFirst word text = text := by
  induction text with
  | nil => rfl
  | cons c rest ih =>
    have here : ¬ word.isPrefixOf (c :: rest) = true := fun stands =>
      h (List.isPrefixOf_iff_prefix.1 stands).isInfix
    rw [beforeFirst, if_neg here, ih fun later => h (List.infix_cons later)]

section Concat

variable {word : List Char} {c : Char}

/-- A word starts a text or not, whatever stands behind that is not in it. -/
theorem isPrefixOf_concat (foreign : c ∉ word) (text : List Char) :
    word.isPrefixOf (text ++ [c]) = word.isPrefixOf text := by
  rw [Bool.eq_iff_iff, List.isPrefixOf_iff_prefix, List.isPrefixOf_iff_prefix,
    List.prefix_concat_iff]
  refine ⟨fun h => h.resolve_left ?_, .inr⟩
  rintro rfl
  exact foreign (List.mem_append_right _ (List.mem_singleton_self c))

/-- What follows a word grows with the text. -/
theorem afterFirst?_concat (some : word ≠ []) (foreign : c ∉ word) (text : List Char) :
    afterFirst? word (text ++ [c]) = (afterFirst? word text).map (· ++ [c]) := by
  have empty : word.isEmpty = false := List.isEmpty_eq_false_iff.2 some
  induction text with
  | nil =>
    have here := isPrefixOf_concat foreign []
    have never : word.isPrefixOf [] = false := by
      cases word with
      | nil => exact absurd rfl some
      | cons d rest => rfl
    rw [never, List.nil_append] at here
    simp [afterFirst?, empty, here]
  | cons d rest ih =>
    rw [List.cons_append, afterFirst?, afterFirst?, ← List.cons_append, isPrefixOf_concat foreign, ih]
    split
    · rename_i stands
      have inside := (List.isPrefixOf_iff_prefix.1 stands).length_le
      rw [List.drop_append_of_le_length inside]
      rfl
    · rfl

/-- What stands before a word may grow with the text. -/
theorem beforeFirst_concat (some : word ≠ []) (foreign : c ∉ word) (text : List Char) :
    beforeFirst word (text ++ [c]) = beforeFirst word text ∨
      beforeFirst word (text ++ [c]) = beforeFirst word text ++ [c] := by
  induction text with
  | nil =>
    have never : word.isPrefixOf [c] = false := by
      have here := isPrefixOf_concat foreign []
      cases word with
      | nil => exact absurd rfl some
      | cons d rest => exact here
    exact .inr (by simp [beforeFirst, never])
  | cons d rest ih =>
    rw [List.cons_append, beforeFirst, beforeFirst, ← List.cons_append, isPrefixOf_concat foreign]
    split
    · exact .inl rfl
    · exact ih.imp (congrArg _) (congrArg _)

end Concat

end AudioGadget.Text
