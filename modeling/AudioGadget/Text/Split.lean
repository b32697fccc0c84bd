/-!
# Split — cutting a text apart

Texts are cut at a separating character (`split`), into lines (`lines`),
and around a word (`afterFirst?`, `beforeFirst`). Cutting at a character
loses nothing: the pieces, joined by it, are the text again.
-/

namespace AudioGadget.Text

/-- The pieces between the separators: one more than there are
separators. -/
def split (sep : Char) : List Char → List (List Char)
  | [] => [[]]
  | c :: rest =>
    if c = sep then
      [] :: split sep rest
    else
      match split sep rest with
      | [] => [[c]]
      | piece :: pieces => (c :: piece) :: pieces

example : split ';' "a;;b".toList = ["a".toList, [], "b".toList] := rfl

/-- **Cutting at a character** is what the library does. -/
theorem split_eq_splitOn (sep : Char) (text : List Char) : split sep text = text.splitOn sep := by
  induction text with
  | nil => rfl
  | cons c rest ih =>
    rw [split, List.splitOn_cons_eq_if_modifyHead, ih]
    by_cases same : c = sep
    · rw [if_pos same, if_pos (beq_iff_eq.2 same)]
    · rw [if_neg same, if_neg fun equal => same (beq_iff_eq.1 equal)]
      cases cut : rest.splitOn sep with
      | nil => exact absurd cut (List.splitOn_ne_nil sep rest)
      | cons piece pieces => rfl

theorem split_ne_nil (sep : Char) (text : List Char) : split sep text ≠ [] := by
  rw [split_eq_splitOn]
  exact List.splitOn_ne_nil sep text

/-- **Cutting loses nothing.** -/
theorem intercalate_split (sep : Char) (text : List Char) :
    [sep].intercalate (split sep text) = text := by
  rw [split_eq_splitOn, List.intercalate_splitOn]

/-- A line without the carriage return at its end. -/
def withoutReturn (line : List Char) : List Char :=
  if line.getLast? = some '\r' then line.dropLast else line

/-- **The lines of a text.** A line ends at a newline, with or without a
carriage return before it. What follows the last newline is a line of
its own unless it is empty, and keeps its carriage return. -/
def lines (text : List Char) : List (List Char) :=
  let pieces := split '\n' text
  let rest := pieces.getLastD []
  pieces.dropLast.map withoutReturn ++ if rest.isEmpty then [] else [rest]

/-- What follows the first place where `word` stands. -/
def afterFirst? (word : List Char) : List Char → Option (List Char)
  | [] => if word.isEmpty then some [] else none
  | c :: rest =>
    if word.isPrefixOf (c :: rest) then some ((c :: rest).drop word.length)
    else afterFirst? word rest

/-- What stands before the first place of `word`: everything, if there is
none. -/
def beforeFirst (word : List Char) : List Char → List Char
  | [] => []
  | c :: rest => if word.isPrefixOf (c :: rest) then [] else c :: beforeFirst word rest

/-- A text without `tail` at its end, if that is how it ends. -/
def withoutTail? (tail text : List Char) : Option (List Char) :=
  if tail.isSuffixOf text then some (text.take (text.length - tail.length)) else none

end AudioGadget.Text
