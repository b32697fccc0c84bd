import Mathlib.Algebra.GroupWithZero.Nat
import AudioGadget.Chore.Tally
import AudioGadget.Proofs.Text.Cut
import AudioGadget.Proofs.Text.Printed
/-!
# Results — the tallies of outputs add up

A tally is three capped sums over the result lines of an output
(`ofOutput_eq`). Where an output is cut between two lines the sums are
cut too, and capping is no loss, so tallies add up however the lines are
grouped (`ofOutput_append`, `foldl_add`). That the first half may then
end in a carriage return that was part of a line ending makes no
difference, as no count minds one (`countIn?_concat`).

What is counted are the numbers that were printed: of a `Report`, as a
test program prints it, the passed and the ignored tests are read
(`countIn?_passed`, `countIn?_ignored`), and of any other line nothing
(`countIn?_eq`).
-/

namespace AudioGadget.Chore

open Text

namespace Tally

/-- The label of the tests that passed. -/
def passedLabel : List Char := "passed".toList

/-- The label of those that were skipped. -/
def ignoredLabel : List Char := "ignored".toList

/-- **What a line adds to a count**, if it reports a result. -/
def countIn? (label line : List Char) : Option Nat :=
  (resultOf? line).map fun result => countBefore result label

/-- What the lines of an output add to a count. -/
def countsIn (label output : List Char) : List Nat :=
  (split '\n' output).filterMap (countIn? label)

/-! ## Line endings -/

/-- A count does not mind a return at the end of a result. -/
theorem countBefore_concat (result label : List Char) :
    countBefore (result ++ ['\r']) label = countBefore result label := by
  have other : '\r' ≠ ';' := by decide
  obtain ⟨front, last, cut, longer⟩ := split_concat other result
  simp only [countBefore, cut, longer, List.findSome?_append, List.findSome?_cons,
    trim_concat (c := '\r') rfl last]

/-- **Nor at the end of a line.** -/
theorem countIn?_concat (label line : List Char) :
    countIn? label (line ++ ['\r']) = countIn? label line := by
  have word : marker ≠ [] := by decide
  have foreign : '\r' ∉ marker := by decide
  unfold countIn? resultOf?
  rw [afterFirst?_concat word foreign, Option.map_map, Option.map_map, Option.map_map]
  congr 1
  funext rest
  rcases beforeFirst_concat word foreign rest with same | longer
  · exact congrArg (countBefore · label) same
  · exact (congrArg (countBefore · label) longer).trans (countBefore_concat _ _)

/-! ## Sums -/

/-- Results are counted, and their numbers added up. -/
theorem foldl_addResult (results : List (List Char)) (t : Tally) :
    results.foldl addResult t =
      ⟨t.binaries.add results.length,
        t.passed.add (results.map fun result => countBefore result passedLabel).sum,
        t.ignored.add (results.map fun result => countBefore result ignoredLabel).sum⟩ := by
  induction results generalizing t with
  | nil =>
    rw [List.map_nil, List.map_nil, List.length_nil, List.sum_nil, Counter.add_zero,
      Counter.add_zero, Counter.add_zero]
    rfl
  | cons result results ih =>
    rw [List.foldl_cons, ih, addResult, Counter.bump, Counter.add_add, List.length_cons,
      Nat.add_comm, List.map_cons, List.sum_cons, List.map_cons, List.sum_cons]
    congr 1 <;> exact Counter.add_add _ _ _

/-- The numbers of the lines are those of their results. -/
theorem map_countBefore_lines (label output : List Char) :
    (((lines output).filterMap resultOf?).map fun result => countBefore result label) =
      countsIn label output := by
  rw [List.map_filterMap]
  exact filterMap_lines rfl (countIn?_concat label) output

/-- **A tally is the sums over the result lines, capped.** -/
theorem ofOutput_eq (output : List Char) :
    ofOutput output =
      ⟨.ofNat (countsIn passedLabel output).length, .ofNat (countsIn passedLabel output).sum,
        .ofNat (countsIn ignoredLabel output).sum⟩ := by
  have number : ((lines output).filterMap resultOf?).length =
      (countsIn passedLabel output).length := by
    rw [← map_countBefore_lines, List.length_map]
  rw [ofOutput, foldl_addResult, number, map_countBefore_lines, map_countBefore_lines]
  simp only [zero, Counter.default_add]

theorem countsIn_append (label a b : List Char) :
    countsIn label (a ++ '\n' :: b) = countsIn label a ++ countsIn label b := by
  unfold countsIn
  rw [split_eq_splitOn, List.splitOn_append_cons_self, List.filterMap_append, ← split_eq_splitOn,
    ← split_eq_splitOn]

/-- A capped count adds to another as the whole count would. -/
theorem add_ofNat (m n : Nat) : (Counter.ofNat m).add (Counter.ofNat n).val = .ofNat (m + n) := by
  ext
  simp only [Counter.val_add, Counter.val_ofNat]
  omega

/-- **The tally of two outputs is their tallies together.** -/
theorem ofOutput_append (a b : List Char) :
    ofOutput (a ++ '\n' :: b) = (ofOutput a).add (ofOutput b) := by
  simp only [ofOutput_eq, add, add_ofNat, countsIn_append, List.length_append, List.sum_append]

@[simp] theorem add_zero (t : Tally) : t.add zero = t := by
  have none : (default : Counter).val = 0 := rfl
  simp only [add, zero, none, Counter.add_zero]

theorem zero_add (t : Tally) : zero.add t = t := by
  have whole (c : Counter) : Counter.ofNat c.val = c := by
    have := c.val_le
    ext
    rw [Counter.val_ofNat]
    omega
  simp only [add, zero, Counter.default_add, whole]

theorem add_assoc (t u v : Tally) : (t.add u).add v = t.add (u.add v) := by
  have grouped (a b c : Counter) : (a.add b.val).add c.val = a.add (b.add c.val).val := by
    ext
    simp only [Counter.val_add]
    omega
  simp only [add, grouped]

/-- **Tallies together**: each of their numbers added up, and capped only then. -/
def together (tallies : List Tally) : Tally :=
  ⟨.ofNat (tallies.map fun t => t.binaries.val).sum, .ofNat (tallies.map fun t => t.passed.val).sum,
    .ofNat (tallies.map fun t => t.ignored.val).sum⟩

theorem together_cons (t : Tally) (tallies : List Tally) :
    together (t :: tallies) = t.add (together tallies) := by
  have capped (c : Counter) (n : Nat) : Counter.ofNat (c.val + n) = c.add (Counter.ofNat n).val := by
    ext
    simp only [Counter.val_ofNat, Counter.val_add]
    omega
  simp only [together, add, List.map_cons, List.sum_cons, capped]

/-- **One after the other, tallies add up to what they are together.** -/
theorem foldl_add (tallies : List Tally) (t : Tally) :
    tallies.foldl add t = t.add (together tallies) := by
  induction tallies generalizing t with
  | nil => exact (add_zero t).symm
  | cons next rest ih => rw [List.foldl_cons, ih, add_assoc, together_cons]

/-- **And of any number of outputs**, one after the other. -/
theorem ofOutput_intercalate (outputs : List (List Char)) :
    ofOutput (['\n'].intercalate outputs) = (outputs.map ofOutput).foldl add zero := by
  rw [foldl_add, zero_add]
  induction outputs with
  | nil => rfl
  | cons output outputs ih =>
    rw [List.map_cons, together_cons]
    cases outputs with
    | nil =>
      rw [List.intercalate_singleton]
      exact (add_zero _).symm
    | cons next rest =>
      rw [List.intercalate_cons_cons, List.append_assoc, List.singleton_append, ofOutput_append, ih]

end Tally

/-! ## What a test program prints -/

/-- The result of a test program: how many of its tests fared how, and how
many seconds they took. -/
structure Report where
  passed : Counter
  failed : Counter
  ignored : Counter
  measured : Counter
  filtered : Counter
  seconds : String
  seconds_decimal : ∀ c ∈ seconds.toList, isDigit c = true ∨ c = '.'

namespace Report

/-- **The line that is printed.** -/
def text (r : Report) : String :=
  s!"test result: ok. {r.passed.val} passed; {r.failed.val} failed; {r.ignored.val} ignored; " ++
    s!"{r.measured.val} measured; {r.filtered.val} filtered out; finished in {r.seconds}s"

/-- A part of the line: some words, a number and what it counts. -/
def part (words : List Char) (n : Counter) (label : List Char) : List Char :=
  ' ' :: (words ++ (toString n.val).toList ++ ' ' :: label)

/-- The parts of the line behind the marker, which semicolons keep apart. -/
def parts (r : Report) : List (List Char) :=
  [part "ok. ".toList r.passed Tally.passedLabel, part [] r.failed "failed".toList,
    part [] r.ignored Tally.ignoredLabel, part [] r.measured "measured".toList,
    part [] r.filtered "filtered out".toList, " finished in ".toList ++ r.seconds.toList ++ ['s']]

theorem toList_text (r : Report) :
    r.text.toList = Tally.marker ++ [';'].intercalate r.parts := by
  have word (s : String) : toString s = s := rfl
  unfold text parts part Tally.marker Tally.passedLabel Tally.ignoredLabel
  simp [word]

/-- A character that is no digit is in no part whose words it is not in. -/
theorem not_mem_part {c : Char} {words label : List Char} (digit : isDigit c = false)
    (blank : c ≠ ' ') (front : c ∉ words) (back : c ∉ label) (n : Counter) :
    c ∉ part words n label := by
  have number : c ∉ (toString n.val).toList := not_mem_toString digit n.val
  simp only [part, List.mem_cons, List.mem_append, blank, front, number, back, or_self,
    not_false_eq_true]

/-- What keeps results, their parts and their marker apart is in no part. -/
theorem not_mem_of_mem_parts {c : Char} (apart : c ∈ [';', ':', '\n']) (r : Report) :
    ∀ p ∈ r.parts, c ∉ p := by
  simp only [List.mem_cons, List.not_mem_nil, or_false] at apart
  obtain ⟨digit, point, blank⟩ : isDigit c = false ∧ c ≠ '.' ∧ c ≠ ' ' := by
    rcases apart with rfl | rfl | rfl <;> decide
  have words : c ∉ "ok. ".toList ∧ c ∉ Tally.passedLabel ∧ c ∉ "failed".toList ∧
      c ∉ Tally.ignoredLabel ∧ c ∉ "measured".toList ∧ c ∉ "filtered out".toList ∧
      c ∉ " finished in ".toList ∧ c ∉ ['s'] := by
    rcases apart with rfl | rfl | rfl <;> decide
  obtain ⟨ok, passed, failed, ignored, measured, filtered, finished, unit⟩ := words
  have seconds : c ∉ r.seconds.toList := by
    intro inside
    rcases r.seconds_decimal c inside with is | is
    · exact absurd (digit.symm.trans is) (by decide)
    · exact point is
  have time : c ∉ " finished in ".toList ++ r.seconds.toList ++ ['s'] := by
    rw [List.mem_append, List.mem_append]
    exact fun inside => inside.elim (·.elim finished seconds) unit
  have part {words label : List Char} := @not_mem_part c words label digit blank
  simp only [parts, List.forall_mem_cons]
  exact ⟨part ok passed _, part List.not_mem_nil failed _, part List.not_mem_nil ignored _,
    part List.not_mem_nil measured _, part List.not_mem_nil filtered _, time,
    List.forall_mem_nil _⟩

/-- **The result of the line** is everything behind the marker. -/
theorem resultOf?_text (r : Report) :
    Tally.resultOf? r.text.toList = some ([';'].intercalate r.parts) := by
  have unmarked : ¬ Tally.marker <:+: [';'].intercalate r.parts := by
    intro stands
    have inside : ':' ∈ [';'].intercalate r.parts := stands.mem (by decide)
    exact not_mem_intercalate (by decide) (r.not_mem_of_mem_parts (by decide)) inside
  rw [Tally.resultOf?, toList_text, afterFirst?_append, Option.map_some,
    beforeFirst_of_not_infix unmarked]

/-- **The parts of the result** are the parts of the line. -/
theorem split_result (r : Report) : split ';' ([';'].intercalate r.parts) = r.parts := by
  rw [split_eq_splitOn]
  exact List.splitOn_intercalate _ (r.not_mem_of_mem_parts (by decide)) (List.cons_ne_nil _ _)

section Part

variable {words label : List Char} {n : Counter}

/-- Words and a number open with the first word, or with the number if there
are none. -/
theorem isBlank_of_head (opens : ∀ c ∈ words.head?, isBlank c = false) (rest : List Char) :
    ∀ c ∈ (words ++ (toString n.val).toList ++ rest).head?, isBlank c = false := by
  intro c first
  obtain ⟨digit, digits, number⟩ := List.exists_cons_of_ne_nil (toList_toString_ne_nil n.val)
  cases words with
  | nil =>
    rw [List.nil_append, number] at first
    obtain rfl := Option.some.inj first
    exact isBlank_of_mem_toString (number ▸ List.mem_cons_self ..)
  | cons w words => exact opens c first

/-- What stands between the blanks around a part: its words and its number, and
then its label. -/
theorem trim_part (opens : ∀ c ∈ words.head?, isBlank c = false) (some : label ≠ [])
    (closes : ∀ c ∈ label.getLast?, isBlank c = false) :
    trim (part words n label) = words ++ (toString n.val).toList ++ ' ' :: label := by
  rw [part, trim_cons rfl]
  refine trim_eq_self (isBlank_of_head opens _) ?_
  rw [List.getLast?_append, List.getLast?_cons_of_ne_nil some,
    Option.or_of_isSome (List.getLast?_isSome.2 some)]
  exact closes

/-- Words and a number close with the number. -/
theorem trim_number (opens : ∀ c ∈ words.head?, isBlank c = false) :
    trim (words ++ (toString n.val).toList ++ [' ']) = words ++ (toString n.val).toList := by
  have head := isBlank_of_head (n := n) opens []
  rw [List.append_nil] at head
  rw [trim_concat rfl]
  refine trim_eq_self head fun c last => ?_
  have number := toList_toString_ne_nil n.val
  rw [List.getLast?_append, Option.or_of_isSome (List.getLast?_isSome.2 number)] at last
  exact isBlank_of_mem_toString (List.mem_of_getLast? last)

/-- The number is the last of these words, if a blank keeps it apart from the
others. -/
theorem getLastD_split (apart : words = [] ∨ ∃ front, words = front ++ [' ']) :
    (split ' ' (words ++ (toString n.val).toList)).getLastD [] = (toString n.val).toList := by
  have single : ' ' ∉ (toString n.val).toList := not_mem_toString (by decide) n.val
  rw [split_eq_splitOn]
  rcases apart with rfl | ⟨front, rfl⟩
  · rw [List.nil_append, List.splitOn_eq_singleton single]
    rfl
  · rw [List.append_assoc, List.singleton_append, List.splitOn_append_cons_self,
      List.splitOn_eq_singleton single]
    simp

/-- **The number before a label is read** from the first part that ends in the
label. -/
theorem countBefore_part {result : List Char} {before after : List (List Char)}
    (cut : split ';' result = before ++ part words n label :: after)
    (others : ∀ p ∈ before, ¬ label <:+ trim p)
    (opens : ∀ c ∈ words.head?, isBlank c = false)
    (apart : words = [] ∨ ∃ front, words = front ++ [' ']) (some : label ≠ [])
    (closes : ∀ c ∈ label.getLast?, isBlank c = false) :
    Tally.countBefore result label = n.val := by
  have passed : before.findSome? (fun p => withoutTail? label (trim p)) = none :=
    List.findSome?_eq_none_iff.2 fun p among => withoutTail?_of_not_suffix (others p among)
  have own : withoutTail? label (trim (part words n label)) =
      .some (words ++ (toString n.val).toList ++ [' ']) := by
    rw [trim_part opens some closes, List.append_cons]
    exact withoutTail?_append _ _
  rw [Tally.countBefore, cut, List.findSome?_append, passed, Option.none_or, List.findSome?_cons,
    own]
  dsimp only
  rw [trim_number opens, getLastD_split apart, natural?_toString]
  exact if_pos n.val_le

/-- A part does not end in a label that closes otherwise than its own. -/
theorem not_suffix_trim_part {other close : List Char} (closed : close <:+ other)
    (room : close.length ≤ label.length) (otherwise : ¬ close <:+ label)
    (opens : ∀ c ∈ words.head?, isBlank c = false) (some : label ≠ [])
    (closes : ∀ c ∈ label.getLast?, isBlank c = false) : ¬ other <:+ trim (part words n label) := by
  rw [trim_part opens some closes]
  intro ends
  have own : label <:+ words ++ (toString n.val).toList ++ ' ' :: label :=
    (List.suffix_cons _ _).trans (List.suffix_append _ _)
  exact otherwise (List.suffix_of_suffix_length_le (closed.trans ends) own room)

end Part

/-! ## What is read of it -/

theorem countIn?_text (label : List Char) (r : Report) :
    Tally.countIn? label r.text.toList =
      some (Tally.countBefore ([';'].intercalate r.parts) label) := by
  rw [Tally.countIn?, resultOf?_text]
  rfl

/-- **Of a result the tests that passed are read.** -/
theorem countIn?_passed (r : Report) :
    Tally.countIn? Tally.passedLabel r.text.toList = some r.passed.val := by
  rw [countIn?_text]
  have first := r.split_result.trans (List.nil_append _).symm
  exact congrArg some (countBefore_part first (List.forall_mem_nil _) (isBlank_of_any rfl)
    (.inr ⟨"ok.".toList, rfl⟩) (by decide) (isBlank_of_any rfl))

/-- **And those that were skipped**, as no label before theirs closes alike. -/
theorem countIn?_ignored (r : Report) :
    Tally.countIn? Tally.ignoredLabel r.text.toList = some r.ignored.val := by
  have close : "red".toList <:+ Tally.ignoredLabel := by decide
  have others : ∀ p ∈ [part "ok. ".toList r.passed Tally.passedLabel,
      part [] r.failed "failed".toList], ¬ Tally.ignoredLabel <:+ trim p := by
    simp only [List.forall_mem_cons]
    exact ⟨not_suffix_trim_part close (by decide) (by decide) (isBlank_of_any rfl) (by decide)
        (isBlank_of_any rfl),
      not_suffix_trim_part close (by decide) (by decide) (isBlank_of_any rfl) (by decide)
        (isBlank_of_any rfl),
      List.forall_mem_nil _⟩
  rw [countIn?_text]
  exact congrArg some (countBefore_part r.split_result others (isBlank_of_any rfl) (.inl rfl)
    (by decide) (isBlank_of_any rfl))

end Report

/-- A line of an output: the result of a test program, behind which a carriage
return may stand, or any other, in which the marker stands nowhere. -/
inductive Line where
  | result (r : Report) (returned : Bool)
  | other (text : List Char) (one : '\n' ∉ text) (unmarked : ¬ Tally.marker <:+: text)

namespace Line

/-- The characters of a line. -/
def text : Line → List Char
  | result r false => r.text.toList
  | result r true => r.text.toList ++ ['\r']
  | other text _ _ => text

/-- The result that a line is. -/
def report? : Line → Option Report
  | result r _ => some r
  | other .. => none

/-- **An output made of lines.** The last of them ends in a newline or not. -/
def output (lines : List Line) (closed : Bool) : List Char :=
  ['\n'].intercalate (lines.map text) ++ if closed then ['\n'] else []

/-- A line is one line. -/
theorem not_mem_text (line : Line) : '\n' ∉ line.text := by
  have one (r : Report) : '\n' ∉ r.text.toList := by
    rw [Report.toList_text, List.mem_append]
    exact fun inside => inside.elim (by decide)
      (not_mem_intercalate (by decide) (r.not_mem_of_mem_parts (by decide)))
  cases line with
  | result r returned =>
    cases returned with
    | false => exact one r
    | true =>
      rw [text, List.mem_append]
      exact fun inside => inside.elim (one r) (by decide)
  | other text one unmarked => exact one

/-- **What a line adds to a count** is what is read of its result. -/
theorem countIn?_eq {label : List Char} {number : Report → Nat}
    (read : ∀ r : Report, Tally.countIn? label r.text.toList = some (number r)) (line : Line) :
    Tally.countIn? label line.text = line.report?.map number := by
  cases line with
  | result r returned =>
    cases returned with
    | false => exact read r
    | true => exact (Tally.countIn?_concat label _).trans (read r)
  | other text one unmarked =>
    change Tally.countIn? label text = none
    rw [Tally.countIn?, Tally.resultOf?, afterFirst?_of_not_infix unmarked]
    rfl

/-- The counts of an output are those of its results. -/
theorem countsIn_output {label : List Char} {number : Report → Nat}
    (read : ∀ r : Report, Tally.countIn? label r.text.toList = some (number r))
    (lines : List Line) (closed : Bool) :
    Tally.countsIn label (output lines closed) = (lines.filterMap report?).map number := by
  have none : Tally.countIn? label [] = none := rfl
  have unclosed : Tally.countsIn label (['\n'].intercalate (lines.map text)) =
      (lines.filterMap report?).map number := by
    cases lines with
    | nil => rfl
    | cons line lines =>
      have single : ∀ piece ∈ (line :: lines).map text, '\n' ∉ piece := by
        intro piece among
        obtain ⟨line, -, rfl⟩ := List.mem_map.1 among
        exact line.not_mem_text
      rw [Tally.countsIn, split_eq_splitOn,
        List.splitOn_intercalate _ single (List.cons_ne_nil _ _), List.filterMap_map,
        List.map_filterMap]
      exact congrArg (List.filterMap · _) (funext (countIn?_eq read))
  cases closed with
  | false => rw [output, if_neg Bool.false_ne_true, List.append_nil, unclosed]
  | true =>
    rw [output, if_pos rfl, Tally.countsIn_append, unclosed]
    exact List.append_nil _

end Line

/-- **Tallies add up.** The tally of two outputs, one behind the other, is the
tallies of both together, and so for any number of outputs. In an output of
result lines and others, in any order, closed by a newline or not and with
returns or without, every result line is counted, and of all of them the
passed and the ignored tests are added up, each number capped only at the
end. -/
theorem tallies_add_up (a b : List Char) (outputs : List (List Char)) (lines : List Line)
    (closed : Bool) :
    Tally.ofOutput (a ++ '\n' :: b) = (Tally.ofOutput a).add (Tally.ofOutput b) ∧
      Tally.ofOutput (['\n'].intercalate outputs) =
        (outputs.map Tally.ofOutput).foldl Tally.add Tally.zero ∧
      let t := Tally.ofOutput (Line.output lines closed)
      let reports := lines.filterMap Line.report?
      t.binaries.val = min reports.length (2 ^ 32 - 1) ∧
        t.passed.val = min (reports.map fun r => r.passed.val).sum (2 ^ 32 - 1) ∧
        t.ignored.val = min (reports.map fun r => r.ignored.val).sum (2 ^ 32 - 1) := by
  refine ⟨Tally.ofOutput_append a b, Tally.ofOutput_intercalate outputs, ?_⟩
  have passed := Line.countsIn_output Report.countIn?_passed lines closed
  have ignored := Line.countsIn_output Report.countIn?_ignored lines closed
  dsimp only
  rw [Tally.ofOutput_eq, passed, ignored, List.length_map]
  exact ⟨rfl, rfl, rfl⟩

/-- Digits and points are a number of seconds. -/
theorem Report.decimal_of_all {seconds : String}
    (all : seconds.toList.all (fun c => isDigit c || c == '.') = true) :
    ∀ c ∈ seconds.toList, isDigit c = true ∨ c = '.' := by
  simpa using all

/-- A test program of which almost as many tests passed as can be counted. -/
def populous : Report where
  passed := .ofNat 4294967290
  failed := .ofNat 0
  ignored := .ofNat 3
  measured := .ofNat 0
  filtered := .ofNat 7
  seconds := "12.50"
  seconds_decimal := Report.decimal_of_all rfl

/-- And one of which almost as many were skipped. -/
def skipping : Report where
  passed := .ofNat 8
  failed := .ofNat 0
  ignored := .ofNat 4294967292
  measured := .ofNat 1
  filtered := .ofNat 0
  seconds := "0.01"
  seconds_decimal := Report.decimal_of_all rfl

/-- The results of both, the first with a return behind it, and between them
what comes close to a third. -/
def console : List Line :=
  [ .result populous true,
    .other "test results: 9 passed; 9 ignored".toList (by decide) (by decide +kernel),
    .result skipping false ]

/-- More tests passed than a counter shows, and as many were skipped as it shows
at most. -/
theorem tallies_add_up_console :
    populous.text = "test result: ok. 4294967290 passed; 0 failed; 3 ignored; 0 measured; " ++
        "7 filtered out; finished in 12.50s" ∧
      skipping.text = "test result: ok. 8 passed; 0 failed; 4294967292 ignored; 1 measured; " ++
        "0 filtered out; finished in 0.01s" ∧
      let t := Tally.ofOutput (Line.output console true)
      t.binaries.val = 2 ∧ t.passed.val = 4294967295 ∧ t.ignored.val = 4294967295 := by
  obtain ⟨-, -, binaries, passed, ignored⟩ := tallies_add_up [] [] [] console true
  exact ⟨by decide +kernel, by decide +kernel, binaries, passed, ignored⟩

end AudioGadget.Chore
