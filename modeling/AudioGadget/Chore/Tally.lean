import AudioGadget.Counter
import AudioGadget.Text.Blank
import AudioGadget.Text.Decimal
import AudioGadget.Text.Split
/-!
# Tally — test results added up

A test program ends with a line that says how many tests passed and how
many were skipped. The tally of an output adds up all such lines, and
tallies add up in turn, each number capped like any counter.
-/

namespace AudioGadget.Chore

/-- Test programs seen, and their tests that passed or were skipped. -/
structure Tally where
  binaries : Counter
  passed : Counter
  ignored : Counter
deriving DecidableEq

namespace Tally

/-- No results. -/
def zero : Tally := ⟨default, default, default⟩

instance : Inhabited Tally := ⟨zero⟩

/-- What opens a result line. -/
def marker : List Char := "test result:".toList

/-- **The number before a label.** A result is a list of parts between
semicolons; the first part that ends in the label counts, and the number
is its last word before the label. What is no number in range is 0. -/
def countBefore (result label : List Char) : Nat :=
  let part? := (Text.split ';' result).findSome? fun part =>
    Text.withoutTail? label (Text.trim part)
  match part? with
  | none => 0
  | some front =>
    let lastWord := (Text.split ' ' (Text.trim front)).getLastD []
    match Text.natural? lastWord with
    | none => 0
    | some n => if n ≤ countLimit then n else 0

/-- The result that a line reports, if it reports one: what stands behind
the marker, up to a second marker. -/
def resultOf? (line : List Char) : Option (List Char) :=
  (Text.afterFirst? marker line).map (Text.beforeFirst marker)

/-- Add one result. -/
def addResult (t : Tally) (result : List Char) : Tally :=
  ⟨t.binaries.bump, t.passed.add (countBefore result "passed".toList),
    t.ignored.add (countBefore result "ignored".toList)⟩

/-- The tally of an output. -/
def ofOutput (output : List Char) : Tally :=
  ((Text.lines output).filterMap resultOf?).foldl addResult zero

/-- Two tallies together. -/
def add (a b : Tally) : Tally :=
  ⟨a.binaries.add b.binaries.val, a.passed.add b.passed.val, a.ignored.add b.ignored.val⟩

/-- The tally in words. -/
def describe (t : Tally) : String :=
  if t.binaries.val = 0 then "no test results reported"
  else s!"{t.passed.val} passed, {t.ignored.val} ignored across {t.binaries.val} binaries"

end Tally

end AudioGadget.Chore
