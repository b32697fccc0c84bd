import AudioGadget.Chore.Plan
import AudioGadget.Chore.Tally
/-!
# Test — the test suites

There are three suites. The unit tests and the integration tests must
pass; the examples in the documentation should. Each suite's results are
tallied, and the tallies of those that passed are added up at the end.
-/

namespace AudioGadget.Chore.Test

/-- A test suite. -/
structure Suite where
  name : String
  args : List String
  required : Bool
deriving DecidableEq, Repr

/-- The tests beside the code. -/
def unitSuite : Suite := ⟨"unit tests", ["test", "--lib", "--workspace"], true⟩

/-- The tests of whole packages. -/
def integrationSuite : Suite :=
  ⟨"driver scenarios and integration tests",
    ["test", "--workspace", "--tests", "--exclude", "xtask"], true⟩

/-- The examples in the documentation. -/
def docSuite : Suite := ⟨"doc tests", ["test", "--doc", "--workspace"], false⟩

/-- **The suites that two wishes select.** One wish alone narrows the
choice; both or none mean everything. -/
def suites (unitOnly integrationOnly : Bool) : List Suite :=
  match unitOnly, integrationOnly with
  | true, false => [unitSuite]
  | false, true => [integrationSuite]
  | _, _ => [unitSuite, integrationSuite, docSuite]

/-- The tally of a run. -/
def tallyOf (run : ToolRun) : Tally :=
  Tally.ofOutput (Text.readUtf8 run.out)

/-- The lines of an output, set in by two blanks. -/
def indented (bytes : Bytes) : String :=
  String.join ((Text.lines (Text.readUtf8 bytes)).map fun line =>
    "  " ++ String.ofList line ++ "\n")

/-- What is shown of a suite that failed. The failed tests of a required
suite are named in its output. -/
def failureScreen (suite : Suite) (run : ToolRun) : Screen :=
  if suite.required then
    .complain (s!"  ✗ {suite.name} failed\n\n" ++ indented run.out ++
      Plan.streamText run.err ++ "\n")
  else
    ⟨"\n", s!"  ⚠ {suite.name} failed\n"⟩

/-- The run of a suite. -/
def stage (suite : Suite) : Stage where
  args := suite.args
  required := suite.required
  opening := s!"  Running {suite.name}...\n"
  onSuccess run :=
    .say s!"  ✓ {suite.name}: {(tallyOf run).describe} in {Plan.seconds run.elapsed}s\n\n"
  onFailure := failureScreen suite
  failure := s!"{suite.name} failed"
  startFailure := s!"Failed to run {suite.name}"

/-- The tallies of the runs that succeeded, added up. -/
def total (runs : List ToolRun) : Tally :=
  ((runs.filter ToolRun.succeeded).map tallyOf).foldl Tally.add .zero

/-- Run the selected suites and add up their results. -/
def plan (unitOnly integrationOnly : Bool) : Plan where
  heading := "\n🧪 Testing USB audio crates...\n\n"
  stages := (suites unitOnly integrationOnly).map stage
  closing runs := s!"✓ {(total runs).describe} in {Plan.seconds (Plan.elapsed runs)}s\n\n"

end AudioGadget.Chore.Test
