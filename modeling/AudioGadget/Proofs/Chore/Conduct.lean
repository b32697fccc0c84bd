import AudioGadget.Proofs.Chore.Flags
import AudioGadget.Proofs.Chore.Performance
import AudioGadget.Proofs.Chore.Results
/-!
# Conduct — what chores ask of the build tool, and where they end

Three chores call the build tool. Which calls a chore has in mind is
spelled out here for every line of words (`Kind.calls`), apart from the
plans that are carried out, and three calls are named as advice
(`advice`); the plans come down to just these (`errands_plan`).

So a chore ends with the first call that has to succeed and does not, or
for which the tool cannot be started, and nowhere else
(`chores_end_where_they_must`). The tallies that are added up at the end
of the tests are those of the suites that passed.
-/

namespace AudioGadget.Chore

/-- The chores that call the build tool. -/
inductive Kind where
  | check
  | test
  | doc
deriving DecidableEq, Repr

/-- The call for the lints. -/
def lintCall : List String := ["clippy", "--workspace", "--all-targets", "--", "-D", "warnings"]

/-- The call for the formatting. -/
def formatCall : List String := ["fmt", "--all", "--check"]

/-- The call for the examples in the documentation. -/
def exampleCall : List String := ["test", "--doc", "--workspace"]

/-- **The calls that only give advice.** All others have to succeed. -/
def advice : List (List String) := [lintCall, formatCall, exampleCall]

namespace Kind

/-- The word that asks for a chore. -/
def word : Kind → String
  | check => "check"
  | test => "test"
  | doc => "doc"

/-- The flags of a chore. -/
def flagNames : Kind → List String
  | check => []
  | test => ["unit", "integration"]
  | doc => ["open"]

/-- **The calls that a chore has in mind**, given the words behind its own. -/
def calls (words : List String) : Kind → List (List String)
  | check =>
    [ ["check", "-p", "platform", "--target", "thumbv7em-none-eabihf", "--no-default-features"],
      ["check", "-p", "usb-audio", "--target", "thumbv7em-none-eabihf", "--no-default-features"],
      ["check", "-p", "playback", "--target", "thumbv7em-none-eabihf", "--no-default-features"],
      ["check", "-p", "usb-audio"],
      ["check", "-p", "usb-audio", "--target", "thumbv7em-none-eabihf", "--features", "defmt"],
      ["check", "-p", "usb-audio", "--features", "tracing,std"],
      lintCall, formatCall ]
  | test =>
    let unit := ["test", "--lib", "--workspace"]
    let integration := ["test", "--workspace", "--tests", "--exclude", "xtask"]
    if "--unit" ∈ words ∧ "--integration" ∉ words then [unit]
    else if "--integration" ∈ words ∧ "--unit" ∉ words then [integration]
    else [unit, integration, exampleCall]
  | doc =>
    let pages := ["doc", "--no-deps", "-p", "platform", "-p", "usb-audio", "-p", "playback",
      "--features", "platform/std,usb-audio/std,usb-audio/tracing,playback/std"]
    let front := ["doc", "--no-deps", "-p", "usb-audio",
      "--features", "usb-audio/std,usb-audio/tracing", "--open"]
    pages :: if "--open" ∈ words then [front] else []

/-- The errands of a chore: its calls, of which advice is not required. -/
def errands (words : List String) (kind : Kind) : List Errand :=
  (kind.calls words).map fun args => ⟨args, !advice.contains args⟩

/-! ## What is carried out -/

/-- What the words behind a chore's own make of it. -/
def command (words : List String) : Kind → Command
  | check => .check
  | test => .test (decide ("--unit" ∈ words)) (decide ("--integration" ∈ words))
  | doc => .doc (decide ("--open" ∈ words))

/-- The plan that is carried out. -/
def plan (landing : Bool) (words : List String) : Kind → Plan
  | check => Check.plan
  | test => Test.plan (decide ("--unit" ∈ words)) (decide ("--integration" ∈ words))
  | doc => Doc.plan (decide ("--open" ∈ words)) landing

theorem plain_flagNames (kind : Kind) : Arguments.Plain kind.flagNames := by
  cases kind <;> unfold Arguments.Plain <;> decide

/-- **A line is read as a chore** if its other words ask for flags of it. -/
theorem command?_word (kind : Kind) (words : List String) :
    Arguments.command? (kind.word :: words) =
      (Arguments.options? (Arguments.flags kind.flagNames) words).map fun _ =>
        kind.command words := by
  have given {g : List Arguments.Given}
      (read : Arguments.options? (Arguments.flags kind.flagNames) words = some g) {name : String}
      (named : name ≠ "") := Arguments.has_eq_of_options? kind.plain_flagNames read named
  cases kind with
  | check =>
    show (Arguments.options? [] words).bind _ = (Arguments.options? [] words).map _
    cases Arguments.options? [] words <;> rfl
  | test =>
    show (Arguments.options? (Arguments.flags test.flagNames) words).bind _ = _
    cases read : Arguments.options? (Arguments.flags test.flagNames) words with
    | none => rfl
    | some g =>
      show some (Command.test (Arguments.has g "unit") (Arguments.has g "integration")) = _
      rw [given read (by decide), given read (by decide)]
      rfl
  | doc =>
    show (Arguments.options? (Arguments.flags doc.flagNames) words).bind _ = _
    cases read : Arguments.options? (Arguments.flags doc.flagNames) words with
    | none => rfl
    | some g =>
      show some (Command.doc (Arguments.has g "open")) = _
      rw [given read (by decide)]
      rfl

/-- **The plans are made of these errands.** -/
theorem errands_plan (kind : Kind) (landing : Bool) (words : List String) :
    (kind.plan landing words).stages.map Stage.errand = kind.errands words := by
  unfold errands calls plan
  cases kind with
  | check =>
    dsimp only
    decide +kernel
  | test =>
    by_cases unit : "--unit" ∈ words <;> by_cases integration : "--integration" ∈ words <;>
      simp only [unit, integration] <;> decide +kernel
  | doc =>
    by_cases front : "--open" ∈ words <;> simp only [front] <;> cases landing <;> decide +kernel

variable {τ : Type} [BuildTool τ]

/-- **A line that asks for a chore** has its plan carried out. -/
theorem run_word (kind : Kind) {words : List String}
    (asked : Arguments.AskFlags kind.flagNames words) (tool : τ) (landing : Bool) :
    Program.run tool landing (kind.word :: words) =
      Program.runPlan (kind.plan landing words) tool := by
  obtain ⟨given, read⟩ := Option.isSome_iff_exists.1
    ((Arguments.isSome_options?_iff kind.plain_flagNames).2 asked)
  rw [Program.run, command?_word, read]
  cases kind <;> rfl

end Kind

/-! ## Where chores end -/

/-- Advice is not required. -/
theorem required_eq_false {kind : Kind} {words : List String} :
    ∀ e ∈ kind.errands words, e.args ∈ advice → e.required = false := by
  intro e among advisory
  obtain ⟨args, -, rfl⟩ := List.mem_map.1 among
  show (!advice.contains args) = false
  rw [List.contains_iff_mem.2 advisory, Bool.not_true]

/-- What is added up at the end of the tests are the suites that passed. -/
theorem total_runs (made : List Attempt) :
    Test.total (made.filterMap fun a => a.answer.run?) =
      Tally.together ((made.filterMap Attempt.passed?).map Test.tallyOf) := by
  have passed : (made.filterMap fun a => a.answer.run?).filter ToolRun.succeeded =
      made.filterMap Attempt.passed? := List.filter_filterMap
  rw [Test.total, passed, Tally.foldl_add, Tally.zero_add]

/-- **Chores end where they must, and nowhere else.** A line that opens with the
word of a chore is read if and only if its other words are flags of the chore,
none of them twice. What the tool would come to in all the chore's calls, one
after the other, then says how the chore goes:

* it is called up to the first call that is fatal, because the tool fails in it
  and it is no advice, or because the tool cannot be started, which is then no
  call at all;
* the exit code is 0 if the tool could always be started and no call up to there
  failed that is no advice, and otherwise 1;
* whatever else the tool may come to where it only gives advice, the same calls
  are made and the exit code is the same;
* and the tests, if they end with 0, close with the tallies of the suites that
  passed, added up and capped only then. -/
theorem chores_end_where_they_must {τ : Type} [BuildTool τ] (tool : τ) (landing : Bool)
    (kind : Kind) (words : List String) :
    ((Arguments.command? (kind.word :: words)).isSome ↔
        Arguments.AskFlags kind.flagNames words) ∧
      (Arguments.AskFlags kind.flagNames words →
        let done := Program.run tool landing (kind.word :: words)
        let made := upToFatal (attempts tool (kind.errands words))
        done.calls = startedCalls made ∧
          (done.exitCode = 0 ↔ ∀ a ∈ made, a.started ∧ (a.errand.required → a.succeeded)) ∧
          (done.exitCode = 0 ∨ done.exitCode = 1) ∧
          (∀ verdict,
            let other := Program.run (Overruled.mk tool advice verdict) landing (kind.word :: words)
            other.calls = done.calls ∧ other.exitCode = done.exitCode) ∧
          (kind = .test → done.exitCode = 0 →
            let tallies := (made.filterMap Attempt.passed?).map fun run =>
              Tally.ofOutput (Text.readUtf8 run.out)
            ∃ shown time, done.screen.out =
              shown ++ s!"✓ {(Tally.together tallies).describe} in {Plan.seconds time}s\n\n")) := by
  have read : (Arguments.command? (kind.word :: words)).isSome ↔
      Arguments.AskFlags kind.flagNames words := by
    rw [Kind.command?_word, Option.isSome_map, Arguments.isSome_options?_iff kind.plain_flagNames]
  refine ⟨read, fun asked => ?_⟩
  intro done made
  have ran : done = Program.runPlan (kind.plan landing words) tool := kind.run_word asked tool landing
  have attempted : Program.madeFor tool (kind.plan landing words) = made := by
    rw [Program.madeFor, Kind.errands_plan]
  have calls : done.calls = startedCalls made := by
    rw [ran, Program.calls_runPlan, attempted]
  have code : done.exitCode = if made.any Attempt.isFatal then 1 else 0 := by
    rw [ran, Program.exitCode_runPlan, attempted]
  refine ⟨calls, ?_, ?_, ?_, ?_⟩
  · rw [ran, Program.exitCode_runPlan_eq_zero_iff, attempted]
  · rw [code]
    cases made.any Attempt.isFatal
    · exact .inl rfl
    · exact .inr rfl
  · intro verdict other
    have overruled : other =
        Program.runPlan (kind.plan landing words) (Overruled.mk tool advice verdict) :=
      kind.run_word asked _ landing
    rw [overruled, ran]
    refine runPlan_overruled tool ?_ verdict
    rw [Kind.errands_plan]
    exact required_eq_false
  · rintro rfl passed tallies
    rw [ran] at passed
    obtain ⟨shown, out⟩ := Program.exists_closing tool _ passed
    rw [attempted] at out
    refine ⟨shown, Plan.elapsed (made.filterMap fun a => a.answer.run?), ?_⟩
    have total : Test.total (made.filterMap fun a => a.answer.run?) = Tally.together tallies :=
      total_runs made
    rw [ran, out, ← total]
    rfl

/-- The octets of a text in ASCII. -/
def asciiBytes (text : String) : Bytes := text.toList.map fun c => UInt8.ofNat c.toNat

/-- The examples fail, which is only shown, and what passed among them does not
count. -/
theorem chores_end_where_they_must_advised :
    let tool := ScriptedTool.mk
      [ ⟨0, asciiBytes "test result: ok. 12 passed; 0 failed; 1 ignored;\n", [], 40⟩,
        ⟨0, asciiBytes "test result: ok. 5 passed; 0 failed; 0 ignored;\n", [], 2⟩,
        ⟨101, asciiBytes "test result: FAILED. 7 passed; 1 failed; 0 ignored;\n", [], 0⟩ ]
    let words := ["--integration", "--unit", "--"]
    let done := Program.run tool false ("test" :: words)
    Arguments.AskFlags ["unit", "integration"] words ∧
      done.calls = [["test", "--lib", "--workspace"],
        ["test", "--workspace", "--tests", "--exclude", "xtask"], exampleCall] ∧
      done.exitCode = 0 ∧
      ∃ shown time, done.screen.out =
        shown ++ ("✓ " ++ "17 passed, 1 ignored across 2 binaries" ++ " in " ++
          Plan.seconds time ++ "s\n\n") := by
  intro tool words done
  have asked : Arguments.AskFlags ["unit", "integration"] words :=
    ⟨["integration", "unit"], by decide, by decide, .inr rfl⟩
  obtain ⟨-, ends⟩ := chores_end_where_they_must tool false .test words
  obtain ⟨calls, code, -, -, closing⟩ := ends asked
  have passed : done.exitCode = 0 := code.2 (by decide +kernel)
  obtain ⟨shown, time, out⟩ := closing rfl passed
  have described : (Tally.together
      (((upToFatal (attempts tool (Kind.test.errands words))).filterMap Attempt.passed?).map
        fun run => Tally.ofOutput (Text.readUtf8 run.out))).describe =
      "17 passed, 1 ignored across 2 binaries" := by
    decide +kernel
  rw [described] at out
  exact ⟨asked, calls.trans (by decide +kernel), passed, shown, time, out⟩

end AudioGadget.Chore
