import Mathlib.Data.List.Forall2
import AudioGadget.Chore.Program
/-!
# Performance — where a plan ends

A plan sends the build tool on errands. What the tool would answer if it
were sent on all of them (`attempts`) says where the chore ends: with the
first attempt that is fatal (`upToFatal`). What is called, which runs are
kept and whether the chore fails are read off the attempts up to there
(`follows_performStages`), and so are the calls and the exit code of the
program (`calls_runPlan`, `exitCode_runPlan`).

What comes of an errand that is not required decides none of this: with
anything else in its place the calls and the exit code are the same
(`runPlan_overruled`).
-/

namespace AudioGadget.Chore

/-- What the tool is sent to do, and whether the chore ends if it fails. -/
structure Errand where
  args : List String
  required : Bool
deriving DecidableEq, Repr

/-- The errand of a stage. -/
def Stage.errand (stage : Stage) : Errand := ⟨stage.args, stage.required⟩

/-- The run that came to its end, if the tool could be started. -/
def Launch.run? : Launch → Option ToolRun
  | ran run => some run
  | notStarted _ => none

/-- An errand, and what the tool answered. -/
structure Attempt where
  errand : Errand
  answer : Launch
deriving DecidableEq, Repr

namespace Attempt

/-- Whether the tool could be started. -/
def started (a : Attempt) : Bool := a.answer.run?.isSome

/-- The run, if it reports success. -/
def passed? (a : Attempt) : Option ToolRun := a.answer.run?.filter ToolRun.succeeded

/-- Whether there is a run that reports success. -/
def succeeded (a : Attempt) : Bool := a.passed?.isSome

/-- **Whether a chore ends with an attempt**: the tool could not be started, or
it failed in an errand that is required. -/
def isFatal (a : Attempt) : Bool := !a.started || (a.errand.required && !a.succeeded)

theorem isFatal_ran (errand : Errand) (run : ToolRun) :
    isFatal ⟨errand, .ran run⟩ = (errand.required && !run.succeeded) := by
  have succeeded : succeeded ⟨errand, .ran run⟩ = run.succeeded := by
    show (Option.filter ToolRun.succeeded (some run)).isSome = run.succeeded
    cases passed : run.succeeded <;> simp [Option.filter, passed]
  rw [isFatal, succeeded]
  rfl

theorem isFatal_eq_false_iff {a : Attempt} :
    a.isFatal = false ↔ a.started = true ∧ (a.errand.required = true → a.succeeded = true) := by
  unfold isFatal
  cases a.started <;> cases a.errand.required <;> cases a.succeeded <;> decide

end Attempt

section Attempts

variable {τ : Type} [BuildTool τ]

/-- **What comes of errands**, one after the other, each made whatever came of
those before it. -/
def attempts (tool : τ) : List Errand → List Attempt
  | [] => []
  | errand :: rest =>
    let (answer, tool) := BuildTool.launch tool errand.args
    ⟨errand, answer⟩ :: attempts tool rest

end Attempts

/-- **The attempts that are made**: those up to the first that is fatal, and that
one too. -/
def upToFatal (attempts : List Attempt) : List Attempt :=
  attempts.take (attempts.findIdx Attempt.isFatal + 1)

/-- The arguments of the runs that could be started. -/
def startedCalls (made : List Attempt) : List (List String) :=
  (made.filter Attempt.started).map fun a => a.errand.args

theorem upToFatal_cons (a : Attempt) (rest : List Attempt) :
    upToFatal (a :: rest) = a :: if a.isFatal then [] else upToFatal rest := by
  rw [upToFatal, List.take_succ_cons, List.findIdx_cons]
  cases a.isFatal <;> rfl

/-! ## A plan is carried out up to there -/

/-- **What an outcome has to do with the attempts that were made**: they are called,
their runs are kept, and it fails if one of them is fatal. -/
structure Outcome.Follows (outcome : Outcome) (made : List Attempt) : Prop where
  calls : outcome.calls = startedCalls made
  runs : outcome.runs = made.filterMap fun a => a.answer.run?
  failure : outcome.failure.isSome = made.any Attempt.isFatal

namespace Plan

/-- A run that does not end the chore stands in front of what follows. -/
theorem Outcome.follows_after {later : Outcome} {made : List Attempt} (follows : later.Follows made)
    {stage : Stage} {run : ToolRun} (survived : Attempt.isFatal ⟨stage.errand, .ran run⟩ = false)
    (shown : Screen) :
    (Outcome.after stage run shown later).Follows (⟨stage.errand, .ran run⟩ :: made) where
  calls := congrArg (stage.args :: ·) follows.calls
  runs := congrArg (run :: ·) follows.runs
  failure := by
    rw [List.any_cons, survived, Bool.false_or]
    exact follows.failure

variable {τ : Type} [BuildTool τ]

/-- **Stages are carried out up to the first attempt that is fatal.** -/
theorem follows_performStages (tool : τ) (stages : List Stage) :
    (performStages tool stages).Follows (upToFatal (attempts tool (stages.map Stage.errand))) := by
  induction stages generalizing tool with
  | nil => exact ⟨rfl, rfl, rfl⟩
  | cons stage rest ih =>
    rw [List.map_cons, attempts, performStages, show stage.errand.args = stage.args from rfl]
    obtain ⟨answer, next⟩ := BuildTool.launch tool stage.args
    cases answer with
    | notStarted reason => exact ⟨rfl, rfl, rfl⟩
    | ran run =>
      have fatal := Attempt.isFatal_ran stage.errand run
      have later := ih next
      dsimp only
      rw [upToFatal_cons]
      cases passed : run.succeeded with
      | true =>
        have survived : Attempt.isFatal ⟨stage.errand, .ran run⟩ = false := by
          rw [fatal, passed, Bool.not_true, Bool.and_false]
        rw [if_pos rfl, survived]
        exact Outcome.follows_after later survived _
      | false =>
        rw [if_neg Bool.false_ne_true]
        rw [passed, Bool.not_false, Bool.and_true] at fatal
        cases required : stage.required with
        | true =>
          -- nothing follows a run that fails and was required
          rw [if_pos rfl, fatal.trans required]
          refine ⟨rfl, rfl, ?_⟩
          rw [if_pos rfl, List.any_cons, fatal.trans required]
          rfl
        | false =>
          rw [if_neg Bool.false_ne_true, fatal.trans required]
          exact Outcome.follows_after later (fatal.trans required) _

end Plan

namespace Program

variable {τ : Type} [BuildTool τ] (tool : τ) (plan : Plan)

/-- The attempts that the program makes for a plan. -/
def madeFor : List Attempt := upToFatal (attempts tool (plan.stages.map Stage.errand))

/-- **The program starts what is attempted.** -/
theorem calls_runPlan : (runPlan plan tool).calls = startedCalls (madeFor tool plan) := by
  have follows := Plan.follows_performStages tool plan.stages
  rw [runPlan, Plan.perform]
  cases failed : (Plan.performStages tool plan.stages).failure with
  | none => exact follows.calls
  | some why => exact follows.calls

/-- **It fails if an attempt is fatal.** -/
theorem exitCode_runPlan :
    (runPlan plan tool).exitCode = if (madeFor tool plan).any Attempt.isFatal then 1 else 0 := by
  have follows := Plan.follows_performStages tool plan.stages
  rw [madeFor, ← follows.failure, runPlan, Plan.perform]
  cases failed : (Plan.performStages tool plan.stages).failure with
  | none => rfl
  | some why => rfl

/-- **It ends with 0 if a chore survives every attempt.** -/
theorem exitCode_runPlan_eq_zero_iff :
    (runPlan plan tool).exitCode = 0 ↔
      ∀ a ∈ madeFor tool plan, a.started ∧ (a.errand.required → a.succeeded) := by
  have survived : (madeFor tool plan).any Attempt.isFatal = false ↔
      ∀ a ∈ madeFor tool plan, a.started ∧ (a.errand.required → a.succeeded) := by
    rw [List.any_eq_false]
    refine forall₂_congr fun a _ => ?_
    rw [Bool.not_eq_true, Attempt.isFatal_eq_false_iff]
  rw [exitCode_runPlan, ← survived]
  cases (madeFor tool plan).any Attempt.isFatal <;> decide

/-- **If it ends with 0, the closing is the last that is shown.** -/
theorem exists_closing (passed : (runPlan plan tool).exitCode = 0) :
    ∃ shown, (runPlan plan tool).screen.out =
      shown ++ plan.closing ((madeFor tool plan).filterMap fun a => a.answer.run?) := by
  have follows := Plan.follows_performStages tool plan.stages
  rw [runPlan, Plan.perform] at passed ⊢
  cases failed : (Plan.performStages tool plan.stages).failure with
  | some why =>
    rw [failed] at passed
    cases passed
  | none =>
    rw [madeFor, ← follows.runs]
    exact ⟨_, rfl⟩

end Program

/-! ## Overruled answers -/

/-- Two attempts that a chore cannot tell apart, whatever was answered. -/
structure SameFate (a b : Attempt) : Prop where
  errand : a.errand = b.errand
  started : a.started = b.started
  isFatal : a.isFatal = b.isFatal

/-- **A chore goes the same way** through attempts that it cannot tell apart. -/
theorem SameFate.upToFatal {as bs : List Attempt} (same : List.Forall₂ SameFate as bs) :
    List.Forall₂ SameFate (upToFatal as) (upToFatal bs) := by
  induction same with
  | nil => exact .nil
  | cons first later ih =>
    rw [upToFatal_cons, upToFatal_cons, first.isFatal]
    refine .cons first ?_
    split
    · exact .nil
    · exact ih

/-- And so it starts the same calls. -/
theorem SameFate.startedCalls {as bs : List Attempt} (same : List.Forall₂ SameFate as bs) :
    startedCalls as = startedCalls bs := by
  induction same with
  | nil => rfl
  | @cons a b as bs first later ih =>
    unfold Chore.startedCalls at ih ⊢
    rw [List.filter_cons, List.filter_cons, first.started]
    cases b.started with
    | false => exact ih
    | true =>
      show a.errand.args :: _ = b.errand.args :: _
      rw [first.errand]
      exact congrArg _ ih

/-- And fails or not. -/
theorem SameFate.any_isFatal {as bs : List Attempt} (same : List.Forall₂ SameFate as bs) :
    as.any Attempt.isFatal = bs.any Attempt.isFatal := by
  induction same with
  | nil => rfl
  | cons first later ih => rw [List.any_cons, List.any_cons, first.isFatal, ih]

/-- The answer with another run in place of the one that came to its end. -/
def Launch.overrule (verdict : ToolRun) : Launch → Launch
  | ran _ => ran verdict
  | notStarted reason => notStarted reason

/-- An errand that is not required only needs a tool that can be started. -/
theorem sameFate_overrule {errand : Errand} (advisory : errand.required = false)
    (answer : Launch) (verdict : ToolRun) :
    SameFate ⟨errand, answer.overrule verdict⟩ ⟨errand, answer⟩ := by
  have fate (answer : Launch) :
      Attempt.isFatal ⟨errand, answer⟩ = !Attempt.started ⟨errand, answer⟩ := by
    rw [Attempt.isFatal, advisory, Bool.false_and, Bool.or_false]
  have started : Attempt.started ⟨errand, answer.overrule verdict⟩ =
      Attempt.started ⟨errand, answer⟩ := by
    cases answer <;> rfl
  exact ⟨rfl, started, by rw [fate, fate, started]⟩

/-- **A tool that is overruled in some calls**: it can be started when the tool
can, but what it then comes to is decided elsewhere. -/
structure Overruled (τ : Type) where
  tool : τ
  calls : List (List String)
  verdict : List String → ToolRun

instance {τ : Type} [BuildTool τ] : BuildTool (Overruled τ) where
  launch overruled args :=
    let (answer, tool) := BuildTool.launch overruled.tool args
    (if args ∈ overruled.calls then answer.overrule (overruled.verdict args) else answer,
      { overruled with tool })

section Overruled

variable {τ : Type} [BuildTool τ] (tool : τ) {calls : List (List String)}

/-- No chore can tell whether errands that are not required were overruled. -/
theorem sameFate_overruled {errands : List Errand}
    (advisory : ∀ e ∈ errands, e.args ∈ calls → e.required = false)
    (verdict : List String → ToolRun) :
    List.Forall₂ SameFate (attempts (Overruled.mk tool calls verdict) errands)
      (attempts tool errands) := by
  induction errands generalizing tool with
  | nil => exact .nil
  | cons errand rest ih =>
    obtain ⟨first, others⟩ := List.forall_mem_cons.1 advisory
    refine .cons ?_ (ih _ others)
    by_cases among : errand.args ∈ calls
    · rw [if_pos among]
      exact sameFate_overrule (first among) _ _
    · rw [if_neg among]
      exact ⟨rfl, rfl, rfl⟩

/-- **What is not required decides nothing**: whatever it may come to, the
program makes the same calls and ends with the same code. -/
theorem runPlan_overruled {plan : Plan}
    (advisory : ∀ e ∈ plan.stages.map Stage.errand, e.args ∈ calls → e.required = false)
    (verdict : List String → ToolRun) :
    (Program.runPlan plan (Overruled.mk tool calls verdict)).calls =
        (Program.runPlan plan tool).calls ∧
      (Program.runPlan plan (Overruled.mk tool calls verdict)).exitCode =
        (Program.runPlan plan tool).exitCode := by
  have same : List.Forall₂ SameFate (Program.madeFor (Overruled.mk tool calls verdict) plan)
      (Program.madeFor tool plan) := SameFate.upToFatal (sameFate_overruled tool advisory verdict)
  rw [Program.calls_runPlan, Program.calls_runPlan, Program.exitCode_runPlan,
    Program.exitCode_runPlan, SameFate.startedCalls same, SameFate.any_isFatal same]
  exact ⟨rfl, rfl⟩

end Overruled

end AudioGadget.Chore
