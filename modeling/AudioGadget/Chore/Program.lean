import AudioGadget.Chore.Arguments
import AudioGadget.Chore.Check
import AudioGadget.Chore.Doc
import AudioGadget.Chore.Test
/-!
# Program — from a command line to what is shown

The program reads its command line, carries the command out with a build
tool, and ends with an exit code: 0 if all went well, 1 if something
failed, 2 for a command line it cannot read. A failure is the last thing
shown. What a gadget logs while it is dumped is not counted as shown, be it
on the same screen: it comes and goes with the filter of the log.
-/

namespace AudioGadget.Chore

/-- What a run of the program leaves behind. -/
structure ProgramRun where
  exitCode : Nat
  /-- The arguments of every run of the build tool that was started. -/
  calls : List (List String)
  screen : Screen
deriving DecidableEq, Repr

namespace Program

/-- The exit code for a command line that cannot be read. -/
def usageCode : Nat := 2

/-- Show a failure last, and let it decide the exit code. -/
def finish (calls : List (List String)) (screen : Screen) : Option Failure → ProgramRun
  | none => ⟨0, calls, screen⟩
  | some failure => ⟨1, calls, screen.andThen (.complain failure.render)⟩

/-- Carry out a plan. -/
def runPlan {τ : Type} [BuildTool τ] (plan : Plan) (tool : τ) : ProgramRun :=
  let outcome := plan.perform tool
  finish outcome.calls outcome.screen outcome.failure

/-- Carry out a command. Of a dump the screen has the text alone, without the
lines of a log in front of it. -/
def runCommand {τ : Type} [BuildTool τ] (tool : τ) (landingExists : Bool) :
    Command → ProgramRun
  | .check => runPlan Check.plan tool
  | .test unitOnly integrationOnly => runPlan (Test.plan unitOnly integrationOnly) tool
  | .doc openResult => runPlan (Doc.plan openResult landingExists) tool
  | .descriptor options =>
    match Dump.ofOptions options with
    | .ok dump => finish [] (.say (dump.render options)) none
    | .error why => finish [] .blank (some ⟨why.message, none⟩)

/-- **Run the program on a command line.** -/
def run {τ : Type} [BuildTool τ] (tool : τ) (landingExists : Bool) (args : List String) :
    ProgramRun :=
  match Arguments.command? args with
  | none => ⟨usageCode, [], .blank⟩
  | some command => runCommand tool landingExists command

end Program

end AudioGadget.Chore
