import AudioGadget.Chore.Tool
import AudioGadget.Text.Utf8
/-!
# Plan — a chore as a list of tool runs

A plan is a heading, the runs of the build tool in order, and a closing.
A run that is required ends the chore when it fails; any other only says
so. `perform` carries a plan out and keeps three things: the calls that
were started, what was shown, and the failure that ended the chore, if
one did.
-/

namespace AudioGadget.Chore

/-- What a chore shows: ordinary output, and complaints. -/
structure Screen where
  out : String
  err : String
deriving DecidableEq, Repr

namespace Screen

/-- Nothing is shown. -/
def blank : Screen := ⟨"", ""⟩

/-- Ordinary output. -/
def say (text : String) : Screen := ⟨text, ""⟩

/-- A complaint. -/
def complain (text : String) : Screen := ⟨"", text⟩

/-- First one thing is shown, then another. -/
def andThen (a b : Screen) : Screen := ⟨a.out ++ b.out, a.err ++ b.err⟩

end Screen

/-- What ended a chore, and what that came from. -/
structure Failure where
  message : String
  cause : Option String
deriving DecidableEq, Repr

/-- What is shown of a failure at the very end. -/
def Failure.render (f : Failure) : String :=
  match f.cause with
  | none => s!"Error: {f.message}\n"
  | some cause => s!"Error: {f.message}\n\nCaused by:\n    {cause}\n"

/-- One run of the build tool in a plan. -/
structure Stage where
  args : List String
  /-- Whether the chore ends when this run fails. -/
  required : Bool
  /-- Shown before the run. -/
  opening : String
  /-- Shown when the run succeeded. -/
  onSuccess : ToolRun → Screen
  /-- Shown when the run failed. -/
  onFailure : ToolRun → Screen
  /-- What a chore that ends here failed with. -/
  failure : String
  /-- What a chore failed with if the tool cannot be started. -/
  startFailure : String

/-- A chore, before it is carried out. -/
structure Plan where
  heading : String
  stages : List Stage
  /-- Shown at the end, given the runs in order. -/
  closing : List ToolRun → String

/-- What became of a chore. -/
structure Outcome where
  /-- The runs that came to their end, in order. -/
  runs : List ToolRun
  /-- The arguments of every run that was started, in order. -/
  calls : List (List String)
  screen : Screen
  failure : Option Failure

namespace Plan

/-- A time in seconds, with two places. -/
def seconds (milliseconds : Nat) : String :=
  let hundredths := (milliseconds + 5) / 10
  let places := hundredths % 100
  s!"{hundredths / 100}.{places / 10}{places % 10}"

/-- How long some runs took together. -/
def elapsed (runs : List ToolRun) : Nat :=
  runs.foldl (fun total run => total + run.elapsed) 0

/-- A stream of the tool, as text. -/
def streamText (bytes : Bytes) : String :=
  String.ofList (Text.readUtf8 bytes)

/-- An outcome that follows a first run. -/
def Outcome.after (stage : Stage) (run : ToolRun) (shown : Screen) (later : Outcome) : Outcome :=
  { runs := run :: later.runs
    calls := stage.args :: later.calls
    screen := (Screen.say stage.opening).andThen (shown.andThen later.screen)
    failure := later.failure }

/-- **Carry out stages in order**, up to the first required one that fails
or the first for which the tool cannot be started. -/
def performStages {τ : Type} [BuildTool τ] (tool : τ) : List Stage → Outcome
  | [] => ⟨[], [], .blank, none⟩
  | stage :: rest =>
    match BuildTool.launch tool stage.args with
    | (.notStarted reason, _) =>
      ⟨[], [], .say stage.opening, some ⟨stage.startFailure, some reason⟩⟩
    | (.ran run, tool) =>
      if run.succeeded then
        Outcome.after stage run (stage.onSuccess run) (performStages tool rest)
      else if stage.required then
        Outcome.after stage run (stage.onFailure run)
          ⟨[], [], .blank, some ⟨stage.failure, none⟩⟩
      else
        Outcome.after stage run (stage.onFailure run) (performStages tool rest)

/-- Carry out a plan. The closing is shown only if nothing ended the
chore before. -/
def perform {τ : Type} [BuildTool τ] (plan : Plan) (tool : τ) : Outcome :=
  let outcome := performStages tool plan.stages
  let opened := (Screen.say plan.heading).andThen outcome.screen
  let screen :=
    match outcome.failure with
    | none => opened.andThen (.say (plan.closing outcome.runs))
    | some _ => opened
  { outcome with screen }

end Plan

end AudioGadget.Chore
