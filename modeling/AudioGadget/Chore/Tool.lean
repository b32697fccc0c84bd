import AudioGadget.Bytes
/-!
# Tool — the build tool that chores call on

A chore asks the build tool to run with some arguments. Either the tool
runs to its end, or it cannot be started at all. Chores know the tool
only by these answers.
-/

namespace AudioGadget.Chore

/-- A run of the build tool that came to its end. -/
structure ToolRun where
  exitCode : Nat
  out : Bytes
  err : Bytes
  /-- How long it took, in milliseconds. -/
  elapsed : Nat
deriving DecidableEq, Repr

/-- Whether a run reports success. -/
def ToolRun.succeeded (r : ToolRun) : Bool :=
  r.exitCode = 0

/-- What comes of asking the tool to run. -/
inductive Launch where
  | ran (run : ToolRun)
  /-- The tool could not be started, and why. -/
  | notStarted (reason : String)
deriving DecidableEq, Repr

/-- A build tool, with state `τ`. -/
class BuildTool (τ : Type) where
  launch : τ → List String → Launch × τ

/-- A tool that is not there. -/
structure MissingTool where
  reason : String

instance : BuildTool MissingTool where
  launch tool _ := (.notStarted tool.reason, tool)

/-- A tool whose runs are known beforehand. Beyond the last of them every
run succeeds and says nothing. -/
structure ScriptedTool where
  runs : List ToolRun

instance : BuildTool ScriptedTool where
  launch tool _ :=
    match tool.runs with
    | [] => (.ran ⟨0, [], [], 0⟩, tool)
    | run :: rest => (.ran run, ⟨rest⟩)

end AudioGadget.Chore
