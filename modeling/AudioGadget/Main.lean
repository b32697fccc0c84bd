import AudioGadget.Chore.Program
/-!
# Main — the command line

Shows what the program shows and exits with its code. Nothing here can
start another program, so the chores that need the build tool find it
missing; the descriptor dump needs none.
-/

namespace AudioGadget

/-- What is shown for a command line that cannot be read. -/
def usage : String :=
  "Usage: check | test [--unit] [--integration] | doc [--open] | descriptor [--rate N] " ++
    "[--channels N] [--bits N] [--first-interface N] [--first-string N]\n"

/-- Run the program without a build tool and show what it shows. -/
def runShown (args : List String) : IO UInt32 := do
  let tool : Chore.MissingTool := ⟨"No such file or directory (os error 2)"⟩
  let result := Chore.Program.run tool false args
  (← IO.getStdout).putStr result.screen.out
  (← IO.getStderr).putStr
    (if result.exitCode = Chore.Program.usageCode then usage else result.screen.err)
  return UInt32.ofNat result.exitCode

end AudioGadget

/-- Run the program. -/
def main (args : List String) : IO UInt32 :=
  AudioGadget.runShown args
