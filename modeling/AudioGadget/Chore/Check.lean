import AudioGadget.Chore.Plan
/-!
# Check — does everything build, and is it tidy

Every library package is built for the device, then the driver with each
of its logging choices. These must succeed. The lints and the formatting
come last and are advice.
-/

namespace AudioGadget.Chore.Check

/-- The packages that must build for the device. -/
def devicePackages : List String := ["platform", "usb-audio", "playback"]

/-- The device's build target. -/
def deviceTarget : String := "thumbv7em-none-eabihf"

/-- A build that must succeed. -/
def build (label : String) (args : List String) : Stage where
  args := args
  required := true
  opening := s!"  Checking {label}...\n"
  onSuccess run := .say s!"  ✓ {label} passed in {Plan.seconds run.elapsed}s\n\n"
  onFailure run := .complain s!"  ✗ {label} failed\n\n{Plan.streamText run.err}\n"
  failure := s!"{label} check failed"
  startFailure := s!"Failed to check {label}"

/-- Build one package for the device. -/
def deviceBuild (package : String) : Stage :=
  build s!"{package} (no_std, {deviceTarget})"
    ["check", "-p", package, "--target", deviceTarget, "--no-default-features"]

/-- The driver, with each of its logging choices. -/
def loggingBuilds : List Stage :=
  [ build "usb-audio without logging (host)" ["check", "-p", "usb-audio"],
    build "usb-audio with defmt logging"
      ["check", "-p", "usb-audio", "--target", deviceTarget, "--features", "defmt"],
    build "usb-audio with tracing logging (host)"
      ["check", "-p", "usb-audio", "--features", "tracing,std"] ]

/-- The lints. -/
def lints : Stage where
  args := ["clippy", "--workspace", "--all-targets", "--", "-D", "warnings"]
  required := false
  opening := "  Running clippy lints...\n"
  onSuccess run := .say s!"  ✓ Clippy passed in {Plan.seconds run.elapsed}s\n\n"
  onFailure run := ⟨"\n", s!"  ⚠ Clippy warnings found\n\n{Plan.streamText run.err}\n"⟩
  failure := "clippy failed"
  startFailure := "Failed to run clippy"

/-- The formatting. -/
def formatting : Stage where
  args := ["fmt", "--all", "--check"]
  required := false
  opening := "  Checking code formatting...\n"
  onSuccess _ := .say "  ✓ Formatting check passed\n\n"
  onFailure _ := ⟨"\n", "  ⚠ Formatting issues found\n     Run 'cargo fmt --all' to fix\n"⟩
  failure := "formatting failed"
  startFailure := "Failed to run cargo fmt"

/-- **Build everything, then give advice.** -/
def plan : Plan where
  heading := "\n🔍 Checking USB audio crates...\n\n"
  stages := devicePackages.map deviceBuild ++ loggingBuilds ++ [lints, formatting]
  closing runs := s!"✓ All checks completed in {Plan.seconds (Plan.elapsed runs)}s\n\n"

end AudioGadget.Chore.Check
