import AudioGadget.Chore.Plan
/-!
# Doc — the documentation of the library packages

All packages are documented together; on request the driver's page is
then opened. The build tool takes features only of packages that it was
told to select, so features and packages come from one list.
-/

namespace AudioGadget.Chore.Doc

/-- A package and the features it is documented with. -/
structure Package where
  name : String
  features : List String
deriving DecidableEq, Repr

/-- The packages with documentation worth reading. -/
def packages : List Package :=
  [⟨"platform", ["std"]⟩, ⟨"usb-audio", ["std", "tracing"]⟩, ⟨"playback", ["std"]⟩]

/-- The package whose page a reader wants first. -/
def frontPackage : String := "usb-audio"

/-- Where the first page is written. -/
def landingPage : String := "target/doc/usb_audio/index.html"

/-- **The arguments that document some packages**, and open the result if
asked to. -/
def args (packages : List Package) (openResult : Bool) : List String :=
  let selected := packages.flatMap fun p => ["-p", p.name]
  let features := packages.flatMap fun p => p.features.map fun f => p.name ++ "/" ++ f
  ["doc", "--no-deps"] ++ selected ++
    (if features.isEmpty then [] else ["--features", ",".intercalate features]) ++
    (if openResult then ["--open"] else [])

/-- A documentation run. -/
def stage (args : List String) (onSuccess : ToolRun → Screen) : Stage where
  args := args
  required := true
  opening := ""
  onSuccess := onSuccess
  onFailure run := .complain s!"  ✗ cargo doc failed\n\n{Plan.streamText run.err}\n"
  failure := "Documentation build failed"
  startFailure := "Failed to run cargo doc"

/-- Document every package. -/
def documentAll : Stage :=
  stage (args packages false) fun run =>
    let names := ", ".intercalate (packages.map Package.name)
    .say s!"  ✓ {names} documented in {Plan.seconds run.elapsed}s\n"

/-- Open the driver's page. -/
def openFront : Stage :=
  stage (args (packages.filter fun p => p.name = frontPackage) true) fun _ => .blank

/-- Where to start reading. -/
def hint : String :=
  s!"   Start at {landingPage}\n   Or run 'cargo xtask doc --open'\n"

/-- Document, and open the driver's page or say where it is. -/
def plan (openResult landingExists : Bool) : Plan where
  heading := "\n📚 Documenting USB audio crates...\n\n"
  stages := documentAll :: if openResult then [openFront] else []
  closing _ := (if !openResult && landingExists then hint else "") ++ "\n"

end AudioGadget.Chore.Doc
