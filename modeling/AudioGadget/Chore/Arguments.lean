import AudioGadget.Inspect.Dump
import AudioGadget.Text.Decimal
import AudioGadget.Text.Split
/-!
# Arguments — the command line

A command is a word and its options. An option is written `--name`, with
a value behind it where it takes one: `--name value` or `--name=value`.
No option may come twice, a value in a word of its own may not look like
an option, and nothing else may stand on the line; a last `--` closes it.
-/

namespace AudioGadget.Chore

/-- What the command line asks for. -/
inductive Command where
  | check
  | test (unitOnly integrationOnly : Bool)
  | doc (openResult : Bool)
  | descriptor (options : DumpOptions)
deriving DecidableEq, Repr

namespace Arguments

/-- An option as it may be given. -/
structure OptionSpec where
  name : String
  takesValue : Bool
deriving DecidableEq, Repr

/-- An option as it was given. -/
structure Given where
  name : String
  value : Option String
deriving DecidableEq, Repr

/-- A word as an option: its name and the value behind an equals sign. -/
def optionWord? (word : String) : Option Given :=
  match word.toList with
  | '-' :: '-' :: rest =>
    match Text.split '=' rest with
    | [name] => some ⟨String.ofList name, none⟩
    | name :: pieces =>
      some ⟨String.ofList name, some (String.ofList (['='].intercalate pieces))⟩
    | [] => none
  | _ => none

/-- Whether a word looks like an option, so that it cannot be a value. -/
def looksLikeOption (word : String) : Bool :=
  word.toList.head? = some '-'

/-- What a word asks for, if it is one of the options: an option complete in
itself, or one whose value is the next word. -/
inductive OptionStart where
  | complete (given : Given)
  | awaiting (name : String)
deriving DecidableEq, Repr

/-- Read a word as one of the options. -/
def start? (specs : List OptionSpec) (word : String) : Option OptionStart := do
  let given ← optionWord? word
  let spec ← specs.find? fun spec => spec.name = given.name
  match spec.takesValue, given.value with
  | false, none => return .complete given
  | false, some _ => none
  | true, some _ => return .complete given
  | true, none => return .awaiting given.name

/-- Read the words behind a command, whatever comes twice. -/
def scan? (specs : List OptionSpec) : List String → Option (List Given)
  | [] => some []
  | word :: rest =>
    if word = "--" then
      if rest.isEmpty then some [] else none
    else
      match start? specs word, rest with
      | none, _ => none
      | some (.complete given), rest => (scan? specs rest).map fun more => given :: more
      | some (.awaiting _), [] => none
      | some (.awaiting name), value :: rest =>
        if looksLikeOption value then none
        else (scan? specs rest).map fun more => ⟨name, some value⟩ :: more
termination_by words => words.length

/-- Read the options of a command. `none` is wrong usage. -/
def options? (specs : List OptionSpec) (words : List String) : Option (List Given) := do
  let given ← scan? specs words
  if (given.map Given.name).Nodup then some given else none

/-- Whether an option was given. -/
def has (given : List Given) (name : String) : Bool :=
  given.any fun g => g.name = name

/-- The number that an option gives, if it is given: a decimal integer from
0 to `limit`. `none` is wrong usage. -/
def number? (given : List Given) (name : String) (fallback limit : Nat) : Option Nat :=
  match given.find? fun g => g.name = name with
  | none => some fallback
  | some g => do
    let i ← Text.integer? (← g.value).toList
    if 0 ≤ i ∧ i ≤ limit then some i.toNat else none

/-- The options of the dump. -/
def dumpSpecs : List OptionSpec :=
  [⟨"rate", true⟩, ⟨"channels", true⟩, ⟨"bits", true⟩, ⟨"first-interface", true⟩,
    ⟨"first-string", true⟩]

/-- Read the options of the dump. -/
def dumpOptions? (args : List String) : Option DumpOptions := do
  let given ← options? dumpSpecs args
  let d : DumpOptions := default
  let rate ← number? given "rate" d.rate 4294967295
  let channels ← number? given "channels" d.channels 255
  let bits ← number? given "bits" d.bits 255
  let firstInterface ← number? given "first-interface" d.firstInterface.toNat 255
  let firstString ← number? given "first-string" d.firstString.toNat 255
  return ⟨rate, channels, bits, UInt8.ofNat firstInterface, UInt8.ofNat firstString⟩

/-- **Read a command line.** `none` is wrong usage. -/
def command? : List String → Option Command
  | "check" :: args => do
    let _ ← options? [] args
    return .check
  | "test" :: args => do
    let given ← options? [⟨"unit", false⟩, ⟨"integration", false⟩] args
    return .test (has given "unit") (has given "integration")
  | "doc" :: args => do
    let given ← options? [⟨"open", false⟩] args
    return .doc (has given "open")
  | "descriptor" :: args => do
    return .descriptor (← dumpOptions? args)
  | _ => none

end Arguments

end AudioGadget.Chore
