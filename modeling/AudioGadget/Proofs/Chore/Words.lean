import AudioGadget.Chore.Arguments
import AudioGadget.Proofs.Text.Printed
/-!
# Words — five numbers ask for a dump

Any options of a dump can be asked for, each number in a word behind its
name (`command?_dumpWords`): a printed number does not look like an
option, so it is a value, and it is read back as the number.
-/

namespace AudioGadget.Chore.Arguments

open Text

/-- The options of a dump, as they are given. -/
def dumpGiven (o : DumpOptions) : List Given :=
  [ ⟨"rate", some (toString o.rate)⟩, ⟨"channels", some (toString o.channels)⟩,
    ⟨"bits", some (toString o.bits)⟩,
    ⟨"first-interface", some (toString o.firstInterface.toNat)⟩,
    ⟨"first-string", some (toString o.firstString.toNat)⟩ ]

/-- **The words that ask for a dump.** -/
def dumpWords (o : DumpOptions) : List String :=
  [ "descriptor", "--rate", toString o.rate, "--channels", toString o.channels,
    "--bits", toString o.bits, "--first-interface", toString o.firstInterface.toNat,
    "--first-string", toString o.firstString.toNat ]

/-- A word that does not look like an option is the value of the one in front
of it. -/
theorem scan?_awaiting {specs : List OptionSpec} {word name value : String}
    (start : start? specs word = some (.awaiting name)) (unclosed : word ≠ "--")
    (plain : looksLikeOption value = false) (rest : List String) :
    scan? specs (word :: value :: rest) =
      (scan? specs rest).map fun more => ⟨name, some value⟩ :: more := by
  simp [scan?, unclosed, start, plain]

/-- And no number looks like an option. -/
theorem looksLikeOption_toString (n : Nat) : looksLikeOption (toString n) = false := by
  obtain ⟨c, rest, digits, -, minus⟩ := exists_cons_toString n
  rw [looksLikeOption, digits, List.head?_cons]
  exact decide_eq_false fun same => minus (Option.some.inj same)

theorem scan?_dumpWords (o : DumpOptions) :
    scan? dumpSpecs (dumpWords o).tail = some (dumpGiven o) := by
  have rate : start? dumpSpecs "--rate" = some (.awaiting "rate") := by rfl
  have channels : start? dumpSpecs "--channels" = some (.awaiting "channels") := by rfl
  have bits : start? dumpSpecs "--bits" = some (.awaiting "bits") := by rfl
  have interface : start? dumpSpecs "--first-interface" = some (.awaiting "first-interface") := by
    rfl
  have string : start? dumpSpecs "--first-string" = some (.awaiting "first-string") := by rfl
  rw [dumpWords, List.tail_cons, scan?_awaiting rate (by decide) (looksLikeOption_toString _),
    scan?_awaiting channels (by decide) (looksLikeOption_toString _),
    scan?_awaiting bits (by decide) (looksLikeOption_toString _),
    scan?_awaiting interface (by decide) (looksLikeOption_toString _),
    scan?_awaiting string (by decide) (looksLikeOption_toString _), scan?]
  rfl

/-- A number that is given is read back, if it is not too large. -/
theorem number?_of_find? {given : List Given} {name : String} {n limit : Nat}
    (found : given.find? (fun g => g.name = name) = some ⟨name, some (toString n)⟩)
    (small : n ≤ limit) (fallback : Nat) : number? given name fallback limit = some n := by
  have fits : 0 ≤ (n : Int) ∧ (n : Int) ≤ limit := ⟨Int.natCast_nonneg n, Int.ofNat_le.2 small⟩
  rw [number?, found]
  change (integer? (toString n).toList).bind _ = _
  rw [integer?_toString]
  exact if_pos fits

/-- **Every option of a dump can be asked for.** -/
theorem command?_dumpWords {o : DumpOptions} (rate : o.rate < 4294967296)
    (channels : o.channels < 256) (bits : o.bits < 256) :
    command? (dumpWords o) = some (.descriptor o) := by
  have interface := o.firstInterface.toNat_lt
  have string := o.firstString.toNat_lt
  have given : options? dumpSpecs (dumpWords o).tail = some (dumpGiven o) := by
    rw [options?, scan?_dumpWords]
    rfl
  have read : dumpOptions? (dumpWords o).tail = some o := by
    rw [dumpOptions?, given]
    simp only [Option.bind_eq_bind, Option.bind_some]
    rw [number?_of_find? (n := o.rate) rfl (by omega),
      number?_of_find? (n := o.channels) rfl (by omega),
      number?_of_find? (n := o.bits) rfl (by omega),
      number?_of_find? (n := o.firstInterface.toNat) rfl (by omega),
      number?_of_find? (n := o.firstString.toNat) rfl (by omega)]
    simp
  change (dumpOptions? (dumpWords o).tail).bind _ = _
  rw [read]
  rfl

end AudioGadget.Chore.Arguments
