import AudioGadget.Chore.Arguments
/-!
# Flags — options that are given by their name alone

A command that knows nothing but flags is asked for by words that give
some of its flags, in any order but none of them twice; a last `--` may
close them (`isSome_options?_iff`). Which flags were given can be read
off the words themselves (`has_eq_of_options?`).
-/

namespace AudioGadget.Chore.Arguments

open Text

/-- A flag as a word. -/
def flagWord (name : String) : String := "--" ++ name

/-- Options that take no value. -/
def flags (names : List String) : List OptionSpec := names.map fun name => ⟨name, false⟩

/-- A flag as it is given. -/
def givenFlag (name : String) : Given := ⟨name, none⟩

/-- No name is empty, as its word would close the line, and none holds an equals
sign, as a value would seem to follow. -/
def Plain (names : List String) : Prop := ∀ name ∈ names, name ≠ "" ∧ '=' ∉ name.toList

/-- Words that give flags one by one; a last `--` may close them. -/
def Gives (words asked : List String) : Prop :=
  words = asked.map flagWord ∨ words = asked.map flagWord ++ ["--"]

/-- **Words that ask for flags**: for known ones, and for none of them twice. -/
def AskFlags (names words : List String) : Prop :=
  ∃ asked : List String, asked.Nodup ∧ asked ⊆ names ∧ Gives words asked

/-! ## One word -/

theorem toList_flagWord (name : String) : (flagWord name).toList = '-' :: '-' :: name.toList := by
  rw [flagWord, String.toList_append]
  rfl

theorem flagWord_inj {a b : String} : flagWord a = flagWord b ↔ a = b :=
  String.append_right_inj _

theorem flagWord_ne_close {name : String} (named : name ≠ "") : flagWord name ≠ "--" := by
  intro same
  have bare : flagWord name = flagWord "" := same.trans (String.append_empty (s := "--")).symm
  exact named (flagWord_inj.1 bare)

/-- **The word of a flag gives it**, and nothing else does. -/
theorem optionWord?_eq_some_iff {word name : String} (plain : '=' ∉ name.toList) :
    optionWord? word = some (givenFlag name) ↔ word = flagWord name := by
  constructor
  · intro read
    unfold optionWord? at read
    split at read
    · next rest dashes =>
      split at read
      · next piece cut =>
        have whole : piece = rest := by
          rw [← intercalate_split '=' rest, cut, List.intercalate_singleton]
        obtain rfl : String.ofList piece = name := congrArg Given.name (Option.some.inj read)
        rw [← String.toList_inj, dashes, toList_flagWord, String.toList_ofList, whole]
      · cases congrArg Given.value (Option.some.inj read)
      · cases read
    · cases read
  · rintro rfl
    have whole : split '=' name.toList = [name.toList] := by
      rw [split_eq_splitOn, List.splitOn_eq_singleton plain]
    rw [optionWord?, toList_flagWord]
    simp only [whole, String.ofList_toList, givenFlag]

/-- A flag is known by its name. -/
theorem find?_flags {names : List String} {name : String} {spec : OptionSpec} :
    (flags names).find? (fun spec => spec.name = name) = some spec ↔
      name ∈ names ∧ spec = ⟨name, false⟩ := by
  induction names with
  | nil => simp [flags]
  | cons first rest ih =>
    by_cases same : first = name
    · simp [flags, same, eq_comm]
    · have other : name ≠ first := fun equal => same equal.symm
      simpa [flags, same, other] using ih

/-- **A word of a command with flags** is the word of one of them. -/
theorem start?_eq_some_iff {names : List String} (plain : Plain names) {word : String}
    {start : OptionStart} :
    start? (flags names) word = some start ↔
      ∃ name ∈ names, word = flagWord name ∧ start = .complete (givenFlag name) := by
  unfold start?
  simp only [Option.bind_eq_bind, Option.bind_eq_some_iff]
  constructor
  · rintro ⟨⟨name, value⟩, read, spec, found, complete⟩
    obtain ⟨known, rfl⟩ := find?_flags.1 found
    cases value with
    | none =>
      exact ⟨name, known, (optionWord?_eq_some_iff (plain name known).2).1 read,
        (Option.some.inj complete).symm⟩
    | some value => cases complete
  · rintro ⟨name, known, rfl, rfl⟩
    exact ⟨givenFlag name, (optionWord?_eq_some_iff (plain name known).2).2 rfl, ⟨name, false⟩,
      find?_flags.2 ⟨known, rfl⟩, rfl⟩

/-! ## All words -/

variable {names words : List String} {given : List Given}

/-- A first word that is an option by itself is given, and so is what follows. -/
theorem scan?_complete {specs : List OptionSpec} {word : String} {first : Given}
    (started : start? specs word = some (.complete first)) (unclosed : word ≠ "--")
    (rest : List String) :
    scan? specs (word :: rest) = (scan? specs rest).map fun more => first :: more := by
  rw [scan?.eq_def]
  simp only [if_neg unclosed, started]

/-- What is read are flags that the words give. -/
theorem exists_gives_of_scan? (plain : Plain names) (read : scan? (flags names) words = some given) :
    ∃ asked, asked ⊆ names ∧ Gives words asked ∧ given = asked.map givenFlag := by
  induction words generalizing given with
  | nil =>
    rw [scan?] at read
    exact ⟨[], List.nil_subset _, .inl rfl, (Option.some.inj read).symm⟩
  | cons word rest ih =>
    by_cases close : word = "--"
    · -- what closes the line has to be its last word
      rw [scan?.eq_def] at read
      simp only [if_pos close] at read
      cases rest with
      | nil =>
        exact ⟨[], List.nil_subset _, .inr (congrArg (· :: []) close), (Option.some.inj read).symm⟩
      | cons next rest => cases read
    · cases started : start? (flags names) word with
      | none =>
        rw [scan?.eq_def] at read
        simp only [if_neg close, started, reduceCtorEq] at read
      | some start =>
        obtain ⟨name, known, rfl, rfl⟩ := (start?_eq_some_iff plain).1 started
        rw [scan?_complete started close, Option.map_eq_some_iff] at read
        obtain ⟨more, later, rfl⟩ := read
        obtain ⟨asked, among, gives, rfl⟩ := ih later
        refine ⟨name :: asked, List.cons_subset.2 ⟨known, among⟩, ?_, rfl⟩
        rcases gives with rfl | rfl
        · exact .inl rfl
        · exact .inr rfl

/-- And flags that are given are read. -/
theorem scan?_of_gives (plain : Plain names) {asked : List String} (among : asked ⊆ names)
    (gives : Gives words asked) : scan? (flags names) words = some (asked.map givenFlag) := by
  induction asked generalizing words with
  | nil =>
    rw [scan?.eq_def]
    rcases gives with rfl | rfl <;> rfl
  | cons name rest ih =>
    obtain ⟨known, among⟩ := List.cons_subset.1 among
    have started := (start?_eq_some_iff plain).2 ⟨name, known, rfl, rfl⟩
    have word := scan?_complete started (flagWord_ne_close (plain name known).1)
    rcases gives with rfl | rfl
    · rw [List.map_cons, word, ih among (.inl rfl)]
      rfl
    · rw [List.map_cons, List.cons_append, word, ih among (.inr rfl)]
      rfl

theorem map_name_givenFlag (asked : List String) :
    (asked.map givenFlag).map Given.name = asked := by
  rw [List.map_map]
  exact List.map_id asked

/-- **The flags of a command line.** -/
theorem options?_eq_some_iff (plain : Plain names) :
    options? (flags names) words = some given ↔
      ∃ asked : List String, asked.Nodup ∧ asked ⊆ names ∧ Gives words asked ∧
        given = asked.map givenFlag := by
  unfold options?
  simp only [Option.bind_eq_bind, Option.bind_eq_some_iff, Option.ite_none_right_eq_some]
  constructor
  · rintro ⟨read, scanned, once, same⟩
    obtain rfl : read = given := Option.some.inj same
    obtain ⟨asked, among, gives, rfl⟩ := exists_gives_of_scan? plain scanned
    exact ⟨asked, map_name_givenFlag asked ▸ once, among, gives, rfl⟩
  · rintro ⟨asked, once, among, gives, rfl⟩
    exact ⟨_, scan?_of_gives plain among gives, (map_name_givenFlag asked).symm ▸ once, rfl⟩

/-- **Which words are read.** -/
theorem isSome_options?_iff (plain : Plain names) :
    (options? (flags names) words).isSome ↔ AskFlags names words := by
  rw [Option.isSome_iff_exists]
  constructor
  · rintro ⟨given, read⟩
    obtain ⟨asked, once, among, gives, -⟩ := (options?_eq_some_iff plain).1 read
    exact ⟨asked, once, among, gives⟩
  · rintro ⟨asked, once, among, gives⟩
    exact ⟨_, (options?_eq_some_iff plain).2 ⟨asked, once, among, gives, rfl⟩⟩

/-- **A flag is given if its word is there.** -/
theorem has_eq_of_options? (plain : Plain names) (read : options? (flags names) words = some given)
    {name : String} (named : name ≠ "") : has given name = decide (flagWord name ∈ words) := by
  obtain ⟨asked, -, -, gives, rfl⟩ := (options?_eq_some_iff plain).1 read
  have among : flagWord name ∈ asked.map flagWord ↔ name ∈ asked := by
    rw [List.mem_map]
    constructor
    · rintro ⟨other, inside, same⟩
      exact flagWord_inj.1 same ▸ inside
    · intro inside
      exact ⟨name, inside, rfl⟩
  have here : flagWord name ∈ words ↔ name ∈ asked := by
    rcases gives with rfl | rfl
    · exact among
    · rw [List.mem_append, List.mem_singleton, or_iff_left (flagWord_ne_close named), among]
  rw [Bool.eq_iff_iff, decide_eq_true_iff, here, has, List.any_map, List.any_eq_true]
  constructor
  · rintro ⟨other, inside, same⟩
    exact of_decide_eq_true same ▸ inside
  · intro inside
    exact ⟨name, inside, decide_eq_true rfl⟩

end AudioGadget.Chore.Arguments
