import AudioGadget.Inspect.Dump
import AudioGadget.Proofs.Text.Cut
import AudioGadget.Proofs.Text.Printed
/-!
# Listing — the rows of a dump are read back

A dump is a text of lines, and none of its lines holds a control
character (`IsLine`), so cutting the text finds them again
(`lines_flatMap`). Behind an empty line, the heading and another empty line
stand the rows, up to the next empty line.

A row has fixed columns. Its reader (`Entry.ofLine?`) knows these and nothing of
descriptors: it takes the place, the words and the octets from where they
stand. A place below 10000 and any words that there are fit their columns,
so a row is read as what it was made from (`ofLine?_rowLine`).
-/

namespace AudioGadget

namespace Text

/-! ## Octets -/

/-- The value of a lowercase hexadecimal digit. -/
def hexValue? (c : Char) : Option Nat :=
  if isDigit c then some (c.toNat - '0'.toNat)
  else if 'a' ≤ c ∧ c ≤ 'f' then some (10 + (c.toNat - 'a'.toNat))
  else none

/-- The octet that two digits spell. -/
def octet? : List Char → Option UInt8
  | [high, low] => do return UInt8.ofNat (16 * (← hexValue? high) + (← hexValue? low))
  | _ => none

/-- The octets of a text that has them with a space between. -/
def octets? (text : List Char) : Option Bytes :=
  (split ' ' text).mapM octet?

theorem hexValue?_hexDigit : ∀ n < 16, hexValue? (hexDigit n) = some n := by
  decide

theorem toList_hexByte (b : UInt8) :
    (hexByte b).toList = [hexDigit (b.toNat / 16), hexDigit (b.toNat % 16)] :=
  String.toList_ofList

/-- An octet is read back from its two digits. -/
theorem octet?_hexByte (b : UInt8) : octet? (hexByte b).toList = some b := by
  have bound := b.toNat_lt
  have high := hexValue?_hexDigit (b.toNat / 16) (by omega)
  have low := hexValue?_hexDigit (b.toNat % 16) (Nat.mod_lt _ (by decide))
  have whole : UInt8.ofNat (16 * (b.toNat / 16) + b.toNat % 16) = b := by
    rw [Nat.div_add_mod, UInt8.ofNat_toNat]
  rw [toList_hexByte, octet?, high, low]
  exact congrArg some whole

/-! ## Columns -/

theorem trim_replicate_append (n : Nat) (text : List Char) :
    trim (List.replicate n ' ' ++ text) = trim text := by
  induction n with
  | zero => rfl
  | succ n ih => rw [List.replicate_succ, List.cons_append, trim_cons rfl, ih]

theorem trim_append_replicate (n : Nat) (text : List Char) :
    trim (text ++ List.replicate n ' ') = trim text := by
  induction n with
  | zero => rw [List.replicate_zero, List.append_nil]
  | succ n ih => rw [List.replicate_succ', ← List.append_assoc, trim_concat rfl, ih]

theorem toList_alignRight (width : Nat) (text : String) :
    (alignRight width text).toList = List.replicate (width - text.length) ' ' ++ text.toList := by
  rw [alignRight, filler, String.toList_append, String.toList_ofList]

theorem toList_alignLeft (width : Nat) (text : String) :
    (alignLeft width text).toList = text.toList ++ List.replicate (width - text.length) ' ' := by
  rw [alignLeft, filler, String.toList_append, String.toList_ofList]

/-- A text that fits its column fills it. -/
theorem length_alignRight {width : Nat} {text : String} (fits : text.length ≤ width) :
    (alignRight width text).toList.length = width := by
  rw [toList_alignRight, List.length_append, List.length_replicate, String.length_toList]
  omega

theorem length_alignLeft {width : Nat} {text : String} (fits : text.length ≤ width) :
    (alignLeft width text).toList.length = width := by
  rw [toList_alignLeft, List.length_append, List.length_replicate, String.length_toList]
  omega

/-- **A number is read back from its column.** -/
theorem natural?_alignRight (width n : Nat) :
    natural? (trim (alignRight width (toString n)).toList) = some n := by
  have bare : trim (toString n).toList = (toString n).toList :=
    trim_eq_self (fun c first => isBlank_of_mem_toString (List.mem_of_mem_head? first))
      fun c last => isBlank_of_mem_toString (List.mem_of_getLast? last)
  rw [toList_alignRight, trim_replicate_append, bare, natural?_toString]

/-! ## Lines -/

/-- **A text without control characters**: it is one line, and ends in no
carriage return. -/
def IsLine (text : List Char) : Prop :=
  ∀ c ∈ text, 0x20 ≤ c.toNat

instance (text : List Char) : Decidable (IsLine text) :=
  List.decidableBAll (fun c : Char => 0x20 ≤ c.toNat) text

/-- **A line with its newline.** -/
def Closed (text : List Char) : Prop :=
  ∃ line, IsLine line ∧ text = line ++ ['\n']

theorem isLine_append {a b : List Char} : IsLine (a ++ b) ↔ IsLine a ∧ IsLine b :=
  List.forall_mem_append

theorem Closed.append {a b : List Char} (h : IsLine a) (closed : Closed b) : Closed (a ++ b) := by
  obtain ⟨line, more, rfl⟩ := closed
  exact ⟨a ++ line, isLine_append.2 ⟨h, more⟩, (List.append_assoc ..).symm⟩

theorem isLine_replicate (n : Nat) : IsLine (List.replicate n ' ') := by
  intro c blank
  rw [(List.mem_replicate.1 blank).2]
  decide

theorem isLine_toString (n : Nat) : IsLine (toString n).toList := by
  intro c digit
  have range := isDigit_iff.1 (isDigit_of_mem_toString digit)
  omega

theorem le_toNat_hexDigit : ∀ n < 16, 0x30 ≤ (hexDigit n).toNat := by
  decide

/-- The digits of an octet come behind the blank and all signs. -/
theorem le_toNat_of_mem_hexByte {b : UInt8} {c : Char} (h : c ∈ (hexByte b).toList) :
    0x30 ≤ c.toNat := by
  have bound := b.toNat_lt
  rw [toList_hexByte] at h
  simp only [List.mem_cons, List.not_mem_nil, or_false] at h
  rcases h with rfl | rfl
  · exact le_toNat_hexDigit _ (by omega)
  · exact le_toNat_hexDigit _ (Nat.mod_lt _ (by decide))

theorem isLine_hexByte (b : UInt8) : IsLine (hexByte b).toList :=
  fun _ digit => Nat.le_trans (by decide) (le_toNat_of_mem_hexByte digit)

theorem toList_hexRow (bytes : Bytes) :
    (hexRow bytes).toList = [' '].intercalate (bytes.map fun b => (hexByte b).toList) := by
  rw [hexRow, String.toList_intercalate, List.map_map]
  rfl

theorem isLine_hexRow (bytes : Bytes) : IsLine (hexRow bytes).toList := by
  intro c inside
  rw [toList_hexRow] at inside
  refine Nat.le_of_not_lt fun control => ?_
  have other : c ≠ ' ' := by
    rintro rfl
    exact absurd control (by decide)
  refine not_mem_intercalate other (fun digits mem digit => ?_) inside
  obtain ⟨b, -, rfl⟩ := List.mem_map.1 mem
  exact Nat.not_lt.2 (isLine_hexByte b c digit) control

/-- **Octets are read back from their row.** -/
theorem octets?_hexRow {bytes : Bytes} (filled : bytes ≠ []) :
    octets? (hexRow bytes).toList = some bytes := by
  have apart : ∀ digits ∈ bytes.map fun b => (hexByte b).toList, ' ' ∉ digits := by
    intro digits mem blank
    obtain ⟨b, -, rfl⟩ := List.mem_map.1 mem
    exact absurd (le_toNat_of_mem_hexByte blank) (by decide)
  rw [octets?, split_eq_splitOn, toList_hexRow, List.splitOn_intercalate ' ' apart (by simpa)]
  clear filled apart
  induction bytes with
  | nil => rfl
  | cons b bytes ih => rw [List.map_cons, List.mapM_cons, octet?_hexByte, ih]; rfl

/-- **Lines, each with its newline, are found again.** -/
theorem lines_flatMap {text : List (List Char)} (h : ∀ line ∈ text, IsLine line) :
    lines (text.flatMap (· ++ ['\n'])) = text := by
  have cut : split '\n' (text.flatMap (· ++ ['\n'])) = text ++ [[]] := by
    induction text with
    | nil => rfl
    | cons line text ih =>
      obtain ⟨first, others⟩ := List.forall_mem_cons.1 h
      have closed : '\n' ∉ line := fun inside => absurd (first _ inside) (by decide)
      rw [List.flatMap_cons, List.append_assoc, List.singleton_append, split_eq_splitOn,
        List.splitOn_append_cons_self_of_not_mem closed, ← split_eq_splitOn, ih others]
      rfl
  have kept : text.map withoutReturn = text := by
    refine (List.map_congr_left fun line mem => ?_).trans (List.map_id text)
    refine if_neg fun last => absurd (h line mem _ (List.mem_of_getLast? last)) (by decide)
  rw [lines, cut, List.dropLast_concat, List.getLastD_concat, kept]
  exact List.append_nil text

/-- The lines of texts that are lines, with their newlines. -/
theorem exists_lines_join {texts : List String} (h : ∀ text ∈ texts, Closed text.toList) :
    ∃ rows : List (List Char), (∀ line ∈ rows, IsLine line) ∧
      (String.join texts).toList = rows.flatMap (· ++ ['\n']) := by
  rw [String.toList_join]
  induction texts with
  | nil => exact ⟨[], List.forall_mem_nil _, rfl⟩
  | cons text texts ih =>
    obtain ⟨⟨line, plain, first⟩, others⟩ := List.forall_mem_cons.1 h
    obtain ⟨rows, plains, more⟩ := ih others
    exact ⟨line :: rows, List.forall_mem_cons.2 ⟨plain, plains⟩, by simp [first, more]⟩

end Text

namespace Dump

open Text

/-! ## Rows -/

/-- What a row shows of a descriptor. -/
structure Entry where
  link : Chain.Link
  words : String
deriving DecidableEq, Repr

/-- What there is to show of a link. -/
def Entry.ofLink (link : Chain.Link) : Entry :=
  ⟨link, caption link.block⟩

/-- **Read a row by its columns.** -/
def Entry.ofLine? (line : List Char) : Option Entry := do
  let offset ← natural? (trim ((line.drop 2).take 4))
  let octets ← octets? (line.drop 37)
  return ⟨⟨offset, octets⟩, String.ofList (trim ((line.drop 8).take 28))⟩

/-- **Read the rows of a dump**, each of them. They start in the fourth line
and end at an empty one, where no lines of a log stand in front. -/
def entries? (text : String) : Option (List Entry) :=
  (((lines text.toList).drop 3).takeWhile (!·.isEmpty)).mapM Entry.ofLine?

/-- A row without its newline. -/
def rowLine (link : Chain.Link) : List Char :=
  [' ', ' '] ++ (alignRight 4 (toString link.offset)).toList ++ [' ', ' '] ++
    (alignLeft 28 (caption link.block)).toList ++ [' '] ++ (hexRow link.block).toList

theorem toList_row (link : Chain.Link) : (row link).toList = rowLine link ++ ['\n'] := by
  have word (s : String) : toString s = s := rfl
  simp [row, rowLine, word]

/-- Columns are cut apart where they stand. -/
theorem columns {place words octets line : List Char} (four : place.length = 4)
    (wide : words.length = 28)
    (made : [' ', ' '] ++ place ++ [' ', ' '] ++ words ++ [' '] ++ octets = line) :
    (line.drop 2).take 4 = place ∧ (line.drop 8).take 28 = words ∧ line.drop 37 = octets := by
  subst made
  simp [List.drop_append, List.drop_of_length_le, four, wide]

/-- All the words that there are for a descriptor. -/
def vocabulary : List String :=
  [ "interface association", "AudioControl interface", "AudioStreaming alt 0 (idle)",
    "AudioStreaming alt 1", "interface", "AC header", "AS general",
    "input terminal (USB stream)", "format type I", "output terminal (speaker)",
    "feature unit", "isochronous OUT endpoint", "CS endpoint (EP_GENERAL)", "unknown" ]

theorem caption_mem_vocabulary (descriptor : Bytes) : caption descriptor ∈ vocabulary := by
  unfold caption interfaceCaption classCaption vocabulary
  dsimp only
  repeat' split
  all_goals simp

/-- **Words fit their column**, without a blank at either end. -/
structure FitsColumn (words : String) : Prop where
  length_le : words.length ≤ 28
  isLine : IsLine words.toList
  trim_eq : trim words.toList = words.toList

theorem fitsColumn_of_mem_vocabulary {words : String} (h : words ∈ vocabulary) :
    FitsColumn words := by
  have each : ∀ words ∈ vocabulary, words.length ≤ 28 ∧ IsLine words.toList ∧
      trim words.toList = words.toList := by
    decide +kernel
  obtain ⟨length, control, ends⟩ := each words h
  exact ⟨length, control, ends⟩

/-- **A row is read as what it was made from.** -/
theorem ofLine?_rowLine {link : Chain.Link} (near : link.offset < 10000)
    (filled : link.block ≠ []) : Entry.ofLine? (rowLine link) = some (.ofLink link) := by
  have words := fitsColumn_of_mem_vocabulary (caption_mem_vocabulary link.block)
  have short : (toString link.offset).length ≤ 4 := (Nat.length_repr_le_iff (by decide)).2 near
  obtain ⟨place, middle, octets⟩ : ((rowLine link).drop 2).take 4 = _ ∧
      ((rowLine link).drop 8).take 28 = _ ∧ (rowLine link).drop 37 = _ :=
    columns (length_alignRight short) (length_alignLeft words.length_le) rfl
  rw [Entry.ofLine?, place, natural?_alignRight, octets, octets?_hexRow filled, middle,
    toList_alignLeft, trim_append_replicate, words.trim_eq, String.ofList_toList]
  rfl

/-! ## The whole text -/

/-- What stands in a row is one line. -/
theorem isLine_rowLine (link : Chain.Link) : IsLine (rowLine link) := by
  have words := fitsColumn_of_mem_vocabulary (caption_mem_vocabulary link.block)
  have blank : IsLine [' '] := isLine_replicate 1
  have blanks : IsLine [' ', ' '] := isLine_replicate 2
  simp only [rowLine, toList_alignRight, toList_alignLeft, isLine_append]
  exact ⟨⟨⟨⟨⟨blanks, isLine_replicate _, isLine_toString _⟩, blanks⟩, words.isLine,
    isLine_replicate _⟩, blank⟩, isLine_hexRow _⟩

theorem closed_heading (d : Dump) (options : DumpOptions) :
    Closed (d.heading options).toList := by
  have word (s : String) : toString s = s := rfl
  unfold heading
  simp only [word, String.toList_append]
  refine .append ?_ (.append (isLine_toString _) ⟨" descriptor bytes".toList, by decide, rfl⟩)
  simp only [isLine_append]
  have text : IsLine "USB audio function: ".toList ∧ IsLine " Hz, ".toList ∧
      IsLine " ch, ".toList ∧ IsLine " bit, ".toList ∧ IsLine "EP 0x".toList ∧
      IsLine ", max packet ".toList ∧ IsLine " B, ".toList := by
    decide
  simp only [text, isLine_toString, isLine_hexByte, and_self]

theorem closed_stringRow (index : UInt8) (bytes : Bytes) :
    Closed (stringRow index bytes).toList := by
  have word (s : String) : toString s = s := rfl
  unfold stringRow
  simp only [word, String.toList_append]
  refine .append ?_ ⟨[], by decide, rfl⟩
  simp only [toList_alignRight, isLine_append]
  have text : IsLine "  string ".toList ∧ IsLine "  ".toList := by
    decide
  exact ⟨⟨⟨text.1, isLine_replicate _, isLine_toString index.toNat⟩, text.2⟩, isLine_hexRow _⟩

/-- **The rows stand behind three lines and before an empty one.** -/
theorem lines_render (d : Dump) (options : DumpOptions) :
    ∃ heading strings, lines (d.render options).toList =
      [[], heading, []] ++ (d.links.map rowLine ++ [] :: (strings ++ [[]])) := by
  obtain ⟨heading, plain, headed⟩ := closed_heading d options
  have closed : ∀ text ∈ d.strings.map fun s => stringRow s.1 s.2, Closed text.toList := by
    intro text mem
    obtain ⟨s, -, rfl⟩ := List.mem_map.1 mem
    exact closed_stringRow s.1 s.2
  obtain ⟨strings, plains, named⟩ := exists_lines_join closed
  have rows : (String.join (d.links.map row)).toList =
      (d.links.map rowLine).flatMap (· ++ ['\n']) := by
    simp [String.toList_join, List.flatMap_map, toList_row]
  have whole : (d.render options).toList =
      ([[], heading, []] ++ (d.links.map rowLine ++ [] :: (strings ++ [[]]))).flatMap
        (· ++ ['\n']) := by
    have newline : "\n".toList = ['\n'] := rfl
    simp only [render, String.toList_append, newline, headed, named, rows]
    simp
  have none : IsLine [] := List.forall_mem_nil _
  refine ⟨heading, strings, whole ▸ lines_flatMap ?_⟩
  simp only [List.forall_mem_append, List.forall_mem_cons, List.forall_mem_map]
  exact ⟨⟨none, plain, none, List.forall_mem_nil _⟩, fun link _ => isLine_rowLine link, none,
    plains, none, List.forall_mem_nil _⟩

/-- **The rows of a dump are read back**, each as its link and the words for
it. -/
theorem entries?_render {d : Dump} (options : DumpOptions)
    (shown : ∀ link ∈ d.links, link.offset < 10000 ∧ link.block ≠ []) :
    entries? (d.render options) = some (d.links.map Entry.ofLink) := by
  obtain ⟨heading, strings, cut⟩ := lines_render d options
  have filled : ∀ line ∈ d.links.map rowLine, (!line.isEmpty) = true := by
    intro line mem
    obtain ⟨link, -, rfl⟩ := List.mem_map.1 mem
    rfl
  have rows : ((lines (d.render options).toList).drop 3).takeWhile (!·.isEmpty) =
      d.links.map rowLine := by
    rw [cut]
    exact (List.takeWhile_append_of_pos filled).trans (List.append_nil _)
  rw [entries?, rows]
  generalize d.links = links at shown
  induction links with
  | nil => rfl
  | cons link links ih =>
    obtain ⟨⟨near, block⟩, others⟩ := List.forall_mem_cons.1 shown
    rw [List.map_cons, List.mapM_cons, ofLine?_rowLine near block, ih others]
    rfl

end Dump

end AudioGadget
