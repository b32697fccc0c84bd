/-!
# Bytes — octet strings and the buffers a caller lends

Everything that travels on the bus is a list of octets. Words go low
octet first (`le16`, `le24`, `word`), and an answer is written over the
front of a buffer that the caller owns (`Bytes.overwrite`): what the
answer does not reach keeps its old octets. Where a buffer of one's own
is filled piece by piece, a piece without room is left out whole
(`Bytes.append?`). The lemmas say that a word is read back as written,
what `overwrite` keeps, and when all pieces are appended.
-/

namespace AudioGadget

/-- A string of octets, the first on the wire first. -/
abbrev Bytes := List UInt8

/-! ## Words, low octet first -/

/-- The two octets of a word. Only the value modulo `2 ^ 16` travels. -/
def le16 (n : Nat) : Bytes :=
  [UInt8.ofNat n, UInt8.ofNat (n / 256)]

/-- The three octets of a 24-bit value. -/
def le24 (n : Nat) : Bytes :=
  [UInt8.ofNat n, UInt8.ofNat (n / 256), UInt8.ofNat (n / 65536)]

/-- The word that two octets spell. -/
def word (lo hi : UInt8) : Nat :=
  lo.toNat + 256 * hi.toNat

/-- The 24-bit value that three octets spell. -/
def word24 (lo mid hi : UInt8) : Nat :=
  word lo mid + 65536 * hi.toNat

/-- The low octet of a 16-bit field. -/
def lowByte (w : UInt16) : UInt8 :=
  UInt8.ofNat w.toNat

/-- The high octet of a 16-bit field. -/
def highByte (w : UInt16) : UInt8 :=
  UInt8.ofNat (w.toNat / 256)

/-- The 16-bit field that two octets spell. -/
def field16 (lo hi : UInt8) : UInt16 :=
  UInt16.ofNat (word lo hi)

theorem word_lt (lo hi : UInt8) : word lo hi < 65536 := by
  have := lo.toNat_lt
  have := hi.toNat_lt
  simp only [word]
  omega

/-- **A word is read back as written.** -/
theorem word_le16 {n : Nat} (h : n < 65536) :
    word (UInt8.ofNat n) (UInt8.ofNat (n / 256)) = n := by
  simp only [word, UInt8.toNat_ofNat']
  omega

/-- A 24-bit value is read back as written. -/
theorem word24_le24 {n : Nat} (h : n < 16777216) :
    word24 (UInt8.ofNat n) (UInt8.ofNat (n / 256)) (UInt8.ofNat (n / 65536)) = n := by
  simp only [word24, word, UInt8.toNat_ofNat']
  omega

/-- A field is the word of its two octets. -/
theorem field16_bytes (w : UInt16) : field16 (lowByte w) (highByte w) = w := by
  have h : w.toNat < 65536 := w.toNat_lt
  rw [field16, lowByte, highByte, word_le16 h, UInt16.ofNat_toNat]

@[simp] theorem lowByte_field16 (lo hi : UInt8) : lowByte (field16 lo hi) = lo := by
  have := lo.toNat_lt
  have := hi.toNat_lt
  apply UInt8.toNat_inj.1
  simp only [lowByte, field16, word, UInt8.toNat_ofNat', UInt16.toNat_ofNat']
  omega

@[simp] theorem highByte_field16 (lo hi : UInt8) : highByte (field16 lo hi) = hi := by
  have := lo.toNat_lt
  have := hi.toNat_lt
  apply UInt8.toNat_inj.1
  simp only [highByte, field16, word, UInt8.toNat_ofNat', UInt16.toNat_ofNat']
  omega

/-- The signed reading of a word: two's complement in sixteen bits. -/
def signedWord (lo hi : UInt8) : Int :=
  Int.bmod (word lo hi) 65536

/-- The two octets of a signed word. -/
def leSigned16 (i : Int) : Bytes :=
  le16 (i % 65536).toNat

/-! ## Numbers that stop at the top of their range -/

/-- The number `k` places after `n`, or 255 where there is no such octet. -/
def numberAfter (n : UInt8) (k : Nat) : UInt8 :=
  UInt8.ofNat (min 255 (n.toNat + k))

example : numberAfter 254 2 = 255 := rfl

/-! ## Writing over the front of a buffer -/

/-- Write `data` over the front of `dest`. A buffer keeps its length: data
that has no room is cut, and octets past the data stay. -/
def Bytes.overwrite (dest data : Bytes) : Bytes :=
  data.take dest.length ++ dest.drop data.length

@[simp] theorem Bytes.length_overwrite (dest data : Bytes) :
    (Bytes.overwrite dest data).length = dest.length := by
  simp only [Bytes.overwrite, List.length_append, List.length_take, List.length_drop]
  omega

@[simp] theorem Bytes.overwrite_nil (dest : Bytes) : Bytes.overwrite dest [] = dest := by
  simp [Bytes.overwrite]

/-- Data that has room stands whole at the front. -/
theorem Bytes.overwrite_of_le {dest data : Bytes} (h : data.length ≤ dest.length) :
    Bytes.overwrite dest data = data ++ dest.drop data.length := by
  rw [Bytes.overwrite, List.take_of_length_le h]

/-- **Writing goes on where it stopped.** Data in two parts is the first part
over the front, and then the second behind it. -/
theorem Bytes.overwrite_append {dest front back : Bytes}
    (room : front.length + back.length ≤ dest.length) :
    Bytes.overwrite dest (front ++ back) =
      (Bytes.overwrite dest front).take front.length ++ back ++
        (Bytes.overwrite dest front).drop (front.length + back.length) := by
  have whole : (front ++ back).length ≤ dest.length := by rwa [List.length_append]
  have first : front.length ≤ dest.length := Nat.le_of_add_right_le room
  rw [Bytes.overwrite_of_le whole, Bytes.overwrite_of_le first, List.take_left, ← List.drop_drop,
    List.drop_left, List.drop_drop, List.length_append]

/-! ## Filling a buffer piece by piece -/

/-- Append octets to what a buffer holds, all of them or, without room for
all, none. -/
def Bytes.append? (limit : Nat) (held octets : Bytes) : Option Bytes :=
  if held.length + octets.length ≤ limit then some (held ++ octets) else none

/-- **Pieces are all appended if there is room for all.** -/
theorem Bytes.foldlM_append? {α : Type} {limit : Nat} (piece : α → Bytes) (xs : List α)
    {held : Bytes} (room : held.length ≤ limit) :
    xs.foldlM (fun held x => Bytes.append? limit held (piece x)) held =
      if held.length + (xs.flatMap piece).length ≤ limit then some (held ++ xs.flatMap piece)
      else none := by
  induction xs generalizing held with
  | nil =>
    rw [List.flatMap_nil, List.append_nil, List.length_nil, Nat.add_zero, if_pos room]
    rfl
  | cons x xs ih =>
    rw [List.foldlM_cons, Bytes.append?, List.flatMap_cons, List.length_append, ← Nat.add_assoc]
    by_cases next : held.length + (piece x).length ≤ limit
    · have room' : (held ++ piece x).length ≤ limit := by rwa [List.length_append]
      rw [if_pos next, Option.bind_eq_bind, Option.bind_some, ih room', List.length_append,
        List.append_assoc]
    · have stopped : ¬ held.length + (piece x).length + (xs.flatMap piece).length ≤ limit :=
        fun all => next (Nat.le_of_add_right_le all)
      rw [if_neg next, if_neg stopped]
      rfl

end AudioGadget
