import Mathlib.Algebra.GroupWithZero.Nat
import Mathlib.Order.Bounds.Basic
import AudioGadget.Inspect.Chain
/-!
# Walk — exactly the chains of blocks are taken apart

Octets are a chain if they are blocks that stand end to end (`MadeOf`).
Any octets are one up to some place: in front stand whole blocks, and
behind these is nothing, or an octet that is no length there
(`exists_front`). A walk takes the blocks in front, whatever is behind
them (`splitFrom_flatten_append`), so it succeeds exactly on chains, and
the fault of any other walk stands where the longest chain in front
ends.

`walkWithin` is the walk by places: turn after turn in the same octets,
with places that stop at the top of a word. No turn is lost, as a block
has two octets at least, so half as many turns as there are octets, and
one more, are enough for it to end where `split` does.
-/

namespace AudioGadget.Chain

/-- **Octets are made of blocks** that stand end to end. -/
structure MadeOf (blocks : List Bytes) (bytes : Bytes) : Prop where
  stands : ∀ block ∈ blocks, IsBlock block
  joined : blocks.flatten = bytes

/-- Octets that are a chain as a whole. -/
def IsChain (bytes : Bytes) : Prop :=
  ∃ blocks, MadeOf blocks bytes

/-- **Each link starts where the octets of the links before it end.** -/
def Placed (links : List Link) : Prop :=
  ∀ i (h : i < links.length),
    links[i].offset = ((links.take i).map fun link => link.block.length).sum

/-! ## The blocks in front -/

/-- Blocks in front of octets are the first links, and the walk goes on
behind them. -/
theorem splitFrom_flatten_append {blocks : List Bytes} (h : ∀ block ∈ blocks, IsBlock block)
    (offset : Nat) (rest : Bytes) :
    splitFrom offset (blocks.flatten ++ rest) =
      (splitFrom (offset + blocks.flatten.length) rest).map (linksFrom offset blocks ++ ·) := by
  induction blocks generalizing offset with
  | nil =>
    rw [List.flatten_nil, List.nil_append, List.length_nil, Nat.add_zero]
    cases splitFrom offset rest <;> rfl
  | cons block blocks ih =>
    obtain ⟨first, others⟩ := List.forall_mem_cons.1 h
    rw [List.flatten_cons, List.append_assoc, splitFrom_append first, ih others, List.length_append,
      Nat.add_assoc]
    cases splitFrom (offset + (block.length + blocks.flatten.length)) rest <;> rfl

/-- An octet that is no length ends the walk. -/
theorem splitFrom_of_misfit {b : UInt8} {rest : Bytes}
    (misfit : ¬ (2 ≤ b.toNat ∧ b.toNat ≤ rest.length + 1)) (offset : Nat) :
    splitFrom offset (b :: rest) = .error ⟨offset, b.toNat⟩ := by
  rw [splitFrom]
  exact dif_neg misfit

/-- **In front of any octets stand blocks, and behind them is nothing or an
octet that is no length.** -/
theorem exists_front (bytes : Bytes) :
    ∃ blocks : List Bytes, (∀ block ∈ blocks, IsBlock block) ∧
      (bytes = blocks.flatten ∨
        ∃ b rest, bytes = blocks.flatten ++ b :: rest ∧
          ¬ (2 ≤ b.toNat ∧ b.toNat ≤ rest.length + 1)) := by
  induction hn : bytes.length using Nat.strongRecOn generalizing bytes with
  | ind n ih =>
    rcases bytes with _ | ⟨b, rest⟩
    · exact ⟨[], List.forall_mem_nil _, .inl rfl⟩
    · by_cases fits : 2 ≤ b.toNat ∧ b.toNat ≤ rest.length + 1
      · have first := isBlock_take fits.1 fits.2
        have shorter : ((b :: rest).drop b.toNat).length < n := by
          rw [← hn, List.length_drop, List.length_cons]
          omega
        obtain ⟨blocks, others, behind⟩ := ih _ shorter _ rfl
        have cut := List.take_append_drop b.toNat (b :: rest)
        refine ⟨(b :: rest).take b.toNat :: blocks, List.forall_mem_cons.2 ⟨first, others⟩, ?_⟩
        rw [List.flatten_cons]
        rcases behind with whole | ⟨b', rest', stuck, misfit⟩
        · exact .inl (by rw [← whole, cut])
        · exact .inr ⟨b', rest', by rw [List.append_assoc, ← stuck, cut], misfit⟩
      · exact ⟨[], List.forall_mem_nil _, .inr ⟨b, rest, rfl, fits⟩⟩

/-! ## Chains -/

/-- **A chain is taken apart into its blocks.** -/
theorem MadeOf.split {blocks : List Bytes} {bytes : Bytes} (h : MadeOf blocks bytes) :
    split bytes = .ok (linksFrom 0 blocks) := by
  rw [← h.joined]
  exact splitFrom_flatten h.stands 0

/-- **A chain is made of its blocks in one way only**: they are what a walk
finds. -/
theorem MadeOf.unique {blocks blocks' : List Bytes} {bytes : Bytes} (h : MadeOf blocks bytes)
    (h' : MadeOf blocks' bytes) : blocks = blocks' := by
  have same := Except.ok.inj (h.split.symm.trans h'.split)
  rw [← map_block_linksFrom 0 blocks, same, map_block_linksFrom]

/-- Links are those of their blocks if they start where the octets before
them end. -/
theorem linksFrom_map_block {links : List Link} {offset : Nat}
    (placed : ∀ i (h : i < links.length),
      links[i].offset = offset + ((links.take i).map fun link => link.block.length).sum) :
    linksFrom offset (links.map Link.block) = links := by
  induction links generalizing offset with
  | nil => rfl
  | cons link links ih =>
    have first : link.offset = offset := placed 0 (Nat.succ_pos _)
    have later : linksFrom (offset + link.block.length) (links.map Link.block) = links :=
      ih fun i h => by
        have next := placed (i + 1) (Nat.succ_lt_succ h)
        rw [List.take_succ_cons, List.map_cons, List.sum_cons, ← Nat.add_assoc] at next
        exact next
    rw [List.map_cons, linksFrom, later, ← first]

theorem placed_linksFrom (blocks : List Bytes) : Placed (linksFrom 0 blocks) := by
  suffices h : ∀ offset i (h : i < (linksFrom offset blocks).length),
      (linksFrom offset blocks)[i].offset =
        offset + (((linksFrom offset blocks).take i).map fun link => link.block.length).sum by
    intro i bound
    rw [h 0 i bound, Nat.zero_add]
  induction blocks with
  | nil => exact fun offset i bound => absurd bound (Nat.not_lt_zero i)
  | cons block blocks ih =>
    rintro offset (_ | i) bound
    · rfl
    · have next := ih (offset + block.length) i (Nat.lt_of_succ_lt_succ bound)
      simp only [linksFrom, List.getElem_cons_succ, List.take_succ_cons, List.map_cons,
        List.sum_cons]
      rw [next, Nat.add_assoc]

/-- No link starts behind the octets. -/
theorem offset_le_of_mem_linksFrom {blocks : List Bytes} {offset : Nat} {link : Link}
    (h : link ∈ linksFrom offset blocks) : link.offset ≤ offset + blocks.flatten.length := by
  induction blocks generalizing offset with
  | nil => exact absurd h List.not_mem_nil
  | cons block blocks ih =>
    rw [List.flatten_cons, List.length_append, ← Nat.add_assoc]
    rcases List.mem_cons.1 h with rfl | later
    · exact Nat.le_trans (Nat.le_add_right _ _) (Nat.le_add_right _ _)
    · exact ih later

/-- **A walk succeeds exactly on a chain**, and finds its blocks where they
start. -/
theorem split_eq_ok_iff {bytes : Bytes} {links : List Link} :
    split bytes = .ok links ↔ MadeOf (links.map Link.block) bytes ∧ Placed links := by
  constructor
  · intro walked
    obtain ⟨blocks, stands, rfl | ⟨b, rest, rfl, misfit⟩⟩ := exists_front bytes
    · have made : MadeOf blocks blocks.flatten := ⟨stands, rfl⟩
      obtain rfl := Except.ok.inj (made.split.symm.trans walked)
      rw [map_block_linksFrom]
      exact ⟨made, placed_linksFrom blocks⟩
    · rw [split, splitFrom_flatten_append stands, splitFrom_of_misfit misfit] at walked
      cases walked
  · rintro ⟨made, placed⟩
    rw [made.split, linksFrom_map_block fun i h => (placed i h).trans (Nat.zero_add _).symm]

/-! ## Octets that are no chain -/

/-- **The longest chain in front ends before the first octet that is no
length.** -/
theorem isGreatest_front {blocks : List Bytes} {b : UInt8} {rest : Bytes}
    (stands : ∀ block ∈ blocks, IsBlock block)
    (misfit : ¬ (2 ≤ b.toNat ∧ b.toNat ≤ rest.length + 1)) :
    IsGreatest {n | n ≤ (blocks.flatten ++ b :: rest).length ∧
      IsChain ((blocks.flatten ++ b :: rest).take n)} blocks.flatten.length := by
  refine ⟨⟨?_, blocks, stands, (List.take_left ..).symm⟩, ?_⟩
  · rw [List.length_append]
    exact Nat.le_add_right _ _
  · rintro n ⟨-, others, made⟩
    by_contra longer
    -- the octet is still the first behind the blocks, with fewer behind itself
    obtain ⟨k, rfl⟩ : ∃ k, n = blocks.flatten.length + (k + 1) :=
      ⟨n - blocks.flatten.length - 1, by omega⟩
    have shorter : ¬ (2 ≤ b.toNat ∧ b.toNat ≤ (rest.take k).length + 1) := by
      rw [List.length_take]
      omega
    have walked := made.split
    rw [List.take_length_add_append, List.take_succ_cons, split, splitFrom_flatten_append stands,
      splitFrom_of_misfit shorter] at walked
    cases walked

/-- **The fault of a walk names the end of the longest chain in front**, and
the octet found there. -/
theorem split_eq_error_iff {bytes : Bytes} {fault : Fault} :
    split bytes = .error fault ↔
      ¬ IsChain bytes ∧
        IsGreatest {n | n ≤ bytes.length ∧ IsChain (bytes.take n)} fault.offset ∧
        bytes[fault.offset]?.map UInt8.toNat = some fault.length := by
  obtain ⟨blocks, stands, rfl | ⟨b, rest, rfl, misfit⟩⟩ := exists_front bytes
  · have made : MadeOf blocks blocks.flatten := ⟨stands, rfl⟩
    rw [made.split]
    simp only [reduceCtorEq, false_iff]
    exact fun h => h.1 ⟨blocks, made⟩
  · have walked : split (blocks.flatten ++ b :: rest) =
        .error ⟨blocks.flatten.length, b.toNat⟩ := by
      rw [split, splitFrom_flatten_append stands, splitFrom_of_misfit misfit, Nat.zero_add]
      rfl
    have greatest := isGreatest_front stands misfit
    have found : (blocks.flatten ++ b :: rest)[blocks.flatten.length]? = some b := by
      rw [List.getElem?_append_right (Nat.le_refl _), Nat.sub_self]
      rfl
    have broken : ¬ IsChain (blocks.flatten ++ b :: rest) := by
      rintro ⟨others, made⟩
      cases walked.symm.trans made.split
    rw [walked]
    constructor
    · intro same
      cases same
      exact ⟨broken, greatest, congrArg (Option.map UInt8.toNat) found⟩
    · rintro ⟨-, greatest', named⟩
      have place := greatest'.unique greatest
      rw [place, found] at named
      obtain ⟨offset, length⟩ := fault
      cases place
      cases named
      rfl

/-! ## By places -/

/-- The block of some length at a place, if there is one. A place behind the
block must be a word that does not stop at `top`. -/
def blockAt? (top : Nat) (bytes : Bytes) (place length : Nat) : Option Bytes :=
  if place + length ≤ top ∧ place + length ≤ bytes.length ∧ 2 ≤ length then
    some ((bytes.drop place).take length)
  else none

/-- **A walk by places**, in some turns at most, behind the links that it has
met. A walk that is not at its end by then has no result. -/
def walkWithin (top : Nat) (bytes : Bytes) :
    Nat → Nat → List Link → Option (Except Fault (List Link))
  | 0, _, _ => none
  | turns + 1, place, met =>
    match bytes[place]? with
    | none => some (.ok met)
    | some b =>
      match blockAt? top bytes place b.toNat with
      | none => some (.error ⟨place, b.toNat⟩)
      | some block =>
        walkWithin top bytes turns (min top (place + b.toNat)) (met ++ [⟨place, block⟩])

/-- **Each turn takes two octets at least, and no place stops at the top.** So
a walk is at its end in time, and ends where the octets left are taken
apart. -/
theorem walkWithin_eq {top : Nat} {bytes : Bytes} (small : bytes.length ≤ top) {turns place : Nat}
    (inside : place ≤ bytes.length) (enough : bytes.length < place + 2 * turns) (met : List Link) :
    walkWithin top bytes turns place met =
      some ((splitFrom place (bytes.drop place)).map (met ++ ·)) := by
  induction turns generalizing place met with
  | zero => omega
  | succ turns ih =>
    rw [walkWithin]
    rcases Nat.lt_or_eq_of_le inside with before | rfl
    · -- an octet is left, which is the length of a block or of none
      have left : bytes.drop place = bytes[place] :: bytes.drop (place + 1) :=
        List.drop_eq_getElem_cons before
      rw [List.getElem?_eq_getElem before]
      dsimp only
      by_cases fits : 2 ≤ bytes[place].toNat ∧ place + bytes[place].toNat ≤ bytes.length
      · have block : blockAt? top bytes place bytes[place].toNat =
            some ((bytes.drop place).take bytes[place].toNat) :=
          if_pos ⟨Nat.le_trans fits.2 small, fits.2, fits.1⟩
        have first : IsBlock ((bytes.drop place).take bytes[place].toNat) := by
          rw [left]
          refine isBlock_take fits.1 ?_
          rw [List.length_drop]
          omega
        have size : ((bytes.drop place).take bytes[place].toNat).length = bytes[place].toNat := by
          rw [List.length_take, List.length_drop]
          omega
        have further := splitFrom_append first place ((bytes.drop place).drop bytes[place].toNat)
        rw [List.take_append_drop, size, List.drop_drop] at further
        rw [block]
        dsimp only
        rw [Nat.min_eq_right (Nat.le_trans fits.2 small), ih fits.2 (by omega), further]
        cases splitFrom (place + bytes[place].toNat) (bytes.drop (place + bytes[place].toNat)) with
        | error fault => rfl
        | ok links => simp [Except.map]
      · have none : blockAt? top bytes place bytes[place].toNat = none :=
          if_neg fun h => fits ⟨h.2.2, h.2.1⟩
        have misfit : ¬ (2 ≤ bytes[place].toNat ∧
            bytes[place].toNat ≤ (bytes.drop (place + 1)).length + 1) := by
          rw [List.length_drop]
          omega
        rw [none, left, splitFrom_of_misfit misfit]
        rfl
    · rw [List.getElem?_eq_none (Nat.le_refl _), List.drop_length, splitFrom_nil]
      simp [Except.map]

/-- **Exactly the chains of blocks are taken apart.** A walk along any octets
comes to its end, after half as many turns as there are octets and one more
at the latest. If the octets are made of blocks, it finds these blocks, in
order and each where the octets before it end, and there are no others that
the octets are made of. If they are not, it names the place where the longest
chain in front ends, and the octet there, which is no length. -/
theorem blocks_are_taken_apart (bytes : Bytes) :
    (∀ links, split bytes = .ok links ↔ MadeOf (links.map Link.block) bytes ∧ Placed links) ∧
      (∀ blocks, MadeOf blocks bytes →
        (∃ links, split bytes = .ok links ∧ links.map Link.block = blocks) ∧
          ∀ blocks', MadeOf blocks' bytes → blocks' = blocks) ∧
      (∀ fault, split bytes = .error fault ↔
        ¬ IsChain bytes ∧
          IsGreatest {n | n ≤ bytes.length ∧ IsChain (bytes.take n)} fault.offset ∧
          bytes[fault.offset]?.map UInt8.toNat = some fault.length) ∧
      ∀ top turns, bytes.length ≤ top → bytes.length < 2 * turns →
        walkWithin top bytes turns 0 [] = some (split bytes) := by
  refine ⟨fun links => split_eq_ok_iff, fun blocks made => ⟨?_, fun blocks' made' => ?_⟩,
    fun fault => split_eq_error_iff, fun top turns small enough => ?_⟩
  · exact ⟨linksFrom 0 blocks, made.split, map_block_linksFrom 0 blocks⟩
  · exact made'.unique made
  · rw [walkWithin_eq small (Nat.zero_le _) (by omega), List.drop_zero, ← split]
    cases split bytes <;> rfl

/-- Two blocks, the second of them with a length that could open a third. -/
theorem blocks_are_taken_apart_pair :
    (∃ links, split [2, 0x24, 3, 2, 0x24] = .ok links ∧
      links.map Link.block = [[2, 0x24], [3, 2, 0x24]]) ∧
      walkWithin 5 [2, 0x24, 3, 2, 0x24] 3 0 [] = some (split [2, 0x24, 3, 2, 0x24]) := by
  obtain ⟨-, found, -, ends⟩ := blocks_are_taken_apart [2, 0x24, 3, 2, 0x24]
  have stands : ∀ block ∈ [[2, 0x24], [3, 2, 0x24]], IsBlock block := by
    simp only [List.forall_mem_cons]
    exact ⟨⟨by decide, rfl⟩, ⟨by decide, rfl⟩, List.forall_mem_nil _⟩
  exact ⟨(found _ ⟨stands, rfl⟩).1, ends 5 3 (by decide) (by decide)⟩

end AudioGadget.Chain
