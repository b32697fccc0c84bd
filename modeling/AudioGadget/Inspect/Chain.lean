import AudioGadget.Bytes
/-!
# Chain — a run of descriptors taken apart

Descriptors stand end to end, and each starts with its own length. A
length below two cannot hold the length and the type, and a length that
reaches past the end belongs to no descriptor; either ends the walk with
a fault. `split` finds the descriptors and where they start. Blocks
(`IsBlock`) that stand end to end are taken apart into just those blocks
(`splitFrom_flatten`).
-/

namespace AudioGadget.Chain

/-- Where a walk along descriptors ended badly, and the length found
there. -/
structure Fault where
  offset : Nat
  length : Nat
deriving DecidableEq, Repr

/-- The sentence shown to the user. -/
def Fault.message (f : Fault) : String :=
  s!"malformed descriptor at offset {f.offset} (bLength {f.length})"

/-- A descriptor and where it starts. -/
structure Link where
  offset : Nat
  block : Bytes
deriving DecidableEq, Repr

/-- Take descriptors apart, the first of which starts at `offset`. -/
def splitFrom (offset : Nat) (bytes : Bytes) : Except Fault (List Link) :=
  match bytes with
  | [] => .ok []
  | b :: rest =>
    let length := b.toNat
    if _fits : 2 ≤ length ∧ length ≤ (b :: rest).length then
      match splitFrom (offset + length) ((b :: rest).drop length) with
      | .ok links => .ok (⟨offset, (b :: rest).take length⟩ :: links)
      | .error fault => .error fault
    else
      .error ⟨offset, length⟩
termination_by bytes.length
decreasing_by
  simp only [List.length_drop]
  omega

/-- **Take a run of descriptors apart.** -/
def split (bytes : Bytes) : Except Fault (List Link) :=
  splitFrom 0 bytes

/-! ## Blocks -/

/-- A block that stands by itself: at least two octets, the first of which
is its length. -/
structure IsBlock (block : Bytes) : Prop where
  two_le : 2 ≤ block.length
  head_eq : block.head?.map UInt8.toNat = some block.length

/-- Nothing to take apart is a chain of no links. -/
@[simp] theorem splitFrom_nil (offset : Nat) : splitFrom offset [] = .ok [] := by
  simp [splitFrom]

/-- As many octets as the first of them says are a block. -/
theorem isBlock_take {b : UInt8} {rest : Bytes} (two : 2 ≤ b.toNat)
    (fits : b.toNat ≤ rest.length + 1) : IsBlock ((b :: rest).take b.toNat) := by
  have length : ((b :: rest).take b.toNat).length = b.toNat := by
    rw [List.length_take, List.length_cons]
    exact Nat.min_eq_left fits
  refine ⟨by rwa [length], ?_⟩
  rw [length, List.head?_take, if_neg (by omega)]
  rfl

/-! ## Blocks that stand end to end -/

/-- A block in front of a run is its first link, and the walk goes on
behind it. -/
theorem splitFrom_append {block : Bytes} (h : IsBlock block) (offset : Nat) (rest : Bytes) :
    splitFrom offset (block ++ rest) =
      (splitFrom (offset + block.length) rest).map (⟨offset, block⟩ :: ·) := by
  rcases block with _ | ⟨b, tail⟩
  · exact absurd h.two_le (by decide)
  · have length : b.toNat = (b :: tail).length := by simpa using h.head_eq
    have fits : 2 ≤ b.toNat ∧ b.toNat ≤ (b :: (tail ++ rest)).length := by
      rw [length]
      exact ⟨h.two_le, by simp⟩
    rw [List.cons_append, splitFrom, dif_pos fits, ← List.cons_append, length, List.drop_left,
      List.take_left]
    rcases splitFrom (offset + (b :: tail).length) rest with fault | links <;> rfl

/-- Blocks with the places where they start, the first at `offset`. -/
def linksFrom (offset : Nat) : List Bytes → List Link
  | [] => []
  | block :: blocks => ⟨offset, block⟩ :: linksFrom (offset + block.length) blocks

/-- **Blocks end to end are taken apart into just those blocks.** -/
theorem splitFrom_flatten {blocks : List Bytes} (h : ∀ block ∈ blocks, IsBlock block)
    (offset : Nat) : splitFrom offset blocks.flatten = .ok (linksFrom offset blocks) := by
  induction blocks generalizing offset with
  | nil => exact splitFrom_nil offset
  | cons block blocks ih =>
    obtain ⟨first, others⟩ := List.forall_mem_cons.1 h
    rw [List.flatten_cons, splitFrom_append first, ih others]
    rfl

@[simp] theorem map_block_linksFrom (offset : Nat) (blocks : List Bytes) :
    (linksFrom offset blocks).map Link.block = blocks := by
  induction blocks generalizing offset with
  | nil => rfl
  | cons block blocks ih => simp [linksFrom, ih]

end AudioGadget.Chain
