import AudioGadget.Bytes
/-!
# Ring — a bounded queue of octets in a circle of cells

`capacity` cells are used in turn: `write` is the next cell to fill,
`read` the next to empty, `count` the number of filled ones. A write is
all or nothing. `toList` is the queue that the cells spell, oldest
first, and `Sound` ties the two cursors to the count. Seen through
`toList` a push appends and a pop removes the head (`toList_push`,
`toList_pop`), and both keep the ring sound.
-/

namespace AudioGadget

/-- A circle of cells with its two cursors. -/
structure Ring (capacity : Nat) where
  cells : Vector UInt8 capacity
  /-- The next cell to empty. -/
  read : Nat
  /-- The next cell to fill. -/
  write : Nat
  /-- How many cells are filled. -/
  count : Nat
deriving DecidableEq

namespace Ring

variable {capacity : Nat}

/-- Nothing queued. -/
def empty : Ring capacity :=
  ⟨Vector.replicate capacity 0, 0, 0, 0⟩

instance : Inhabited (Ring capacity) := ⟨empty⟩

/-- Drop everything queued. -/
def clear (r : Ring capacity) : Ring capacity :=
  { r with read := 0, write := 0, count := 0 }

/-- Cells still free. -/
def free (r : Ring capacity) : Nat :=
  capacity - r.count

/-- Whether nothing is queued. -/
def isEmpty (r : Ring capacity) : Bool :=
  r.count = 0

/-- Whether every cell is filled. -/
def isFull (r : Ring capacity) : Bool :=
  r.count = capacity

/-- Fill the next cell. -/
def push (r : Ring capacity) (b : UInt8) : Ring capacity :=
  { r with
    cells := r.cells.setIfInBounds r.write b
    write := (r.write + 1) % capacity
    count := r.count + 1 }

/-- Empty the next cell. -/
def pop (r : Ring capacity) : UInt8 × Ring capacity :=
  ((r.cells[r.read]?).getD 0,
    { r with read := (r.read + 1) % capacity, count := r.count - 1 })

/-- **Queue all of the data or none of it.** -/
def append? (r : Ring capacity) (data : Bytes) : Option (Ring capacity) :=
  if data.length ≤ r.free then some (data.foldl push r) else none

/-- Take the `n` oldest octets. -/
def take (r : Ring capacity) : Nat → Bytes × Ring capacity
  | 0 => ([], r)
  | n + 1 =>
    let (b, r) := r.pop
    let (bs, r) := r.take n
    (b :: bs, r)

/-- Move octets into a caller's buffer, as many as are queued and have
room, and say how many. The rest of the buffer stays. -/
def readInto (r : Ring capacity) (out : Bytes) : Nat × Bytes × Ring capacity :=
  let n := min out.length r.count
  let (bytes, r) := r.take n
  (n, Bytes.overwrite out bytes, r)

/-- **The queue that the cells spell**, oldest octet first. -/
def toList (r : Ring capacity) : Bytes :=
  (List.range r.count).map fun i => (r.cells[(r.read + i) % capacity]?).getD 0

/-- The cursors stand where the count says. -/
structure Sound (r : Ring capacity) : Prop where
  count_le : r.count ≤ capacity
  write_eq : r.write = (r.read + r.count) % capacity
  read_lt : 0 < capacity → r.read < capacity

theorem sound_empty : (empty : Ring capacity).Sound :=
  ⟨Nat.zero_le _, by simp [empty], fun h => h⟩

theorem sound_clear (r : Ring capacity) : r.clear.Sound :=
  ⟨Nat.zero_le _, by simp [clear], fun h => h⟩

@[simp] theorem toList_empty : (empty : Ring capacity).toList = [] := rfl

@[simp] theorem length_toList (r : Ring capacity) : r.toList.length = r.count := by
  simp [toList]

/-! ## The queue, operation by operation -/

/-- The cell to fill is none of the filled ones. -/
theorem place_ne {r : Ring capacity} {i : Nat} (h : i < r.count) (room : r.count < capacity) :
    (r.read + i) % capacity ≠ (r.read + r.count) % capacity := by
  intro same
  have distance := Nat.sub_mod_eq_zero_of_mod_eq same.symm
  rw [Nat.add_sub_add_left, Nat.mod_eq_of_lt (by omega)] at distance
  omega

theorem sound_push {r : Ring capacity} (h : r.Sound) (room : r.count < capacity) (b : UInt8) :
    (r.push b).Sound where
  count_le := room
  write_eq := by
    simp only [push, h.write_eq, Nat.mod_add_mod]
    rw [Nat.add_assoc]
  read_lt := h.read_lt

/-- **What is pushed stands last.** -/
theorem toList_push {r : Ring capacity} (h : r.Sound) (room : r.count < capacity) (b : UInt8) :
    (r.push b).toList = r.toList ++ [b] := by
  have inside : (r.read + r.count) % capacity < capacity := Nat.mod_lt _ (by omega)
  simp only [toList, push, List.range_succ, List.map_append, List.map_cons, List.map_nil,
    h.write_eq]
  congr 1
  · apply List.map_congr_left
    intro i hi
    have apart := place_ne (List.mem_range.1 hi) room
    rw [Vector.getElem?_setIfInBounds_ne apart.symm]
  · simp [inside]

theorem sound_pop {r : Ring capacity} (h : r.Sound) (filled : 0 < r.count) : r.pop.2.Sound where
  count_le := by
    have := h.count_le
    simp only [pop]
    omega
  write_eq := by
    simp only [pop, h.write_eq, Nat.mod_add_mod]
    congr 1
    omega
  read_lt := fun positive => Nat.mod_lt _ positive

/-- **What is popped stood first.** -/
theorem toList_pop {r : Ring capacity} (h : r.Sound) (filled : 0 < r.count) :
    r.toList = r.pop.1 :: r.pop.2.toList := by
  have inside := h.read_lt (by have := h.count_le; omega)
  obtain ⟨n, hn⟩ : ∃ n, r.count = n + 1 := ⟨r.count - 1, by omega⟩
  simp [toList, pop, hn, List.range_succ_eq_map, Nat.add_assoc, Nat.add_comm 1,
    Nat.mod_eq_of_lt inside]

/-- Data that has room is queued in order, behind what is queued already. -/
theorem toList_foldl_push {r : Ring capacity} (h : r.Sound) (data : Bytes)
    (room : data.length ≤ r.free) :
    (data.foldl push r).Sound ∧ (data.foldl push r).toList = r.toList ++ data := by
  have fits := h.count_le
  induction data generalizing r with
  | nil => exact ⟨h, by simp⟩
  | cons b data ih =>
    simp only [free, List.length_cons] at room
    have later := ih (sound_push h (by omega) b) (by simp only [free, push]; omega)
      (by simp only [push]; omega)
    refine ⟨later.1, ?_⟩
    rw [List.foldl_cons, later.2, toList_push h (by omega), List.append_assoc, List.singleton_append]

/-- **The oldest octets come out in order**, and the others stay. -/
theorem take_eq {r : Ring capacity} (h : r.Sound) {n : Nat} (filled : n ≤ r.count) :
    (r.take n).1 = r.toList.take n ∧ (r.take n).2.toList = r.toList.drop n ∧
      (r.take n).2.Sound := by
  induction n generalizing r with
  | zero => exact ⟨by simp [take], by simp [take], h⟩
  | succ n ih =>
    have later := ih (sound_pop h (by omega)) (by simp only [pop]; omega)
    rw [toList_pop h (by omega)]
    exact ⟨by simp [take, later.1], by simp [take, later.2.1], later.2.2⟩

end Ring

end AudioGadget
