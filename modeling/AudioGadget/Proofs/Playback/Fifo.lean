import AudioGadget.Proofs.Playback.Queue
/-!
# Fifo — a ring is a bounded queue

A ring has two cursors and a count, of which each pair determines the
third, and where the cursors meet it is empty or full. From outside
nothing of this shows: whatever is asked of it, a ring answers as a list
of octets would that holds no more than the capacity (`onQueue`).

Nor does a step of it ever fail. `performChecked?` works the ring cell by
cell, as a machine does, and gives up at an index without a cell, at a
difference below nothing and at a remainder by nothing. It never gives up
on a sound ring, and does what `perform` does.
-/

namespace AudioGadget

/-- What can be asked of a ring. -/
inductive RingCall where
  | append (data : Bytes)
  | readInto (out : Bytes)
  | clear

/-- What it answers. -/
inductive RingAnswer where
  /-- Whether the data was queued. -/
  | appended (taken : Bool)
  /-- How many octets were moved, and the caller's buffer. -/
  | moved (count : Nat) (out : Bytes)
  | cleared

/-- **What a queue of at most `capacity` octets answers**, and the queue
afterwards. The oldest octet is the first. -/
def RingCall.onQueue (capacity : Nat) (queue : Bytes) : RingCall → RingAnswer × Bytes
  | .append data =>
    if queue.length + data.length ≤ capacity then (.appended true, queue ++ data)
    else (.appended false, queue)
  | .readInto out =>
    let n := min out.length queue.length
    (.moved n (queue.take n ++ out.drop n), queue.drop n)
  | .clear => (.cleared, [])

/-- Ask a queue one thing after the other. -/
def RingCall.allOnQueue (capacity : Nat) (queue : Bytes) : List RingCall → List RingAnswer × Bytes
  | [] => ([], queue)
  | call :: calls =>
    let (answer, queue) := call.onQueue capacity queue
    let (answers, last) := allOnQueue capacity queue calls
    (answer :: answers, last)

namespace Ring

variable {capacity : Nat} {r : Ring capacity}

/-- Do what is asked. Data that has no room leaves the ring as it was. -/
def perform (r : Ring capacity) : RingCall → RingAnswer × Ring capacity
  | .append data =>
    match r.append? data with
    | some next => (.appended true, next)
    | none => (.appended false, r)
  | .readInto out =>
    let (n, out, next) := r.readInto out
    (.moved n out, next)
  | .clear => (.cleared, r.clear)

/-- Do one thing after the other. -/
def run (r : Ring capacity) : List RingCall → List RingAnswer × Ring capacity
  | [] => ([], r)
  | call :: calls =>
    let (answer, next) := r.perform call
    let (answers, last) := next.run calls
    (answer :: answers, last)

/-! ## As a queue -/

/-- **A call does to the ring what it does to its queue.** -/
theorem perform_onQueue (sound : r.Sound) (call : RingCall) :
    (r.perform call).2.Sound ∧
      call.onQueue capacity r.toList = ((r.perform call).1, (r.perform call).2.toList) := by
  cases call with
  | append data =>
    have held := sound.count_le
    by_cases fits : data.length ≤ r.free
    · obtain ⟨sound', list⟩ := toList_foldl_push sound data fits
      have room : r.toList.length + data.length ≤ capacity := by
        rw [length_toList]
        unfold free at fits
        omega
      simp only [perform, append?, if_pos fits, RingCall.onQueue, if_pos room]
      exact ⟨sound', by rw [list]⟩
    · have full : ¬ r.toList.length + data.length ≤ capacity := by
        rw [length_toList]
        unfold free at fits
        omega
      simp only [perform, append?, if_neg fits, RingCall.onQueue, if_neg full]
      exact ⟨sound, trivial⟩
  | readInto out =>
    obtain ⟨next, sound', rest, moved⟩ := readInto_eq sound out
    simp only [perform, moved, RingCall.onQueue, length_toList, rest]
    exact ⟨sound', trivial⟩
  | clear => exact ⟨sound_clear r, rfl⟩

/-- So a run is a run of the queue. -/
theorem run_onQueue (sound : r.Sound) (calls : List RingCall) :
    (r.run calls).2.Sound ∧
      RingCall.allOnQueue capacity r.toList calls =
        ((r.run calls).1, (r.run calls).2.toList) := by
  induction calls generalizing r with
  | nil => exact ⟨sound, rfl⟩
  | cons call calls ih =>
    obtain ⟨sound', one⟩ := perform_onQueue sound call
    obtain ⟨last, rest⟩ := ih sound'
    simp only [run, RingCall.allOnQueue, one, rest]
    exact ⟨last, trivial⟩

/-! ## Step by step, with every step checked -/

/-- A difference, if it is a count. -/
def difference? (a b : Nat) : Option Nat :=
  if b ≤ a then some (a - b) else none

/-- The place behind another one on a circle, if the circle has places. -/
def placeAfter? (capacity place : Nat) : Option Nat :=
  if capacity = 0 then none else some ((place + 1) % capacity)

/-- Fill the cell at the write cursor, if there is one, and move on. -/
def fillCell? (r : Ring capacity) (b : UInt8) : Option (Ring capacity) :=
  if inside : r.write < capacity then do
    let next ← placeAfter? capacity r.write
    some { r with cells := r.cells.set r.write b inside, write := next }
  else
    none

/-- Empty the cell at the read cursor, if there is one, and move on. -/
def emptyCell? (r : Ring capacity) : Option (UInt8 × Ring capacity) :=
  if inside : r.read < capacity then do
    let next ← placeAfter? capacity r.read
    some (r.cells[r.read], { r with read := next })
  else
    none

/-- Empty `n` cells. -/
def emptyCells? (r : Ring capacity) : Nat → Option (Bytes × Ring capacity)
  | 0 => some ([], r)
  | n + 1 => do
    let (b, r) ← r.emptyCell?
    let (bs, r) ← r.emptyCells? n
    some (b :: bs, r)

/-- **Do what is asked, cell by cell**, and settle the count at the end. -/
def performChecked? (r : Ring capacity) : RingCall → Option (RingAnswer × Ring capacity)
  | .append data => do
    let room ← difference? capacity r.count
    if room < data.length then
      some (.appended false, r)
    else
      let filled ← data.foldlM fillCell? r
      some (.appended true, { filled with count := r.count + data.length })
  | .readInto out => do
    let n := min out.length r.count
    let (bytes, emptied) ← r.emptyCells? n
    let left ← difference? r.count n
    some (.moved n (Bytes.overwrite out bytes), { emptied with count := left })
  | .clear => some (.cleared, r.clear)

/-- Do one thing after the other, as long as nothing fails. -/
def runChecked? (r : Ring capacity) : List RingCall → Option (List RingAnswer × Ring capacity)
  | [] => some ([], r)
  | call :: calls => do
    let (answer, next) ← r.performChecked? call
    let (answers, last) ← next.runChecked? calls
    some (answer :: answers, last)

/-- The ring with another count. -/
def recount (r : Ring capacity) (count : Nat) : Ring capacity :=
  { r with count }

theorem recount_push (r : Ring capacity) (count : Nat) (b : UInt8) :
    (r.recount count).push b = (r.push b).recount (count + 1) := rfl

theorem recount_foldl_push (r : Ring capacity) (count : Nat) (data : Bytes) :
    data.foldl push (r.recount count) = (data.foldl push r).recount (count + data.length) := by
  induction data generalizing r count with
  | nil => rfl
  | cons b data ih =>
    rw [List.foldl_cons, recount_push, ih, List.foldl_cons, List.length_cons, Nat.add_assoc,
      Nat.add_comm 1]

theorem recount_take (r : Ring capacity) (count n : Nat) :
    ((r.recount count).take n).1 = (r.take n).1 ∧
      ∃ left, ((r.recount count).take n).2 = (r.take n).2.recount left := by
  induction n generalizing r count with
  | zero => exact ⟨rfl, count, rfl⟩
  | succ n ih =>
    obtain ⟨bytes, left, rest⟩ := ih r.pop.2 (count - 1)
    exact ⟨congrArg (r.pop.1 :: ·) bytes, left, rest⟩

theorem count_take (r : Ring capacity) (n : Nat) : (r.take n).2.count = r.count - n := by
  induction n generalizing r with
  | zero => rfl
  | succ n ih =>
    have later : (r.pop.2.take n).2.count = r.count - 1 - n := ih r.pop.2
    change (r.pop.2.take n).2.count = _
    omega

theorem count_foldl_push (r : Ring capacity) (data : Bytes) :
    (data.foldl push r).count = r.count + data.length := by
  induction data generalizing r with
  | nil => rfl
  | cons b data ih =>
    rw [List.foldl_cons, ih, List.length_cons]
    change r.count + 1 + data.length = _
    omega

/-- Where there are cells, the next one can be filled. -/
theorem fillCell?_eq (inside : r.write < capacity) (b : UInt8) :
    r.fillCell? b = some ((r.push b).recount r.count) := by
  have places : capacity ≠ 0 := by omega
  have cell : r.cells.set r.write b inside = r.cells.setIfInBounds r.write b := by
    simp [Vector.set, Vector.setIfInBounds, Array.setIfInBounds, inside]
  simp [fillCell?, placeAfter?, inside, places, push, recount, cell]

theorem foldlM_fillCell? (inside : r.write < capacity) (data : Bytes) :
    data.foldlM fillCell? r = some ((data.foldl push r).recount r.count) := by
  induction data generalizing r with
  | nil => rfl
  | cons b data ih =>
    have next : (r.push b).write < capacity := Nat.mod_lt _ (by omega)
    have later := ih (r := (r.push b).recount r.count) next
    -- the count stands still until the end, so the ring of the next step is a recount
    rw [List.foldlM_cons, fillCell?_eq inside, Option.bind_eq_bind, Option.bind_some, later,
      recount_foldl_push]
    rfl

/-- And the next one can be emptied. -/
theorem emptyCell?_eq (inside : r.read < capacity) :
    r.emptyCell? = some (r.pop.1, r.pop.2.recount r.count) := by
  have places : capacity ≠ 0 := by omega
  simp [emptyCell?, placeAfter?, inside, places, pop, recount]

theorem emptyCells?_eq (inside : r.read < capacity) (n : Nat) :
    r.emptyCells? n = some ((r.take n).1, (r.take n).2.recount r.count) := by
  induction n generalizing r with
  | zero => rfl
  | succ n ih =>
    have next : r.pop.2.read < capacity := Nat.mod_lt _ (by omega)
    have later := ih (r := r.pop.2.recount r.count) next
    obtain ⟨bytes, left, rest⟩ := recount_take r.pop.2 r.count n
    simp only [emptyCells?, emptyCell?_eq inside, Option.bind_eq_bind, Option.bind_some, later,
      bytes, rest]
    rfl

/-- **On a sound ring no step fails**, and the steps come to what the ring
does. -/
theorem performChecked?_eq (sound : r.Sound) (call : RingCall) :
    r.performChecked? call = some (r.perform call) := by
  have held := sound.count_le
  cases call with
  | append data =>
    have room : difference? capacity r.count = some r.free := if_pos held
    simp only [performChecked?, room, Option.bind_eq_bind, Option.bind_some, perform, append?]
    by_cases fits : data.length ≤ r.free
    · rw [if_neg (Nat.not_lt.2 fits), if_pos fits]
      rcases data with _ | ⟨b, data⟩
      · rfl
      · -- there is room for one octet at least, so there are cells
        have inside : r.write < capacity := by
          rw [sound.write_eq]
          refine Nat.mod_lt _ ?_
          rw [free, List.length_cons] at fits
          omega
        rw [foldlM_fillCell? inside, Option.bind_some, ← count_foldl_push]
        rfl
    · rw [if_pos (Nat.not_le.1 fits), if_neg fits]
  | readInto out =>
    have left : difference? r.count (min out.length r.count) =
        some (r.count - min out.length r.count) := if_pos (Nat.min_le_right _ _)
    have emptied : r.emptyCells? (min out.length r.count) =
        some ((r.take (min out.length r.count)).1,
          (r.take (min out.length r.count)).2.recount r.count) := by
      rcases Nat.eq_zero_or_pos capacity with none | places
      · have nothing : min out.length r.count = 0 := by omega
        rw [nothing]
        rfl
      · exact emptyCells?_eq (sound.read_lt places) _
    simp only [performChecked?, emptied, left, Option.bind_eq_bind, Option.bind_some, perform,
      readInto, ← count_take]
    rfl
  | clear => rfl

theorem runChecked?_eq (sound : r.Sound) (calls : List RingCall) :
    r.runChecked? calls = some (r.run calls) := by
  induction calls generalizing r with
  | nil => rfl
  | cons call calls ih =>
    have later := ih (perform_onQueue sound call).1
    simp only [runChecked?, performChecked?_eq sound, Option.bind_eq_bind, Option.bind_some, later,
      run]

/-- **A ring is a bounded queue.** Whatever is asked of an empty ring, in
whatever order, it answers as a queue of at most `capacity` octets does,
and its cells spell that queue. What it says of itself is true of the
queue, its cursors stand where the count says, and no step of it ever
fails. -/
theorem empty_is_bounded_queue (capacity : Nat) (calls : List RingCall) :
    let r := ((empty : Ring capacity).run calls).2
    let queue := (RingCall.allOnQueue capacity [] calls).2
    (empty : Ring capacity).runChecked? calls =
        some ((RingCall.allOnQueue capacity [] calls).1, r) ∧
      ((empty : Ring capacity).run calls).1 = (RingCall.allOnQueue capacity [] calls).1 ∧
      r.toList = queue ∧ queue.length ≤ capacity ∧
      (r.count = queue.length ∧ r.free = capacity - queue.length ∧
        (r.isEmpty = true ↔ queue = []) ∧ (r.isFull = true ↔ queue.length = capacity)) ∧
      r.write = (r.read + r.count) % capacity ∧ r.count ≤ capacity ∧
      (0 < capacity → r.read < capacity ∧ r.write < capacity) := by
  intro r queue
  obtain ⟨sound, same⟩ := run_onQueue (r := (empty : Ring capacity)) sound_empty calls
  rw [toList_empty] at same
  have answers : (RingCall.allOnQueue capacity [] calls).1 =
      ((empty : Ring capacity).run calls).1 := congrArg Prod.fst same
  have list : queue = r.toList := congrArg Prod.snd same
  have length : queue.length = r.count := by rw [list, length_toList]
  have sound : r.Sound := sound
  refine ⟨?_, answers.symm, list.symm, length ▸ sound.count_le, ⟨length.symm, ?_, ?_, ?_⟩,
    sound.write_eq, sound.count_le, fun places => ⟨sound.read_lt places, ?_⟩⟩
  · rw [answers]
    exact runChecked?_eq sound_empty calls
  · rw [length]
    rfl
  · rw [← List.length_eq_zero_iff, length]
    exact decide_eq_true_iff
  · rw [length]
    exact decide_eq_true_iff
  · rw [sound.write_eq]
    exact Nat.mod_lt _ places

/-- Octets that were queued across the last cell are read in order. -/
example :
    (((empty : Ring 4).run [.append [1, 2, 3], .readInto [0, 0], .append [4, 5, 6]]).2).toList =
      [3, 4, 5, 6] := by
  decide

end Ring

end AudioGadget
