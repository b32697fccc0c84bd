/-!
# Counter — event counts that stop at the top

A counter holds what fits 32 bits and stays at the top. `add_add` is the
law that makes it exact: however a count is split into steps, the
counter shows the whole sum, capped once.
-/

namespace AudioGadget

/-- The largest count a counter shows: all of 32 bits. -/
def countLimit : Nat := 4294967295

/-- A count of events, capped at `countLimit`. -/
structure Counter where
  val : Nat
  val_le : val ≤ countLimit
deriving DecidableEq

namespace Counter

/-- The counter that shows `n`, or the limit where `n` is beyond it. -/
def ofNat (n : Nat) : Counter :=
  ⟨min n countLimit, Nat.min_le_right _ _⟩

instance : Inhabited Counter := ⟨ofNat 0⟩

/-- Count `n` more events. -/
def add (c : Counter) (n : Nat) : Counter :=
  ofNat (c.val + n)

/-- Count one more event. -/
def bump (c : Counter) : Counter :=
  c.add 1

@[ext] theorem ext {a b : Counter} (h : a.val = b.val) : a = b := by
  cases a
  cases b
  simp_all

@[simp] theorem val_ofNat (n : Nat) : (ofNat n).val = min n countLimit := rfl

@[simp] theorem val_add (c : Counter) (n : Nat) : (c.add n).val = min (c.val + n) countLimit := rfl

@[simp] theorem add_zero (c : Counter) : c.add 0 = c := by
  have := c.val_le
  ext
  simp only [val_add]
  omega

/-- **A count does not depend on how it is split.** -/
theorem add_add (c : Counter) (m n : Nat) : (c.add m).add n = c.add (m + n) := by
  ext
  simp only [val_add]
  omega

/-- Starting from zero, the counter shows the capped sum. -/
theorem ofNat_add (m n : Nat) : (ofNat m).add n = ofNat (m + n) := by
  ext
  simp only [val_add, val_ofNat]
  omega

@[simp] theorem default_add (n : Nat) : (default : Counter).add n = ofNat n := by
  change (ofNat 0).add n = ofNat n
  rw [ofNat_add, Nat.zero_add]

end Counter

end AudioGadget
