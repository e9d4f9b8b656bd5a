import Mathlib
/-!
# Word — unsigned machine arithmetic on natural numbers

A `u64` (and a `usize` of the 64-bit targets) is a natural number up to `u64Max`, a `u32` one up to `u32Max`.  Saturating
subtraction is the subtraction of `ℕ`; the other operations say where they leave the range.
-/
namespace Word

def u64Max : ℕ := 2 ^ 64 - 1

/-- `saturating_add`. -/
def satAdd (a b : ℕ) : ℕ := min (a + b) u64Max

/-- An addition whose overflow wraps. -/
def wrapAdd (a b : ℕ) : ℕ := (a + b) % 2 ^ 64

def u32Max : ℕ := 2 ^ 32 - 1

/-- `saturating_add` of 32-bit numbers. -/
def satAdd32 (a b : ℕ) : ℕ := min (a + b) u32Max

/-- `saturating_mul`. -/
def satMul (a b : ℕ) : ℕ := min (a * b) u64Max

/-- `saturating_mul` of 32-bit numbers. -/
def satMul32 (a b : ℕ) : ℕ := min (a * b) u32Max

theorem satAdd_of_le {a b : ℕ} (h : a + b ≤ u64Max) : satAdd a b = a + b := Nat.min_eq_left h

theorem satAdd32_of_le {a b : ℕ} (h : a + b ≤ u32Max) : satAdd32 a b = a + b := Nat.min_eq_left h

end Word
