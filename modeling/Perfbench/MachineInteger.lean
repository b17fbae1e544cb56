import Mathlib.Algebra.Ring.Nat
import Mathlib.Algebra.Ring.Int.Defs

/-!
# The 32-bit integers of the program

`uint32_t` values are natural numbers that every operation reduces modulo
`2 ^ 32`; `int` values are integers wrapped into two's complement.
-/

namespace Perfbench

/-- The value a `uint32_t` keeps of a natural number. -/
def uint32 (value : Nat) : Nat := value % 2 ^ 32

/-- `value - 1` in `uint32_t`. -/
def uint32Pred (value : Nat) : Nat := (2 ^ 32 - 1 + value) % 2 ^ 32

/-- The value an `int` keeps of an integer. -/
def int32 (value : Int) : Int := value.bmod (2 ^ 32)

/-- An `int` passed as a `uint32_t`. -/
def uint32OfInt (value : Int) : Nat := (value % 2 ^ 32).toNat

theorem uint32OfInt_int32 (value : Nat) :
    uint32OfInt (int32 value) = uint32 value := by
  have congruent : int32 value % (2 ^ 32 : Nat) =
      (value : Int) % (2 ^ 32 : Nat) := Int.bmod_emod
  simp only [uint32OfInt, uint32]
  omega

theorem uint32_lt (value : Nat) : uint32 value < 2 ^ 32 :=
  Nat.mod_lt _ (by decide)

theorem uint32Pred_lt (value : Nat) : uint32Pred value < 2 ^ 32 :=
  Nat.mod_lt _ (by decide)

theorem uint32Pred_of_pos {value : Nat} (positive : 0 < value)
    (small : value < 2 ^ 32) : uint32Pred value = value - 1 := by
  simp only [uint32Pred]
  omega

theorem uint32_of_lt {value : Nat} (small : value < 2 ^ 32) :
    uint32 value = value :=
  Nat.mod_eq_of_lt small

theorem int32_of_bounds {value : Int} (lower : -2 ^ 31 ≤ value)
    (upper : value < 2 ^ 31) : int32 value = value := by
  apply Int.bmod_eq_of_le
  · simpa using lower
  · simpa using upper

theorem int32_le (value : Nat) : int32 value ≤ value := by
  unfold int32
  rw [Int.bmod_def]
  split
  · omega
  · omega

theorem int32_succ (value : Int) :
    int32 (int32 value + 1) = int32 (value + 1) :=
  Int.bmod_add_bmod

/-- Counting in an `int` wraps at the largest one only. -/
theorem int32_succ_cases {value : Int} (lower : -2 ^ 31 ≤ value)
    (upper : value < 2 ^ 31) :
    int32 (value + 1) = value + 1 ∧ value + 1 < 2 ^ 31 ∨
      int32 (value + 1) = value + 1 - 2 ^ 32 ∧ value + 1 = 2 ^ 31 := by
  rcases Int.lt_or_le (value + 1) (2 ^ 31) with fits | wraps
  · exact .inl ⟨int32_of_bounds (by omega) fits, fits⟩
  · have largest : value + 1 = 2 ^ 31 := by omega
    refine .inr ⟨?_, largest⟩
    rw [largest]
    decide

theorem int32_bounds (value : Int) :
    -2 ^ 31 ≤ int32 value ∧ int32 value < 2 ^ 31 := by
  have lower := @Int.le_bmod value (2 ^ 32) (by decide)
  have upper := @Int.bmod_lt value (2 ^ 32) (by decide)
  rw [int32]
  omega

/-- Counting in an `int` never stays put, not even where it wraps. -/
theorem int32_succ_ne (value : Int) : int32 (value + 1) ≠ value := by
  intro same
  have congruent : (value + 1).bmod (2 ^ 32) % (2 ^ 32 : Nat) =
      (value + 1) % (2 ^ 32 : Nat) := Int.bmod_emod
  rw [int32] at same
  rw [same] at congruent
  omega

/-- `std::max((int)value, 0)` for a `uint32_t` value. -/
def clampToInt (value : Nat) : Nat := (max (int32 value) 0).toNat

theorem clampToInt_of_lt {value : Nat} (small : value < 2 ^ 31) :
    clampToInt value = value := by
  have kept : int32 value = value :=
    int32_of_bounds (by omega) (by omega)
  simp [clampToInt, kept]

/-- From `2 ^ 31` on the conversion to `int` is negative. -/
theorem int32_of_ge {value : Nat} (large : 2 ^ 31 ≤ value)
    (small : value < 2 ^ 32) : int32 value = (value : Int) - 2 ^ 32 := by
  have shifted : int32 ((value : Int) - 2 ^ 32) = (value : Int) - 2 ^ 32 :=
    int32_of_bounds (by omega) (by omega)
  have wrapped : ((value : Int) - 2 ^ 32).bmod (2 ^ 32) =
      (value : Int).bmod (2 ^ 32) := by
    have step := Int.sub_mul_bmod_self_right (value : Int) 1 (2 ^ 32)
    simpa using step
  rw [int32, wrapped] at shifted
  exact shifted

theorem clampToInt_of_ge {value : Nat} (large : 2 ^ 31 ≤ value)
    (small : value < 2 ^ 32) : clampToInt value = 0 := by
  have negative := int32_of_ge large small
  have atMost : max (int32 value) 0 = 0 := by
    rw [negative]
    omega
  simp [clampToInt, atMost]

theorem clampToInt_le {value : Nat} (small : value < 2 ^ 32) :
    clampToInt value ≤ value := by
  by_cases low : value < 2 ^ 31
  · rw [clampToInt_of_lt low]
  · rw [clampToInt_of_ge (by omega) small]
    exact Nat.zero_le value

theorem clampToInt_lt (value : Nat) : clampToInt value < 2 ^ 31 := by
  have bounds := int32_bounds value
  rw [clampToInt]
  omega

end Perfbench
