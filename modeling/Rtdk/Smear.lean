import Mathlib.Algebra.Ring.Nat
import Mathlib.Data.Nat.Size

/-! Rounding up to a power of two by smearing bits.

Or-ing a number with itself shifted right copies every bit to a lower place. When
the distance doubles each time, all places below the highest bit are filled after
as many rounds as the width has binary digits. -/

namespace Rtdk.Smear

variable {x y n i : Nat}

def spread (x n : Nat) : Nat := x ||| x >>> n

theorem testBit_spread : (spread x n).testBit i = (x.testBit i || x.testBit (n + i)) := by
  rw [spread, Nat.testBit_or, Nat.testBit_shiftRight]

/-- The bits of `y` are those of `x`, each copied to the `n - 1` places below it. -/
def Covers (x y n : Nat) : Prop :=
  ∀ i, y.testBit i = true ↔ ∃ j < n, x.testBit (i + j) = true

theorem covers_one (x : Nat) : Covers x x 1 := by
  intro i
  constructor
  · intro h
    exact ⟨0, by omega, h⟩
  · rintro ⟨j, hj, h⟩
    have hj0 : j = 0 := by omega
    rwa [hj0] at h

theorem Covers.spread (h : Covers x y n) : Covers x (spread y n) (n + n) := by
  intro i
  rw [testBit_spread, Bool.or_eq_true, h i, h (n + i)]
  constructor
  · rintro (⟨j, hj, hbit⟩ | ⟨j, hj, hbit⟩)
    · exact ⟨j, by omega, hbit⟩
    · refine ⟨n + j, by omega, ?_⟩
      rwa [show i + (n + j) = n + i + j by omega]
  · rintro ⟨j, hj, hbit⟩
    by_cases hlow : j < n
    · exact .inl ⟨j, hlow, hbit⟩
    · refine .inr ⟨j - n, by omega, ?_⟩
      rwa [show n + i + (j - n) = i + j by omega]

/-- Wide enough, the copies fill everything below the highest bit. -/
theorem Covers.eq (h : Covers x y n) (hx : x < 2 ^ n) : y = 2 ^ x.size - 1 := by
  apply Nat.eq_of_testBit_eq
  intro i
  rw [Nat.testBit_two_pow_sub_one, Bool.eq_iff_iff, h i, decide_eq_true_iff, Nat.lt_size]
  constructor
  · rintro ⟨j, -, hbit⟩
    exact Nat.le_trans (Nat.pow_le_pow_right Nat.two_pos (Nat.le_add_right i j))
      (Nat.ge_two_pow_of_testBit hbit)
  · intro hle
    obtain ⟨k, hk, hbit⟩ := Nat.exists_ge_and_testBit_of_ge_two_pow hle
    have hlt : 2 ^ k < 2 ^ n := Nat.lt_of_le_of_lt (Nat.ge_two_pow_of_testBit hbit) hx
    have hkn : k < n := (Nat.pow_lt_pow_iff_right (by omega)).mp hlt
    refine ⟨k - i, by omega, ?_⟩
    rwa [show i + (k - i) = k by omega]

/-- Five rounds for 32 bits. -/
def smear (x : Nat) : Nat := spread (spread (spread (spread (spread x 1) 2) 4) 8) 16

theorem smear_eq (hx : x < 2 ^ 32) : smear x = 2 ^ x.size - 1 := by
  have h : Covers x (smear x) 32 := (covers_one x).spread.spread.spread.spread.spread
  exact h.eq hx

theorem smear_succ (hx : x < 2 ^ 32) : smear x + 1 = 2 ^ x.size := by
  have hpos : 0 < 2 ^ x.size := Nat.two_pow_pos x.size
  rw [smear_eq hx]
  omega

end Rtdk.Smear
