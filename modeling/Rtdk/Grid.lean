import Mathlib.Data.Nat.ModEq
import Mathlib.Data.Set.Card
import Mathlib.Order.Interval.Finset.Nat

/-! Equally spaced points in time.

`point s c k` is the `k`-th point of the grid that starts at `s` with the
spacing `c`. The first point after a time `t` is its `boundary`. -/

namespace Rtdk.Grid

def point (s c k : Nat) : Nat := s + k * c

/-- The whole spacings between the start of the grid and `t`. -/
def elapsed (s c t : Nat) : Nat := (t - s) / c

/-- The first point after `t`. -/
def boundary (s c t : Nat) : Nat := point s c (elapsed s c t + 1)

variable {s c t t' x : Nat}

theorem point_zero (s c : Nat) : point s c 0 = s := by
  simp [point]

theorem point_succ (s c k : Nat) : point s c (k + 1) = point s c k + c := by
  simp only [point, Nat.add_mul, Nat.one_mul, Nat.add_assoc]

theorem point_mono (s c : Nat) : Monotone (point s c) := by
  intro j k hjk
  exact Nat.add_le_add_left (Nat.mul_le_mul_right c hjk) s

theorem boundary_eq (s c t : Nat) : boundary s c t = point s c (elapsed s c t) + c :=
  point_succ s c _

theorem elapsed_mono (s c : Nat) : Monotone (elapsed s c) := by
  intro t t' htt
  exact Nat.div_le_div_right (Nat.sub_le_sub_right htt s)

theorem boundary_mono (s c : Nat) : Monotone (boundary s c) := by
  intro t t' htt
  exact point_mono s c (Nat.add_le_add_right (elapsed_mono s c htt) 1)

theorem point_elapsed_le (hst : s ≤ t) : point s c (elapsed s c t) ≤ t := by
  have h := Nat.div_mul_le_self (t - s) c
  unfold point elapsed
  omega

theorem lt_boundary (hc : 0 < c) (hst : s ≤ t) : t < boundary s c t := by
  have h := Nat.lt_div_mul_add (a := t - s) hc
  rw [boundary_eq]
  unfold point elapsed
  omega

/-- Two different boundaries are at least one spacing apart. -/
theorem boundary_add_le (h : boundary s c t < boundary s c t') :
    boundary s c t + c ≤ boundary s c t' := by
  have hlt : elapsed s c t < elapsed s c t' := by
    by_contra hge
    have hle := point_mono s c (Nat.add_le_add_right (Nat.le_of_not_lt hge) 1)
    exact absurd h (Nat.not_lt.mpr hle)
  rw [boundary, ← point_succ]
  exact point_mono s c (by omega)

/-- A time between two neighbouring points counts from the lower one. -/
theorem elapsed_of_between {k : Nat} (hlo : point s c k ≤ x) (hhi : x < point s c k + c) :
    elapsed s c x = k := by
  unfold point at hlo hhi
  unfold elapsed
  apply Nat.div_eq_of_lt_le
  · omega
  · rw [Nat.add_mul, Nat.one_mul]
    omega

theorem point_elapsed_add_mod (hsx : s ≤ x) : point s c (elapsed s c x) + (x - s) % c = x := by
  have h := Nat.div_add_mod (x - s) c
  rw [Nat.mul_comm] at h
  unfold point elapsed
  omega

/-- If the last of the first `m` points is not after `t`, none of them is. -/
theorem le_encard_points {m : Nat} (h : m = 0 ∨ point s c (m - 1) ≤ t) :
    (m : ℕ∞) ≤ {k : Nat | point s c k ≤ t}.encard := by
  have hsub : (Finset.range m : Set Nat) ⊆ {k : Nat | point s c k ≤ t} := by
    intro k hk
    have hk : k < m := by simpa using hk
    rcases h with h | h
    · omega
    · exact (point_mono s c (by omega : k ≤ m - 1)).trans h
  have hcard := Set.encard_le_encard hsub
  rwa [Set.encard_coe_eq_coe_finsetCard, Finset.card_range] at hcard

end Rtdk.Grid
