import Mathlib.Algebra.Order.BigOperators.Group.List
import Mathlib.Algebra.Order.Group.Nat
import Mathlib.Algebra.Ring.Nat
import Mathlib.Data.List.Induction
import Mathlib.Data.Nat.Cast.Basic
import Mathlib.Order.Bounds.Basic

/-! Running minima, maxima and sums.

A running minimum starts at some value and takes over every smaller one. It is
the least of the values it has seen just when one of them is not above the
value it started at. A running sum in a number format that rounds is exact at
every step just when no addition rounds. -/

namespace Rtdk.Extremes

variable {α : Type} [LinearOrder α] {start x : α} {xs : List α}

def runMin (start : α) (xs : List α) : α := xs.foldl min start

def runMax (start : α) (xs : List α) : α := xs.foldl max start

@[simp] theorem runMin_nil (start : α) : runMin start [] = start := rfl

@[simp] theorem runMax_nil (start : α) : runMax start [] = start := rfl

@[simp] theorem runMin_snoc (start x : α) (xs : List α) :
    runMin start (xs ++ [x]) = min (runMin start xs) x := by
  simp [runMin]

@[simp] theorem runMax_snoc (start x : α) (xs : List α) :
    runMax start (xs ++ [x]) = max (runMax start xs) x := by
  simp [runMax]

theorem runMin_le_start (start : α) (xs : List α) : runMin start xs ≤ start := by
  induction xs generalizing start with
  | nil => exact le_rfl
  | cons y ys ih => exact (ih (min start y)).trans (min_le_left start y)

theorem runMin_le_of_mem (h : x ∈ xs) : runMin start xs ≤ x := by
  induction xs generalizing start with
  | nil => simp at h
  | cons y ys ih =>
    rcases List.mem_cons.mp h with rfl | hys
    · exact (runMin_le_start (min start x) ys).trans (min_le_right start x)
    · exact ih hys

theorem runMin_eq_or_mem (start : α) (xs : List α) :
    runMin start xs = start ∨ runMin start xs ∈ xs := by
  induction xs generalizing start with
  | nil => exact .inl rfl
  | cons y ys ih =>
    rcases ih (min start y) with hstart | hmem
    · rcases min_choice start y with hmin | hmin
      · exact .inl (hstart.trans hmin)
      · exact .inr (List.mem_cons.mpr (.inl (hstart.trans hmin)))
    · exact .inr (List.mem_cons_of_mem y hmem)

theorem isLeast_runMin_iff :
    IsLeast {y | y ∈ xs} (runMin start xs) ↔ ∃ y ∈ xs, y ≤ start := by
  constructor
  · intro h
    exact ⟨runMin start xs, h.1, runMin_le_start start xs⟩
  · rintro ⟨y, hy, hys⟩
    refine ⟨?_, fun z hz => runMin_le_of_mem hz⟩
    rcases runMin_eq_or_mem start xs with hstart | hmem
    · have hle : start ≤ y := by
        rw [← hstart]
        exact runMin_le_of_mem hy
      have hy' : start = y := le_antisymm hle hys
      rw [Set.mem_ofPred_eq, hstart, hy']
      exact hy
    · exact hmem

theorem isGreatest_runMax_iff :
    IsGreatest {y | y ∈ xs} (runMax start xs) ↔ ∃ y ∈ xs, start ≤ y :=
  isLeast_runMin_iff (α := αᵒᵈ)

/-- The average lies between every lower and every upper bound of the values. -/
theorem average_bounds {xs : List Nat} {lo hi : Nat} (hne : xs ≠ [])
    (hlo : ∀ x ∈ xs, lo ≤ x) (hhi : ∀ x ∈ xs, x ≤ hi) :
    lo ≤ xs.sum / xs.length ∧ xs.sum / xs.length ≤ hi := by
  have hpos : 0 < xs.length := List.length_pos_iff.mpr hne
  have hleast : xs.length * lo ≤ xs.sum := by
    simpa using List.card_nsmul_le_sum xs lo hlo
  have hmost : xs.sum ≤ xs.length * hi := by
    simpa using List.sum_le_card_nsmul xs hi hhi
  constructor
  · rw [Nat.le_div_iff_mul_le hpos, Nat.mul_comm]
    exact hleast
  · exact Nat.div_le_of_le_mul hmost

/-! ## Sums that are rounded -/

section rounded

variable {round : Nat → Nat} {ns : List Nat}

/-- Each value is rounded to the format of the sum, and so is each sum. -/
def runSum (round : Nat → Nat) (ns : List Nat) : Nat :=
  ns.foldl (fun sum n => round (sum + round n)) 0

@[simp] theorem runSum_nil (round : Nat → Nat) : runSum round [] = 0 := rfl

@[simp] theorem runSum_snoc (round : Nat → Nat) (ns : List Nat) (n : Nat) :
    runSum round (ns ++ [n]) = round (runSum round ns + round n) := by
  simp [runSum]

/-- Adding a value to the true sum of those before it gives the true sum. -/
def Unrounded (round : Nat → Nat) (ns : List Nat) : Prop :=
  ∀ ms n, ms ++ [n] <+: ns → round (ms.sum + round n) = ms.sum + n

theorem Unrounded.runSum_eq (h : Unrounded round ns) : runSum round ns = ns.sum := by
  induction ns using List.reverseRecOn with
  | nil => rfl
  | append_singleton ns n ih =>
    have hns : Unrounded round ns := fun ms m hm => h ms m (List.prefix_append_of_prefix hm)
    rw [runSum_snoc, ih hns, h ns n (List.prefix_refl _)]
    simp

theorem unrounded_iff : Unrounded round ns ↔ ∀ ms, ms <+: ns → runSum round ms = ms.sum := by
  constructor
  · intro h ms hms
    exact Unrounded.runSum_eq fun ms' n hm => h ms' n (hm.trans hms)
  · intro h ms n hms
    have hbefore := h ms ((List.prefix_append ms [n]).trans hms)
    have hafter := h _ hms
    rw [runSum_snoc, hbefore] at hafter
    rw [hafter]
    simp

/-- Small sums are exact in a format that keeps small numbers. -/
theorem unrounded_of_sum_lt {bound : Nat} (hround : ∀ n, n < bound → round n = n)
    (h : ns.sum < bound) : Unrounded round ns := by
  intro ms n hms
  have hle : (ms ++ [n]).sum ≤ ns.sum := hms.sublist.sum_le_sum fun _ _ => Nat.zero_le _
  have hsum : (ms ++ [n]).sum = ms.sum + n := by simp
  rw [hround n (by omega), hround _ (by omega)]

end rounded

end Rtdk.Extremes
