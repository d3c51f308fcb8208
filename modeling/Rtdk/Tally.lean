import Mathlib.Algebra.BigOperators.Group.List.Basic
import Mathlib.Algebra.Ring.Nat
import Mathlib.Data.UInt
import Mathlib.Logic.Function.Basic

/-! Arrays of counters.

A tally sorts samples into the values of a range, one counter for each value, and
into what lies below and above. Every sample is in exactly one place
(`length_eq_parts`), and a counter of a machine word holds the number of its
samples modulo the size of the word (`Counts`). -/

namespace Rtdk.Tally

/-! ## Samples below, in and above a range -/

theorem sum_range_indicator (lo n x : Nat) :
    ((List.range n).map fun i => if x = lo + i then 1 else 0).sum =
      if lo ≤ x ∧ x < lo + n then 1 else 0 := by
  induction n with
  | zero =>
    rw [if_neg (by omega)]
    rfl
  | succ n ih =>
    rw [List.range_succ, List.map_append, List.sum_append, ih]
    simp only [List.map_cons, List.map_nil, List.sum_singleton]
    split <;> split <;> split <;> omega

theorem sum_map_add (f g : Nat → Nat) (is : List Nat) :
    (is.map fun i => f i + g i).sum = (is.map f).sum + (is.map g).sum := by
  induction is with
  | nil => rfl
  | cons i is ih =>
    simp only [List.map_cons, List.sum_cons, ih]
    omega

/-- **Conservation.**  Every sample is below the range, above it, or counted for
exactly one of its values. -/
theorem length_eq_parts (lo n : Nat) (xs : List Nat) :
    xs.length = xs.countP (fun x => decide (x < lo)) + xs.countP (fun x => decide (lo + n ≤ x)) +
      ((List.range n).map fun i => xs.count (lo + i)).sum := by
  induction xs with
  | nil =>
    simp
  | cons x xs ih =>
    simp only [List.countP_cons, List.count_cons, List.length_cons, sum_map_add, beq_iff_eq,
      sum_range_indicator, decide_eq_true_eq]
    split <;> split <;> split <;> omega

/-! ## Counters of 64 bits -/

/-- The counters hold the first `n` values of `f`, modulo `2^64`. -/
structure Counts (data : List UInt64) (n : Nat) (f : Nat → Nat) : Prop where
  length : data.length = n
  entry : ∀ i, i < n → data[i]? = some (UInt64.ofNat (f i))

variable {data : List UInt64} {n : Nat} {f g : Nat → Nat}

theorem counts_zero (n : Nat) : Counts (List.replicate n 0) n fun _ => 0 :=
  ⟨List.length_replicate, fun i hi => by rw [List.getElem?_replicate, if_pos hi]; rfl⟩

theorem Counts.congr (h : Counts data n f) (hfg : ∀ i, i < n → f i = g i) : Counts data n g :=
  ⟨h.length, fun i hi => by rw [h.entry i hi, hfg i hi]⟩

/-- One more sample of one value. -/
theorem Counts.bump (h : Counts data n f) (i : Nat) :
    Counts (data.modify i (· + 1)) n fun j => f j + if j = i then 1 else 0 := by
  refine ⟨(List.length_modify _ _ _).trans h.length, fun j hj => ?_⟩
  rw [List.getElem?_modify, h.entry j hj]
  by_cases hij : i = j
  · subst hij
    simp [UInt64.ofNat_add]
  · simp [hij, Ne.symm hij]

theorem Counts.eq_map (h : Counts data n f) :
    data = (List.range n).map fun i => UInt64.ofNat (f i) := by
  apply List.ext_getElem?
  intro i
  by_cases hi : i < n
  · simp [h.entry i hi, hi]
  · rw [List.getElem?_eq_none (by rw [h.length]; omega), List.getElem?_eq_none (by simp; omega)]

theorem sum_map_ofNat (f : Nat → Nat) (is : List Nat) :
    (is.map fun i => UInt64.ofNat (f i)).sum = UInt64.ofNat (is.map f).sum := by
  induction is with
  | nil => rfl
  | cons i is ih => simp only [List.map_cons, List.sum_cons, ih, UInt64.ofNat_add]

/-- The sum of the counters is the number of samples they have counted. -/
theorem Counts.sum (h : Counts data n f) : data.sum = UInt64.ofNat ((List.range n).map f).sum := by
  rw [h.eq_map, sum_map_ofNat]

/-- An array of counters against a function that counts the same samples. -/
theorem modify_agrees {c : Nat → UInt64} (h : ∀ i n, data[i]? = some n → c i = n) (k i : Nat)
    (n : UInt64) (hn : (data.modify k (· + 1))[i]? = some n) :
    Function.update c k (c k + 1) i = n := by
  rw [List.getElem?_modify] at hn
  cases hi : data[i]? with
  | none => simp [hi] at hn
  | some v =>
    rw [hi] at hn
    have hv := h i v hi
    by_cases hki : k = i
    · subst hki
      rw [Function.update_self, hv]
      simpa using hn
    · rw [Function.update_of_ne (Ne.symm hki), hv]
      simpa [hki] using hn

end Rtdk.Tally
