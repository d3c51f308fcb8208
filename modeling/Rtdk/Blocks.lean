import Mathlib.Algebra.Group.Defs
import Mathlib.Algebra.Ring.Nat
import Mathlib.Data.List.Basic

/-! Lists that arrive in blocks, and the differences between their leading elements.

`leaders` looks at the elements only, not at the blocks they arrive in; blocks of the
right length begin with them (`leaders_flatten`). `gapsAfter` takes differences with a
zero for "nothing before", and misses one after every zero (`gapsAfter_eq_iff`). -/

namespace Rtdk.Blocks

variable {α : Type}

/-! ## Leading elements -/

/-- Every `n`-th element, after `skip` others. -/
def leadersAfter (n : Nat) : Nat → List α → List α
  | _, [] => []
  | 0, x :: xs => x :: leadersAfter n (n - 1) xs
  | skip + 1, _ :: xs => leadersAfter n skip xs

def leaders (n : Nat) (xs : List α) : List α := leadersAfter n 0 xs

theorem leadersAfter_append (n : Nat) (xs ys : List α) :
    leadersAfter n xs.length (xs ++ ys) = leaders n ys := by
  induction xs with
  | nil => rfl
  | cons x xs ih => exact ih

/-- Blocks of `n` begin with the leaders, wherever empty ones stand between them. -/
theorem leaders_flatten {n : Nat} {blocks : List (List α)}
    (h : ∀ b ∈ blocks, b ≠ [] → b.length = n) :
    leaders n blocks.flatten = blocks.filterMap List.head? := by
  induction blocks with
  | nil => rfl
  | cons b blocks ih =>
    rw [List.forall_mem_cons] at h
    cases b with
    | nil => exact ih h.2
    | cons x xs =>
      have hlen : n - 1 = xs.length := by
        have hn := h.1 (List.cons_ne_nil x xs)
        rw [List.length_cons] at hn
        omega
      rw [List.flatten_cons, List.cons_append, leaders, leadersAfter, hlen, leadersAfter_append,
        ih h.2]
      rfl

/-! ## Blocks that are counted -/

/-- The elements that stand in blocks of exactly `n`. -/
def counted (n : Nat) (blocks : List (List α)) : Nat :=
  (blocks.map fun b => if b.length = n then n else 0).sum

theorem counted_cons (n : Nat) (b : List α) (blocks : List (List α)) :
    counted n (b :: blocks) = (if b.length = n then n else 0) + counted n blocks := List.sum_cons

theorem counted_le (n : Nat) (blocks : List (List α)) :
    counted n blocks ≤ blocks.flatten.length := by
  induction blocks with
  | nil => exact Nat.le_refl 0
  | cons b blocks ih =>
    rw [counted_cons, List.flatten_cons, List.length_append]
    split <;> omega

/-- Nothing is lost just if every block is empty or full. -/
theorem counted_eq_iff (n : Nat) (blocks : List (List α)) :
    counted n blocks = blocks.flatten.length ↔ ∀ b ∈ blocks, b ≠ [] → b.length = n := by
  induction blocks with
  | nil => simp [counted]
  | cons b blocks ih =>
    have hle := counted_le n blocks
    rw [List.forall_mem_cons, ← ih, ne_eq, ← List.length_eq_zero_iff, counted_cons,
      List.flatten_cons, List.length_append]
    split <;> omega

/-! ## Differences -/

section gaps
variable [Sub α]

/-- The differences of neighbours. -/
def gaps : List α → List α
  | [] => []
  | [_] => []
  | x :: y :: xs => (y - x) :: gaps (y :: xs)

theorem gaps_length (x : α) (xs : List α) : (gaps (x :: xs)).length = xs.length := by
  induction xs generalizing x with
  | nil => rfl
  | cons y xs ih => rw [gaps, List.length_cons, ih, List.length_cons]

variable [Zero α] [DecidableEq α]

/-- Differences to the element before, where a zero stands for none. -/
def gapsAfter : α → List α → List α
  | _, [] => []
  | prev, x :: xs => if prev = 0 then gapsAfter x xs else (x - prev) :: gapsAfter x xs

theorem gapsAfter_length (prev : α) (xs : List α) : (gapsAfter prev xs).length ≤ xs.length := by
  induction xs generalizing prev with
  | nil => exact Nat.le_refl 0
  | cons x xs ih =>
    have hx := ih x
    rw [gapsAfter]
    split
    · exact Nat.le_succ_of_le hx
    · exact Nat.succ_le_succ hx

theorem gapsAfter_eq_gaps_iff (prev : α) (xs : List α) :
    gapsAfter prev xs = gaps (prev :: xs) ↔ ∀ x ∈ (prev :: xs).dropLast, x ≠ 0 := by
  induction xs generalizing prev with
  | nil => simp [gapsAfter, gaps]
  | cons y xs ih =>
    rw [List.dropLast_cons_cons, List.forall_mem_cons, gapsAfter, gaps]
    split
    · rename_i hzero
      constructor
      · intro heq
        have hlen := gapsAfter_length y xs
        rw [heq, List.length_cons, gaps_length] at hlen
        omega
      · exact fun h => absurd hzero h.1
    · rename_i hne
      rw [List.cons_inj_right, ih]
      exact ⟨fun h => ⟨hne, h⟩, And.right⟩

/-- What precedes the first element, if anything does. -/
def before (prev : α) : List α := if prev = 0 then [] else [prev]

/-- **Differences with a zero for none.**  Right unless a zero is followed by something. -/
theorem gapsAfter_eq_iff (prev : α) (xs : List α) :
    gapsAfter prev xs = gaps (before prev ++ xs) ↔ ∀ x ∈ xs.dropLast, x ≠ 0 := by
  unfold before
  split
  · rename_i hzero
    subst hzero
    cases xs with
    | nil => simp [gapsAfter, gaps]
    | cons y xs =>
      rw [gapsAfter, if_pos rfl]
      exact gapsAfter_eq_gaps_iff y xs
  · rename_i hne
    rw [List.singleton_append, gapsAfter_eq_gaps_iff]
    cases xs with
    | nil => simp
    | cons y xs =>
      rw [List.dropLast_cons_cons, List.forall_mem_cons]
      exact and_iff_right hne

end gaps

end Rtdk.Blocks
