import Rtdk.Memory

/-! Locality of memory edits. An edit that works on the first `n` cells changes
none of the others (`Untouched`) and does the same to two memories that agree on
those cells (`Agree`). Block writes and block reads that end before `n` are
local, and locality is kept by composition; so a bound on every block of a
program bounds the program. -/

namespace Rtdk.Local
open Rtdk.Memory

variable {α : Type} {n : Nat} {a b c a' : Mem α}

/-- The two memories agree on the first `n` cells. -/
def Agree (n : Nat) (a b : Mem α) : Prop := ∀ i, i < n → a i = b i

/-- From cell `n` on, nothing was changed. -/
def Untouched (n : Nat) (a b : Mem α) : Prop := ∀ i, n ≤ i → b i = a i

theorem Untouched.refl (n : Nat) (a : Mem α) : Untouched n a a := fun _ _ => rfl

theorem Untouched.trans (h : Untouched n a b) (h' : Untouched n b c) : Untouched n a c := by
  intro i hi
  rw [h' i hi, h i hi]

theorem Untouched.write (h : Untouched n a b) (off : Nat) (xs : List α)
    (hfit : off + xs.length ≤ n) : Untouched n a (write b off xs) := by
  intro i hi
  rw [write_above b off xs i (by omega)]
  exact h i hi

/-- A block write of one cell or more that ends behind `n` shows in some memory. -/
theorem untouched_write_fits (off : Nat) {xs : List α} (hne : xs ≠ []) {b : Mem α} {x : α}
    (hx : x ≠ xs.getLast hne) (h : Untouched n (fun _ => x) (Memory.write b off xs)) :
    off + xs.length ≤ n := by
  by_contra hout
  have hpos : 0 < xs.length := List.length_pos_of_ne_nil hne
  have hcell := h (off + (xs.length - 1)) (by omega)
  rw [write_inside b off xs (xs.length - 1) (by omega)] at hcell
  exact hx (by rw [List.getLast_eq_getElem]; exact hcell.symm)

theorem Agree.write (h : Agree n a b) (off : Nat) (xs : List α) :
    Agree n (write a off xs) (write b off xs) := by
  intro i hi
  unfold Memory.write
  rw [h i hi]

theorem Agree.slice (h : Agree n a b) {off k : Nat} (hfit : off + k ≤ n) :
    slice a off k = slice b off k :=
  slice_congr fun i hi => h (off + i) (by omega)

end Rtdk.Local
