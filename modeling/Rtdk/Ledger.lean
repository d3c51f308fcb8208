import Mathlib.Algebra.BigOperators.Group.Finset.Basic
import Mathlib.Algebra.Order.Group.Multiset
import Mathlib.Algebra.Order.Sub.Basic
import Mathlib.Data.Fintype.BigOperators

/-! Where things are.

A ledger says for each of finitely many places which things are there. Moving
things from one place to another keeps the total; taking things away makes it
smaller by just these things. -/

namespace Rtdk.Ledger

variable {P B : Type} [Fintype P] [DecidableEq P]

def total (l : P → Multiset B) : Multiset B := ∑ p, l p

theorem total_split (l : P → Multiset B) (p : P) :
    total l = l p + ∑ x ∈ Finset.univ.erase p, l x :=
  (Finset.add_sum_erase _ _ (Finset.mem_univ p)).symm

theorem total_update (l : P → Multiset B) (p : P) (m : Multiset B) :
    total (Function.update l p m) = m + ∑ x ∈ Finset.univ.erase p, l x := by
  rw [total_split _ p, Function.update_self]
  congr 1
  apply Finset.sum_congr rfl
  intro x hx
  exact Function.update_of_ne (Finset.ne_of_mem_erase hx) _ _

theorem total_add (l : P → Multiset B) (q : P) (s : Multiset B) :
    total (Function.update l q (l q + s)) = total l + s := by
  rw [total_update, total_split l q, add_right_comm]

variable [DecidableEq B] {l : P → Multiset B} {p q : P} {s : Multiset B}

def move (p q : P) (s : Multiset B) (l : P → Multiset B) : P → Multiset B :=
  Function.update (Function.update l p (l p - s)) q (l q + s)

def remove (p : P) (s : Multiset B) (l : P → Multiset B) : P → Multiset B :=
  Function.update l p (l p - s)

omit [Fintype P] in
/-- Everything that is at a place moves. -/
theorem move_all (p q : P) (l : P → Multiset B) :
    move p q (l p) l = Function.update (Function.update l p 0) q (l q + l p) := by
  have hnone : l p - l p = 0 := by
    rw [← zero_add (l p - l p), ← add_tsub_assoc_of_le le_rfl, add_tsub_cancel_right]
  rw [move, hnone]

theorem total_remove (hs : s ≤ l p) : total (remove p s l) + s = total l := by
  rw [remove, total_update, total_split l p, add_right_comm, tsub_add_cancel_of_le hs]

theorem total_move (hpq : p ≠ q) (hs : s ≤ l p) : total (move p q s l) = total l := by
  have hq : l q = remove p s l q := (Function.update_of_ne hpq.symm _ _).symm
  have hmove : move p q s l = Function.update (remove p s l) q (remove p s l q + s) := by
    rw [move, hq]
    rfl
  rw [hmove, total_add, total_remove hs]

omit [DecidableEq B] in
/-- What is at one place only is not at another. -/
theorem disjoint_of_nodup (h : (total l).Nodup) (hpq : p ≠ q) : Disjoint (l p) (l q) := by
  have hq : q ∈ Finset.univ.erase p := Finset.mem_erase.mpr ⟨hpq.symm, Finset.mem_univ q⟩
  rw [total_split l p, ← Finset.add_sum_erase _ _ hq] at h
  exact (Multiset.disjoint_add_right.mp (Multiset.nodup_add.mp h).2.2).1

end Rtdk.Ledger
