import Mathlib.Algebra.BigOperators.Group.List.Basic
import Mathlib.Data.Nat.ModEq

/-! One's complement sums of 16-bit words, and the checksums made from them.

A carry out of the 16 bits is added at the other end, so the sum is the sum of the
words modulo `65535`, with `65535` for every multiple but zero (`onesSum_eq`). A
message is good if its words, the checksum among them, sum up to all ones. -/

namespace Rtdk.OnesComplement

/-- Two words, with the carry brought around. -/
def onesAdd (a b : Nat) : Nat := (a + b) / 65536 + (a + b) % 65536

def onesSum (ws : List Nat) : Nat := ws.foldl onesAdd 0

/-- The value a one's complement sum has for a sum of words. -/
def residue (s : Nat) : Nat := if s = 0 then 0 else (s - 1) % 65535 + 1

theorem residue_lt (s : Nat) : residue s < 65536 := by
  unfold residue
  split <;> omega

theorem onesAdd_residue (s : Nat) {w : Nat} (hw : w < 65536) :
    onesAdd (residue s) w = residue (s + w) := by
  unfold onesAdd residue
  split
  · split <;> omega
  · rw [if_neg (by omega)]
    omega

theorem foldl_onesAdd {ws : List Nat} (h : ∀ w ∈ ws, w < 65536) (s : Nat) :
    ws.foldl onesAdd (residue s) = residue (s + ws.sum) := by
  induction ws generalizing s with
  | nil => simp
  | cons w ws ih =>
    rw [List.forall_mem_cons] at h
    rw [List.foldl_cons, onesAdd_residue s h.1, ih h.2, List.sum_cons, Nat.add_assoc]

/-- **The sum of a message.** -/
theorem onesSum_eq {ws : List Nat} (h : ∀ w ∈ ws, w < 65536) : onesSum ws = residue ws.sum := by
  have hfold := foldl_onesAdd h 0
  rw [Nat.zero_add] at hfold
  exact hfold

theorem residue_eq_allOnes {s : Nat} : residue s = 65535 ↔ s ≠ 0 ∧ s % 65535 = 0 := by
  unfold residue
  split <;> omega

/-- Folding the upper half of a 32-bit sum in twice leaves its residue. -/
theorem fold_twice {s : Nat} (h : s < 2 ^ 32) :
    (s / 65536 + s % 65536) / 65536 + (s / 65536 + s % 65536) % 65536 = residue s := by
  unfold residue
  split <;> omega

/-- **Checking.**  A message is good with its checksum in place of a zero. -/
theorem residue_add_complement {s : Nat} (h : s ≠ 0) :
    residue (s + (65535 - residue s)) = 65535 := by
  rw [residue_eq_allOnes]
  unfold residue
  rw [if_neg h]
  omega

/-- A good message stays good just if what is added to it is zero modulo `65535`. -/
theorem residue_add_iff {s t : Nat} (h : residue s = 65535) :
    residue (s + t) = 65535 ↔ t % 65535 = 0 := by
  rw [residue_eq_allOnes] at h ⊢
  omega

/-- Where a zero checksum means that there is none, it is sent as all ones. -/
theorem residue_add_sent {s : Nat} (h : s ≠ 0) :
    residue (s + if 65535 - residue s = 0 then 65535 else 65535 - residue s) = 65535 := by
  split
  · have hall : residue s = 65535 := by
      have hlt := residue_lt s
      omega
    exact (residue_add_iff hall).mpr rfl
  · exact residue_add_complement h

end Rtdk.OnesComplement
