import Mathlib.Data.List.Basic

/-! Addressable memory as a total map from offsets to cells, with block reads
and block writes. A block write changes exactly the cells of the block
(`write_below`, `write_above`), and a block read depends on exactly the cells
it covers (`slice_congr`). Programs that edit a buffer in place are compared
cell by cell with these rules. -/

namespace Rtdk.Memory

variable {α : Type}

/-- A memory: the cell at each offset. -/
abbrev Mem (α : Type) := Nat → α

/-- Store the block `xs` at offset `off`. -/
def write (m : Mem α) (off : Nat) (xs : List α) : Mem α :=
  fun i => if off ≤ i then (xs[i - off]?).getD (m i) else m i

/-- The `n` cells from offset `off` on. -/
def slice (m : Mem α) (off n : Nat) : List α :=
  (List.range n).map fun i => m (off + i)

theorem write_below (m : Mem α) (off : Nat) (xs : List α) (i : Nat) (h : i < off) :
    write m off xs i = m i := by
  unfold write
  rw [if_neg (by omega)]

theorem write_above (m : Mem α) (off : Nat) (xs : List α) (i : Nat)
    (h : off + xs.length ≤ i) : write m off xs i = m i := by
  unfold write
  rw [if_pos (by omega), List.getElem?_eq_none (by omega)]
  rfl

/-- The same block stored `k` cells further on. -/
theorem write_shift {m m' : Mem α} (off : Nat) (xs : List α) {i k : Nat} (h : m i = m' (i + k)) :
    write m off xs i = write m' (off + k) xs (i + k) := by
  unfold write
  simp only [Nat.add_le_add_iff_right, Nat.add_sub_add_right, h]

theorem write_inside (m : Mem α) (off : Nat) (xs : List α) (i : Nat) (h : i < xs.length) :
    write m off xs (off + i) = xs[i] := by
  unfold write
  rw [if_pos (by omega), show off + i - off = i by omega, List.getElem?_eq_getElem h]
  rfl

/-- A write changes nothing outside its block. -/
theorem write_outside (m : Mem α) (off : Nat) (xs : List α) (i : Nat)
    (h : i < off ∨ off + xs.length ≤ i) : write m off xs i = m i := by
  rcases h with h | h
  · exact write_below m off xs i h
  · exact write_above m off xs i h

@[simp] theorem write_nil (m : Mem α) (off : Nat) : write m off [] = m := by
  funext i
  exact write_outside m off [] i (by simp; omega)

@[simp] theorem slice_length (m : Mem α) (off n : Nat) : (slice m off n).length = n := by
  simp [slice]

theorem slice_getElem (m : Mem α) (off n i : Nat) (h : i < (slice m off n).length) :
    (slice m off n)[i] = m (off + i) := by
  simp [slice]

/-- Block reads are determined by the cells they cover. -/
theorem slice_congr {m m' : Mem α} {off off' n : Nat}
    (h : ∀ i, i < n → m (off + i) = m' (off' + i)) : slice m off n = slice m' off' n := by
  apply List.ext_getElem
  · simp
  · intro i hi _
    rw [slice_getElem, slice_getElem]
    exact h i (by simpa using hi)

/-- Two equal block reads agree on every cell. -/
theorem cell_of_slice_eq {m m' : Mem α} {off off' n : Nat}
    (h : slice m off n = slice m' off' n) (i : Nat) (hi : i < n) :
    m (off + i) = m' (off' + i) := by
  have hl : i < (slice m off n).length := by simpa using hi
  have hr : i < (slice m' off' n).length := by simpa using hi
  have hg : (slice m off n)[i] = (slice m' off' n)[i] := by simp only [h]
  rwa [slice_getElem, slice_getElem] at hg

theorem slice_write_same (m : Mem α) (off : Nat) (xs : List α) :
    slice (write m off xs) off xs.length = xs := by
  apply List.ext_getElem
  · simp
  · intro i hi hx
    rw [slice_getElem, write_inside m off xs i hx]

/-- The same, for a block of known length. -/
theorem slice_write_eq (m : Mem α) (off : Nat) {xs : List α} {n : Nat} (h : xs.length = n) :
    slice (write m off xs) off n = xs := by
  subst h
  exact slice_write_same m off xs

theorem slice_write_disjoint (m : Mem α) (off : Nat) (xs : List α) (a n : Nat)
    (h : off + xs.length ≤ a ∨ a + n ≤ off) :
    slice (write m off xs) a n = slice m a n := by
  apply slice_congr
  intro i hi
  exact write_outside m off xs (a + i) (by omega)

/-- Storing a block where it was read changes nothing. -/
theorem write_slice (m : Mem α) (off n : Nat) : write m off (slice m off n) = m := by
  funext i
  by_cases h : i < off ∨ off + n ≤ i
  · exact write_outside m off _ i (by rw [slice_length]; exact h)
  · obtain ⟨j, rfl⟩ : ∃ j, i = off + j := ⟨i - off, by omega⟩
    rw [write_inside m off _ j (by rw [slice_length]; omega), slice_getElem]

/-- Reading inside a stored block gives the matching part of the block. -/
theorem slice_write_inside (m : Mem α) (off : Nat) (xs : List α) (j n : Nat)
    (h : j + n ≤ xs.length) :
    slice (write m off xs) (off + j) n = (xs.drop j).take n := by
  apply List.ext_getElem
  · simp; omega
  · intro i hi _
    have hn : i < n := by simpa using hi
    rw [slice_getElem, Nat.add_assoc, write_inside m off xs (j + i) (by omega)]
    simp

/-! ## Blocks next to each other -/

theorem slice_add (m : Mem α) (off a b : Nat) :
    slice m off (a + b) = slice m off a ++ slice m (off + a) b := by
  unfold slice
  rw [List.range_add, List.map_append, List.map_map]
  simp only [Function.comp_def, Nat.add_assoc]

/-- Two blocks stored one after the other. -/
theorem write_append (m : Mem α) (off : Nat) (xs ys : List α) :
    write m off (xs ++ ys) = write (write m off xs) (off + xs.length) ys := by
  funext i
  by_cases hi : i < off + xs.length
  · rw [write_below _ _ _ _ hi]
    unfold write
    split
    · rw [List.getElem?_append_left (by omega)]
    · rfl
  · rw [write, if_pos (by omega), List.getElem?_append_right (by omega), write, if_pos (by omega),
      write_above m off xs i (by omega), Nat.sub_sub]

theorem write_comm (m : Mem α) {off off' : Nat} (xs ys : List α) (h : off + xs.length ≤ off') :
    write (write m off xs) off' ys = write (write m off' ys) off xs := by
  funext i
  by_cases hi : i < off'
  · rw [write_below _ _ _ _ hi]
    unfold write
    rw [if_neg (by omega : ¬ off' ≤ i)]
  · rw [write_above _ off xs i (by omega)]
    unfold write
    rw [List.getElem?_eq_none (by omega : xs.length ≤ i - off)]
    split <;> simp

/-- The later of two blocks that cover the same cells. -/
theorem write_write (m : Mem α) (off : Nat) {xs ys : List α} (h : xs.length ≤ ys.length) :
    write (write m off xs) off ys = write m off ys := by
  funext i
  by_cases hi : i < off + ys.length
  · by_cases ho : off ≤ i
    · obtain ⟨k, rfl⟩ := Nat.exists_eq_add_of_le ho
      rw [write_inside _ _ _ k (by omega), write_inside _ _ _ k (by omega)]
    · simp only [write, if_neg ho]
  · rw [write_above _ _ _ _ (by omega), write_above _ _ _ _ (by omega),
      write_above _ _ _ _ (by omega)]

/-- A read from the start of a stored block, which may end before the block or behind it. -/
theorem slice_write_start (m : Mem α) (off : Nat) (xs : List α) (n : Nat) :
    slice (write m off xs) off n =
      xs.take n ++ slice m (off + xs.length) (n - xs.length) := by
  rcases Nat.le_total n xs.length with h | h
  · have hin := slice_write_inside m off xs 0 n (by omega)
    rw [Nat.add_zero, List.drop_zero] at hin
    rw [hin, Nat.sub_eq_zero_of_le h]
    simp [slice]
  · obtain ⟨k, rfl⟩ := Nat.exists_eq_add_of_le h
    rw [slice_add, slice_write_same, slice_write_disjoint _ _ _ _ _ (Or.inl (Nat.le_refl _)),
      List.take_of_length_le h, Nat.add_sub_cancel_left]

end Rtdk.Memory
