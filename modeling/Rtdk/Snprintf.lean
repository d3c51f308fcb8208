import Rtdk.CString
import Rtdk.Memory
import Mathlib.Data.Nat.Digits.Defs

/-! `snprintf` and its relatives, seen from the caller.

What the format makes of its arguments is a text, or a failure; the call stores as
much of the text as there is room for, with a NUL behind it, and returns the length
of the whole text as an `int`. -/

namespace Rtdk.Snprintf
open Rtdk.Memory Rtdk.CString

/-- A formatted text whose length is an `int`, or the negative value of a failed
conversion, with what it has stored by then. -/
inductive Formatted
  | text (bs : List UInt8) (fits : bs.length < 2 ^ 31)
  | failed (ret : Int32) (negative : ret < 0) (stored : List UInt8)

def Formatted.bytes : Formatted → List UInt8
  | .text bs _ => bs
  | .failed .. => []

/-- The value that is returned. -/
def Formatted.ret : Formatted → Int32
  | .text bs _ => Int32.ofNat bs.length
  | .failed ret _ _ => ret

/-- What is stored at `p`, with room for `len` bytes. -/
def snprintf (data : Mem UInt8) (p len : Nat) : Formatted → Mem UInt8
  | .text bs _ => if len = 0 then data else write data p (bs.take (len - 1) ++ [0])
  | .failed _ _ stored => write data p (stored.take len)

/-- The conversion of an `int` to `size_t`. -/
def sizeT (n : Int32) : Nat := (n.toInt % 2 ^ 64).toNat

theorem Formatted.ret_text {bs : List UInt8} (h : bs.length < 2 ^ 31) :
    (Formatted.text bs h).ret.toInt = bs.length := Int32.toInt_ofNat_of_lt h

theorem sizeT_of_nonneg {n : Int32} {k : Nat} (h : n.toInt = k) : sizeT n = k := by
  have hlt := n.toInt_lt
  unfold sizeT
  omega

theorem sizeT_of_neg {n : Int32} (h : n.toInt < 0) : 2 ^ 63 ≤ sizeT n := by
  have hle := n.le_toInt
  unfold sizeT
  omega

/-- Nothing outside the room that the call was given. -/
theorem snprintf_outside (data : Mem UInt8) (p len : Nat) (f : Formatted) (i : Nat)
    (h : i < p ∨ p + len ≤ i) : snprintf data p len f i = data i := by
  cases f with
  | text bs fits =>
    rw [snprintf]
    split
    · rfl
    · refine write_outside _ _ _ _ ?_
      rw [List.length_append, List.length_take, List.length_singleton]
      omega
  | failed ret negative stored =>
    refine write_outside _ _ _ _ ?_
    rw [List.length_take]
    omega

/-- The stored part of a text. -/
theorem snprintf_text (data : Mem UInt8) (p : Nat) {len : Nat} {bs : List UInt8}
    (h : bs.length < 2 ^ 31) (hlen : 0 < len) :
    slice (snprintf data p len (.text bs h)) p (min bs.length (len - 1)) = bs.take (len - 1) ∧
      snprintf data p len (.text bs h) (p + min bs.length (len - 1)) = 0 := by
  have hpart : (bs.take (len - 1)).length = min bs.length (len - 1) := by
    rw [List.length_take, Nat.min_comm]
  rw [snprintf, if_neg (Nat.ne_of_gt hlen), write_append, ← hpart]
  constructor
  · rw [slice_write_disjoint _ _ _ _ _ (Or.inr (Nat.le_refl _)), slice_write_same]
  · have hin := write_inside (write data p (bs.take (len - 1))) (p + (bs.take (len - 1)).length)
      [(0 : UInt8)] 0 (by decide)
    rwa [Nat.add_zero] at hin

/-! ## Numbers -/

/-- `%lu`. -/
def decimal (n : Nat) : CStr := (Nat.toDigits 10 n).map fun c => UInt8.ofNat c.toNat

/-- `%ld`. -/
def signed (n : Int) : CStr := (if n < 0 then [45] else []) ++ decimal n.natAbs

/-- A field of at least `width` bytes, filled up with blanks on the left. -/
def padded (width : Nat) (s : CStr) : CStr := List.replicate (width - s.length) 32 ++ s

theorem decimal_length {n k : Nat} (hk : 0 < k) (h : n < 10 ^ k) : (decimal n).length ≤ k := by
  rw [decimal, List.length_map]
  exact Nat.toDigits_length 10 n k hk h

/-- No NUL among the digits. -/
theorem decimal_noNul (n : Nat) : 0 ∉ decimal n := by
  intro h
  obtain ⟨c, hc, hzero⟩ := List.mem_map.mp h
  have hdigit := Char.isDigit_iff_toNat.mp
    (Nat.isDigit_of_mem_toDigits (by decide) (by decide) hc)
  have hlo : 48 ≤ c.toNat := hdigit.1
  have hhi : c.toNat ≤ 57 := hdigit.2
  have hval := congrArg UInt8.toNat hzero
  rw [UInt8.toNat_ofNat', UInt8.toNat_zero] at hval
  omega

theorem signed_noNul (n : Int) : 0 ∉ signed n := by
  rw [signed, List.mem_append, not_or]
  refine ⟨?_, decimal_noNul n.natAbs⟩
  split <;> decide

theorem padded_noNul (width : Nat) {s : CStr} (h : 0 ∉ s) : 0 ∉ padded width s := by
  rw [padded, List.mem_append, not_or]
  refine ⟨fun hmem => ?_, h⟩
  exact absurd (List.eq_of_mem_replicate hmem) (by decide)

theorem signed_length (n : Int64) : (signed n.toInt).length ≤ 20 := by
  have hlo := n.le_toInt
  have hhi := n.toInt_lt
  have hdigits : (decimal n.toInt.natAbs).length ≤ 19 :=
    decimal_length (by decide) (by omega)
  rw [signed, List.length_append]
  split
  · rw [List.length_singleton]
    omega
  · rw [List.length_nil]
    omega

theorem padded_length (width : Nat) (s : CStr) : (padded width s).length = max width s.length := by
  rw [padded, List.length_append, List.length_replicate]
  omega

/-! ## Reading a string back -/

/-- The string in a block that holds a text and a NUL behind it. -/
theorem ofBytes_slice {data : Mem UInt8} {p n : Nat} {text : List UInt8}
    (hbytes : slice data p text.length = text) (hnul : data (p + text.length) = 0)
    (hno : 0 ∉ text) (h : text.length < n) : ofBytes (slice data p n) = text := by
  obtain ⟨k, rfl⟩ := Nat.exists_eq_add_of_lt h
  have hcell : slice data (p + text.length) 1 = [0] := by simp [slice, hnul]
  rw [Nat.add_assoc, slice_add, hbytes, Nat.add_comm k 1, slice_add, hcell, ofBytes,
    List.takeWhile_append_of_pos]
  · exact List.append_nil text
  · intro b hb
    rw [bne_iff_ne]
    rintro rfl
    exact hno hb

end Rtdk.Snprintf
