import Mathlib.Data.Nat.ModEq
import Rtdk.Memory

/-! Fixed-width integers as byte blocks, least or most significant byte first.
`leValue_leBytes` and `beValue_beBytes` say that a `k`-byte block holds its
number modulo `256 ^ k`; `leBytes_eq_iff` says that this is all it holds. -/

namespace Rtdk.Endian
open Rtdk.Memory

/-- The `k` low bytes of `v`, least significant first. -/
def leBytes : Nat → Nat → List UInt8
  | 0, _ => []
  | k + 1, v => UInt8.ofNat v :: leBytes k (v / 256)

/-- The number spelled by `bs`, least significant byte first. -/
def leValue : List UInt8 → Nat
  | [] => 0
  | b :: bs => b.toNat + 256 * leValue bs

/-- The `k` low bytes of `v`, most significant first. -/
def beBytes (k v : Nat) : List UInt8 := (leBytes k v).reverse

/-- The number spelled by `bs`, most significant byte first. -/
def beValue (bs : List UInt8) : Nat := leValue bs.reverse

@[simp] theorem leBytes_length (k v : Nat) : (leBytes k v).length = k := by
  induction k generalizing v with
  | zero => rfl
  | succ k ih => simp [leBytes, ih]

@[simp] theorem beBytes_length (k v : Nat) : (beBytes k v).length = k := by
  simp [beBytes]

theorem leValue_leBytes (k v : Nat) : leValue (leBytes k v) = v % 256 ^ k := by
  induction k generalizing v with
  | zero => simp [leBytes, leValue, Nat.mod_one]
  | succ k ih =>
    have hb : (UInt8.ofNat v).toNat = v % 256 := by simp
    rw [leBytes, leValue, ih, hb, Nat.pow_succ', Nat.mod_mul]

theorem beValue_beBytes (k v : Nat) : beValue (beBytes k v) = v % 256 ^ k := by
  simp [beValue, beBytes, leValue_leBytes]

theorem leValue_lt (bs : List UInt8) : leValue bs < 256 ^ bs.length := by
  induction bs with
  | nil => simp [leValue]
  | cons b bs ih =>
    have hb := b.toNat_lt
    simp only [leValue, List.length_cons, Nat.pow_succ']
    omega

theorem beValue_lt (bs : List UInt8) : beValue bs < 256 ^ bs.length := by
  simpa [beValue] using leValue_lt bs.reverse

/-- Every block is the spelling of its number. -/
theorem leBytes_leValue (bs : List UInt8) : leBytes bs.length (leValue bs) = bs := by
  induction bs with
  | nil => rfl
  | cons b bs ih =>
    have hb := b.toNat_lt
    have hd : (b.toNat + 256 * leValue bs) / 256 = leValue bs := by omega
    have hh : UInt8.ofNat (b.toNat + 256 * leValue bs) = b := by
      apply UInt8.toNat_inj.mp
      rw [UInt8.toNat_ofNat']
      omega
    simp only [leValue, List.length_cons, leBytes, hd, hh, ih]

theorem beBytes_beValue (bs : List UInt8) : beBytes bs.length (beValue bs) = bs := by
  have h := leBytes_leValue bs.reverse
  rw [List.length_reverse] at h
  rw [beBytes, beValue, h, List.reverse_reverse]

/-- Two numbers have the same `k` low bytes exactly when they agree modulo
`256 ^ k`. -/
theorem leBytes_eq_iff (k a b : Nat) :
    leBytes k a = leBytes k b ↔ a % 256 ^ k = b % 256 ^ k := by
  constructor
  · intro h
    rw [← leValue_leBytes, ← leValue_leBytes, h]
  · intro h
    induction k generalizing a b with
    | zero => rfl
    | succ k ih =>
      rw [Nat.pow_succ', Nat.mod_mul, Nat.mod_mul] at h
      have ha := Nat.mod_lt a (show 0 < 256 by decide)
      have hb := Nat.mod_lt b (show 0 < 256 by decide)
      have hd : a % 256 = b % 256 := by omega
      have hq : a / 256 % 256 ^ k = b / 256 % 256 ^ k := by omega
      have hh : UInt8.ofNat a = UInt8.ofNat b := by
        apply UInt8.toNat_inj.mp
        simpa using hd
      simp only [leBytes, hh, ih _ _ hq]

/-- The low `j` bytes of a `k`-byte block. -/
theorem leBytes_take (j k v : Nat) (h : j ≤ k) : (leBytes k v).take j = leBytes j v := by
  induction j generalizing k v with
  | zero => simp [leBytes]
  | succ j ih =>
    cases k with
    | zero => omega
    | succ k => simp [leBytes, ih k (v / 256) (by omega)]

/-! ## Big-endian fields of a memory -/

def be16 (v : UInt16) : List UInt8 := beBytes 2 v.toNat
def be32 (v : UInt32) : List UInt8 := beBytes 4 v.toNat
def be64 (v : UInt64) : List UInt8 := beBytes 8 v.toNat

def read16 (m : Mem UInt8) (off : Nat) : UInt16 := UInt16.ofNat (beValue (slice m off 2))
def read32 (m : Mem UInt8) (off : Nat) : UInt32 := UInt32.ofNat (beValue (slice m off 4))
def read64 (m : Mem UInt8) (off : Nat) : UInt64 := UInt64.ofNat (beValue (slice m off 8))

@[simp] theorem be16_length (v : UInt16) : (be16 v).length = 2 := beBytes_length 2 _
@[simp] theorem be32_length (v : UInt32) : (be32 v).length = 4 := beBytes_length 4 _
@[simp] theorem be64_length (v : UInt64) : (be64 v).length = 8 := beBytes_length 8 _

theorem read16_write_same (m : Mem UInt8) (off : Nat) (v : UInt16) :
    read16 (write m off (be16 v)) off = v := by
  have hs := slice_write_eq m off (be16_length v)
  have hv : v.toNat < 256 ^ 2 := v.toNat_lt
  rw [read16, hs, be16, beValue_beBytes, Nat.mod_eq_of_lt hv]
  exact UInt16.ofNat_toNat

theorem read32_write_same (m : Mem UInt8) (off : Nat) (v : UInt32) :
    read32 (write m off (be32 v)) off = v := by
  have hs := slice_write_eq m off (be32_length v)
  have hv : v.toNat < 256 ^ 4 := v.toNat_lt
  rw [read32, hs, be32, beValue_beBytes, Nat.mod_eq_of_lt hv]
  exact UInt32.ofNat_toNat

theorem read64_write_same (m : Mem UInt8) (off : Nat) (v : UInt64) :
    read64 (write m off (be64 v)) off = v := by
  have hs := slice_write_eq m off (be64_length v)
  have hv : v.toNat < 256 ^ 8 := v.toNat_lt
  rw [read64, hs, be64, beValue_beBytes, Nat.mod_eq_of_lt hv]
  exact UInt64.ofNat_toNat

/-- Storing what was read changes nothing. -/
theorem write_read64 (m : Mem UInt8) (off : Nat) : write m off (be64 (read64 m off)) = m := by
  have hlen : (slice m off 8).length = 8 := slice_length m off 8
  have hv : beValue (slice m off 8) < 2 ^ 64 := by
    have h := beValue_lt (slice m off 8)
    rw [hlen] at h
    exact h
  have hb : be64 (read64 m off) = slice m off 8 := by
    have h := beBytes_beValue (slice m off 8)
    rw [hlen] at h
    rw [be64, read64, UInt64.toNat_ofNat', Nat.mod_eq_of_lt hv, h]
  rw [hb, write_slice]

theorem read16_write_disjoint (m : Mem UInt8) (off : Nat) (xs : List UInt8) (a : Nat)
    (h : off + xs.length ≤ a ∨ a + 2 ≤ off) : read16 (write m off xs) a = read16 m a := by
  rw [read16, read16, slice_write_disjoint m off xs a 2 h]

theorem read32_write_disjoint (m : Mem UInt8) (off : Nat) (xs : List UInt8) (a : Nat)
    (h : off + xs.length ≤ a ∨ a + 4 ≤ off) : read32 (write m off xs) a = read32 m a := by
  rw [read32, read32, slice_write_disjoint m off xs a 4 h]

theorem read16_congr {m m' : Mem UInt8} {a b : Nat}
    (h : ∀ i, i < 2 → m (a + i) = m' (b + i)) : read16 m a = read16 m' b := by
  rw [read16, read16, slice_congr h]

theorem read32_congr {m m' : Mem UInt8} {a b : Nat}
    (h : ∀ i, i < 4 → m (a + i) = m' (b + i)) : read32 m a = read32 m' b := by
  rw [read32, read32, slice_congr h]

theorem read64_congr {m m' : Mem UInt8} {a b : Nat}
    (h : ∀ i, i < 8 → m (a + i) = m' (b + i)) : read64 m a = read64 m' b := by
  rw [read64, read64, slice_congr h]

end Rtdk.Endian
