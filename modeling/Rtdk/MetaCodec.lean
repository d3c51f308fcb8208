import Rtdk.NetDef
import Mathlib.Data.Nat.ModEq
import Mathlib.Data.Set.Function
import Mathlib.Order.Interval.Set.Defs

/-! The codec of the metadata block (`utils.h`).

A sequence counter is written as its remainder and its quotient by the number of frames
per cycle, 32 bits each. With fewer than `2 ^ 32` frames per cycle only the quotient
loses anything, so the block stands for the counter modulo `n * 2 ^ 32`. -/

namespace Rtdk.MetaCodec
open Rtdk.Memory Rtdk.Endian Rtdk.NetDef

/-- The two counters of a block. -/
structure Counters where
  frame : UInt32
  cycle : UInt32
  deriving DecidableEq, Repr

def counters (m : Mem UInt8) (off : Nat) : Counters := ⟨read32 m off, read32 m (off + 4)⟩

/-- The counters that are written for `s`. -/
def encode (s n : UInt64) : Counters := ⟨(s % n).toUInt32, (s / n).toUInt32⟩

/-- What a reader makes of counters. -/
def decode (c : Counters) (n : UInt64) : UInt64 := c.cycle.toUInt64 * n + c.frame.toUInt64

theorem counters_sequenceCounterToMetaData (m : Mem UInt8) (off : Nat) (s n : UInt64) :
    counters (sequenceCounterToMetaData m off s n) off = encode s n := by
  have hframe : read32 (sequenceCounterToMetaData m off s n) off = (s % n).toUInt32 := by
    rw [sequenceCounterToMetaData, read32_write_disjoint _ _ _ _ (by simp),
      read32_write_same]
  have hcycle : read32 (sequenceCounterToMetaData m off s n) (off + 4) = (s / n).toUInt32 :=
    read32_write_same _ _ _
  rw [counters, hframe, hcycle, encode]

theorem metaDataToSequenceCounter_eq (m : Mem UInt8) (off : Nat) (n : UInt64) :
    metaDataToSequenceCounter m off n = decode (counters m off) n := rfl

/-- A block is written from its counters. -/
theorem sequenceCounterToMetaData_eq (m : Mem UInt8) (off : Nat) (s n : UInt64) :
    sequenceCounterToMetaData m off s n =
      write (write m off (be32 (encode s n).frame)) (off + 4) (be32 (encode s n).cycle) := rfl

/-! ## Arithmetic -/

section arithmetic
variable {s s' n : UInt64} {c : Counters}

theorem Counters.ext_toNat {c c' : Counters} (hf : c.frame.toNat = c'.frame.toNat)
    (hc : c.cycle.toNat = c'.cycle.toNat) : c = c' := by
  cases c
  cases c'
  rw [Counters.mk.injEq]
  exact ⟨UInt32.toNat_inj.mp hf, UInt32.toNat_inj.mp hc⟩

theorem encode_cycle (s n : UInt64) : (encode s n).cycle.toNat = s.toNat / n.toNat % 2 ^ 32 := by
  rw [encode, UInt64.toNat_toUInt32, UInt64.toNat_div]

theorem encode_frame (hn : 0 < n.toNat) (hlt : n.toNat < 2 ^ 32) :
    (encode s n).frame.toNat = s.toNat % n.toNat := by
  have hmod := Nat.mod_lt s.toNat hn
  rw [encode, UInt64.toNat_toUInt32, UInt64.toNat_mod]
  exact Nat.mod_eq_of_lt (by omega)

/-- No step of the reader wraps. -/
theorem decode_toNat (hlt : n.toNat < 2 ^ 32) :
    (decode c n).toNat = c.cycle.toNat * n.toNat + c.frame.toNat := by
  have hc := c.cycle.toNat_lt
  have hf := c.frame.toNat_lt
  have hmul : c.cycle.toNat * n.toNat ≤ (2 ^ 32 - 1) * (2 ^ 32 - 1) :=
    Nat.mul_le_mul (by omega) (by omega)
  rw [decode, UInt64.toNat_add, UInt64.toNat_mul, UInt32.toNat_toUInt64, UInt32.toNat_toUInt64,
    Nat.mod_eq_of_lt (show c.cycle.toNat * n.toNat < 2 ^ 64 by omega)]
  exact Nat.mod_eq_of_lt (by omega)

/-- **Decoding what is encoded.** -/
theorem decode_encode (hn : 0 < n.toNat) (hlt : n.toNat < 2 ^ 32) :
    (decode (encode s n) n).toNat = s.toNat % (n.toNat * 2 ^ 32) := by
  have hmod := Nat.mod_lt s.toNat hn
  have hwire : decode (encode s n) n = wireCounter s n := rfl
  rw [hwire, wireCounter_toNat, Nat.mod_eq_of_lt (show s.toNat % n.toNat < 2 ^ 32 by omega),
    Nat.mod_mul, Nat.mul_comm, Nat.add_comm]

/-- **Encoding what is decoded.**  A frame counter beyond the cycle does not come back. -/
theorem encode_decode_iff (hn : 0 < n.toNat) (hlt : n.toNat < 2 ^ 32) :
    encode (decode c n) n = c ↔ c.frame.toNat < n.toNat := by
  constructor
  · intro h
    rw [← h, encode_frame hn hlt]
    exact Nat.mod_lt _ hn
  · intro hframe
    have hcycle : c.cycle.toNat < 2 ^ 32 := c.cycle.toNat_lt
    refine Counters.ext_toNat ?_ ?_
    · rw [encode_frame hn hlt, decode_toNat hlt, Nat.mul_comm, Nat.mul_add_mod,
        Nat.mod_eq_of_lt hframe]
    · rw [encode_cycle, decode_toNat hlt, Nat.mul_comm, Nat.mul_add_div hn,
        Nat.div_eq_of_lt hframe, Nat.add_zero, Nat.mod_eq_of_lt hcycle]

/-- **Counters with one encoding.** -/
theorem encode_eq_iff (hn : 0 < n.toNat) (hlt : n.toNat < 2 ^ 32) :
    encode s n = encode s' n ↔ s.toNat ≡ s'.toNat [MOD n.toNat * 2 ^ 32] := by
  constructor
  · intro h
    have hdecode := congrArg (fun c => (decode c n).toNat) h
    simp only [decode_encode hn hlt] at hdecode
    exact hdecode
  · intro h
    refine Counters.ext_toNat ?_ ?_
    · rw [encode_frame hn hlt, encode_frame hn hlt]
      exact Nat.ModEq.of_mul_right _ h
    · have hdiv (k : Nat) : k / n.toNat % 2 ^ 32 = k % (n.toNat * 2 ^ 32) / n.toNat :=
        (Nat.mod_mul_right_div_self k n.toNat (2 ^ 32)).symm
      rw [encode_cycle, encode_cycle, hdiv, hdiv, h]

end arithmetic

/-! ## The laws -/

/-- What holds of the codec for `n` frames per cycle. -/
structure CodecLaws (n : UInt64) : Prop where
  /-- Counter first, time stamp second. -/
  decoded : ∀ (m : Mem UInt8) (off : Nat) (s t : UInt64),
    let block := txTimestampToMetaData (sequenceCounterToMetaData m off s n) off t
    (metaDataToSequenceCounter block off n).toNat = s.toNat % (n.toNat * 2 ^ 32) ∧
      metaDataToTxTimestamp block off = t
  /-- Time stamp first, counter second. -/
  decoded_swapped : ∀ (m : Mem UInt8) (off : Nat) (s t : UInt64),
    let block := sequenceCounterToMetaData (txTimestampToMetaData m off t) off s n
    (metaDataToSequenceCounter block off n).toNat = s.toNat % (n.toNat * 2 ^ 32) ∧
      metaDataToTxTimestamp block off = t
  reencoded : ∀ (m m' : Mem UInt8) (off off' : Nat),
    counters (sequenceCounterToMetaData m' off' (metaDataToSequenceCounter m off n) n) off' =
      counters m off ↔ (counters m off).frame.toNat < n.toNat
  same_iff : ∀ (m : Mem UInt8) (off : Nat) (s s' : UInt64),
    sequenceCounterToMetaData m off s n = sequenceCounterToMetaData m off s' n ↔
      s.toNat ≡ s'.toNat [MOD n.toNat * 2 ^ 32]
  distinct : ∀ (m : Mem UInt8) (off first : Nat),
    Set.InjOn (fun s => sequenceCounterToMetaData m off s n)
      (Set.preimage UInt64.toNat (Set.Ico first (first + n.toNat * 2 ^ 32)))

/-- The time stamp lies behind the counters. -/
theorem txTimestamp_sequenceCounter (m : Mem UInt8) (off : Nat) (s n : UInt64) :
    metaDataToTxTimestamp (sequenceCounterToMetaData m off s n) off =
      metaDataToTxTimestamp m off := by
  refine txTimestamp_congr fun i _ => ?_
  have hlen (v : UInt32) : (be32 v).length = 4 := beBytes_length 4 _
  rw [sequenceCounterToMetaData, write_above _ _ _ _ (by rw [hlen]; omega),
    write_above _ _ _ _ (by rw [hlen]; omega)]

theorem sequenceCounterToMetaData_eq_iff {m : Mem UInt8} {off : Nat} {s s' n : UInt64} :
    sequenceCounterToMetaData m off s n = sequenceCounterToMetaData m off s' n ↔
      encode s n = encode s' n := by
  constructor
  · intro h
    have hcounters := congrArg (fun block => counters block off) h
    simp only [counters_sequenceCounterToMetaData] at hcounters
    exact hcounters
  · intro h
    rw [sequenceCounterToMetaData_eq, sequenceCounterToMetaData_eq, h]

theorem eq_of_modEq_of_window {a b first size : Nat} (h : a ≡ b [MOD size])
    (ha : a ∈ Set.Ico first (first + size)) (hb : b ∈ Set.Ico first (first + size)) : a = b := by
  obtain ⟨halo, hahi⟩ := ha
  obtain ⟨hblo, hbhi⟩ := hb
  have hsub : a - first ≡ b - first [MOD size] := by
    refine Nat.ModEq.add_right_cancel' first ?_
    rwa [Nat.sub_add_cancel halo, Nat.sub_add_cancel hblo]
  have heq := Nat.ModEq.eq_of_lt_of_lt hsub (by omega) (by omega)
  omega

/-- **The codec.** -/
theorem codec_lawful (n : UInt64) (hn : 1 ≤ n.toNat) (hlt : n.toNat < 2 ^ 32) : CodecLaws n where
  decoded m off s t := by
    refine ⟨?_, txTimestamp_roundtrip _ _ _⟩
    rw [sequenceCounter_txTimestamp, metaDataToSequenceCounter_eq,
      counters_sequenceCounterToMetaData, decode_encode hn hlt]
  decoded_swapped m off s t := by
    refine ⟨?_, ?_⟩
    · rw [metaDataToSequenceCounter_eq, counters_sequenceCounterToMetaData, decode_encode hn hlt]
    · rw [txTimestamp_sequenceCounter, txTimestamp_roundtrip]
  reencoded m m' off off' := by
    rw [counters_sequenceCounterToMetaData, metaDataToSequenceCounter_eq]
    exact encode_decode_iff hn hlt
  same_iff m off s s' := sequenceCounterToMetaData_eq_iff.trans (encode_eq_iff hn hlt)
  distinct m off first := by
    intro s hs s' hs' h
    have hmod := (encode_eq_iff hn hlt).mp (sequenceCounterToMetaData_eq_iff.mp h)
    exact UInt64.toNat_inj.mp (eq_of_modEq_of_window hmod hs hs')

theorem codec_lawful_four : 1 ≤ (4 : UInt64).toNat ∧ (4 : UInt64).toNat < 2 ^ 32 ∧ CodecLaws 4 :=
  ⟨by decide, by decide, codec_lawful 4 (by decide) (by decide)⟩

end Rtdk.MetaCodec
