import Rtdk.Endian

/-! Wire constants of the testbench (`net_def.h`, `lport.h`), its enumerations
(`security.h`, `stat.h`), and the metadata block every test frame carries
(`utils.h`): a frame counter, a cycle counter and a transmit time stamp.

The sequence counter is 64 bits wide at both ends and travels as a pair of
32-bit counters, `counter % n` and `counter / n` for `n` frames per cycle.
`wireCounter` is what is left of it after that trip, and
`wireCounter_eq_self_iff` says when nothing is lost. -/

namespace Rtdk.NetDef
open Rtdk.Memory Rtdk.Endian

/-! ## Constants -/

def ethAlen : Nat := 6
def ethP8021Q : UInt16 := 0x8100
def ethPProfinetRt : UInt16 := 0x8892
def ethPIp : UInt16 := 0x0800
def ethPLldp : UInt16 := 0x88cc
def vlanPcpShift : Int32 := 13

/-- `sizeof` of the packed headers. -/
def sizeofEthhdr : Nat := 14
def sizeofVlanHeader : Nat := 4
def sizeofVlanEthernetHeader : Nat := 18
def sizeofReferenceMetaData : Nat := 16
def sizeofProfinetRtHeader : Nat := 18
def sizeofProfinetSecureHeader : Nat := 26
def sizeofSecurityChecksum : Nat := 16
def sizeofIpv4Hdr : Nat := 20

def tsnHighFrameid : UInt16 := 0x0100
def tsnHighSecFrameid : UInt16 := 0x0101
def tsnLowFrameid : UInt16 := 0x0200
def tsnLowSecFrameid : UInt16 := 0x0201
def rtcFrameid : UInt16 := 0x8000
def rtcSecFrameid : UInt16 := 0x8001
def rtaFrameid : UInt16 := 0xfc01
def rtaSecFrameid : UInt16 := 0xfc02
def dcpFrameid : UInt16 := 0xfefe

def maxFrameSize : Nat := 2048
def maxPktBurst : Nat := 256
def txBufferSize : Nat := maxPktBurst * 4
/-- `LPORT_PKTMBUF_FREE_PENDING_SZ`: entries of a handler's dropped array. -/
def freePendingSz : Nat := 64

/-! ## Enumerations -/

inductive SecurityMode
  | none
  | ao
  | ae
  deriving DecidableEq, Repr

inductive SecurityAlgorithm
  | aes256Gcm
  | aes128Gcm
  | chacha20Poly1305
  deriving DecidableEq, Repr

inductive FrameType
  | tsnHigh
  | tsnLow
  | rtc
  | rta
  | dcp
  | lldp
  | udpHigh
  | udpLow
  | l2
  deriving DecidableEq, Repr

/-- `stat_frame_type_names`. -/
def FrameType.name : FrameType → String
  | .tsnHigh => "TsnHigh"
  | .tsnLow => "TsnLow"
  | .rtc => "Rtc"
  | .rta => "Rta"
  | .dcp => "Dcp"
  | .lldp => "Lldp"
  | .udpHigh => "UdpHigh"
  | .udpLow => "UdpLow"
  | .l2 => "L2"

/-- `stat_frame_type_is_real_time`. -/
def FrameType.isRealTime : FrameType → Bool
  | .tsnHigh | .tsnLow | .rtc | .l2 => true
  | _ => false

/-! ## Metadata block

`off` is the offset of a `struct reference_meta_data` in the frame: the frame
counter at `off`, the cycle counter at `off + 4`, the time stamp at `off + 8`. -/

def metaDataToSequenceCounter (m : Mem UInt8) (off : Nat) (numFramesPerCycle : UInt64) : UInt64 :=
  let frameCounter := read32 m off
  let cycleCounter := read32 m (off + 4)
  cycleCounter.toUInt64 * numFramesPerCycle + frameCounter.toUInt64

/-- Both counters are stored through `unsigned int`, so each keeps its low 32 bits. -/
def sequenceCounterToMetaData (m : Mem UInt8) (off : Nat) (sequenceCounter : UInt64)
    (numFramesPerCycle : UInt64) : Mem UInt8 :=
  let counter := (sequenceCounter % numFramesPerCycle).toUInt32
  let cycleCounter := (sequenceCounter / numFramesPerCycle).toUInt32
  write (write m off (be32 counter)) (off + 4) (be32 cycleCounter)

def txTimestampToMetaData (m : Mem UInt8) (off : Nat) (timestamp : UInt64) : Mem UInt8 :=
  write m (off + 8) (be64 timestamp)

def metaDataToTxTimestamp (m : Mem UInt8) (off : Nat) : UInt64 := read64 m (off + 8)

/-- The counter a receiver decodes from the metadata a sender wrote for `s`. -/
def wireCounter (s n : UInt64) : UInt64 :=
  (s / n).toUInt32.toUInt64 * n + (s % n).toUInt32.toUInt64

/-- Decoding what was encoded gives the wire counter. -/
theorem sequenceCounter_roundtrip (m : Mem UInt8) (off : Nat) (s n : UInt64) :
    metaDataToSequenceCounter (sequenceCounterToMetaData m off s n) off n = wireCounter s n := by
  simp only [metaDataToSequenceCounter, sequenceCounterToMetaData, wireCounter]
  rw [read32_write_same, read32_write_disjoint _ _ _ _ (by simp), read32_write_same]

theorem txTimestamp_roundtrip (m : Mem UInt8) (off : Nat) (t : UInt64) :
    metaDataToTxTimestamp (txTimestampToMetaData m off t) off = t :=
  read64_write_same m (off + 8) t

/-- Storing a time stamp leaves the counters alone. -/
theorem sequenceCounter_txTimestamp (m : Mem UInt8) (off : Nat) (t n : UInt64) :
    metaDataToSequenceCounter (txTimestampToMetaData m off t) off n =
      metaDataToSequenceCounter m off n := by
  simp only [metaDataToSequenceCounter, txTimestampToMetaData]
  rw [read32_write_disjoint _ _ _ _ (by simp), read32_write_disjoint _ _ _ _ (by simp)]

/-- The decoded counter depends on the eight counter bytes only. -/
theorem sequenceCounter_congr {m m' : Mem UInt8} {a b : Nat} (n : UInt64)
    (h : ∀ i, i < 8 → m (a + i) = m' (b + i)) :
    metaDataToSequenceCounter m a n = metaDataToSequenceCounter m' b n := by
  have hf : read32 m a = read32 m' b := read32_congr fun i hi => h i (by omega)
  have hc : read32 m (a + 4) = read32 m' (b + 4) := by
    apply read32_congr
    intro i hi
    rw [Nat.add_assoc, Nat.add_assoc]
    exact h (4 + i) (by omega)
  simp only [metaDataToSequenceCounter, hf, hc]

theorem txTimestamp_congr {m m' : Mem UInt8} {a b : Nat}
    (h : ∀ i, i < 8 → m (a + 8 + i) = m' (b + 8 + i)) :
    metaDataToTxTimestamp m a = metaDataToTxTimestamp m' b :=
  read64_congr h

/-! ## What the wire keeps of a counter -/

/-- The wire counter as a natural number: no 64-bit step of the decoder wraps. -/
theorem wireCounter_toNat (s n : UInt64) :
    (wireCounter s n).toNat =
      s.toNat / n.toNat % 2 ^ 32 * n.toNat + s.toNat % n.toNat % 2 ^ 32 := by
  have hq : s.toNat / n.toNat % 2 ^ 32 ≤ s.toNat / n.toNat := Nat.mod_le _ _
  have hr : s.toNat % n.toNat % 2 ^ 32 ≤ s.toNat % n.toNat := Nat.mod_le _ _
  have hm := Nat.mul_le_mul_right n.toNat hq
  have hd := Nat.div_add_mod' s.toNat n.toNat
  have hs := s.toNat_lt
  simp only [wireCounter, UInt64.toNat_add, UInt64.toNat_mul, UInt32.toNat_toUInt64,
    UInt64.toNat_toUInt32, UInt64.toNat_div, UInt64.toNat_mod]
  rw [Nat.mod_eq_of_lt (show s.toNat / n.toNat % 2 ^ 32 * n.toNat < 2 ^ 64 by omega)]
  exact Nat.mod_eq_of_lt (by omega)

theorem wireCounter_le (s n : UInt64) : (wireCounter s n).toNat ≤ s.toNat := by
  have hq : s.toNat / n.toNat % 2 ^ 32 ≤ s.toNat / n.toNat := Nat.mod_le _ _
  have hr : s.toNat % n.toNat % 2 ^ 32 ≤ s.toNat % n.toNat := Nat.mod_le _ _
  have hm := Nat.mul_le_mul_right n.toNat hq
  have hd := Nat.div_add_mod' s.toNat n.toNat
  rw [wireCounter_toNat]
  omega

/-- **Lossless counters.**  A counter survives the wire exactly when its cycle
number and its position in the cycle both fit 32 bits. -/
theorem wireCounter_eq_self_iff (s n : UInt64) (hn : n ≠ 0) :
    wireCounter s n = s ↔ s.toNat / n.toNat < 2 ^ 32 ∧ s.toNat % n.toNat < 2 ^ 32 := by
  have hpos : 0 < n.toNat := by
    rcases Nat.eq_zero_or_pos n.toNat with h | h
    · exact absurd (UInt64.toNat_inj.mp h) hn
    · exact h
  have hd := Nat.div_add_mod' s.toNat n.toNat
  rw [← UInt64.toNat_inj, wireCounter_toNat]
  constructor
  · intro h
    have hr : s.toNat % n.toNat % 2 ^ 32 ≤ s.toNat % n.toNat := Nat.mod_le _ _
    have hq : s.toNat / n.toNat % 2 ^ 32 ≤ s.toNat / n.toNat := Nat.mod_le _ _
    have hqm := Nat.mul_le_mul_right n.toNat hq
    have hqe : s.toNat / n.toNat % 2 ^ 32 = s.toNat / n.toNat := by
      apply Nat.eq_of_mul_eq_mul_right hpos
      omega
    have hre : s.toNat % n.toNat % 2 ^ 32 = s.toNat % n.toNat := by omega
    have hql := Nat.mod_lt (s.toNat / n.toNat) (show 0 < 2 ^ 32 by decide)
    have hrl := Nat.mod_lt (s.toNat % n.toNat) (show 0 < 2 ^ 32 by decide)
    exact ⟨by omega, by omega⟩
  · rintro ⟨hq, hr⟩
    rw [Nat.mod_eq_of_lt hq, Nat.mod_eq_of_lt hr]
    exact hd

/-- With at most `2 ^ 32` frames per cycle only the cycle number can overflow. -/
theorem wireCounter_eq_self_of_lt (s n : UInt64) (hn : n ≠ 0) (hb : n.toNat ≤ 2 ^ 32)
    (h : s.toNat < n.toNat * 2 ^ 32) : wireCounter s n = s := by
  have hpos : 0 < n.toNat := by
    rcases Nat.eq_zero_or_pos n.toNat with h0 | h0
    · exact absurd (UInt64.toNat_inj.mp h0) hn
    · exact h0
  rw [wireCounter_eq_self_iff s n hn]
  have hr := Nat.mod_lt s.toNat hpos
  exact ⟨Nat.div_lt_of_lt_mul h, by omega⟩

/-- The counters that survive the wire, as natural numbers. -/
theorem wireCounter_ofNat {n : UInt64} {j : Nat} (hb : n.toNat < 2 ^ 16)
    (h : j < n.toNat * 2 ^ 32) : wireCounter (UInt64.ofNat j) n = UInt64.ofNat j := by
  have hj : (UInt64.ofNat j).toNat = j := by
    rw [UInt64.toNat_ofNat']
    exact Nat.mod_eq_of_lt (by omega)
  have hn : n ≠ 0 := by
    intro h0
    rw [h0] at h
    exact absurd h (by simp)
  exact wireCounter_eq_self_of_lt _ _ hn (by omega) (by omega)

end Rtdk.NetDef
