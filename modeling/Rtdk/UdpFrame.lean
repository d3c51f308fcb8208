import Rtdk.Bounds
import Rtdk.Lossless
import Rtdk.OnesComplement
import Rtdk.Ratt
import Rtdk.Unsealed

/-! Lengths and checksums of the IPv4/UDP frames (`udp_thread.c`, `ratt/reference.c`).

A receiver outside the tools takes a frame only if its length fields say how long
it is and its checksums add up (`Consistent`). `udp_initialize_frame` takes the UDP
checksum while the payload is all zero and fills in the payload afterwards, so what
it stores fits the frame only if the payload's words add up to zero
(`plainFrame_consistent_iff`). The round-trip tool passes the length of the whole
frame where the length of the payload is wanted (`txFrame_not_consistent`). -/

namespace Rtdk.UdpFrame
open Rtdk.Memory Rtdk.Endian Rtdk.NetDef Rtdk.Security Rtdk.Lport Rtdk.Config Rtdk.Frame Rtdk.Thread
open Rtdk.Bounds Rtdk.Builder Rtdk.Generate Rtdk.OnesComplement Rtdk.Unsealed Rtdk.Lossless

variable {C D : Type}

/-! ## Checking a frame -/

/-- The words of a block, an odd last byte padded. -/
def words : List UInt8 → List Nat
  | [] => []
  | [b] => [b.toNat * 256]
  | a :: b :: rest => (a.toNat * 256 + b.toNat) :: words rest

/-- A checked block: its one's complement sum is all ones. -/
def Good (bs : List UInt8) : Prop := onesSum (words bs) = 65535

instance (bs : List UInt8) : Decidable (Good bs) := by unfold Good; infer_instance

/-- Addresses, protocol and datagram length, as the UDP checksum covers them. -/
def pseudoHeader (data : Mem UInt8) (dgramLen : Nat) : List UInt8 :=
  slice data 26 8 ++ [0, data 23] ++ be16 (UInt16.ofNat dgramLen)

/-- What a receiver checks of an IPv4/UDP frame of `len` bytes. -/
structure Consistent (data : Mem UInt8) (len : Nat) : Prop where
  totalLength : (read16 data 16).toNat = len - sizeofEthhdr
  dgramLen : (read16 data 38).toNat = len - sizeofEthhdr - sizeofIpv4Hdr
  hdrChecksum : Good (slice data 14 sizeofIpv4Hdr)
  dgramCksum : read16 data 40 = 0 ∨
    Good (pseudoHeader data (len - 34) ++ slice data 34 (len - 34))

theorem words_sum (bs : List UInt8) : (words bs).sum = rawCksum bs := by
  induction bs using words.induct with
  | case1 => rfl
  | case2 b => simp [words, rawCksum]
  | case3 a b rest ih => simp [words, rawCksum, ih]

theorem words_lt (bs : List UInt8) : ∀ w ∈ words bs, w < 65536 := by
  induction bs using words.induct with
  | case1 => simp [words]
  | case2 b =>
    have hb := b.toNat_lt
    simp only [words, List.mem_singleton, forall_eq]
    omega
  | case3 a b rest ih =>
    have ha := a.toNat_lt
    have hb := b.toNat_lt
    rw [words, List.forall_mem_cons]
    exact ⟨by omega, ih⟩

theorem good_iff (bs : List UInt8) : Good bs ↔ residue (rawCksum bs) = 65535 := by
  rw [Good, onesSum_eq (words_lt bs), words_sum]

theorem rawCksum_append {as : List UInt8} (bs : List UInt8) (h : as.length % 2 = 0) :
    rawCksum (as ++ bs) = rawCksum as + rawCksum bs := by
  induction as using words.induct with
  | case1 => simp [rawCksum]
  | case2 b => cases h
  | case3 a b rest ih =>
    have hrest : rest.length % 2 = 0 := by
      simp only [List.length_cons] at h
      omega
    simp only [List.cons_append, rawCksum, ih hrest]
    omega

theorem rawCksum_zero {bs : List UInt8} (h : ∀ b ∈ bs, b = 0) : rawCksum bs = 0 := by
  induction bs using words.induct with
  | case1 => rfl
  | case2 b => simp [rawCksum, h b]
  | case3 a b rest ih =>
    simp [rawCksum, h a, h b, ih fun c hc => h c (by simp [hc])]

theorem rawCksum_le (bs : List UInt8) : rawCksum bs ≤ 65535 * bs.length := by
  induction bs using words.induct with
  | case1 => simp [rawCksum]
  | case2 b =>
    have hb := b.toNat_lt
    simp only [rawCksum, List.length_singleton]
    omega
  | case3 a b rest ih =>
    have ha := a.toNat_lt
    have hb := b.toNat_lt
    simp only [rawCksum, List.length_cons]
    omega

theorem rawCksum_be16 (v : UInt16) : rawCksum (be16 v) = v.toNat := by
  have hv := v.toNat_lt
  simp only [be16, beBytes, leBytes, List.reverse_cons, List.reverse_nil, List.nil_append,
    List.cons_append, rawCksum, UInt8.toNat_ofNat']
  omega

theorem foldCksum_eq {s : Nat} (h : s < 2 ^ 32) : foldCksum s = residue s := fold_twice h

theorem complement_toNat (s : Nat) :
    (UInt16.ofNat (65535 - residue s)).toNat = 65535 - residue s := by
  rw [UInt16.toNat_ofNat']
  omega

/-- A block of even length with a word taken out of its middle. -/
theorem rawCksum_slice (data : Mem UInt8) (off : Nat) {k : Nat} (hk : k % 2 = 0) (n : Nat) :
    rawCksum (slice data off (k + n)) =
      rawCksum (slice data off k) + rawCksum (slice data (off + k) n) := by
  rw [slice_add, rawCksum_append _ (by rw [slice_length]; exact hk)]

theorem slice_two (data : Mem UInt8) (off : Nat) : slice data off 2 = be16 (read16 data off) := by
  have hv : beValue (slice data off 2) < 2 ^ 16 := by
    have h := beValue_lt (slice data off 2)
    rwa [slice_length] at h
  have h := beBytes_beValue (slice data off 2)
  rw [slice_length] at h
  rw [be16, read16, UInt16.toNat_ofNat', Nat.mod_eq_of_lt hv, h]

/-! ## The frames of the testbench -/

/-- `udp_initialize_frame` up to the header checksum. -/
def ipHeader (c : ClassConfig) (source : Vector UInt8 6) (m : Mbuf) : Mem UInt8 :=
  let data := memset0 m.data c.frameLength.toNat
  let data := write data 6 source.toList
  let data := write data 0 c.destination.toList
  let data := write data 12 (be16 ethPIp)
  let data := write data 14 [0x45]
  let data := write data 22 [64]
  let data := write data 16 (be16 (c.frameLength - 14).toUInt16)
  let data := writeAddress data 26 c.udpSource
  let data := writeAddress data 30 c.udpDestination
  let data := write data 23 [17]
  let data := write data 18 (be16 0)
  write data 24 (be16 0)

/-- Up to the checksum of the datagram. -/
def udpHeader (c : ClassConfig) (data : Mem UInt8) : Mem UInt8 :=
  let data := write data 24 (be16 (ipv4Cksum data))
  let data := write data 34 (be16 c.udpSrcPort)
  let data := write data 36 (be16 c.udpPort)
  let data := write data 38 (be16 (c.frameLength - 34).toUInt16)
  write data 40 (be16 0)

/-- The bytes behind the headers of a frame with `k` of them, once the counter and
the time stamp are in. -/
def udpPayload (c : ClassConfig) (n seq txTime : UInt64) (k : Nat) : List UInt8 :=
  (be32 (seq % n).toUInt32 ++ be32 (seq / n).toUInt32 ++ be64 txTime ++ c.payloadPattern ++
    List.replicate k 0).take k

theorem udpCksum_ne_zero (data : Mem UInt8) : udpCksum data ≠ 0 := by
  unfold udpCksum
  simp only
  split
  · decide
  · assumption

/-- The headers, the checksum, and then the payload. -/
theorem udpInitializeFrame_data (c : ClassConfig) (source : Vector UInt8 6) (m : Mbuf) :
    (udpInitializeFrame c source m).data =
      let data := udpHeader c (ipHeader c source m)
      write (write (write data 40 (be16 (udpCksum data))) 42
        (List.replicate sizeofReferenceMetaData 0)) 58 c.payloadPattern := by
  have hkeep (data : Mem UInt8) :
      (if read16 (write data 40 (be16 (udpCksum data))) 40 = 0 then
          write (write data 40 (be16 (udpCksum data))) 40 (be16 0xffff)
        else write data 40 (be16 (udpCksum data))) = write data 40 (be16 (udpCksum data)) := by
    rw [read16_write_same, if_neg (udpCksum_ne_zero data)]
  unfold udpInitializeFrame
  simp only [setLengths]
  rw [← hkeep (udpHeader c (ipHeader c source m))]
  rfl

theorem writeAddress_outside (data : Mem UInt8) (off : Nat) (s : List UInt8) (i : Nat)
    (h : i < off ∨ off + 4 ≤ i) : writeAddress data off s i = data i := by
  unfold writeAddress
  cases hbs : inetPton s with
  | none => rfl
  | some bs => exact write_outside _ _ _ _ (by rw [inetPton_length hbs]; exact h)

/-- The bytes the checksums rely on. -/
structure Headers (L : Nat) (data : Mem UInt8) (totalLength : UInt16) : Prop where
  version : data 14 = 0x45
  protocol : data 23 = 17
  cksum : read16 data 24 = 0
  totalLength : read16 data 16 = totalLength
  zero : ∀ i, 34 ≤ i → i < L → data i = 0

theorem read16_address (data : Mem UInt8) (off : Nat) (s : List UInt8) (a : Nat)
    (h : a + 2 ≤ off) : read16 (writeAddress data off s) a = read16 data a :=
  read16_congr fun i hi => writeAddress_outside data off s (a + i) (by omega)

theorem ipHeader_headers (c : ClassConfig) (source : Vector UInt8 6) (m : Mbuf) :
    Headers c.frameLength.toNat (ipHeader c source m) (c.frameLength - 14).toUInt16 := by
  unfold ipHeader
  refine ⟨?_, ?_, ?_, ?_, ?_⟩
  · simp (disch := simp) only [write_outside, writeAddress_outside]
    rfl
  · simp (disch := simp) only [write_outside]
    rfl
  · rw [read16_write_same]
  · simp (disch := simp) only [read16_write_disjoint, read16_address, read16_write_same]
  · intro i hlo hi
    rw [write_above _ 24 _ _ (by simp; omega), write_above _ 18 _ _ (by simp; omega),
      write_above _ 23 _ _ (by simp; omega), writeAddress_outside _ _ _ _ (by omega),
      writeAddress_outside _ _ _ _ (by omega), write_above _ 16 _ _ (by simp; omega),
      write_above _ 22 _ _ (by simp; omega), write_above _ 14 _ _ (by simp; omega),
      write_above _ 12 _ _ (by simp; omega), write_above _ 0 _ _ (by simp; omega),
      write_above _ 6 _ _ (by simp; omega)]
    have hz := write_inside m.data 0 (List.replicate c.frameLength.toNat (0 : UInt8)) i
      (by simpa using hi)
    rw [Nat.zero_add] at hz
    rw [memset0, hz, List.getElem_replicate]

/-- **The header checksum.** -/
theorem ipv4Cksum_good {L : Nat} {data : Mem UInt8} {tl : UInt16} (h : Headers L data tl) :
    Good (slice (write data 24 (be16 (ipv4Cksum data))) 14 sizeofIpv4Hdr) := by
  have hlen := rawCksum_le (slice data 14 sizeofIpv4Hdr)
  rw [slice_length] at hlen
  have hsplit (d : Mem UInt8) : rawCksum (slice d 14 sizeofIpv4Hdr) =
      rawCksum (slice d 14 10) + ((read16 d 24).toNat + rawCksum (slice d 26 8)) := by
    rw [show sizeofIpv4Hdr = 10 + (2 + 8) from rfl, rawCksum_slice d 14 rfl,
      rawCksum_slice d 24 rfl, slice_two, rawCksum_be16]
  have hold := hsplit data
  rw [h.cksum] at hold
  have hne : rawCksum (slice data 14 sizeofIpv4Hdr) ≠ 0 := by
    have hword : rawCksum (slice data 14 10) ≥ 0x45 * 256 := by
      rw [rawCksum_slice data 14 (k := 2) rfl 8]
      simp [slice, List.range_succ, rawCksum, h.version]
      omega
    omega
  have hres := residue_lt (rawCksum (slice data 14 sizeofIpv4Hdr))
  have hck : (ipv4Cksum data).toNat = 65535 - residue (rawCksum (slice data 14 sizeofIpv4Hdr)) := by
    rw [ipv4Cksum, foldCksum_eq (by simp only [sizeofIpv4Hdr] at hlen ⊢; omega),
      Nat.mod_eq_of_lt hres, complement_toNat]
  rw [good_iff, hsplit, read16_write_same, hck, slice_write_disjoint _ _ _ _ _ (by simp),
    slice_write_disjoint _ _ _ _ _ (by simp)]
  have hzero : (0 : UInt16).toNat = 0 := rfl
  have hsum : rawCksum (slice data 14 10) +
      (65535 - residue (rawCksum (slice data 14 sizeofIpv4Hdr)) + rawCksum (slice data 26 8)) =
        rawCksum (slice data 14 sizeofIpv4Hdr) +
          (65535 - residue (rawCksum (slice data 14 sizeofIpv4Hdr))) := by omega
  rw [hsum]
  exact residue_add_complement hne

/-- A frame of `len` bytes whose datagram has no checksum and no payload yet. -/
structure Blank (data : Mem UInt8) (len : Nat) : Prop where
  low : 42 ≤ len
  high : len < 65536
  totalLength : (read16 data 16).toNat = len - sizeofEthhdr
  dgramLen : (read16 data 38).toNat = len - sizeofEthhdr - sizeofIpv4Hdr
  hdrChecksum : Good (slice data 14 sizeofIpv4Hdr)
  protocol : data 23 = 17
  zero : ∀ i, 40 ≤ i → i < len → data i = 0

theorem pseudoHeader_length (data : Mem UInt8) (n : Nat) : (pseudoHeader data n).length = 12 := by
  simp [pseudoHeader]

/-- What the checksum of the datagram is taken of. -/
def datagramSum (data : Mem UInt8) (len : Nat) : Nat :=
  rawCksum (pseudoHeader data (len - 34)) + rawCksum (slice data 34 (len - 34))

theorem Blank.sum_bounds {data : Mem UInt8} {len : Nat} (h : Blank data len) :
    datagramSum data len ≠ 0 ∧ datagramSum data len < 2 ^ 32 := by
  have hhigh := h.high
  constructor
  · have hproto : rawCksum (pseudoHeader data (len - 34)) ≥ 17 := by
      rw [pseudoHeader, rawCksum_append _ (by simp), rawCksum_append _ (by simp)]
      simp [rawCksum, h.protocol]
      omega
    unfold datagramSum
    omega
  · have hp := rawCksum_le (pseudoHeader data (len - 34))
    have hs := rawCksum_le (slice data 34 (len - 34))
    rw [pseudoHeader_length] at hp
    rw [slice_length] at hs
    unfold datagramSum
    omega

/-- The checksum that is stored makes the sum of the blank frame all ones. -/
theorem Blank.cksum {data : Mem UInt8} {len : Nat} (h : Blank data len) :
    residue (datagramSum data len + (udpCksum data).toNat) = 65535 := by
  obtain ⟨hne, hlt⟩ := h.sum_bounds
  have hl4 : (read16 data 16).toNat - sizeofIpv4Hdr = len - 34 := by
    rw [h.totalLength]
    simp only [sizeofEthhdr, sizeofIpv4Hdr]
    omega
  have hres := residue_lt (datagramSum data len)
  have hsum : udpCksum data =
      let ck := UInt16.ofNat (65535 - residue (datagramSum data len))
      if ck = 0 then 0xffff else ck := by
    unfold udpCksum
    simp only [hl4]
    rw [show slice data 26 8 ++ [0, data 23] ++ be16 (UInt16.ofNat (len - 34)) =
        pseudoHeader data (len - 34) from rfl, show rawCksum (pseudoHeader data (len - 34)) +
        rawCksum (slice data 34 (len - 34)) = datagramSum data len from rfl, foldCksum_eq hlt,
      Nat.mod_eq_of_lt hres]
  have hck : (udpCksum data).toNat =
      if 65535 - residue (datagramSum data len) = 0 then 65535
      else 65535 - residue (datagramSum data len) := by
    have hval := complement_toNat (datagramSum data len)
    have hzero : UInt16.ofNat (65535 - residue (datagramSum data len)) = 0 ↔
        65535 - residue (datagramSum data len) = 0 := by
      rw [← UInt16.toNat_inj, hval]
      rfl
    rw [hsum]
    simp only [hzero]
    split
    · rfl
    · exact hval
  rw [hck]
  exact residue_add_sent hne

/-- The cells behind the headers, once the payload is stored. -/
theorem slice_payload {data : Mem UInt8} {off k : Nat} (body : List UInt8)
    (h : ∀ i, off ≤ i → i < off + k → data i = 0) :
    slice (write data off body) off k = (body ++ List.replicate k 0).take k := by
  have hrest : slice data (off + body.length) (k - body.length) =
      List.replicate (k - body.length) 0 := by
    apply List.ext_getElem
    · simp
    · intro i hi _
      rw [slice_getElem, List.getElem_replicate]
      rw [slice_length] at hi
      exact h _ (by omega) (by omega)
  rw [slice_write_start, hrest, List.take_append, List.take_replicate,
    Nat.min_eq_left (Nat.sub_le k body.length)]

/-- **The datagram.**  Its checksum fits what is stored behind the headers only if
that adds up to zero. -/
theorem Blank.datagram_good_iff {data : Mem UInt8} {len : Nat} (h : Blank data len)
    (body : List UInt8) :
    let final := write (write data 40 (be16 (udpCksum data))) 42 body
    Good (pseudoHeader final (len - 34) ++ slice final 34 (len - 34)) ↔
      rawCksum ((body ++ List.replicate (len - 42) 0).take (len - 42)) % 65535 = 0 := by
  intro final
  obtain ⟨k, rfl⟩ := Nat.exists_eq_add_of_le h.low
  have hsplit (d : Mem UInt8) : rawCksum (slice d 34 (42 + k - 34)) =
      rawCksum (slice d 34 6) + ((read16 d 40).toNat + rawCksum (slice d 42 k)) := by
    rw [show 42 + k - 34 = 6 + (2 + k) by omega, rawCksum_slice d 34 rfl, rawCksum_slice d 40 rfl,
      slice_two, rawCksum_be16]
  have hpseudo : pseudoHeader final (42 + k - 34) = pseudoHeader data (42 + k - 34) := by
    have haddr : slice final 26 8 = slice data 26 8 := by
      rw [slice_write_disjoint _ _ _ _ _ (by omega), slice_write_disjoint _ _ _ _ _ (by omega)]
    have hproto : final 23 = data 23 := by
      show write (write data 40 _) 42 body 23 = _
      rw [write_below _ _ _ _ (by omega), write_below _ _ _ _ (by omega)]
    rw [pseudoHeader, pseudoHeader, haddr, hproto]
  have hports : slice final 34 6 = slice data 34 6 := by
    rw [slice_write_disjoint _ _ _ _ _ (by omega), slice_write_disjoint _ _ _ _ _ (by omega)]
  have hck : read16 final 40 = udpCksum data := by
    rw [read16_write_disjoint _ _ _ _ (by omega), read16_write_same]
  have hbody : slice final 42 k = (body ++ List.replicate k 0).take k := by
    apply slice_payload
    intro i hlo hi
    rw [write_above _ _ _ _ (by simpa using hlo)]
    exact h.zero i (by omega) hi
  have hblank : datagramSum data (42 + k) =
      rawCksum (pseudoHeader data (42 + k - 34)) + rawCksum (slice data 34 6) := by
    have hcell : read16 data 40 = 0 := by
      have h40 := h.zero 40 (by omega) (by omega)
      have h41 := h.zero 41 (by omega) (by omega)
      simp [read16, slice, List.range_succ, h40, h41, beValue, leValue]
    have htail : rawCksum (slice data 42 k) = 0 := by
      apply rawCksum_zero
      intro b hb
      obtain ⟨i, hi, rfl⟩ := List.mem_map.mp hb
      rw [List.mem_range] at hi
      exact h.zero (42 + i) (by omega) (by omega)
    have hzero : (0 : UInt16).toNat = 0 := rfl
    rw [datagramSum, hsplit, hcell, htail, hzero, Nat.add_zero]
  have hgood := h.cksum
  rw [good_iff, rawCksum_append _ (by rw [pseudoHeader_length]), hpseudo, hsplit, hports, hck,
    hbody, ← residue_add_iff hgood, hblank]
  rw [Nat.add_sub_cancel_left]
  have hassoc (a b c d : Nat) : a + (b + (c + d)) = a + b + c + d := by omega
  rw [hassoc]

theorem toUInt16_sub {L : UInt64} {k : UInt64} (hk : k.toNat ≤ L.toUInt16.toNat) :
    (L - k).toUInt16.toNat = L.toUInt16.toNat - k.toNat := by
  rw [UInt64.toNat_toUInt16] at hk ⊢
  have hle : k ≤ L := by
    rw [UInt64.le_iff_toNat_le]
    omega
  rw [UInt64.toNat_toUInt16, UInt64.toNat_sub_of_le _ _ hle]
  omega

/-- The frame is blank when the checksum of its datagram is taken. -/
theorem udpHeader_blank (c : ClassConfig) (source : Vector UInt8 6) (m : Mbuf)
    (h : 42 ≤ c.frameLength.toUInt16.toNat) :
    Blank (udpHeader c (ipHeader c source m)) c.frameLength.toUInt16.toNat := by
  have hhead := ipHeader_headers c source m
  have hlen : c.frameLength.toUInt16.toNat ≤ c.frameLength.toNat := by
    rw [UInt64.toNat_toUInt16]
    exact Nat.mod_le _ _
  unfold udpHeader
  refine ⟨h, UInt16.toNat_lt _, ?_, ?_, ?_, ?_, ?_⟩
  · simp (disch := simp) only [read16_write_disjoint, hhead.totalLength]
    exact toUInt16_sub (k := 14) (Nat.le_trans (by decide) h)
  · simp (disch := simp) only [read16_write_disjoint, read16_write_same]
    rw [Nat.sub_sub]
    exact toUInt16_sub (k := 34) (Nat.le_trans (by decide) h)
  · simp (disch := simp [sizeofIpv4Hdr]) only [slice_write_disjoint]
    exact ipv4Cksum_good hhead
  · simp (disch := simp) only [write_outside, hhead.protocol]
  · intro i hlo hi
    have hzero := hhead.zero i (by omega) (by omega)
    by_cases h42 : i < 42
    · obtain ⟨j, rfl⟩ := Nat.exists_eq_add_of_le hlo
      rw [write_inside _ 40 _ j (by simp; omega)]
      obtain rfl | rfl : j = 0 ∨ j = 1 := by omega
      · rfl
      · rfl
    · rw [write_above _ 40 _ _ (by simp; omega), write_above _ 38 _ _ (by simp; omega),
        write_above _ 36 _ _ (by simp; omega), write_above _ 34 _ _ (by simp; omega),
        write_above _ 24 _ _ (by simp; omega), hzero]

/-- The whole frame: headers, checksum, and the payload with the metadata in front. -/
theorem plainFrame_data (env : Env C D) {ty : FrameType} (hty : ty = .udpHigh ∨ ty = .udpLow)
    (n seq txTime : UInt64) (m : Mbuf) :
    (plainFrame env ty n seq txTime m).data =
      let data := udpHeader (env.app.cls ty) (ipHeader (env.app.cls ty) env.mac m)
      write (write data 40 (be16 (udpCksum data))) 42
        (be32 (seq % n).toUInt32 ++ be32 (seq / n).toUInt32 ++ be64 txTime ++
          (env.app.cls ty).payloadPattern) := by
  have hoff : env.metaDataOffset ty = 42 := by
    obtain rfl | rfl := hty <;> rfl
  have hinit : initializeFrame env.app env.mac ty m =
      udpInitializeFrame (env.app.cls ty) env.mac m := by
    obtain rfl | rfl := hty <;> rfl
  have hmeta (data : Mem UInt8) : stampMetaData data 42 seq n txTime =
      write data 42 (be32 (seq % n).toUInt32 ++ be32 (seq / n).toUInt32 ++ be64 txTime) := by
    rw [write_append, write_append]
    simp only [List.length_append, be32_length]
    rfl
  have hlen : (be32 (seq % n).toUInt32 ++ be32 (seq / n).toUInt32 ++ be64 txTime).length = 16 := by
    simp only [List.length_append, be32_length, be64_length]
  have hmem : (List.replicate sizeofReferenceMetaData (0 : UInt8)).length ≤
      (be32 (seq % n).toUInt32 ++ be32 (seq / n).toUInt32 ++ be64 txTime).length := by
    rw [hlen, List.length_replicate]
    exact Nat.le_refl _
  simp only [plainFrame, hinit, hoff, hmeta, udpInitializeFrame_data]
  rw [write_append _ 42 _ (env.app.cls ty).payloadPattern, hlen,
    ← write_comm _ _ _ (Nat.le_of_eq (congrArg (42 + ·) hlen)), write_write _ 42 hmem]

/-- **A frame of the testbench.**  Its fields fit just if its payload adds up to zero. -/
theorem plainFrame_consistent_iff (env : Env C D) {ty : FrameType}
    (hty : ty = .udpHigh ∨ ty = .udpLow) (n seq txTime : UInt64) (m : Mbuf)
    (h : 42 ≤ (env.app.cls ty).frameLength.toUInt16.toNat) :
    Consistent (plainFrame env ty n seq txTime m).data
        (env.app.cls ty).frameLength.toUInt16.toNat ↔
      rawCksum (udpPayload (env.app.cls ty) n seq txTime
        ((env.app.cls ty).frameLength.toUInt16.toNat - 42)) % 65535 = 0 := by
  have hblank := udpHeader_blank (env.app.cls ty) env.mac m h
  have hdatagram := hblank.datagram_good_iff (be32 (seq % n).toUInt32 ++ be32 (seq / n).toUInt32 ++
    be64 txTime ++ (env.app.cls ty).payloadPattern)
  rw [plainFrame_data env hty]
  simp only at hdatagram ⊢
  rw [udpPayload, ← hdatagram]
  constructor
  · intro hc
    refine hc.dgramCksum.resolve_left ?_
    rw [read16_write_disjoint _ _ _ _ (by omega), read16_write_same]
    exact udpCksum_ne_zero _
  · intro hgood
    refine ⟨?_, ?_, ?_, Or.inr hgood⟩
    · rw [read16_write_disjoint _ _ _ _ (by omega), read16_write_disjoint _ _ _ _ (by omega)]
      exact hblank.totalLength
    · rw [read16_write_disjoint _ _ _ _ (by omega), read16_write_disjoint _ _ _ _ (by omega)]
      exact hblank.dgramLen
    · rw [slice_write_disjoint _ _ _ _ _ (by simp [sizeofIpv4Hdr]),
        slice_write_disjoint _ _ _ _ _ (by simp [sizeofIpv4Hdr])]
      exact hblank.hdrChecksum

/-! ### A call of the generator -/

/-- The frames of a call, whatever becomes of the statistics. -/
theorem genFrames_added {env : Env C D} {ty : FrameType} (hm : env.app.mode ty = .none)
    {n txTime seq : UInt64} {w w' : World C D} {ms : List Mbuf}
    (h : genFrames env ty n txTime seq w ms = .ok w') :
    w'.tx.added = w.tx.added ++ plainFrames env ty n txTime seq ms := by
  induction ms generalizing seq w with
  | nil =>
    cases h
    exact (List.append_nil _).symm
  | cons m ms ih =>
    simp only [genFrames, bind, Except.bind] at h
    split at h
    · cases h
    · rename_i w1 hone
      obtain ⟨w2, f, hp, hadded⟩ := genFrame_ok hone
      rw [prepareFrame_plain env ty hm] at hp
      cases hp
      rw [ih h, hadded, List.append_assoc]
      rfl

theorem plainFrames_getElem (env : Env C D) (ty : FrameType) (n txTime seq : UInt64)
    (ms : List Mbuf) (i : Nat) (hi : i < (plainFrames env ty n txTime seq ms).length) :
    ∃ m, (plainFrames env ty n txTime seq ms)[i] =
      plainFrame env ty n (seq + UInt64.ofNat i) txTime m := by
  induction ms generalizing seq i with
  | nil => cases hi
  | cons m ms ih =>
    cases i with
    | zero =>
      refine ⟨m, ?_⟩
      rw [show seq + UInt64.ofNat 0 = seq from UInt64.add_zero seq]
      rfl
    | succ i =>
      obtain ⟨m', hm'⟩ := ih (seq + 1) i (Nat.lt_of_succ_lt_succ hi)
      refine ⟨m', ?_⟩
      rw [show seq + UInt64.ofNat (i + 1) = seq + 1 + UInt64.ofNat i by
        rw [UInt64.ofNat_add, UInt64.add_assoc, UInt64.add_comm 1]; rfl, ← hm']
      rfl

/-- **A burst of the testbench.**  Every frame of the call, with its own counter. -/
theorem genAndSendFrames_frames {env : Env C D} {ty : FrameType}
    (hty : ty = .udpHigh ∨ ty = .udpLow) {numFrames : UInt64} {ms : List Mbuf} {w w' : World C D}
    (h : genAndSendFrames env ty numFrames (some ms) w = .ok w') :
    newlyAdded w w' = plainFrames env ty (env.app.cls ty).numFramesPerCycle (w.now env)
      w.thread.txSequenceCounter ms := by
  have hm : env.app.mode ty = .none := by
    obtain rfl | rfl := hty <;> rfl
  have hdiv : divisor (env.app.cls ty) ty numFrames.toUInt16 =
      (env.app.cls ty).numFramesPerCycle := by
    obtain rfl | rfl := hty <;> rfl
  have hnot : ¬ ((ty = .rta ∨ ty = .dcp) ∧ numFrames = 0) := by
    rintro ⟨h1 | h1, -⟩ <;> obtain rfl | rfl := hty <;> cases h1
  simp only [genAndSendFrames, if_neg hnot, hdiv, bind, Except.bind] at h
  split at h
  · cases h
  · rename_i w1 hframes
    cases h
    rw [newlyAdded, lportSend, lportTxBufferFlush_added, genFrames_added hm hframes]
    exact List.drop_left

/-! ## The frames of the round-trip tool -/

/-- `rte_ipv4_cksum_simple`, of the header without its checksum. -/
def ipv4CksumSimple (front back : List UInt8) : UInt16 :=
  let ipCksum := 65535 - foldCksum (rawCksum front + rawCksum back) % 65536
  if ipCksum = 0 then 0xffff else UInt16.ofNat ipCksum

/-- The headers, IP first. `pktDataLen` is the length of what follows them. -/
def setupPktUdpIpHeaders (pktDataLen : UInt16) : List UInt8 × List UInt8 :=
  let pktLen := pktDataLen + 8
  let udpHdr := be16 9 ++ be16 9 ++ be16 pktLen ++ be16 0
  let pktLen := pktLen + 20
  let front := [0x45, 0] ++ be16 pktLen ++ be16 0 ++ be16 0 ++ [64, 17]
  let back := be32 0xc6120001 ++ be32 0xc6120002
  (front ++ be16 (ipv4CksumSimple front back) ++ back, udpHdr)

structure Addresses where
  srcMac : Vector UInt8 6
  dstMac : Vector UInt8 6

/-- One pass of the loop of `tx_timestamping`. -/
def txFrame (lport : Addresses) (pktLength : UInt16) (ts : Ratt.Pkt) (m : Mbuf) : Mbuf :=
  let (ipHdr, udpHdr) := setupPktUdpIpHeaders pktLength
  let data := write m.data 6 lport.srcMac.toList
  let data := write data 0 lport.dstMac.toList
  let data := write data 12 (be16 ethPIp)
  let data := write data 14 ipHdr
  let data := write data 34 udpHdr
  let data := write data 42 (leBytes 8 ts.timestamp.toNat ++ leBytes 2 ts.beef.toNat ++
    leBytes 2 ts.id.toNat)
  { m with data := data, dataLen := pktLength, pktLen := pktLength.toUInt32 }

/-- The frames of a call that got these packets. -/
def txFrames (lport : Addresses) (pktLength : UInt16) (info : Ratt.Info) (lcore : Ratt.Lcore)
    (currNs : UInt64) (serial : Nat) (mbufs : Option (List Mbuf)) : List Mbuf :=
  match mbufs, (Ratt.txTimestamping info lcore mbufs.isSome currNs serial).2 with
  | some ms, some pkts => List.zipWith (txFrame lport pktLength) pkts ms
  | _, _ => []

/-- Both length fields are 42 too large, modulo `2 ^ 16`; the checksums are right. -/
structure Overstated (pktLength : UInt16) (data : Mem UInt8) : Prop where
  totalLength : read16 data 16 = pktLength + 28
  dgramLen : read16 data 38 = pktLength + 8
  hdrChecksum : Good (slice data 14 sizeofIpv4Hdr)
  dgramCksum : read16 data 40 = 0

theorem setup_lengths (pktDataLen : UInt16) :
    (setupPktUdpIpHeaders pktDataLen).1.length = 20 ∧
      (setupPktUdpIpHeaders pktDataLen).2.length = 8 := by
  simp [setupPktUdpIpHeaders]

theorem setup_good (pktDataLen : UInt16) : Good (setupPktUdpIpHeaders pktDataLen).1 := by
  rw [good_iff]
  unfold setupPktUdpIpHeaders
  simp only
  generalize hfront : [(0x45 : UInt8), 0] ++ be16 (pktDataLen + 8 + 20) ++ be16 0 ++ be16 0 ++
    [64, 17] = front
  generalize hback : be32 0xc6120001 ++ be32 0xc6120002 = back
  have hflen : front.length = 10 := by simp [← hfront]
  have hblen : back.length = 8 := by simp [← hback]
  have hf := rawCksum_le front
  have hb := rawCksum_le back
  have hne : rawCksum front ≠ 0 := by
    rw [← hfront]
    simp [rawCksum]
  have hlt : rawCksum front + rawCksum back < 2 ^ 32 := by
    rw [hflen] at hf
    rw [hblen] at hb
    omega
  have hres := residue_lt (rawCksum front + rawCksum back)
  have hck : (ipv4CksumSimple front back).toNat =
      if 65535 - residue (rawCksum front + rawCksum back) = 0 then 65535
      else 65535 - residue (rawCksum front + rawCksum back) := by
    unfold ipv4CksumSimple
    simp only [foldCksum_eq hlt, Nat.mod_eq_of_lt hres]
    split
    · rfl
    · exact complement_toNat _
  have hgood := residue_add_sent (s := rawCksum front + rawCksum back) (by omega)
  rw [← hck] at hgood
  rw [List.append_assoc, rawCksum_append _ (by rw [hflen]), rawCksum_append _ (by simp),
    rawCksum_be16, Nat.add_left_comm, Nat.add_comm]
  exact hgood

/-- A field is the word of its header that its offset names. -/
theorem read16_field {data : Mem UInt8} {off n k : Nat} {v : UInt16} {header : List UInt8}
    (h : slice data off n = header) (front back : List UInt8)
    (hheader : header = front ++ (be16 v ++ back)) (hk : front.length = k) (hn : k + 2 ≤ n) :
    read16 data (off + k) = v := by
  have hword : slice data (off + k) 2 = be16 v := by
    obtain ⟨r, rfl⟩ := Nat.exists_eq_add_of_le hn
    rw [hheader, Nat.add_assoc, slice_add, slice_add] at h
    obtain ⟨-, h⟩ := List.append_inj h (by rw [slice_length, hk])
    exact (List.append_inj h (by rw [slice_length, be16_length])).1
  have hv : v.toNat < 256 ^ 2 := v.toNat_lt
  rw [read16, hword, be16, beValue_beBytes, Nat.mod_eq_of_lt hv]
  exact UInt16.ofNat_toNat

/-- **A frame of the round-trip tool.** -/
theorem txFrame_overstated (lport : Addresses) (pktLength : UInt16) (ts : Ratt.Pkt) (m : Mbuf) :
    Overstated pktLength (txFrame lport pktLength ts m).data := by
  obtain ⟨hip, hudp⟩ := setup_lengths pktLength
  have hhdr : slice (txFrame lport pktLength ts m).data 14 20 =
      (setupPktUdpIpHeaders pktLength).1 := by
    unfold txFrame
    simp only
    rw [slice_write_disjoint _ 42 _ _ _ (by omega), slice_write_disjoint _ 34 _ _ _ (by omega),
      slice_write_eq _ 14 hip]
  have hdgram : slice (txFrame lport pktLength ts m).data 34 8 =
      (setupPktUdpIpHeaders pktLength).2 := by
    unfold txFrame
    simp only
    rw [slice_write_disjoint _ 42 _ _ _ (by omega), slice_write_eq _ 34 hudp]
  have htotal : read16 (txFrame lport pktLength ts m).data (14 + 2) = pktLength + 8 + 20 :=
    read16_field hhdr [0x45, 0] _ rfl rfl (by omega)
  have hdgramLen : read16 (txFrame lport pktLength ts m).data (34 + 4) = pktLength + 8 :=
    read16_field hdgram (be16 9 ++ be16 9) (be16 0) (by simp [setupPktUdpIpHeaders]) (by simp)
      (by omega)
  have hcksum : read16 (txFrame lport pktLength ts m).data (34 + 6) = 0 :=
    read16_field hdgram (be16 9 ++ be16 9 ++ be16 (pktLength + 8)) []
      (by simp [setupPktUdpIpHeaders]) (by simp) (by omega)
  refine ⟨?_, hdgramLen, ?_, hcksum⟩
  · rw [show pktLength + 28 = pktLength + 8 + 20 from (UInt16.add_assoc pktLength 8 20).symm]
    exact htotal
  · rw [show sizeofIpv4Hdr = 20 from rfl, hhdr]
    exact setup_good pktLength

theorem Overstated.not_consistent {pktLength : UInt16} {data : Mem UInt8}
    (h : Overstated pktLength data) : ¬ Consistent data pktLength.toNat := by
  intro hc
  have htotal := hc.totalLength
  rw [h.totalLength] at htotal
  have hlt := pktLength.toNat_lt
  rw [UInt16.toNat_add, show (28 : UInt16).toNat = 28 from rfl] at htotal
  simp only [sizeofEthhdr] at htotal
  omega

/-! ## Both tools -/

/-- **The frames that are sent.**  A testbench frame is consistent just if the words
behind its headers add up to zero modulo `65535`, a frame of the round-trip tool
never is. -/
theorem udpFrames_consistent_iff (env : Env C D) {ty : FrameType}
    (hty : ty = .udpHigh ∨ ty = .udpLow)
    (hlen : 42 ≤ (env.app.cls ty).frameLength.toUInt16.toNat)
    {numFrames : UInt64} {ms : List Mbuf} {w w' : World C D}
    (h : genAndSendFrames env ty numFrames (some ms) w = .ok w') (lport : Addresses)
    (pktLength : UInt16) (info : Ratt.Info) (lcore : Ratt.Lcore) (currNs : UInt64) (serial : Nat)
    (mbufs : Option (List Mbuf)) :
    ((newlyAdded w w').length = ms.length ∧
      ∀ (i : Nat) (hi : i < (newlyAdded w w').length),
        (newlyAdded w w')[i].dataLen = (env.app.cls ty).frameLength.toUInt16 ∧
        (Consistent (newlyAdded w w')[i].data (newlyAdded w w')[i].dataLen.toNat ↔
          rawCksum (udpPayload (env.app.cls ty) (env.app.cls ty).numFramesPerCycle
            (w.thread.txSequenceCounter + UInt64.ofNat i) (w.now env)
            ((env.app.cls ty).frameLength.toUInt16.toNat - 42)) % 65535 = 0)) ∧
    ∀ f ∈ txFrames lport pktLength info lcore currNs serial mbufs,
      f.dataLen = pktLength ∧ Overstated pktLength f.data ∧
        ¬ Consistent f.data f.dataLen.toNat := by
  have hframes := genAndSendFrames_frames hty h
  refine ⟨⟨by rw [hframes, plainFrames_length], ?_⟩, ?_⟩
  · rw [hframes]
    intro i hi
    obtain ⟨m, hm⟩ := plainFrames_getElem env ty _ _ _ ms i hi
    have hdata : (plainFrame env ty (env.app.cls ty).numFramesPerCycle
        (w.thread.txSequenceCounter + UInt64.ofNat i) (w.now env) m).dataLen =
          (env.app.cls ty).frameLength.toUInt16 :=
      (initializeFrame_lengths env.app env.mac ty m).1
    rw [hm]
    refine ⟨hdata, ?_⟩
    rw [hdata]
    exact plainFrame_consistent_iff env hty _ _ _ m hlen
  · intro f hf
    unfold txFrames at hf
    split at hf
    · obtain ⟨i, hi, rfl⟩ := List.getElem_of_mem hf
      rw [List.getElem_zipWith]
      have hover := txFrame_overstated lport pktLength
      exact ⟨rfl, hover _ _, (hover _ _).not_consistent⟩
    · cases hf

/-- UDP frames of 64 bytes, one per cycle, between two hosts of the laboratory. -/
def udpNode : Env DigestCtx Unit :=
  let app := AppConfig.small .none 64 1 [0x55]
  Env.small { app with
    cls := fun ty => { app.cls ty with
      udpSource := [49, 57, 50, 46, 49, 54, 56, 46, 50, 46, 49]
      udpDestination := [49, 57, 50, 46, 49, 54, 56, 46, 50, 46, 50]
      udpSrcPort := 6666
      udpPort := 6666 } } false

def unused : Mbuf := ⟨0, fun _ => 0, 0, 0⟩

def udpStart : World DigestCtx Unit := World.fresh udpNode .udpHigh DigestCtx.fresh ()

theorem udpNode_generates (ms : List Mbuf) :
    ∃ w', genAndSendFrames udpNode .udpHigh 1 (some ms) udpStart = .ok w' := by
  have hb : HasBacklog udpNode .udpHigh udpStart := Or.inr (by decide)
  have hn : BurstFits udpNode.app .udpHigh := ⟨by decide, by decide⟩
  obtain ⟨w', hw, -⟩ := generate_spec udpNode .udpHigh rfl hn udpStart hb ms
  exact ⟨w', hw⟩

/-- The round-trip tool before its first burst. -/
def rattLcore : Ratt.Lcore :=
  let clear := Accumulator.cleared 0
  ⟨0, 0, 0, ⟨0, 0, 0, 0, 0, 0, clear, clear, clear⟩⟩

/-- A burst of one packet. -/
def rattFrames : List Mbuf :=
  txFrames ⟨udpNode.mac, udpNode.mac⟩ 60 ⟨1000000, 1, 0⟩ rattLcore 0 0 (some [unused])

theorem udpFrames_consistent_one :
    ∃ w', genAndSendFrames udpNode .udpHigh 1 (some [unused]) udpStart = .ok w' ∧
      (newlyAdded udpStart w').length = 1 ∧ ∀ f ∈ rattFrames, Overstated 60 f.data := by
  obtain ⟨w', hw⟩ := udpNode_generates [unused]
  obtain ⟨hudp, hratt⟩ := udpFrames_consistent_iff udpNode (Or.inl rfl) (by decide) hw
    ⟨udpNode.mac, udpNode.mac⟩ 60 ⟨1000000, 1, 0⟩ rattLcore 0 0 (some [unused])
  exact ⟨w', hw, hudp.1, fun f hf => (hratt f hf).2.1⟩

/-- One byte of payload, and a first frame of the round-trip tool. -/
theorem payload_after_checksum :
    (∃ w', genAndSendFrames udpNode .udpHigh 1 (some [unused]) udpStart = .ok w' ∧
      ∃ f ∈ newlyAdded udpStart w', ¬ Consistent f.data 64) ∧
    ∃ f ∈ rattFrames, ¬ Consistent f.data 60 := by
  constructor
  · obtain ⟨w', hw⟩ := udpNode_generates [unused]
    refine ⟨w', hw, plainFrame udpNode .udpHigh 1 0 0 unused, ?_, ?_⟩
    · rw [genAndSendFrames_frames (Or.inl rfl) hw]
      exact List.mem_singleton.mpr rfl
    · intro hc
      have hsum := (plainFrame_consistent_iff udpNode (Or.inl rfl) 1 0 0 unused
        (by decide)).mp hc
      revert hsum
      decide
  · exact ⟨_, List.mem_singleton.mpr rfl, (txFrame_overstated _ 60 _ _).not_consistent⟩

end Rtdk.UdpFrame
