import Rtdk.MetaCodec
import Rtdk.Unsealed

/-! The Wireshark dissector (`scripts/testbench.lua`).

The dissector is registered for the PROFINET EtherType and gets the bytes behind it. It knows
the layouts of `struct reference_meta_data` and `struct profinet_secure_header` by their
offsets only, and tells them apart by the frame id. `dissector_generated` compares it with the
generators, `dissector_received` with the receivers. Wireshark's buffers are a parameter. -/

namespace Rtdk.Dissector
open Rtdk.Memory Rtdk.Endian Rtdk.NetDef Rtdk.Security Rtdk.Stat Rtdk.Lport Rtdk.Config Rtdk.Frame
open Rtdk.Thread Rtdk.Receive Rtdk.Handlers Rtdk.Checks Rtdk.Builder Rtdk.Decode Rtdk.Generate
open Rtdk.Sealing Rtdk.Reseal Rtdk.SecureTx Rtdk.Agreement Rtdk.Unsealed Rtdk.MetaCodec
open Rtdk.Runs

variable {B C D K : Type}

/-! ## The script -/

/-- What the script uses of Wireshark: `buffer:len()`, `buffer(off, len)`, `range:uint()`, and
the value of an integer field that is added with a range. A range is the bytes it has; without
a range the script ends with an error. -/
structure Tvb (B : Type) where
  len : B → Nat
  range : B → Nat → Nat → Option (List UInt8)
  uint : List UInt8 → Nat
  field : List UInt8 → Nat

/-- A range inside of the buffer has its bytes there, and integers are read in network order:
by `uint` from up to four bytes, by a field from up to eight. -/
structure Tvb.Lawful (tvb : Tvb B) (bytes : B → List UInt8) : Prop where
  len : ∀ buffer, tvb.len buffer = (bytes buffer).length
  range : ∀ buffer off n, off + n ≤ (bytes buffer).length →
    tvb.range buffer off n = some (((bytes buffer).drop off).take n)
  uint : ∀ bs, 1 ≤ bs.length → bs.length ≤ 4 → tvb.uint bs = beValue bs
  field : ∀ bs, 1 ≤ bs.length → bs.length ≤ 8 → tvb.field bs = beValue bs

/-- `buffer(off, n):uint()`. -/
def Tvb.uintAt (tvb : Tvb B) (buffer : B) (off n : Nat) : Option Nat :=
  (tvb.range buffer off n).map tvb.uint

/-- `subtree:add(field, buffer(off, n))`. -/
def Tvb.fieldAt (tvb : Tvb B) (buffer : B) (off n : Nat) : Option Nat :=
  (tvb.range buffer off n).map tvb.field

structure SecurityFields where
  secInfo : Nat
  secControl : Nat
  secSequenceCounter : Nat
  secLength : Nat
  secChecksum : List UInt8
deriving DecidableEq, Repr

/-- The text in the info column and the fields of the subtree. -/
structure Dissected where
  info : String
  frameId : Nat
  frameCounter : Nat
  cycleCounter : Nat
  txTimestamp : Nat
  security : Option SecurityFields
deriving DecidableEq, Repr

def trafficClass (id : Nat) : String :=
  if id = 0x0100 then "TSN High"
  else if id = 0x0200 then "TSN Low"
  else if id = 0x8000 then "RTC"
  else if id = 0xfc01 then "RTA"
  else if id = 0xfefe then "DCP"
  else if id = 0x0101 then "TSN High Sec"
  else if id = 0x0201 then "TSN Low Sec"
  else if id = 0x8001 then "RTC Sec"
  else if id = 0xfc02 then "RTA Sec"
  else "Unknown"

def isSec (id : Nat) : Bool := id = 0x0101 ∨ id = 0x0201 ∨ id = 0x8001 ∨ id = 0xfc02

def infoText (id frame cycle : Nat) : String :=
  trafficClass id ++ " | Frame: " ++ toString frame ++ " Cycle: " ++ toString cycle

/-- `testbench_proto.dissector`. The outer `none` is an error, the inner one a buffer of which
nothing is shown. -/
def dissector (tvb : Tvb B) (buffer : B) : Option (Option Dissected) :=
  let length := tvb.len buffer
  if length = 0 then some none else do
    let id ← tvb.uintAt buffer 0 2
    if isSec id then do
      let frame ← tvb.uintAt buffer 10 4
      let cycle ← tvb.uintAt buffer 14 4
      let frameId ← tvb.fieldAt buffer 0 2
      let secInfo ← tvb.fieldAt buffer 2 1
      let secControl ← tvb.fieldAt buffer 3 1
      let secSequenceCounter ← tvb.fieldAt buffer 4 4
      let secLength ← tvb.fieldAt buffer 8 2
      let frameCounter ← tvb.fieldAt buffer 10 4
      let cycleCounter ← tvb.fieldAt buffer 14 4
      let txTimestamp ← tvb.fieldAt buffer 18 8
      let secChecksum ← tvb.range buffer (length - 16) 16
      some (some ⟨infoText id frame cycle, frameId, frameCounter, cycleCounter, txTimestamp,
        some ⟨secInfo, secControl, secSequenceCounter, secLength, secChecksum⟩⟩)
    else do
      let frame ← tvb.uintAt buffer 2 4
      let cycle ← tvb.uintAt buffer 6 4
      let frameId ← tvb.fieldAt buffer 0 2
      let frameCounter ← tvb.fieldAt buffer 2 4
      let cycleCounter ← tvb.fieldAt buffer 6 4
      let txTimestamp ← tvb.fieldAt buffer 10 8
      some (some ⟨infoText id frame cycle, frameId, frameCounter, cycleCounter, txTimestamp,
        none⟩)

/-- Buffers that are lists of bytes. -/
def listTvb : Tvb (List UInt8) where
  len := List.length
  range buffer off n :=
    if off + n ≤ buffer.length then some ((buffer.drop off).take n) else none
  uint := beValue
  field := beValue

theorem listTvb_lawful : listTvb.Lawful id where
  len _ := rfl
  range _ _ _ h := if_pos h
  uint _ _ _ := rfl
  field _ _ _ := rfl

/-! ## Ranges of a memory -/

/-- A piece of a slice. -/
theorem slice_drop_take (m : Mem UInt8) (base : Nat) {off len n : Nat} (h : off + len ≤ n) :
    ((slice m base n).drop off).take len = slice m (base + off) len := by
  obtain ⟨k, rfl⟩ := Nat.exists_eq_add_of_le h
  rw [Nat.add_assoc, slice_add, List.drop_left' (slice_length m base off), slice_add,
    List.take_left' (slice_length m (base + off) len)]

section tvb
variable {tvb : Tvb B} {bytes : B → List UInt8} {buffer : B}

theorem range_slice (htvb : tvb.Lawful bytes) {m : Mem UInt8} {base n : Nat}
    (hbuffer : bytes buffer = slice m base n) {off len : Nat} (h : off + len ≤ n) :
    tvb.range buffer off len = some (slice m (base + off) len) := by
  rw [htvb.range _ _ _ (by rw [hbuffer, slice_length]; exact h), hbuffer, slice_drop_take m base h]

theorem uintAt_slice (htvb : tvb.Lawful bytes) {m : Mem UInt8} {base n : Nat}
    (hbuffer : bytes buffer = slice m base n) {off len : Nat} (h : off + len ≤ n)
    (hlow : 1 ≤ len) (hhigh : len ≤ 4) :
    tvb.uintAt buffer off len = some (beValue (slice m (base + off) len)) := by
  rw [Tvb.uintAt, range_slice htvb hbuffer h, Option.map_some, htvb.uint] <;>
    rwa [slice_length]

theorem fieldAt_slice (htvb : tvb.Lawful bytes) {m : Mem UInt8} {base n : Nat}
    (hbuffer : bytes buffer = slice m base n) {off len : Nat} (h : off + len ≤ n)
    (hlow : 1 ≤ len) (hhigh : len ≤ 8) :
    tvb.fieldAt buffer off len = some (beValue (slice m (base + off) len)) := by
  rw [Tvb.fieldAt, range_slice htvb hbuffer h, Option.map_some, htvb.field] <;>
    rwa [slice_length]

end tvb

theorem beValue_slice_lt (m : Mem UInt8) (off n : Nat) : beValue (slice m off n) < 256 ^ n := by
  have h := beValue_lt (slice m off n)
  rwa [slice_length] at h

theorem read16_toNat (m : Mem UInt8) (off : Nat) : (read16 m off).toNat = beValue (slice m off 2) :=
  UInt16.toNat_ofNat_of_lt' (beValue_slice_lt m off 2)

theorem read32_toNat (m : Mem UInt8) (off : Nat) : (read32 m off).toNat = beValue (slice m off 4) :=
  UInt32.toNat_ofNat_of_lt' (beValue_slice_lt m off 4)

theorem read64_toNat (m : Mem UInt8) (off : Nat) : (read64 m off).toNat = beValue (slice m off 8) :=
  UInt64.toNat_ofNat_of_lt' (beValue_slice_lt m off 8)

theorem beValue_byte (m : Mem UInt8) (off : Nat) : beValue (slice m off 1) = (m off).toNat := by
  simp [slice, beValue, leValue]

/-! ## What is shown -/

/-- The fields of the secure header and the checksum of a frame in memory. -/
def securityAt (m : Mem UInt8) (base n : Nat) : SecurityFields :=
  ⟨(m (base + 2)).toNat, (m (base + 3)).toNat, (read32 m (base + 4)).toNat,
    (read16 m (base + 8)).toNat, slice m (base + (n - 16)) 16⟩

/-- Where the metadata of a frame lies, behind its EtherType. -/
def metaDataAt (id : Nat) : Nat := if isSec id then 10 else 2

/-- What the subtree shows for a counter and a time stamp. -/
def shown (id : UInt16) (c : Counters) (t : UInt64) (security : Option SecurityFields) : Dissected :=
  ⟨infoText id.toNat c.frame.toNat c.cycle.toNat, id.toNat, c.frame.toNat, c.cycle.toNat, t.toNat,
    security⟩

/-- The script on the bytes of a memory. -/
theorem dissector_slice {tvb : Tvb B} {bytes : B → List UInt8} (htvb : tvb.Lawful bytes)
    {buffer : B} {m : Mem UInt8} {base n : Nat} (hbuffer : bytes buffer = slice m base n)
    (hn : metaDataAt (read16 m base).toNat + 16 ≤ n) :
    dissector tvb buffer =
      some (some (shown (read16 m base) (counters m (base + metaDataAt (read16 m base).toNat))
        (metaDataToTxTimestamp m (base + metaDataAt (read16 m base).toNat))
        (if isSec (read16 m base).toNat then some (securityAt m base n) else none))) := by
  have hlen : tvb.len buffer = n := by rw [htvb.len, hbuffer, slice_length]
  have hpos : n ≠ 0 := by
    rintro rfl
    exact absurd hn (by omega)
  have hroom : 2 + 16 ≤ n := by
    unfold metaDataAt at hn
    split at hn <;> omega
  have huint {off len : Nat} (h : off + len ≤ n) (hlow : 1 ≤ len) (hhigh : len ≤ 4) :
      tvb.uintAt buffer off len = some (beValue (slice m (base + off) len)) :=
    uintAt_slice htvb hbuffer h hlow hhigh
  have hfield {off len : Nat} (h : off + len ≤ n) (hlow : 1 ≤ len) (hhigh : len ≤ 8) :
      tvb.fieldAt buffer off len = some (beValue (slice m (base + off) len)) :=
    fieldAt_slice htvb hbuffer h hlow hhigh
  have hid : tvb.uintAt buffer 0 2 = some (read16 m base).toNat := by
    rw [huint (by omega) (by decide) (by decide), read16_toNat]
    rfl
  have hidField : tvb.fieldAt buffer 0 2 = some (read16 m base).toNat := by
    rw [hfield (by omega) (by decide) (by decide), read16_toNat]
    rfl
  unfold dissector
  simp only [hlen, if_neg hpos]
  rw [hid]
  cases hsec : isSec (read16 m base).toNat with
  | true =>
    have hoff : metaDataAt (read16 m base).toNat = 10 := by rw [metaDataAt, hsec, if_pos rfl]
    rw [hoff] at hn ⊢
    simp only [bind, Option.bind, if_true, hsec]
    rw [huint (by omega) (by decide) (by decide), huint (by omega) (by decide) (by decide),
      hidField, hfield (by omega) (by decide) (by decide),
      hfield (by omega) (by decide) (by decide), hfield (by omega) (by decide) (by decide),
      hfield (by omega) (by decide) (by decide), hfield (by omega) (by decide) (by decide),
      hfield (by omega) (by decide) (by decide), hfield (by omega) (by decide) (by decide),
      range_slice htvb hbuffer (by omega)]
    simp only [shown, securityAt, counters, metaDataToTxTimestamp, read16_toNat, read32_toNat,
      read64_toNat, beValue_byte, Nat.add_assoc]
  | false =>
    have hoff : metaDataAt (read16 m base).toNat = 2 := by
      rw [metaDataAt, hsec, if_neg Bool.false_ne_true]
    rw [hoff] at hn ⊢
    simp only [bind, Option.bind, hsec, Bool.false_eq_true, if_false]
    rw [huint (by omega) (by decide) (by decide), huint (by omega) (by decide) (by decide),
      hidField, hfield (by omega) (by decide) (by decide),
      hfield (by omega) (by decide) (by decide), hfield (by omega) (by decide) (by decide)]
    simp only [shown, counters, metaDataToTxTimestamp, read16_toNat, read32_toNat, read64_toNat,
      Nat.add_assoc]

/-! ## The classes -/

/-- How the script calls a class. -/
def className : FrameType → String
  | .tsnHigh => "TSN High"
  | .tsnLow => "TSN Low"
  | .rtc => "RTC"
  | .rta => "RTA"
  | .dcp => "DCP"
  | _ => "Unknown"

theorem trafficClass_frameId (cfg : AppConfig) {ty : FrameType} (hty : isProfinet ty = true) :
    trafficClass (frameId ty (cfg.mode ty)).toNat =
      className ty ++ (if cfg.mode ty = .none then "" else " Sec") := by
  cases ty with
  | tsnHigh | tsnLow | rtc | rta => cases cfg.mode _ <;> decide
  | dcp =>
    have hmode : cfg.mode .dcp = .none := rfl
    rw [hmode]
    decide
  | lldp | udpHigh | udpLow | l2 => cases hty

/-- The frame id tells whether the class is secured. -/
theorem isSec_frameId (cfg : AppConfig) {ty : FrameType} (hty : isProfinet ty = true) :
    isSec (frameId ty (cfg.mode ty)).toNat = decide (cfg.mode ty ≠ .none) := by
  cases ty with
  | tsnHigh | tsnLow | rtc | rta => cases cfg.mode _ <;> decide
  | dcp =>
    have hmode : cfg.mode .dcp = .none := rfl
    rw [hmode]
    decide
  | lldp | udpHigh | udpLow | l2 => cases hty

theorem metaDataAt_frameId (cfg : AppConfig) {ty : FrameType} (hty : isProfinet ty = true) :
    metaDataAt (frameId ty (cfg.mode ty)).toNat = if cfg.mode ty = .none then 2 else 10 := by
  rw [metaDataAt, isSec_frameId cfg hty]
  by_cases hm : cfg.mode ty = .none
  · rw [if_pos hm, if_neg (by simp [hm])]
  · rw [if_neg hm, if_pos (by simp [hm])]

/-- Behind the EtherType it is where the class puts it. -/
theorem getMetaDataOffset_eq (cfg : AppConfig) {ty : FrameType} (hty : isProfinet ty = true) :
    getMetaDataOffset ty (cfg.mode ty) = 18 + metaDataAt (frameId ty (cfg.mode ty)).toNat := by
  rw [metaDataAt_frameId cfg hty]
  cases ty with
  | tsnHigh | tsnLow | rtc | rta | dcp =>
    rw [getMetaDataOffset]
    split <;> rfl
  | lldp | udpHigh | udpLow | l2 => cases hty

theorem metaAt_eq (cfg : AppConfig) {ty : FrameType} (hty : isProfinet ty = true) (off : Nat) :
    metaAt cfg ty off = off + metaDataAt (frameId ty (cfg.mode ty)).toNat := by
  rw [metaDataAt_frameId cfg hty]
  cases ty with
  | tsnHigh | tsnLow | rtc | rta =>
    rw [metaAt]
    split <;> rfl
  | dcp => rfl
  | lldp | udpHigh | udpLow | l2 => cases hty

/-- A checked frame has room for what the script reads. -/
theorem sane_room {withMqtt : Bool} {cfg : AppConfig} {ty : FrameType} (hty : isProfinet ty = true)
    (h : configSanityCheck withMqtt cfg = .ok ()) :
    18 + metaDataAt (frameId ty (cfg.mode ty)).toNat + 16 ≤ (cfg.cls ty).frameLength.toNat ∧
      (cfg.cls ty).frameLength.toNat < 2 ^ 16 ∧
        (cfg.mode ty ≠ .none → 60 ≤ (cfg.cls ty).frameLength.toNat) := by
  have hhigh := (frameLength_bounds h ty).2
  have hlow := frameLength_room h ty (by rintro rfl; cases hty) (by rintro rfl; cases hty)
  rw [getMetaDataOffset_eq cfg hty] at hlow
  refine ⟨by omega, Nat.lt_of_le_of_lt hhigh (by decide), fun hm => ?_⟩
  rw [metaDataAt_frameId cfg hty, if_neg hm, if_neg hm] at hlow
  omega

theorem wire_drop (m : Mbuf) {off : Nat} (h : off ≤ m.dataLen.toNat) :
    m.wire.drop off = slice m.data off (m.dataLen.toNat - off) := by
  obtain ⟨k, hk⟩ := Nat.exists_eq_add_of_le h
  rw [Mbuf.wire, hk, slice_add, List.drop_left' (slice_length _ _ _), Nat.add_sub_cancel_left,
    Nat.zero_add]

/-! ## Received frames -/

/-- **Two readers.** Whatever the bytes of a frame are: if a class's receiver lets it pass its
checks and finds its frame id in it, then the script shows the class, the frame id, the time
stamp and the counters that the receiver decodes, be the frame tagged or not. -/
theorem dissector_received {tvb : Tvb B} {bytes : B → List UInt8} (htvb : tvb.Lawful bytes)
    {withMqtt : Bool} {env : Env C D} {ty : FrameType}
    (hty : isProfinet ty = true) (hsane : configSanityCheck withMqtt env.app = .ok ()) {m : Mbuf}
    (hsegment : m.pktLen = m.dataLen.toUInt32) {expected : UInt64} {lay : Layout}
    (hcheck : (rxHandler env ty).check (env.app.cls ty).frameLength m = (expected, .ok lay))
    {w : World C D} {p : Mem UInt8} {r : Received C D}
    (hdecode : (rxHandler env ty).decode w p m lay = .ok r)
    (hid : r.frameId = frameId ty (env.app.mode ty)) {buffer : B}
    (hbuffer : bytes buffer = m.wire.drop lay.off) :
    ∃ c security,
      dissector tvb buffer =
        some (some (shown (frameId ty (env.app.mode ty)) c r.txTimestamp security)) ∧
      decode c (env.app.cls ty).numFramesPerCycle = r.sequenceCounter ∧
      security.isSome = decide (env.app.mode ty ≠ .none) ∧
      trafficClass (frameId ty (env.app.mode ty)).toNat =
        className ty ++ (if env.app.mode ty = .none then "" else " Sec") := by
  obtain ⟨hroom, -, -⟩ := sane_room hty hsane
  have hvlan : isVlan ty = true := by
    cases ty <;> first | rfl | cases hty
  have hlen := check_vlan_len hvlan (by omega) hcheck
  obtain ⟨-, -, hlay⟩ := check_vlan_ok hvlan hcheck
  rw [Mbuf.len_toNat, hsegment, UInt16.toNat_toUInt32] at hlen
  have hrest : lay.off ≤ m.dataLen.toNat ∧
      m.dataLen.toNat - lay.off = (env.app.cls ty).frameLength.toNat - 18 := by
    rw [hlay, layoutOf, hlen]
    cases m.tagged with
    | true =>
      simp only [ethHeaderSize, if_true, sizeofVlanEthernetHeader]
      exact ⟨by omega, trivial⟩
    | false =>
      simp only [ethHeaderSize, Bool.false_eq_true, if_false, sizeofEthhdr]
      omega
  have hspec := decode_spec env ty hdecode
  have hread : read16 m.data lay.off = frameId ty (env.app.mode ty) := by
    rw [← hspec.frameId hty, hid]
  have hslice := dissector_slice htvb (hbuffer.trans (wire_drop m hrest.1)) (by rw [hread]; omega)
  rw [hread, ← metaAt_eq env.app hty, ← hspec.txTimestamp] at hslice
  refine ⟨_, _, hslice, ?_, ?_, trafficClass_frameId env.app hty⟩
  · rw [hspec.sequenceCounter, metaDataToSequenceCounter_eq]
  · rw [isSec_frameId env.app hty]
    cases decide (env.app.mode ty ≠ .none) <;> rfl

/-- A node for RTC frames of 40 bytes, and a frame with counters 3 and 7. -/
def plainNode : Env DigestCtx Unit := Env.small (AppConfig.small .none 40 1 []) false

def rtcFrame : Mbuf :=
  ⟨0, fun i => ([0, 0, 0, 0, 0, 0, 0, 0, 0, 0, 0, 0, 0x81, 0, 0, 0, 0x88, 0x92, 0x80, 0,
    0, 0, 0, 3, 0, 0, 0, 7] : List UInt8).getD i 0, 40, 40⟩

theorem plainNode_sane : configSanityCheck false plainNode.app = .ok () := by rfl

theorem dissector_received_rtc :
    ∃ r c security,
      (rxHandler plainNode .rtc).decode (World.fresh plainNode .rtc DigestCtx.fresh ()) (fun _ => 0)
        rtcFrame ⟨18, false⟩ = .ok r ∧
      dissector listTvb (rtcFrame.wire.drop 18) =
        some (some (shown (frameId .rtc (plainNode.app.mode .rtc)) c r.txTimestamp security)) ∧
      decode c (plainNode.app.cls .rtc).numFramesPerCycle = r.sequenceCounter ∧
      security.isSome = decide (plainNode.app.mode .rtc ≠ .none) ∧
      trafficClass (frameId .rtc (plainNode.app.mode .rtc)).toNat =
        className .rtc ++ (if plainNode.app.mode .rtc = .none then "" else " Sec") := by
  have hcheck : (rxHandler plainNode .rtc).check (plainNode.app.cls .rtc).frameLength rtcFrame =
      (40, .ok ⟨18, false⟩) := by rfl
  have hdecode := decode_plain plainNode .rtc rfl (World.fresh plainNode .rtc DigestCtx.fresh ())
    (fun _ => 0) rtcFrame ⟨18, false⟩
  obtain ⟨c, security, hshown⟩ :=
    dissector_received listTvb_lawful rfl plainNode_sane rfl hcheck hdecode (by decide +kernel) rfl
  exact ⟨_, c, security, hdecode, hshown⟩

/-! ## Generated frames -/

theorem writeVlanEthernetHeader_above (data : Mem UInt8) (dst src : Vector UInt8 6)
    (tci proto : UInt16) {i : Nat} (h : 18 ≤ i) :
    writeVlanEthernetHeader data dst src tci proto i = data i := by
  unfold writeVlanEthernetHeader
  rw [write_above _ _ _ _ (by rw [be16_length]; omega),
    write_above _ _ _ _ (by rw [be16_length]; omega),
    write_above _ _ _ _ (by rw [be16_length]; omega),
    write_above _ _ _ _ (by rw [Vector.length_toList]; omega),
    write_above _ _ _ _ (by rw [Vector.length_toList]; omega)]

theorem memset0_inside (data : Mem UInt8) {n i : Nat} (h : i < n) : memset0 data n i = 0 := by
  have hin := write_inside data 0 (List.replicate n 0) i (by rwa [List.length_replicate])
  rw [Nat.zero_add, List.getElem_replicate] at hin
  exact hin

/-- The secure header as a class builds it. -/
structure SecureHeader (mode : SecurityMode) (frameLength : Nat) (data : Mem UInt8) : Prop where
  info : data 20 = if mode = .ao then 0 else 1
  blank : ∀ i, 21 ≤ i → i < 26 → data i = 0
  length : read16 data 26 = UInt16.ofNat (frameLength - 34)

theorem initializeSecureProfinetFrame_header (mode : SecurityMode) (data : Mem UInt8) {len : Nat}
    (hlen : 26 ≤ len) (src dst : Vector UInt8 6) (pattern : List UInt8) (tci fid : UInt16) :
    SecureHeader mode len
      (initializeSecureProfinetFrame mode data len src dst pattern tci fid) := by
  unfold initializeSecureProfinetFrame
  refine ⟨?_, fun i hlow hhigh => ?_, ?_⟩
  · rw [write_below _ _ _ _ (by decide), write_below _ _ _ _ (by decide),
      write_below _ _ _ _ (by decide), write_below _ _ _ _ (by decide)]
    exact write_inside _ 20 _ 0 (by simp)
  · rw [write_below _ _ _ _ (by omega), write_below _ _ _ _ (by omega),
      write_below _ _ _ _ (by omega), write_below _ _ _ _ (by omega),
      write_above _ _ _ _ (by simpa using hlow),
      write_above _ _ _ _ (by rw [be16_length]; omega),
      writeVlanEthernetHeader_above _ _ _ _ _ (by omega), memset0_inside _ (by omega)]
  · rw [read16_write_behind _ _ _ _ (by decide), read16_write_behind _ _ _ _ (by decide),
      read16_write_behind _ _ _ _ (by decide), read16_write_same, sizeofVlanEthernetHeader,
      sizeofSecurityChecksum, Nat.sub_sub]

theorem initializeFrame_header {cfg : AppConfig} {ty : FrameType} (hs : Secured cfg ty)
    (source : Vector UInt8 6) (m : Mbuf) :
    SecureHeader (cfg.mode ty) (cfg.cls ty).frameLength.toNat
      (initializeFrame cfg source ty m).data := by
  have hlen := (initializeFrame_len hs source m).1
  have hlow := hs.low
  have hmode := hs.mode
  have hinit : (initializeFrame cfg source ty m).data =
      initializeProfinetFrame (cfg.mode ty) (memset0 m.data (cfg.cls ty).frameLength.toNat)
        (initializeFrame cfg source ty m).dataLen.toNat source (cfg.cls ty).destination
        (cfg.cls ty).payloadPattern (cfg.cls ty).vlanTci (frameId ty (cfg.mode ty)) := by
    have hsec := hs.hasSecurity
    cases ty <;> first | rfl | cases hsec
  rw [hinit, hlen]
  cases hm : cfg.mode ty with
  | none => exact absurd hm hmode
  | ao | ae => exact initializeSecureProfinetFrame_header _ _ (by omega) _ _ _ _ _

section generated
variable {env : Env C D} {key : C → K} {ty : FrameType} {n seq t : UInt64} {w w' : World C D}
variable {im f : Mbuf} {tvb : Tvb B} {bytes : B → List UInt8} {buffer : B}

/-- Headers and metadata of a prepared frame are as stamped. -/
theorem prepareFrame_stamped (hl : env.evp.Lawful key)
    (hroom : env.app.mode ty ≠ .none → 60 ≤ im.dataLen.toNat)
    (h : prepareFrame env ty n seq t w im = .ok (w', f)) :
    f.dataLen = im.dataLen ∧ ∀ i, i < getMetaDataOffset ty (env.app.mode ty) + 16 →
      f.data i = stampMetaData im.data (getMetaDataOffset ty (env.app.mode ty)) seq n t i := by
  by_cases hm : env.app.mode ty = .none
  · rw [prepareFrame_plain env ty hm] at h
    cases h
    exact ⟨rfl, fun i _ => rfl⟩
  · obtain ⟨hsec, hmode⟩ := hasSecurity_of_mode hm
    obtain ⟨p, hp, rfl⟩ := prepareFrame_secured_ok hsec h
    refine ⟨rfl, fun i hi => ?_⟩
    rw [secured_offset hm] at hi ⊢
    rw [hmode] at hm
    exact prepare_header hl (f := prepareConfig env ty w.thread im n seq t) hm
      (hroom (hmode ▸ hm)) hp i hi

/-- The metadata that were put into a frame. -/
theorem stampMetaData_counters (data : Mem UInt8) (off : Nat) (s n t : UInt64) :
    counters (stampMetaData data off s n t) off = encode s n := by
  rw [← counters_sequenceCounterToMetaData data off s n, stampMetaData, txTimestampToMetaData,
    counters, counters, read32_write_disjoint _ _ _ _ (by omega),
    read32_write_disjoint _ _ _ _ (by omega)]

/-- What is shown of a frame in which counter `seq` and time `t` were put. -/
def shownOf (cfg : AppConfig) (ty : FrameType) (f : Mbuf) (n seq t : UInt64) : Dissected :=
  shown (frameId ty (cfg.mode ty)) (encode seq n) t
    (if cfg.mode ty = .none then none
    else some ⟨if cfg.mode ty = .ao then 0 else 1, 0, 0, (cfg.cls ty).frameLength.toNat - 34,
      f.wire.drop (f.wire.length - 16)⟩)

theorem dissector_prepared (htvb : tvb.Lawful bytes) {withMqtt : Bool}
    (hl : env.evp.Lawful key) (hty : isProfinet ty = true)
    (hsane : configSanityCheck withMqtt env.app = .ok ()) {m : Mbuf}
    (h : prepareFrame env ty n seq t w (initializeFrame env.app env.mac ty m) = .ok (w', f))
    (hbuffer : bytes buffer = f.wire.drop 18) :
    dissector tvb buffer = some (some (shownOf env.app ty f n seq t)) := by
  obtain ⟨hroom, hhigh, hlow⟩ := sane_room hty hsane
  have hlen : (initializeFrame env.app env.mac ty m).dataLen.toNat =
      (env.app.cls ty).frameLength.toNat := by
    rw [(initializeFrame_lengths env.app env.mac ty m).1, UInt64.toNat_toUInt16,
      Nat.mod_eq_of_lt hhigh]
  obtain ⟨hdataLen, hbytes⟩ := prepareFrame_stamped hl (fun hm => hlen.symm ▸ hlow hm) h
  have hflen : f.dataLen.toNat = (env.app.cls ty).frameLength.toNat := by rw [hdataLen, hlen]
  have hoff := getMetaDataOffset_eq env.app hty
  rw [hoff] at hbytes
  have hid : read16 f.data 18 = frameId ty (env.app.mode ty) := by
    rw [read16_congr fun i hi => hbytes (18 + i) (by omega), read16_stampMetaData _ _ _ _ _ _ (by
      rw [metaDataAt]; split <;> omega)]
    exact (initializeFrame_built env.app env.mac ty m).frameId hty
  have hcounters : counters f.data (18 + metaDataAt (frameId ty (env.app.mode ty)).toNat) =
      encode seq n := by
    rw [← stampMetaData_counters _ _ seq n t, counters, counters,
      read32_congr fun i hi => hbytes _ (by omega), read32_congr fun i hi => hbytes _ (by omega)]
  have htime : metaDataToTxTimestamp f.data
      (18 + metaDataAt (frameId ty (env.app.mode ty)).toNat) = t := by
    rw [metaDataToTxTimestamp, read64_congr fun i hi => hbytes _ (by omega)]
    exact stampMetaData_timestamp _ _ _ _ _
  rw [dissector_slice htvb (hbuffer.trans (wire_drop f (by omega))) (by rw [hid]; omega), hid,
    hcounters, htime, shownOf, isSec_frameId env.app hty]
  by_cases hm : env.app.mode ty = .none
  · rw [if_pos hm, if_neg (by simp [hm])]
  · have hs : Secured env.app ty := ⟨hm, hlow hm, hhigh⟩
    obtain ⟨hinfo, hblank, hlength⟩ := initializeFrame_header hs env.mac m
    have hmeta : metaDataAt (frameId ty (env.app.mode ty)).toNat = 10 := by
      rw [metaDataAt_frameId env.app hty, if_neg hm]
    rw [hmeta] at hbytes
    have hbelow (i : Nat) (hi : i < 28) :
        f.data i = (initializeFrame env.app env.mac ty m).data i := by
      rw [hbytes i (by omega), stampMetaData_outside _ _ _ _ _ _ (Or.inl hi)]
    have hzero : read32 f.data 22 = 0 := by
      have hall : slice f.data 22 4 = [0, 0, 0, 0] := by
        simp only [slice, List.range_succ, List.range_zero, List.map_nil, List.map_cons,
          List.nil_append, List.cons_append]
        rw [hbelow _ (by omega), hbelow _ (by omega), hbelow _ (by omega), hbelow _ (by omega),
          hblank _ (by omega) (by omega), hblank _ (by omega) (by omega),
          hblank _ (by omega) (by omega), hblank _ (by omega) (by omega)]
      rw [read32, hall]
      rfl
    have hsecLength : (read16 f.data 26).toNat = (env.app.cls ty).frameLength.toNat - 34 := by
      rw [read16_congr fun i hi => hbelow (26 + i) (by omega), hlength]
      exact UInt16.toNat_ofNat_of_lt' (by show _ < 2 ^ 16; omega)
    have hwire : f.wire.length = f.dataLen.toNat := slice_length _ _ _
    rw [if_neg hm, if_pos (by simp [hm]), securityAt, hbelow 20 (by omega), hbelow 21 (by omega),
      hzero, hsecLength, hinfo, hblank 21 (by omega) (by omega), hwire, wire_drop f (by omega)]
    have hoffset : 18 + (f.dataLen.toNat - 18 - 16) = f.dataLen.toNat - 16 := by omega
    have hsixteen : f.dataLen.toNat - (f.dataLen.toNat - 16) = 16 := by omega
    rw [hoffset, hsixteen]
    split <;> rfl

theorem genFrames_shown (htvb : tvb.Lawful bytes) {withMqtt : Bool} (hl : env.evp.Lawful key) (hty : isProfinet ty = true)
    (hsane : configSanityCheck withMqtt env.app = .ok ()) {ms : List Mbuf}
    (h : genFrames env ty n t seq w ms = .ok w') :
    ∃ fs, w'.tx.added = w.tx.added ++ fs ∧ ∀ (i : Nat) (f : Mbuf), fs[i]? = some f →
      ∀ buffer, bytes buffer = f.wire.drop 18 → dissector tvb buffer =
        some (some (shownOf env.app ty f n (seq + UInt64.ofNat i) t)) := by
  induction ms generalizing seq w with
  | nil =>
    cases h
    exact ⟨[], (List.append_nil _).symm, fun i f hf => by cases hf⟩
  | cons m ms ih =>
    obtain ⟨w1, hone, hrest⟩ := bind_ok_iff.mp h
    obtain ⟨w2, f, hprepare, hadded⟩ := genFrame_ok hone
    obtain ⟨fs, hadded', hfs⟩ := ih hrest
    refine ⟨f :: fs, by rw [hadded', hadded, List.append_assoc]; rfl, fun i g hg => ?_⟩
    cases i with
    | zero =>
      cases hg
      have hzero : seq + UInt64.ofNat 0 = seq := UInt64.add_zero seq
      rw [hzero]
      exact fun buffer hbuffer => dissector_prepared htvb hl hty hsane hprepare hbuffer
    | succ i =>
      have hsucc : seq + UInt64.ofNat (i + 1) = seq + 1 + UInt64.ofNat i := by
        rw [UInt64.ofNat_add, UInt64.add_comm (UInt64.ofNat i), ← UInt64.add_assoc]
        rfl
      rw [hsucc]
      exact hfs i g hg

/-- **Generated frames.** The script shows the frames of a call of the generator with the class
and the frame id, with consecutive counters that start where the class's stood, and with the
time of the call; it shows a secured frame with its security information and length and with
the checksum at its end. -/
theorem dissector_generated (htvb : tvb.Lawful bytes) {withMqtt : Bool} (hl : env.evp.Lawful key)
    (hty : isProfinet ty = true) (hsane : configSanityCheck withMqtt env.app = .ok ())
    (numFrames : UInt64) (mbufs : Option (List Mbuf))
    (h : genAndSendFrames env ty numFrames mbufs w = .ok w') (i : Nat) (f : Mbuf)
    (hf : (newlyAdded w w')[i]? = some f) {buffer : B} (hbuffer : bytes buffer = f.wire.drop 18) :
    dissector tvb buffer = some (some (shownOf env.app ty f
        (divisor (env.app.cls ty) ty numFrames.toUInt16)
        (w.thread.txSequenceCounter + UInt64.ofNat i) (w.now env))) ∧
      trafficClass (frameId ty (env.app.mode ty)).toNat =
        className ty ++ (if env.app.mode ty = .none then "" else " Sec") := by
  refine ⟨?_, trafficClass_frameId env.app hty⟩
  have hnone (w' : World C D) (hsame : w'.tx = w.tx) :
      (newlyAdded w w')[i]? ≠ some f := by
    intro hget
    rw [newlyAdded, hsame, List.drop_length, List.getElem?_nil] at hget
    cases hget
  unfold genAndSendFrames at h
  simp only at h
  split at h
  · cases h
    exact absurd hf (hnone w rfl)
  · cases mbufs with
    | none =>
      cases h
      exact absurd hf (hnone _ rfl)
    | some ms =>
      obtain ⟨w1, hframes, hsend⟩ := bind_ok_iff.mp h
      cases hsend
      obtain ⟨fs, hadded, hfs⟩ := genFrames_shown htvb hl hty hsane hframes
      have hnew : (lportSend env.dev w1.tx).added.drop w.tx.added.length = fs := by
        rw [lportSend, lportTxBufferFlush_added, hadded]
        exact List.drop_left
      rw [newlyAdded, hnew] at hf
      exact hfs i f hf buffer hbuffer

end generated

/-- A burst of two frames. -/
def burst : List Mbuf := [⟨0, fun _ => 0, 0, 0⟩, ⟨1, fun _ => 0, 0, 0⟩]

theorem generates_two :
    ∃ w', genAndSendFrames (encryptedNode 64 []) .rtc 2 (some burst) (encryptedWorld 64 [] .rtc) =
        .ok w' ∧ (newlyAdded (encryptedWorld 64 [] .rtc) w').length = 2 := by
  have hcount : (genAndSendFrames (encryptedNode 64 []) .rtc 2 (some burst)
      (encryptedWorld 64 [] .rtc)).toOption.map
        (fun w' => (newlyAdded (encryptedWorld 64 [] .rtc) w').length) = some 2 := by
    decide +kernel
  obtain ⟨w', hok, hlength⟩ := Option.map_eq_some_iff.mp hcount
  cases hgen : genAndSendFrames (encryptedNode 64 []) .rtc 2 (some burst)
      (encryptedWorld 64 [] .rtc) with
  | error e =>
    rw [hgen] at hok
    cases hok
  | ok v =>
    rw [hgen] at hok
    cases hok
    exact ⟨_, rfl, hlength⟩

theorem dissector_generated_second :
    ∃ w' f, genAndSendFrames (encryptedNode 64 []) .rtc 2 (some burst) (encryptedWorld 64 [] .rtc) =
        .ok w' ∧ (newlyAdded (encryptedWorld 64 [] .rtc) w')[1]? = some f ∧
      dissector listTvb (f.wire.drop 18) =
          some (some (shownOf (encryptedNode 64 []).app .rtc f
            (divisor ((encryptedNode 64 []).app.cls .rtc) .rtc (2 : UInt64).toUInt16)
            ((encryptedWorld 64 [] .rtc).thread.txSequenceCounter + UInt64.ofNat 1)
            ((encryptedWorld 64 [] .rtc).now (encryptedNode 64 [])))) ∧
        trafficClass (frameId .rtc ((encryptedNode 64 []).app.mode .rtc)).toNat =
          className .rtc ++ (if (encryptedNode 64 []).app.mode .rtc = .none then "" else " Sec") := by
  obtain ⟨w', hgen, hlength⟩ := generates_two
  have hsome := List.getElem?_eq_getElem
    (show 1 < (newlyAdded (encryptedWorld 64 [] .rtc) w').length by rw [hlength]; decide)
  exact ⟨w', _, hgen, hsome, dissector_generated listTvb_lawful (encryptedNode_lawful 64 []) rfl
    encrypted_sane 2 (some burst) hgen 1 _ hsome rfl⟩

end Rtdk.Dissector
