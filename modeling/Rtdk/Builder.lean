import Rtdk.Checks

/-! The bytes of a frame as its class builds it, as far as receivers look at
them: VLAN tag, EtherType, frame id and payload (`initializeFrame_built`).
Stamping the metadata keeps them, and every receiver with the sender's
configuration lets such a frame pass its checks (`check_own`). -/

namespace Rtdk.Builder
open Rtdk.Memory Rtdk.Endian Rtdk.NetDef Rtdk.Security Rtdk.Stat Rtdk.Lport Rtdk.Config Rtdk.Frame
open Rtdk.Thread Rtdk.Receive Rtdk.Handlers Rtdk.Checks

variable {C D : Type}

/-- The EtherType a class puts behind the tag. -/
def innerProto (cfg : AppConfig) (ty : FrameType) : UInt16 :=
  if ty = .l2 then cfg.l2EtherType.toUInt16 else ethPProfinetRt

/-- The classes with a frame id. -/
def isProfinet : FrameType → Bool
  | .tsnHigh | .tsnLow | .rtc | .rta | .dcp => true
  | _ => false

def payloadOff (cfg : AppConfig) (ty : FrameType) : Nat :=
  getMetaDataOffset ty (cfg.mode ty) + sizeofReferenceMetaData

/-- What the receivers of a class check in its frames. -/
structure Built (cfg : AppConfig) (ty : FrameType) (data : Mem UInt8) : Prop where
  tagged : isVlan ty = true → read16 data 12 = ethP8021Q
  proto : isVlan ty = true → read16 data 16 = innerProto cfg ty
  frameId : isProfinet ty = true → read16 data 18 = frameId ty (cfg.mode ty)
  payload : slice data (payloadOff cfg ty) (cfg.cls ty).payloadPattern.length =
    (cfg.cls ty).payloadPattern

/-! ## Initialisation -/

/-- A write that lies behind the tagged header does not touch its fields. -/
theorem read16_write_behind (data : Mem UInt8) (off : Nat) (xs : List UInt8) (a : Nat)
    (h : a + 2 ≤ off) : read16 (write data off xs) a = read16 data a :=
  read16_write_disjoint _ _ _ _ (Or.inr h)

theorem writeVlanEthernetHeader_tag (data : Mem UInt8) (dst src : Vector UInt8 6)
    (tci proto : UInt16) :
    read16 (writeVlanEthernetHeader data dst src tci proto) 12 = ethP8021Q := by
  unfold writeVlanEthernetHeader
  rw [read16_write_behind _ _ _ _ (by decide), read16_write_behind _ _ _ _ (by decide),
    read16_write_same]

theorem writeVlanEthernetHeader_proto (data : Mem UInt8) (dst src : Vector UInt8 6)
    (tci proto : UInt16) :
    read16 (writeVlanEthernetHeader data dst src tci proto) 16 = proto := by
  unfold writeVlanEthernetHeader
  rw [read16_write_same]

theorem initializeProfinetFrame_built (mode : SecurityMode) (data : Mem UInt8) (len : Nat)
    (src dst : Vector UInt8 6) (pattern : List UInt8) (tci fid : UInt16) :
    let built := initializeProfinetFrame mode data len src dst pattern tci fid
    read16 built 12 = ethP8021Q ∧ read16 built 16 = ethPProfinetRt ∧ read16 built 18 = fid ∧
      slice built ((if mode = .none then 20 else 28) + 16) pattern.length = pattern := by
  cases mode with
  | none =>
    simp only [initializeProfinetFrame, initializeRtProfinetFrame]
    refine ⟨?_, ?_, ?_, slice_write_same _ _ _⟩
    · rw [read16_write_behind _ _ _ _ (by decide), read16_write_behind _ _ _ _ (by decide),
        read16_write_behind _ _ _ _ (by decide), read16_write_behind _ _ _ _ (by decide),
        writeVlanEthernetHeader_tag]
    · rw [read16_write_behind _ _ _ _ (by decide), read16_write_behind _ _ _ _ (by decide),
        read16_write_behind _ _ _ _ (by decide), read16_write_behind _ _ _ _ (by decide),
        writeVlanEthernetHeader_proto]
    · rw [read16_write_behind _ _ _ _ (by decide), read16_write_behind _ _ _ _ (by decide),
        read16_write_behind _ _ _ _ (by decide), read16_write_same]
  | ao | ae =>
    simp only [initializeProfinetFrame, initializeSecureProfinetFrame]
    refine ⟨?_, ?_, ?_, slice_write_same _ _ _⟩
    · rw [read16_write_behind _ _ _ _ (by decide), read16_write_behind _ _ _ _ (by decide),
        read16_write_behind _ _ _ _ (by decide), read16_write_behind _ _ _ _ (by decide),
        read16_write_behind _ _ _ _ (by decide), read16_write_behind _ _ _ _ (by decide),
        writeVlanEthernetHeader_tag]
    · rw [read16_write_behind _ _ _ _ (by decide), read16_write_behind _ _ _ _ (by decide),
        read16_write_behind _ _ _ _ (by decide), read16_write_behind _ _ _ _ (by decide),
        read16_write_behind _ _ _ _ (by decide), read16_write_behind _ _ _ _ (by decide),
        writeVlanEthernetHeader_proto]
    · rw [read16_write_behind _ _ _ _ (by decide), read16_write_behind _ _ _ _ (by decide),
        read16_write_behind _ _ _ _ (by decide), read16_write_behind _ _ _ _ (by decide),
        read16_write_behind _ _ _ _ (by decide), read16_write_same]

theorem profinet_built (cfg : AppConfig) (ty : FrameType) (hty : isProfinet ty = true)
    (source : Vector UInt8 6) (m : Mbuf) :
    Built cfg ty (profinetInitializeFrame (cfg.cls ty) (cfg.mode ty) (frameId ty (cfg.mode ty))
      source m).data := by
  have h := initializeProfinetFrame_built (cfg.mode ty)
    (memset0 m.data (cfg.cls ty).frameLength.toNat) (cfg.cls ty).frameLength.toUInt16.toNat source
    (cfg.cls ty).destination (cfg.cls ty).payloadPattern (cfg.cls ty).vlanTci
    (frameId ty (cfg.mode ty))
  have hoff : payloadOff cfg ty = (if cfg.mode ty = .none then 20 else 28) + 16 := by
    cases ty <;> first | rfl | cases hty
  have hproto : innerProto cfg ty = ethPProfinetRt := by
    cases ty <;> first | rfl | cases hty
  refine ⟨fun _ => h.1, fun _ => by rw [hproto]; exact h.2.1, fun _ => h.2.2.1, ?_⟩
  rw [hoff]
  exact h.2.2.2

/-- **Built frames.**  Every class's initialisation writes what its receivers check. -/
theorem initializeFrame_built (cfg : AppConfig) (source : Vector UInt8 6) (ty : FrameType)
    (m : Mbuf) : Built cfg ty (initializeFrame cfg source ty m).data := by
  cases ty with
  | tsnHigh => exact profinet_built cfg .tsnHigh rfl source m
  | tsnLow => exact profinet_built cfg .tsnLow rfl source m
  | rtc => exact profinet_built cfg .rtc rfl source m
  | rta => exact profinet_built cfg .rta rfl source m
  | dcp => exact profinet_built cfg .dcp rfl source m
  | lldp =>
    refine ⟨fun h => (by cases h), fun h => (by cases h), fun h => (by cases h), ?_⟩
    exact slice_write_same _ _ _
  | udpHigh =>
    refine ⟨fun h => (by cases h), fun h => (by cases h), fun h => (by cases h), ?_⟩
    exact slice_write_same _ _ _
  | udpLow =>
    refine ⟨fun h => (by cases h), fun h => (by cases h), fun h => (by cases h), ?_⟩
    exact slice_write_same _ _ _
  | l2 =>
    refine ⟨fun _ => ?_, fun _ => ?_, fun h => (by cases h), slice_write_same _ _ _⟩
    · simp only [initializeFrame, l2InitializeFrame]
      rw [read16_write_behind _ _ _ _ (by decide), read16_write_behind _ _ _ _ (by decide),
        read16_write_behind _ _ _ _ (by decide), writeVlanEthernetHeader_tag]
    · simp only [initializeFrame, l2InitializeFrame]
      rw [read16_write_behind _ _ _ _ (by decide), read16_write_behind _ _ _ _ (by decide),
        read16_write_behind _ _ _ _ (by decide), writeVlanEthernetHeader_proto]
      rfl

/-- Initialisation sets both lengths from the configured one. -/
theorem initializeFrame_lengths (cfg : AppConfig) (source : Vector UInt8 6) (ty : FrameType)
    (m : Mbuf) :
    (initializeFrame cfg source ty m).dataLen = (cfg.cls ty).frameLength.toUInt16 ∧
      (initializeFrame cfg source ty m).pktLen = (cfg.cls ty).frameLength.toUInt32 := by
  cases ty <;> exact ⟨rfl, rfl⟩

/-! ## Stamping and receiving -/

/-- The classes' metadata lies behind all checked header fields and before the payload. -/
theorem metaDataOffset_ge (ty : FrameType) (mode : SecurityMode) :
    (isVlan ty = true → 18 ≤ getMetaDataOffset ty mode) ∧
      (isProfinet ty = true → 20 ≤ getMetaDataOffset ty mode) := by
  cases ty <;> cases mode <;> decide

theorem read16_stampMetaData (data : Mem UInt8) (off a : Nat) (s n t : UInt64) (h : a + 2 ≤ off) :
    read16 (stampMetaData data off s n t) a = read16 data a := by
  unfold stampMetaData txTimestampToMetaData sequenceCounterToMetaData
  rw [read16_write_behind _ _ _ _ (by omega), read16_write_behind _ _ _ _ (by omega),
    read16_write_behind _ _ _ _ h]

theorem Built.stamp {cfg : AppConfig} {ty : FrameType} {data : Mem UInt8} (h : Built cfg ty data)
    (s n t : UInt64) :
    Built cfg ty (stampMetaData data (getMetaDataOffset ty (cfg.mode ty)) s n t) := by
  have hge := metaDataOffset_ge ty (cfg.mode ty)
  refine ⟨fun hv => ?_, fun hv => ?_, fun hp => ?_, ?_⟩
  · have := hge.1 hv
    rw [read16_stampMetaData _ _ _ _ _ _ (by omega), h.tagged hv]
  · have := hge.1 hv
    rw [read16_stampMetaData _ _ _ _ _ _ (by omega), h.proto hv]
  · have := hge.2 hp
    rw [read16_stampMetaData _ _ _ _ _ _ (by omega), h.frameId hp]
  · rw [← h.payload]
    simp only [slice_length]
    apply slice_congr
    intro i _
    unfold stampMetaData txTimestampToMetaData sequenceCounterToMetaData payloadOff
    simp only [sizeofReferenceMetaData]
    rw [write_above _ _ _ _ (by rw [be64_length]; omega),
      write_above _ _ _ _ (by rw [be32_length]; omega),
      write_above _ _ _ _ (by rw [be32_length]; omega)]

/-- The first `n` bytes of a received mbuf. -/
def Carries (m : Mbuf) (data : Mem UInt8) (n : Nat) : Prop := ∀ i, i < n → m.data i = data i

theorem Carries.read16 {m : Mbuf} {data : Mem UInt8} {n : Nat} (h : Carries m data n) (a : Nat)
    (ha : a + 2 ≤ n) : read16 m.data a = read16 data a :=
  read16_congr fun i hi => h (a + i) (by omega)

/-- An mbuf that holds the bytes in one segment. -/
structure Arrives (bytes : List UInt8) (m : Mbuf) : Prop where
  wire : m.wire = bytes
  length : m.pktLen = m.dataLen.toUInt32

/-- What an mbuf with the bytes of a frame holds. -/
theorem arrives_carries {data : Mem UInt8} {n : Nat} {m : Mbuf} (h : Arrives (slice data 0 n) m) :
    Carries m data n ∧ m.len.toNat = n := by
  have hwire := h.wire
  unfold Mbuf.wire at hwire
  have hlen : m.dataLen.toNat = n := by simpa using congrArg List.length hwire
  refine ⟨fun i hi => ?_, ?_⟩
  · rw [hlen] at hwire
    simpa using cell_of_slice_eq hwire i hi
  · rw [Mbuf.len_toNat, h.length, UInt16.toNat_toUInt32, hlen]

/-- The layout a class's handler finds in its own tagged frames; UDP and LLDP have no tag. -/
def ownLayout (ty : FrameType) : Layout :=
  if isVlan ty then ⟨sizeofVlanEthernetHeader, false⟩ else ⟨sizeofEthhdr, false⟩

/-- The EtherType configured for L2 has 16 bits. -/
def EtherTypeFits (cfg : AppConfig) (ty : FrameType) : Prop :=
  ty = .l2 → cfg.l2EtherType.toNat < 2 ^ 16

/-- The classes with security modes are PROFINET classes with tagged frames. -/
theorem secure_class {ty : FrameType} (h : hasSecurity ty = true) :
    isVlan ty = true ∧ isProfinet ty = true ∧ ownLayout ty = ⟨18, false⟩ ∧
      (∀ cfg, innerProto cfg ty = ethPProfinetRt) ∧ ∀ cfg, EtherTypeFits cfg ty := by
  cases ty with
  | tsnHigh | tsnLow | rtc | rta =>
    exact ⟨rfl, rfl, rfl, fun _ => rfl, fun _ hl2 => (by cases hl2)⟩
  | dcp | lldp | udpHigh | udpLow | l2 => cases h

/-- **Own frames pass.**  A receiver accepts the type and length of every frame
with the tag and EtherType of its class, and expects the full length afterwards. -/
theorem check_own (env : Env C D) (ty : FrameType) {m : Mbuf}
    (htag : isVlan ty = true → read16 m.data 12 = ethP8021Q)
    (hproto : isVlan ty = true → read16 m.data 16 = innerProto env.app ty)
    (hlen : m.len = (env.app.cls ty).frameLength) (hroom : 18 ≤ (env.app.cls ty).frameLength.toNat)
    (het : EtherTypeFits env.app ty) :
    (rxHandler env ty).check (env.app.cls ty).frameLength m =
      ((env.app.cls ty).frameLength, .ok (ownLayout ty)) := by
  cases hv : isVlan ty with
  | false =>
    obtain ⟨wrong, hc⟩ := check_untagged env ty hv
    rw [hc, if_pos hlen, ownLayout, hv]
    rfl
  | true =>
    obtain ⟨refuse, wrong, -, hc⟩ := check_vlan env ty hv
    have htagged : m.tagged = true := by simp only [Mbuf.tagged, htag hv, decide_true]
    have hinner : m.proto = innerProto env.app ty := by
      simp only [Mbuf.proto, htagged, if_true, hproto hv]
    have hlong : longEnough ty m = true := by
      have h18 : ¬ m.len < 18 := by
        rw [hlen, UInt64.lt_iff_toNat_lt]
        exact Nat.not_lt.mpr hroom
      simp [longEnough, h18]
    have hlow : lowers ty m = 0 := by simp [lowers, htagged]
    have htype : typeOk env ty m = true := by
      simp only [typeOk, hlong, Bool.true_and, hinner]
      cases ty with
      | l2 =>
        have hfit := het rfl
        simp only [innerProto, if_true, decide_eq_true_eq]
        rw [← UInt32.toNat_inj]
        simp only [UInt16.toNat_toUInt32, UInt32.toNat_toUInt16]
        exact Nat.mod_eq_of_lt hfit
      | _ => simp [innerProto]
    rw [hc, hlow, UInt64.sub_zero, checked, htype, if_pos rfl, if_pos hlen]
    simp [layoutOf, htagged, ethHeaderSize, ownLayout, hv]

end Rtdk.Builder
