import Rtdk.Lport
import Rtdk.Config

/-! Building and editing frames (`utils.c` and the `*_initialize_frame`
functions of the traffic classes).

A frame is built in three steps: the class's initialisation writes headers and
payload into the packet buffer, `prepareFrameForTx` adds counter and time stamp
and seals the frame, and a mirror edits a received frame in place
(`swapMacAddresses`, `insertVlanTag`). Lengths are naturals here, except where
the source can wrap (`payloadSize`, `aadSize`): the others wrap only for frames
shorter than their own headers, which a checked configuration excludes. -/

namespace Rtdk.Frame
open Rtdk.Memory Rtdk.Endian Rtdk.NetDef Rtdk.Security Rtdk.Stat Rtdk.Lport Rtdk.Config

/-! ## In-place edits -/

def swapMacAddresses (data : Mem UInt8) (len : Nat) : Mem UInt8 :=
  if len < sizeofEthhdr then data else
  let tmp := slice data ethAlen ethAlen
  let data := write data ethAlen (slice data 0 ethAlen)
  write data 0 tmp

/-- Only the two addresses change. -/
theorem swapMacAddresses_above (data : Mem UInt8) (len i : Nat) (h : 12 ≤ i) :
    swapMacAddresses data len i = data i := by
  unfold swapMacAddresses
  split
  · rfl
  · simp only
    rw [write_above _ _ _ _ (by rw [slice_length]; simp only [ethAlen]; omega),
      write_above _ _ _ _ (by rw [slice_length]; simp only [ethAlen]; omega)]

/-- `memmove` the rest of the frame up by four bytes and write the tag. The
inner EtherType is always the PROFINET one, and the length kept in the mbuf
does not change. -/
def insertVlanTag (data : Mem UInt8) (len : Nat) (vlanTci : UInt16) : Mem UInt8 :=
  if len + sizeofVlanHeader > maxFrameSize then data else
  let data := write data 16 (slice data 12 (len - 12))
  let data := write data 16 (be16 ethPProfinetRt)
  let data := write data 12 (be16 ethP8021Q)
  write data 14 (be16 vlanTci)

/-! ## Initialisation -/

def memset0 (data : Mem UInt8) (n : Nat) : Mem UInt8 := write data 0 (List.replicate n 0)

/-- Store a `struct vlan_ethernet_header`. -/
def writeVlanEthernetHeader (data : Mem UInt8) (destination source : Vector UInt8 6)
    (vlanTci proto : UInt16) : Mem UInt8 :=
  let data := write data 0 destination.toList
  let data := write data 6 source.toList
  let data := write data 12 (be16 ethP8021Q)
  let data := write data 14 (be16 vlanTci)
  write data 16 (be16 proto)

def initializeRtProfinetFrame (data : Mem UInt8) (frameLength : Nat)
    (source destination : Vector UInt8 6) (payloadPattern : List UInt8)
    (vlanTci frameId : UInt16) : Mem UInt8 :=
  let data := memset0 data frameLength
  let data := writeVlanEthernetHeader data destination source vlanTci ethPProfinetRt
  let data := write data 18 (be16 frameId)
  let data := write data 20 (be32 0)
  let data := write data 24 (be32 0)
  write data 36 payloadPattern

def initializeSecureProfinetFrame (mode : SecurityMode) (data : Mem UInt8) (frameLength : Nat)
    (source destination : Vector UInt8 6) (payloadPattern : List UInt8)
    (vlanTci frameId : UInt16) : Mem UInt8 :=
  let securityLength := UInt16.ofNat (frameLength - sizeofVlanEthernetHeader - sizeofSecurityChecksum)
  let data := memset0 data frameLength
  let data := writeVlanEthernetHeader data destination source vlanTci ethPProfinetRt
  let data := write data 18 (be16 frameId)
  let data := write data 20 [if mode = .ao then 0x00 else 0x01]
  let data := write data 26 (be16 securityLength)
  let data := write data 28 (be32 0)
  let data := write data 32 (be32 0)
  write data 44 payloadPattern

def initializeProfinetFrame (mode : SecurityMode) (data : Mem UInt8) (frameLength : Nat)
    (source destination : Vector UInt8 6) (payloadPattern : List UInt8)
    (vlanTci frameId : UInt16) : Mem UInt8 :=
  match mode with
  | .none =>
    initializeRtProfinetFrame data frameLength source destination payloadPattern vlanTci frameId
  | .ae | .ao =>
    initializeSecureProfinetFrame mode data frameLength source destination payloadPattern vlanTci
      frameId

/-- Both lengths of the mbuf are set from the configured frame length; the
first is 16 bits wide, the second 32. -/
def setLengths (m : Mbuf) (frameLength : UInt64) : Mbuf :=
  { m with dataLen := frameLength.toUInt16, pktLen := frameLength.toUInt32 }

/-- `tsn_initialize_frame`, `rtc_initialize_frame`, `rta_initialize_frame` and
`dcp_initialize_frame`: one body, with the class's own values. -/
def profinetInitializeFrame (c : ClassConfig) (mode : SecurityMode) (fid : UInt16)
    (source : Vector UInt8 6) (m : Mbuf) : Mbuf :=
  let m := setLengths m c.frameLength
  let data := memset0 m.data c.frameLength.toNat
  let data := initializeProfinetFrame mode data m.dataLen.toNat source c.destination
    c.payloadPattern c.vlanTci fid
  { m with data := data }

def l2InitializeFrame (c : ClassConfig) (l2EtherType : UInt32) (source : Vector UInt8 6)
    (m : Mbuf) : Mbuf :=
  let m := setLengths m c.frameLength
  let data := memset0 m.data c.frameLength.toNat
  let data :=
    writeVlanEthernetHeader data c.destination source c.vlanTci l2EtherType.toUInt16
  let data := write data 18 (be32 0)
  let data := write data 22 (be32 0)
  { m with data := write data 34 c.payloadPattern }

def lldpInitializeFrame (c : ClassConfig) (source : Vector UInt8 6) (m : Mbuf) : Mbuf :=
  let m := setLengths m c.frameLength
  let data := memset0 m.data c.frameLength.toNat
  let data := write data 0 c.destination.toList
  let data := write data 6 source.toList
  let data := write data 12 (be16 ethPLldp)
  let data := write data 14 (List.replicate sizeofReferenceMetaData 0)
  { m with data := write data 30 c.payloadPattern }

/-! ### UDP frames -/

/-- Scan state of `inet_pton`: finished octets, the current one, and whether it
has a digit yet. -/
structure PtonState where
  octets : List UInt8
  current : Nat
  sawDigit : Bool

def ptonStep (s : PtonState) (ch : UInt8) : Option PtonState :=
  if 48 ≤ ch ∧ ch ≤ 57 then
    let v := s.current * 10 + (ch.toNat - 48)
    if s.sawDigit && s.current == 0 then none
    else if v > 255 then none
    else some { s with current := v, sawDigit := true }
  else if ch = 46 ∧ s.sawDigit then
    if s.octets.length = 3 then none
    else some ⟨s.octets ++ [UInt8.ofNat s.current], 0, false⟩
  else none

/-- `inet_pton(AF_INET, ...)`: four decimal octets without leading zeros. -/
def inetPton (s : List UInt8) : Option (List UInt8) :=
  match s.foldlM ptonStep ⟨[], 0, false⟩ with
  | some st =>
    if st.sawDigit && st.octets.length == 3 then some (st.octets ++ [UInt8.ofNat st.current])
    else none
  | none => none

/-- A failed `inet_pton` leaves the destination as it was. -/
def writeAddress (data : Mem UInt8) (off : Nat) (s : List UInt8) : Mem UInt8 :=
  match inetPton s with
  | some bs => write data off bs
  | none => data

/-- `rte_raw_cksum`: the sum of the 16-bit words, an odd last byte padded. -/
def rawCksum : List UInt8 → Nat
  | [] => 0
  | [b] => b.toNat * 256
  | a :: b :: rest => a.toNat * 256 + b.toNat + rawCksum rest

def foldCksum (sum : Nat) : Nat :=
  let sum := sum / 65536 + sum % 65536
  sum / 65536 + sum % 65536

/-- `rte_ipv4_cksum` of the header at offset 14. -/
def ipv4Cksum (data : Mem UInt8) : UInt16 :=
  UInt16.ofNat (65535 - foldCksum (rawCksum (slice data 14 sizeofIpv4Hdr)) % 65536)

/-- `rte_ipv4_udptcp_cksum`: pseudo header and datagram; zero is sent as all ones. -/
def udpCksum (data : Mem UInt8) : UInt16 :=
  let l4Len := (read16 data 16).toNat - sizeofIpv4Hdr
  let pseudo := slice data 26 8 ++ [0, data 23] ++ be16 (UInt16.ofNat l4Len)
  let sum := foldCksum (rawCksum pseudo + rawCksum (slice data 34 l4Len))
  let cksum := UInt16.ofNat (65535 - sum % 65536)
  if cksum = 0 then 0xffff else cksum

/-- The checksum of the datagram is taken before the payload is in place. -/
def udpInitializeFrame (c : ClassConfig) (source : Vector UInt8 6) (m : Mbuf) : Mbuf :=
  let m := setLengths m c.frameLength
  let data := memset0 m.data c.frameLength.toNat
  let data := write data 6 source.toList
  let data := write data 0 c.destination.toList
  let data := write data 12 (be16 ethPIp)
  let data := write data 14 [0x45]
  let data := write data 22 [64]
  let data := write data 16 (be16 (c.frameLength - 14).toUInt16)
  let data := writeAddress data 26 c.udpSource
  let data := writeAddress data 30 c.udpDestination
  let data := write data 23 [17]
  let data := write data 18 (be16 0)
  let data := write data 24 (be16 0)
  let data := write data 24 (be16 (ipv4Cksum data))
  let data := write data 34 (be16 c.udpSrcPort)
  let data := write data 36 (be16 c.udpPort)
  let data := write data 38 (be16 (c.frameLength - 34).toUInt16)
  let data := write data 40 (be16 0)
  let data := write data 40 (be16 (udpCksum data))
  let data := if read16 data 40 = 0 then write data 40 (be16 0xffff) else data
  let data := write data 42 (List.replicate sizeofReferenceMetaData 0)
  { m with data := write data 58 c.payloadPattern }

/-- The initialisation function of each class. -/
def initializeFrame (cfg : AppConfig) (source : Vector UInt8 6) (ty : FrameType) (m : Mbuf) :
    Mbuf :=
  let c := cfg.cls ty
  match ty with
  | .tsnHigh | .tsnLow | .rtc | .rta | .dcp =>
    profinetInitializeFrame c (cfg.mode ty) (frameId ty (cfg.mode ty)) source m
  | .l2 => l2InitializeFrame c cfg.l2EtherType source m
  | .lldp => lldpInitializeFrame c source m
  | .udpHigh | .udpLow => udpInitializeFrame c source m

/-- `get_meta_data_offset`. -/
def getMetaDataOffset (ty : FrameType) (mode : SecurityMode) : Nat :=
  match ty with
  | .tsnHigh | .tsnLow | .rtc | .rta | .dcp => if mode = .none then 20 else 28
  | .lldp => 14
  | .udpHigh | .udpLow => 42
  | .l2 => 18

/-- Every class but UDP is checked for room for its headers, metadata, checksum and pattern. -/
theorem frameLength_room {withMqtt : Bool} {cfg : AppConfig}
    (h : configSanityCheck withMqtt cfg = .ok ()) (ty : FrameType) (hh : ty ≠ .udpHigh)
    (hlow : ty ≠ .udpLow) :
    getMetaDataOffset ty (cfg.mode ty) + 16 + (cfg.cls ty).payloadPattern.length +
      (if cfg.mode ty = .none then 0 else 16) ≤ (cfg.cls ty).frameLength.toNat := by
  have hb := (frameLength_bounds h ty).1
  have hmin : minFrameSize ty (cfg.cls ty).securityMode =
      getMetaDataOffset ty (cfg.mode ty) + 16 + (if cfg.mode ty = .none then 0 else 16) := by
    cases ty with
    | tsnHigh | tsnLow | rtc | rta =>
      simp only [AppConfig.mode, hasSecurity, if_true]
      cases (cfg.cls _).securityMode <;> rfl
    | dcp | lldp | l2 => rfl
    | udpHigh => exact absurd rfl hh
    | udpLow => exact absurd rfl hlow
  omega

/-! ## Sealing -/

/-- Bytes between the secure header and the checksum of a tagged frame, in
`size_t` arithmetic: it wraps for frames of fewer than 60 bytes. -/
def payloadSize (len : UInt64) : UInt64 :=
  len - UInt64.ofNat sizeofVlanEthernetHeader - UInt64.ofNat sizeofProfinetSecureHeader -
    UInt64.ofNat sizeofSecurityChecksum

/-- Bytes between the Ethernet header and the checksum, in the same arithmetic. -/
def aadSize (len : UInt64) (off : Nat) : UInt64 :=
  len - UInt64.ofNat off - UInt64.ofNat sizeofSecurityChecksum

theorem toNat_sub_ofNat {len : UInt64} {k : Nat} (h : k ≤ len.toNat) :
    (len - UInt64.ofNat k).toNat = len.toNat - k := by
  have hk : (UInt64.ofNat k).toNat = k := UInt64.toNat_ofNat_of_lt' (Nat.lt_of_le_of_lt h len.toNat_lt)
  rw [UInt64.toNat_sub_of_le _ _ (by rw [UInt64.le_iff_toNat_le, hk]; exact h), hk]

theorem payloadSize_toNat {len : UInt64} (h : 60 ≤ len.toNat) :
    (payloadSize len).toNat = len.toNat - 60 := by
  simp only [payloadSize, sizeofVlanEthernetHeader, sizeofProfinetSecureHeader,
    sizeofSecurityChecksum]
  have h18 : (len - UInt64.ofNat 18).toNat = len.toNat - 18 := toNat_sub_ofNat (by omega)
  have h26 : (len - UInt64.ofNat 18 - UInt64.ofNat 26).toNat = (len - UInt64.ofNat 18).toNat - 26 :=
    toNat_sub_ofNat (by omega)
  have h16 : (len - UInt64.ofNat 18 - UInt64.ofNat 26 - UInt64.ofNat 16).toNat =
      (len - UInt64.ofNat 18 - UInt64.ofNat 26).toNat - 16 := toNat_sub_ofNat (by omega)
  omega

theorem aadSize_toNat {len : UInt64} {off : Nat} (h : off + 16 ≤ len.toNat) :
    (aadSize len off).toNat = len.toNat - off - 16 := by
  have hoff : (len - UInt64.ofNat off).toNat = len.toNat - off := toNat_sub_ofNat (by omega)
  rw [aadSize, sizeofSecurityChecksum, toNat_sub_ofNat (by omega), hoff]

/-- Result of sealing a frame in place. `call` records what was sealed. -/
structure Sealed (C : Type) where
  ctx : C
  ret : Int
  data : Mem UInt8
  call : SealCall

variable {C : Type}

/-- `security_encrypt` on a frame: associated data `[aadOff, aadOff + aadLen)`,
ciphertext to `ctOff`, checksum to `tagOff`. -/
def sealFrame (evp : Evp C) (c : C) (data : Mem UInt8) (plaintext : Option (List UInt8))
    (iv : List UInt8) (aadOff aadLen ctOff tagOff : Nat) : Sealed C :=
  let aad := slice data aadOff aadLen
  let r := securityEncrypt evp c plaintext aad iv
  { ctx := r.ctx
    ret := r.ret
    data := write (write data ctOff r.ciphertext) tagOff r.tag
    call := ⟨iv.take securityIvLen, aad, plaintext⟩ }

/-- Whether `security_encrypt` gets as far as reading its plaintext. -/
def readsPlaintext (evp : Evp C) (c : C) (aad iv : List UInt8) : Bool :=
  let (ok, c) := evp.encryptInit c (iv.take securityIvLen)
  ok && (evp.encryptAad c aad).1

/-- Sealing with the thread's payload buffer as plaintext. `none` is a pointer
into memory that was never allocated: reading any byte of it ends the process. -/
def sealPayload (evp : Evp C) (c : C) (data : Mem UInt8) (payload : Option (Mem UInt8))
    (payloadLength : UInt64) (iv : List UInt8) (aadOff aadLen ctOff tagOff : Nat) :
    Except Halt (Sealed C) :=
  match payload with
  | some buf =>
    .ok (sealFrame evp c data (some (slice buf 0 payloadLength.toNat)) iv aadOff aadLen ctOff tagOff)
  | none =>
    if payloadLength ≠ 0 ∧ readsPlaintext evp c (slice data aadOff aadLen) iv = true then
      .error .sigsegv
    else .ok (sealFrame evp c data (some []) iv aadOff aadLen ctOff tagOff)

/-- `struct prepare_frame_config`. -/
structure PrepareFrameConfig (C : Type) where
  mode : SecurityMode
  securityContext : C
  ivPrefix : List UInt8
  payloadPattern : Option (Mem UInt8)
  payloadPatternLength : UInt64
  frameData : Mem UInt8
  frameLength : Nat
  numFramesPerCycle : UInt64
  sequenceCounter : UInt64
  txTimestamp : UInt64
  metaDataOffset : Nat

/-- Result of `prepare_frame_for_tx`: return value, frame, context, and the
sealing that was done. -/
structure Prepared (C : Type) where
  ret : Int
  data : Mem UInt8
  ctx : C
  call : Option SealCall

/-- Counter and time stamp, in the order the source stores them. -/
def stampMetaData (data : Mem UInt8) (off : Nat) (sequenceCounter numFramesPerCycle : UInt64)
    (timestamp : UInt64) : Mem UInt8 :=
  txTimestampToMetaData (sequenceCounterToMetaData data off sequenceCounter numFramesPerCycle) off
    timestamp

def Prepared.ofSealed (s : Sealed C) : Prepared C := ⟨s.ret, s.data, s.ctx, some s.call⟩

def prepareFrameForTx (evp : Evp C) (f : PrepareFrameConfig C) : Except Halt (Prepared C) :=
  match f.mode with
  | .none =>
    let data := stampMetaData f.frameData f.metaDataOffset f.sequenceCounter f.numFramesPerCycle
      f.txTimestamp
    .ok ⟨0, data, f.securityContext, none⟩
  | .ao =>
    let data := stampMetaData f.frameData 28 f.sequenceCounter f.numFramesPerCycle f.txTimestamp
    let iv := prepareIv f.ivPrefix f.sequenceCounter
    .ok (.ofSealed (sealFrame evp f.securityContext data none iv sizeofVlanEthernetHeader
      (f.frameLength - sizeofVlanEthernetHeader - sizeofSecurityChecksum) 0
      (f.frameLength - sizeofSecurityChecksum)))
  | .ae =>
    let data := stampMetaData f.frameData 28 f.sequenceCounter f.numFramesPerCycle f.txTimestamp
    let iv := prepareIv f.ivPrefix f.sequenceCounter
    (sealPayload evp f.securityContext data f.payloadPattern f.payloadPatternLength iv
      sizeofVlanEthernetHeader sizeofProfinetSecureHeader
      (sizeofVlanEthernetHeader + sizeofProfinetSecureHeader)
      (f.frameLength - sizeofSecurityChecksum)).map .ofSealed

end Rtdk.Frame
