import Rtdk.Receive

/-! The seven receive handlers: `tsn_rx_frame`, `rtc_rx_frame`, `rta_rx_frame`,
`dcp_rx_frame`, `l2_rx_frame`, `udp_rx_frame` and `lldp_rx_frame`, each as the
receive loop with the class's own checks, decoding, texts and edits.

TSN, RTC and RTA share one body with three security modes. DCP has no check for
short frames, does not refresh the time stamp, does not resynchronise after a
gap, and never re-adds a tag. L2 has its own EtherType. UDP and LLDP frames have
no tag; LLDP refreshes the time stamp only when it mirrors. -/

namespace Rtdk.Handlers
open Rtdk.Memory Rtdk.Endian Rtdk.NetDef Rtdk.Security Rtdk.Stat Rtdk.Lport Rtdk.Config Rtdk.Frame
open Rtdk.Thread Rtdk.Receive

variable {C D : Type}

def warning (format : String) (args : List LogArg) : LogEntry := ⟨.warning, format, args⟩

/-! ## Checks -/

/-- Offset of the first byte after the Ethernet header. -/
def ethHeaderSize (tagged : Bool) : Nat :=
  if tagged then sizeofVlanEthernetHeader else sizeofEthhdr

/-- The checks of the VLAN classes. An untagged frame lowers the expected
length, and the lowered value stays for the rest of the burst. -/
def vlanCheck (wrongType : UInt16 → Option LogEntry) (wrongLength : UInt64 → UInt64 → LogEntry)
    (expected : UInt64) (m : Mbuf) : UInt64 × Except LogEntry Layout :=
  let expected := if m.tagged then expected else expected - 4
  match wrongType m.proto with
  | some entry => (expected, .error entry)
  | none =>
    if m.len ≠ expected then (expected, .error (wrongLength m.len expected))
    else (expected, .ok ⟨ethHeaderSize m.tagged, !m.tagged⟩)

/-- All VLAN classes but DCP first drop frames shorter than the tagged header. -/
def refuseShort (tooSmall : LogEntry) (check : UInt64 → Mbuf → UInt64 × Except LogEntry Layout)
    (expected : UInt64) (m : Mbuf) : UInt64 × Except LogEntry Layout :=
  if m.len < 18 then (expected, .error tooSmall) else check expected m

def notProfinet (entry : LogEntry) (proto : UInt16) : Option LogEntry :=
  if proto ≠ ethPProfinetRt then some entry else none

def wrongEtherType (l2EtherType : UInt32) (proto : UInt16) : Option LogEntry :=
  if proto.toUInt32 ≠ l2EtherType then
    some (warning "L2Rx: Frame with wrong Ether Type received %04x!\n" [.num proto.toUInt64])
  else none

/-- The length check of UDP and LLDP. -/
def lengthCheck (wrongLength : LogEntry) (expected : UInt64) (m : Mbuf) :
    UInt64 × Except LogEntry Layout :=
  if m.len ≠ expected then (expected, .error wrongLength) else (expected, .ok ⟨sizeofEthhdr, false⟩)

/-! ## Decoding -/

/-- Decoding without security: metadata at `metaOff`, payload behind it. The
new time stamp, if any, is written before the payload is compared. -/
def plainDecode (n : UInt64) (pattern : List UInt8) (stamp : Option UInt64) (fid : UInt16)
    (metaOff : Nat) (w : World C D) (plaintext : Mem UInt8) (m : Mbuf) : Received C D :=
  let data :=
    match stamp with
    | some t => txTimestampToMetaData m.data metaOff t
    | none => m.data
  { world := w
    mbuf := { m with data := data }
    plaintext := plaintext
    frameId := fid
    sequenceCounter := metaDataToSequenceCounter m.data metaOff n
    txTimestamp := metaDataToTxTimestamp m.data metaOff
    authRet := 0
    payload := slice data (metaOff + sizeofReferenceMetaData) pattern.length }

/-- `if (ret) log_message(...)`. -/
def complain (ret : Int) (entry : LogEntry) : List LogEntry := if ret = 0 then [] else [entry]

/-- The counter a secured frame carries; `off` is the end of its Ethernet header. -/
def rxCounter (c : ClassConfig) (m : Mbuf) (off : Nat) : UInt64 :=
  metaDataToSequenceCounter m.data (off + 10) c.numFramesPerCycle

/-- The IV a receiver rebuilds for the frame. -/
def rxIv (c : ClassConfig) (m : Mbuf) (off : Nat) : List UInt8 :=
  prepareIv c.securityIvPrefix (rxCounter c m off)

def checksumOff (m : Mbuf) : Nat := m.len.toNat - sizeofSecurityChecksum

/-- Authentication only: everything from the frame id to the checksum. -/
def aoOpen (evp : Evp C) (c : ClassConfig) (ctx : C) (m : Mbuf) (off : Nat) : DecryptResult C :=
  securityDecrypt evp ctx none (slice m.data off (aadSize m.len off).toNat)
    (slice m.data (checksumOff m) sizeofSecurityChecksum) (rxIv c m off)

/-- Authentication and encryption. The size of the ciphertext is computed with
the tagged header whether or not the tag is there, as a `size_t`. -/
def aeOpen (evp : Evp C) (c : ClassConfig) (ctx : C) (m : Mbuf) (off : Nat) : DecryptResult C :=
  let ciphertext := slice m.data (off + sizeofProfinetSecureHeader)
    (payloadSize m.len).toNat
  securityDecrypt evp ctx (some ciphertext) (slice m.data off sizeofProfinetSecureHeader)
    (slice m.data (checksumOff m) sizeofSecurityChecksum) (rxIv c m off)

/-- Verify, refresh the time stamp, seal again. -/
def aoDecode (env : Env C D) (c : ClassConfig) (notAuthenticated : UInt64 → LogEntry)
    (w : World C D) (plaintext : Mem UInt8) (m : Mbuf) (off : Nat) (stamp : UInt64) :
    Received C D :=
  let opened := aoOpen env.evp c w.thread.rxSecurityContext m off
  let data := txTimestampToMetaData m.data (off + 10) stamp
  let again := sealFrame env.evp opened.ctx data none (rxIv c m off) off
    (aadSize m.len off).toNat 0 (checksumOff m)
  { world := w.sealed again.ctx (complain opened.ret (notAuthenticated (rxCounter c m off))) again.call
    mbuf := { m with data := again.data }
    plaintext := plaintext
    frameId := read16 m.data off
    sequenceCounter := rxCounter c m off
    txTimestamp := metaDataToTxTimestamp m.data (off + 10)
    authRet := opened.ret
    payload := slice again.data (off + sizeofProfinetSecureHeader) c.payloadPattern.length }

/-- Decrypt into the stack buffer, refresh the time stamp, and encrypt the
thread's own payload buffer over the frame's payload. -/
def aeDecode (env : Env C D) (c : ClassConfig) (notAuthenticated : UInt64 → LogEntry)
    (w : World C D) (plaintext : Mem UInt8) (m : Mbuf) (off : Nat) (stamp : UInt64) :
    Except Stop (Received C D) :=
  let opened := aeOpen env.evp c w.thread.rxSecurityContext m off
  let entries := complain opened.ret (notAuthenticated (rxCounter c m off))
  let plaintext := write plaintext 0 opened.plaintext
  let data := txTimestampToMetaData m.data (off + 10) stamp
  match sealPayload env.evp opened.ctx data w.thread.payloadPattern w.thread.payloadPatternLength
      (rxIv c m off) off sizeofProfinetSecureHeader (off + sizeofProfinetSecureHeader)
      (checksumOff m) with
  | .error reason => .error ⟨reason, w.log ++ entries⟩
  | .ok again =>
    .ok
      { world := w.sealed again.ctx entries again.call
        mbuf := { m with data := again.data }
        plaintext := plaintext
        frameId := read16 m.data off
        sequenceCounter := rxCounter c m off
        txTimestamp := metaDataToTxTimestamp m.data (off + 10)
        authRet := opened.ret
        payload := slice plaintext 0 c.payloadPattern.length }

/-- TSN, RTC and RTA: one clock reading, then the branch of the security mode. -/
def profinetDecode (env : Env C D) (c : ClassConfig)
    (notAuthenticated notDecrypted : UInt64 → LogEntry) (w : World C D) (plaintext : Mem UInt8)
    (m : Mbuf) (lay : Layout) : Except Stop (Received C D) :=
  let stamp := env.mirrorStamp (w.now env)
  let w := w.tick
  match c.securityMode with
  | .none =>
    .ok (plainDecode c.numFramesPerCycle c.payloadPattern (some stamp) (read16 m.data lay.off)
      (lay.off + 2) w plaintext m)
  | .ao => .ok (aoDecode env c notAuthenticated w plaintext m lay.off stamp)
  | .ae => aeDecode env c notDecrypted w plaintext m lay.off stamp

/-! ## Edits before mirroring -/

/-- Re-add a missing tag, then swap the MAC addresses. -/
def vlanForward (c : ClassConfig) (w : World C D) (m : Mbuf) (lay : Layout) :
    World C D × Mbuf :=
  let data := if lay.vlanTagMissing then insertVlanTag m.data m.len.toNat c.vlanTci else m.data
  (w, { m with data := swapMacAddresses data m.len.toNat })

def swapForward (w : World C D) (m : Mbuf) (_ : Layout) : World C D × Mbuf :=
  (w, { m with data := swapMacAddresses m.data m.len.toNat })

/-- `lldp_build_frame_from_rx`: own source address and a fresh time stamp. -/
def lldpBuildFrameFromRx (env : Env C D) (w : World C D) (m : Mbuf) (_ : Layout) :
    World C D × Mbuf :=
  let m := setLengths m (env.app.cls .lldp).frameLength
  let data := write m.data 6 env.mac.toList
  (w.tick, { m with data := txTimestampToMetaData data 14 (env.mirrorStamp (w.now env)) })

/-! ## The handlers -/

def tsnRxFrame (env : Env C D) (ty : FrameType) : RxHandler C D :=
  let c := env.app.cls ty
  let name : LogArg := .str ty.name
  let fid := frameId ty c.securityMode
  { ty := ty
    check := refuseShort (warning "%sRx: Too small frame received!\n" [name]) <| vlanCheck
      (notProfinet (warning "%sRx: Not a Profinet frame received!\n" [name]))
      (fun _ _ => warning "%sRx: Frame with wrong length received!\n" [name])
    decode := profinetDecode env c
      (fun s => warning "%sRx: frame[%lu] Not authenticated\n" [name, .num s])
      (fun s => warning "%sRx: frame[%lu] Not authenticated and decrypted\n" [name, .num s])
    expectedPattern := c.payloadPattern
    expectedFrameId := some fid
    frameIdText := fun s got =>
      [warning "%sRx: Frame[%llu] FrameId expected mismatch: %u != %u!\n"
        [name, .num s, .num fid.toUInt64, .num got.toUInt64]]
    outOfOrderText := fun s rx =>
      warning "%sRx: Frame[%llu] SequenceCounter expected mismatch: %llu!\n" [name, .num s, .num rx]
    payloadText := fun s _ =>
      .ok (warning "%sRx: frame[%llu] Payload Pattern mismatch!\n" [name, .num s])
    resync := true
    forward := vlanForward c }

def rtcRxFrame (env : Env C D) : RxHandler C D :=
  let c := env.app.cls .rtc
  let fid := frameId .rtc c.securityMode
  { ty := .rtc
    check := refuseShort (warning "RtcRx: Too small frame received!\n" []) <| vlanCheck
      (notProfinet (warning "RtcRx: Not a Profinet frame received!\n" []))
      (fun _ _ => warning "RtcRx: Frame with wrong length received!\n" [])
    decode := profinetDecode env c
      (fun s => warning "RtcRx: frame[%lu] Not authenticated\n" [.num s])
      (fun s => warning "RtcRx: frame[%lu] Not authenticated and decrypted\n" [.num s])
    expectedPattern := c.payloadPattern
    expectedFrameId := some fid
    frameIdText := fun s _ =>
      [warning "RtcRx: frame[%lu] FrameId mismatch: 0x%4x!\n" [.num s, .num fid.toUInt64]]
    outOfOrderText := fun s rx =>
      warning "RtcRx: frame[%lu] SequenceCounter mismatch: %lu!\n" [.num s, .num rx]
    payloadText := fun s _ => .ok (warning "RtcRx: frame[%lu] Payload Pattern mismatch!\n" [.num s])
    resync := true
    forward := vlanForward c }

def rtaRxFrame (env : Env C D) : RxHandler C D :=
  let c := env.app.cls .rta
  let fid := frameId .rta c.securityMode
  { ty := .rta
    check := refuseShort (warning "RtaRx: Too small frame received!\n" []) <| vlanCheck
      (notProfinet (warning "RtaRx: Not a Profinet frame received!\n" []))
      (fun len expected =>
        warning "RtaRx: Frame with wrong length %ld != %ld received!\n" [.num len, .num expected])
    decode := profinetDecode env c
      (fun s => warning "RtaRx: frame[%lu] Not authenticated\n" [.num s])
      (fun s => warning "RtaRx: frame[%lu] Not authenticated and decrypted\n" [.num s])
    expectedPattern := c.payloadPattern
    expectedFrameId := some fid
    frameIdText := fun s _ =>
      [warning "RtaRx: frame[%lu] FrameId mismatch: 0x%4x!\n" [.num s, .num fid.toUInt64]]
    outOfOrderText := fun s rx =>
      warning "RtaRx: frame[%lu] SequenceCounter mismatch: %lu!\n" [.num s, .num rx]
    payloadText := fun s _ => .ok (warning "RtaRx: frame[%lu] Payload Pattern mismatch!\n" [.num s])
    resync := true
    forward := vlanForward c }

/-- The text about a wrong payload copies the payload into a zeroed 128-byte array
and prints it up to the first NUL, which a payload that fills the array must bring
itself. -/
def dcpPayloadText (s : UInt64) (payload : List UInt8) : Except Halt LogEntry :=
  if payload.length < 128 ∨ (payload.length = 128 ∧ 0 ∈ payload) then
    .ok (warning "DcpRx: frame[%lu] Payload Pattern mismatch %s!\n"
      [.num s, .bytes (payload.takeWhile (· ≠ 0))])
  else .error .overrun

def dcpRxFrame (env : Env C D) : RxHandler C D :=
  let c := env.app.cls .dcp
  { ty := .dcp
    check := vlanCheck (notProfinet (warning "DcpRx: Not a Profinet frame received!\n" []))
      (fun len expected =>
        warning "DcpRx: Frame with wrong length %ld != %ld received!\n" [.num len, .num expected])
    decode := fun w plaintext m lay =>
      .ok (plainDecode c.numFramesPerCycle c.payloadPattern none (read16 m.data lay.off)
        (lay.off + 2) w plaintext m)
    expectedPattern := c.payloadPattern
    expectedFrameId := none
    frameIdText := fun _ _ => []
    outOfOrderText := fun s rx =>
      warning "DcpRx: frame[%lu] SequenceCounter mismatch: %lu!\n" [.num s, .num rx]
    payloadText := dcpPayloadText
    resync := false
    forward := swapForward }

def l2RxFrame (env : Env C D) : RxHandler C D :=
  let c := env.app.cls .l2
  { ty := .l2
    check := refuseShort (warning "L2Rx: Too small frame received!\n" []) <| vlanCheck
      (wrongEtherType env.app.l2EtherType)
      (fun len expected =>
        warning "L2Rx: Frame with wrong length received %'ld != %'ld!\n" [.num len, .num expected])
    decode := fun w plaintext m lay =>
      .ok (plainDecode c.numFramesPerCycle c.payloadPattern (some (env.mirrorStamp (w.now env))) 0
        lay.off w.tick plaintext m)
    expectedPattern := c.payloadPattern
    expectedFrameId := none
    frameIdText := fun _ _ => []
    outOfOrderText := fun s rx =>
      warning "L2Rx: frame[%lu] SequenceCounter mismatch: %lu!\n" [.num s, .num rx]
    payloadText := fun s _ => .ok (warning "L2Rx: frame[%lu] Payload Pattern mismatch!\n" [.num s])
    resync := true
    forward := vlanForward c }

def udpRxFrame (env : Env C D) (ty : FrameType) : RxHandler C D :=
  let c := env.app.cls ty
  let name : LogArg := .str ty.name
  { ty := ty
    check := lengthCheck (warning "%sRx: Frame with wrong length received!\n" [name])
    decode := fun w plaintext m _ =>
      .ok (plainDecode c.numFramesPerCycle c.payloadPattern (some (env.mirrorStamp (w.now env))) 0
        42 w.tick plaintext m)
    expectedPattern := c.payloadPattern
    expectedFrameId := none
    frameIdText := fun _ _ => []
    outOfOrderText := fun s rx =>
      warning "%sRx: frame[%lu] SequenceCounter mismatch: %lu!\n" [name, .num s, .num rx]
    payloadText := fun s _ =>
      .ok (warning "%sRx: frame[%lu] Payload Pattern mismatch!\n" [name, .num s])
    resync := true
    forward := swapForward }

def lldpRxFrame (env : Env C D) : RxHandler C D :=
  let c := env.app.cls .lldp
  { ty := .lldp
    check := lengthCheck (warning "LldpRx: Frame with wrong length received!\n" [])
    decode := fun w plaintext m _ =>
      .ok (plainDecode c.numFramesPerCycle c.payloadPattern none 0 (env.metaDataOffset .lldp) w
        plaintext m)
    expectedPattern := c.payloadPattern
    expectedFrameId := none
    frameIdText := fun _ _ => []
    outOfOrderText := fun s rx =>
      warning "LldpRx: frame[%lu] SequenceCounter mismatch: %lu!\n" [.num s, .num rx]
    payloadText := fun s _ =>
      .ok (warning "LldpRx: frame[%lu] Payload Pattern mismatch!\n" [.num s])
    resync := true
    forward := lldpBuildFrameFromRx env }

/-- The handler of each class. -/
def rxHandler (env : Env C D) : FrameType → RxHandler C D
  | .tsnHigh => tsnRxFrame env .tsnHigh
  | .tsnLow => tsnRxFrame env .tsnLow
  | .rtc => rtcRxFrame env
  | .rta => rtaRxFrame env
  | .dcp => dcpRxFrame env
  | .lldp => lldpRxFrame env
  | .udpHigh => udpRxFrame env .udpHigh
  | .udpLow => udpRxFrame env .udpLow
  | .l2 => l2RxFrame env

/-- A call of the class's `*_rx_frame` on a burst. -/
def rxFrame (env : Env C D) (ty : FrameType) (stack : Mem UInt8) (w : World C D)
    (mbufs : List Mbuf) : Except Stop (World C D × List Mbuf) :=
  rxFrames env (rxHandler env ty) (env.app.cls ty).frameLength stack w mbufs

end Rtdk.Handlers
