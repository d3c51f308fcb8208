import Rtdk.Stat
import Rtdk.Security

/-! The configuration record and its sanity check (`config.h`, `config.c`).

`app_config` holds one group of fields per traffic class; `AppConfig.cls` gives
the group of a class. A field a class does not have in the source is never read
for it. `configSanityCheck` is the check as written, with its messages. -/

namespace Rtdk.Config
open Rtdk.NetDef Rtdk.Security Rtdk.Stat

/-- The `app_config.<class>_*` fields the frame code reads. -/
structure ClassConfig where
  enabled : Bool
  vid : Int32
  pcp : Int32
  numFramesPerCycle : UInt64
  payloadPattern : List UInt8
  frameLength : UInt64
  securityMode : SecurityMode
  securityAlgorithm : SecurityAlgorithm
  securityKey : List UInt8
  securityIvPrefix : List UInt8
  destination : Vector UInt8 6
  /-- UDP only: the address strings and the ports. -/
  udpSource : List UInt8
  udpDestination : List UInt8
  udpSrcPort : UInt16
  udpPort : UInt16

structure AppConfig where
  cls : FrameType → ClassConfig
  l2EtherType : UInt32
  applicationBaseCycleTimeNs : UInt64
  applicationTxBaseOffsetNs : UInt64
  applicationRxBaseOffsetNs : UInt64
  debugStopTraceOnOutlier : Bool
  logViaMqtt : Bool
  statsHistogramEnabled : Bool
  statsHistogramMinimumNs : UInt64
  statsHistogramMaximumNs : UInt64
  statsCollectionIntervalNs : UInt64

/-- `CONFIG_IS_TRAFFIC_CLASS_ACTIVE`. -/
def AppConfig.isActive (cfg : AppConfig) (ty : FrameType) : Bool :=
  (cfg.cls ty).enabled && decide ((cfg.cls ty).numFramesPerCycle > 0)

/-- `vid | pcp << VLAN_PCP_SHIFT`, cut to the 16 bits of the tag. -/
def ClassConfig.vlanTci (c : ClassConfig) : UInt16 :=
  (c.vid ||| (c.pcp <<< vlanPcpShift)).toUInt32.toUInt16

/-- The classes with a security mode of their own. -/
def hasSecurity : FrameType → Bool
  | .tsnHigh | .tsnLow | .rtc | .rta => true
  | _ => false

/-- The security mode a class's frames are built and checked with. -/
def AppConfig.mode (cfg : AppConfig) (ty : FrameType) : SecurityMode :=
  if hasSecurity ty then (cfg.cls ty).securityMode else .none

/-- The frame id a class puts into its frames; the non-PROFINET classes have none. -/
def frameId (ty : FrameType) (mode : SecurityMode) : UInt16 :=
  match ty with
  | .tsnHigh => if mode = .none then tsnHighFrameid else tsnHighSecFrameid
  | .tsnLow => if mode = .none then tsnLowFrameid else tsnLowSecFrameid
  | .rtc => if mode = .none then rtcFrameid else rtcSecFrameid
  | .rta => if mode = .none then rtaFrameid else rtaSecFrameid
  | .dcp => dcpFrameid
  | _ => 0

/-! ## Sanity check -/

/-- Format string and arguments printed to `stderr` for a rejected configuration. -/
abbrev Complaint := String × List LogArg

def ensure (ok : Bool) (complaint : Complaint) : Except Complaint Unit :=
  if ok then .ok () else .error complaint

def securityAlgorithmToString : SecurityAlgorithm → String
  | .aes256Gcm => "AES-256-GCM"
  | .aes128Gcm => "AES-128-GCM"
  | .chacha20Poly1305 => "CHACHA20-POLY1305"

def configCheckKeys (trafficClass : String) (c : ClassConfig) : Except Complaint Unit :=
  let expectedKeyLen := if c.securityAlgorithm = .aes128Gcm then 16 else 32
  let keyLen := c.securityKey.length
  if c.securityMode = .none then .ok () else do
    ensure (c.securityIvPrefix.length == securityIvPrefixLen)
      ("%s IV prefix length should be %d!\n",
        [.str trafficClass, .num (UInt64.ofNat securityIvPrefixLen)])
    ensure (expectedKeyLen == keyLen)
      ("%s key length mismatch!. Have %zu expected %zu for %s!\n",
        [.str trafficClass, .num (UInt64.ofNat keyLen), .num (UInt64.ofNat expectedKeyLen),
          .str (securityAlgorithmToString c.securityAlgorithm)])

/-- The bytes of headers and checksum each class must leave room for. -/
def minFrameSize (ty : FrameType) (mode : SecurityMode) : Nat :=
  match ty with
  | .tsnHigh | .tsnLow | .rtc | .rta =>
    if mode = .none then sizeofVlanEthernetHeader + sizeofProfinetRtHeader
    else sizeofVlanEthernetHeader + sizeofProfinetSecureHeader + sizeofSecurityChecksum
  | .dcp => sizeofVlanEthernetHeader + sizeofProfinetRtHeader
  | .l2 => sizeofVlanEthernetHeader + sizeofReferenceMetaData
  | .lldp => sizeofEthhdr + sizeofReferenceMetaData
  | .udpHigh | .udpLow => sizeofReferenceMetaData

/-- The frame-length check of one class: at most `MAX_FRAME_SIZE`, at least the
headers and the payload pattern. -/
def frameLengthOk (cfg : AppConfig) (ty : FrameType) : Bool :=
  let c := cfg.cls ty
  !(decide (c.frameLength.toNat > maxFrameSize) ||
    decide (c.frameLength.toNat < minFrameSize ty c.securityMode + c.payloadPattern.length))

/-- TsnLow is not in the source's first condition, and `config_have_busy_poll` is
constantly true in this build. -/
def configSanityCheck (withMqtt : Bool) (cfg : AppConfig) : Except Complaint Unit := do
  ensure (!(cfg.isActive .l2 && (cfg.isActive .tsnHigh || cfg.isActive .rtc || cfg.isActive .rta ||
      cfg.isActive .dcp || cfg.isActive .lldp || cfg.isActive .udpHigh || cfg.isActive .udpLow)))
    ("Either use PROFINET or L2!\nFor simulation of PROFINET and other middlewares in parallel start multiple instances of ref&mirror application(s) with different profiles!\n", [])
  ensure (frameLengthOk cfg .l2) ("L2FrameLength is invalid!\n", [])
  ensure (frameLengthOk cfg .tsnHigh) ("TsnHighFrameLength is invalid!\n", [])
  ensure (frameLengthOk cfg .tsnLow) ("TsnLowFrameLength is invalid!\n", [])
  ensure (frameLengthOk cfg .rtc) ("RtcFrameLength is invalid!\n", [])
  ensure (frameLengthOk cfg .rta) ("RtaFrameLength is invalid!\n", [])
  ensure (frameLengthOk cfg .dcp) ("DcpFrameLength is invalid!\n", [])
  ensure (frameLengthOk cfg .lldp) ("LldpFrameLength is invalid!\n", [])
  ensure (frameLengthOk cfg .udpHigh) ("UdpHighFrameLength is invalid!\n", [])
  ensure (frameLengthOk cfg .udpLow) ("UdpLowFrameLength is invalid!\n", [])
  ensure (!(!withMqtt && cfg.logViaMqtt)) ("Log via Mosquito enabled, but not supported!\n", [])
  configCheckKeys "TsnHigh" (cfg.cls .tsnHigh)
  configCheckKeys "TsnLow" (cfg.cls .tsnLow)
  configCheckKeys "Rtc" (cfg.cls .rtc)
  configCheckKeys "Rta" (cfg.cls .rta)
  ensure (!(decide (cfg.statsHistogramMinimumNs > cfg.statsHistogramMaximumNs)))
    ("Histogram minimum and maximum values are invalid!\n", [])

theorem ensure_ok {b : Bool} {e : Complaint} (h : ensure b e = .ok ()) : b = true := by
  unfold ensure at h
  split at h
  · assumption
  · cases h

/-- A sequence of checks passes only if both parts pass. -/
theorem seq_ok {x y : Except Complaint Unit} (h : (x >>= fun _ => y) = .ok ()) :
    x = .ok () ∧ y = .ok () := by
  cases x with
  | error e => cases h
  | ok u => exact ⟨rfl, h⟩

/-- **Frame lengths.**  In a sane configuration every class's frame holds its
headers and its payload pattern and fits the frame buffer. -/
theorem frameLengthOk_of_sane {withMqtt : Bool} {cfg : AppConfig}
    (h : configSanityCheck withMqtt cfg = .ok ()) (ty : FrameType) : frameLengthOk cfg ty = true := by
  unfold configSanityCheck at h
  obtain ⟨-, h⟩ := seq_ok h
  obtain ⟨hl2, h⟩ := seq_ok h
  obtain ⟨hth, h⟩ := seq_ok h
  obtain ⟨htl, h⟩ := seq_ok h
  obtain ⟨hrtc, h⟩ := seq_ok h
  obtain ⟨hrta, h⟩ := seq_ok h
  obtain ⟨hdcp, h⟩ := seq_ok h
  obtain ⟨hlldp, h⟩ := seq_ok h
  obtain ⟨huh, h⟩ := seq_ok h
  obtain ⟨hul, -⟩ := seq_ok h
  cases ty with
  | tsnHigh => exact ensure_ok hth
  | tsnLow => exact ensure_ok htl
  | rtc => exact ensure_ok hrtc
  | rta => exact ensure_ok hrta
  | dcp => exact ensure_ok hdcp
  | lldp => exact ensure_ok hlldp
  | udpHigh => exact ensure_ok huh
  | udpLow => exact ensure_ok hul
  | l2 => exact ensure_ok hl2

theorem frameLength_bounds {withMqtt : Bool} {cfg : AppConfig}
    (h : configSanityCheck withMqtt cfg = .ok ()) (ty : FrameType) :
    minFrameSize ty (cfg.cls ty).securityMode + (cfg.cls ty).payloadPattern.length ≤
        (cfg.cls ty).frameLength.toNat ∧
      (cfg.cls ty).frameLength.toNat ≤ maxFrameSize := by
  have hok := frameLengthOk_of_sane h ty
  simp only [frameLengthOk, Bool.not_eq_true', Bool.or_eq_false_iff, decide_eq_false_iff_not,
    Nat.not_lt, gt_iff_lt] at hok
  exact ⟨hok.2, hok.1⟩

end Rtdk.Config
