import Rtdk.Config
import Rtdk.CString
import Rtdk.Settings

/-! Reading the configuration file (`config.c`, the `CONFIG_STORE_*` macros of
`config.h`).

`app_config` is a value for every `Field` the file can set, of the C type the
field has. `params` is the list of keys in the order in which the source tries
them. libyaml's scanner is not part of the program: a file is the list of tokens
it delivers, and a list that ends before `YAML_STREAM_END_TOKEN` is a file it
fails on. Memory is taken to be there whenever it is asked for; running out of it
makes every function here return nonzero.

A run of the token loop is a list of assignments (`assignments`), and by
`configInit_values` each field ends with the last value its key was given. -/

namespace Rtdk.ConfigFile
open Rtdk.NetDef Rtdk.Stat Rtdk.Security Rtdk.Config Rtdk.CString

/-! ## Fields -/

inductive ClockId
  | tai
  | monotonic
  deriving DecidableEq, Repr

/-- A `char *` field and its `_length` field. -/
structure StringParam where
  text : Option CStr
  length : Nat
  deriving DecidableEq, Repr

/-- The macro that stores a field, with the C type of the field. -/
inductive Kind
  | clockid
  | bool
  | int
  /-- `CONFIG_STORE_INT_PARAM` on a `uint16_t`. -/
  | port
  | uint
  | ulong
  | string
  | mac
  | etherType
  | securityMode
  | securityAlgorithm
  deriving DecidableEq, Repr

def Kind.Val : Kind → Type
  | .clockid => ClockId
  | .bool => Bool
  | .int => Int32
  | .port => UInt16
  | .uint => UInt32
  | .ulong => UInt64
  | .string => StringParam
  | .mac => Vector UInt8 6
  | .etherType => UInt32
  | .securityMode => SecurityMode
  | .securityAlgorithm => SecurityAlgorithm

/-- The fields of `app_config` a file can set. Those of a traffic class take the
class; not every class has all of them. -/
inductive Field
  | applicationClockId
  | applicationBaseCycleTimeNs
  | applicationTxBaseOffsetNs
  | applicationRxBaseOffsetNs
  | applicationLinkHalfDuplex
  | applicationLinkSpeed
  | applicationWaitTimeBeforeStart
  | pktHandlerEnabled
  | pktHandlerThreadCpu
  | enabled (ty : FrameType)
  | txTimeEnabled (ty : FrameType)
  | txTimeOffsetNs (ty : FrameType)
  | vid (ty : FrameType)
  | pcp (ty : FrameType)
  | burstPeriodNs (ty : FrameType)
  | numFramesPerCycle (ty : FrameType)
  | payloadPattern (ty : FrameType)
  | frameLength (ty : FrameType)
  | securityMode (ty : FrameType)
  | securityAlgorithm (ty : FrameType)
  | securityKey (ty : FrameType)
  | securityIvPrefix (ty : FrameType)
  | threadCpu (ty : FrameType)
  /-- The destination MAC address; `udp_*_mac_destination` for UDP. -/
  | destination (ty : FrameType)
  | udpPort (ty : FrameType)
  | udpSrcPort (ty : FrameType)
  | udpDestination (ty : FrameType)
  | udpSource (ty : FrameType)
  | l2EtherType
  | logThreadPeriodNs
  | logThreadPriority
  | logThreadCpu
  | logFile
  | logLevel
  | debugStopTraceOnOutlier
  | debugStopTraceOnError
  | debugMonitorMode
  | debugMonitorDestination
  | statsHistogramEnabled
  | statsHistogramMinimumNs
  | statsHistogramMaximumNs
  | statsHistogramFile
  | statsCollectionIntervalNs
  | logViaMqtt
  | logViaMqttThreadPriority
  | logViaMqttThreadCpu
  | logViaMqttThreadPeriodNs
  | logViaMqttBrokerIp
  | logViaMqttBrokerPort
  | logViaMqttKeepAliveSecs
  | logViaMqttMeasurementName
  deriving DecidableEq, Repr

def Field.kind : Field → Kind
  | .applicationClockId => .clockid
  | .applicationLinkHalfDuplex | .pktHandlerEnabled | .enabled _ | .txTimeEnabled _ => .bool
  | .debugStopTraceOnOutlier | .debugStopTraceOnError | .debugMonitorMode => .bool
  | .statsHistogramEnabled | .logViaMqtt => .bool
  | .pktHandlerThreadCpu | .vid _ | .pcp _ | .threadCpu _ => .int
  | .logThreadPriority | .logThreadCpu | .logViaMqttThreadPriority | .logViaMqttThreadCpu => .int
  | .logViaMqttBrokerPort | .logViaMqttKeepAliveSecs => .int
  | .udpPort _ | .udpSrcPort _ => .port
  | .applicationLinkSpeed | .applicationWaitTimeBeforeStart => .uint
  | .applicationBaseCycleTimeNs | .applicationTxBaseOffsetNs | .applicationRxBaseOffsetNs => .ulong
  | .txTimeOffsetNs _ | .burstPeriodNs _ | .numFramesPerCycle _ | .frameLength _ => .ulong
  | .logThreadPeriodNs | .statsHistogramMinimumNs | .statsHistogramMaximumNs => .ulong
  | .statsCollectionIntervalNs | .logViaMqttThreadPeriodNs => .ulong
  | .payloadPattern _ | .securityKey _ | .securityIvPrefix _ => .string
  | .udpDestination _ | .udpSource _ | .logFile | .logLevel | .statsHistogramFile => .string
  | .logViaMqttBrokerIp | .logViaMqttMeasurementName => .string
  | .destination _ | .debugMonitorDestination => .mac
  | .l2EtherType => .etherType
  | .securityMode _ => .securityMode
  | .securityAlgorithm _ => .securityAlgorithm

/-- `app_config`, as far as a file can set it. -/
abbrev Values := (f : Field) → f.kind.Val

def Values.enabled (app : Values) (ty : FrameType) : Bool := app (.enabled ty)
def Values.linkSpeed (app : Values) : UInt32 := app .applicationLinkSpeed
def Values.waitTime (app : Values) : UInt32 := app .applicationWaitTimeBeforeStart

/-- The keys, in the order of the source. -/
def params : List (String × Field) :=
  [("ApplicationClockId", .applicationClockId),
    ("ApplicationBaseCycleTimeNS", .applicationBaseCycleTimeNs),
    ("ApplicationTxBaseOffsetNS", .applicationTxBaseOffsetNs),
    ("ApplicationRxBaseOffsetNS", .applicationRxBaseOffsetNs),
    ("ApplicationLinkHalfDuplex", .applicationLinkHalfDuplex),
    ("ApplicationLinkSpeed", .applicationLinkSpeed),
    ("ApplicationWaitTimeBeforeStart", .applicationWaitTimeBeforeStart),
    ("PktHandlerEnabled", .pktHandlerEnabled), ("PktHandlerThreadCpu", .pktHandlerThreadCpu),
    ("TsnHighEnabled", .enabled .tsnHigh), ("TsnHighTxTimeEnabled", .txTimeEnabled .tsnHigh),
    ("TsnHighTxTimeOffsetNS", .txTimeOffsetNs .tsnHigh), ("TsnHighVid", .vid .tsnHigh),
    ("TsnHighPcp", .pcp .tsnHigh), ("TsnHighNumFramesPerCycle", .numFramesPerCycle .tsnHigh),
    ("TsnHighPayloadPattern", .payloadPattern .tsnHigh),
    ("TsnHighFrameLength", .frameLength .tsnHigh),
    ("TsnHighSecurityMode", .securityMode .tsnHigh),
    ("TsnHighSecurityAlgorithm", .securityAlgorithm .tsnHigh),
    ("TsnHighSecurityKey", .securityKey .tsnHigh),
    ("TsnHighSecurityIvPrefix", .securityIvPrefix .tsnHigh),
    ("TsnHighThreadCpu", .threadCpu .tsnHigh), ("TsnHighDestination", .destination .tsnHigh),
    ("TsnLowEnabled", .enabled .tsnLow), ("TsnLowTxTimeEnabled", .txTimeEnabled .tsnLow),
    ("TsnLowTxTimeOffsetNS", .txTimeOffsetNs .tsnLow), ("TsnLowVid", .vid .tsnLow),
    ("TsnLowPcp", .pcp .tsnLow), ("TsnLowNumFramesPerCycle", .numFramesPerCycle .tsnLow),
    ("TsnLowPayloadPattern", .payloadPattern .tsnLow),
    ("TsnLowFrameLength", .frameLength .tsnLow), ("TsnLowSecurityMode", .securityMode .tsnLow),
    ("TsnLowSecurityAlgorithm", .securityAlgorithm .tsnLow),
    ("TsnLowSecurityKey", .securityKey .tsnLow),
    ("TsnLowSecurityIvPrefix", .securityIvPrefix .tsnLow),
    ("TsnLowThreadCpu", .threadCpu .tsnLow), ("TsnLowDestination", .destination .tsnLow),
    ("RtcEnabled", .enabled .rtc), ("RtcVid", .vid .rtc), ("RtcPcp", .pcp .rtc),
    ("RtcNumFramesPerCycle", .numFramesPerCycle .rtc),
    ("RtcPayloadPattern", .payloadPattern .rtc), ("RtcFrameLength", .frameLength .rtc),
    ("RtcSecurityMode", .securityMode .rtc), ("RtcSecurityAlgorithm", .securityAlgorithm .rtc),
    ("RtcSecurityKey", .securityKey .rtc), ("RtcSecurityIvPrefix", .securityIvPrefix .rtc),
    ("RtcThreadCpu", .threadCpu .rtc), ("RtcDestination", .destination .rtc),
    ("RtaEnabled", .enabled .rta), ("RtaVid", .vid .rta), ("RtaPcp", .pcp .rta),
    ("RtaBurstPeriodNS", .burstPeriodNs .rta), ("RtaNumFramesPerCycle", .numFramesPerCycle .rta),
    ("RtaPayloadPattern", .payloadPattern .rta), ("RtaFrameLength", .frameLength .rta),
    ("RtaSecurityMode", .securityMode .rta), ("RtaSecurityAlgorithm", .securityAlgorithm .rta),
    ("RtaSecurityKey", .securityKey .rta), ("RtaSecurityIvPrefix", .securityIvPrefix .rta),
    ("RtaThreadCpu", .threadCpu .rta), ("RtaDestination", .destination .rta),
    ("DcpEnabled", .enabled .dcp), ("DcpVid", .vid .dcp), ("DcpPcp", .pcp .dcp),
    ("DcpBurstPeriodNS", .burstPeriodNs .dcp), ("DcpNumFramesPerCycle", .numFramesPerCycle .dcp),
    ("DcpPayloadPattern", .payloadPattern .dcp), ("DcpFrameLength", .frameLength .dcp),
    ("DcpThreadCpu", .threadCpu .dcp), ("DcpDestination", .destination .dcp),
    ("LldpEnabled", .enabled .lldp), ("LldpBurstPeriodNS", .burstPeriodNs .lldp),
    ("LldpNumFramesPerCycle", .numFramesPerCycle .lldp),
    ("LldpPayloadPattern", .payloadPattern .lldp), ("LldpFrameLength", .frameLength .lldp),
    ("LldpThreadCpu", .threadCpu .lldp), ("LldpDestination", .destination .lldp),
    ("UdpHighEnabled", .enabled .udpHigh), ("UdpHighBurstPeriodNS", .burstPeriodNs .udpHigh),
    ("UdpHighNumFramesPerCycle", .numFramesPerCycle .udpHigh),
    ("UdpHighPayloadPattern", .payloadPattern .udpHigh),
    ("UdpHighFrameLength", .frameLength .udpHigh), ("UdpHighThreadCpu", .threadCpu .udpHigh),
    ("UdpHighPort", .udpPort .udpHigh), ("UdpHighSrcPort", .udpSrcPort .udpHigh),
    ("UdpHighDestination", .udpDestination .udpHigh), ("UdpHighSource", .udpSource .udpHigh),
    ("UdpHighMacDestination", .destination .udpHigh), ("UdpLowEnabled", .enabled .udpLow),
    ("UdpLowBurstPeriodNS", .burstPeriodNs .udpLow),
    ("UdpLowNumFramesPerCycle", .numFramesPerCycle .udpLow),
    ("UdpLowPayloadPattern", .payloadPattern .udpLow),
    ("UdpLowFrameLength", .frameLength .udpLow), ("UdpLowThreadCpu", .threadCpu .udpLow),
    ("UdpLowPort", .udpPort .udpLow), ("UdpLowSrcPort", .udpSrcPort .udpLow),
    ("UdpLowDestination", .udpDestination .udpLow), ("UdpLowSource", .udpSource .udpLow),
    ("UdpLowMacDestination", .destination .udpLow), ("L2Enabled", .enabled .l2),
    ("L2TxTimeEnabled", .txTimeEnabled .l2), ("L2TxTimeOffsetNS", .txTimeOffsetNs .l2),
    ("L2Vid", .vid .l2), ("L2Pcp", .pcp .l2), ("L2EtherType", .l2EtherType),
    ("L2NumFramesPerCycle", .numFramesPerCycle .l2), ("L2PayloadPattern", .payloadPattern .l2),
    ("L2FrameLength", .frameLength .l2), ("L2ThreadCpu", .threadCpu .l2),
    ("L2Destination", .destination .l2), ("LogThreadPeriodNS", .logThreadPeriodNs),
    ("LogThreadPriority", .logThreadPriority), ("LogThreadCpu", .logThreadCpu),
    ("LogFile", .logFile), ("LogLevel", .logLevel),
    ("DebugStopTraceOnOutlier", .debugStopTraceOnOutlier),
    ("DebugStopTraceOnError", .debugStopTraceOnError), ("DebugMonitorMode", .debugMonitorMode),
    ("DebugMonitorDestination", .debugMonitorDestination),
    ("StatsHistogramEnabled", .statsHistogramEnabled),
    ("StatsHistogramMinimumNS", .statsHistogramMinimumNs),
    ("StatsHistogramMaximumNS", .statsHistogramMaximumNs),
    ("StatsHistogramFile", .statsHistogramFile),
    ("StatsCollectionIntervalNS", .statsCollectionIntervalNs), ("LogViaMQTT", .logViaMqtt),
    ("LogViaMQTTThreadPriority", .logViaMqttThreadPriority),
    ("LogViaMQTTThreadCpu", .logViaMqttThreadCpu),
    ("LogViaMQTTThreadPeriodNS", .logViaMqttThreadPeriodNs),
    ("LogViaMQTTBrokerIP", .logViaMqttBrokerIp), ("LogViaMQTTBrokerPort", .logViaMqttBrokerPort),
    ("LogViaMQTTKeepAliveSecs", .logViaMqttKeepAliveSecs),
    ("LogViaMQTTMeasurementName", .logViaMqttMeasurementName)]

/-! ## Default values -/

def defaultDestination : Vector UInt8 6 := #v[0xa8, 0xa1, 0x59, 0x2c, 0xa8, 0xdb]
def defaultDcpIdentify : Vector UInt8 6 := #v[0x01, 0x0e, 0xcf, 0x00, 0x00, 0x00]
def defaultLldpDestination : Vector UInt8 6 := #v[0x01, 0x80, 0xc2, 0x00, 0x00, 0x0e]
def defaultUdpDestination : Vector UInt8 6 := #v[0xa4, 0xa2, 0xc2, 0x00, 0x00, 0xee]
def defaultDebugMonitorDestination : Vector UInt8 6 := #v[0x44, 0x44, 0x44, 0x44, 0x44, 0x44]

def minWaitTime : UInt32 := 16
def rteEthSpeedNumUnknown : UInt32 := 0xffffffff

/-- A default string whose `_length` is set with it. -/
def withLength (s : String) : StringParam := ⟨some (lit s), (lit s).length⟩

/-- A default string whose `_length` keeps the zero of `app_config = {0}`. -/
def withoutLength (s : String) : StringParam := ⟨some (lit s), 0⟩

/-- `config_set_defaults`. A field it does not set, and a field a class does not
have, keeps the zero of `app_config = {0}`. -/
def configSetDefaults : Values
  | .applicationClockId => ClockId.tai
  | .applicationBaseCycleTimeNs => (125000 : UInt64)
  | .applicationTxBaseOffsetNs => (100000 : UInt64)
  | .applicationRxBaseOffsetNs => (75000 : UInt64)
  | .applicationLinkHalfDuplex => false
  | .applicationLinkSpeed => rteEthSpeedNumUnknown
  | .applicationWaitTimeBeforeStart => minWaitTime
  | .pktHandlerEnabled => false
  | .pktHandlerThreadCpu => (-1 : Int32)
  | .enabled _ => false
  | .txTimeEnabled _ => false
  | .txTimeOffsetNs _ => (0 : UInt64)
  | .vid .tsnHigh => (0x101 : Int32)
  | .vid .tsnLow => (0x102 : Int32)
  | .vid .l2 => (100 : Int32)
  | .vid _ => (0 : Int32)
  | .pcp .tsnHigh => (6 : Int32)
  | .pcp .tsnLow => (5 : Int32)
  | .pcp .rtc => (4 : Int32)
  | .pcp .rta => (3 : Int32)
  | .pcp .dcp => (2 : Int32)
  | .pcp .l2 => (6 : Int32)
  | .pcp _ => (0 : Int32)
  | .burstPeriodNs .rta => (200000000 : UInt64)
  | .burstPeriodNs .dcp => (2000000000 : UInt64)
  | .burstPeriodNs .lldp => (5000000000 : UInt64)
  | .burstPeriodNs .udpHigh | .burstPeriodNs .udpLow => (1000000000 : UInt64)
  | .burstPeriodNs _ => (0 : UInt64)
  | .numFramesPerCycle _ => (0 : UInt64)
  | .payloadPattern _ => withLength "Payload"
  | .frameLength .udpHigh | .frameLength .udpLow => (1400 : UInt64)
  | .frameLength _ => (200 : UInt64)
  | .securityMode _ => SecurityMode.none
  | .securityAlgorithm _ => SecurityAlgorithm.aes256Gcm
  | .securityKey _ => (⟨none, 0⟩ : StringParam)
  | .securityIvPrefix _ => (⟨none, 0⟩ : StringParam)
  | .threadCpu _ => (-1 : Int32)
  | .destination .dcp => defaultDcpIdentify
  | .destination .lldp => defaultLldpDestination
  | .destination .udpHigh | .destination .udpLow => defaultUdpDestination
  | .destination _ => defaultDestination
  | .udpPort .udpHigh => (6666 : UInt16)
  | .udpPort .udpLow => (6667 : UInt16)
  | .udpPort _ => (0 : UInt16)
  | .udpSrcPort _ => (0 : UInt16)
  | .udpDestination .udpHigh | .udpDestination .udpLow => withoutLength "192.168.2.121"
  | .udpDestination _ => (⟨none, 0⟩ : StringParam)
  | .udpSource .udpHigh | .udpSource .udpLow => withoutLength "192.168.2.120"
  | .udpSource _ => (⟨none, 0⟩ : StringParam)
  | .l2EtherType => (0xb62c : UInt32)
  | .logThreadPeriodNs => (500000000 : UInt64)
  | .logThreadPriority => (1 : Int32)
  | .logThreadCpu => (7 : Int32)
  | .logFile => withoutLength "reference.log"
  | .logLevel => withoutLength "Debug"
  | .debugStopTraceOnOutlier => false
  | .debugStopTraceOnError => false
  | .debugMonitorMode => false
  | .debugMonitorDestination => defaultDebugMonitorDestination
  | .statsHistogramEnabled => false
  | .statsHistogramMinimumNs => (1000000 : UInt64)
  | .statsHistogramMaximumNs => (10000000 : UInt64)
  | .statsHistogramFile => withLength "histogram.txt"
  | .statsCollectionIntervalNs => (1000000000 : UInt64)
  | .logViaMqtt => false
  | .logViaMqttThreadPriority => (1 : Int32)
  | .logViaMqttThreadCpu => (7 : Int32)
  | .logViaMqttThreadPeriodNs => (1000000000 : UInt64)
  | .logViaMqttBrokerIp => withoutLength "127.0.0.1"
  | .logViaMqttBrokerPort => (1883 : Int32)
  | .logViaMqttKeepAliveSecs => (60 : Int32)
  | .logViaMqttMeasurementName => withoutLength "testbench"

/-! ## Storing one value -/

def einval : Int32 := 22
def eio : Int32 := 5
def erange : Int32 := 34

/-- A nonzero return: its value and what was printed to `stderr`. -/
structure Failure where
  ret : Int32
  complaint : Complaint
  deriving DecidableEq, Repr

/-- `ret` when a macro jumps to `err_parse` without setting it: it still holds
the success of `yaml_parser_scan`. -/
def retOfScan : Int32 := 1

/-- `"The value for " #name " is invalid!\n"`. -/
def invalidValue (name : String) : Complaint := ("The value for %s is invalid!\n", [.str name])

/-- A number that must take up the whole string. -/
def storeNumber {α β : Type} (r : Strto α) (cast : α → β) (complaint : Complaint) :
    Except Failure β :=
  if r.whole then .ok (cast r.value) else .error ⟨-erange, complaint⟩

def storeBool (name : String) (value : CStr) : Except Failure Bool :=
  if value == lit "0" || strcaseeq value (lit "false") || strcaseeq value (lit "disabled") ||
      strcaseeq value (lit "off") then
    .ok false
  else if value == lit "1" || strcaseeq value (lit "true") || strcaseeq value (lit "enabled") ||
      strcaseeq value (lit "on") then
    .ok true
  else .error ⟨retOfScan, invalidValue name⟩

def storeClockid (value : CStr) : Except Failure ClockId :=
  if strcaseeq value (lit "CLOCK_TAI") then .ok .tai
  else if strcaseeq value (lit "CLOCK_MONOTONIC") then .ok .monotonic
  else .error ⟨retOfScan, ("Invalid clockid specified! '%s'\n", [.bytes value])⟩

def storeSecurityMode (value : CStr) : Except Failure SecurityMode :=
  if strcaseeq value (lit "none") then .ok .none
  else if strcaseeq value (lit "ao") then .ok .ao
  else if strcaseeq value (lit "ae") then .ok .ae
  else .error ⟨retOfScan, ("Invalid security mode specified!\n", [])⟩

def storeSecurityAlgorithm (value : CStr) : Except Failure SecurityAlgorithm :=
  if strcaseeq value (lit "aes256-gcm") then .ok .aes256Gcm
  else if strcaseeq value (lit "aes128-gcm") then .ok .aes128Gcm
  else if strcaseeq value (lit "chacha20-poly1305") then .ok .chacha20Poly1305
  else .error ⟨retOfScan, ("Invalid security algorithm specified!\n", [])⟩

def storeMac (value : CStr) : Except Failure (Vector UInt8 6) :=
  match scanMac value with
  | none => .error ⟨-einval, ("Failed to parse MAC Address!\n", [])⟩
  | some tmp =>
    match tmp.findIdx? (fun x => decide (x > 255)) with
    | some i => .error ⟨-einval, ("MAC octet %d out of range: %u\n",
        [.num (UInt64.ofNat i), .num (tmp.getD i 0).toUInt64])⟩
    | none => .ok (Vector.ofFn fun i => (tmp.getD i.val 0).toUInt8)

/-- The macro of a kind. Numbers are cut to the type of the field. -/
def storeParam (name : String) : (k : Kind) → CStr → Except Failure k.Val
  | .clockid, value => storeClockid value
  | .bool, value => storeBool name value
  | .int, value => storeNumber (strtol 10 value) Int64.toInt32 (invalidValue name)
  | .port, value =>
    storeNumber (strtol 10 value) (fun v => v.toInt16.toUInt16) (invalidValue name)
  | .uint, value => storeNumber (strtoul 10 value) UInt64.toUInt32 (invalidValue name)
  | .ulong, value =>
    let r := strtoull 10 value
    storeNumber r id ("The value for %s is invalid (%d)!\n",
      [.str name, .num (if r.erange then 34 else 0)])
  | .string, value => .ok ⟨some value, value.length⟩
  | .mac, value => storeMac value
  | .etherType, value => storeNumber (strtoul 16 value) UInt64.toUInt32 (invalidValue name)
  | .securityMode, value => storeSecurityMode value
  | .securityAlgorithm, value => storeSecurityAlgorithm value

/-- `!strcasecmp(key, #name)`. -/
def keyIs (key : CStr) (name : String) : Bool := strcaseeq key (lit name)

/-- The macros one after the other, for one key and its value. -/
def storeParams (key value : CStr) (app : Values) : Except Failure Values :=
  Settings.storeAll keyIs (fun name f text => storeParam name f.kind text) params key value app

/-! ## The token loop -/

/-- The tokens of libyaml's scanner the loop tells apart. -/
inductive Token
  | key
  | value
  | scalar (bytes : List UInt8)
  | streamEnd
  | other
  deriving DecidableEq, Repr

structure LoopState where
  stateKey : Bool
  key : Option CStr
  app : Values

/-- The body of the loop, for a token that does not end the stream. -/
def readToken (st : LoopState) : Token → Except Failure LoopState
  | .key => .ok { st with stateKey := true }
  | .value => .ok { st with stateKey := false }
  | .scalar bytes =>
    if st.stateKey then .ok { st with key := some (ofBytes bytes) }
    else
      match st.key with
      | none => .ok st
      | some key => (storeParams key (ofBytes bytes) st.app).map fun app =>
          { st with key := none, app }
  | .streamEnd | .other => .ok st

def readTokens : List Token → LoopState → Except Failure Values
  | [], _ => .error ⟨-einval, ("%s: Failed to parse YAML file!\n", [.str "config_read_from_file"])⟩
  | .streamEnd :: _, st => .ok st.app
  | t :: ts, st =>
    match readToken st t with
    | .error e => .error e
    | .ok st => readTokens ts st

/-! ## Queues and final values -/

/-- `qinfo[1]` up to its `cnt`, the next queue id and the `*_lport_id` fields. -/
structure Queues where
  qids : List UInt16
  qid : UInt16
  lportId : FrameType → UInt32

def lportInvalid : UInt32 := 0xffffffff

def lportMake (pid qid : UInt16) : UInt32 := (pid.toUInt32 <<< 16) ||| qid.toUInt32

def maxQueue (app : Values) (q : Queues) (ty : FrameType) : Queues :=
  if app.enabled ty then
    { qids := q.qids ++ [q.qid]
      qid := q.qid + 1
      lportId := Function.update q.lportId ty (lportMake 1 q.qid) }
  else q

def queueOrder : List FrameType :=
  [.tsnHigh, .tsnLow, .rtc, .rta, .dcp, .lldp, .udpHigh, .udpLow, .l2]

def assignQueues (app : Values) : Queues :=
  queueOrder.foldl (maxQueue app) ⟨[0], 1, fun _ => lportInvalid⟩

def finalLinkSpeed (app : Values) : Values :=
  if app.linkSpeed = 0 then
    Function.update app .applicationLinkSpeed rteEthSpeedNumUnknown
  else app

def finalWaitTime (app : Values) : Values :=
  if app.waitTime < minWaitTime then
    Function.update app .applicationWaitTimeBeforeStart minWaitTime
  else app

structure Loaded where
  values : Values
  queues : Queues

/-- A file `fopen` succeeds on: whether the parser could be set up for it, and
the tokens the scanner delivers. -/
structure File where
  parserReady : Bool
  tokens : List Token

def configReadFromFile (fopen : CStr → Option File) (configFile : Option CStr) (app : Values) :
    Except Failure Loaded :=
  match configFile with
  | none => .error ⟨-einval, ("", [])⟩
  | some path =>
    match fopen path with
    | none => .error ⟨-eio, ("fopen() failed", [])⟩
    | some file =>
      if !file.parserReady then .error ⟨-einval, ("Failed to initialize YAML parser\n", [])⟩
      else
        match readTokens file.tokens ⟨false, none, app⟩ with
        | .error e => .error e
        | .ok app => .ok ⟨finalWaitTime (finalLinkSpeed app), assignQueues app⟩

/-- `config_init`: the default values, then the file. `config_sanity_check` is
not called here, nor anywhere else. -/
def configInit (fopen : CStr → Option File) (configFilePath : Option CStr) :
    Except Failure Loaded :=
  match configFilePath with
  | none => .error ⟨-1, ("Specifying an configuration file is mandatory. See tests/ directory for examples!\n", [])⟩
  | some path => configReadFromFile fopen (some path) configSetDefaults

/-! ## The values a file ends with -/

/-- The pairs of key and value of a file, in order: a scalar after `VALUE` goes
with the last scalar after `KEY`, if that one has no value yet. -/
def assignments : Bool → Option CStr → List Token → List (CStr × CStr)
  | _, _, [] => []
  | _, _, .streamEnd :: _ => []
  | _, key, .key :: ts => assignments true key ts
  | _, key, .value :: ts => assignments false key ts
  | stateKey, key, .other :: ts => assignments stateKey key ts
  | true, _, .scalar bytes :: ts => assignments true (some (ofBytes bytes)) ts
  | false, none, .scalar _ :: ts => assignments false none ts
  | false, some key, .scalar bytes :: ts => (key, ofBytes bytes) :: assignments false none ts

/-- **The token loop.**  It fails if the scanner does, and otherwise applies the
assignments of the file in order. -/
theorem readTokens_eq (ts : List Token) (st : LoopState) :
    if Token.streamEnd ∈ ts then
      readTokens ts st = (assignments st.stateKey st.key ts).foldlM
        (fun app a => storeParams a.1 a.2 app) st.app
    else ∃ e, readTokens ts st = .error e := by
  induction ts generalizing st with
  | nil => exact ⟨_, rfl⟩
  | cons t ts ih =>
    obtain ⟨stateKey, key, app⟩ := st
    cases t with
    | streamEnd =>
      rw [if_pos List.mem_cons_self, assignments]
      rfl
    | key =>
      simp only [List.mem_cons, reduceCtorEq, false_or, assignments]
      exact ih ⟨true, key, app⟩
    | value =>
      simp only [List.mem_cons, reduceCtorEq, false_or, assignments]
      exact ih ⟨false, key, app⟩
    | other =>
      simp only [List.mem_cons, reduceCtorEq, false_or, assignments]
      exact ih ⟨stateKey, key, app⟩
    | scalar bytes =>
      simp only [List.mem_cons, reduceCtorEq, false_or]
      cases stateKey with
      | true =>
        simp only [assignments]
        exact ih ⟨true, some (ofBytes bytes), app⟩
      | false =>
        cases key with
        | none =>
          simp only [assignments]
          exact ih ⟨false, none, app⟩
        | some key =>
          simp only [assignments, List.foldlM_cons]
          simp only [readTokens, readToken, Bool.false_eq_true, if_false]
          cases hs : storeParams key (ofBytes bytes) app with
          | error e =>
            split
            · rfl
            · exact ⟨e, rfl⟩
          | ok app' => exact ih ⟨false, none, app'⟩

theorem readTokens_assignments {ts : List Token} {st : LoopState} {app : Values}
    (h : readTokens ts st = .ok app) :
    (assignments st.stateKey st.key ts).foldlM
      (fun app a => storeParams a.1 a.2 app) st.app = .ok app := by
  have heq := readTokens_eq ts st
  split at heq
  · rw [← heq, h]
  · obtain ⟨e, he⟩ := heq
    rw [he] at h
    cases h

/-- The last value the file gives to a field's key, with the key's name. -/
def lastGiven (ts : List Token) (f : Field) : Option (String × CStr) :=
  Settings.lastFor keyIs params f (assignments false none ts)

/-- What a file asks for: the last value given to a field's key, the default
where the key does not occur. -/
def given (ts : List Token) (f : Field) : f.kind.Val :=
  match lastGiven ts f with
  | none => configSetDefaults f
  | some (name, value) => ((storeParam name f.kind value).toOption).getD (configSetDefaults f)

theorem params_nodup : (params.map Prod.snd).Nodup := by decide +kernel

theorem readTokens_given {ts : List Token} {app : Values}
    (h : readTokens ts ⟨false, none, configSetDefaults⟩ = .ok app) (f : Field) :
    app f = given ts f := by
  have hassign := readTokens_assignments h
  obtain ⟨hsome, hnone⟩ := Settings.assign_apply (f := f) params_nodup hassign
  unfold given
  cases hl : lastGiven ts f with
  | none => exact hnone hl
  | some p =>
    have hp := hsome p.1 p.2 hl
    simp only [hp, Except.toOption, Option.getD_some]

theorem finalLinkSpeed_apply {app : Values} {f : Field} (hf : f ≠ .applicationLinkSpeed) :
    finalLinkSpeed app f = app f := by
  unfold finalLinkSpeed
  split
  · exact Function.update_of_ne hf _ _
  · rfl

theorem finalWaitTime_apply {app : Values} {f : Field}
    (hf : f ≠ .applicationWaitTimeBeforeStart) : finalWaitTime app f = app f := by
  unfold finalWaitTime
  split
  · exact Function.update_of_ne hf _ _
  · rfl

/-- How `config_init` succeeds. -/
theorem configInit_ok {fopen : CStr → Option File} {path : Option CStr} {app : Loaded}
    (h : configInit fopen path = .ok app) :
    ∃ p file app0, path = some p ∧ fopen p = some file ∧
      readTokens file.tokens ⟨false, none, configSetDefaults⟩ = .ok app0 ∧
      app = ⟨finalWaitTime (finalLinkSpeed app0), assignQueues app0⟩ := by
  cases path with
  | none => cases h
  | some p =>
    simp only [configInit, configReadFromFile] at h
    cases hfile : fopen p with
    | none =>
      rw [hfile] at h
      cases h
    | some file =>
      rw [hfile] at h
      simp only at h
      split at h
      · cases h
      · cases hr : readTokens file.tokens ⟨false, none, configSetDefaults⟩ with
        | error e =>
          rw [hr] at h
          cases h
        | ok app0 =>
          rw [hr] at h
          cases h
          exact ⟨p, file, app0, rfl, hfile, hr, rfl⟩

/-- **Loading a file.**  Apart from the two values adjusted at the end, every field
of a configuration `config_init` accepts has the value the file asks for. -/
theorem configInit_values {fopen : CStr → Option File} {path : CStr} {file : File}
    {app : Loaded} (hfile : fopen path = some file)
    (h : configInit fopen (some path) = .ok app) {f : Field}
    (hspeed : f ≠ .applicationLinkSpeed) (hwait : f ≠ .applicationWaitTimeBeforeStart) :
    app.values f = given file.tokens f := by
  obtain ⟨p, file', app0, hp, hfile', hr, rfl⟩ := configInit_ok h
  cases hp
  rw [hfile] at hfile'
  cases hfile'
  show finalWaitTime (finalLinkSpeed app0) f = given file.tokens f
  rw [finalWaitTime_apply hwait, finalLinkSpeed_apply hspeed]
  exact readTokens_given hr f

end Rtdk.ConfigFile
