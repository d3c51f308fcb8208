import Rtdk.Frame

/-! The state one traffic class works on, and its surroundings.

`World` is what a class's thread reads and writes: its thread context, the
statistics, its transmit buffer, and, as history, its log calls and its sealing
calls. `Env` is what does not change during a run:
configuration, build, OpenSSL, the device, and the clock, which gives its
`i`-th reading. A function that may end the process returns `Except Stop`. -/

namespace Rtdk.Thread
open Rtdk.Memory Rtdk.NetDef Rtdk.Security Rtdk.Stat Rtdk.Lport Rtdk.Config Rtdk.Frame

/-- `struct thread_context`. `payloadPattern` is the buffer AE encrypts, seen
from the advanced pointer; `none` if the buffer was never allocated. -/
structure ThreadContext (C : Type) where
  rxSequenceCounter : UInt64
  txSequenceCounter : UInt64
  txSecurityContext : C
  rxSecurityContext : C
  payloadPattern : Option (Mem UInt8)
  payloadPatternLength : UInt64

structure Env (C D : Type) where
  app : AppConfig
  mirrorMode : Bool
  withMqtt : Bool
  evp : Evp C
  dev : TxDevice D
  clock : Nat → UInt64
  /-- `lport_mac_address` of the class's port. -/
  mac : Vector UInt8 6

structure World (C D : Type) where
  thread : ThreadContext C
  stat : StatPrivate
  tx : TxQueue D
  log : List LogEntry
  ticks : Nat
  seals : List SealCall

/-- How and after which log calls the process ended. -/
structure Stop where
  reason : Halt
  log : List LogEntry

variable {C D : Type}

def Env.statConfig (env : Env C D) : StatConfig where
  withMqtt := env.withMqtt
  mirrorMode := env.mirrorMode
  statsHistogramEnabled := env.app.statsHistogramEnabled
  statsCollectionIntervalNs := env.app.statsCollectionIntervalNs
  debugStopTraceOnOutlier := env.app.debugStopTraceOnOutlier

/-- The time stamp a receiver writes into a frame handled at clock reading `now`. -/
def Env.mirrorStamp (env : Env C D) (now : UInt64) : UInt64 :=
  now + (env.app.applicationTxBaseOffsetNs - env.app.applicationRxBaseOffsetNs)

/-- `thread_context->meta_data_offset`, which every `*_threads_create` sets once. -/
def Env.metaDataOffset (env : Env C D) (ty : FrameType) : Nat :=
  getMetaDataOffset ty (env.app.mode ty)

def World.say (w : World C D) (entries : List LogEntry) : World C D :=
  { w with log := w.log ++ entries }

/-- The clock reading `clock_gettime_ns` gives next. -/
def World.now (env : Env C D) (w : World C D) : UInt64 := env.clock w.ticks

def World.tick (w : World C D) : World C D := { w with ticks := w.ticks + 1 }

def World.setRx (w : World C D) (v : UInt64) : World C D :=
  { w with thread := { w.thread with rxSequenceCounter := v } }

def World.enqueue (env : Env C D) (w : World C D) (m : Mbuf) : World C D :=
  { w with tx := lportTxBufferAdd env.dev w.tx m }

/-- Cipher context, log and sealing history after a received frame was sealed again. -/
def World.sealed (w : World C D) (ctx : C) (entries : List LogEntry) (call : SealCall) :
    World C D :=
  { w with
    thread := { w.thread with rxSecurityContext := ctx }
    log := w.log ++ entries
    seals := w.seals ++ [call] }

/-- Statistics state and log after a statistics call, or the end of the process. -/
def World.applyStat (w : World C D) (r : Result) : Except Stop (World C D) :=
  match r.halt with
  | some reason => .error ⟨reason, w.log ++ r.log⟩
  | none => .ok { w with stat := r.stat, log := w.log ++ r.log }

/-! ## Thread setup

`rtc_threads_create` allocates a zeroed payload buffer; `tsn_threads_create` and
`rta_threads_create` allocate none. The setup functions of the three classes
(and of L2, which never uses it) then advance the pointer past the headers and
set the length. -/

def threadSetup (cfg : AppConfig) (ty : FrameType) (txSecurityContext rxSecurityContext : C) :
    ThreadContext C where
  rxSequenceCounter := 0
  txSequenceCounter := 0
  txSecurityContext := txSecurityContext
  rxSecurityContext := rxSecurityContext
  payloadPattern := if ty = .rtc then some (fun _ => 0) else none
  payloadPatternLength :=
    match ty with
    | .tsnHigh | .tsnLow | .rtc | .rta | .l2 => payloadSize (cfg.cls ty).frameLength
    | _ => 0

/-- `__stat_init` and `histogram_init`, the allocations assumed to succeed. -/
def statInit (cfg : AppConfig) (mirrorMode : Bool) : StatPrivate where
  globalStatistics := fun _ => { roundTripMin := UInt64.ofNat (2 ^ 64 - 1),
                                 onewayMin := UInt64.ofNat (2 ^ 64 - 1) }
  statisticsPerPeriod := fun _ => { roundTripMin := UInt64.ofNat (2 ^ 64 - 1),
                                    onewayMin := UInt64.ofNat (2 ^ 64 - 1) }
  roundTripContexts := fun ty =>
    ⟨fun _ => ⟨0, 0⟩, if mirrorMode then 0 else 1024 * (cfg.cls ty).numFramesPerCycle⟩
  rttExpectedRtLimit := cfg.applicationBaseCycleTimeNs * 2 / 1000
  histograms := fun _ =>
    ⟨cfg.statsHistogramMinimumNs / 1000, cfg.statsHistogramMaximumNs / 1000, fun _ => 0, 0, 0⟩
  published := []

/-- The world of a class when its thread starts. -/
def World.fresh (env : Env C D) (ty : FrameType) (ctx : C) (dev : D) : World C D where
  thread := threadSetup env.app ty ctx ctx
  stat := statInit env.app env.mirrorMode
  tx := ⟨[], dev, [], [], []⟩
  log := []
  ticks := 0
  seals := []

/-! ## A small setting

A configuration, a device that takes every packet and a clock that advances by
one microsecond, for runs on concrete frames. -/

def takeAll : TxDevice Unit where
  txBurst _ pkts := (pkts.length, ())
  txBurst_le _ _ := Nat.le_refl _

theorem takeAll_reliable : takeAll.Reliable := by
  intro q hq
  have hloop : (flushLoop takeAll (100 * (q.pkts.length + 1) + 1) 0 q.dev q.pkts).2.1 = [] := by
    rw [show 100 * (q.pkts.length + 1) + 1 = 100 * q.pkts.length + 99 + 1 + 1 by omega, flushLoop]
    cases hp : q.pkts with
    | nil => rfl
    | cons m ms => simp [takeAll, flushLoop]
  simp only [lportTxBufferFlush, hq, hloop, List.append_nil]

def ClassConfig.small (mode : SecurityMode) (frameLength n : UInt64) (pattern : List UInt8) :
    ClassConfig where
  enabled := true
  vid := 100
  pcp := 6
  numFramesPerCycle := n
  payloadPattern := pattern
  frameLength := frameLength
  securityMode := mode
  securityAlgorithm := .aes128Gcm
  securityKey := List.replicate 16 7
  securityIvPrefix := [1, 2, 3, 4, 5, 6]
  destination := #v[2, 0, 0, 0, 0, 2]
  udpSource := []
  udpDestination := []
  udpSrcPort := 0
  udpPort := 0

/-- All classes but L2, with the same values. -/
def AppConfig.small (mode : SecurityMode) (frameLength n : UInt64) (pattern : List UInt8) :
    AppConfig where
  cls := fun ty => { ClassConfig.small mode frameLength n pattern with enabled := decide (ty ≠ .l2) }
  l2EtherType := 0xb62c
  applicationBaseCycleTimeNs := 1000000
  applicationTxBaseOffsetNs := 600000
  applicationRxBaseOffsetNs := 200000
  debugStopTraceOnOutlier := false
  logViaMqtt := false
  statsHistogramEnabled := false
  statsHistogramMinimumNs := 0
  statsHistogramMaximumNs := 0
  statsCollectionIntervalNs := 1000000000

def Env.small (app : AppConfig) (mirrorMode : Bool) : Env DigestCtx Unit where
  app := app
  mirrorMode := mirrorMode
  withMqtt := false
  evp := digestEvp
  dev := takeAll
  clock := fun i => 1000 * UInt64.ofNat i
  mac := #v[2, 0, 0, 0, 0, 1]

/-! ## Field lemmas -/

@[simp] theorem World.say_thread (w : World C D) (es : List LogEntry) :
    (w.say es).thread = w.thread := rfl
@[simp] theorem World.say_stat (w : World C D) (es : List LogEntry) :
    (w.say es).stat = w.stat := rfl
@[simp] theorem World.say_tx (w : World C D) (es : List LogEntry) : (w.say es).tx = w.tx := rfl
@[simp] theorem World.say_ticks (w : World C D) (es : List LogEntry) :
    (w.say es).ticks = w.ticks := rfl
@[simp] theorem World.say_seals (w : World C D) (es : List LogEntry) :
    (w.say es).seals = w.seals := rfl
@[simp] theorem World.say_log (w : World C D) (es : List LogEntry) :
    (w.say es).log = w.log ++ es := rfl

@[simp] theorem World.tick_thread (w : World C D) : w.tick.thread = w.thread := rfl
@[simp] theorem World.tick_stat (w : World C D) : w.tick.stat = w.stat := rfl
@[simp] theorem World.tick_tx (w : World C D) : w.tick.tx = w.tx := rfl
@[simp] theorem World.tick_log (w : World C D) : w.tick.log = w.log := rfl
@[simp] theorem World.tick_seals (w : World C D) : w.tick.seals = w.seals := rfl
@[simp] theorem World.tick_ticks (w : World C D) : w.tick.ticks = w.ticks + 1 := rfl

@[simp] theorem World.setRx_rx (w : World C D) (v : UInt64) :
    (w.setRx v).thread.rxSequenceCounter = v := rfl
@[simp] theorem World.setRx_tx (w : World C D) (v : UInt64) : (w.setRx v).tx = w.tx := rfl
@[simp] theorem World.setRx_stat (w : World C D) (v : UInt64) : (w.setRx v).stat = w.stat := rfl
@[simp] theorem World.setRx_log (w : World C D) (v : UInt64) : (w.setRx v).log = w.log := rfl
@[simp] theorem World.setRx_ticks (w : World C D) (v : UInt64) : (w.setRx v).ticks = w.ticks := rfl
@[simp] theorem World.setRx_seals (w : World C D) (v : UInt64) : (w.setRx v).seals = w.seals := rfl

@[simp] theorem World.enqueue_thread (env : Env C D) (w : World C D) (m : Mbuf) :
    (w.enqueue env m).thread = w.thread := rfl
@[simp] theorem World.enqueue_stat (env : Env C D) (w : World C D) (m : Mbuf) :
    (w.enqueue env m).stat = w.stat := rfl
@[simp] theorem World.enqueue_log (env : Env C D) (w : World C D) (m : Mbuf) :
    (w.enqueue env m).log = w.log := rfl
@[simp] theorem World.enqueue_ticks (env : Env C D) (w : World C D) (m : Mbuf) :
    (w.enqueue env m).ticks = w.ticks := rfl
@[simp] theorem World.enqueue_seals (env : Env C D) (w : World C D) (m : Mbuf) :
    (w.enqueue env m).seals = w.seals := rfl
@[simp] theorem World.enqueue_added (env : Env C D) (w : World C D) (m : Mbuf) :
    (w.enqueue env m).tx.added = w.tx.added ++ [m] :=
  lportTxBufferAdd_added env.dev w.tx m

/-- A statistics call touches the statistics and the log only. -/
theorem World.applyStat_ok {w w' : World C D} {r : Result} (h : w.applyStat r = .ok w') :
    r.halt = none ∧ w' = { w with stat := r.stat, log := w.log ++ r.log } := by
  unfold World.applyStat at h
  cases hr : r.halt with
  | some reason =>
    rw [hr] at h
    cases h
  | none =>
    rw [hr] at h
    cases h
    exact ⟨rfl, rfl⟩

end Rtdk.Thread
