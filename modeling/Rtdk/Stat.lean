import Rtdk.NetDef

/-! Frame statistics (`stat.c`, `hist.c`).

Every sent and every received frame passes through `statFrameSent` and
`statFrameReceived`. In reference mode a sent frame leaves its time stamp in a
backlog ring, and a received frame takes its round-trip sample from there. The
one-way sample is taken in both modes from the time stamp the frame carries.
The clock reading is an argument; `Result` carries the log calls made and says
whether the process ended. The averages, which are only printed, are not
modelled; the `double` sums are (`toDouble`). -/

namespace Rtdk.Stat
open Rtdk.NetDef

/-! ## Log calls and process ends -/

inductive LogLevel
  | error
  | warning
  | info
  | debug
  deriving DecidableEq, Repr

inductive LogArg
  | str (s : String)
  | num (v : UInt64)
  | bytes (bs : List UInt8)
  deriving DecidableEq, Repr

/-- One call of `log_message`: level, format string and arguments. -/
structure LogEntry where
  level : LogLevel
  format : String
  args : List LogArg
  deriving DecidableEq, Repr

/-- Ways the process ends inside a frame handler. -/
inductive Halt
  /-- `exit(EXIT_SUCCESS)` after an outlier, if configured. -/
  | exit
  /-- Access through a pointer that was never set. -/
  | sigsegv
  /-- Integer division by zero. -/
  | sigfpe
  /-- Access past the end of an array on the stack. -/
  | overrun
  deriving DecidableEq, Repr

/-! ## State -/

/-- A nonnegative integer rounded to 53 significant bits, ties to even: the
value a `double` holds. -/
def toDouble (n : Nat) : Nat :=
  let e := n.log2 - 52
  let q := n / 2 ^ e
  let r := n % 2 ^ e
  if 2 * r < 2 ^ e ∨ (2 * r = 2 ^ e ∧ q % 2 = 0) then q * 2 ^ e else (q + 1) * 2 ^ e

structure Statistics where
  firstTimeStamp : UInt64 := 0
  lastTimeStamp : UInt64 := 0
  framesSent : UInt64 := 0
  framesReceived : UInt64 := 0
  outOfOrderErrors : UInt64 := 0
  frameIdErrors : UInt64 := 0
  payloadErrors : UInt64 := 0
  roundTripMin : UInt64 := 0
  roundTripMax : UInt64 := 0
  roundTripCount : UInt64 := 0
  roundTripOutliers : UInt64 := 0
  roundTripSum : Nat := 0
  onewayMin : UInt64 := 0
  onewayMax : UInt64 := 0
  onewayCount : UInt64 := 0
  onewayOutliers : UInt64 := 0
  onewaySum : Nat := 0
  ready : Bool := false

/-- `backlog_t`. -/
structure Backlog where
  cycleNumber : UInt64
  timestamp : UInt64
  deriving DecidableEq, Repr

structure RoundTripContext where
  backlog : Nat → Backlog
  backlogLen : UInt64

structure Histogram where
  min : UInt64
  max : UInt64
  data : Nat → UInt64
  overflow : UInt64
  underflow : UInt64

/-- `stat_private` and the histograms. `published` lists the calls of
`log_via_mqtt_stats`. -/
structure StatPrivate where
  globalStatistics : FrameType → Statistics
  statisticsPerPeriod : FrameType → Statistics
  roundTripContexts : FrameType → RoundTripContext
  rttExpectedRtLimit : UInt64
  histograms : FrameType → Histogram
  published : List (FrameType × Statistics)

/-- What the statistics read of the build and of the configuration. -/
structure StatConfig where
  withMqtt : Bool
  mirrorMode : Bool
  statsHistogramEnabled : Bool
  statsCollectionIntervalNs : UInt64
  debugStopTraceOnOutlier : Bool

/-- The state after a statistics call, the log calls it made, and how the
process ended, if it did. -/
structure Result where
  stat : StatPrivate
  log : List LogEntry
  halt : Option Halt

def setAt {α : Type} (f : FrameType → α) (ty : FrameType) (v : α) : FrameType → α :=
  fun t => if t = ty then v else f t

@[simp] theorem setAt_same {α : Type} (f : FrameType → α) (ty : FrameType) (v : α) :
    setAt f ty v ty = v := by
  simp [setAt]

@[simp] theorem toUInt64_false : false.toUInt64 = 0 := rfl
@[simp] theorem toUInt64_true : true.toUInt64 = 1 := rfl

/-! ## Samples -/

def statUpdateMin (v min : UInt64) : UInt64 := if v < min then v else min
def statUpdateMax (v max : UInt64) : UInt64 := if v > max then v else max

/-- A round-trip sample, in microseconds. -/
def Statistics.addRoundTrip (st : Statistics) (realTime : Bool) (limit rtTime : UInt64) :
    Statistics :=
  { st with
    roundTripMin := statUpdateMin rtTime st.roundTripMin
    roundTripMax := statUpdateMax rtTime st.roundTripMax
    roundTripOutliers :=
      if realTime && decide (rtTime > limit) then st.roundTripOutliers + 1 else st.roundTripOutliers
    roundTripCount := st.roundTripCount + 1
    roundTripSum := toDouble (st.roundTripSum + toDouble rtTime.toNat) }

/-- A one-way sample, in microseconds. -/
def Statistics.addOneway (st : Statistics) (realTime : Bool) (limit onewayTime : UInt64) :
    Statistics :=
  { st with
    onewayMin := statUpdateMin onewayTime st.onewayMin
    onewayMax := statUpdateMax onewayTime st.onewayMax
    onewayOutliers :=
      if realTime && decide (onewayTime > limit / 2) then st.onewayOutliers + 1
      else st.onewayOutliers
    onewayCount := st.onewayCount + 1
    onewaySum := toDouble (st.onewaySum + toDouble onewayTime.toNat) }

def Statistics.addFrame (st : Statistics) (outOfOrder payloadMismatch frameIdMismatch : Bool) :
    Statistics :=
  { st with
    framesReceived := st.framesReceived + 1
    outOfOrderErrors := st.outOfOrderErrors + outOfOrder.toUInt64
    payloadErrors := st.payloadErrors + payloadMismatch.toUInt64
    frameIdErrors := st.frameIdErrors + frameIdMismatch.toUInt64 }

def Statistics.addSent (st : Statistics) : Statistics := { st with framesSent := st.framesSent + 1 }

def histogramUpdate (h : Histogram) (rtt : UInt64) : Histogram :=
  let sample := rtt - h.min
  if rtt ≥ h.max then { h with overflow := h.overflow + 1 }
  else if rtt < h.min then { h with underflow := h.underflow + 1 }
  else { h with data := Function.update h.data sample.toNat (h.data sample.toNat + 1) }

/-- `stats_reset_stats` writes these values (`USEC_PER_SEC / 4` for the minima). -/
def Statistics.reset : Statistics := { roundTripMin := 250000, onewayMin := 250000 }

/-- `stats_reset_stats` on a record of the per-period array: it clears the
record and then the whole per-period array. -/
def statsResetPerPeriod (s : StatPrivate) : StatPrivate :=
  { s with statisticsPerPeriod := fun _ => Statistics.reset }

/-! ## Per-period statistics (`WITH_MQTT` builds) -/

/-- The record of the current period after a received frame. -/
def Statistics.receivePerPeriod (cfg : StatConfig) (ty : FrameType) (limit : UInt64)
    (st : Statistics) (currTime rtTime onewayTime : UInt64)
    (outOfOrder payloadMismatch frameIdMismatch : Bool) : Statistics :=
  let st := if st.firstTimeStamp = 0 then { st with firstTimeStamp := currTime } else st
  let elapsed := currTime - st.firstTimeStamp
  let st :=
    if elapsed ≥ cfg.statsCollectionIntervalNs then
      { st with ready := true, lastTimeStamp := currTime }
    else st
  let st := if cfg.mirrorMode then st else st.addRoundTrip ty.isRealTime limit rtTime
  let st := st.addOneway ty.isRealTime limit onewayTime
  st.addFrame outOfOrder payloadMismatch frameIdMismatch

/-- Store the record; a finished period is handed over and cleared. -/
def storePeriod (s : StatPrivate) (ty : FrameType) (st : Statistics) : StatPrivate :=
  let s := { s with statisticsPerPeriod := setAt s.statisticsPerPeriod ty st }
  if st.ready then statsResetPerPeriod { s with published := s.published ++ [(ty, st)] } else s

def statFrameReceivedPerPeriod (cfg : StatConfig) (s : StatPrivate) (ty : FrameType)
    (currTime rtTime onewayTime : UInt64)
    (outOfOrder payloadMismatch frameIdMismatch : Bool) : StatPrivate :=
  if cfg.withMqtt then
    storePeriod s ty ((s.statisticsPerPeriod ty).receivePerPeriod cfg ty s.rttExpectedRtLimit
      currTime rtTime onewayTime outOfOrder payloadMismatch frameIdMismatch)
  else s

def statFrameSentPerPeriod (cfg : StatConfig) (s : StatPrivate) (ty : FrameType) : StatPrivate :=
  if cfg.withMqtt then
    let st := (s.statisticsPerPeriod ty).addSent
    { s with statisticsPerPeriod := setAt s.statisticsPerPeriod ty st }
  else s

/-! ## Sending -/

def statFrameSent (cfg : StatConfig) (s : StatPrivate) (ty : FrameType)
    (cycleNumber timestamp : UInt64) : Result :=
  let log := [⟨.debug, "%s: frame[%lu] sent\n", [.str ty.name, .num cycleNumber]⟩]
  let rtt := s.roundTripContexts ty
  if !cfg.mirrorMode && rtt.backlogLen == 0 then ⟨s, log, some .sigfpe⟩ else
  let s :=
    if cfg.mirrorMode then s else
    let i := (cycleNumber % rtt.backlogLen).toNat
    let rtt := { rtt with backlog := Function.update rtt.backlog i ⟨cycleNumber, timestamp⟩ }
    { s with roundTripContexts := setAt s.roundTripContexts ty rtt }
  let s := statFrameSentPerPeriod cfg s ty
  let st := (s.globalStatistics ty).addSent
  ⟨{ s with globalStatistics := setAt s.globalStatistics ty st }, log, none⟩

/-! ## Receiving -/

/-- State, sample, outlier flag and log calls of a round-trip sample. -/
structure RoundTrip where
  stat : StatPrivate
  rtTime : UInt64
  outlier : Bool
  log : List LogEntry

/-- The reference-mode part of `stat_frame_received`: take the round-trip
sample from the backlog entry and clear the entry. -/
def roundTripSample (cfg : StatConfig) (s : StatPrivate) (ty : FrameType)
    (cycleNumber currTime : UInt64) : RoundTrip :=
  let rtt := s.roundTripContexts ty
  let i := (cycleNumber % rtt.backlogLen).toNat
  let b := rtt.backlog i
  let rtTime := (currTime - b.timestamp) / 1000
  let st := (s.globalStatistics ty).addRoundTrip ty.isRealTime s.rttExpectedRtLimit rtTime
  let hist := if cfg.statsHistogramEnabled then histogramUpdate (s.histograms ty) rtTime
    else s.histograms ty
  { stat :=
      { s with
        roundTripContexts :=
          setAt s.roundTripContexts ty { rtt with backlog := Function.update rtt.backlog i ⟨0, 0⟩ }
        globalStatistics := setAt s.globalStatistics ty st
        histograms := setAt s.histograms ty hist }
    rtTime := rtTime
    outlier := ty.isRealTime && decide (rtTime > s.rttExpectedRtLimit)
    log :=
      if b.cycleNumber = cycleNumber then [] else
        [⟨.debug, "%s: frame[%'lu] != cycle_number %'lu\n",
          [.str ty.name, .num cycleNumber, .num b.cycleNumber]⟩] }

/-- The receive time used for the one-way sample: a frame from the future is
taken to have arrived when it was sent. -/
def onewayEnd (currTime txTimestamp : UInt64) : UInt64 :=
  if currTime < txTimestamp then txTimestamp else currTime

/-- The one-way sample of `stat_frame_received`, in microseconds. -/
def onewayTime (currTime txTimestamp : UInt64) : UInt64 :=
  (onewayEnd currTime txTimestamp - txTimestamp) / 1000

def onewayLog (ty : FrameType) (cycleNumber currTime txTimestamp : UInt64) (late : Bool) :
    List LogEntry :=
  (if currTime < txTimestamp then
    [⟨.warning, "%-8s: frame[%'lu] curr:%'lu timestamp:%'18lu\n",
      [.str ty.name, .num cycleNumber, .num currTime, .num txTimestamp]⟩]
  else []) ++
  (if late then
    [⟨.debug, "%s: frame[%'lu] oneway outlier %'luus\n",
      [.str ty.name, .num cycleNumber, .num (onewayTime currTime txTimestamp)]⟩]
  else [])

/-- The round-trip part of `stat_frame_received`; a mirror takes no sample. -/
def roundTrip (cfg : StatConfig) (s : StatPrivate) (ty : FrameType)
    (cycleNumber currTime : UInt64) : RoundTrip :=
  if cfg.mirrorMode then ⟨s, 0, false, []⟩ else roundTripSample cfg s ty cycleNumber currTime

/-- The one-way sample and the per-period statistics. -/
def oneway (cfg : StatConfig) (rt : RoundTrip) (ty : FrameType)
    (outOfOrder payloadMismatch frameIdMismatch : Bool) (txTimestamp currTime : UInt64) :
    StatPrivate :=
  let s := rt.stat
  let sample := onewayTime currTime txTimestamp
  let st := (s.globalStatistics ty).addOneway ty.isRealTime s.rttExpectedRtLimit sample
  statFrameReceivedPerPeriod cfg { s with globalStatistics := setAt s.globalStatistics ty st } ty
    (onewayEnd currTime txTimestamp) rt.rtTime sample outOfOrder payloadMismatch frameIdMismatch

/-- A one-way sample of more than half the round-trip limit. -/
def isLate (s : StatPrivate) (ty : FrameType) (sample : UInt64) : Bool :=
  ty.isRealTime && decide (sample > s.rttExpectedRtLimit / 2)

def statFrameReceived (cfg : StatConfig) (s : StatPrivate) (ty : FrameType)
    (cycleNumber : UInt64) (outOfOrder payloadMismatch frameIdMismatch : Bool)
    (txTimestamp currTime : UInt64) : Result :=
  let received : LogEntry := ⟨.debug, "%s: frame[%lu] received\n", [.str ty.name, .num cycleNumber]⟩
  if !cfg.mirrorMode && (s.roundTripContexts ty).backlogLen == 0 then
    ⟨s, [received], some .sigfpe⟩
  else
  let rt := roundTrip cfg s ty cycleNumber currTime
  let late := isLate rt.stat ty (onewayTime currTime txTimestamp)
  let s := oneway cfg rt ty outOfOrder payloadMismatch frameIdMismatch txTimestamp currTime
  let stop := cfg.debugStopTraceOnOutlier && (rt.outlier || late)
  let st := (s.globalStatistics ty).addFrame outOfOrder payloadMismatch frameIdMismatch
  { stat := if stop then s else { s with globalStatistics := setAt s.globalStatistics ty st }
    log := received :: (rt.log ++ onewayLog ty cycleNumber currTime txTimestamp late)
    halt := if stop then some .exit else none }

/-! ## What a received frame does to the statistics of its class -/

theorem perPeriod_other (cfg : StatConfig) (s : StatPrivate) (ty : FrameType)
    (now rt ow : UInt64) (o p f : Bool) :
    (statFrameReceivedPerPeriod cfg s ty now rt ow o p f).globalStatistics = s.globalStatistics ∧
      (statFrameReceivedPerPeriod cfg s ty now rt ow o p f).roundTripContexts =
        s.roundTripContexts := by
  unfold statFrameReceivedPerPeriod storePeriod
  cases cfg.withMqtt with
  | false => exact ⟨rfl, rfl⟩
  | true =>
    simp only [if_true]
    split <;> exact ⟨rfl, rfl⟩

/-- Round-trip sampling touches the round-trip fields and a backlog entry. -/
theorem roundTrip_stat (cfg : StatConfig) (s : StatPrivate) (ty : FrameType) (n now : UInt64) :
    ((roundTrip cfg s ty n now).stat.globalStatistics ty).outOfOrderErrors =
        (s.globalStatistics ty).outOfOrderErrors ∧
      ((roundTrip cfg s ty n now).stat.globalStatistics ty).framesReceived =
        (s.globalStatistics ty).framesReceived ∧
      ((roundTrip cfg s ty n now).stat.roundTripContexts ty).backlogLen =
        (s.roundTripContexts ty).backlogLen := by
  unfold roundTrip
  cases cfg.mirrorMode with
  | true => exact ⟨rfl, rfl, rfl⟩
  | false => simp [roundTripSample, Statistics.addRoundTrip]

theorem oneway_global (cfg : StatConfig) (rt : RoundTrip) (ty : FrameType) (o p f : Bool)
    (ts now : UInt64) :
    (oneway cfg rt ty o p f ts now).globalStatistics ty =
        (rt.stat.globalStatistics ty).addOneway ty.isRealTime rt.stat.rttExpectedRtLimit
          (onewayTime now ts) ∧
      (oneway cfg rt ty o p f ts now).roundTripContexts = rt.stat.roundTripContexts := by
  unfold oneway
  simp only
  rw [(perPeriod_other _ _ _ _ _ _ _ _ _).1, (perPeriod_other _ _ _ _ _ _ _ _ _).2]
  exact ⟨setAt_same _ _ _, rfl⟩

/-- A frame that does not end the process adds its samples and its errors. -/
theorem statFrameReceived_global {cfg : StatConfig} {s : StatPrivate} {ty : FrameType} {n : UInt64}
    {o p f : Bool} {ts now : UInt64} (h : (statFrameReceived cfg s ty n o p f ts now).halt = none) :
    (statFrameReceived cfg s ty n o p f ts now).stat.globalStatistics ty =
        (((roundTrip cfg s ty n now).stat.globalStatistics ty).addOneway ty.isRealTime
          (roundTrip cfg s ty n now).stat.rttExpectedRtLimit (onewayTime now ts)).addFrame o p f ∧
      (statFrameReceived cfg s ty n o p f ts now).stat.roundTripContexts =
        (roundTrip cfg s ty n now).stat.roundTripContexts := by
  unfold statFrameReceived at h ⊢
  simp only at h ⊢
  split at h
  · cases h
  · rename_i hz
    rw [if_neg hz]
    have ho := oneway_global cfg (roundTrip cfg s ty n now) ty o p f ts now
    split at h
    · cases h
    · rename_i hstop
      simp only [hstop, Bool.false_eq_true, if_false]
      rw [setAt_same, ho.1, ho.2]
      exact ⟨rfl, rfl⟩

/-- Only a division by zero or a configured outlier ends the process. -/
theorem statFrameReceived_halt (cfg : StatConfig) (s : StatPrivate) (ty : FrameType) (n : UInt64)
    (o p f : Bool) (ts now : UInt64)
    (hb : cfg.mirrorMode = true ∨ (s.roundTripContexts ty).backlogLen ≠ 0) :
    (statFrameReceived cfg s ty n o p f ts now).halt = none ∨
      (statFrameReceived cfg s ty n o p f ts now).halt = some .exit ∧
        cfg.debugStopTraceOnOutlier = true := by
  have hz : ¬ (!cfg.mirrorMode && (s.roundTripContexts ty).backlogLen == 0) = true := by
    rcases hb with hm | hl
    · simp [hm]
    · simp [hl]
  unfold statFrameReceived
  simp only [if_neg hz]
  split
  · rename_i hstop
    simp only [Bool.and_eq_true] at hstop
    exact Or.inr ⟨rfl, hstop.1⟩
  · exact Or.inl rfl

/-- The texts `stat_frame_received` logs. -/
def receivedFormats : List String :=
  ["%s: frame[%lu] received\n", "%s: frame[%'lu] != cycle_number %'lu\n",
    "%-8s: frame[%'lu] curr:%'lu timestamp:%'18lu\n", "%s: frame[%'lu] oneway outlier %'luus\n"]

theorem onewayLog_formats (ty : FrameType) (n now ts : UInt64) (late : Bool) (e : LogEntry)
    (h : e ∈ onewayLog ty n now ts late) : e.format ∈ receivedFormats := by
  unfold onewayLog at h
  rcases List.mem_append.mp h with h | h
  · split at h
    · rw [List.mem_singleton.mp h]
      simp [receivedFormats]
    · cases h
  · split at h
    · rw [List.mem_singleton.mp h]
      simp [receivedFormats]
    · cases h

theorem roundTrip_formats (cfg : StatConfig) (s : StatPrivate) (ty : FrameType) (n now : UInt64)
    (e : LogEntry) (h : e ∈ (roundTrip cfg s ty n now).log) : e.format ∈ receivedFormats := by
  unfold roundTrip at h
  split at h
  · cases h
  · simp only [roundTripSample] at h
    split at h
    · cases h
    · rw [List.mem_singleton.mp h]
      simp [receivedFormats]

theorem statFrameReceived_formats (cfg : StatConfig) (s : StatPrivate) (ty : FrameType)
    (n : UInt64) (o p f : Bool) (ts now : UInt64) (e : LogEntry)
    (h : e ∈ (statFrameReceived cfg s ty n o p f ts now).log) : e.format ∈ receivedFormats := by
  have hreceived : ∀ x : LogEntry,
      x = ⟨.debug, "%s: frame[%lu] received\n", [.str ty.name, .num n]⟩ →
        x.format ∈ receivedFormats := by
    intro x hx
    rw [hx]
    simp [receivedFormats]
  unfold statFrameReceived at h
  simp only at h
  split at h
  · exact hreceived e (List.mem_singleton.mp h)
  · rcases List.mem_cons.mp h with h | h
    · exact hreceived e h
    · rcases List.mem_append.mp h with h | h
      · exact roundTrip_formats cfg s ty n now e h
      · exact onewayLog_formats ty n now ts _ e h

/-! ## What a sent frame does -/

/-- A sent frame ends the process only by a division by zero, and keeps the
size of the backlog. -/
theorem statFrameSent_spec (cfg : StatConfig) (s : StatPrivate) (ty : FrameType) (n now : UInt64)
    (hb : cfg.mirrorMode = true ∨ (s.roundTripContexts ty).backlogLen ≠ 0) :
    (statFrameSent cfg s ty n now).halt = none ∧
      ((statFrameSent cfg s ty n now).stat.roundTripContexts ty).backlogLen =
        (s.roundTripContexts ty).backlogLen := by
  have hz : ¬ (!cfg.mirrorMode && (s.roundTripContexts ty).backlogLen == 0) = true := by
    rcases hb with hm | hl
    · simp [hm]
    · simp [hl]
  have hper (s : StatPrivate) :
      (statFrameSentPerPeriod cfg s ty).roundTripContexts = s.roundTripContexts := by
    unfold statFrameSentPerPeriod
    split <;> rfl
  unfold statFrameSent
  simp only [if_neg hz, hper, true_and]
  split
  · rfl
  · simp

/-- A sent frame is not an error. -/
theorem statFrameSent_errors (cfg : StatConfig) (s : StatPrivate) (ty : FrameType)
    (n now : UInt64) :
    ((statFrameSent cfg s ty n now).stat.globalStatistics ty).outOfOrderErrors =
      (s.globalStatistics ty).outOfOrderErrors := by
  have hper (s : StatPrivate) :
      (statFrameSentPerPeriod cfg s ty).globalStatistics = s.globalStatistics := by
    unfold statFrameSentPerPeriod
    split <;> rfl
  unfold statFrameSent
  simp only
  split
  · rfl
  · simp only [setAt_same, Statistics.addSent, hper]
    split <;> rfl

/-! ## The limit -/

theorem statFrameSent_limit (cfg : StatConfig) (s : StatPrivate) (ty : FrameType)
    (n now : UInt64) :
    (statFrameSent cfg s ty n now).stat.rttExpectedRtLimit = s.rttExpectedRtLimit := by
  unfold statFrameSent statFrameSentPerPeriod
  simp only
  split
  · rfl
  · cases cfg.withMqtt <;> cases cfg.mirrorMode <;> rfl

theorem statFrameReceived_limit (cfg : StatConfig) (s : StatPrivate) (ty : FrameType)
    (n : UInt64) (o p f : Bool) (ts now : UInt64) :
    (statFrameReceived cfg s ty n o p f ts now).stat.rttExpectedRtLimit = s.rttExpectedRtLimit := by
  have hrt : (roundTrip cfg s ty n now).stat.rttExpectedRtLimit = s.rttExpectedRtLimit := by
    unfold roundTrip
    split <;> rfl
  have how : (oneway cfg (roundTrip cfg s ty n now) ty o p f ts now).rttExpectedRtLimit =
      s.rttExpectedRtLimit := by
    unfold oneway statFrameReceivedPerPeriod storePeriod
    simp only
    split
    · split <;> exact hrt
    · exact hrt
  unfold statFrameReceived
  simp only
  split
  · rfl
  · split <;> exact how

end Rtdk.Stat
