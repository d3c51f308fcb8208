import Rtdk.CString
import Rtdk.Runs
import Rtdk.Smear

/-! The command line of the round-trip tool (`ratt/parse-args.c`).

`getopt_long` turns the command line into options with their arguments, and
`parse_args` works through them in this order. Most options check their argument
and set fields of `info_t`. Two of them start a logger on the spot: `log_init`
and `mqtt_init` create a ring for the time differences of two seconds, which
they size by the cycle time. -/

namespace Rtdk.RattArgs
open Rtdk.CString Rtdk.Runs Rtdk.Smear

/-! ## Settings -/

/-- `rt_workload`; its `workload_argv` is what `strqtok` makes of `args`. -/
structure Workload where
  enabled : Bool
  file : Option CStr
  func : Option CStr
  args : CStr
deriving DecidableEq, Repr

/-- The fields of `info_t` that `parse_args` sets. -/
structure Info where
  cycleTimeNs : UInt64
  delaySec : UInt16
  burstCount : UInt16
  pktLength : UInt16
  linkSpeed : UInt32
  pktSkipCnt : UInt32
  runDurationSec : UInt32
  burstLengthStr : Option CStr
  runDurationStr : CStr
  destMacStr : CStr
  mirrorEnabled : Bool
  logEnabled : Bool
  mqttEnabled : Bool
  deltasEnabled : Bool
  mirrorSerialEnabled : Bool
  internalDebugEnabled : Bool
  promiscuousMode : Bool
  continueOnError : Bool
  rtWorkload : Workload
deriving DecidableEq, Repr

/-- `info_t` with what the two loggers keep: the sizes of their rings for time
differences, and the name of the log file. -/
structure State where
  info : Info
  logDelta : Option UInt32
  logFile : Option CStr
  mqttDelta : Option UInt32
deriving DecidableEq, Repr

inductive Opt
  | reference
  | mirror
  | cycleTime (optarg : CStr)
  | burstLength (optarg : CStr)
  | destMac (optarg : CStr)
  | logFile (optarg : CStr)
  | mqtt
  | deltas
  | linkSpeed (optarg : CStr)
  | runDuration (optarg : CStr)
  | promiscuous
  | mirrorSerial
  | internalDebug
  | help
  | skipCount (optarg : CStr)
  | delayTime (optarg : CStr)
  | continueOnErr
  | workload (optarg : CStr)
  | unknown
deriving DecidableEq, Repr

/-- What `getopt_long` returns for an option. -/
def Opt.val : Opt → Nat
  | .skipCount _ => 0
  | .delayTime _ => 1
  | .continueOnErr => 2
  | .unknown => 63
  | .destMac _ => 100
  | .burstLength _ => 98
  | .cycleTime _ => 99
  | .help => 104
  | .internalDebug => 105
  | .logFile _ => 108
  | .mirror => 109
  | .reference => 114
  | .linkSpeed _ => 115
  | .workload _ => 119
  | .deltas => 68
  | .mqtt => 77
  | .promiscuous => 80
  | .runDuration _ => 82
  | .mirrorSerial => 83

/-- How the tool can end while it parses: `rte_exit` or `exit`, or a division by
zero. -/
inductive Failure
  | rejected
  | divisionByZero
deriving DecidableEq, Repr

instance decEqExcept {ε α : Type} [DecidableEq ε] [DecidableEq α] : DecidableEq (Except ε α)
  | .error e, .error e' => decidable_of_iff (e = e') ⟨congrArg _, Except.error.inj⟩
  | .error _, .ok _ => isFalse nofun
  | .ok _, .error _ => isFalse nofun
  | .ok a, .ok a' => decidable_of_iff (a = a') ⟨congrArg _, Except.ok.inj⟩

/-- What the tool finds around it: memory for the two pools and the MQTT message,
files that can be written, and workloads that can be loaded. -/
structure Env where
  logPool : Bool
  mqttPool : Bool
  mqttMessage : Bool
  fopen : CStr → Bool
  dlopen : Option CStr → Bool
  dlsym : Option CStr → Option CStr → Bool

/-! ## Arguments -/

/-- The base `strtoul` takes for 0: a number may start with `0x` or `0`. -/
def autoBase (s : CStr) : Nat :=
  let s := (scanSign (s.dropWhile isspace)).2
  if hasHexMark s && (s.drop 2).head?.any (isDigit 16) then 16
  else if s.head? = some 48 then 8
  else 10

/-- A number up to `max`, as the options check it. -/
def wholeNumber (max : UInt64) (s : CStr) : Option UInt64 :=
  let r := strtoul (autoBase s) s
  if r.whole && r.value ≤ max then some r.value else none

/-- One `%u` or `%hu` before it is cut. -/
def scanDecimal (s : CStr) : Option (UInt64 × CStr) :=
  let r := strtoul 10 s
  r.rest.map fun rest => (r.value, rest)

/-- `n` conversions of `%u` with colons between them. -/
def scanDecimals : Nat → CStr → Option (List UInt32)
  | 0, _ => some []
  | 1, s => (scanDecimal s).map fun r => [r.1.toUInt32]
  | n + 2, s =>
    match scanDecimal s with
    | some (x, 58 :: s) => (scanDecimals (n + 1) s).map (x.toUInt32 :: ·)
    | _ => none

def countChr (s : CStr) (c : UInt8) : Nat := s.count c

def maxBurstCount : UInt16 := 2 * 1024

def fcsSize : UInt16 := 4

/-- The argument of `-b`: burst count, and packet length without the FCS. -/
def burstLength (s : CStr) : Option (UInt16 × UInt16) :=
  if countChr s 47 ≠ 1 then none
  else
    match scanDecimal s with
    | some (count, 47 :: s) =>
      (scanDecimal s).bind fun (length, _) =>
        let burstCount := count.toUInt16
        let pktLength := length.toUInt16
        if burstCount > maxBurstCount then none
        else
          let pktLength :=
            if pktLength > 1536 then 1536 else if pktLength < 64 then 64 else pktLength
          some (burstCount, pktLength - fcsSize)
    | _ => none

/-- The digits of a number, at least `width` of them. -/
def padded (width : Nat) (n : UInt32) : CStr :=
  let digits := (Nat.toDigits 10 n.toNat).map fun c => UInt8.ofNat c.toNat
  List.replicate (width - digits.length) 48 ++ digits

/-- Hours, minutes and seconds of a duration. Leading colons stand for parts that
are left out. -/
def scanDuration (s : CStr) : Option (UInt32 × UInt32 × UInt32) :=
  let fields := match countChr s 58 with
    | 0 => scanDecimals 1 s
    | 1 => if s.head? = some 58 then scanDecimals 1 s.tail else scanDecimals 2 s
    | 2 =>
      if s.take 2 = [58, 58] then scanDecimals 1 (s.drop 2)
      else if s.head? = some 58 then scanDecimals 2 s.tail
      else scanDecimals 3 s
    | _ => none
  match fields with
  | some [seconds] => some (0, 0, seconds)
  | some [minutes, seconds] => some (0, minutes, seconds)
  | some [hours, minutes, seconds] => some (hours, minutes, seconds)
  | _ => none

/-- `process_duration`: the duration in seconds and as a text. -/
def processDuration (s : CStr) : Option (UInt32 × CStr) :=
  (scanDuration s).bind fun (hours, minutes, seconds) =>
    if hours > 99999 ∨ minutes > 59 ∨ seconds > 59 then none
    else some (hours * 3600 + minutes * 60 + seconds,
      padded 3 hours ++ [58] ++ padded 2 minutes ++ [58] ++ padded 2 seconds)

def workloadMaxArgs : Nat := 1024

/-- `strtok` with a comma: the non-empty pieces between commas. -/
def commaTokens (s : CStr) : List CStr := (s.splitOn 44).filter (· ≠ [])

/-- `strncat` to a buffer of `workloadMaxArgs` bytes. -/
def catArgs (args token : CStr) : CStr := args ++ token.take (workloadMaxArgs - args.length - 1)

def workloadToken (w : Workload × Bool) (token : CStr) : Workload × Bool :=
  let (w, firstExtra) := w
  if (lit "file=").isPrefixOf token then ({ w with file := some (token.drop 5) }, firstExtra)
  else if (lit "func=").isPrefixOf token then ({ w with func := some (token.drop 5) }, firstExtra)
  else
    let args := if firstExtra then w.args else catArgs w.args [44]
    ({ w with args := catArgs args token }, false)

/-- `process_workload`. -/
def processWorkload (env : Env) (s : CStr) (w : Workload) : Option Workload :=
  let (w, _) := (commaTokens s).foldl workloadToken ({ w with args := [] }, true)
  if !env.dlopen w.file then none
  else if !env.dlsym w.file w.func then none
  else some { w with enabled := true }

/-! ## The rings -/

/-- `rte_ring_create`, as far as it depends on the size. -/
def rteRingCreate (count : UInt32) : Bool := (List.range 31).any fun k => count.toNat == 2 ^ k

def pow2roundup (x : UInt32) : UInt32 :=
  let x := x - 1
  let x := x ||| x >>> 1
  let x := x ||| x >>> 2
  let x := x ||| x >>> 4
  let x := x ||| x >>> 8
  let x := x ||| x >>> 16
  x + 1

def logRingSize : UInt32 := 2048

def nsPerS : UInt64 := 1000000000

/-- The entries of a ring for the time differences. -/
def deltaRingSize (cycleTimeNs : UInt64) : Except Failure UInt32 :=
  if cycleTimeNs = 0 then .error .divisionByZero
  else .ok (pow2roundup (nsPerS / cycleTimeNs * 2).toUInt32)

/-- `log_init`: nothing when it returns an error. -/
def logInit (env : Env) (s : State) (logfile : CStr) : Except Failure (Option State) :=
  if !rteRingCreate logRingSize then .ok none
  else if !env.logPool then .ok none
  else do
    let ringSize ← deltaRingSize s.info.cycleTimeNs
    if !rteRingCreate ringSize then .ok none
    else if !env.fopen logfile then .ok none
    else .ok (some { s with logDelta := some ringSize, logFile := some logfile })

/-- `mqtt_init`, likewise. -/
def mqttInit (env : Env) (s : State) : Except Failure (Option State) :=
  if !rteRingCreate logRingSize then .ok none
  else if !env.mqttPool then .ok none
  else do
    let ringSize ← deltaRingSize s.info.cycleTimeNs
    if !rteRingCreate ringSize then .ok none
    else if !env.mqttMessage then .ok none
    else .ok (some { s with mqttDelta := some ringSize })

/-! ## `parse_args` -/

/-- What an option that is not a logger sets. -/
inductive Setting
  | mirrorEnabled (v : Bool)
  | cycleTimeNs (v : UInt64)
  | burstLength (burstCount pktLength : UInt16) (str : CStr)
  | destMacStr (str : CStr)
  | deltasEnabled
  | linkSpeed (v : UInt32)
  | runDuration (seconds : UInt32) (str : CStr)
  | promiscuousMode
  | mirrorSerialEnabled
  | internalDebugEnabled
  | pktSkipCnt (v : UInt32)
  | delaySec (v : UInt16)
  | continueOnError
  | rtWorkload (w : Workload)

/-- What an option sets, or nothing where it exits. Only `-w` looks at `info_t`:
it keeps a file or function it is not given. -/
def settingOf (env : Env) (w : Workload) : Opt → Option Setting
  | .reference => some (.mirrorEnabled false)
  | .mirror => some (.mirrorEnabled true)
  | .cycleTime s => (wholeNumber (UInt64.ofNat (2 ^ 64 - 1)) s).map .cycleTimeNs
  | .burstLength s =>
    (burstLength s).map fun (burstCount, pktLength) => .burstLength burstCount pktLength s
  | .destMac s => some (.destMacStr s)
  | .deltas => some .deltasEnabled
  | .linkSpeed s => (wholeNumber 4294967295 s).map fun v => .linkSpeed v.toUInt32
  | .runDuration s => (processDuration s).map fun (seconds, str) => .runDuration seconds str
  | .promiscuous => some .promiscuousMode
  | .mirrorSerial => some .mirrorSerialEnabled
  | .internalDebug => some .internalDebugEnabled
  | .skipCount s => (wholeNumber 4294967295 s).map fun v => .pktSkipCnt v.toUInt32
  | .delayTime s => (wholeNumber 65535 s).map fun v => .delaySec v.toUInt16
  | .continueOnErr => some .continueOnError
  | .workload s => (processWorkload env s w).map .rtWorkload
  | .help | .unknown => none
  | .logFile _ | .mqtt => none

def Setting.put (i : Info) : Setting → Info
  | .mirrorEnabled v => { i with mirrorEnabled := v }
  | .cycleTimeNs v => { i with cycleTimeNs := v }
  | .burstLength burstCount pktLength str =>
    { i with burstCount := burstCount, pktLength := pktLength, burstLengthStr := some str }
  | .destMacStr str => { i with destMacStr := str }
  | .deltasEnabled => { i with deltasEnabled := true }
  | .linkSpeed v => { i with linkSpeed := v }
  | .runDuration seconds str => { i with runDurationSec := seconds, runDurationStr := str }
  | .promiscuousMode => { i with promiscuousMode := true }
  | .mirrorSerialEnabled => { i with mirrorSerialEnabled := true }
  | .internalDebugEnabled => { i with internalDebugEnabled := true }
  | .pktSkipCnt v => { i with pktSkipCnt := v }
  | .delaySec v => { i with delaySec := v }
  | .continueOnError => { i with continueOnError := true }
  | .rtWorkload w => { i with rtWorkload := w }

def orRejected {α : Type} : Option α → Except Failure α
  | some a => .ok a
  | none => .error .rejected

/-- One option. -/
def step (env : Env) (s : State) : Opt → Except Failure State
  | .logFile optarg => do
    let s ← if s.info.logEnabled then .ok s else (logInit env s optarg) >>= orRejected
    .ok { s with info := { s.info with logEnabled := true } }
  | .mqtt => do
    let s ← if s.info.mqttEnabled then .ok s else (mqttInit env s) >>= orRejected
    .ok { s with info := { s.info with mqttEnabled := true } }
  | o => (orRejected (settingOf env s.info.rtWorkload o)).map fun setting =>
    { s with info := setting.put s.info }

/-- The checks after the last option. -/
def requireOptions (s : State) : Except Failure State :=
  let i := s.info
  if i.rtWorkload.enabled && !i.mirrorSerialEnabled then .error .rejected
  else if i.rtWorkload.enabled && !i.mirrorEnabled then .error .rejected
  else if i.cycleTimeNs = 0 ∨ i.burstCount = 0 ∨ i.pktLength = 0 then .error .rejected
  else .ok s

/-- The settings before the first option. -/
def start : State where
  info :=
    { cycleTimeNs := 0, delaySec := 2, burstCount := 0, pktLength := 0
      linkSpeed := 4294967295
      pktSkipCnt := 10, runDurationSec := 0, burstLengthStr := none
      runDurationStr := lit "000:00:00", destMacStr := lit "FF:FF:FF:FF:FF:FF"
      mirrorEnabled := false, logEnabled := false, mqttEnabled := false, deltasEnabled := false
      mirrorSerialEnabled := false, internalDebugEnabled := false, promiscuousMode := false
      continueOnError := false
      rtWorkload := { enabled := false, file := none, func := none, args := [] } }
  logDelta := none
  logFile := none
  mqttDelta := none

def parseArgs (env : Env) (os : List Opt) : Except Failure State :=
  os.foldlM (step env) start >>= requireOptions

/-! ## Options that do not get to a ring

`-l` and `-M` exit before they size a ring when there is no memory for their
pool. All other options only set fields of their own. -/

/-- The fields an option sets: `-r` and `-m` share one. -/
def Opt.slot (o : Opt) : Nat := if o = .reference then Opt.val .mirror else o.val

def Setting.slot : Setting → Nat
  | .mirrorEnabled _ => Opt.val .mirror
  | .cycleTimeNs _ => Opt.val (.cycleTime [])
  | .burstLength _ _ _ => Opt.val (.burstLength [])
  | .destMacStr _ => Opt.val (.destMac [])
  | .deltasEnabled => Opt.val .deltas
  | .linkSpeed _ => Opt.val (.linkSpeed [])
  | .runDuration _ _ => Opt.val (.runDuration [])
  | .promiscuousMode => Opt.val .promiscuous
  | .mirrorSerialEnabled => Opt.val .mirrorSerial
  | .internalDebugEnabled => Opt.val .internalDebug
  | .pktSkipCnt _ => Opt.val (.skipCount [])
  | .delaySec _ => Opt.val (.delayTime [])
  | .continueOnError => Opt.val .continueOnErr
  | .rtWorkload _ => Opt.val (.workload [])

section settings

variable {env : Env} {w w' : Workload} {o : Opt} {p q : Setting} {i : Info}

theorem settingOf_slot (h : settingOf env w o = some p) : p.slot = o.slot := by
  cases o <;> simp only [settingOf, Option.map_eq_some_iff, Option.some.injEq] at h <;>
    first
      | (subst h; rfl)
      | (obtain ⟨v, -, rfl⟩ := h; rfl)
      | exact absurd h (by simp)

/-- Only `-w` depends on the workload. -/
theorem settingOf_congr (h : o.slot ≠ Opt.val (.workload [])) :
    settingOf env w o = settingOf env w' o := by
  cases o with
  | workload s => exact absurd rfl h
  | _ => rfl

theorem put_rtWorkload (h : p.slot ≠ Opt.val (.workload [])) :
    (p.put i).rtWorkload = i.rtWorkload := by
  cases p with
  | rtWorkload w => exact absurd rfl h
  | _ => rfl

/-- Settings of different fields can be made in either order. -/
theorem put_comm (h : p.slot ≠ q.slot) : q.put (p.put i) = p.put (q.put i) := by
  cases p <;> cases q <;> first | rfl | exact absurd rfl h

theorem put_enabled : (p.put i).logEnabled = i.logEnabled ∧ (p.put i).mqttEnabled = i.mqttEnabled := by
  cases p <;> exact ⟨rfl, rfl⟩

end settings

/-- An option that does not get to a ring. -/
def Quiet (env : Env) : Opt → Prop
  | .logFile _ => env.logPool = false
  | .mqtt => env.mqttPool = false
  | _ => True

/-- Neither logger has started. -/
def NotLogging (s : State) : Prop := s.info.logEnabled = false ∧ s.info.mqttEnabled = false

section quiet

variable {env : Env} {s t : State} {o a b : Opt}

theorem rteRingCreate_log : rteRingCreate logRingSize = true := by decide

/-- Such an option sets its fields or exits. -/
theorem step_quiet (hs : NotLogging s) (hq : Quiet env o) :
    step env s o = (orRejected (settingOf env s.info.rtWorkload o)).map fun p =>
      { s with info := p.put s.info } := by
  cases o with
  | logFile optarg =>
    have hpool : env.logPool = false := hq
    simp [step, hs.1, logInit, rteRingCreate_log, hpool, orRejected, settingOf, bind, Except.bind,
      Except.map]
  | mqtt =>
    have hpool : env.mqttPool = false := hq
    simp [step, hs.2, mqttInit, rteRingCreate_log, hpool, orRejected, settingOf, bind, Except.bind,
      Except.map]
  | _ => rfl

theorem step_quiet_cases (hs : NotLogging s) (hq : Quiet env o) :
    (settingOf env s.info.rtWorkload o = none ∧ step env s o = .error .rejected) ∨
      ∃ p, settingOf env s.info.rtWorkload o = some p ∧
        step env s o = .ok { s with info := p.put s.info } := by
  rw [step_quiet hs hq]
  cases settingOf env s.info.rtWorkload o with
  | none => exact .inl ⟨rfl, rfl⟩
  | some p => exact .inr ⟨p, rfl, rfl⟩

theorem NotLogging.put (hs : NotLogging s) (p : Setting) :
    NotLogging { s with info := p.put s.info } :=
  ⟨put_enabled.1.trans hs.1, put_enabled.2.trans hs.2⟩

theorem NotLogging.step (hs : NotLogging s) (hq : Quiet env o) (h : step env s o = .ok t) :
    NotLogging t ∧ t.logDelta = s.logDelta ∧ t.mqttDelta = s.mqttDelta := by
  rcases step_quiet_cases hs hq with ⟨-, hstep⟩ | ⟨p, -, hstep⟩
  · rw [hstep] at h
    cases h
  · rw [hstep] at h
    cases h
    exact ⟨hs.put p, rfl, rfl⟩

/-- After a setting of other fields, an option still does the same. -/
theorem step_after (hs : NotLogging s) (hq : Quiet env b) {p : Setting} (hslot : p.slot ≠ b.slot) :
    step env { s with info := p.put s.info } b =
      (orRejected (settingOf env s.info.rtWorkload b)).map fun q =>
        { s with info := q.put (p.put s.info) } := by
  rw [step_quiet (hs.put p) hq]
  by_cases hb : b.slot = Opt.val (.workload [])
  · rw [put_rtWorkload (by rw [← hb]; exact hslot)]
  · rw [settingOf_congr hb]

theorem step_comm (hs : NotLogging s) (ha : Quiet env a) (hb : Quiet env b)
    (hslot : a.slot ≠ b.slot) :
    (step env s a >>= fun t => step env t b) = (step env s b >>= fun t => step env t a) := by
  rcases step_quiet_cases hs ha with ⟨hna, hsa⟩ | ⟨p, hpa, hsa⟩ <;>
    rcases step_quiet_cases hs hb with ⟨hnb, hsb⟩ | ⟨q, hqb, hsb⟩
  · rw [hsa, hsb]
    rfl
  · have hq : q.slot ≠ a.slot := by
      rw [settingOf_slot hqb]
      exact hslot.symm
    have hafter := step_after hs ha hq
    rw [hna] at hafter
    rw [hsa, hsb]
    exact hafter.symm
  · have hp : p.slot ≠ b.slot := by
      rw [settingOf_slot hpa]
      exact hslot
    have hafter := step_after hs hb hp
    rw [hnb] at hafter
    rw [hsa, hsb]
    exact hafter
  · have hp : p.slot ≠ b.slot := by
      rw [settingOf_slot hpa]
      exact hslot
    have hq : q.slot ≠ a.slot := by
      rw [settingOf_slot hqb]
      exact hslot.symm
    have hpq : p.slot ≠ q.slot := by
      rw [settingOf_slot hqb]
      exact hp
    have hafter := step_after hs hb hp
    have hafter' := step_after hs ha hq
    rw [hqb] at hafter
    rw [hpa] at hafter'
    rw [hsa, hsb]
    refine hafter.trans (Eq.trans ?_ hafter'.symm)
    simp only [orRejected, Except.map, put_comm hpq]

end quiet

/-! ## Order -/

/-- Each option at most once, and not both modes. -/
structure WellFormed (os : List Opt) : Prop where
  once : (os.map Opt.val).Nodup
  mode : ¬ (.reference ∈ os ∧ .mirror ∈ os)

theorem slot_eq_iff {a b : Opt} :
    a.slot = b.slot → a.val = b.val ∨ a = .reference ∧ b = .mirror ∨ a = .mirror ∧ b = .reference := by
  intro h
  by_cases ha : a = .reference <;> by_cases hb : b = .reference
  · exact .inl (by rw [ha, hb])
  · rw [Opt.slot, Opt.slot, if_pos ha, if_neg hb] at h
    refine .inr (.inl ⟨ha, ?_⟩)
    cases b <;> first | rfl | simp [Opt.val] at h
  · rw [Opt.slot, Opt.slot, if_neg ha, if_pos hb] at h
    refine .inr (.inr ⟨?_, hb⟩)
    cases a <;> first | rfl | simp [Opt.val] at h
  · rw [Opt.slot, Opt.slot, if_neg ha, if_neg hb] at h
    exact .inl h

theorem WellFormed.slots {os : List Opt} (h : WellFormed os) :
    os.Pairwise fun a b => a.slot ≠ b.slot := by
  have hval : os.Pairwise fun a b => a.val ≠ b.val := List.pairwise_map.mp h.once
  refine hval.imp_of_mem ?_
  intro a b ha hb hab hslot
  rcases slot_eq_iff hslot with heq | ⟨rfl, rfl⟩ | ⟨rfl, rfl⟩
  · exact hab heq
  · exact h.mode ⟨ha, hb⟩
  · exact h.mode ⟨hb, ha⟩

/-- A result all orders of the options should share. -/
structure OrderFree (env : Env) (os : List Opt) : Prop where
  same : ∀ os', os'.Perm os → parseArgs env os' = parseArgs env os
  noZero : ∀ os', os'.Perm os → parseArgs env os' ≠ .error .divisionByZero
  rings : ∀ os', os'.Perm os → ∀ s, parseArgs env os' = .ok s →
    ∀ size, s.logDelta = some size ∨ s.mqttDelta = some size → ∃ k, size.toNat = 2 ^ k

section order

variable {env : Env} {os os' : List Opt}

theorem notLogging_start : NotLogging start := ⟨rfl, rfl⟩

/-- Parsing options that do not get to a ring. -/
theorem foldlM_quiet (hq : ∀ o ∈ os, Quiet env o) (s : State) (hs : NotLogging s) :
    os.foldlM (step env) s = .error .rejected ∨
      ∃ t, os.foldlM (step env) s = .ok t ∧ t.logDelta = s.logDelta ∧ t.mqttDelta = s.mqttDelta := by
  induction os generalizing s with
  | nil => exact .inr ⟨s, rfl, rfl, rfl⟩
  | cons o os ih =>
    have ho := hq o List.mem_cons_self
    rw [List.foldlM_cons]
    rcases step_quiet_cases hs ho with ⟨-, hstep⟩ | ⟨p, -, hstep⟩
    · rw [hstep]
      exact .inl rfl
    · rw [hstep]
      exact ih (fun b hb => hq b (List.mem_cons_of_mem o hb)) _ (hs.put p)

theorem requireOptions_cases (s : State) :
    requireOptions s = .ok s ∨ requireOptions s = .error .rejected := by
  unfold requireOptions
  simp only
  split
  · exact .inr rfl
  · split
    · exact .inr rfl
    · split
      · exact .inr rfl
      · exact .inl rfl

theorem parseArgs_quiet (hq : ∀ o ∈ os, Quiet env o) :
    parseArgs env os = .error .rejected ∨
      ∃ t, parseArgs env os = .ok t ∧ t.logDelta = none ∧ t.mqttDelta = none := by
  rw [parseArgs]
  rcases foldlM_quiet hq start notLogging_start with h | ⟨t, h, hlog, hmqtt⟩
  · rw [h]
    exact .inl rfl
  · rw [h]
    rcases requireOptions_cases t with hr | hr
    · exact .inr ⟨t, hr, hlog, hmqtt⟩
    · exact .inl hr

theorem orderFree_of_quiet (hos : WellFormed os) (hq : ∀ o ∈ os, Quiet env o) :
    OrderFree env os where
  same := by
    intro os' hperm
    rw [parseArgs, parseArgs]
    congr 1
    refine (foldlM_perm (P := NotLogging) (Q := Quiet env) ?_ ?_ ?_ hperm.symm hos.slots hq start
      notLogging_start).symm
    · intro s a t hs ha hstep
      exact (hs.step ha hstep).1
    · intro a b hab
      exact hab.symm
    · intro s a b hs ha hb hab
      exact step_comm hs ha hb hab
  noZero := by
    intro os' hperm hzero
    rcases parseArgs_quiet fun o ho => hq o (hperm.mem_iff.mp ho) with h | ⟨t, h, -⟩ <;>
      · rw [h] at hzero
        cases hzero
  rings := by
    intro os' hperm s hs size hsize
    rcases parseArgs_quiet fun o ho => hq o (hperm.mem_iff.mp ho) with h | ⟨t, h, hlog, hmqtt⟩
    · rw [h] at hs
      cases hs
    · rw [h] at hs
      cases hs
      simp [hlog, hmqtt] at hsize

/-- A logger that is named first sizes its ring by a cycle time of 0. -/
theorem step_start_zero {o : Opt} (ho : ¬ Quiet env o) :
    step env start o = .error .divisionByZero := by
  cases o with
  | logFile optarg =>
    have hpool : env.logPool = true := by simpa [Quiet] using ho
    simp [step, start, logInit, rteRingCreate_log, hpool, deltaRingSize, bind, Except.bind]
  | mqtt =>
    have hpool : env.mqttPool = true := by simpa [Quiet] using ho
    simp [step, start, mqttInit, rteRingCreate_log, hpool, deltaRingSize, bind, Except.bind]
  | _ => exact absurd trivial ho

/-- Parsing does not depend on the order of the options, and never divides by
zero, just when no logger gets to its ring. -/
theorem orderFree_iff (env : Env) (os : List Opt) (hos : WellFormed os) :
    OrderFree env os ↔ ∀ o ∈ os, Quiet env o := by
  constructor
  · intro h o ho
    by_contra hq
    have hperm : (o :: os.erase o).Perm os := (List.perm_cons_erase ho).symm
    refine h.noZero _ hperm ?_
    rw [parseArgs, List.foldlM_cons, step_start_zero hq]
    rfl
  · intro hq
    exact orderFree_of_quiet hos hq

end order

/-- Memory for everything, and every file and workload can be opened. -/
def plentiful : Env where
  logPool := true
  mqttPool := true
  mqttMessage := true
  fopen := fun _ => true
  dlopen := fun _ => true
  dlsym := fun _ _ => true

theorem cycle_burst_orderFree :
    OrderFree plentiful [.cycleTime (lit "100000"), .burstLength (lit "1/64"), .mirror] :=
  (orderFree_iff plentiful [.cycleTime (lit "100000"), .burstLength (lit "1/64"), .mirror]
    ⟨by simp [Opt.val], by simp⟩).mpr (by simp [Quiet])

/-- `-c 100000 -b 1/64 -l log` is accepted with rings of 2^15 entries, and
`-l log -c 100000 -b 1/64` divides by zero. -/
theorem log_first_divides_by_zero :
    (parseArgs plentiful
        [.cycleTime (lit "100000"), .burstLength (lit "1/64"), .logFile (lit "log")]).map
      State.logDelta = .ok (some 32768) ∧
    parseArgs plentiful
        [.logFile (lit "log"), .cycleTime (lit "100000"), .burstLength (lit "1/64")] =
      .error .divisionByZero ∧
    ¬ OrderFree plentiful
        [.logFile (lit "log"), .cycleTime (lit "100000"), .burstLength (lit "1/64")] := by
  have hzero : parseArgs plentiful
      [.logFile (lit "log"), .cycleTime (lit "100000"), .burstLength (lit "1/64")] =
        .error .divisionByZero := rfl
  refine ⟨by decide +kernel, hzero, ?_⟩
  intro h
  exact h.noZero _ (List.Perm.refl _) hzero

/-! ## The size of a ring -/

theorem pow2roundup_toNat (x : UInt32) (hx : 0 < x.toNat) (hle : x.toNat ≤ 2 ^ 31) :
    (pow2roundup x).toNat = 2 ^ (x.toNat - 1).size := by
  have hone : 1 ≤ x := UInt32.le_iff_toNat_le.mpr hx
  have hsub : (x - 1).toNat = x.toNat - 1 := UInt32.toNat_sub_of_le x 1 hone
  have hsize : (x.toNat - 1).size ≤ 31 := Nat.size_le.mpr (by omega)
  have hpow : 2 ^ (x.toNat - 1).size ≤ 2 ^ 31 := Nat.pow_le_pow_right Nat.two_pos hsize
  have hsmear : (pow2roundup x).toNat = (smear (x - 1).toNat + 1) % 2 ^ 32 := by
    simp only [pow2roundup, UInt32.toNat_add, UInt32.toNat_or, UInt32.toNat_shiftRight]
    rfl
  rw [hsmear, hsub, smear_succ (by omega)]
  exact Nat.mod_eq_of_lt (by omega)

theorem rteRingCreate_iff (count : UInt32) :
    rteRingCreate count = true ↔ ∃ k < 31, count.toNat = 2 ^ k := by
  simp [rteRingCreate]

/-- The entries of the ring before they are rounded up. -/
theorem deltaEntries_toNat (cycleTimeNs : UInt64) :
    (nsPerS / cycleTimeNs * 2).toUInt32.toNat = 1000000000 / cycleTimeNs.toNat * 2 := by
  have hns : nsPerS.toNat = 1000000000 := by decide
  have hle : 1000000000 / cycleTimeNs.toNat ≤ 1000000000 := Nat.div_le_self _ _
  have htwo : (2 : UInt64).toNat = 2 := rfl
  rw [UInt64.toNat_toUInt32, UInt64.toNat_mul, UInt64.toNat_div, hns, htwo]
  omega

theorem rteRingCreate_pow2roundup (x : UInt32) (hx : 0 < x.toNat) (hle : x.toNat ≤ 2 ^ 31) :
    rteRingCreate (pow2roundup x) = true ↔ x.toNat ≤ 2 ^ 30 := by
  rw [rteRingCreate_iff, pow2roundup_toNat x hx hle]
  constructor
  · rintro ⟨k, hk, heq⟩
    have hsize : (x.toNat - 1).size = k := Nat.pow_right_injective le_rfl heq
    have hlt : x.toNat - 1 < 2 ^ 30 := Nat.size_le.mp (by omega)
    omega
  · intro hle'
    have hsize : (x.toNat - 1).size ≤ 30 := Nat.size_le.mpr (by omega)
    exact ⟨_, by omega, rfl⟩

/-- `rte_ring_create` takes the rings of just the cycle times from 2 ns to 1 s. -/
theorem deltaRing_accepted_iff (cycleTimeNs : UInt64) (hc : 0 < cycleTimeNs.toNat) :
    (∃ size, deltaRingSize cycleTimeNs = .ok size ∧ rteRingCreate size = true) ↔
      2 ≤ cycleTimeNs.toNat ∧ cycleTimeNs.toNat ≤ 1000000000 := by
  have hne : cycleTimeNs ≠ 0 := fun h => by simp [h] at hc
  have hentries := deltaEntries_toNat cycleTimeNs
  have hdiv : 1000000000 / cycleTimeNs.toNat ≤ 1000000000 := Nat.div_le_self _ _
  simp only [deltaRingSize, if_neg hne, Except.ok.injEq, exists_eq_left']
  by_cases hlong : cycleTimeNs.toNat ≤ 1000000000
  · have hpos : 0 < 1000000000 / cycleTimeNs.toNat := Nat.div_pos hlong hc
    rw [rteRingCreate_pow2roundup _ (by omega) (by omega), hentries]
    by_cases htwo : 2 ≤ cycleTimeNs.toNat
    · have hhalf : 1000000000 / cycleTimeNs.toNat ≤ 1000000000 / 2 :=
        Nat.div_le_div_left htwo Nat.two_pos
      constructor
      · intro _
        exact ⟨htwo, hlong⟩
      · intro _
        omega
    · have hone : cycleTimeNs.toNat = 1 := by omega
      rw [hone]
      omega
  · have hzero : 1000000000 / cycleTimeNs.toNat = 0 := Nat.div_eq_of_lt (by omega)
    have hsize : (nsPerS / cycleTimeNs * 2).toUInt32 = 0 := by
      rw [← UInt32.toNat_inj, hentries, hzero]
      rfl
    rw [hsize]
    constructor
    · intro h
      exact absurd h (by decide)
    · rintro ⟨-, h⟩
      exact absurd h hlong

end Rtdk.RattArgs
