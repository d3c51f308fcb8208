import Mathlib.Data.UInt
import Rtdk.Thread
import Rtdk.Grid

/-! The timers of a traffic class (`thread_timer.c`).

Each thread runs up to three timers in a loop. A timer starts with an offset;
the first call of its routine only sets the period, and the loop adds whatever
period is set after each call. `timer_driftFree` says where the deadlines of
a cyclic timer are, however late its calls come. -/

namespace Rtdk.Timer
open Rtdk.NetDef Rtdk.Config Rtdk.Grid

def nsecPerSec : UInt64 := 1000000000

inductive TimerId
  | rx
  | tx
  | txgen
  deriving DecidableEq, Repr

/-- A call of a timer's routine: the deadline it was made for, and the clock. -/
structure Call where
  endNs : UInt64
  currNs : UInt64
  signaled : Bool
  deriving DecidableEq, Repr

/-- `thread_timer_info`, with the `do_once` flag of its routine and the calls
made so far. `cond` says whether the timer has a condition variable. -/
structure TimerInfo where
  used : Bool
  active : Bool
  cond : Bool
  timoNs : UInt64
  endNs : UInt64
  doOnce : Bool
  calls : List Call
  deriving DecidableEq, Repr

/-- The fields as `thread_timer_alloc` zeroes them. -/
def TimerInfo.zero : TimerInfo := ⟨false, false, false, 0, 0, false, []⟩

abbrev Timers := TimerId → TimerInfo

def threadTimerAdd (timers : Timers) (id : TimerId) (cond : Bool) (currNs timoNs : UInt64) :
    Option Timers :=
  if (timers id).used then none
  else some (Function.update timers id
    { timers id with used := true, active := true, cond, timoNs, endNs := currNs + timoNs })

def threadTimerSet (info : TimerInfo) (timoNs : UInt64) : TimerInfo := { info with timoNs }

/-! ## The timers of each class -/

/-- What the thread routines read of the configuration. -/
structure TimerConfig where
  app : AppConfig
  burstPeriodNs : FrameType → UInt64
  mirrorMode : Bool

/-- The classes with a timer that makes frames available for sending. -/
def hasGenerator : FrameType → Bool
  | .rta | .dcp | .lldp | .udpHigh | .udpLow => true
  | _ => false

/-- The timeout a timer is added with. Both UDP classes use that of UDP high. -/
def timerOffset (cfg : TimerConfig) (ty : FrameType) : TimerId → UInt64
  | .rx => cfg.app.applicationRxBaseOffsetNs
  | .tx => cfg.app.applicationTxBaseOffsetNs
  | .txgen => if ty = .udpLow then cfg.burstPeriodNs .udpHigh else cfg.burstPeriodNs ty

/-- The timeout the first call of the routine sets. -/
def timerPeriod (cfg : TimerConfig) (ty : FrameType) (isFirst : Bool) : TimerId → UInt64
  | .rx => cfg.app.applicationBaseCycleTimeNs
  | .tx =>
    match ty with
    | .tsnHigh | .tsnLow | .rtc =>
      if isFirst then cfg.app.applicationBaseCycleTimeNs else nsecPerSec
    | .rta | .dcp | .lldp => nsecPerSec
    | .udpHigh | .udpLow | .l2 => cfg.app.applicationBaseCycleTimeNs
  | .txgen => cfg.burstPeriodNs ty

/-- Only a transmit timer can be signaled, and not that of L2. -/
def hasCond (ty : FrameType) (id : TimerId) : Bool := id == .tx && ty != .l2

/-- The timers the thread routine of a class adds. -/
def addTimers (cfg : TimerConfig) (ty : FrameType) (currNs : UInt64) : Option Timers := do
  let timers ← threadTimerAdd (fun _ => .zero) .rx (hasCond ty .rx) currNs (timerOffset cfg ty .rx)
  let timers ← threadTimerAdd timers .tx (hasCond ty .tx) currNs (timerOffset cfg ty .tx)
  if hasGenerator ty && !cfg.mirrorMode then
    threadTimerAdd timers .txgen (hasCond ty .txgen) currNs (timerOffset cfg ty .txgen)
  else some timers

/-! ## The loop -/

/-- What the routine of a timer does to the timer: the first call sets the
period, the later ones leave it. -/
def routine (period : UInt64) (info : TimerInfo) : TimerInfo :=
  if info.doOnce then info else threadTimerSet { info with doOnce := true } period

/-- The call of a timer's routine, and the next deadline after it. -/
def callRoutine (period : UInt64) (info : TimerInfo) (signaled : Bool) (currNs : UInt64) :
    TimerInfo :=
  let called :=
    routine period { info with calls := info.calls ++ [⟨info.endNs, currNs, signaled⟩] }
  { called with endNs := called.endNs + called.timoNs }

/-- The loop looks at a timer; `signal` is what `is_signaled` would return. -/
def visit (period : UInt64) (info : TimerInfo) (signal : Bool) (currNs : UInt64) : TimerInfo :=
  if !info.active then info
  else if decide (currNs ≥ info.endNs) || (info.cond && signal) then
    callRoutine period info (info.cond && signal) currNs
  else info

/-- The timer that comes up at the `i`-th look. -/
def timerAt (i : Nat) : TimerId :=
  if i % 3 = 0 then .rx else if i % 3 = 1 then .tx else .txgen

/-- What a thread sees while it runs: the clock when each timer is started, and
the flag and the clock at each look. -/
structure Readings where
  start : TimerId → UInt64
  signal : Nat → Bool
  clock : Nat → UInt64

/-- The timers of a class after `k` looks of `thread_timer_run`. -/
def threadTimerRun (cfg : TimerConfig) (ty : FrameType) (isFirst : Bool) (r : Readings)
    (timers : Timers) : Nat → Timers
  | 0 => fun id => { timers id with endNs := r.start id + (timers id).timoNs }
  | k + 1 =>
    let timers := threadTimerRun cfg ty isFirst r timers k
    Function.update timers (timerAt k)
      (visit (timerPeriod cfg ty isFirst (timerAt k)) (timers (timerAt k)) (r.signal k) (r.clock k))

/-! ## One timer -/

/-- A timer on the grid of its deadlines: the next one is the point after those
its calls were made for. -/
structure OnGrid (s o c : UInt64) (info : TimerInfo) : Prop where
  active : info.active = true
  once : info.doOnce = !info.calls.isEmpty
  period : info.timoNs = if info.doOnce then c else o
  endNs : info.endNs.toNat = point (s.toNat + o.toNat) c.toNat info.calls.length
  calls : ∀ (j : Nat) (call : Call), info.calls[j]? = some call →
    call.endNs.toNat = point (s.toNat + o.toNat) c.toNat j ∧ call.endNs ≤ call.currNs

section visit
variable {s o c : UInt64} {info : TimerInfo} {signal : Bool} {now : UInt64}

/-- A look at a timer that is not signaled calls the routine exactly when the
next deadline has come. -/
theorem visit_eq (hgrid : OnGrid s o c info) (hquiet : (info.cond && signal) = false) :
    visit c info signal now =
      if info.endNs ≤ now then
        { info with
          doOnce := true, timoNs := c, endNs := info.endNs + c
          calls := info.calls ++ [⟨info.endNs, now, false⟩] }
      else info := by
  have hperiod := hgrid.period
  unfold visit
  rw [hquiet, Bool.or_false]
  have hactive := hgrid.active
  cases hdo : info.doOnce with
  | false => simp [callRoutine, routine, threadTimerSet, hdo, hactive]
  | true =>
    rw [hdo, if_pos rfl] at hperiod
    simp [callRoutine, routine, hdo, hperiod, hactive]

theorem visit_length (hgrid : OnGrid s o c info) (hquiet : (info.cond && signal) = false)
    (now : UInt64) :
    (visit c info signal now).calls.length =
      info.calls.length + if info.endNs ≤ now then 1 else 0 := by
  rw [visit_eq hgrid hquiet]
  split <;> simp

theorem visit_onGrid (hgrid : OnGrid s o c info) (hquiet : (info.cond && signal) = false)
    (hfits : point (s.toNat + o.toNat) c.toNat (visit c info signal now).calls.length < 2 ^ 64) :
    OnGrid s o c (visit c info signal now) := by
  rw [visit_eq hgrid hquiet] at hfits ⊢
  split at hfits
  · rename_i hdue
    rw [if_pos hdue]
    rw [List.length_append, List.length_singleton, point_succ] at hfits
    constructor
    · exact hgrid.active
    · simp
    · simp
    · rw [UInt64.toNat_add, hgrid.endNs, Nat.mod_eq_of_lt hfits, List.length_append,
        List.length_singleton, point_succ]
    · intro j call hcall
      rcases Nat.lt_trichotomy j info.calls.length with hlt | heq | hgt
      · rw [List.getElem?_append_left hlt] at hcall
        exact hgrid.calls j call hcall
      · subst heq
        rw [List.getElem?_concat_length] at hcall
        cases hcall
        exact ⟨hgrid.endNs, hdue⟩
      · rw [List.getElem?_eq_none (by simpa using hgt)] at hcall
        cases hcall
  · rename_i hdue
    rwa [if_neg hdue]

theorem visit_cond (c : UInt64) (info : TimerInfo) (signal : Bool) (now : UInt64) :
    (visit c info signal now).cond = info.cond := by
  unfold visit callRoutine routine threadTimerSet
  split
  · rfl
  · split
    · dsimp only
      split <;> rfl
    · rfl

/-- A look adds one call at its own reading or none. -/
theorem visit_calls (c : UInt64) (info : TimerInfo) (signal : Bool) (now : UInt64) :
    (visit c info signal now).calls = info.calls ∨
      ∃ call, call.currNs = now ∧ (visit c info signal now).calls = info.calls ++ [call] := by
  unfold visit callRoutine routine threadTimerSet
  split
  · exact Or.inl rfl
  · split
    · refine Or.inr ⟨⟨info.endNs, now, info.cond && signal⟩, rfl, ?_⟩
      dsimp only
      split <;> rfl
    · exact Or.inl rfl

end visit

/-! ## A run -/

section run
variable {cfg : TimerConfig} {ty : FrameType} {isFirst : Bool} {r : Readings} {timers : Timers}
  {id : TimerId} {currNs : UInt64}

/-- Every class adds its receive and its transmit timer. -/
theorem addTimers_some (cfg : TimerConfig) (ty : FrameType) (currNs : UInt64) :
    ∃ timers, addTimers cfg ty currNs = some timers ∧
      ∀ id, id ≠ .txgen → timers id = ⟨true, true, hasCond ty id, timerOffset cfg ty id,
        currNs + timerOffset cfg ty id, false, []⟩ := by
  unfold addTimers
  cases hgen : hasGenerator ty && !cfg.mirrorMode with
  | false =>
    refine ⟨_, by simp [threadTimerAdd, TimerInfo.zero]; rfl, ?_⟩
    intro id hid
    cases id <;> simp_all
  | true =>
    refine ⟨_, by simp [threadTimerAdd, TimerInfo.zero]; rfl, ?_⟩
    intro id hid
    cases id <;> simp_all

theorem threadTimerRun_succ (k : Nat) :
    threadTimerRun cfg ty isFirst r timers (k + 1) id =
      if timerAt k = id then
        visit (timerPeriod cfg ty isFirst id) (threadTimerRun cfg ty isFirst r timers k id)
          (r.signal k) (r.clock k)
      else threadTimerRun cfg ty isFirst r timers k id := by
  rw [threadTimerRun]
  split
  · rename_i hid
    rw [hid, Function.update_self]
  · rename_i hid
    exact Function.update_of_ne (Ne.symm hid) _ _

theorem run_cond (k : Nat) :
    (threadTimerRun cfg ty isFirst r timers k id).cond = (timers id).cond := by
  induction k with
  | zero => rfl
  | succ k ih =>
    rw [threadTimerRun_succ]
    split
    · rw [visit_cond, ih]
    · exact ih

theorem run_length_le (k : Nat) :
    (threadTimerRun cfg ty isFirst r timers k id).calls.length ≤
      (threadTimerRun cfg ty isFirst r timers (k + 1) id).calls.length := by
  rw [threadTimerRun_succ]
  split
  · obtain heq | ⟨call, -, heq⟩ := visit_calls (timerPeriod cfg ty isFirst id)
      (threadTimerRun cfg ty isFirst r timers k id) (r.signal k) (r.clock k)
    · rw [heq]
    · rw [heq, List.length_append]
      exact Nat.le_add_right _ _
  · exact le_rfl

/-- Every call was made at the reading of some look. -/
theorem run_currNs (hnone : (timers id).calls = []) (k : Nat) :
    ∀ call ∈ (threadTimerRun cfg ty isFirst r timers k id).calls,
      ∃ i < k, call.currNs = r.clock i := by
  induction k with
  | zero =>
    intro call hcall
    have hzero : (threadTimerRun cfg ty isFirst r timers 0 id).calls = [] := hnone
    rw [hzero] at hcall
    exact absurd hcall List.not_mem_nil
  | succ k ih =>
    have hearlier (call : Call) (h : call ∈ (threadTimerRun cfg ty isFirst r timers k id).calls) :
        ∃ i < k + 1, call.currNs = r.clock i := by
      obtain ⟨i, hi, hclock⟩ := ih call h
      exact ⟨i, Nat.lt_succ_of_lt hi, hclock⟩
    intro call hcall
    rw [threadTimerRun_succ] at hcall
    split at hcall
    · obtain heq | ⟨call', hnow, heq⟩ := visit_calls (timerPeriod cfg ty isFirst id)
        (threadTimerRun cfg ty isFirst r timers k id) (r.signal k) (r.clock k)
      · exact hearlier call (heq ▸ hcall)
      · rw [heq] at hcall
        rcases List.mem_append.mp hcall with hcall | hcall
        · exact hearlier call hcall
        · exact ⟨k, Nat.lt_succ_self k, by rw [List.mem_singleton.mp hcall, hnow]⟩
    · exact hearlier call hcall

/-- A timer that is not signaled stays on its grid. -/
theorem run_onGrid (isFirst : Bool) (hadd : addTimers cfg ty currNs = some timers)
    (hid : id ≠ .txgen)
    (hquiet : hasCond ty id = true → ∀ i, timerAt i = id → r.signal i = false) (k : Nat)
    (hfits : point ((r.start id).toNat + (timerOffset cfg ty id).toNat)
      (timerPeriod cfg ty isFirst id).toNat
      (threadTimerRun cfg ty isFirst r timers k id).calls.length < 2 ^ 64) :
    OnGrid (r.start id) (timerOffset cfg ty id) (timerPeriod cfg ty isFirst id)
      (threadTimerRun cfg ty isFirst r timers k id) := by
  obtain ⟨timers', hsome, hinfo⟩ := addTimers_some cfg ty currNs
  obtain rfl : timers' = timers := Option.some.inj (hsome.symm.trans hadd)
  induction k with
  | zero =>
    have hstart : threadTimerRun cfg ty isFirst r timers' 0 id =
        ⟨true, true, hasCond ty id, timerOffset cfg ty id, r.start id + timerOffset cfg ty id,
          false, []⟩ := by
      simp only [threadTimerRun, hinfo id hid]
    rw [hstart] at hfits ⊢
    rw [List.length_nil, point_zero] at hfits
    constructor
    · rfl
    · rfl
    · rfl
    · rw [UInt64.toNat_add, Nat.mod_eq_of_lt hfits, List.length_nil, point_zero]
    · intro j call hcall
      cases hcall
  | succ k ih =>
    have hgrid := ih ((point_mono _ _ (run_length_le k)).trans_lt hfits)
    rw [threadTimerRun_succ] at hfits ⊢
    by_cases hat : timerAt k = id
    · rw [if_pos hat] at hfits ⊢
      have hsilent : ((threadTimerRun cfg ty isFirst r timers' k id).cond && r.signal k) = false := by
        rw [run_cond, hinfo id hid]
        cases hcond : hasCond ty id with
        | false => rfl
        | true => exact hquiet hcond k hat
      exact visit_onGrid hgrid hsilent hfits
    · rwa [if_neg hat]

/-- The receive timer of any class, and the transmit timer of a class that is
never signaled and has the base cycle: with its start `s`, the offset `o` and
the cycle `c`, the calls are for `s + o`, `s + o + c` and so on, none early
and none left out, and a look makes a call when the next of these has come. -/
theorem timer_driftFree (cfg : TimerConfig) (ty : FrameType) (isFirst : Bool) (r : Readings)
    (currNs : UInt64) (timers : Timers) (hadd : addTimers cfg ty currNs = some timers)
    (id : TimerId)
    (hid : id = .rx ∨
      (id = .tx ∧ timerPeriod cfg ty isFirst .tx = cfg.app.applicationBaseCycleTimeNs))
    (hquiet : hasCond ty id = true → ∀ i, timerAt i = id → r.signal i = false)
    (hclock : ∀ i j, i ≤ j → r.clock i ≤ r.clock j) (k : Nat) :
    let run := threadTimerRun cfg ty isFirst r timers
    let deadline := point ((r.start id).toNat + (timerOffset cfg ty id).toNat)
      cfg.app.applicationBaseCycleTimeNs.toNat
    deadline (run (k + 1) id).calls.length < 2 ^ 64 →
    (∀ (j : Nat) (call : Call), (run (k + 1) id).calls[j]? = some call →
      call.endNs.toNat = deadline j ∧ deadline j ≤ call.currNs.toNat) ∧
    (run (k + 1) id).endNs.toNat = deadline (run (k + 1) id).calls.length ∧
    (timerAt k = id → ((run (k + 1) id).calls.length = (run k id).calls.length + 1 ↔
      deadline (run k id).calls.length ≤ (r.clock k).toNat)) ∧
    ((run (k + 1) id).calls.length : ℕ∞) ≤ {j | deadline j ≤ (r.clock k).toNat}.encard := by
  intro run deadline hfits
  have hperiod : timerPeriod cfg ty isFirst id = cfg.app.applicationBaseCycleTimeNs := by
    rcases hid with rfl | ⟨rfl, hbase⟩
    · rfl
    · exact hbase
  have hgen : id ≠ .txgen := by
    rcases hid with rfl | ⟨rfl, -⟩ <;> decide
  obtain ⟨timers', hsome, hinfo⟩ := addTimers_some cfg ty currNs
  obtain rfl : timers' = timers := Option.some.inj (hsome.symm.trans hadd)
  have hnone : (timers' id).calls = [] := by rw [hinfo id hgen]
  have hgrid := run_onGrid isFirst hadd hgen hquiet (k + 1) (by rwa [hperiod])
  have hgridk := run_onGrid isFirst hadd hgen hquiet k
    (by rw [hperiod]; exact (point_mono _ _ (run_length_le k)).trans_lt hfits)
  rw [hperiod] at hgrid hgridk
  have hcalls (j : Nat) (call : Call) (hcall : (run (k + 1) id).calls[j]? = some call) :
      call.endNs.toNat = deadline j ∧ deadline j ≤ call.currNs.toNat := by
    obtain ⟨hend, hle⟩ := hgrid.calls j call hcall
    exact ⟨hend, hend.symm.le.trans (UInt64.le_iff_toNat_le.mp hle)⟩
  refine ⟨hcalls, hgrid.endNs, ?_, ?_⟩
  · intro hat
    have hsilent : ((run k id).cond && r.signal k) = false := by
      rw [run_cond, hinfo id hgen]
      cases hcond : hasCond ty id with
      | false => rfl
      | true => exact hquiet hcond k hat
    have hlength := visit_length hgridk hsilent (r.clock k)
    have hrun : run (k + 1) id = visit cfg.app.applicationBaseCycleTimeNs (run k id) (r.signal k)
        (r.clock k) := by
      rw [← hperiod]
      exact (threadTimerRun_succ k).trans (if_pos hat)
    have hdue : (run k id).endNs ≤ r.clock k ↔
        deadline (run k id).calls.length ≤ (r.clock k).toNat := by
      rw [UInt64.le_iff_toNat_le, hgridk.endNs]
    rw [hrun, hlength, ← hdue]
    split
    · rename_i hyes
      exact iff_of_true rfl hyes
    · rename_i hno
      exact iff_of_false (Nat.ne_of_lt (Nat.lt_succ_self _)) hno
  · apply le_encard_points
    rcases Nat.eq_zero_or_pos (run (k + 1) id).calls.length with hzero | hpos
    · exact Or.inl hzero
    · right
      have hlast : (run (k + 1) id).calls.length - 1 < (run (k + 1) id).calls.length := by omega
      have hget := List.getElem?_eq_getElem hlast
      obtain ⟨i, hi, hnow⟩ := run_currNs hnone (k + 1) _ (List.getElem_mem hlast)
      refine (hcalls _ _ hget).2.trans ?_
      rw [hnow]
      exact UInt64.le_iff_toNat_le.mp (hclock i k (Nat.le_of_lt_succ hi))

end run

/-- A thread that is held up for 5 ms after its start: the second look at the
receive timer makes the second call, still for the second deadline. -/
theorem timer_driftFree_late :
    (threadTimerRun ⟨Thread.AppConfig.small .none 64 1 [], fun _ => 0, false⟩ .rtc true
        ⟨fun _ => 0, fun _ => false, fun _ => 5000000⟩
        ((addTimers ⟨Thread.AppConfig.small .none 64 1 [], fun _ => 0, false⟩ .rtc 0).get (by decide))
        4 .rx).endNs.toNat = point 200000 1000000 2 := by
  have hdrift := timer_driftFree ⟨Thread.AppConfig.small .none 64 1 [], fun _ => 0, false⟩ .rtc true
    ⟨fun _ => 0, fun _ => false, fun _ => 5000000⟩ 0 _ (Option.some_get (by decide)).symm .rx
    (Or.inl rfl) (fun h => absurd h (by decide)) (fun _ _ _ => UInt64.le_refl _) 3
  exact (hdrift (by decide +kernel)).2.1

end Rtdk.Timer
