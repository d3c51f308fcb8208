import Rtdk.Extremes
import Mathlib.Data.List.Induction
import Mathlib.Data.Nat.ModEq
import Mathlib.Logic.Function.Basic

/-! The min/avg/max accumulators of the measurement tools.

The round-trip tool (`ratt`), the launch-time tool (`launch-time`) and the
client of the network probe (`cnp`) keep their measurements in the same kind of
record: smallest and largest sample, sum and number. A reset gives the smallest
sample a finite value to start from, and a sample takes its place only when it
is smaller. Each tool is modelled with its own resets; what one accumulator
goes through is a list of touches, and all three are judged by that list. -/

namespace Rtdk.Accumulator

open Rtdk.Extremes

/-! ## One accumulator -/

structure MinAvgMax where
  minNs : UInt64
  maxNs : UInt64
  sumNs : UInt64
  count : UInt64
deriving DecidableEq, Repr

def minAvgMaxUpdate (mma : MinAvgMax) (ns : UInt64) : MinAvgMax :=
  { minNs := if ns < mma.minNs then ns else mma.minNs
    maxNs := if ns > mma.maxNs then ns else mma.maxNs
    sumNs := mma.sumNs + ns
    count := mma.count + 1 }

/-- An accumulator after `memset` and the store to its minimum. -/
def cleared (minNs : UInt64) : MinAvgMax :=
  { minNs := minNs, maxNs := 0, sumNs := 0, count := 0 }

/-- What a call can do to an accumulator. -/
inductive Touch
  | clear (minNs : UInt64)
  | sample (ns : UInt64)

def Touch.apply (mma : MinAvgMax) : Touch → MinAvgMax
  | .clear minNs => cleared minNs
  | .sample ns => minAvgMaxUpdate mma ns

/-- What an accumulator has seen since its last reset, and the minimum it
started from there. -/
structure Since where
  start : UInt64
  samples : List UInt64
deriving DecidableEq, Repr

def Since.next : Option Since → Touch → Option Since
  | _, .clear minNs => some { start := minNs, samples := [] }
  | none, .sample _ => none
  | some h, .sample ns => some { h with samples := h.samples ++ [ns] }

def since (ts : List Touch) : Option Since := ts.foldl Since.next none

def total (xs : List UInt64) : Nat := (xs.map UInt64.toNat).sum

/-- The accumulator says what the samples are. -/
structure Exact (mma : MinAvgMax) (xs : List UInt64) : Prop where
  minNs : mma.minNs ∈ xs ∧ ∀ x ∈ xs, mma.minNs ≤ x
  maxNs : mma.maxNs ∈ xs ∧ ∀ x ∈ xs, x ≤ mma.maxNs
  sumNs : mma.sumNs.toNat = total xs
  count : mma.count.toNat = xs.length
  average : mma.minNs ≤ mma.sumNs / mma.count ∧ mma.sumNs / mma.count ≤ mma.maxNs

/-- The invariant between resets: the minimum runs from the value the reset gave
it, the other three are counted modulo 2^64. -/
structure Tracks (mma : MinAvgMax) (h : Since) : Prop where
  minNs : mma.minNs.toNat = runMin h.start.toNat (h.samples.map UInt64.toNat)
  maxNs : mma.maxNs.toNat = runMax 0 (h.samples.map UInt64.toNat)
  sumNs : mma.sumNs.toNat = total h.samples % 2 ^ 64
  count : mma.count.toNat = h.samples.length % 2 ^ 64

theorem tracks_cleared (minNs : UInt64) :
    Tracks (cleared minNs) { start := minNs, samples := [] } :=
  ⟨rfl, rfl, rfl, rfl⟩

theorem toNat_ite_lt (a b : UInt64) : (if a < b then a else b).toNat = min b.toNat a.toNat := by
  by_cases h : a < b
  · rw [if_pos h, Nat.min_eq_right (Nat.le_of_lt (UInt64.lt_iff_toNat_lt.mp h))]
  · rw [if_neg h, Nat.min_eq_left]
    rw [UInt64.lt_iff_toNat_lt] at h
    omega

theorem toNat_ite_gt (a b : UInt64) : (if a > b then a else b).toNat = max b.toNat a.toNat := by
  by_cases h : a > b
  · rw [if_pos h, Nat.max_eq_right (Nat.le_of_lt (UInt64.lt_iff_toNat_lt.mp h))]
  · rw [if_neg h, Nat.max_eq_left]
    rw [gt_iff_lt, UInt64.lt_iff_toNat_lt] at h
    omega

theorem total_snoc (xs : List UInt64) (ns : UInt64) : total (xs ++ [ns]) = total xs + ns.toNat := by
  simp [total]

theorem Tracks.update {mma : MinAvgMax} {h : Since} (ht : Tracks mma h) (ns : UInt64) :
    Tracks (minAvgMaxUpdate mma ns) { h with samples := h.samples ++ [ns] } where
  minNs := by
    simp only [minAvgMaxUpdate, toNat_ite_lt, List.map_append, List.map_cons, List.map_nil,
      runMin_snoc, ht.minNs]
  maxNs := by
    simp only [minAvgMaxUpdate, toNat_ite_gt, List.map_append, List.map_cons, List.map_nil,
      runMax_snoc, ht.maxNs]
  sumNs := by
    simp only [minAvgMaxUpdate, UInt64.toNat_add, total_snoc, ht.sumNs, Nat.mod_add_mod]
  count := by
    simp only [minAvgMaxUpdate, UInt64.toNat_add, UInt64.toNat_one, List.length_append,
      List.length_singleton, ht.count, Nat.mod_add_mod]

/-- Whatever the accumulator held before, from its first reset on it tracks what
it has seen since the last one. -/
theorem tracks_since (mma : MinAvgMax) (ts : List Touch) :
    ∀ h, since ts = some h → Tracks (ts.foldl Touch.apply mma) h := by
  induction ts using List.reverseRecOn with
  | nil =>
    intro h hs
    simp [since] at hs
  | append_singleton ts t ih =>
    intro h hs
    simp only [since, List.foldl_append, List.foldl_cons, List.foldl_nil] at hs ⊢
    cases t with
    | clear minNs =>
      cases hs
      exact tracks_cleared minNs
    | sample ns =>
      cases hprev : ts.foldl Since.next none with
      | none => simp [hprev, Since.next] at hs
      | some g =>
        rw [hprev] at hs
        cases hs
        exact (ih g hprev).update ns

/-- The accumulator is exact just when it can count its samples and one of them
is not above the value its minimum started from. -/
def Since.Reached (h : Since) : Prop :=
  h.samples.length < 2 ^ 64 ∧ ∃ x ∈ h.samples, x ≤ h.start

section exact

variable {mma : MinAvgMax} {h : Since}

theorem mem_map_toNat (v : UInt64) (xs : List UInt64) : v.toNat ∈ xs.map UInt64.toNat ↔ v ∈ xs :=
  List.mem_map_of_injective fun _ _ h => UInt64.toNat_inj.mp h

theorem isLeast_toNat_iff (v : UInt64) (xs : List UInt64) :
    IsLeast {y | y ∈ xs.map UInt64.toNat} v.toNat ↔ v ∈ xs ∧ ∀ x ∈ xs, v ≤ x := by
  simp only [IsLeast, Set.mem_ofPred_eq, mem_map_toNat, lowerBounds, List.forall_mem_map,
    UInt64.le_iff_toNat_le]

theorem isGreatest_toNat_iff (v : UInt64) (xs : List UInt64) :
    IsGreatest {y | y ∈ xs.map UInt64.toNat} v.toNat ↔ v ∈ xs ∧ ∀ x ∈ xs, x ≤ v := by
  simp only [IsGreatest, Set.mem_ofPred_eq, mem_map_toNat, upperBounds, List.forall_mem_map,
    UInt64.le_iff_toNat_le]

theorem Tracks.isLeast_iff (ht : Tracks mma h) :
    (mma.minNs ∈ h.samples ∧ ∀ x ∈ h.samples, mma.minNs ≤ x) ↔
      ∃ x ∈ h.samples, x ≤ h.start := by
  rw [← isLeast_toNat_iff, ht.minNs, isLeast_runMin_iff]
  simp [UInt64.le_iff_toNat_le]

/-- The maximum starts from 0, which no sample is below. -/
theorem Tracks.isGreatest (ht : Tracks mma h) (hne : h.samples ≠ []) :
    mma.maxNs ∈ h.samples ∧ ∀ x ∈ h.samples, x ≤ mma.maxNs := by
  rw [← isGreatest_toNat_iff, ht.maxNs, isGreatest_runMax_iff]
  obtain ⟨x, hx⟩ := List.exists_mem_of_ne_nil _ hne
  exact ⟨x.toNat, List.mem_map_of_mem hx, Nat.zero_le _⟩

theorem Tracks.average (hne : h.samples ≠ [])
    (hmin : ∀ x ∈ h.samples, mma.minNs ≤ x) (hmax : ∀ x ∈ h.samples, x ≤ mma.maxNs)
    (hsum : mma.sumNs.toNat = total h.samples) (hcount : mma.count.toNat = h.samples.length) :
    mma.minNs ≤ mma.sumNs / mma.count ∧ mma.sumNs / mma.count ≤ mma.maxNs := by
  have hne' : h.samples.map UInt64.toNat ≠ [] := by simpa using hne
  have hlo : ∀ x ∈ h.samples.map UInt64.toNat, mma.minNs.toNat ≤ x := by
    simpa [UInt64.le_iff_toNat_le] using hmin
  have hhi : ∀ x ∈ h.samples.map UInt64.toNat, x ≤ mma.maxNs.toNat := by
    simpa [UInt64.le_iff_toNat_le] using hmax
  have hbounds := average_bounds hne' hlo hhi
  rw [List.length_map] at hbounds
  simp only [UInt64.le_iff_toNat_le, UInt64.toNat_div, hsum, hcount]
  exact hbounds

theorem Tracks.exact_iff (ht : Tracks mma h) (hne : h.samples ≠ [])
    (hsum : total h.samples < 2 ^ 64) : Exact mma h.samples ↔ h.Reached := by
  constructor
  · intro hexact
    refine ⟨?_, ht.isLeast_iff.mp hexact.minNs⟩
    rw [← hexact.count]
    exact mma.count.toNat_lt
  · rintro ⟨hlength, hreached⟩
    have hmin := ht.isLeast_iff.mpr hreached
    have hmax := ht.isGreatest hne
    have hsum' : mma.sumNs.toNat = total h.samples := by
      rw [ht.sumNs, Nat.mod_eq_of_lt hsum]
    have hcount : mma.count.toNat = h.samples.length := by
      rw [ht.count, Nat.mod_eq_of_lt hlength]
    exact ⟨hmin, hmax, hsum', hcount, Tracks.average hne hmin.2 hmax.2 hsum' hcount⟩

end exact

/-- One accumulator, whatever it held and whatever it goes through. -/
theorem touched_exact_iff (mma : MinAvgMax) {ts : List Touch} {h : Since} (hs : since ts = some h)
    (hne : h.samples ≠ []) (hsum : total h.samples < 2 ^ 64) :
    Exact (ts.foldl Touch.apply mma) h.samples ↔ h.Reached :=
  (tracks_since mma ts h hs).exact_iff hne hsum

/-! ## The round-trip tool

`stats_t` holds seven accumulators. `reset_stats` clears the whole of it, and
then gives five of them a minimum to start from. -/

namespace Ratt

inductive Acc
  | rtt | spike | snapshot | rxSnapshot | txSnapshot | workload | workloadSnapshot
deriving DecidableEq, Repr

abbrev Stats := Acc → MinAvgMax

structure Modes where
  internalDebugEnabled : Bool
  workloadEnabled : Bool

def bigNum : UInt64 := 1000000

/-- The snapshots of the two directions are covered by the `memset` alone. -/
def resetStats (_ : Stats) : Stats
  | .rtt | .snapshot | .spike | .workload | .workloadSnapshot => cleared bigNum
  | .rxSnapshot | .txSnapshot => cleared 0

def resetSnapshot (modes : Modes) (s : Stats) : Stats
  | .snapshot => cleared bigNum
  | .workloadSnapshot => if modes.workloadEnabled then cleared bigNum else s .workloadSnapshot
  | a => s a

def resetRxtxSnapshot (s : Stats) : Stats
  | .rxSnapshot | .txSnapshot => cleared bigNum
  | a => s a

def update (s : Stats) (a : Acc) (ns : UInt64) : Stats :=
  Function.update s a (minAvgMaxUpdate (s a) ns)

def endTime (modes : Modes) (s : Stats) (a : Acc) (begin now : UInt64) : Stats :=
  if modes.internalDebugEnabled then update s a (now - begin) else s

inductive Call
  | update (a : Acc) (ns : UInt64)
  | endTime (a : Acc) (begin now : UInt64)
  | resetStats
  | resetSnapshot
  | resetRxtxSnapshot

def step (modes : Modes) (s : Stats) : Call → Stats
  | .update a ns => update s a ns
  | .endTime a begin now => endTime modes s a begin now
  | .resetStats => resetStats s
  | .resetSnapshot => resetSnapshot modes s
  | .resetRxtxSnapshot => resetRxtxSnapshot s

def run (modes : Modes) (s : Stats) (cs : List Call) : Stats := cs.foldl (step modes) s

/-- What a call does to one accumulator. -/
def touch (modes : Modes) (a : Acc) : Call → Option Touch
  | .update b ns => if b = a then some (.sample ns) else none
  | .endTime b begin now =>
    if b = a ∧ modes.internalDebugEnabled then some (.sample (now - begin)) else none
  | .resetStats => some (.clear (if a = .rxSnapshot ∨ a = .txSnapshot then 0 else bigNum))
  | .resetSnapshot =>
    if a = .snapshot ∨ a = .workloadSnapshot ∧ modes.workloadEnabled then some (.clear bigNum)
    else none
  | .resetRxtxSnapshot =>
    if a = .rxSnapshot ∨ a = .txSnapshot then some (.clear bigNum) else none

theorem update_apply (s : Stats) (a b : Acc) (ns : UInt64) :
    update s b ns a = if b = a then minAvgMaxUpdate (s a) ns else s a := by
  by_cases hba : b = a
  · rw [update, if_pos hba, hba, Function.update_self]
  · rw [update, if_neg hba, Function.update_of_ne (Ne.symm hba)]

theorem step_apply (modes : Modes) (s : Stats) (a : Acc) (c : Call) :
    step modes s c a = ((touch modes a c).toList).foldl Touch.apply (s a) := by
  cases c with
  | update b ns =>
    simp only [step, update_apply, touch]
    split <;> rfl
  | endTime b begin now =>
    by_cases hdebug : modes.internalDebugEnabled
    · simp only [step, endTime, hdebug, if_true, update_apply, touch, and_true]
      split <;> rfl
    · simp [step, endTime, hdebug, touch]
  | resetStats => cases a <;> rfl
  | resetSnapshot =>
    cases a with
    | workloadSnapshot =>
      by_cases hw : modes.workloadEnabled <;>
        simp [step, resetSnapshot, touch, hw, Touch.apply]
    | _ => rfl
  | resetRxtxSnapshot => cases a <;> rfl

/-- An accumulator goes its own way. -/
theorem run_apply (modes : Modes) (s : Stats) (cs : List Call) (a : Acc) :
    run modes s cs a = (cs.filterMap (touch modes a)).foldl Touch.apply (s a) := by
  induction cs generalizing s with
  | nil => rfl
  | cons c cs ih =>
    rw [run, List.foldl_cons, ← run, ih, step_apply]
    cases htouch : touch modes a c with
    | none => simp [htouch]
    | some t => simp [htouch]

end Ratt

/-! ## The launch-time tool -/

namespace Lttt

def bigNum : UInt64 := 60000000

inductive Call
  | update (ns : UInt64)
  | resetStats

def step (launchTime : MinAvgMax) : Call → MinAvgMax
  | .update ns => minAvgMaxUpdate launchTime ns
  | .resetStats => cleared bigNum

def run (launchTime : MinAvgMax) (cs : List Call) : MinAvgMax := cs.foldl step launchTime

def touch : Call → Touch
  | .update ns => .sample ns
  | .resetStats => .clear bigNum

theorem run_apply (launchTime : MinAvgMax) (cs : List Call) :
    run launchTime cs = (cs.map touch).foldl Touch.apply launchTime := by
  induction cs generalizing launchTime with
  | nil => rfl
  | cons c cs ih =>
    rw [run, List.foldl_cons, ← run, ih]
    cases c with
    | update ns => rfl
    | resetStats => rfl

end Lttt

/-! ## The network probe

Its accumulators are timers: `start_stats_timer` notes when a measurement
began, and `end_stats_timer` takes a sample only when one has. -/

structure StatsTimer extends MinAvgMax where
  startNs : UInt64
deriving DecidableEq, Repr

def startStatsTimer (timer : StatsTimer) (nowNs : UInt64) : StatsTimer :=
  { timer with startNs := nowNs }

def endStatsTimer (timer : StatsTimer) (nowNs : UInt64) : StatsTimer :=
  if timer.startNs = 0 then timer
  else { timer with toMinAvgMax := minAvgMaxUpdate timer.toMinAvgMax (nowNs - timer.startNs) }

namespace Cnp

inductive Acc
  | swRtt | hwRtt | poll
deriving DecidableEq, Repr

abbrev OtherStats := Acc → StatsTimer

def resetStats (_ : OtherStats) : OtherStats
  | _ => { toMinAvgMax := cleared 1000000, startNs := 0 }

inductive Call
  | startStatsTimer (a : Acc) (nowNs : UInt64)
  | endStatsTimer (a : Acc) (nowNs : UInt64)
  | resetStats

def step (s : OtherStats) : Call → OtherStats
  | .startStatsTimer a nowNs => Function.update s a (startStatsTimer (s a) nowNs)
  | .endStatsTimer a nowNs => Function.update s a (endStatsTimer (s a) nowNs)
  | .resetStats => resetStats s

def run (s : OtherStats) (cs : List Call) : OtherStats := cs.foldl step s

/-- What one timer goes through, when the measurement it is in began at `startNs`. -/
def touches (a : Acc) (startNs : UInt64) : List Call → List Touch
  | [] => []
  | .startStatsTimer b nowNs :: cs => touches a (if b = a then nowNs else startNs) cs
  | .endStatsTimer b nowNs :: cs =>
    if b = a ∧ startNs ≠ 0 then .sample (nowNs - startNs) :: touches a startNs cs
    else touches a startNs cs
  | .resetStats :: cs => .clear 1000000 :: touches a 0 cs

theorem run_apply (s : OtherStats) (cs : List Call) (a : Acc) :
    (run s cs a).toMinAvgMax =
      (touches a (s a).startNs cs).foldl Touch.apply (s a).toMinAvgMax := by
  induction cs generalizing s with
  | nil => rfl
  | cons c cs ih =>
    rw [run, List.foldl_cons, ← run, ih]
    cases c with
    | startStatsTimer b nowNs =>
      by_cases hba : b = a
      · subst hba
        simp [step, touches, startStatsTimer]
      · simp [step, touches, hba, Function.update_of_ne (Ne.symm hba)]
    | endStatsTimer b nowNs =>
      by_cases hba : b = a
      · subst hba
        by_cases hstart : (s b).startNs = 0
        · simp [step, touches, endStatsTimer, hstart]
        · simp [step, touches, endStatsTimer, hstart, Touch.apply]
      · simp [step, touches, hba, Function.update_of_ne (Ne.symm hba)]
    | resetStats => rfl

end Cnp

/-! ## All three -/

/-- A run of one of the tools from any contents, and the accumulator looked at. -/
inductive Run
  | ratt (modes : Ratt.Modes) (s : Ratt.Stats) (cs : List Ratt.Call) (a : Ratt.Acc)
  | lttt (launchTime : MinAvgMax) (cs : List Lttt.Call)
  | cnp (s : Cnp.OtherStats) (cs : List Cnp.Call) (a : Cnp.Acc)

/-- What the accumulator holds when the run is over. -/
def Run.record : Run → MinAvgMax
  | .ratt modes s cs a => Ratt.run modes s cs a
  | .lttt launchTime cs => Lttt.run launchTime cs
  | .cnp s cs a => (Cnp.run s cs a).toMinAvgMax

/-- Its last reset and the samples after it, if it was reset. -/
def Run.since : Run → Option Since
  | .ratt modes _ cs a => Accumulator.since (cs.filterMap (Ratt.touch modes a))
  | .lttt _ cs => Accumulator.since (cs.map Lttt.touch)
  | .cnp s cs a => Accumulator.since (Cnp.touches a (s a).startNs cs)

/-- In every run of each tool, whatever it starts from, an accumulator with a
sample since its last reset is exact just when its samples can be counted and
one of them is not above the minimum that reset gave it. -/
theorem accumulators_exact_iff (r : Run) {h : Since} (hs : r.since = some h)
    (hne : h.samples ≠ []) (hsum : total h.samples < 2 ^ 64) :
    Exact r.record h.samples ↔ h.Reached := by
  cases r with
  | ratt modes s cs a =>
    rw [Run.record, Ratt.run_apply]
    exact touched_exact_iff (s a) hs hne hsum
  | lttt launchTime cs =>
    rw [Run.record, Lttt.run_apply]
    exact touched_exact_iff launchTime hs hne hsum
  | cnp s cs a =>
    rw [Run.record, Cnp.run_apply]
    exact touched_exact_iff (s a).toMinAvgMax hs hne hsum

/-- Two round trips of 5 and 7 ns after a reset. -/
theorem short_rtt_exact :
    Exact (Run.ratt ⟨false, false⟩ (fun _ => cleared 0)
      [.resetStats, .update .rtt 5, .update .rtt 7] .rtt).record [5, 7] :=
  (accumulators_exact_iff (.ratt ⟨false, false⟩ (fun _ => cleared 0)
    [.resetStats, .update .rtt 5, .update .rtt 7] .rtt) (h := ⟨Ratt.bigNum, [5, 7]⟩) rfl (by simp)
    (by decide)).mpr ⟨by decide, 5, by simp, by decide⟩

/-- A round trip of 2 ms, a Tx time of 300 ns right after `reset_stats`, a launch
time of 61 ms and a probe of 2 ms: none of these is the minimum reported. -/
theorem long_samples_misreported :
    (Ratt.run ⟨true, false⟩ (fun _ => cleared 0)
        [.resetStats, .update .rtt 2000000] .rtt).minNs = 1000000 ∧
      ¬ Exact (Ratt.run ⟨true, false⟩ (fun _ => cleared 0)
        [.resetStats, .update .rtt 2000000] .rtt) [2000000] ∧
      ¬ Exact (Ratt.run ⟨true, false⟩ (fun _ => cleared 0)
        [.resetStats, .endTime .txSnapshot 100 400] .txSnapshot) [300] ∧
      ¬ Exact (Lttt.run (cleared 0) [.resetStats, .update 61000000]) [61000000] ∧
      ¬ Exact (Cnp.run (fun _ => ⟨cleared 0, 0⟩)
        [.resetStats, .startStatsTimer .swRtt 1000, .endStatsTimer .swRtt 2001000]
          .swRtt).toMinAvgMax [2000000] := by
  refine ⟨rfl, ?_, ?_, ?_, ?_⟩ <;>
    intro h <;>
    exact absurd h.minNs.1 (by decide)

end Rtdk.Accumulator
