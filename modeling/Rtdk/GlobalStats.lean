import Rtdk.Accumulator
import Rtdk.Runs
import Rtdk.StatRun

/-! Global statistics over a run (reference mode).

Each class keeps minimum, maximum, number and sum of its round-trip and of its
one-way samples. `stats_reset_all_stats` clears the records between any two
frames, but not the backlog. The minima then start from a quarter of a second,
where at start-up they started from the largest value. What the records are to
say is read off the calls alone (`history`): the samples since the last reset,
and the value the minima started from. -/

namespace Rtdk.GlobalStats
open Rtdk.NetDef Rtdk.Stat Rtdk.Config Rtdk.Thread Rtdk.StatRun Rtdk.Extremes Rtdk.Accumulator
open Rtdk.Runs

/-! ## Calls -/

/-- `stats_reset_all_stats`. Clearing the record of a class clears the
per-period records of all of them. -/
def statsResetAllStats (s : StatPrivate) : StatPrivate :=
  { s with
    globalStatistics := fun _ => Statistics.reset
    statisticsPerPeriod := fun _ => Statistics.reset }

inductive Call
  | frame (e : Event)
  | statsResetAllStats
  deriving DecidableEq, Repr

def step (cfg : StatConfig) (s : StatPrivate) : Call → Except Halt StatPrivate
  | .frame e =>
    match (e.call cfg s).halt with
    | some reason => .error reason
    | none => .ok (e.call cfg s).stat
  | .statsResetAllStats => .ok (statsResetAllStats s)

def run (cfg : StatConfig) (s : StatPrivate) (cs : List Call) : Except Halt StatPrivate :=
  cs.foldlM (step cfg) s

theorem step_frame_ok {cfg : StatConfig} {s s' : StatPrivate} {e : Event}
    (h : step cfg s (.frame e) = .ok s') :
    (e.call cfg s).halt = none ∧ (e.call cfg s).stat = s' := by
  rw [step] at h
  cases hh : (e.call cfg s).halt with
  | some reason =>
    rw [hh] at h
    cases h
  | none =>
    rw [hh] at h
    exact ⟨rfl, Except.ok.inj h⟩

/-! ## What the calls measured -/

structure Sample where
  roundTrip : UInt64
  oneway : UInt64
  deriving DecidableEq, Repr

/-- The frames so far, and the samples of one class since the last reset. -/
structure History where
  frames : List Event
  start : UInt64
  samples : List Sample
  deriving DecidableEq, Repr

def History.roundTrips (h : History) : List UInt64 := h.samples.map Sample.roundTrip
def History.oneways (h : History) : List UInt64 := h.samples.map Sample.oneway

/-- What a frame of the class measures, received after other frames. -/
def sampleOf (len : UInt64) (ty : FrameType) (before : List Event) : Event → Option Sample
  | .sent _ _ _ => none
  | .received ty' k _ _ _ tx now =>
    if ty' = ty then
      some { roundTrip := (now - (lastEntry ty len (slotOf len k) ⟨0, 0⟩ before).timestamp) / 1000
             oneway := onewayTime now tx }
    else none

def History.next (len : UInt64) (ty : FrameType) (h : History) : Call → History
  | .frame e =>
    { h with
      frames := h.frames ++ [e]
      samples := h.samples ++ (sampleOf len ty h.frames e).toList }
  | .statsResetAllStats => { h with start := 250000, samples := [] }

def backlogLen (app : AppConfig) (ty : FrameType) : UInt64 :=
  ((statInit app false).roundTripContexts ty).backlogLen

def history (app : AppConfig) (ty : FrameType) (cs : List Call) : History :=
  cs.foldl (History.next (backlogLen app ty) ty)
    { frames := [], start := UInt64.ofNat (2 ^ 64 - 1), samples := [] }

theorem history_snoc (app : AppConfig) (ty : FrameType) (cs : List Call) (c : Call) :
    history app ty (cs ++ [c]) = (history app ty cs).next (backlogLen app ty) ty c := by
  simp [history]

/-- The samples before the last one of a list were all there is at an earlier call. -/
theorem history_prefix (app : AppConfig) (ty : FrameType) {cs : List Call} {xs : List Sample}
    (h : xs <+: (history app ty cs).samples) :
    ∃ cs1, cs1 <+: cs ∧ (history app ty cs1).samples = xs := by
  induction cs using List.reverseRecOn with
  | nil => exact ⟨[], List.prefix_refl _, (List.prefix_nil.mp h).symm⟩
  | append_singleton cs c ih =>
    have hearlier (hxs : xs <+: (history app ty cs).samples) :
        ∃ cs1, cs1 <+: cs ++ [c] ∧ (history app ty cs1).samples = xs := by
      obtain ⟨cs1, hcs1, heq⟩ := ih hxs
      exact ⟨cs1, List.prefix_append_of_prefix hcs1, heq⟩
    rw [history_snoc] at h
    cases c with
    | statsResetAllStats =>
      obtain rfl := List.prefix_nil.mp h
      exact hearlier List.nil_prefix
    | frame e =>
      simp only [History.next] at h
      cases hs : sampleOf (backlogLen app ty) ty (history app ty cs).frames e with
      | none =>
        rw [hs, Option.toList_none, List.append_nil] at h
        exact hearlier h
      | some x =>
        rw [hs, Option.toList_some] at h
        rcases List.prefix_concat_iff.mp h with hall | hxs
        · refine ⟨cs ++ [.frame e], List.prefix_refl _, ?_⟩
          rw [history_snoc, hall]
          simp [History.next, hs]
        · exact hearlier hxs

/-! ## One kind of sample -/

/-- The fields of a record that one kind of sample goes to. -/
structure Gauge where
  min : UInt64
  max : UInt64
  count : UInt64
  sum : Nat

def roundTripGauge (st : Statistics) : Gauge :=
  ⟨st.roundTripMin, st.roundTripMax, st.roundTripCount, st.roundTripSum⟩

def onewayGauge (st : Statistics) : Gauge :=
  ⟨st.onewayMin, st.onewayMax, st.onewayCount, st.onewaySum⟩

def Gauge.add (g : Gauge) (v : UInt64) : Gauge where
  min := statUpdateMin v g.min
  max := statUpdateMax v g.max
  count := g.count + 1
  sum := toDouble (g.sum + toDouble v.toNat)

theorem addRoundTrip_gauges (st : Statistics) (realTime : Bool) (limit v : UInt64) :
    roundTripGauge (st.addRoundTrip realTime limit v) = (roundTripGauge st).add v ∧
      onewayGauge (st.addRoundTrip realTime limit v) = onewayGauge st := by
  simp only [roundTripGauge, onewayGauge, Gauge.add, Statistics.addRoundTrip, and_self]

theorem addOneway_gauges (st : Statistics) (realTime : Bool) (limit v : UInt64) :
    roundTripGauge (st.addOneway realTime limit v) = roundTripGauge st ∧
      onewayGauge (st.addOneway realTime limit v) = (onewayGauge st).add v := by
  simp only [roundTripGauge, onewayGauge, Gauge.add, Statistics.addOneway, and_self]

theorem addFrame_gauges (st : Statistics) (o p f : Bool) :
    roundTripGauge (st.addFrame o p f) = roundTripGauge st ∧
      onewayGauge (st.addFrame o p f) = onewayGauge st :=
  ⟨rfl, rfl⟩

/-- The invariant: the minimum runs from the value it was given, the sum is
rounded to a `double` at each sample. -/
structure Gauge.Tracks (g : Gauge) (start : UInt64) (xs : List UInt64) : Prop where
  min : g.min.toNat = runMin start.toNat (xs.map UInt64.toNat)
  max : g.max.toNat = runMax 0 (xs.map UInt64.toNat)
  count : g.count = UInt64.ofNat xs.length
  sum : g.sum = runSum toDouble (xs.map UInt64.toNat)

theorem ofNat_length_snoc {α : Type} (xs : List α) (x : α) :
    UInt64.ofNat (xs ++ [x]).length = UInt64.ofNat xs.length + 1 := by
  rw [List.length_append, List.length_singleton, UInt64.ofNat_add]
  rfl

theorem Gauge.Tracks.add {g : Gauge} {start : UInt64} {xs : List UInt64} (h : g.Tracks start xs)
    (v : UInt64) : (g.add v).Tracks start (xs ++ [v]) where
  min := by
    simp only [Gauge.add, statUpdateMin, toNat_ite_lt, List.map_append, List.map_cons,
      List.map_nil, runMin_snoc, h.min]
  max := by
    simp only [Gauge.add, statUpdateMax, toNat_ite_gt, List.map_append, List.map_cons,
      List.map_nil, runMax_snoc, h.max]
  count := by
    simp only [Gauge.add, h.count, ofNat_length_snoc]
  sum := by
    simp only [Gauge.add, List.map_append, List.map_cons, List.map_nil, runSum_snoc, h.sum]

/-- The fields say what the samples are; of the sum this is asked below 2^64. -/
structure Gauge.Exact (g : Gauge) (xs : List UInt64) : Prop where
  min : g.min ∈ xs ∧ ∀ x ∈ xs, g.min ≤ x
  max : g.max ∈ xs ∧ ∀ x ∈ xs, x ≤ g.max
  sum : total xs < 2 ^ 64 → g.sum = total xs

theorem Gauge.Tracks.isLeast_iff {g : Gauge} {start : UInt64} {xs : List UInt64}
    (h : g.Tracks start xs) : (g.min ∈ xs ∧ ∀ x ∈ xs, g.min ≤ x) ↔ ∃ x ∈ xs, x ≤ start := by
  rw [← isLeast_toNat_iff, h.min, isLeast_runMin_iff]
  simp [UInt64.le_iff_toNat_le]

theorem Gauge.Tracks.isGreatest {g : Gauge} {start : UInt64} {xs : List UInt64}
    (h : g.Tracks start xs) (hne : xs ≠ []) : g.max ∈ xs ∧ ∀ x ∈ xs, x ≤ g.max := by
  rw [← isGreatest_toNat_iff, h.max, isGreatest_runMax_iff]
  obtain ⟨x, hx⟩ := List.exists_mem_of_ne_nil _ hne
  exact ⟨x.toNat, List.mem_map_of_mem hx, Nat.zero_le _⟩

/-- One sample is not above the value the minimum started from, and as long as
their sum is below 2^64 no addition of `double`s rounds. -/
def Met (start : UInt64) (xs : List UInt64) : Prop :=
  (∃ x ∈ xs, x ≤ start) ∧ (total xs < 2 ^ 64 → Unrounded toDouble (xs.map UInt64.toNat))

theorem Gauge.Tracks.exact {g : Gauge} {start : UInt64} {xs : List UInt64}
    (h : g.Tracks start xs) (hmet : Met start xs) : g.Exact xs where
  min := h.isLeast_iff.mpr hmet.1
  max := by
    obtain ⟨x, hx, -⟩ := hmet.1
    exact h.isGreatest (List.ne_nil_of_mem hx)
  sum hlt := h.sum.trans (hmet.2 hlt).runSum_eq

/-- A `double` holds every number of at most 53 bits. -/
theorem toDouble_of_lt {n : Nat} (h : n < 2 ^ 53) : toDouble n = n := by
  have hlog : n.log2 - 52 = 0 := by
    rcases Nat.eq_zero_or_pos n with rfl | hpos
    · rfl
    · have hlt : n.log2 < 53 := (Nat.log2_lt (by omega)).mpr h
      omega
  simp [toDouble, hlog, Nat.mod_one]

/-- Nothing is rounded while the sum takes at most 53 bits. -/
theorem unrounded_of_total_lt {xs : List UInt64} (h : total xs < 2 ^ 53) :
    Unrounded toDouble (xs.map UInt64.toNat) :=
  unrounded_of_sum_lt (fun _ hn => toDouble_of_lt hn) h

/-! ## What one call does to the record of a class -/

theorem sent_global {cfg : StatConfig} {s : StatPrivate} {ty : FrameType} {k t : UInt64}
    (h : (statFrameSent cfg s ty k t).halt = none) :
    (statFrameSent cfg s ty k t).stat.globalStatistics =
      setAt s.globalStatistics ty (s.globalStatistics ty).addSent := by
  unfold statFrameSent at h ⊢
  simp only at h ⊢
  split at h
  · cases h
  · rename_i hz
    simp only [if_neg hz, statFrameSentPerPeriod]
    cases cfg.mirrorMode <;> cases cfg.withMqtt <;> rfl

theorem received_global_other {cfg : StatConfig} {s : StatPrivate} {ty ty' : FrameType}
    {k : UInt64} {o p f : Bool} {tx now : UInt64} (hne : ty' ≠ ty)
    (h : (statFrameReceived cfg s ty k o p f tx now).halt = none) :
    (statFrameReceived cfg s ty k o p f tx now).stat.globalStatistics ty' =
      s.globalStatistics ty' := by
  have hother {α : Type} (g : FrameType → α) (v : α) : setAt g ty v ty' = g ty' := by
    rw [setAt, if_neg hne]
  have hrt : (roundTrip cfg s ty k now).stat.globalStatistics ty' = s.globalStatistics ty' := by
    unfold roundTrip
    split
    · rfl
    · exact hother _ _
  unfold statFrameReceived at h ⊢
  simp only at h ⊢
  split at h
  · cases h
  · rename_i hz
    rw [if_neg hz]
    split at h
    · cases h
    · rename_i hstop
      simp only [hstop, Bool.false_eq_true, if_false, hother, oneway]
      rw [(perPeriod_other _ _ _ _ _ _ _ _ _).1]
      exact (hother _ _).trans hrt

/-- What the fields of the class hold after the history. -/
structure Follows (len : UInt64) (s : StatPrivate) (ty : FrameType) (h : History) : Prop where
  backlogLen : (s.roundTripContexts ty).backlogLen = len
  backlog : ∀ slot, (s.roundTripContexts ty).backlog slot = lastEntry ty len slot ⟨0, 0⟩ h.frames
  roundTrips : (roundTripGauge (s.globalStatistics ty)).Tracks h.start h.roundTrips
  oneways : (onewayGauge (s.globalStatistics ty)).Tracks h.start h.oneways
  received : (s.globalStatistics ty).framesReceived = UInt64.ofNat h.samples.length

section step

variable {cfg : StatConfig} {len : UInt64} {s : StatPrivate} {ty : FrameType} {h : History}

theorem Follows.reset (hf : Follows len s ty h) :
    Follows len (statsResetAllStats s) ty (h.next len ty .statsResetAllStats) where
  backlogLen := hf.backlogLen
  backlog := hf.backlog
  roundTrips := ⟨rfl, rfl, rfl, rfl⟩
  oneways := ⟨rfl, rfl, rfl, rfl⟩
  received := rfl

/-- The backlogs follow the frames of all classes. -/
theorem Follows.frame_backlog (href : cfg.mirrorMode = false) (hf : Follows len s ty h) {e : Event}
    (he : (e.call cfg s).halt = none) :
    ((e.call cfg s).stat.roundTripContexts ty).backlogLen = len ∧
      ∀ slot, ((e.call cfg s).stat.roundTripContexts ty).backlog slot =
        lastEntry ty len slot ⟨0, 0⟩ (h.frames ++ [e]) := by
  constructor
  · rw [(call_backlog href he ty 0).1]
    exact hf.backlogLen
  · intro slot
    rw [(call_backlog href he ty slot).2, hf.backlogLen, hf.backlog, lastEntry_append]
    rfl

/-- A frame that measures nothing for the class leaves what was measured. -/
theorem Follows.unsampled (href : cfg.mirrorMode = false) (hf : Follows len s ty h) {e : Event}
    (he : (e.call cfg s).halt = none) (hs : sampleOf len ty h.frames e = none)
    (hrt : roundTripGauge ((e.call cfg s).stat.globalStatistics ty) =
      roundTripGauge (s.globalStatistics ty))
    (how : onewayGauge ((e.call cfg s).stat.globalStatistics ty) =
      onewayGauge (s.globalStatistics ty))
    (hrx : ((e.call cfg s).stat.globalStatistics ty).framesReceived =
      (s.globalStatistics ty).framesReceived) :
    Follows len (e.call cfg s).stat ty (h.next len ty (.frame e)) := by
  obtain ⟨hlen, hbacklog⟩ := hf.frame_backlog href he
  have hsame : (h.next len ty (.frame e)).samples = h.samples := by
    simp [History.next, hs]
  refine ⟨hlen, hbacklog, ?_, ?_, ?_⟩
  · rw [hrt, History.roundTrips, hsame]
    exact hf.roundTrips
  · rw [how, History.oneways, hsame]
    exact hf.oneways
  · rw [hrx, hsame]
    exact hf.received

theorem Follows.sent (href : cfg.mirrorMode = false) (hf : Follows len s ty h) {ty' : FrameType}
    {k t : UInt64} (he : (Event.call cfg s (.sent ty' k t)).halt = none) :
    Follows len (Event.call cfg s (.sent ty' k t)).stat ty
      (h.next len ty (.frame (.sent ty' k t))) := by
  have hglobal : (Event.call cfg s (.sent ty' k t)).stat.globalStatistics ty =
      if ty = ty' then (s.globalStatistics ty').addSent else s.globalStatistics ty := by
    change (statFrameSent cfg s ty' k t).stat.globalStatistics ty = _
    rw [sent_global he]
    rfl
  by_cases hty : ty = ty'
  · subst hty
    rw [if_pos rfl] at hglobal
    refine hf.unsampled href he rfl ?_ ?_ ?_
    all_goals
      rw [hglobal]
      rfl
  · rw [if_neg hty] at hglobal
    refine hf.unsampled href he rfl ?_ ?_ ?_
    all_goals
      rw [hglobal]

/-- A received frame of the class adds one sample of each kind. -/
theorem Follows.received_own (href : cfg.mirrorMode = false) (hf : Follows len s ty h)
    {k : UInt64} {o p f : Bool} {tx now : UInt64}
    (he : (Event.call cfg s (.received ty k o p f tx now)).halt = none) :
    Follows len (Event.call cfg s (.received ty k o p f tx now)).stat ty
      (h.next len ty (.frame (.received ty k o p f tx now))) := by
  obtain ⟨hlen, hbacklog⟩ := hf.frame_backlog href he
  have hrt : (roundTrip cfg s ty k now).stat.globalStatistics ty =
      (s.globalStatistics ty).addRoundTrip ty.isRealTime s.rttExpectedRtLimit
        ((now - (lastEntry ty len (slotOf len k) ⟨0, 0⟩ h.frames).timestamp) / 1000) := by
    rw [← hf.backlog, ← hf.backlogLen]
    simp only [roundTrip, href, Bool.false_eq_true, if_false, roundTripSample, setAt_same, slotOf]
  have hglobal : (Event.call cfg s (.received ty k o p f tx now)).stat.globalStatistics ty = _ :=
    (statFrameReceived_global he).1
  rw [hrt] at hglobal
  have hsamples : (h.next len ty (.frame (.received ty k o p f tx now))).samples = h.samples ++
      [{ roundTrip := (now - (lastEntry ty len (slotOf len k) ⟨0, 0⟩ h.frames).timestamp) / 1000
         oneway := onewayTime now tx }] := by
    simp [History.next, sampleOf]
  refine ⟨hlen, hbacklog, ?_, ?_, ?_⟩
  · rw [hglobal, (addFrame_gauges _ _ _ _).1, (addOneway_gauges _ _ _ _).1,
      (addRoundTrip_gauges _ _ _ _).1, History.roundTrips, hsamples, List.map_append]
    exact hf.roundTrips.add _
  · rw [hglobal, (addFrame_gauges _ _ _ _).2, (addOneway_gauges _ _ _ _).2,
      (addRoundTrip_gauges _ _ _ _).2, History.oneways, hsamples, List.map_append]
    exact hf.oneways.add _
  · rw [hglobal, hsamples, ofNat_length_snoc, ← hf.received]
    rfl

theorem Follows.received_other (href : cfg.mirrorMode = false) (hf : Follows len s ty h)
    {ty' : FrameType} (hne : ty' ≠ ty) {k : UInt64} {o p f : Bool} {tx now : UInt64}
    (he : (Event.call cfg s (.received ty' k o p f tx now)).halt = none) :
    Follows len (Event.call cfg s (.received ty' k o p f tx now)).stat ty
      (h.next len ty (.frame (.received ty' k o p f tx now))) := by
  have hglobal : (Event.call cfg s (.received ty' k o p f tx now)).stat.globalStatistics ty =
      s.globalStatistics ty := received_global_other (Ne.symm hne) he
  refine hf.unsampled href he ?_ ?_ ?_ ?_
  · simp [sampleOf, hne]
  all_goals
    rw [hglobal]

theorem Follows.step (href : cfg.mirrorMode = false) (hf : Follows len s ty h) {c : Call}
    {s' : StatPrivate} (hc : GlobalStats.step cfg s c = .ok s') :
    Follows len s' ty (h.next len ty c) := by
  cases c with
  | statsResetAllStats =>
    cases hc
    exact hf.reset
  | frame e =>
    obtain ⟨he, rfl⟩ := step_frame_ok hc
    cases e with
    | sent ty' k t => exact hf.sent href he
    | received ty' k o p f tx now =>
      by_cases hty : ty' = ty
      · subst hty
        exact hf.received_own href he
      · exact hf.received_other href hty he

end step

theorem run_follows (app : AppConfig) {cfg : StatConfig} (href : cfg.mirrorMode = false)
    {cs : List Call} {s : StatPrivate} (hr : run cfg (statInit app false) cs = .ok s)
    (ty : FrameType) : Follows (backlogLen app ty) s ty (history app ty cs) := by
  induction cs using List.reverseRecOn generalizing s with
  | nil =>
    cases hr
    exact ⟨rfl, fun _ => rfl, ⟨rfl, rfl, rfl, rfl⟩, ⟨rfl, rfl, rfl, rfl⟩, rfl⟩
  | append_singleton cs c ih =>
    obtain ⟨s1, hcs, hc⟩ := foldlM_snoc_ok.mp hr
    rw [history_snoc]
    exact (ih hcs).step href hc

/-! ## Exactness -/

/-- The record says what the class has measured since the last reset. -/
structure Reports (st : Statistics) (h : History) : Prop where
  roundTrips : (roundTripGauge st).Exact h.roundTrips
  oneways : (onewayGauge st).Exact h.oneways
  roundTripCount : st.roundTripCount = st.framesReceived
  onewayCount : st.onewayCount = st.framesReceived

def History.Met (h : History) : Prop :=
  GlobalStats.Met h.start h.roundTrips ∧ GlobalStats.Met h.start h.oneways

/-- Every class that has received a frame since the last reset meets `P`, in
every state of the run that is reached. -/
def Throughout (cfg : StatConfig) (app : AppConfig) (cs : List Call)
    (P : StatPrivate → FrameType → History → Prop) : Prop :=
  ∀ cs1, cs1 <+: cs → ∀ s, run cfg (statInit app false) cs1 = .ok s → ∀ ty,
    (history app ty cs1).samples ≠ [] → P s ty (history app ty cs1)

theorem Follows.counts {len : UInt64} {s : StatPrivate} {ty : FrameType} {h : History}
    (hf : Follows len s ty h) :
    (s.globalStatistics ty).roundTripCount = (s.globalStatistics ty).framesReceived ∧
      (s.globalStatistics ty).onewayCount = (s.globalStatistics ty).framesReceived := by
  constructor
  · have hcount : (s.globalStatistics ty).roundTripCount = UInt64.ofNat h.roundTrips.length :=
      hf.roundTrips.count
    rw [hcount, hf.received, History.roundTrips, List.length_map]
  · have hcount : (s.globalStatistics ty).onewayCount = UInt64.ofNat h.oneways.length :=
      hf.oneways.count
    rw [hcount, hf.received, History.oneways, List.length_map]

/-- If the sum was right after each of the samples, no addition has rounded. -/
theorem unrounded_of_prefixes {f : Sample → UInt64} {xs : List Sample}
    (hlt : total (xs.map f) < 2 ^ 64)
    (hsum : ∀ ys, ys <+: xs → total (ys.map f) < 2 ^ 64 →
      runSum toDouble ((ys.map f).map UInt64.toNat) = total (ys.map f)) :
    Unrounded toDouble ((xs.map f).map UInt64.toNat) := by
  rw [unrounded_iff]
  intro ms hms
  have hms' : ms = ((xs.take ms.length).map f).map UInt64.toNat := by
    rw [List.map_take, List.map_take]
    exact List.prefix_iff_eq_take.mp hms
  have hle : ms.sum ≤ total (xs.map f) := hms.sublist.sum_le_sum fun _ _ => Nat.zero_le _
  have hbelow : total ((xs.take ms.length).map f) < 2 ^ 64 := by
    rw [total, ← hms']
    exact Nat.lt_of_le_of_lt hle hlt
  have h := hsum _ (List.take_prefix _ _) hbelow
  rwa [total, ← hms'] at h

/-- In every state reached each class's record is exact, if and only if in every
state reached one of its samples is not above the value its minimum started from,
for both kinds, and no addition to its sums has rounded. -/
theorem statistics_exact_iff (app : AppConfig) {cfg : StatConfig} (href : cfg.mirrorMode = false)
    (cs : List Call) :
    Throughout cfg app cs (fun s ty h => Reports (s.globalStatistics ty) h) ↔
      Throughout cfg app cs (fun _ _ h => h.Met) := by
  constructor
  · intro hexact cs1 hcs1 s hs ty hne
    have hf := run_follows app href hs ty
    have hreports := hexact cs1 hcs1 s hs ty hne
    have hearlier : ∀ ys, ys <+: (history app ty cs1).samples → ys ≠ [] → ∃ st h,
        Reports st h ∧ h.samples = ys ∧
          (roundTripGauge st).sum = runSum toDouble (h.roundTrips.map UInt64.toNat) ∧
          (onewayGauge st).sum = runSum toDouble (h.oneways.map UInt64.toNat) := by
      intro ys hys hys0
      obtain ⟨cs2, hcs2, rfl⟩ := history_prefix app ty hys
      obtain ⟨s2, hs2⟩ := foldlM_prefix_ok hs hcs2
      have hf2 := run_follows app href hs2 ty
      exact ⟨_, _, hexact cs2 (hcs2.trans hcs1) s2 hs2 ty hys0, rfl, hf2.roundTrips.sum,
        hf2.oneways.sum⟩
    refine ⟨⟨hf.roundTrips.isLeast_iff.mp hreports.roundTrips.min, fun hlt => ?_⟩,
      ⟨hf.oneways.isLeast_iff.mp hreports.oneways.min, fun hlt => ?_⟩⟩
    · refine unrounded_of_prefixes hlt fun ys hys hys64 => ?_
      by_cases hys0 : ys = []
      · rw [hys0]
        rfl
      · obtain ⟨st, h, hrep, rfl, hsum, -⟩ := hearlier ys hys hys0
        exact hsum.symm.trans (hrep.roundTrips.sum hys64)
    · refine unrounded_of_prefixes hlt fun ys hys hys64 => ?_
      by_cases hys0 : ys = []
      · rw [hys0]
        rfl
      · obtain ⟨st, h, hrep, rfl, -, hsum⟩ := hearlier ys hys hys0
        exact hsum.symm.trans (hrep.oneways.sum hys64)
  · intro hmet cs1 hcs1 s hs ty hne
    have hf := run_follows app href hs ty
    have hm := hmet cs1 hcs1 s hs ty hne
    exact ⟨hf.roundTrips.exact hm.1, hf.oneways.exact hm.2, hf.counts.1, hf.counts.2⟩

/-! A frame that takes 300 ms, before and after a reset. -/

def statsApp : AppConfig := AppConfig.small .none 40 1 []

def statsConfig : StatConfig where
  withMqtt := false
  mirrorMode := false
  statsHistogramEnabled := false
  statsCollectionIntervalNs := 1000000000
  debugStopTraceOnOutlier := false

def slowFrame : List Call :=
  [.frame (.sent .tsnHigh 0 1000),
    .frame (.received .tsnHigh 0 false false false 1000 300001000)]

theorem slow_frame_exact :
    Throughout statsConfig statsApp slowFrame
      (fun s ty h => Reports (s.globalStatistics ty) h) := by
  refine (statistics_exact_iff statsApp rfl _).2 ?_
  intro cs1 hcs1 s hs ty hne
  match cs1 with
  | [] => exact absurd rfl hne
  | [c] =>
    obtain ⟨rfl, -⟩ := List.cons_prefix_cons.mp hcs1
    exact absurd rfl hne
  | [c, c'] =>
    obtain ⟨rfl, hrest⟩ := List.cons_prefix_cons.mp hcs1
    obtain ⟨rfl, -⟩ := List.cons_prefix_cons.mp hrest
    cases ty with
    | tsnHigh =>
      have hmet : Met (UInt64.ofNat (2 ^ 64 - 1)) [300000] :=
        ⟨⟨300000, List.mem_singleton_self _, by decide⟩, fun _ => unrounded_of_total_lt (by decide)⟩
      exact ⟨hmet, hmet⟩
    | _ => exact absurd rfl hne
  | _ :: _ :: _ :: _ =>
    have hlen := hcs1.length_le
    simp [slowFrame] at hlen

/-- The minimum stays at a quarter of a second. -/
theorem slow_frame_after_reset :
    ¬ Throughout statsConfig statsApp (.statsResetAllStats :: slowFrame)
      (fun s ty h => Reports (s.globalStatistics ty) h) := by
  intro h
  have hreports := h _ (List.prefix_refl _) _ rfl .tsnHigh (by decide)
  exact absurd hreports.roundTrips.min.1 (by decide +kernel)

end Rtdk.GlobalStats
