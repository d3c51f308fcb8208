import Mathlib.Data.UInt
import Rtdk.StatRun

/-! Per-period statistics (builds with MQTT).

Every class counts its frames in a record of its own; a received frame that
completes its class's period hands the record over and clears it. But
`stats_reset_stats` clears the records of all classes. `call_accounted` says
what a call loses that way, and `isolated_iff` when a run loses nothing. -/

namespace Rtdk.Period
open Rtdk.NetDef Rtdk.Stat Rtdk.Config Rtdk.Thread Rtdk.StatRun

/-- The counters of a record that count frames. -/
inductive Counter
  | framesSent
  | framesReceived
  | outOfOrderErrors
  | payloadErrors
  | frameIdErrors
  deriving DecidableEq, Repr

def counterOf (st : Statistics) : Counter → UInt64
  | .framesSent => st.framesSent
  | .framesReceived => st.framesReceived
  | .outOfOrderErrors => st.outOfOrderErrors
  | .payloadErrors => st.payloadErrors
  | .frameIdErrors => st.frameIdErrors

/-- The call is an event of the class that the counter counts. -/
def counts (ty : FrameType) (c : Counter) : Event → Bool
  | .sent ty' _ _ => decide (ty' = ty) && decide (c = .framesSent)
  | .received ty' _ o p f _ _ => decide (ty' = ty) &&
    match c with
    | .framesSent => false
    | .framesReceived => true
    | .outOfOrderErrors => o
    | .payloadErrors => p
    | .frameIdErrors => f

/-- The number of such events. -/
def occurred (ty : FrameType) (c : Counter) (es : List Event) : Nat := es.countP (counts ty c)

/-- The counter summed up over all records of the class that were handed over. -/
def handedOver (s : StatPrivate) (ty : FrameType) (c : Counter) : UInt64 :=
  ((s.published.filter fun r => decide (r.1 = ty)).map fun r => counterOf r.2 c).sum

/-- Everything that was handed over, and the current record. -/
def accounted (s : StatPrivate) (ty : FrameType) (c : Counter) : UInt64 :=
  handedOver s ty c + counterOf (s.statisticsPerPeriod ty) c

/-- The record with the time stamp of its first frame. -/
def begun (st : Statistics) (currTime : UInt64) : Statistics :=
  if st.firstTimeStamp = 0 then { st with firstTimeStamp := currTime } else st

/-- The record is handed over with the frame received at `currTime`. -/
def due (cfg : StatConfig) (st : Statistics) (currTime : UInt64) : Bool :=
  st.ready ||
    decide (currTime - (begun st currTime).firstTimeStamp ≥ cfg.statsCollectionIntervalNs)

/-- The call completes the period of its class. -/
def publishes (cfg : StatConfig) (s : StatPrivate) : Event → Bool
  | .sent _ _ _ => false
  | .received ty _ _ _ _ tx now => due cfg (s.statisticsPerPeriod ty) (onewayEnd now tx)

/-! ## One call -/

theorem counterOf_addRoundTrip (st : Statistics) (realTime : Bool) (limit v : UInt64) (c : Counter) :
    counterOf (st.addRoundTrip realTime limit v) c = counterOf st c := by
  cases c <;> rfl

theorem counterOf_addFrame (st : Statistics) (ty : FrameType) (realTime : Bool)
    (limit k ow tx now : UInt64) (o p f : Bool) (c : Counter) :
    counterOf ((st.addOneway realTime limit ow).addFrame o p f) c =
      counterOf st c + (counts ty c (.received ty k o p f tx now)).toUInt64 := by
  cases c <;> simp [counterOf, counts, Statistics.addFrame, Statistics.addOneway]

theorem counterOf_addSent (st : Statistics) (ty : FrameType) (k t : UInt64) (c : Counter) :
    counterOf st.addSent c = counterOf st c + (counts ty c (.sent ty k t)).toUInt64 := by
  cases c <;> simp [counterOf, counts, Statistics.addSent]

theorem begun_spec (st : Statistics) (now : UInt64) (c : Counter) :
    counterOf (begun st now) c = counterOf st c ∧ (begun st now).ready = st.ready := by
  unfold begun
  split
  · exact ⟨by cases c <;> rfl, rfl⟩
  · exact ⟨rfl, rfl⟩

/-- The record, marked if its period ends with the frame. -/
def stamped (cfg : StatConfig) (st : Statistics) (currTime : UInt64) : Statistics :=
  if currTime - (begun st currTime).firstTimeStamp ≥ cfg.statsCollectionIntervalNs then
    { begun st currTime with ready := true, lastTimeStamp := currTime }
  else begun st currTime

theorem stamped_spec (cfg : StatConfig) (st : Statistics) (now : UInt64) (c : Counter) :
    counterOf (stamped cfg st now) c = counterOf st c ∧
      (stamped cfg st now).ready = due cfg st now := by
  obtain ⟨hcount, hready⟩ := begun_spec st now c
  unfold stamped due
  split
  · rename_i hend
    constructor
    · rw [← hcount]
      cases c <;> rfl
    · rw [decide_eq_true hend, Bool.or_true]
  · rename_i hend
    constructor
    · exact hcount
    · rw [decide_eq_false hend, Bool.or_false, hready]

/-- The record of a received frame: one more frame, and due or not. -/
theorem receivePerPeriod_spec (cfg : StatConfig) (ty : FrameType) (limit : UInt64) (st : Statistics)
    (k now rt ow tx now' : UInt64) (o p f : Bool) (c : Counter) :
    counterOf (st.receivePerPeriod cfg ty limit now rt ow o p f) c =
        counterOf st c + (counts ty c (.received ty k o p f tx now')).toUInt64 ∧
      (st.receivePerPeriod cfg ty limit now rt ow o p f).ready = due cfg st now := by
  have heq : st.receivePerPeriod cfg ty limit now rt ow o p f =
      ((if cfg.mirrorMode then stamped cfg st now
        else (stamped cfg st now).addRoundTrip ty.isRealTime limit rt).addOneway
          ty.isRealTime limit ow).addFrame o p f := rfl
  obtain ⟨hcount, hready⟩ := stamped_spec cfg st now c
  rw [heq]
  constructor
  · rw [counterOf_addFrame _ ty _ _ k _ tx now']
    split
    · rw [hcount]
    · rw [counterOf_addRoundTrip, hcount]
  · rw [← hready]
    show (if cfg.mirrorMode then stamped cfg st now
        else (stamped cfg st now).addRoundTrip ty.isRealTime limit rt).ready = _
    split <;> rfl

theorem storePeriod_spec (s : StatPrivate) (ty : FrameType) (st : Statistics) :
    (storePeriod s ty st).statisticsPerPeriod =
        (if st.ready then fun _ => Statistics.reset else setAt s.statisticsPerPeriod ty st) ∧
      (storePeriod s ty st).published = s.published ++ (if st.ready then [(ty, st)] else []) := by
  cases hready : st.ready <;> simp [storePeriod, statsResetPerPeriod, hready]

theorem halt_ne_sigfpe {r : Result} (h : r.halt = none) : r.halt ≠ some .sigfpe := by
  rw [h]
  exact (Option.some_ne_none _).symm

/-- The per-period part of a received frame, also of one that ends the process
as an outlier. -/
theorem received_perPeriod {cfg : StatConfig} (hmqtt : cfg.withMqtt = true) {s : StatPrivate}
    {ty : FrameType} {k : UInt64} {o p f : Bool} {tx now : UInt64}
    (h : (statFrameReceived cfg s ty k o p f tx now).halt ≠ some .sigfpe) :
    ∃ limit rt ow,
      let st := (s.statisticsPerPeriod ty).receivePerPeriod cfg ty limit (onewayEnd now tx) rt ow o p f
      let s' := (statFrameReceived cfg s ty k o p f tx now).stat
      s'.statisticsPerPeriod = (storePeriod s ty st).statisticsPerPeriod ∧
        s'.published = (storePeriod s ty st).published := by
  refine ⟨(roundTrip cfg s ty k now).stat.rttExpectedRtLimit, (roundTrip cfg s ty k now).rtTime,
    onewayTime now tx, ?_⟩
  have hrt : (roundTrip cfg s ty k now).stat.statisticsPerPeriod = s.statisticsPerPeriod ∧
      (roundTrip cfg s ty k now).stat.published = s.published := by
    unfold roundTrip
    split <;> exact ⟨rfl, rfl⟩
  unfold statFrameReceived at h ⊢
  simp only at h ⊢
  split at h
  · exact absurd rfl h
  · rename_i hz
    rw [if_neg hz]
    split
    all_goals
      simp only [oneway, statFrameReceivedPerPeriod, hmqtt, if_true, storePeriod, hrt.1, hrt.2]
      split <;> exact ⟨rfl, rfl⟩

/-- **One call.**  The record of the class counts the call; a due record is
handed over, and then the records of all classes are cleared. -/
theorem call_perPeriod {cfg : StatConfig} (hmqtt : cfg.withMqtt = true) {s : StatPrivate}
    {e : Event} (h : (e.call cfg s).halt = none) :
    ∃ st, (∀ c, counterOf st c =
        counterOf (s.statisticsPerPeriod e.ty) c + (counts e.ty c e).toUInt64) ∧
      (e.call cfg s).stat.statisticsPerPeriod =
        (if publishes cfg s e then fun _ => Statistics.reset
          else setAt s.statisticsPerPeriod e.ty st) ∧
      (e.call cfg s).stat.published =
        s.published ++ (if publishes cfg s e then [(e.ty, st)] else []) := by
  cases e with
  | sent ty k t =>
    refine ⟨(s.statisticsPerPeriod ty).addSent, ?_, ?_⟩
    · intro c
      exact counterOf_addSent _ ty k t c
    · simp only [Event.call, statFrameSent] at h ⊢
      split at h
      · cases h
      · rename_i hz
        simp only [if_neg hz, statFrameSentPerPeriod, hmqtt, if_true, publishes, Bool.false_eq_true,
          if_false, List.append_nil]
        split <;> exact ⟨rfl, rfl⟩
  | received ty k o p f tx now =>
    obtain ⟨limit, rt, ow, hspp, hpub⟩ := received_perPeriod hmqtt (halt_ne_sigfpe h)
    have hspec := receivePerPeriod_spec cfg ty limit (s.statisticsPerPeriod ty) k (onewayEnd now tx)
      rt ow tx now o p f
    refine ⟨_, fun c => (hspec c).1, hspp.trans ?_, hpub.trans ?_⟩
    · rw [(storePeriod_spec s ty _).1, (hspec .framesSent).2]
      rfl
    · rw [(storePeriod_spec s ty _).2, (hspec .framesSent).2]
      rfl

theorem handedOver_append (s s' : StatPrivate) (ty : FrameType) (c : Counter)
    (more : List (FrameType × Statistics)) (h : s'.published = s.published ++ more) :
    handedOver s' ty c = handedOver s ty c +
      ((more.filter fun r => decide (r.1 = ty)).map fun r => counterOf r.2 c).sum := by
  simp only [handedOver, h, List.filter_append, List.map_append, List.sum_append]

theorem counts_other {ty : FrameType} {e : Event} (h : ty ≠ e.ty) (c : Counter) :
    counts ty c e = false := by
  have hne : decide (e.ty = ty) = false := decide_eq_false (Ne.symm h)
  cases e with
  | sent ty' k t =>
    show (decide (ty' = ty) && _) = false
    rw [show decide (ty' = ty) = false from hne, Bool.false_and]
  | received ty' k o p f tx now =>
    show (decide (ty' = ty) && _) = false
    rw [show decide (ty' = ty) = false from hne, Bool.false_and]

theorem counterOf_reset (c : Counter) : counterOf Statistics.reset c = 0 := by
  cases c <;> rfl

/-- The class of a call loses nothing. -/
theorem call_accounted_own {cfg : StatConfig} (hmqtt : cfg.withMqtt = true) {s : StatPrivate}
    {e : Event} (h : (e.call cfg s).halt = none) (c : Counter) :
    accounted (e.call cfg s).stat e.ty c = accounted s e.ty c + (counts e.ty c e).toUInt64 := by
  obtain ⟨st, hcount, hspp, hpub⟩ := call_perPeriod hmqtt h
  unfold accounted
  rw [handedOver_append s _ e.ty c _ hpub, hspp]
  cases publishes cfg s e with
  | true =>
    simp only [if_true, decide_true, List.filter_cons_of_pos, List.filter_nil, List.map_cons,
      List.map_nil, List.sum_singleton, counterOf_reset, hcount, add_zero, add_assoc]
  | false =>
    simp only [Bool.false_eq_true, if_false, List.filter_nil, List.map_nil, List.sum_nil, add_zero,
      setAt_same, hcount, add_assoc]

/-- Another class keeps what was handed over, and keeps its record unless the
call publishes. -/
theorem call_other {cfg : StatConfig} (hmqtt : cfg.withMqtt = true) {s : StatPrivate}
    {e : Event} (h : (e.call cfg s).halt = none) {ty : FrameType} (hty : ty ≠ e.ty) (c : Counter) :
    handedOver (e.call cfg s).stat ty c = handedOver s ty c ∧
      counterOf ((e.call cfg s).stat.statisticsPerPeriod ty) c =
        if publishes cfg s e then 0 else counterOf (s.statisticsPerPeriod ty) c := by
  obtain ⟨st, -, hspp, hpub⟩ := call_perPeriod hmqtt h
  rw [handedOver_append s _ ty c _ hpub, hspp]
  have hne : decide (e.ty = ty) = false := decide_eq_false (Ne.symm hty)
  cases publishes cfg s e with
  | true =>
    constructor
    · simp only [if_true, List.filter_cons, hne, Bool.false_eq_true, if_false, List.filter_nil,
        List.map_nil, List.sum_nil, add_zero]
    · exact counterOf_reset c
  | false =>
    constructor
    · simp only [Bool.false_eq_true, if_false, List.filter_nil, List.map_nil, List.sum_nil, add_zero]
    · simp only [Bool.false_eq_true, if_false, setAt, if_neg hty]

/-! ## Runs -/

/-- In every state of the run that is reached, each counter of each class adds
up to the events of the run so far, and a call that publishes changes no
counter of another class. -/
structure Isolated (cfg : StatConfig) (s : StatPrivate) (es : List Event) : Prop where
  sums : ∀ es1, es1 <+: es → ∀ s1, play cfg s es1 = .ok s1 → ∀ ty c,
    accounted s1 ty c = UInt64.ofNat (occurred ty c es1)
  others : ∀ es1 e, es1 ++ [e] <+: es → ∀ s1, play cfg s es1 = .ok s1 →
    (e.call cfg s1).halt = none → publishes cfg s1 e = true → ∀ ty, ty ≠ e.ty → ∀ c,
      counterOf ((e.call cfg s1).stat.statisticsPerPeriod ty) c =
        counterOf (s1.statisticsPerPeriod ty) c

/-- Whenever a call completes the period of its class, the records of the other
classes count nothing. -/
def OthersEmpty (cfg : StatConfig) (s : StatPrivate) (es : List Event) : Prop :=
  ∀ es1 e, es1 ++ [e] <+: es → ∀ s1, play cfg s es1 = .ok s1 →
    (e.call cfg s1).halt = none → publishes cfg s1 e = true → ∀ ty, ty ≠ e.ty → ∀ c,
      counterOf (s1.statisticsPerPeriod ty) c = 0

theorem OthersEmpty.take {cfg : StatConfig} {s : StatPrivate} {es es1 : List Event}
    (h : OthersEmpty cfg s es) (hpre : es1 <+: es) : OthersEmpty cfg s es1 := by
  intro es2 e hes
  exact h es2 e (hes.trans hpre)

/-- A call that finds nothing to lose. -/
theorem call_accounted {cfg : StatConfig} (hmqtt : cfg.withMqtt = true) {s : StatPrivate}
    {e : Event} (h : (e.call cfg s).halt = none)
    (hempty : publishes cfg s e = true → ∀ ty, ty ≠ e.ty → ∀ c,
      counterOf (s.statisticsPerPeriod ty) c = 0) (ty : FrameType) (c : Counter) :
    accounted (e.call cfg s).stat ty c = accounted s ty c + (counts ty c e).toUInt64 := by
  by_cases hty : ty = e.ty
  · subst hty
    exact call_accounted_own hmqtt h c
  · obtain ⟨hover, hrecord⟩ := call_other hmqtt h hty c
    rw [accounted, accounted, hover, hrecord, counts_other hty]
    show _ = _ + (0 : UInt64)
    rw [add_zero]
    split
    · rename_i hpub
      rw [hempty hpub ty hty c]
    · rfl

theorem occurred_snoc (ty : FrameType) (c : Counter) (es : List Event) (e : Event) :
    UInt64.ofNat (occurred ty c (es ++ [e])) =
      UInt64.ofNat (occurred ty c es) + (counts ty c e).toUInt64 := by
  rw [occurred, List.countP_append, UInt64.ofNat_add, ← occurred]
  cases h : counts ty c e with
  | true =>
    rw [List.countP_cons_of_pos h]
    rfl
  | false =>
    rw [List.countP_cons_of_neg (by simp [h])]
    rfl

/-- Induction over the run, from its end: the last call adds what it counts. -/
theorem play_accounted (app : AppConfig) {cfg : StatConfig} (hmqtt : cfg.withMqtt = true)
    {mirrorMode : Bool} {es : List Event} (hempty : OthersEmpty cfg (statInit app mirrorMode) es)
    {s' : StatPrivate} (h : play cfg (statInit app mirrorMode) es = .ok s') (ty : FrameType)
    (c : Counter) :
    accounted s' ty c = UInt64.ofNat (occurred ty c es) := by
  induction es using List.reverseRecOn generalizing s' with
  | nil =>
    cases h
    cases c <;> rfl
  | append_singleton es e ih =>
    obtain ⟨s1, hes, hhalt, rfl⟩ := play_snoc_ok h
    have hfirst := ih (hempty.take (List.prefix_append es [e])) hes
    rw [occurred_snoc, ← hfirst]
    exact call_accounted hmqtt hhalt (hempty es e (List.prefix_refl _) s1 hes hhalt) ty c

/-- **Isolation.**  The sums of all classes are kept and no published period
touches another class, if and only if each call that publishes finds the records
of all other classes empty. -/
theorem isolated_iff (app : AppConfig) {cfg : StatConfig} (hmqtt : cfg.withMqtt = true)
    (es : List Event) :
    Isolated cfg (statInit app cfg.mirrorMode) es ↔
      OthersEmpty cfg (statInit app cfg.mirrorMode) es := by
  constructor
  · intro h es1 e hes s1 hs1 hhalt hpub ty hty c
    rw [← h.others es1 e hes s1 hs1 hhalt hpub ty hty c, (call_other hmqtt hhalt hty c).2, hpub]
    rfl
  · intro h
    constructor
    · intro es1 hes s1 hs1 ty c
      exact play_accounted app hmqtt (h.take hes) hs1 ty c
    · intro es1 e hes s1 hs1 hhalt hpub ty hty c
      rw [h es1 e hes s1 hs1 hhalt hpub ty hty c, (call_other hmqtt hhalt hty c).2, hpub]
      rfl

/-! One RTC frame is sent, then the period of TSN high ends. -/

def periodApp : AppConfig := AppConfig.small .none 40 1 []

def periodConfig : StatConfig where
  withMqtt := true
  mirrorMode := false
  statsHistogramEnabled := false
  statsCollectionIntervalNs := 1000000000
  debugStopTraceOnOutlier := false

def rtcSent : Event := .sent .rtc 0 500

def tsnReceived (now : UInt64) : Event := .received .tsnHigh 0 false false false 500 now

theorem isolated_single_class :
    Isolated periodConfig (statInit periodApp false) [tsnReceived 1000, tsnReceived 1000001000] := by
  refine (isolated_iff periodApp rfl _).2 ?_
  intro es1 e hes s1 hs1 hhalt hpub ty hty c
  match es1 with
  | [] =>
    cases hs1
    cases c <;> rfl
  | [e1] =>
    obtain ⟨rfl, hrest⟩ := List.cons_prefix_cons.mp hes
    obtain ⟨rfl, -⟩ := List.cons_prefix_cons.mp hrest
    cases hs1
    cases ty <;> cases c <;> first | rfl | exact absurd rfl hty
  | _ :: _ :: _ =>
    have hlen := hes.length_le
    simp at hlen

/-- The record of RTC is cleared with the one of TSN high. -/
theorem rtc_sent_lost :
    ¬ Isolated periodConfig (statInit periodApp false)
      [rtcSent, tsnReceived 1000, tsnReceived 1000001000] := by
  intro h
  have hsum := h.sums _ (List.prefix_refl _) _ rfl .rtc .framesSent
  exact absurd hsum (by decide +kernel)

end Rtdk.Period
