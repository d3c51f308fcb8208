import Rtdk.StatRun

/-! Round-trip samples.

A received frame takes its sample from the backlog slot of its counter, whatever
the slot holds. In a run in which frames come back once and in time, the slot
still holds the frame's own entry, also after the cycle counter of the wire has
wrapped (`roundtrip_exact`). A duplicate, a very late frame or a counter that
was never sent is sampled too; `samples_sound` says when that does not happen. -/

namespace Rtdk.Rtt
open Rtdk.Memory Rtdk.NetDef Rtdk.Stat Rtdk.Config Rtdk.Thread Rtdk.StatRun

/-! ## What a received frame adds -/

/-- The class's statistics and its histogram took the round-trip sample `v`. -/
structure Sampled (cfg : StatConfig) (s s' : StatPrivate) (ty : FrameType) (v : UInt64) : Prop where
  min : (s'.globalStatistics ty).roundTripMin =
    statUpdateMin v (s.globalStatistics ty).roundTripMin
  max : (s'.globalStatistics ty).roundTripMax =
    statUpdateMax v (s.globalStatistics ty).roundTripMax
  count : (s'.globalStatistics ty).roundTripCount = (s.globalStatistics ty).roundTripCount + 1
  outliers : (s'.globalStatistics ty).roundTripOutliers =
    if ty.isRealTime && decide (v > s.rttExpectedRtLimit) then
      (s.globalStatistics ty).roundTripOutliers + 1
    else (s.globalStatistics ty).roundTripOutliers
  sum : (s'.globalStatistics ty).roundTripSum =
    toDouble ((s.globalStatistics ty).roundTripSum + toDouble v.toNat)
  histogram : s'.histograms ty =
    if cfg.statsHistogramEnabled then histogramUpdate (s.histograms ty) v else s.histograms ty

/-- The class's statistics and its histogram took no round-trip sample. -/
structure Unsampled (s s' : StatPrivate) (ty : FrameType) : Prop where
  min : (s'.globalStatistics ty).roundTripMin = (s.globalStatistics ty).roundTripMin
  max : (s'.globalStatistics ty).roundTripMax = (s.globalStatistics ty).roundTripMax
  count : (s'.globalStatistics ty).roundTripCount = (s.globalStatistics ty).roundTripCount
  outliers : (s'.globalStatistics ty).roundTripOutliers = (s.globalStatistics ty).roundTripOutliers
  sum : (s'.globalStatistics ty).roundTripSum = (s.globalStatistics ty).roundTripSum
  histogram : s'.histograms ty = s.histograms ty

theorem perPeriod_histograms (cfg : StatConfig) (s : StatPrivate) (ty : FrameType)
    (now rt ow : UInt64) (o p f : Bool) :
    (statFrameReceivedPerPeriod cfg s ty now rt ow o p f).histograms = s.histograms := by
  unfold statFrameReceivedPerPeriod storePeriod
  cases cfg.withMqtt with
  | false => rfl
  | true =>
    simp only [if_true]
    split <;> rfl

/-- Every received frame is sampled, with the time stamp its slot holds. -/
theorem received_sampled {cfg : StatConfig} (href : cfg.mirrorMode = false) {s : StatPrivate}
    {ty : FrameType} (hlen : (s.roundTripContexts ty).backlogLen ≠ 0) (k : UInt64) (o p f : Bool)
    (tx now : UInt64) :
    Sampled cfg s (statFrameReceived cfg s ty k o p f tx now).stat ty
      ((now - ((s.roundTripContexts ty).backlog
        (slotOf (s.roundTripContexts ty).backlogLen k)).timestamp) / 1000) := by
  have hz : ¬ (!cfg.mirrorMode && (s.roundTripContexts ty).backlogLen == 0) = true := by
    simp [hlen]
  have hrt : roundTrip cfg s ty k now = roundTripSample cfg s ty k now := by
    simp [roundTrip, href]
  have hglobal := (oneway_global cfg (roundTrip cfg s ty k now) ty o p f tx now).1
  have hhist : (oneway cfg (roundTrip cfg s ty k now) ty o p f tx now).histograms =
      (roundTrip cfg s ty k now).stat.histograms := perPeriod_histograms _ _ _ _ _ _ _ _ _
  unfold statFrameReceived
  simp only [if_neg hz]
  cases hstop : (cfg.debugStopTraceOnOutlier && ((roundTrip cfg s ty k now).outlier ||
      isLate (roundTrip cfg s ty k now).stat ty (onewayTime now tx)))
  all_goals
    simp only [Bool.false_eq_true, if_true, if_false]
    refine ⟨?_, ?_, ?_, ?_, ?_, ?_⟩
  all_goals
    simp only [setAt_same, Statistics.addFrame, hglobal, hhist]
    rw [hrt]
    simp only [roundTripSample, setAt_same, Statistics.addOneway, Statistics.addRoundTrip, slotOf]
  all_goals rfl

/-! ## Frames that come back once and in time -/

/-- The truncated counter of the wire and the full counter share a slot. -/
theorem slotOf_wireCounter {n : UInt64} (hpos : 0 < n.toNat) (hn : n.toNat < 65536) (s : UInt64) :
    slotOf (1024 * n) (wireCounter s n) = slotOf (1024 * n) s := by
  have hlen : (1024 * n).toNat = n.toNat * 1024 := by
    rw [UInt64.toNat_mul]
    change 1024 * n.toNat % 2 ^ 64 = _
    omega
  have hr : s.toNat % n.toNat % 2 ^ 32 = s.toNat % n.toNat :=
    Nat.mod_eq_of_lt (Nat.lt_trans (Nat.mod_lt _ hpos) (by omega))
  simp only [slotOf, UInt64.toNat_mod, hlen, wireCounter_toNat, hr, Nat.mod_mul]
  have hmod : (s.toNat / n.toNat % 2 ^ 32 * n.toNat + s.toNat % n.toNat) % n.toNat =
      s.toNat % n.toNat := by
    rw [Nat.mul_add_mod_self_right, Nat.mod_mod]
  have hdiv : (s.toNat / n.toNat % 2 ^ 32 * n.toNat + s.toNat % n.toNat) / n.toNat =
      s.toNat / n.toNat % 2 ^ 32 := by
    rw [Nat.mul_comm, Nat.mul_add_div hpos, Nat.div_eq_of_lt (Nat.mod_lt _ hpos), Nat.add_zero]
  rw [hmod, hdiv, Nat.mod_mod_of_dvd _ (by decide)]

/-- Counters less than a backlog apart have slots of their own. -/
theorem slotOf_ne {len : UInt64} {a b : Nat} (hb : b < 2 ^ 64) (hlt : a < b)
    (hnear : b < a + len.toNat) : slotOf len (UInt64.ofNat b) ≠ slotOf len (UInt64.ofNat a) := by
  have ha : (UInt64.ofNat a).toNat = a := UInt64.toNat_ofNat_of_lt' (Nat.lt_trans hlt hb)
  have hb' : (UInt64.ofNat b).toNat = b := UInt64.toNat_ofNat_of_lt' hb
  simp only [slotOf, UInt64.toNat_mod, ha, hb']
  intro h
  have hdvd : len.toNat ∣ b - a := (Nat.modEq_iff_dvd' (Nat.le_of_lt hlt)).mp h.symm
  have := Nat.le_of_dvd (by omega) hdvd
  omega

/-- Frame number `i` of the run comes back: it was sent, has not come back
before, and fewer than `1024 * n` frames were sent after it. -/
structure Returns (n : UInt64) (times : List UInt64) (returned : List Nat) (i : Nat)
    (sentAt now : UInt64) : Prop where
  sent : times[i]? = some sentAt
  once : i ∉ returned
  inTime : times.length < i + 1 + 1024 * n.toNat
  later : sentAt ≤ now

/-- What a receiver decodes out of a frame that carries the counter `s`. -/
def decoded (m : Mem UInt8) (off : Nat) (s n : UInt64) : UInt64 :=
  metaDataToSequenceCounter (sequenceCounterToMetaData m off s n) off n

theorem slotOf_decoded {n : UInt64} (hpos : 0 < n.toNat) (hn : n.toNat < 65536) (m : Mem UInt8)
    (off : Nat) (s : UInt64) :
    slotOf (1024 * n) (decoded m off s n) = slotOf (1024 * n) s := by
  rw [decoded, sequenceCounter_roundtrip, slotOf_wireCounter hpos hn]

/-- Calls in which frames of the class are sent with consecutive counters from
`first` on and come back once and in time; calls of other classes are
arbitrary. `times` lists when the frames were sent, `returned` which came back. -/
inductive Stream (ty : FrameType) (n : UInt64) (first : Nat) :
    List Event → List UInt64 → List Nat → Prop
  | start : Stream ty n first [] [] []
  | sent {es : List Event} {times : List UInt64} {returned : List Nat} (t : UInt64)
      (h : Stream ty n first es times returned) (hfits : first + times.length < 2 ^ 64) :
      Stream ty n first (es ++ [.sent ty (UInt64.ofNat (first + times.length)) t]) (times ++ [t])
        returned
  | received {es : List Event} {times : List UInt64} {returned : List Nat} {i : Nat}
      {sentAt now : UInt64} (m : Mem UInt8) (off : Nat) (o p f : Bool) (tx : UInt64)
      (h : Stream ty n first es times returned) (hi : Returns n times returned i sentAt now) :
      Stream ty n first
        (es ++ [.received ty (decoded m off (UInt64.ofNat (first + i)) n) o p f tx now]) times
        (i :: returned)
  | other {es : List Event} {times : List UInt64} {returned : List Nat} (e : Event)
      (h : Stream ty n first es times returned) (hty : e.ty ≠ ty) :
      Stream ty n first (es ++ [e]) times returned

theorem Stream.fits {ty : FrameType} {n : UInt64} {first : Nat} {es : List Event}
    {times : List UInt64} {returned : List Nat} (h : Stream ty n first es times returned) :
    times = [] ∨ first + times.length ≤ 2 ^ 64 := by
  induction h with
  | start => exact Or.inl rfl
  | sent t h hfits ih =>
    right
    rw [List.length_append, List.length_singleton]
    omega
  | received m off o p f tx h hi ih => exact ih
  | other e h hty ih => exact ih

/-- While a frame can still come back, its slot holds its own entry. -/
theorem Stream.entry {ty : FrameType} {n : UInt64} (hpos : 0 < n.toNat) (hn : n.toNat < 65536)
    {first : Nat} {es : List Event} {times : List UInt64} {returned : List Nat}
    (h : Stream ty n first es times returned) {i : Nat} {sentAt : UInt64}
    (hsent : times[i]? = some sentAt) (honce : i ∉ returned)
    (hin : times.length < i + 1 + 1024 * n.toNat) (b : Backlog) :
    lastEntry ty (1024 * n) (slotOf (1024 * n) (UInt64.ofNat (first + i))) b es =
      ⟨UInt64.ofNat (first + i), sentAt⟩ := by
  have hlen : (1024 * n).toNat = 1024 * n.toNat := by
    rw [UInt64.toNat_mul]
    exact Nat.mod_eq_of_lt (by change 1024 * n.toNat < _; omega)
  induction h with
  | start => cases hsent
  | @sent es times returned t h hfits ih =>
    rw [List.length_append, List.length_singleton] at hin
    by_cases hi : i = times.length
    · subst hi
      rw [List.getElem?_append_right (Nat.le_refl _), Nat.sub_self] at hsent
      cases hsent
      simp [lastEntry, Event.hits, Event.leaves, Event.ty, Event.cycleNumber]
    · have hlt : i < times.length := by
        have := (List.getElem?_eq_some_iff.mp hsent).1
        rw [List.length_append, List.length_singleton] at this
        omega
      rw [List.getElem?_append_left hlt] at hsent
      have hskip : (Event.sent ty (UInt64.ofNat (first + times.length)) t).hits ty (1024 * n)
          (slotOf (1024 * n) (UInt64.ofNat (first + i))) = false := by
        apply Event.not_hits_of_slot
        exact slotOf_ne hfits (by omega) (by omega)
      rw [lastEntry_skip hskip]
      exact ih hsent honce (by omega)
  | @received es times returned j sentAt' now m off o p f tx h hj ih =>
    obtain ⟨hji, honce⟩ := not_or.mp (mt List.mem_cons.mpr honce)
    have hi := (List.getElem?_eq_some_iff.mp hsent).1
    have hj' := (List.getElem?_eq_some_iff.mp hj.sent).1
    have hfits : first + times.length ≤ 2 ^ 64 := by
      rcases h.fits with h0 | h0
      · rw [h0] at hi
        cases hi
      · exact h0
    have hwin := hj.inTime
    have hne : slotOf (1024 * n) (UInt64.ofNat (first + j)) ≠
        slotOf (1024 * n) (UInt64.ofNat (first + i)) := by
      rcases Nat.lt_or_gt_of_ne hji with hlt | hgt
      · exact slotOf_ne (by omega) (by omega) (by omega)
      · exact Ne.symm (slotOf_ne (a := first + j) (b := first + i) (by omega) (by omega) (by omega))
    have hskip : (Event.received ty (decoded m off (UInt64.ofNat (first + j)) n) o p f tx now).hits
        ty (1024 * n) (slotOf (1024 * n) (UInt64.ofNat (first + i))) = false := by
      apply Event.not_hits_of_slot
      rw [Event.cycleNumber, slotOf_decoded hpos hn]
      exact hne
    rw [lastEntry_skip hskip]
    exact ih hsent honce hin
  | other e h hty ih =>
    rw [lastEntry_skip (Event.not_hits_of_ty hty)]
    exact ih hsent honce hin

/-- **Round trips.**  In every run of a reference in which frames of a class are
sent with consecutive counters, the sample of a frame that comes back once, and
before the backlog has gone round, is its own round-trip time, also for counters
the wire cuts off. -/
theorem roundtrip_exact (app : AppConfig) {cfg : StatConfig} (href : cfg.mirrorMode = false)
    {ty : FrameType} (hpos : 1 ≤ (app.cls ty).numFramesPerCycle.toNat)
    (hn : (app.cls ty).numFramesPerCycle.toNat < 65536) {first : Nat} {es : List Event}
    {times : List UInt64} {returned : List Nat}
    (hes : Stream ty (app.cls ty).numFramesPerCycle first es times returned) {s : StatPrivate}
    (hrun : play cfg (statInit app false) es = .ok s) {i : Nat} {sentAt now : UInt64}
    (hi : Returns (app.cls ty).numFramesPerCycle times returned i sentAt now) (m : Mem UInt8)
    (off : Nat) (o p f : Bool) (tx : UInt64) :
    ∃ v, v.toNat = (now.toNat - sentAt.toNat) / 1000 ∧
      Sampled cfg s (statFrameReceived cfg s ty
        (decoded m off (UInt64.ofNat (first + i)) (app.cls ty).numFramesPerCycle) o p f tx now).stat
        ty v := by
  have hinit : ((statInit app false).roundTripContexts ty).backlogLen =
      1024 * (app.cls ty).numFramesPerCycle := rfl
  obtain ⟨hlen, hentry⟩ := play_backlog href hrun ty
    (slotOf (1024 * (app.cls ty).numFramesPerCycle) (UInt64.ofNat (first + i)))
  rw [hinit] at hlen hentry
  rw [hes.entry hpos hn hi.sent hi.once hi.inTime] at hentry
  have hne : (s.roundTripContexts ty).backlogLen ≠ 0 := by
    rw [hlen]
    intro h0
    have := congrArg UInt64.toNat h0
    rw [UInt64.toNat_mul] at this
    change 1024 * (app.cls ty).numFramesPerCycle.toNat % 2 ^ 64 = 0 at this
    omega
  have hsample := received_sampled href hne
    (decoded m off (UInt64.ofNat (first + i)) (app.cls ty).numFramesPerCycle) o p f tx now
  rw [hlen, slotOf_decoded hpos hn, hentry] at hsample
  refine ⟨_, ?_, hsample⟩
  rw [UInt64.toNat_div, UInt64.toNat_sub_of_le _ _ hi.later]
  rfl

/-! A class with one frame per cycle; the first frame that does not fit the
cycle counter of the wire is sent and comes back seven microseconds later. -/

def rttApp : AppConfig := AppConfig.small .none 40 1 []

def rttConfig : StatConfig := (Env.small rttApp false).statConfig

theorem roundtrip_exact_wrapped :
    decoded (fun _ => 0) 0 (UInt64.ofNat (2 ^ 32)) 1 = 0 ∧
    ∃ s, play rttConfig (statInit rttApp false) [.sent .tsnHigh (UInt64.ofNat (2 ^ 32)) 5000] = .ok s ∧
      ∃ v, v.toNat = (UInt64.toNat 12000 - UInt64.toNat 5000) / 1000 ∧ Sampled rttConfig s
        (statFrameReceived rttConfig s .tsnHigh
          (decoded (fun _ => 0) 0 (UInt64.ofNat (2 ^ 32 + 0)) 1) false false false 5000 12000).stat
        .tsnHigh v := by
  refine ⟨by decide +kernel, _, rfl, ?_⟩
  have hes : Stream .tsnHigh 1 (2 ^ 32) [.sent .tsnHigh (UInt64.ofNat (2 ^ 32)) 5000] [5000] [] :=
    .sent 5000 .start (by decide)
  have hi : Returns 1 [5000] [] 0 5000 12000 := ⟨rfl, by simp, by decide, by decide⟩
  exact roundtrip_exact rttApp rfl (by decide) (by decide) hes rfl hi _ 0 _ _ _ 5000

/-! ## Which frames are sampled -/

/-- One call on the list of times a counter was sent since it was last received. -/
def Event.pending (ty : FrameType) (k : UInt64) (times : List UInt64) (e : Event) : List UInt64 :=
  if e.ty = ty ∧ e.cycleNumber = k then
    match e with
    | .sent _ _ t => t :: times
    | .received _ _ _ _ _ _ _ => []
  else times

/-- When the counter was sent since it was last received. -/
def unsampled (ty : FrameType) (k : UInt64) (es : List Event) : List UInt64 :=
  es.foldl (Event.pending ty k) []

/-- The call after the history `es` takes no sample, or that of a frame that
was sent and has not been sampled since. -/
def Sound (cfg : StatConfig) (es : List Event) (s : StatPrivate) : Event → Prop
  | .sent _ _ _ => True
  | .received ty k o p f tx now =>
    let s' := (statFrameReceived cfg s ty k o p f tx now).stat
    (∃ t ∈ unsampled ty k es, Sampled cfg s s' ty ((now - t) / 1000)) ∨
      (unsampled ty k es = [] ∧ Unsampled s s' ty)

/-- The received counter was sent, and since then no call has used a counter
congruent to it modulo the size of the backlog. -/
def InBacklog (len : UInt64) (es : List Event) : Event → Prop
  | .sent _ _ _ => True
  | .received ty k _ _ _ _ _ => ∃ before t after, es = before ++ .sent ty k t :: after ∧
      ∀ e ∈ after, e.hits ty len (slotOf len k) = false

theorem pending_of_not_hits {ty : FrameType} {len k : UInt64} {es : List Event}
    (h : ∀ e ∈ es, e.hits ty len (slotOf len k) = false) (times : List UInt64) :
    es.foldl (Event.pending ty k) times = times := by
  induction es with
  | nil => rfl
  | cons e es ih =>
    have hne : ¬ (e.ty = ty ∧ e.cycleNumber = k) := by
      rintro ⟨rfl, rfl⟩
      have := h e List.mem_cons_self
      simp [Event.hits] at this
    have hskip : Event.pending ty k times e = times := by simp only [Event.pending, if_neg hne]
    rw [List.foldl_cons, hskip]
    exact ih fun e' he' => h e' (List.mem_cons_of_mem _ he')

theorem unsampled_own {ty : FrameType} {len k t : UInt64} {before after : List Event}
    (h : ∀ e ∈ after, e.hits ty len (slotOf len k) = false) :
    t ∈ unsampled ty k (before ++ .sent ty k t :: after) := by
  rw [unsampled, List.foldl_append, List.foldl_cons, pending_of_not_hits h]
  simp [Event.pending, Event.ty, Event.cycleNumber]

theorem lastEntry_own {ty : FrameType} {len k t : UInt64} {before after : List Event}
    (h : ∀ e ∈ after, e.hits ty len (slotOf len k) = false) (b : Backlog) :
    lastEntry ty len (slotOf len k) b (before ++ .sent ty k t :: after) = ⟨k, t⟩ := by
  rw [lastEntry_append, ← List.singleton_append, lastEntry_append, lastEntry_of_not_hits h]
  simp [lastEntry, Event.hits, Event.leaves, Event.ty, Event.cycleNumber]

/-- A reference that has sent a frame of the class has a backlog for it. -/
theorem play_sent_backlogLen {cfg : StatConfig} (href : cfg.mirrorMode = false)
    {s s' : StatPrivate} {ty : FrameType} {k t : UInt64} {before after : List Event}
    (h : play cfg s (before ++ .sent ty k t :: after) = .ok s') :
    (s'.roundTripContexts ty).backlogLen ≠ 0 := by
  rw [(play_backlog href h ty 0).1]
  rw [play_append] at h
  cases hpre : play cfg s before with
  | error reason =>
    rw [hpre] at h
    cases h
  | ok s1 =>
    rw [hpre] at h
    rw [← (play_backlog href hpre ty 0).1]
    exact sent_backlogLen href (play_cons_ok h).1

/-- **Samples.**  In every run of a reference whose received frames all find
their own entry in the backlog, every sample is the round-trip time of a frame
that was sent and not yet sampled. -/
theorem samples_sound (app : AppConfig) {cfg : StatConfig} (href : cfg.mirrorMode = false)
    (es : List Event)
    (hin : ∀ before e after, es = before ++ e :: after →
      InBacklog (1024 * (app.cls e.ty).numFramesPerCycle) before e) :
    ∀ before e after, es = before ++ e :: after → ∀ s, play cfg (statInit app false) before = .ok s →
      Sound cfg before s e := by
  intro before e after hes s hrun
  have hown := hin before e after hes
  cases e with
  | sent ty k t => trivial
  | received ty k o p f tx now =>
    obtain ⟨pre, t, post, rfl, hpost⟩ := hown
    change ∀ e ∈ post, e.hits ty (1024 * (app.cls ty).numFramesPerCycle)
      (slotOf (1024 * (app.cls ty).numFramesPerCycle) k) = false at hpost
    obtain ⟨hlen, hentry⟩ := play_backlog href hrun ty
      (slotOf (1024 * (app.cls ty).numFramesPerCycle) k)
    change _ = 1024 * (app.cls ty).numFramesPerCycle at hlen
    have hsample := received_sampled href (play_sent_backlogLen href hrun) k o p f tx now
    rw [hlen, hentry] at hsample
    change Sampled cfg s _ ty ((now - (lastEntry ty (1024 * (app.cls ty).numFramesPerCycle) _ _
      _).timestamp) / 1000) at hsample
    rw [lastEntry_own hpost] at hsample
    exact Or.inl ⟨t, unsampled_own hpost, hsample⟩

/-! A frame that comes back, and the same frame once more. -/

def rttSent : Event := .sent .tsnHigh 3 5000

def rttReceived (now : UInt64) : Event := .received .tsnHigh 3 false false false 5000 now

theorem samples_sound_once :
    ∃ s, play rttConfig (statInit rttApp false) [rttSent] = .ok s ∧
      Sound rttConfig [rttSent] s (rttReceived 12000) := by
  refine ⟨_, rfl, ?_⟩
  refine samples_sound rttApp rfl [rttSent, rttReceived 12000] ?_ [rttSent] _ [] rfl _ rfl
  intro before e after hes
  match before with
  | [] =>
    cases hes
    trivial
  | [_] =>
    cases hes
    exact ⟨[], 5000, [], rfl, by simp⟩
  | _ :: _ :: _ => simp at hes

/-- The second copy is sampled as a round trip that began at time zero. -/
theorem duplicate_sampled :
    ∃ s, play rttConfig (statInit rttApp false) [rttSent, rttReceived 12000] = .ok s ∧
      ¬ Sound rttConfig [rttSent, rttReceived 12000] s (rttReceived 20000000) ∧
      (((rttReceived 20000000).call rttConfig s).stat.globalStatistics .tsnHigh).roundTripMax =
        20000 := by
  refine ⟨_, rfl, ?_, by decide +kernel⟩
  rintro (⟨t, ht, -⟩ | ⟨-, hu⟩)
  · have hnone : unsampled .tsnHigh 3 [rttSent, rttReceived 12000] = [] := by decide +kernel
    rw [hnone] at ht
    cases ht
  · exact absurd hu.count (by decide +kernel)

end Rtdk.Rtt
