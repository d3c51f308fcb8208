import Rtdk.Period

/-! The interval of the per-period statistics (builds with MQTT).

A period is to end with the first frame that comes at least one collection
interval after the period's first. The code measures this between arrivals, and
the arrival of a frame that carries a time stamp ahead of the local clock is
that time stamp (`onewayEnd`). `interval_iff` compares the two, and
`inTime_of_not_ahead` says that they agree while no frame comes from the future. -/

namespace Rtdk.Interval
open Rtdk.NetDef Rtdk.Stat Rtdk.Config Rtdk.Thread Rtdk.StatRun Rtdk.Period

/-- What `stat_frame_received` is given and reads of the clock. -/
structure Reception where
  cycleNumber : UInt64
  outOfOrder : Bool
  payloadMismatch : Bool
  frameIdMismatch : Bool
  txTimestamp : UInt64
  currTime : UInt64
  deriving DecidableEq, Repr

def Reception.event (ty : FrameType) (r : Reception) : Event :=
  .received ty r.cycleNumber r.outOfOrder r.payloadMismatch r.frameIdMismatch r.txTimestamp
    r.currTime

def Reception.arrival (r : Reception) : UInt64 := onewayEnd r.currTime r.txTimestamp

/-- The time stamp of a period's record after these frames: 0 stands for none. -/
def stampOf : List Reception → UInt64
  | [] => 0
  | r :: rs => if r.arrival = 0 then stampOf rs else r.arrival

theorem stampOf_snoc (rs : List Reception) (r : Reception) :
    stampOf (rs ++ [r]) = if stampOf rs = 0 then r.arrival else stampOf rs := by
  induction rs with
  | nil =>
    simp only [List.nil_append, stampOf, if_true]
    split
    · rename_i h0
      exact h0.symm
    · rfl
  | cons r' rs ih =>
    simp only [List.cons_append, stampOf]
    split
    · exact ih
    · rfl

/-! ## Periods by the local clock -/

/-- The frame comes at least the interval after the first of its period, of which
these frames came before it. -/
def Due (interval : UInt64) (before : List Reception) (r : Reception) : Prop :=
  interval.toNat ≤ r.currTime.toNat - (before.headD r).currTime.toNat

instance (interval : UInt64) (before : List Reception) (r : Reception) :
    Decidable (Due interval before r) :=
  inferInstanceAs (Decidable (_ ≤ _))

/-- The frames of the period that is open after `rs`. -/
def openPeriod (interval : UInt64) (rs : List Reception) : List Reception :=
  rs.foldl (fun before r => if Due interval before r then [] else before ++ [r]) []

theorem openPeriod_snoc (interval : UInt64) (rs : List Reception) (r : Reception) :
    openPeriod interval (rs ++ [r]) =
      if Due interval (openPeriod interval rs) r then [] else openPeriod interval rs ++ [r] := by
  rw [openPeriod, List.foldl_append]
  rfl

theorem openPeriod_suffix (interval : UInt64) (rs : List Reception) :
    openPeriod interval rs <:+ rs := by
  induction rs using List.reverseRecOn with
  | nil => exact List.suffix_refl _
  | append_singleton rs r ih =>
    rw [openPeriod_snoc]
    split
    · exact List.nil_suffix
    · obtain ⟨earlier, heq⟩ := ih
      refine ⟨earlier, ?_⟩
      rw [← List.append_assoc, heq]

/-! ## Periods of the code -/

def interval (cfg : StatConfig) : UInt64 := cfg.statsCollectionIntervalNs

/-- The call hands a record to `log_via_mqtt_stats`. -/
def handsOver (cfg : StatConfig) (s : StatPrivate) (e : Event) : Bool :=
  decide (s.published.length < (e.call cfg s).stat.published.length)

/-- State and frames of the open period after the frames of a class. -/
def progress (cfg : StatConfig) (ty : FrameType) (s : StatPrivate) (rs : List Reception) :
    StatPrivate × List Reception :=
  rs.foldl (fun (s, before) r =>
    (((r.event ty).call cfg s).stat, if handsOver cfg s (r.event ty) then [] else before ++ [r]))
    (s, [])

/-- The frames received since a record was last handed over. -/
def recorded (cfg : StatConfig) (ty : FrameType) (s : StatPrivate) (rs : List Reception) :
    List Reception :=
  (progress cfg ty s rs).2

/-- The same between arrivals. -/
def StampDue (interval : UInt64) (before : List Reception) (r : Reception) : Prop :=
  interval ≤ r.arrival - stampOf (before ++ [r])

/-- The record of the class is the one of an open period. -/
def Opened (s : StatPrivate) (ty : FrameType) (before : List Reception) : Prop :=
  (s.statisticsPerPeriod ty).ready = false ∧
    (s.statisticsPerPeriod ty).firstTimeStamp = stampOf before

theorem Opened.due_iff {cfg : StatConfig} {s : StatPrivate} {ty : FrameType}
    {before : List Reception} (ho : Opened s ty before) (r : Reception) :
    due cfg (s.statisticsPerPeriod ty) r.arrival = true ↔ StampDue (interval cfg) before r := by
  have hbegun : (begun (s.statisticsPerPeriod ty) r.arrival).firstTimeStamp =
      stampOf (before ++ [r]) := by
    rw [begun, ho.2, stampOf_snoc]
    split
    · rfl
    · exact ho.2
  rw [due, ho.1, Bool.false_or, decide_eq_true_eq, hbegun]
  rfl

theorem receivePerPeriod_firstTimeStamp (cfg : StatConfig) (ty : FrameType) (limit : UInt64)
    (st : Statistics) (now rt ow : UInt64) (o p f : Bool) :
    (st.receivePerPeriod cfg ty limit now rt ow o p f).firstTimeStamp =
      (begun st now).firstTimeStamp := by
  have hstamped : (stamped cfg st now).firstTimeStamp = (begun st now).firstTimeStamp := by
    unfold stamped
    split <;> rfl
  rw [← hstamped]
  show (if cfg.mirrorMode then stamped cfg st now
      else (stamped cfg st now).addRoundTrip ty.isRealTime limit rt).firstTimeStamp = _
  split <;> rfl

/-- The records of the class after a received frame. -/
theorem received_record {cfg : StatConfig} (hmqtt : cfg.withMqtt = true) {s : StatPrivate}
    {ty : FrameType} {r : Reception} (h : ((r.event ty).call cfg s).halt ≠ some .sigfpe) :
    ∃ st, st.ready = due cfg (s.statisticsPerPeriod ty) r.arrival ∧
      st.firstTimeStamp = (begun (s.statisticsPerPeriod ty) r.arrival).firstTimeStamp ∧
      ((r.event ty).call cfg s).stat.statisticsPerPeriod =
        (if st.ready then fun _ => Statistics.reset else setAt s.statisticsPerPeriod ty st) ∧
      ((r.event ty).call cfg s).stat.published =
        s.published ++ (if st.ready then [(ty, st)] else []) := by
  obtain ⟨limit, rt, ow, hspp, hpub⟩ := received_perPeriod hmqtt h
  have hready := (receivePerPeriod_spec cfg ty limit (s.statisticsPerPeriod ty) r.cycleNumber
    r.arrival rt ow r.txTimestamp r.currTime r.outOfOrder r.payloadMismatch r.frameIdMismatch
    .framesSent).2
  exact ⟨_, hready, receivePerPeriod_firstTimeStamp _ _ _ _ _ _ _ _ _ _,
    hspp.trans (storePeriod_spec s ty _).1, hpub.trans (storePeriod_spec s ty _).2⟩

section step

variable {cfg : StatConfig} (hmqtt : cfg.withMqtt = true) {s : StatPrivate} {ty : FrameType}
  {before : List Reception} (ho : Opened s ty before) {r : Reception}
  (h : ((r.event ty).call cfg s).halt ≠ some .sigfpe)
include hmqtt ho h

/-- A record is handed over when the interval has passed between arrivals. -/
theorem Opened.handsOver_iff :
    handsOver cfg s (r.event ty) = true ↔ StampDue (interval cfg) before r := by
  obtain ⟨st, hready, -, -, hpub⟩ := received_record hmqtt h
  rw [← ho.due_iff, ← hready, handsOver, hpub]
  cases st.ready <;> simp

/-- The frame joins the period, or a new one is open. -/
theorem Opened.next :
    Opened ((r.event ty).call cfg s).stat ty
      (if handsOver cfg s (r.event ty) then [] else before ++ [r]) := by
  obtain ⟨st, hready, hfirst, hspp, hpub⟩ := received_record hmqtt h
  have hover : handsOver cfg s (r.event ty) = st.ready := by
    rw [handsOver, hpub]
    cases st.ready <;> simp
  rw [hover, Opened, hspp]
  cases hst : st.ready with
  | true => exact ⟨rfl, rfl⟩
  | false =>
    simp only [Bool.false_eq_true, if_false, setAt_same]
    refine ⟨hst, ?_⟩
    rw [hfirst, begun, ho.2, stampOf_snoc]
    split
    · rfl
    · exact ho.2

end step

/-! ## Runs -/

theorem recorded_snoc (cfg : StatConfig) (ty : FrameType) (s : StatPrivate) (rs : List Reception)
    (r : Reception) :
    recorded cfg ty s (rs ++ [r]) =
      if handsOver cfg (progress cfg ty s rs).1 (r.event ty) then []
      else recorded cfg ty s rs ++ [r] := by
  rw [recorded, progress, List.foldl_append]
  rfl

theorem progress_of_play {cfg : StatConfig} {ty : FrameType} {s s' : StatPrivate}
    {rs : List Reception} (h : play cfg s (rs.map (Reception.event ty)) = .ok s') :
    (progress cfg ty s rs).1 = s' := by
  induction rs using List.reverseRecOn generalizing s' with
  | nil => exact Except.ok.inj h
  | append_singleton rs r ih =>
    rw [List.map_append] at h
    obtain ⟨s1, hs1, -, hlast⟩ := play_snoc_ok h
    rw [progress, List.foldl_append, ← progress]
    show ((r.event ty).call cfg (progress cfg ty s rs).1).stat = s'
    rw [ih hs1]
    exact hlast

theorem run_opened (app : AppConfig) {cfg : StatConfig} (hmqtt : cfg.withMqtt = true)
    {ty : FrameType} {rs : List Reception} {s : StatPrivate}
    (h : play cfg (statInit app cfg.mirrorMode) (rs.map (Reception.event ty)) = .ok s) :
    Opened s ty (recorded cfg ty (statInit app cfg.mirrorMode) rs) := by
  induction rs using List.reverseRecOn generalizing s with
  | nil =>
    cases h
    exact ⟨rfl, rfl⟩
  | append_singleton rs r ih =>
    rw [List.map_append] at h
    obtain ⟨s1, hs1, hhalt, rfl⟩ := play_snoc_ok h
    rw [recorded_snoc, progress_of_play hs1]
    exact (ih hs1).next hmqtt (halt_ne_sigfpe hhalt)

/-- `P` holds for each frame of the run whose handling begins and gets as far as
the records; a frame that ends the process as an outlier does. -/
def Throughout (cfg : StatConfig) (app : AppConfig) (ty : FrameType) (rs : List Reception)
    (P : StatPrivate → List Reception → Reception → Prop) : Prop :=
  ∀ rs1 r, rs1 ++ [r] <+: rs → ∀ s,
    play cfg (statInit app cfg.mirrorMode) (rs1.map (Reception.event ty)) = .ok s →
      ((r.event ty).call cfg s).halt ≠ some .sigfpe → P s rs1 r

/-- A record is handed over with a frame if and only if the frame comes at least
the interval after the first one of its period, by the local clock. -/
def Respected (cfg : StatConfig) (app : AppConfig) (ty : FrameType) (rs : List Reception) : Prop :=
  Throughout cfg app ty rs fun s rs1 r =>
    (handsOver cfg s (r.event ty) = true ↔
      Due (interval cfg) (recorded cfg ty (statInit app cfg.mirrorMode) rs1) r)

/-- For each frame, the interval has passed between arrivals if and only if it
has passed by the local clock. -/
def InTime (cfg : StatConfig) (app : AppConfig) (ty : FrameType) (rs : List Reception) : Prop :=
  Throughout cfg app ty rs fun _ rs1 r =>
    (StampDue (interval cfg) (openPeriod (interval cfg) rs1) r ↔
      Due (interval cfg) (openPeriod (interval cfg) rs1) r)

/-- While each frame is handed over just when it is due by the local clock, the
periods of the code are those of the clock. -/
theorem recorded_eq (app : AppConfig) {cfg : StatConfig} {ty : FrameType} {rs rs1 : List Reception}
    (hpre : rs1 <+: rs)
    (hstep : Throughout cfg app ty rs fun s rs2 r =>
      recorded cfg ty (statInit app cfg.mirrorMode) rs2 = openPeriod (interval cfg) rs2 →
        (handsOver cfg s (r.event ty) = true ↔ Due (interval cfg) (openPeriod (interval cfg) rs2) r))
    {s : StatPrivate}
    (h : play cfg (statInit app cfg.mirrorMode) (rs1.map (Reception.event ty)) = .ok s) :
    recorded cfg ty (statInit app cfg.mirrorMode) rs1 = openPeriod (interval cfg) rs1 := by
  induction rs1 using List.reverseRecOn generalizing s with
  | nil => rfl
  | append_singleton rs2 r ih =>
    have hshort := h
    rw [List.map_append] at hshort
    obtain ⟨s2, hs2, hhalt, -⟩ := play_snoc_ok hshort
    have hsame := ih ((List.prefix_append rs2 [r]).trans hpre) hs2
    have hdue := hstep rs2 r hpre s2 hs2 (halt_ne_sigfpe hhalt) hsame
    rw [recorded_snoc, openPeriod_snoc, progress_of_play hs2, hsame]
    simp only [hdue]

/-- **The interval is respected** in a run if and only if arrivals and the local
clock agree on it for each frame. -/
theorem interval_iff (app : AppConfig) {cfg : StatConfig} (hmqtt : cfg.withMqtt = true)
    (ty : FrameType) (rs : List Reception) : Respected cfg app ty rs ↔ InTime cfg app ty rs := by
  constructor
  · intro h rs1 r hpre s hs hhalt
    have hsame := recorded_eq app ((List.prefix_append rs1 [r]).trans hpre)
      (fun rs2 r2 hpre2 s2 hs2 hhalt2 heq => heq ▸ h rs2 r2 hpre2 s2 hs2 hhalt2) hs
    have hover : handsOver cfg s (r.event ty) = true ↔
        Due (interval cfg) (recorded cfg ty (statInit app cfg.mirrorMode) rs1) r :=
      h rs1 r hpre s hs hhalt
    rwa [(run_opened app hmqtt hs).handsOver_iff hmqtt hhalt, hsame] at hover
  · intro h
    have hstep : Throughout cfg app ty rs fun s rs2 r =>
        recorded cfg ty (statInit app cfg.mirrorMode) rs2 = openPeriod (interval cfg) rs2 →
          (handsOver cfg s (r.event ty) = true ↔
            Due (interval cfg) (openPeriod (interval cfg) rs2) r) := by
      intro rs2 r hpre s hs hhalt heq
      rw [(run_opened app hmqtt hs).handsOver_iff hmqtt hhalt, heq]
      exact h rs2 r hpre s hs hhalt
    intro rs1 r hpre s hs hhalt
    have hsame := recorded_eq app ((List.prefix_append rs1 [r]).trans hpre) hstep hs
    rw [hsame]
    exact hstep rs1 r hpre s hs hhalt hsame

/-! ## Frames that are not ahead of the clock -/

/-- Frames whose time stamp the local clock has reached, in the order of the
clock. The clock does not read 0, which the record takes for no time stamp. -/
structure NotAhead (rs : List Reception) : Prop where
  stamp : ∀ r ∈ rs, r.txTimestamp ≤ r.currTime
  running : ∀ r ∈ rs, r.currTime ≠ 0
  order : rs.Pairwise fun a b => a.currTime ≤ b.currTime

theorem arrival_of_le {r : Reception} (h : r.txTimestamp ≤ r.currTime) : r.arrival = r.currTime := by
  rw [Reception.arrival, onewayEnd, if_neg]
  exact UInt64.not_lt.mpr h

theorem stampDue_iff_of_notAhead {interval : UInt64} {before : List Reception} {r : Reception}
    (h : NotAhead (before ++ [r])) : StampDue interval before r ↔ Due interval before r := by
  have harrival : ∀ r' ∈ before ++ [r], r'.arrival = r'.currTime := fun r' hr' =>
    arrival_of_le (h.stamp r' hr')
  have hstamp : stampOf (before ++ [r]) = (before.headD r).currTime := by
    cases before with
    | nil =>
      have hr := harrival r (by simp)
      rw [List.nil_append, stampOf, if_neg (by rw [hr]; exact h.running r (by simp)), hr]
      rfl
    | cons r0 before =>
      have hr0 := harrival r0 (by simp)
      rw [List.cons_append, stampOf, if_neg (by rw [hr0]; exact h.running r0 (by simp)), hr0]
      rfl
  have hle : (before.headD r).currTime ≤ r.currTime := by
    cases before with
    | nil => exact UInt64.le_refl _
    | cons r0 before => exact List.rel_of_pairwise_cons h.order (by simp)
  rw [StampDue, Due, hstamp, harrival r (by simp), UInt64.le_iff_toNat_le,
    UInt64.toNat_sub_of_le _ _ hle]

theorem inTime_of_notAhead (app : AppConfig) (cfg : StatConfig) (ty : FrameType)
    {rs : List Reception} (h : NotAhead rs) : InTime cfg app ty rs := by
  intro rs1 r hpre _ _ _
  have hsub : (openPeriod (interval cfg) rs1 ++ [r]).Sublist rs :=
    ((openPeriod_suffix _ rs1).sublist.append (List.Sublist.refl _)).trans hpre.sublist
  exact stampDue_iff_of_notAhead
    ⟨fun r' hr' => h.stamp r' (hsub.subset hr'), fun r' hr' => h.running r' (hsub.subset hr'),
      h.order.sublist hsub⟩

/-! Frames of RTC a second apart, then one that is ahead of the clock by a second. -/

def rtcReceived (txTimestamp currTime : UInt64) : Reception :=
  ⟨0, false, false, false, txTimestamp, currTime⟩

theorem second_respected :
    Respected periodConfig periodApp .rtc [rtcReceived 500 1000, rtcReceived 600 1000001000] := by
  refine (interval_iff periodApp rfl _ _).2 (inTime_of_notAhead _ _ _ ⟨?_, ?_, ?_⟩) <;>
    simp [rtcReceived]

/-- A frame comes a microsecond after the first, and its record is handed over. -/
theorem ahead_not_respected :
    ¬ Respected periodConfig periodApp .rtc [rtcReceived 500 1000, rtcReceived 1000001000 2000] := by
  intro h
  have hdue := h [rtcReceived 500 1000] _ (List.prefix_refl _) _ rfl (by decide +kernel)
  exact absurd hdue (by decide +kernel)

end Rtdk.Interval
