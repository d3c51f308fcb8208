import Rtdk.Timer

/-! The chain of the PROFINET transmit timers (`functions.c`, `*_thread.c`).

A class that has transmitted signals the next class through an atomic flag; the
timer loop of that class takes the flag back and then calls its routine. The
loops run side by side, so a pass of a loop is split where it touches a
flag: `check`, `act`, `signal`. -/

namespace Rtdk.Cascade
open Rtdk.NetDef Rtdk.Config Rtdk.Timer

/-! ## The links -/

/-- The classes the switch of `find_next_pn_thread` falls through, from a start. -/
def laterPn : FrameType → List FrameType
  | .tsnHigh => [.tsnLow, .rtc, .rta, .dcp, .lldp, .udpHigh, .udpLow]
  | .tsnLow => [.rtc, .rta, .dcp, .lldp, .udpHigh, .udpLow]
  | .rtc => [.rta, .dcp, .lldp, .udpHigh, .udpLow]
  | .rta => [.dcp, .lldp, .udpHigh, .udpLow]
  | .dcp => [.lldp, .udpHigh, .udpLow]
  | .lldp => [.udpHigh, .udpLow]
  | .udpHigh => [.udpLow]
  | .udpLow => []
  | .l2 => []

def findNextPnThread (cfg : AppConfig) (start : FrameType) : Option FrameType :=
  (laterPn start).find? cfg.isActive

/-- `next` and `is_first` of the threads. -/
structure Links where
  next : FrameType → Option FrameType
  isFirst : FrameType → Bool

def einval : Int32 := 22

def functionLinkPnThreads (cfg : AppConfig) : Except Int32 Links :=
  let next := findNextPnThread cfg
  if cfg.isActive .tsnHigh then .ok ⟨next, fun ty => ty == .tsnHigh⟩
  else if cfg.isActive .rtc then .ok ⟨next, fun ty => ty == .rtc⟩
  else if cfg.isActive .l2 then .ok ⟨next, fun _ => false⟩
  else .error (-einval)

/-! ## The transmit timers -/

/-- Where a thread is in its pass over the transmit timer. -/
inductive Pc
  | ready
  | checked (signaled : Bool)
  | signaling
  deriving DecidableEq, Repr

/-- The transmit timer of a class, with the number of signals its loop has taken
and of the times its Tx body has run. -/
structure TxThread where
  info : TimerInfo
  pc : Pc
  consumed : Nat
  runs : Nat
  deriving DecidableEq, Repr

/-- The flags `data_cond_var` and the threads. -/
structure TxState where
  flag : FrameType → Bool
  thread : FrameType → TxThread

/-- Whether a call of the transmit routine after the first one runs its Tx body. -/
def bodyRuns (isFirst : Bool) (signaled : Bool) : FrameType → Bool
  | .tsnHigh | .tsnLow | .rtc => isFirst || signaled
  | .rta | .dcp | .lldp | .udpHigh | .udpLow => signaled
  | .l2 => true

namespace TxState

def setThread (s : TxState) (ty : FrameType) (t : TxThread) : TxState :=
  { s with thread := Function.update s.thread ty t }

def setFlag (s : TxState) (ty : FrameType) (b : Bool) : TxState :=
  { s with flag := Function.update s.flag ty b }

/-- `info->cond && is_signaled(info->cond)`: takes the flag of the class. -/
def check (s : TxState) (ty : FrameType) : TxState :=
  let t := s.thread ty
  let signaled := hasCond ty .tx && s.flag ty
  (if hasCond ty .tx then s.setFlag ty false else s).setThread ty
    { t with pc := .checked signaled, consumed := t.consumed + signaled.toNat }

/-- The timer has not expired, or its routine is called. -/
def act (cfg : TimerConfig) (links : Links) (s : TxState) (ty : FrameType) (signaled : Bool)
    (currNs : UInt64) : TxState :=
  let t := s.thread ty
  let period := timerPeriod cfg ty (links.isFirst ty) .tx
  if decide (currNs ≥ t.info.endNs) || signaled then
    let info := callRoutine period t.info signaled currNs
    if t.info.doOnce && bodyRuns (links.isFirst ty) signaled ty then
      s.setThread ty { t with info, pc := .signaling, runs := t.runs + 1 }
    else s.setThread ty { t with info, pc := .ready }
  else s.setThread ty { t with pc := .ready }

/-- `do_signal` on the flag of the next class, if there is one. -/
def signal (links : Links) (s : TxState) (ty : FrameType) : TxState :=
  (match links.next ty with
    | some b => s.setFlag b true
    | none => s).setThread ty { s.thread ty with pc := .ready }

end TxState

inductive TxEvent
  | check (ty : FrameType)
  | act (ty : FrameType) (currNs : UInt64)
  | signal (ty : FrameType)
  deriving DecidableEq, Repr

/-- A step of one of the loops. Only the classes that are enabled have one. -/
def step (cfg : TimerConfig) (links : Links) (s : TxState) : TxEvent → Option TxState
  | .check ty =>
    if (cfg.app.cls ty).enabled ∧ (s.thread ty).pc = .ready then some (s.check ty) else none
  | .act ty currNs =>
    match (s.thread ty).pc with
    | .checked signaled => some (s.act cfg links ty signaled currNs)
    | _ => none
  | .signal ty => if (s.thread ty).pc = .signaling then some (s.signal links ty) else none

def run (cfg : TimerConfig) (links : Links) : TxState → List TxEvent → Option TxState
  | s, [] => some s
  | s, e :: es => (step cfg links s e).bind fun s' => run cfg links s' es

/-- All threads before their first pass; `start` gives their first readings. -/
def start (cfg : TimerConfig) (startNs : FrameType → UInt64) : TxState where
  flag _ := false
  thread ty :=
    { info := ⟨true, true, hasCond ty .tx, timerOffset cfg ty .tx,
        startNs ty + timerOffset cfg ty .tx, false, []⟩
      pc := .ready
      consumed := 0
      runs := 0 }

/-- A pass of a loop that is not interrupted looks at the timer as the loop of a
single thread does. -/
theorem pass_info (cfg : TimerConfig) (links : Links) (s : TxState) (ty : FrameType)
    (currNs : UInt64) (hactive : (s.thread ty).info.active = true)
    (hcond : (s.thread ty).info.cond = hasCond ty .tx) :
    (((s.check ty).act cfg links ty (hasCond ty .tx && s.flag ty) currNs).thread ty).info =
      visit (timerPeriod cfg ty (links.isFirst ty) .tx) (s.thread ty).info (s.flag ty) currNs := by
  unfold visit
  rw [hactive, hcond]
  have hinfo : ((s.check ty).thread ty).info = (s.thread ty).info := by
    simp [TxState.check, TxState.setThread]
  simp only [TxState.act, hinfo, Bool.not_true, Bool.false_eq_true, if_false]
  split
  · split <;> simp [TxState.setThread]
  · simp [TxState.setThread]

theorem start_info (cfg : TimerConfig) (ty : FrameType) (isFirst : Bool) (r : Readings)
    {timers : Timers} {currNs : UInt64} (hadd : addTimers cfg ty currNs = some timers)
    (startNs : FrameType → UInt64) (hstart : r.start .tx = startNs ty) :
    threadTimerRun cfg ty isFirst r timers 0 .tx = ((start cfg startNs).thread ty).info := by
  obtain ⟨timers', hsome, hinfo⟩ := addTimers_some cfg ty currNs
  obtain rfl : timers' = timers := Option.some.inj (hsome.symm.trans hadd)
  simp only [threadTimerRun, hinfo .tx (by decide), hstart, start]

/-! ## What the links say -/

def position : FrameType → Nat
  | .tsnHigh => 0
  | .tsnLow => 1
  | .rtc => 2
  | .rta => 3
  | .dcp => 4
  | .lldp => 5
  | .udpHigh => 6
  | .udpLow => 7
  | .l2 => 8

theorem laterPn_sorted (a : FrameType) :
    (laterPn a).Pairwise fun x y => position x < position y := by
  cases a <;> decide

theorem mem_laterPn {a b : FrameType} :
    b ∈ laterPn a ↔ position a < position b ∧ b ≠ .l2 := by
  cases a <;> cases b <;> decide

/-- The next class is the first active one further on. -/
theorem findNextPnThread_spec {cfg : AppConfig} {a b : FrameType}
    (h : findNextPnThread cfg a = some b) :
    b ∈ laterPn a ∧ cfg.isActive b = true ∧
      ∀ c ∈ laterPn a, cfg.isActive c = true → position b ≤ position c := by
  obtain ⟨hact, front, back, hsplit, hfront⟩ := List.find?_eq_some_iff_append.mp h
  refine ⟨by rw [hsplit]; simp, hact, ?_⟩
  intro c hc hcact
  have hsorted := laterPn_sorted a
  rw [hsplit] at hc hsorted
  rcases List.mem_append.mp hc with hc | hc
  · have := hfront c hc
    simp [hcact] at this
  · rcases List.mem_cons.mp hc with rfl | hc
    · exact le_rfl
    · exact ((List.pairwise_cons.mp (List.pairwise_append.mp hsorted).2.1).1 c hc).le

/-- What the proofs use of the links. -/
structure Linked (cfg : AppConfig) (links : Links) : Prop where
  next_eq : links.next = findNextPnThread cfg
  first_active : ∀ ty, links.isFirst ty = true → cfg.isActive ty = true
  first_unique : ∀ ty ty', links.isFirst ty = true → links.isFirst ty' = true → ty = ty'
  first_pn : links.isFirst .l2 = false

theorem functionLinkPnThreads_linked {cfg : AppConfig} {links : Links}
    (h : functionLinkPnThreads cfg = .ok links) : Linked cfg links := by
  unfold functionLinkPnThreads at h
  split at h
  · rename_i hact
    cases h
    refine ⟨rfl, fun ty hty => ?_, fun ty ty' hty hty' => ?_, rfl⟩
    · rwa [beq_iff_eq.mp hty]
    · rw [beq_iff_eq.mp hty, beq_iff_eq.mp hty']
  · split at h
    · rename_i hact
      cases h
      refine ⟨rfl, fun ty hty => ?_, fun ty ty' hty hty' => ?_, rfl⟩
      · rwa [beq_iff_eq.mp hty]
      · rw [beq_iff_eq.mp hty, beq_iff_eq.mp hty']
    · split at h
      · cases h
        exact ⟨rfl, fun ty hty => absurd hty (by simp), fun ty _ hty => absurd hty (by simp), rfl⟩
      · cases h

section linked
variable {cfg : AppConfig} {links : Links} {a a' b : FrameType}

theorem Linked.next_spec (h : Linked cfg links) (hnext : links.next a = some b) :
    b ∈ laterPn a ∧ cfg.isActive b = true ∧
      ∀ c ∈ laterPn a, cfg.isActive c = true → position b ≤ position c := by
  rw [h.next_eq] at hnext
  exact findNextPnThread_spec hnext

/-- A class is next to one active class only. -/
theorem Linked.unique (h : Linked cfg links) (ha : cfg.isActive a = true)
    (ha' : cfg.isActive a' = true) (hnext : links.next a = some b)
    (hnext' : links.next a' = some b) : a = a' := by
  obtain ⟨hmem, -, hmin⟩ := h.next_spec hnext
  obtain ⟨hmem', -, hmin'⟩ := h.next_spec hnext'
  rw [mem_laterPn] at hmem hmem'
  have hne (x : FrameType) (hx : position x < position b) (hb : b ≠ .l2) : x ≠ .l2 := by
    rintro rfl
    revert hx hb
    cases b <;> decide
  rcases Nat.lt_trichotomy (position a) (position a') with hlt | heq | hgt
  · have := hmin a' (mem_laterPn.mpr ⟨hlt, hne a' hmem'.1 hmem'.2⟩) ha'
    omega
  · revert heq
    cases a <;> cases a' <;> decide
  · have := hmin' a (mem_laterPn.mpr ⟨hgt, hne a hmem.1 hmem.2⟩) ha
    omega

end linked

/-! ## One step -/

/-- The loop has taken a signal and not yet acted on it. -/
def Pc.taken : Pc → Nat
  | .checked true => 1
  | _ => 0

/-- The Tx body has run, and the next class is not yet signaled. -/
def Pc.owes : Pc → Nat
  | .signaling => 1
  | _ => 0

section step
variable {cfg : TimerConfig} {links : Links} {s s' : TxState} {ty x : FrameType} {signaled : Bool}
  {now : UInt64}

@[simp] theorem setThread_self (s : TxState) (ty : FrameType) (t : TxThread) :
    (s.setThread ty t).thread ty = t := by
  simp [TxState.setThread]

theorem setThread_other (s : TxState) (t : TxThread) (h : x ≠ ty) :
    (s.setThread ty t).thread x = s.thread x := by
  simp [TxState.setThread, h]

@[simp] theorem setThread_flag (s : TxState) (ty : FrameType) (t : TxThread) :
    (s.setThread ty t).flag = s.flag := rfl

/-- The three kinds of steps. -/
theorem step_cases {e : TxEvent} (h : step cfg links s e = some s') :
    (∃ ty, e = .check ty ∧ (cfg.app.cls ty).enabled = true ∧ (s.thread ty).pc = .ready ∧
      s' = s.check ty) ∨
    (∃ ty now signaled, e = .act ty now ∧ (s.thread ty).pc = .checked signaled ∧
      s' = s.act cfg links ty signaled now) ∨
    (∃ ty, e = .signal ty ∧ (s.thread ty).pc = .signaling ∧ s' = s.signal links ty) := by
  cases e with
  | check ty =>
    simp only [step] at h
    split at h
    · rename_i hok
      exact Or.inl ⟨ty, rfl, hok.1, hok.2, (Option.some.inj h).symm⟩
    · cases h
  | act ty now =>
    simp only [step] at h
    split at h
    · rename_i signaled hpc
      exact Or.inr (Or.inl ⟨ty, now, signaled, rfl, hpc, (Option.some.inj h).symm⟩)
    · cases h
  | signal ty =>
    simp only [step] at h
    split at h
    · rename_i hpc
      exact Or.inr (Or.inr ⟨ty, rfl, hpc, (Option.some.inj h).symm⟩)
    · cases h

theorem check_thread_self (s : TxState) (ty : FrameType) :
    (s.check ty).thread ty =
      { s.thread ty with
        pc := .checked (hasCond ty .tx && s.flag ty)
        consumed := (s.thread ty).consumed + (hasCond ty .tx && s.flag ty).toNat } := by
  simp [TxState.check]

theorem check_thread_other (s : TxState) (h : x ≠ ty) : (s.check ty).thread x = s.thread x := by
  rw [TxState.check, setThread_other _ _ h]
  split <;> rfl

theorem check_flag (s : TxState) (ty x : FrameType) :
    (s.check ty).flag x = if x = ty ∧ hasCond ty .tx = true then false else s.flag x := by
  rw [TxState.check, setThread_flag]
  by_cases hcond : hasCond ty .tx = true
  · by_cases hx : x = ty <;> simp [hcond, hx, TxState.setFlag]
  · simp [hcond]

theorem act_flag : (s.act cfg links ty signaled now).flag = s.flag := by
  simp only [TxState.act]
  split
  · split <;> rfl
  · rfl

theorem act_thread_other (h : x ≠ ty) :
    (s.act cfg links ty signaled now).thread x = s.thread x := by
  simp only [TxState.act]
  split
  · split <;> exact setThread_other _ _ h
  · exact setThread_other _ _ h

theorem routine_doOnce (period : UInt64) (info : TimerInfo) :
    (callRoutine period info signaled now).doOnce = true := by
  simp only [callRoutine, routine, threadTimerSet]
  split
  · assumption
  · rfl

/-- An act runs the Tx body or not; a call always leaves the timer set up. -/
theorem act_thread_self (cfg : TimerConfig) (links : Links) (s : TxState) (ty : FrameType)
    (signaled : Bool) (now : UInt64) :
    ((s.act cfg links ty signaled now).thread ty).consumed = (s.thread ty).consumed ∧
    ((s.thread ty).info.doOnce = true →
      ((s.act cfg links ty signaled now).thread ty).info.doOnce = true) ∧
    ((((s.act cfg links ty signaled now).thread ty).pc = .signaling ∧
        ((s.act cfg links ty signaled now).thread ty).runs = (s.thread ty).runs + 1 ∧
        bodyRuns (links.isFirst ty) signaled ty = true) ∨
      (((s.act cfg links ty signaled now).thread ty).pc = .ready ∧
        ((s.act cfg links ty signaled now).thread ty).runs = (s.thread ty).runs ∧
        ((s.thread ty).info.doOnce = true → signaled = true →
          bodyRuns (links.isFirst ty) signaled ty = false))) := by
  simp only [TxState.act]
  split
  · split
    · rename_i hbody
      simp only [Bool.and_eq_true] at hbody
      simp [routine_doOnce, hbody.2]
    · rename_i hbody
      simp only [setThread_self, routine_doOnce, implies_true, true_and]
      refine Or.inr fun hdo _ => ?_
      simpa [hdo] using hbody
  · rename_i hnot
    simp only [Bool.or_eq_true, not_or] at hnot
    simp only [setThread_self, true_and]
    exact ⟨id, Or.inr fun _ hsig => absurd hsig hnot.2⟩

/-- A run of the Tx body is owed to the next class at once. -/
theorem act_owes (cfg : TimerConfig) (links : Links) (now : UInt64)
    (hpc : (s.thread ty).pc = .checked signaled) (x : FrameType) :
    ((s.act cfg links ty signaled now).thread x).consumed = (s.thread x).consumed ∧
      (s.thread x).runs + ((s.act cfg links ty signaled now).thread x).pc.owes =
        ((s.act cfg links ty signaled now).thread x).runs + (s.thread x).pc.owes := by
  by_cases hx : x = ty
  · subst hx
    obtain ⟨hcons, -, hcases⟩ := act_thread_self cfg links s x signaled now
    refine ⟨hcons, ?_⟩
    rw [hpc]
    rcases hcases with ⟨hpc', hruns', -⟩ | ⟨hpc', hruns', -⟩
    · rw [hpc', hruns']
      simp [Pc.owes]
    · rw [hpc', hruns']
      simp [Pc.owes]
  · rw [act_thread_other hx]
    exact ⟨rfl, rfl⟩

theorem signal_thread_self : (s.signal links ty).thread ty = { s.thread ty with pc := .ready } := by
  simp [TxState.signal]

theorem signal_thread_other (h : x ≠ ty) : (s.signal links ty).thread x = s.thread x := by
  rw [TxState.signal, setThread_other _ _ h]
  split <;> rfl

theorem signal_flag : (s.signal links ty).flag x =
    if links.next ty = some x then true else s.flag x := by
  rw [TxState.signal, setThread_flag]
  cases hnext : links.next ty with
  | none => simp
  | some b =>
    by_cases hx : x = b
    · simp [TxState.setFlag, hx]
    · simp [TxState.setFlag, hx, Ne.symm hx]

/-- A class that is neither first nor L2 transmits only on a signal. -/
theorem bodyRuns_signaled (hfirst : links.isFirst ty = false) (hl2 : ty ≠ .l2)
    (h : bodyRuns (links.isFirst ty) signaled ty = true) : signaled = true := by
  rw [hfirst] at h
  revert h hl2
  cases ty <;> simp [bodyRuns]

/-- Runs are never taken back, and a timer stays set up. -/
theorem step_mono {e : TxEvent} (h : step cfg links s e = some s') (x : FrameType) :
    (s.thread x).runs ≤ (s'.thread x).runs ∧
      ((s.thread x).info.doOnce = true → (s'.thread x).info.doOnce = true) := by
  obtain ⟨ty, -, -, -, rfl⟩ | ⟨ty, now, signaled, -, -, rfl⟩ | ⟨ty, -, -, rfl⟩ := step_cases h
  · by_cases hx : x = ty
    · subst hx
      rw [check_thread_self]
      exact ⟨le_rfl, id⟩
    · rw [check_thread_other _ hx]
      exact ⟨le_rfl, id⟩
  · by_cases hx : x = ty
    · subst hx
      obtain ⟨-, hdo, ⟨-, hruns, -⟩ | ⟨-, hruns, -⟩⟩ :=
        act_thread_self cfg links s x signaled now
      · exact ⟨by omega, hdo⟩
      · exact ⟨hruns.ge, hdo⟩
    · rw [act_thread_other hx]
      exact ⟨le_rfl, id⟩
  · by_cases hx : x = ty
    · subst hx
      rw [signal_thread_self]
      exact ⟨le_rfl, id⟩
    · rw [signal_thread_other hx]
      exact ⟨le_rfl, id⟩

theorem run_mono {es : List TxEvent} (h : run cfg links s es = some s') (x : FrameType) :
    (s.thread x).runs ≤ (s'.thread x).runs ∧
      ((s.thread x).info.doOnce = true → (s'.thread x).info.doOnce = true) := by
  induction es generalizing s with
  | nil =>
    cases h
    exact ⟨le_rfl, id⟩
  | cons e es ih =>
    obtain ⟨q, hq, hrest⟩ := Option.bind_eq_some_iff.mp h
    have hstep := step_mono hq x
    have hrun := ih hrest
    exact ⟨hstep.1.trans hrun.1, fun hdo => hrun.2 (hstep.2 hdo)⟩

end step

/-! ## No transmission without cause -/

/-- Every signal a class has taken or has pending comes from a run of the Tx body
of the class before it, and every run of its own from a signal it has taken. -/
structure Caused (cfg : AppConfig) (links : Links) (s : TxState) : Prop where
  flow : ∀ a b, cfg.isActive a = true → links.next a = some b →
    (s.thread b).consumed + (s.flag b).toNat + (s.thread a).pc.owes ≤ (s.thread a).runs
  taken : ∀ b, b ≠ .l2 → links.isFirst b = false →
    (s.thread b).runs + (s.thread b).pc.taken ≤ (s.thread b).consumed
  owed : ∀ b, (s.thread b).pc.owes ≤ (s.thread b).runs
  /-- A class that no active class is linked to hears nothing. -/
  orphan : ∀ b, (∀ a, cfg.isActive a = true → links.next a ≠ some b) →
    (s.thread b).consumed = 0 ∧ s.flag b = false

section caused
variable {cfg : TimerConfig} {links : Links} {s s' : TxState} {ty : FrameType}

theorem start_caused (cfg : TimerConfig) (links : Links) (startNs : FrameType → UInt64) :
    Caused cfg.app links (start cfg startNs) := by
  constructor
  · intro a b _ _
    exact Nat.zero_le _
  · intro b _ _
    exact Nat.zero_le _
  · intro b
    exact Nat.zero_le _
  · intro b _
    exact ⟨rfl, rfl⟩

/-- Only an active class, or L2, is ever about to signal. -/
theorem Caused.active_of_signaling (h : Caused cfg.app links s) (hlinks : Linked cfg.app links)
    (hl2 : ty ≠ .l2) (hpc : (s.thread ty).pc = .signaling) : cfg.app.isActive ty = true := by
  cases hfirst : links.isFirst ty with
  | true => exact hlinks.first_active ty hfirst
  | false =>
    by_contra hinactive
    have horphan := h.orphan ty fun a _ hnext => hinactive (hlinks.next_spec hnext).2.1
    have htaken := h.taken ty hl2 hfirst
    have howed := h.owed ty
    rw [hpc] at howed
    simp only [Pc.owes] at howed
    omega

/-- A check moves a signal from the flag to the thread. -/
theorem Caused.check (h : Caused cfg.app links s) (hpc : (s.thread ty).pc = .ready) :
    Caused cfg.app links (s.check ty) := by
  have hself := check_thread_self s ty
  have hsum : ((s.check ty).thread ty).consumed + ((s.check ty).flag ty).toNat =
      (s.thread ty).consumed + (s.flag ty).toNat := by
    rw [hself, check_flag]
    cases hcond : hasCond ty .tx <;> simp
  have hflagOther (x : FrameType) (hx : x ≠ ty) : (s.check ty).flag x = s.flag x := by
    rw [check_flag, if_neg fun h => hx h.1]
  have howes (x : FrameType) : ((s.check ty).thread x).pc.owes ≤ (s.thread x).pc.owes ∧
      ((s.check ty).thread x).runs = (s.thread x).runs := by
    by_cases hx : x = ty
    · subst hx
      rw [hself, hpc]
      exact ⟨le_rfl, rfl⟩
    · rw [check_thread_other _ hx]
      exact ⟨le_rfl, rfl⟩
  constructor
  · intro a b ha hnext
    have hflow := h.flow a b ha hnext
    have ha' := howes a
    by_cases hb : b = ty
    · subst hb
      omega
    · rw [check_thread_other _ hb, hflagOther b hb]
      omega
  · intro b hl2 hfirst
    have htaken := h.taken b hl2 hfirst
    by_cases hb : b = ty
    · subst hb
      rw [hself]
      cases hs : hasCond b .tx && s.flag b with
      | false =>
        simp only [Pc.taken, Bool.toNat_false]
        omega
      | true =>
        simp only [Pc.taken, Bool.toNat_true]
        omega
    · rwa [check_thread_other _ hb]
  · intro b
    have hb := howes b
    have howed := h.owed b
    omega
  · intro b hnone
    obtain ⟨hcons, hflag⟩ := h.orphan b hnone
    by_cases hb : b = ty
    · subst hb
      rw [hself, check_flag, hflag, hcons]
      simp
    · rw [check_thread_other _ hb, hflagOther b hb]
      exact ⟨hcons, hflag⟩

theorem Caused.act {signaled : Bool} {now : UInt64} (h : Caused cfg.app links s)
    (hpc : (s.thread ty).pc = .checked signaled) :
    Caused cfg.app links (s.act cfg links ty signaled now) := by
  obtain ⟨hcons, -, hcases⟩ :=
    act_thread_self cfg links s ty signaled now
  have hruns := act_owes cfg links now hpc
  constructor
  · intro a b ha hnext
    have hflow := h.flow a b ha hnext
    have ha' := (hruns a).2
    have hb' := (hruns b).1
    rw [act_flag]
    omega
  · intro b hl2 hfirst
    have htaken := h.taken b hl2 hfirst
    by_cases hb : b = ty
    · subst hb
      rw [hcons]
      rcases hcases with ⟨hpc', hruns', hbody⟩ | ⟨hpc', hruns', -⟩
      · have hsig := bodyRuns_signaled hfirst hl2 hbody
        rw [hpc, hsig] at htaken
        rw [hpc', hruns']
        exact htaken
      · rw [hpc', hruns']
        simp only [Pc.taken]
        omega
    · rwa [act_thread_other hb]
  · intro b
    have hb := (hruns b).2
    have howed := h.owed b
    omega
  · intro b hnone
    rw [act_flag, (hruns b).1]
    exact h.orphan b hnone

theorem Caused.signal (h : Caused cfg.app links s) (hlinks : Linked cfg.app links)
    (hpc : (s.thread ty).pc = .signaling) : Caused cfg.app links (s.signal links ty) := by
  have hkeep (x : FrameType) : ((s.signal links ty).thread x).consumed = (s.thread x).consumed ∧
      ((s.signal links ty).thread x).runs = (s.thread x).runs ∧
      ((s.signal links ty).thread x).pc.owes ≤ (s.thread x).pc.owes ∧
      ((s.signal links ty).thread x).pc.taken ≤ (s.thread x).pc.taken := by
    by_cases hx : x = ty
    · subst hx
      rw [signal_thread_self]
      exact ⟨rfl, rfl, Nat.zero_le _, Nat.zero_le _⟩
    · rw [signal_thread_other hx]
      exact ⟨rfl, rfl, le_rfl, le_rfl⟩
  have hactive (b : FrameType) (hnext : links.next ty = some b) : cfg.app.isActive ty = true := by
    apply h.active_of_signaling hlinks _ hpc
    rintro rfl
    have hmem := (hlinks.next_spec hnext).1
    exact absurd hmem List.not_mem_nil
  constructor
  · intro a b ha hnext
    have hflow := h.flow a b ha hnext
    obtain ⟨-, hrunsA, howesA, -⟩ := hkeep a
    obtain ⟨hconsB, -⟩ := hkeep b
    rw [hconsB, hrunsA, signal_flag]
    split
    · rename_i hty
      obtain rfl := hlinks.unique ha (hactive b hty) hnext hty
      rw [hpc] at hflow
      rw [signal_thread_self]
      simp only [Pc.owes, Bool.toNat_true] at hflow ⊢
      omega
    · omega
  · intro b hl2 hfirst
    have htaken := h.taken b hl2 hfirst
    obtain ⟨hcons, hruns, -, htk⟩ := hkeep b
    omega
  · intro b
    have howed := h.owed b
    obtain ⟨-, hruns, hle, -⟩ := hkeep b
    omega
  · intro b hnone
    obtain ⟨hcons, hflag⟩ := h.orphan b hnone
    refine ⟨(hkeep b).1.trans hcons, ?_⟩
    rw [signal_flag, if_neg fun hnext => hnone ty (hactive b hnext) hnext]
    exact hflag

theorem Caused.step {e : TxEvent} (h : Caused cfg.app links s) (hlinks : Linked cfg.app links)
    (hstep : step cfg links s e = some s') : Caused cfg.app links s' := by
  obtain ⟨ty, -, -, hpc, rfl⟩ | ⟨ty, now, signaled, -, hpc, rfl⟩ | ⟨ty, -, hpc, rfl⟩ :=
    step_cases hstep
  · exact h.check hpc
  · exact h.act hpc
  · exact h.signal hlinks hpc

theorem Caused.run {es : List TxEvent} (h : Caused cfg.app links s) (hlinks : Linked cfg.app links)
    (hrun : run cfg links s es = some s') : Caused cfg.app links s' := by
  induction es generalizing s with
  | nil =>
    cases hrun
    exact h
  | cons e es ih =>
    obtain ⟨q, hq, hrest⟩ := Option.bind_eq_some_iff.mp hrun
    exact ih (h.step hlinks hq) hrest

end caused

/-- In every run of the loops, a class `b` that is next to an active class `a` and
is not first has transmitted, or is about to be told to, at most as often as
`a` has transmitted, and never twice for one signal. -/
theorem transmissions_caused (cfg : TimerConfig) (links : Links)
    (hlink : functionLinkPnThreads cfg.app = .ok links) (startNs : FrameType → UInt64)
    (es : List TxEvent) (s : TxState) (hrun : run cfg links (start cfg startNs) es = some s)
    (a b : FrameType) (ha : cfg.app.isActive a = true) (hnext : links.next a = some b)
    (hfirst : links.isFirst b = false) :
    (s.thread b).runs + (s.flag b).toNat ≤ (s.thread a).runs ∧
      (s.thread b).runs ≤ (s.thread b).consumed ∧
      (s.thread b).consumed + (s.flag b).toNat ≤ (s.thread a).runs := by
  have hlinks := functionLinkPnThreads_linked hlink
  have hcaused := (start_caused cfg links startNs).run hlinks hrun
  have hflow := hcaused.flow a b ha hnext
  have hl2 : b ≠ .l2 := (mem_laterPn.mp (hlinks.next_spec hnext).1).2
  have htaken := hcaused.taken b hl2 hfirst
  exact ⟨by omega, by omega, by omega⟩

/-- All PROFINET classes, one frame each. -/
def smallTimers : TimerConfig := ⟨Thread.AppConfig.small .none 64 1 [], fun _ => 0, false⟩

def smallLinks : Links := ⟨findNextPnThread smallTimers.app, fun ty => ty == .tsnHigh⟩

/-- The first class sets its timer up, transmits and signals. -/
def firstTransmits : List TxEvent :=
  [.check .tsnHigh, .act .tsnHigh 600000, .check .tsnHigh, .act .tsnHigh 1600000, .signal .tsnHigh]

theorem transmissions_caused_first :
    ∃ s, run smallTimers smallLinks (start smallTimers fun _ => 0) firstTransmits = some s ∧
      (s.thread .tsnLow).runs + (s.flag .tsnLow).toNat ≤ (s.thread .tsnHigh).runs := by
  have hsome : (run smallTimers smallLinks (start smallTimers fun _ => 0) firstTransmits).isSome := by
    decide +kernel
  obtain ⟨s, hs⟩ := Option.isSome_iff_exists.mp hsome
  exact ⟨s, hs, (transmissions_caused smallTimers smallLinks rfl (fun _ => 0) firstTransmits s hs
    .tsnHigh .tsnLow rfl rfl rfl).1⟩

end Rtdk.Cascade
