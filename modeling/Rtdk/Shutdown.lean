import Mathlib.Data.Fintype.Basic
import Mathlib.Logic.Function.Basic
import Mathlib.Data.UInt

/-! How the testbench comes to its end (`tsn.c`, `thread_timer.c`, `functions.c`).

The main thread sets the flags that the log and its like look at, walks the list of timers,
for each of which it sets `stop` and waits two seconds at most for `stopped`, waits for all
threads, and then frees everything. The list is locked meanwhile, and a thread that puts its
timer into the list later is never told to stop (`shutdown_ends_iff`). -/

namespace Rtdk.Shutdown

def nsecPerSec : UInt64 := 1000000000
def MAX_TIMERS : Nat := 3

/-- Where the thread of a traffic class is: in front of `thread_timer_alloc`, at the head of
the loop in `thread_timer_run`, at one of its timers, or behind its end. -/
inductive Pc
  | starting
  | looping
  | visiting (idx : Nat)
  | ended
  deriving DecidableEq

/-- Where the main thread is: in the loop of the keyboard, behind `function_stop_all`, in
`thread_timer_stop_all` in front of a `thread_timer_quit` or in it, in
`rte_eal_mp_wait_lcore`, or at `function_free_all`. -/
inductive Main (T : Type)
  | running
  | flagged
  | stopping (rest : List T)
  | quitting (t : T) (timo : UInt64) (rest : List T)
  | waiting
  | freeing

/-- The list is locked by the main thread. -/
def Main.locked {T : Type} : Main T → Bool
  | .stopping _ | .quitting .. => true
  | .running | .flagged | .waiting | .freeing => false

/-- The threads in `T` run timers; those in `L` are loops that look at a flag. `list` is
`timer_list`, and `walked` is what it was when the main thread locked it. `calls` are the
timers whose routines a thread has called, and `late` those called with `stop` set. -/
structure State (T L : Type) where
  pc : T → Pc
  stop : T → Bool
  stopped : T → Bool
  list : List T
  flag : Bool
  done : L → Bool
  main : Main T
  walked : List T
  calls : T → List Nat
  late : T → List Nat

/-- Steps. `ready` says whether `thread_timer_alloc` succeeds, `due` whether the timer that
is looked at is signaled or expired, and `now` what the clock shows. -/
inductive Event (T L : Type)
  | thread (t : T) (ready due : Bool)
  | loop (l : L)
  | main (now : UInt64)

section model
variable {T L : Type} [DecidableEq T] [DecidableEq L] (active : T → Nat → Bool)

def State.setPc (s : State T L) (t : T) (pc : Pc) : State T L :=
  { s with pc := Function.update s.pc t pc }

omit [DecidableEq L] in
theorem State.setPc_pc (s : State T L) (t : T) (pc : Pc) : (s.setPc t pc).pc t = pc :=
  Function.update_self ..

/-- A look at a timer, and the call of its routine. -/
def visit (s : State T L) (t : T) (idx : Nat) (due : Bool) : State T L :=
  if active t idx && due then
    { s with
      calls := Function.update s.calls t (s.calls t ++ [idx])
      late := if s.stop t then Function.update s.late t (s.late t ++ [idx]) else s.late }
  else s

/-- A step of `thread_timer_alloc` and `thread_timer_run`. -/
def threadStep (s : State T L) (t : T) (ready due : Bool) : State T L :=
  match s.pc t with
  | .starting =>
    if !ready then s.setPc t .ended
    else if s.main.locked then s
    else { s.setPc t .looping with list := s.list ++ [t] }
  | .looping =>
    if s.stop t then { s.setPc t .ended with stopped := Function.update s.stopped t true }
    else s.setPc t (.visiting 0)
  | .visiting idx =>
    if idx < MAX_TIMERS then (visit active s t idx due).setPc t (.visiting (idx + 1))
    else s.setPc t .looping
  | .ended => s

variable [Fintype T] [Fintype L]

/-- A step of the main thread. -/
def mainStep (s : State T L) (now : UInt64) : State T L :=
  match s.main with
  | .running => { s with main := .flagged, flag := true }
  | .flagged => { s with main := .stopping s.list, walked := s.list }
  | .stopping [] => { s with main := .waiting }
  | .stopping (t :: rest) =>
    { s with
      stop := Function.update s.stop t true
      main := .quitting t (now + 2 * nsecPerSec) rest }
  | .quitting t timo rest =>
    if s.stopped t ∨ now ≥ timo then { s with main := .stopping rest } else s
  | .waiting =>
    if (∀ t, s.pc t = .ended) ∧ ∀ l, s.done l = true then { s with main := .freeing } else s
  | .freeing => s

def step (s : State T L) : Event T L → State T L
  | .thread t ready due => threadStep active s t ready due
  | .loop l => if s.flag then { s with done := Function.update s.done l true } else s
  | .main now => mainStep s now

def run (s : State T L) (es : List (Event T L)) : State T L := es.foldl (step active) s

def start : State T L where
  pc _ := .starting
  stop _ := false
  stopped _ := false
  list := []
  flag := false
  done _ := false
  main := .running
  walked := []
  calls _ := []
  late _ := []

end model

section run
variable {T L : Type} [DecidableEq T] [DecidableEq L] [Fintype T] [Fintype L]
  {active : T → Nat → Bool}

/-! ## Calls behind `stop` -/

/-- A thread behind its `stop` goes on to its last timer, and ends. -/
structure Stopping (s : State T L) (t : T) : Prop where
  visiting : ∀ idx, s.pc t = .visiting idx → idx ≤ MAX_TIMERS ∧ ∀ i ∈ s.late t, i < idx
  sorted : (s.late t).Pairwise (· < ·)
  bounded : ∀ i ∈ s.late t, i < MAX_TIMERS
  fresh : s.stop t = false → s.late t = []
  stopped : s.stopped t = true → s.pc t = .ended

omit [DecidableEq T] [DecidableEq L] [Fintype T] [Fintype L] in
/-- Steps that leave the thread alone, but for its `stop`. -/
theorem Stopping.aside {s s' : State T L} {t : T} (h : Stopping s t) (hpc : s'.pc t = s.pc t)
    (hlate : s'.late t = s.late t) (hstopped : s'.stopped t = s.stopped t)
    (hstop : s.stop t = true → s'.stop t = true) : Stopping s' t := by
  refine ⟨fun idx hidx => ?_, hlate ▸ h.sorted, fun i hi => ?_, fun hno => ?_, fun hyes => ?_⟩
  · rw [hlate]
    exact h.visiting idx (hpc ▸ hidx)
  · exact h.bounded i (hlate ▸ hi)
  · rw [hlate]
    refine h.fresh ?_
    cases hs : s.stop t with
    | false => rfl
    | true => rw [hstop hs] at hno; cases hno
  · rw [hpc]
    exact h.stopped (hstopped ▸ hyes)

variable (active) in
omit [Fintype T] [Fintype L] [DecidableEq L] in
theorem threadStep_aside (s : State T L) {t u : T} (hne : u ≠ t) (ready due : Bool) :
    (threadStep active s t ready due).pc u = s.pc u ∧
      (threadStep active s t ready due).late u = s.late u ∧
      (threadStep active s t ready due).stopped u = s.stopped u ∧
      (threadStep active s t ready due).calls u = s.calls u := by
  unfold threadStep visit State.setPc
  split
  · split
    · simp [hne]
    · split <;> simp [hne]
  · split <;> simp [hne]
  · split
    · split
      · split <;> simp [hne]
      · simp [hne]
    · simp [hne]
  · simp

variable (active) in
omit [Fintype T] [Fintype L] [DecidableEq L] in
/-- A thread changes neither its `stop` nor the main thread. -/
theorem threadStep_main (s : State T L) (t : T) (ready due : Bool) :
    (threadStep active s t ready due).stop = s.stop ∧
      (threadStep active s t ready due).main = s.main ∧
      (threadStep active s t ready due).walked = s.walked ∧
      (threadStep active s t ready due).flag = s.flag ∧
      (threadStep active s t ready due).done = s.done := by
  unfold threadStep visit State.setPc
  split
  · split
    · exact ⟨rfl, rfl, rfl, rfl, rfl⟩
    · split <;> exact ⟨rfl, rfl, rfl, rfl, rfl⟩
  · split <;> exact ⟨rfl, rfl, rfl, rfl, rfl⟩
  · split
    · split <;> exact ⟨rfl, rfl, rfl, rfl, rfl⟩
    · exact ⟨rfl, rfl, rfl, rfl, rfl⟩
  · exact ⟨rfl, rfl, rfl, rfl, rfl⟩

omit [Fintype T] [Fintype L] [DecidableEq L] in
/-- The thread goes somewhere else than to a timer. -/
theorem Stopping.setPc {s : State T L} {t : T} (h : Stopping s t) {pc : Pc}
    (hpc : ∀ idx, pc ≠ .visiting idx) (hrun : s.pc t ≠ .ended ∨ pc = .ended) :
    Stopping (s.setPc t pc) t := by
  have hat : (s.setPc t pc).pc t = pc := s.setPc_pc t pc
  refine ⟨fun idx hidx => ?_, h.sorted, h.bounded, h.fresh, fun hyes => ?_⟩
  · rw [hat] at hidx
    exact absurd hidx (hpc idx)
  · rw [hat]
    exact hrun.resolve_left fun hne => hne (h.stopped hyes)

omit [Fintype T] [Fintype L] [DecidableEq L] in
/-- A timer is looked at, and the next one is up. -/
theorem Stopping.visit {s : State T L} {t : T} (h : Stopping s t) {idx : Nat}
    (hpc : s.pc t = .visiting idx) (hidx : idx < MAX_TIMERS) (due : Bool) :
    Stopping ((visit active s t idx due).setPc t (.visiting (idx + 1))) t := by
  obtain ⟨-, hbelow⟩ := h.visiting idx hpc
  have hrunning : s.stopped t ≠ true := fun hyes => by
    rw [h.stopped hyes] at hpc
    cases hpc
  have hlate : (Shutdown.visit active s t idx due).late t = s.late t ∨
      s.stop t = true ∧ (Shutdown.visit active s t idx due).late t = s.late t ++ [idx] := by
    unfold Shutdown.visit
    split
    · cases hstop : s.stop t with
      | false => exact .inl rfl
      | true => exact .inr ⟨rfl, Function.update_self ..⟩
    · exact .inl rfl
  have hstop : (Shutdown.visit active s t idx due).stop = s.stop := by
    unfold Shutdown.visit
    split <;> rfl
  have hstopped : (Shutdown.visit active s t idx due).stopped = s.stopped := by
    unfold Shutdown.visit
    split <;> rfl
  have hat : ((Shutdown.visit active s t idx due).setPc t (.visiting (idx + 1))).pc t =
      .visiting (idx + 1) := State.setPc_pc _ t _
  have hmem (i : Nat) (hi : i ∈ (Shutdown.visit active s t idx due).late t) :
      i < idx ∨ i = idx := by
    rcases hlate with hlate | ⟨-, hlate⟩
    · exact .inl (hbelow i (hlate ▸ hi))
    · rw [hlate, List.mem_append, List.mem_singleton] at hi
      exact hi.imp_left (hbelow i)
  refine ⟨fun j hj => ?_, ?_, fun i hi => ?_, fun hno => ?_, fun hyes => ?_⟩
  · rw [hat] at hj
    cases hj
    exact ⟨hidx, fun i hi => by rcases hmem i hi with hlt | rfl <;> omega⟩
  · show ((Shutdown.visit active s t idx due).late t).Pairwise (· < ·)
    rcases hlate with hlate | ⟨-, hlate⟩
    · rw [hlate]
      exact h.sorted
    · rw [hlate, List.pairwise_append]
      refine ⟨h.sorted, List.pairwise_singleton _ _, fun i hi j hj => ?_⟩
      rw [List.mem_singleton.mp hj]
      exact hbelow i hi
  · rcases hmem i hi with hlt | rfl <;> omega
  · rcases hlate with hlate | ⟨hyes, -⟩
    · exact hlate.trans (h.fresh (hstop ▸ hno))
    · rw [← hstop] at hyes
      exact absurd (hno.symm.trans hyes) Bool.false_ne_true
  · exact absurd (hstopped ▸ hyes) hrunning

omit [Fintype T] [Fintype L] [DecidableEq L] in
theorem Stopping.threadStep {s : State T L} {t : T} (h : Stopping s t) (ready due : Bool) :
    Stopping (threadStep active s t ready due) t := by
  unfold Shutdown.threadStep
  split
  · rename_i hpc
    have hrun : s.pc t ≠ .ended := by
      rw [hpc]
      exact Pc.noConfusion
    split
    · exact h.setPc (fun idx => Pc.noConfusion) (.inr rfl)
    · split
      · exact h
      · have hlooping : Stopping (s.setPc t .looping) t :=
          h.setPc (fun idx => Pc.noConfusion) (.inl hrun)
        exact hlooping.aside rfl rfl rfl id
  · rename_i hpc
    split
    · have hended := (h.setPc (fun idx => Pc.noConfusion) (.inr rfl) :
        Stopping (s.setPc t .ended) t)
      exact ⟨hended.visiting, hended.sorted, hended.bounded, hended.fresh,
        fun _ => Function.update_self ..⟩
    · rename_i hstop
      have hnone := h.fresh (Bool.not_eq_true _ ▸ hstop)
      have hat : (s.setPc t (.visiting 0)).pc t = .visiting 0 := s.setPc_pc t _
      refine ⟨fun idx hidx => ?_, h.sorted, h.bounded, h.fresh, fun hyes => ?_⟩
      · rw [hat] at hidx
        cases hidx
        refine ⟨Nat.zero_le _, fun i hi => ?_⟩
        rw [State.setPc, hnone] at hi
        cases hi
      · rw [h.stopped hyes] at hpc
        cases hpc
  · rename_i idx hpc
    split
    · rename_i hidx
      exact h.visit hpc hidx due
    · refine h.setPc (fun idx => Pc.noConfusion) (.inl ?_)
      rw [hpc]
      exact Pc.noConfusion
  · exact h

omit [DecidableEq L] in
theorem mainStep_aside (s : State T L) (now : UInt64) :
    (mainStep s now).pc = s.pc ∧ (mainStep s now).late = s.late ∧
      (mainStep s now).stopped = s.stopped ∧ (mainStep s now).calls = s.calls ∧
      (∀ t, s.stop t = true → (mainStep s now).stop t = true) ∧
      (mainStep s now).done = s.done := by
  unfold mainStep
  split
  · exact ⟨rfl, rfl, rfl, rfl, fun _ => id, rfl⟩
  · exact ⟨rfl, rfl, rfl, rfl, fun _ => id, rfl⟩
  · exact ⟨rfl, rfl, rfl, rfl, fun _ => id, rfl⟩
  · rename_i u rest hmain
    refine ⟨rfl, rfl, rfl, rfl, fun t ht => ?_, rfl⟩
    show Function.update s.stop u true t = true
    by_cases hu : t = u
    · rw [hu, Function.update_self]
    · rw [Function.update_of_ne hu, ht]
  · split <;> exact ⟨rfl, rfl, rfl, rfl, fun _ => id, rfl⟩
  · split <;> exact ⟨rfl, rfl, rfl, rfl, fun _ => id, rfl⟩
  · exact ⟨rfl, rfl, rfl, rfl, fun _ => id, rfl⟩

theorem Stopping.step {s : State T L} {t : T} (h : Stopping s t) (e : Event T L) :
    Stopping (step active s e) t := by
  cases e with
  | thread u ready due =>
    by_cases hu : t = u
    · subst hu
      exact h.threadStep ready due
    · obtain ⟨hpc, hlate, hstopped, -⟩ := threadStep_aside active s hu ready due
      refine h.aside hpc hlate hstopped fun hyes => ?_
      exact (congrFun (threadStep_main active s u ready due).1 t).trans hyes
  | loop l =>
    simp only [Shutdown.step]
    split
    · exact h.aside rfl rfl rfl id
    · exact h
  | main now =>
    obtain ⟨hpc, hlate, hstopped, -, hstop, -⟩ := mainStep_aside s now
    exact h.aside (congrFun hpc t) (congrFun hlate t) (congrFun hstopped t) (hstop t)

theorem stopping_run (t : T) (es : List (Event T L)) : Stopping (run active start es) t := by
  have hstart : Stopping (start : State T L) t :=
    ⟨nofun, List.Pairwise.nil, nofun, fun _ => rfl, nofun⟩
  induction es using List.reverseRecOn with
  | nil => exact hstart
  | append_singleton es e ih =>
    rw [run, List.foldl_append]
    exact ih.step e

variable (active) in
/-- A thread that has ended makes no calls any more. -/
theorem ended_step {s : State T L} {t : T} (h : s.pc t = .ended) (e : Event T L) :
    (step active s e).pc t = .ended ∧ (step active s e).calls t = s.calls t := by
  cases e with
  | thread u ready due =>
    by_cases hu : t = u
    · subst hu
      have hsame : threadStep active s t ready due = s := by
        unfold threadStep
        rw [h]
      show (threadStep active s t ready due).pc t = _ ∧
        (threadStep active s t ready due).calls t = _
      rw [hsame]
      exact ⟨h, rfl⟩
    · obtain ⟨hpc, -, -, hcalls⟩ := threadStep_aside active s hu ready due
      exact ⟨hpc.trans h, hcalls⟩
  | loop l =>
    simp only [step]
    split <;> exact ⟨h, rfl⟩
  | main now =>
    obtain ⟨hpc, -, -, hcalls, -⟩ := mainStep_aside s now
    exact ⟨(congrFun hpc t).trans h, congrFun hcalls t⟩

theorem ended_run {s : State T L} {t : T} (h : s.pc t = .ended) (es : List (Event T L)) :
    (run active s es).pc t = .ended ∧ (run active s es).calls t = s.calls t := by
  induction es using List.reverseRecOn with
  | nil => exact ⟨h, rfl⟩
  | append_singleton es e ih =>
    rw [run, List.foldl_append]
    obtain ⟨hpc, hcalls⟩ := ended_step active ih.1 e
    exact ⟨hpc, hcalls.trans ih.2⟩

omit [DecidableEq L] in
theorem mainStep_freeing {s : State T L} {now : UInt64} (h : (mainStep s now).main = .freeing) :
    s.main = .freeing ∨ (∀ t, s.pc t = .ended) ∧ ∀ l, s.done l = true := by
  unfold mainStep at h
  split at h
  · cases h
  · cases h
  · cases h
  · cases h
  · rename_i hmain
    split at h
    · cases h
    · rw [hmain] at h
      cases h
  · split at h
    · rename_i hall
      exact .inr hall
    · exact .inl h
  · exact .inl h

/-- The main thread frees only what no thread uses any more. -/
def Quiet (s : State T L) : Prop :=
  s.main = .freeing → (∀ t, s.pc t = .ended) ∧ ∀ l, s.done l = true

theorem Quiet.step {s : State T L} (h : Quiet s) (e : Event T L) : Quiet (step active s e) := by
  intro hmain
  cases e with
  | thread u ready due =>
    obtain ⟨-, hm, -, -, hdone⟩ := threadStep_main active s u ready due
    obtain ⟨hpc, hl⟩ := h (hm ▸ hmain)
    exact ⟨fun t => (ended_step active (hpc t) (.thread u ready due)).1,
      fun l => (congrFun hdone l).trans (hl l)⟩
  | loop l =>
    simp only [Shutdown.step] at hmain ⊢
    split
    · rename_i hflag
      rw [if_pos hflag] at hmain
      obtain ⟨hpc, hl⟩ := h hmain
      refine ⟨hpc, fun l' => ?_⟩
      show Function.update s.done l true l' = true
      by_cases hl' : l' = l
      · rw [hl', Function.update_self]
      · rw [Function.update_of_ne hl', hl l']
    · rename_i hflag
      rw [if_neg hflag] at hmain
      exact h hmain
  | main now =>
    obtain ⟨hpc, -, -, -, -, hdone⟩ := mainStep_aside s now
    show (∀ t, (mainStep s now).pc t = .ended) ∧ ∀ l, (mainStep s now).done l = true
    rw [hpc, hdone]
    exact (mainStep_freeing hmain).elim h id

theorem quiet_run (es : List (Event T L)) : Quiet (run active (start : State T L) es) := by
  induction es using List.reverseRecOn with
  | nil => exact nofun
  | append_singleton es e ih =>
    rw [run, List.foldl_append]
    exact ih.step e

/-- **Calls behind `stop`.** A thread whose `stop` is set calls the routine of each of its
timers once at most, and when `thread_timer_quit` has seen it stopped, or the testbench is
freed, it calls none any more. -/
theorem stop_calls (active : T → Nat → Bool) (es : List (Event T L)) (t : T) :
    let s := run active start es
    (s.late t).Pairwise (· < ·) ∧ (s.late t).length ≤ MAX_TIMERS ∧
      (s.stopped t = true ∨ s.main = .freeing →
        ∀ more, (run active s more).calls t = s.calls t) := by
  intro s
  have h : Stopping s t := stopping_run t es
  refine ⟨h.sorted, ?_, fun hend more => ?_⟩
  · have hsub : s.late t ⊆ List.range MAX_TIMERS := fun i hi => List.mem_range.mpr (h.bounded i hi)
    have hnodup : (s.late t).Nodup := h.sorted.imp Nat.ne_of_lt
    have hlength := (hnodup.subperm hsub).length_le
    rwa [List.length_range] at hlength
  · have hended : s.pc t = .ended := hend.elim h.stopped fun hmain => (quiet_run es hmain).1 t
    exact (ended_run hended more).2

/-! ## Coming to the end -/

/-- How far the main thread has got in the list, and whose `stop` it has set. -/
def Walk (s : State T L) : Prop :=
  match s.main with
  | .running | .flagged => ∀ t, s.stop t = false
  | .stopping rest => ∃ before, s.walked = before ++ rest ∧ ∀ t, s.stop t = true ↔ t ∈ before
  | .quitting u _ rest =>
    ∃ before, s.walked = before ++ rest ∧ u ∈ before ∧ ∀ t, s.stop t = true ↔ t ∈ before
  | .waiting | .freeing => ∀ t, s.stop t = true ↔ t ∈ s.walked

omit [DecidableEq L] in
theorem Walk.mainStep {s : State T L} (h : Walk s) (now : UInt64) : Walk (mainStep s now) := by
  unfold Walk at h
  unfold Shutdown.mainStep
  split
  · rename_i hmain
    rw [hmain] at h
    exact h
  · rename_i hmain
    rw [hmain] at h
    refine ⟨[], rfl, fun t => ?_⟩
    show s.stop t = true ↔ _
    rw [h t]
    simp
  · rename_i hmain
    rw [hmain] at h
    obtain ⟨before, hwalked, hstop⟩ := h
    intro t
    show s.stop t = true ↔ t ∈ s.walked
    rw [hwalked, List.append_nil]
    exact hstop t
  · rename_i u rest hmain
    rw [hmain] at h
    obtain ⟨before, hwalked, hstop⟩ := h
    refine ⟨before ++ [u], by rw [List.append_assoc]; exact hwalked,
      List.mem_append_right _ List.mem_cons_self, fun t => ?_⟩
    show Function.update s.stop u true t = true ↔ _
    rw [List.mem_append, List.mem_singleton, ← hstop t]
    by_cases hu : t = u
    · rw [hu, Function.update_self]
      exact ⟨fun _ => .inr rfl, fun _ => rfl⟩
    · rw [Function.update_of_ne hu, or_iff_left hu]
  · rename_i u timo rest hmain
    rw [hmain] at h
    obtain ⟨before, hwalked, hmem, hstop⟩ := h
    split
    · exact ⟨before, hwalked, hstop⟩
    · unfold Walk
      rw [hmain]
      exact ⟨before, hwalked, hmem, hstop⟩
  · rename_i hmain
    rw [hmain] at h
    split
    · exact h
    · unfold Walk
      rw [hmain]
      exact h
  · rename_i hmain
    unfold Walk
    rw [hmain] at h ⊢
    exact h

theorem Walk.step {s : State T L} (h : Walk s) (e : Event T L) : Walk (step active s e) := by
  cases e with
  | thread u ready due =>
    obtain ⟨hstop, hmain, hwalked, -, -⟩ := threadStep_main active s u ready due
    unfold Walk
    simp only [Shutdown.step, hstop, hmain, hwalked]
    exact h
  | loop l =>
    simp only [Shutdown.step]
    split <;> exact h
  | main now => exact h.mainStep now

theorem walk_run (es : List (Event T L)) : Walk (run active (start : State T L) es) := by
  induction es using List.reverseRecOn with
  | nil => exact fun _ => rfl
  | append_singleton es e ih =>
    rw [run, List.foldl_append]
    exact ih.step e

omit [DecidableEq L] in
theorem flag_mainStep {s : State T L} (h : s.flag = true) (now : UInt64) :
    (mainStep s now).flag = true := by
  unfold mainStep
  split
  · rfl
  · exact h
  · exact h
  · exact h
  · split <;> exact h
  · split <;> exact h
  · exact h

variable (active) in
theorem flag_run (es : List (Event T L)) :
    (run active (start : State T L) es).main = .running ∨
      (run active (start : State T L) es).flag = true := by
  induction es using List.reverseRecOn with
  | nil => exact .inl rfl
  | append_singleton es e ih =>
    rw [run, List.foldl_append]
    rw [run] at ih
    generalize es.foldl (step active) start = s at ih
    cases e with
    | thread u ready due =>
      obtain ⟨-, hmain, -, hflag, -⟩ := threadStep_main active s u ready due
      show (threadStep active s u ready due).main = _ ∨ (threadStep active s u ready due).flag = _
      rw [hmain, hflag]
      exact ih
    | loop l =>
      simp only [List.foldl_cons, List.foldl_nil, step]
      split <;> exact ih
    | main now =>
      right
      show (mainStep s now).flag = true
      rcases ih with hmain | hflag
      · simp only [mainStep, hmain]
      · exact flag_mainStep hflag now

/-- The main thread waits for the threads, or has done so. -/
def Behind (s : State T L) : Prop := s.main = .waiting ∨ s.main = .freeing

omit [DecidableEq L] in
theorem Behind.mainStep {s : State T L} (h : Behind s) (now : UInt64) :
    Behind (mainStep s now) ∧ (mainStep s now).stop = s.stop ∧
      (s.main = .freeing ∨ (∀ t, s.pc t = .ended) ∧ (∀ l, s.done l = true) →
        (mainStep s now).main = .freeing) := by
  unfold Shutdown.mainStep
  rcases h with hmain | hmain
  · rw [hmain]
    show Behind (ite _ _ _) ∧ State.stop (ite _ _ _) = _ ∧ (_ → State.main (ite _ _ _) = _)
    split
    · exact ⟨.inr rfl, rfl, fun _ => rfl⟩
    · rename_i hall
      refine ⟨.inl hmain, rfl, fun hend => ?_⟩
      rcases hend with hend | hend
      · cases hend
      · exact absurd hend hall
  · rw [hmain]
    exact ⟨.inr hmain, rfl, fun _ => hmain⟩

/-- The steps a thread that is told to stop takes to its end. -/
def stepsLeft : Pc → Nat
  | .starting => 2
  | .looping => 1
  | .visiting idx => MAX_TIMERS - idx + 2
  | .ended => 0

theorem stepsLeft_le (pc : Pc) : stepsLeft pc ≤ 5 := by
  cases pc with
  | visiting idx =>
    simp only [stepsLeft, MAX_TIMERS]
    omega
  | _ => decide

theorem eq_ended_of_stepsLeft {pc : Pc} (h : stepsLeft pc = 0) : pc = .ended := by
  cases pc with
  | ended => rfl
  | _ => cases h

variable (active) in
omit [DecidableEq L] [Fintype T] [Fintype L] in
theorem stepsLeft_threadStep {s : State T L} {t : T} (hfree : s.main.locked = false)
    (hstop : s.stop t = true) (ready due : Bool) :
    (threadStep active s t ready due).pc t = .ended ∨
      stepsLeft ((threadStep active s t ready due).pc t) + 1 ≤ stepsLeft (s.pc t) := by
  unfold threadStep
  split
  · rename_i hpc
    split
    · exact .inl (s.setPc_pc t _)
    · right
      rw [if_neg (by rw [hfree]; exact Bool.false_ne_true), hpc]
      show stepsLeft ((s.setPc t .looping).pc t) + 1 ≤ _
      rw [State.setPc_pc]
      exact Nat.le_refl _
  · left
    rw [if_pos hstop]
    exact s.setPc_pc t _
  · rename_i idx hpc
    right
    rw [hpc]
    split
    · rw [State.setPc_pc]
      simp only [stepsLeft]
      omega
    · rw [State.setPc_pc]
      simp only [stepsLeft]
      omega
  · rename_i hpc
    exact .inl hpc

/-- The event is a step of the thread. -/
def Event.isThread (t : T) : Event T L → Bool
  | .thread u _ _ => u = t
  | _ => false

/-- A thread that has been told to stop is on its way to its end. -/
structure Ending (t : T) (n : Nat) (s : State T L) : Prop where
  behind : Behind s
  ending : s.pc t = .ended ∨ s.stop t = true ∧ stepsLeft (s.pc t) + n ≤ 5

omit [DecidableEq T] [DecidableEq L] [Fintype T] [Fintype L] in
theorem Ending.aside {s s' : State T L} {t : T} {n : Nat} (h : Ending t n s) (hs : Behind s')
    (hpc : s'.pc t = s.pc t) (hstop : s'.stop t = s.stop t) : Ending t (n + 0) s' := by
  refine ⟨hs, ?_⟩
  rw [hpc, hstop]
  exact h.ending

theorem Behind.step {s : State T L} (h : Behind s) (e : Event T L) : Behind (step active s e) := by
  cases e with
  | thread u ready due =>
    unfold Behind
    rw [Shutdown.step, (threadStep_main active s u ready due).2.1]
    exact h
  | loop l =>
    simp only [Shutdown.step]
    split <;> exact h
  | main now => exact (h.mainStep now).1

theorem behind_run {s : State T L} (h : Behind s) (es : List (Event T L)) :
    Behind (run active s es) := by
  induction es using List.reverseRecOn with
  | nil => exact h
  | append_singleton es e ih =>
    rw [run, List.foldl_append]
    exact ih.step e

theorem Ending.step {s : State T L} {t : T} {n : Nat} (h : Ending t n s) (e : Event T L) :
    Ending t (n + if e.isThread t then 1 else 0) (step active s e) := by
  have hfree : s.main.locked = false := by rcases h.behind with hm | hm <;> rw [hm] <;> rfl
  cases e with
  | thread u ready due =>
    obtain ⟨hstops, -⟩ := threadStep_main active s u ready due
    have hbehind : Behind (threadStep active s u ready due) := h.behind.step (.thread u ready due)
    by_cases hu : t = u
    · subst hu
      rw [Event.isThread, if_pos (decide_eq_true rfl)]
      refine ⟨hbehind, ?_⟩
      rcases h.ending with hended | ⟨hstop, hleft⟩
      · exact .inl (ended_step active hended (.thread t ready due)).1
      · rcases stepsLeft_threadStep active hfree hstop ready due with hend | hless
        · exact .inl hend
        · refine .inr ⟨(congrFun hstops t).trans hstop, ?_⟩
          show stepsLeft ((threadStep active s t ready due).pc t) + (n + 1) ≤ 5
          omega
    · have hno : ¬ (Event.thread u ready due : Event T L).isThread t = true := by
        simp only [Event.isThread, decide_eq_true_eq]
        exact fun heq => hu heq.symm
      rw [if_neg hno]
      exact h.aside hbehind (threadStep_aside active s hu ready due).1 (congrFun hstops t)
  | loop l =>
    rw [if_neg (by exact Bool.false_ne_true)]
    simp only [Shutdown.step]
    split
    · exact h.aside h.behind rfl rfl
    · exact h
  | main now =>
    obtain ⟨-, hstop, -⟩ := h.behind.mainStep now
    rw [if_neg (by exact Bool.false_ne_true)]
    exact h.aside (h.behind.step _) (congrFun (mainStep_aside s now).1 t) (congrFun hstop t)

theorem ending_run {s : State T L} {t : T} (h : Ending t 0 s) (es : List (Event T L)) :
    Ending t (es.countP (Event.isThread t)) (run active s es) := by
  induction es using List.reverseRecOn with
  | nil => exact h
  | append_singleton es e ih =>
    rw [run, List.foldl_append, List.countP_append, List.countP_singleton]
    exact ih.step e

/-- A loop that looks at its flag is done. -/
theorem done_run {s : State T L} (hflag : s.flag = true) (l : L) (es : List (Event T L)) :
    (run active s es).flag = true ∧ (.loop l ∈ es → (run active s es).done l = true) := by
  induction es using List.reverseRecOn with
  | nil => exact ⟨hflag, nofun⟩
  | append_singleton es e ih =>
    rw [run, List.foldl_append]
    rw [run] at ih
    generalize es.foldl (step active) s = s' at ih
    rw [List.mem_append, List.mem_singleton]
    cases e with
    | thread u ready due =>
      obtain ⟨-, -, -, hf, hdone⟩ := threadStep_main active s' u ready due
      show (threadStep active s' u ready due).flag = true ∧
        (_ → (threadStep active s' u ready due).done l = true)
      rw [hf, hdone]
      exact ⟨ih.1, fun hmem => ih.2 (hmem.resolve_right nofun)⟩
    | loop l' =>
      simp only [List.foldl_cons, List.foldl_nil, step, ih.1, if_true]
      refine ⟨trivial, fun hmem => ?_⟩
      by_cases hl : l = l'
      · rw [hl, Function.update_self]
      · rw [Function.update_of_ne hl]
        exact ih.2 (hmem.resolve_right fun heq => hl (Event.loop.inj heq))
    | main now =>
      obtain ⟨-, -, -, -, -, hdone⟩ := mainStep_aside s' now
      refine ⟨flag_mainStep ih.1 now, fun hmem => ?_⟩
      show (mainStep s' now).done l = true
      rw [hdone]
      exact ih.2 (hmem.resolve_right nofun)

/-- A thread that nobody tells to stop, in a testbench that waits for it. -/
structure Forgotten (t : T) (s : State T L) : Prop where
  main : s.main = .waiting
  stop : s.stop t = false
  running : s.pc t ≠ .ended

theorem Forgotten.step {s : State T L} {t : T} (h : Forgotten t s) {e : Event T L}
    (he : ∀ due, e ≠ .thread t false due) : Forgotten t (step active s e) := by
  cases e with
  | thread u ready due =>
    obtain ⟨hstops, hmain, -⟩ := threadStep_main active s u ready due
    refine ⟨hmain.trans h.main, (congrFun hstops t).trans h.stop, ?_⟩
    by_cases hu : t = u
    · subst hu
      have hready : ready = true := by
        cases ready with
        | true => rfl
        | false => exact absurd rfl (he due)
      have hat (s' : State T L) (pc : Pc) (hne : pc ≠ .ended) : (s'.setPc t pc).pc t ≠ .ended := by
        rw [State.setPc_pc]
        exact hne
      show (threadStep active s t ready due).pc t ≠ .ended
      unfold threadStep
      split
      · rw [hready, h.main]
        exact hat s .looping Pc.noConfusion
      · rw [h.stop]
        exact hat s _ Pc.noConfusion
      · split
        · exact hat _ _ Pc.noConfusion
        · exact hat _ _ Pc.noConfusion
      · exact h.running
    · show (threadStep active s u ready due).pc t ≠ .ended
      rw [(threadStep_aside active s hu ready due).1]
      exact h.running
  | loop l =>
    simp only [Shutdown.step]
    split <;> exact ⟨h.main, h.stop, h.running⟩
  | main now =>
    have hsame : mainStep s now = s := by
      unfold mainStep
      rw [h.main]
      exact if_neg fun hall => h.running (hall.1 t)
    show Forgotten t (mainStep s now)
    rw [hsame]
    exact h

/-- **The end.** When the main thread waits for the threads, it comes to `function_free_all`
after a few steps of each of them if every one has ended or had its timer in the list when
the list was locked; and it never does if one has not. -/
theorem shutdown_ends_iff (active : T → Nat → Bool) (pre : List (Event T L)) (s : State T L)
    (hpre : run active start pre = s) (hmain : s.main = .waiting) :
    ((∀ t, t ∈ s.walked ∨ s.pc t = .ended) → ∀ es now,
        (∀ t, 5 ≤ es.countP (Event.isThread t)) → (∀ l, .loop l ∈ es) →
        (run active s (es ++ [.main now])).main = .freeing) ∧
      ∀ t, ¬ (t ∈ s.walked ∨ s.pc t = .ended) → ∀ es, (∀ due, .thread t false due ∉ es) →
        (run active s es).main = .waiting := by
  have hwalk : ∀ t, s.stop t = true ↔ t ∈ s.walked := by
    have h : Walk s := hpre ▸ walk_run pre
    unfold Walk at h
    rwa [hmain] at h
  constructor
  · intro htold es now hthreads hloops
    have hflag : s.flag = true := by
      have h := hpre ▸ flag_run active pre
      refine h.resolve_left fun hrun => ?_
      rw [hmain] at hrun
      cases hrun
    have hending (t : T) : Ending t (es.countP (Event.isThread t)) (run active s es) := by
      refine ending_run ⟨.inl hmain, ?_⟩ es
      rcases htold t with hmem | hended
      · exact .inr ⟨(hwalk t).mpr hmem, stepsLeft_le _⟩
      · exact .inl hended
    have hended (t : T) : (run active s es).pc t = .ended := by
      rcases (hending t).ending with hend | ⟨-, hleft⟩
      · exact hend
      · have hsteps := hthreads t
        exact eq_ended_of_stepsLeft (by omega)
    rw [run, List.foldl_append]
    exact ((behind_run (.inl hmain) es).mainStep now).2.2
      (.inr ⟨hended, fun l => (done_run hflag l es).2 (hloops l)⟩)
  · intro t hnot es hes
    rw [not_or] at hnot
    have hstop : s.stop t = false := by
      rw [← Bool.not_eq_true, hwalk t]
      exact hnot.1
    have h : Forgotten t (run active s es) := by
      induction es using List.reverseRecOn with
      | nil => exact ⟨hmain, hstop, hnot.2⟩
      | append_singleton es e ih =>
        rw [run, List.foldl_append]
        refine (ih fun due hmem => hes due (List.mem_append_left _ hmem)).step fun due he => ?_
        exact hes due (he ▸ List.mem_append_right _ List.mem_cons_self)
    exact h.main

/-- A thread is in its loop, and `thread_timer_quit` has timed out. -/
def toTheEnd : List (Event Unit Unit) :=
  [.thread () true false, .main 0, .main 0, .main 0, .main (2 * nsecPerSec), .main 0]

def lastSteps : List (Event Unit Unit) := List.replicate 5 (.thread () true false) ++ [.loop ()]

/-- The main thread walks the empty list. -/
def pastTheList : List (Event Unit Unit) := [.main 0, .main 0, .main 0]

theorem shutdown_ends_iff_one :
    (run (fun _ _ => true) (run (fun _ _ => true) start toTheEnd) (lastSteps ++ [.main 0])).main =
        .freeing ∧
      (run (fun _ _ => true) (run (fun _ _ => true) start pastTheList)
        (lastSteps ++ [.main 0])).main = .waiting := by
  refine ⟨(shutdown_ends_iff (fun _ _ => true) toTheEnd _ rfl rfl).1
    (fun _ => .inl List.mem_cons_self) lastSteps 0 (fun _ => Nat.le_refl 5)
    (fun _ => List.mem_append_right _ List.mem_cons_self),
    (shutdown_ends_iff (fun _ _ => true) pastTheList _ rfl rfl).2 () ?_ _ fun due => ?_⟩
  · rintro (hmem | hended)
    · cases hmem
    · cases hended
  · cases due <;> simp [lastSteps]

end run

end Rtdk.Shutdown
