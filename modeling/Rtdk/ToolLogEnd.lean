import Rtdk.ToolLog

/-! What `log_flush` and `log_close` do for the log files of RATT and LTTT.

`log_flush` ends however much the other threads log, and what was in the rings at its call is
written (`log_flush_writes`). `log_close` writes nothing (`log_close_loses`), and nothing is
used behind its end if no thread is logging then (`log_run_ok`). -/

namespace Rtdk.ToolLog
open Rtdk.Memory Rtdk.CString Rtdk.MessagePool Rtdk.Runs

section log
variable {T : Type} {tool : Tool} [DecidableEq T] [Fintype T]

/-! ## Flushed -/

def LogEvent.isTurn : LogEvent T → Bool
  | .turn => true
  | _ => false

/-- What had gone into the rings in `s₀` is taken when the main thread is through with them,
and an open file gets it. -/
structure Flushing (s₀ s : LogInfo T) : Prop where
  enqueued : s₀.enqueued <+: s.enqueued
  deltas : s₀.deltas <+: s.deltas
  lines : (∀ caller, s.main ≠ .logs caller) → s₀.enqueued.map Call.line <+: s.taken.map Prod.fst
  values : (∀ caller, s.main ≠ .logs caller) → (∀ caller, s.main ≠ .deltas caller) →
    s₀.deltas <+: s.values
  file : ∀ f, s₀.file = some f → ∃ blocks taken, s.file = some (f ++ blocks) ∧ s.old = s₀.old ∧
    s.taken = s₀.taken ++ taken ∧ blocks.flatMap Block.lines = taken.map Prod.fst

theorem Flushing.turned {s₀ s s' : LogInfo T} (h : Flushing s₀ s) (hinv : Inv tool s)
    (hturn : Turned tool s s') : Flushing s₀ s' := by
  have hlines := hinv.lines
  have hvalues := hinv.values
  cases hturn with
  | outside => exact h
  | wrote caller file taken hmain hburst hprinted =>
    refine ⟨h.enqueued, h.deltas, fun hno => absurd hmain (hno caller),
      fun hno => absurd hmain (hno caller), fun f hf => ?_⟩
    obtain ⟨blocks, before, hfile, hold, hbefore, hblocks⟩ := h.file f hf
    obtain ⟨hwritten, -⟩ := hprinted.file _ hfile
    refine ⟨blocks ++ (s.pool.draining.map fun b => record (s.content b)).map .line,
      before ++ taken, ?_, hold, ?_, ?_⟩
    · exact hwritten.trans (congrArg some (List.append_assoc ..))
    · exact (congrArg (· ++ taken) hbefore).trans (List.append_assoc ..)
    · rw [List.flatMap_append, lines_map_line, List.map_append, hblocks, hprinted.texts]
  | empty caller hmain hdrained hring =>
    have hall : s₀.enqueued.map Call.line <+: s.taken.map Prod.fst := by
      rw [LogInfo.waiting, LogInfo.pending, hdrained, hring, List.append_nil, List.map_nil,
        List.append_nil] at hlines
      rw [hlines]
      exact h.enqueued.map Call.line
    refine ⟨h.enqueued, h.deltas, fun _ => hall, fun hlogs hdeltas => ?_, h.file⟩
    have hon : s.logEnabled = true := hinv.phase.enabled.mpr (by
      rw [hmain]
      exact ⟨Main.noConfusion, Main.noConfusion⟩)
    have hoff : tool.deltasEnabled = false := by
      by_contra hdelta
      refine hdeltas caller ?_
      simp only [enterDeltas, hon, Bool.not_eq_false _ ▸ hdelta, Bool.and_self, if_true]
    have hnone := h.deltas
    rw [hinv.off hoff, List.prefix_nil] at hnone
    rw [hnone]
    exact List.nil_prefix
  | burst caller hmain =>
    exact ⟨h.enqueued, h.deltas, h.lines, h.values, h.file⟩
  | done caller hmain hring =>
    have hlogs : ∀ caller, s.main ≠ .logs caller := fun _ => by
      rw [hmain]
      exact Main.noConfusion
    refine ⟨h.enqueued, h.deltas, fun _ => h.lines hlogs, fun _ _ => ?_, h.file⟩
    rw [hring, List.append_nil] at hvalues
    show s₀.deltas <+: s.values
    rw [hvalues]
    exact h.deltas
  | wroteDeltas caller file hmain hring hfile =>
    refine ⟨h.enqueued, h.deltas, h.lines, fun _ hno => absurd hmain (hno caller), fun f hf => ?_⟩
    obtain ⟨blocks, taken, hopen, hold, htaken, hblocks⟩ := h.file f hf
    obtain rfl : file = f ++ blocks := Option.some.inj (hfile.symm.trans hopen)
    refine ⟨blocks ++ [.deltas _], taken, congrArg some (List.append_assoc ..), hold, htaken, ?_⟩
    rw [List.flatMap_append, hblocks]
    exact List.append_nil _

theorem Flushing.step {s₀ s s' : LogInfo T} (h : Flushing s₀ s) (hinv : Inv tool s)
    {e : LogEvent T} (he : e.isMain = e.isTurn) (hstep : step tool s e = .ok s') :
    Flushing s₀ s' := by
  cases hkind : e.isMain with
  | false =>
    obtain ⟨t, hbeside⟩ := beside hkind hstep
    have ha := hbeside.aside
    refine ⟨h.enqueued.trans ha.enqueued, h.deltas.trans ha.deltas, fun hlogs => ?_,
      fun hlogs hdeltas => ?_, ?_⟩
    · rw [ha.taken]
      exact h.lines fun caller => ha.main ▸ hlogs caller
    · rw [LogInfo.values, LogInfo.written, ha.file, ha.old]
      exact h.values (fun caller => ha.main ▸ hlogs caller) fun caller => ha.main ▸ hdeltas caller
    · rw [ha.file, ha.old, ha.taken]
      exact h.file
  | true =>
    have heq : e = .turn := by
      rw [hkind] at he
      cases e <;> first | rfl | cases he
    subst heq
    exact h.turned hinv (ToolLog.turned hstep)

/-! ### Its end -/

/-- The turns `log_flush` takes at most if nobody logs. -/
def LogInfo.left (s : LogInfo T) : Nat :=
  match s.main with
  | .logs _ => 2 * s.pool.ring.length + min 1 s.pool.draining.length + s.deltaRing.length + 2
  | .deltas _ => s.deltaRing.length + 1
  | .polling | .freeing | .closed => 0

omit [DecidableEq T] [Fintype T] in
theorem left_turn {s s' : LogInfo T} (hstep : turn tool s = .ok s') :
    s.left = 0 ∧ s'.left = 0 ∨ s'.left < s.left := by
  cases turned hstep with
  | outside h =>
    have hzero : s.left = 0 := by
      unfold LogInfo.left
      split
      · exact absurd ‹_› (h.1 _)
      · exact absurd ‹_› (h.2 _)
      all_goals rfl
    exact .inl ⟨hzero, hzero⟩
  | wrote caller file taken hmain hburst hprinted =>
    right
    have hpos := List.length_pos_of_ne_nil hburst
    simp only [LogInfo.left, hmain, Pool.putBulk, List.length_nil]
    omega
  | empty caller hmain hdrained hring =>
    right
    have hleft : (enterDeltas tool s caller).left ≤ s.deltaRing.length + 1 := by
      unfold enterDeltas
      split
      · exact Nat.le_refl _
      · cases caller <;> exact Nat.zero_le _
    refine Nat.lt_of_le_of_lt hleft ?_
    simp only [LogInfo.left, hmain]
    omega
  | burst caller hmain hdrained hring hpool =>
    right
    simp only [Pool.dequeueBurst, if_pos hdrained, Option.some.injEq] at hpool
    subst hpool
    have hpos := List.length_pos_of_ne_nil hring
    simp only [LogInfo.left, hmain, hdrained, List.length_take, List.length_drop,
      LOG_BURST_COUNT, List.length_nil]
    omega
  | done caller hmain hring =>
    right
    have hzero : ({ s with main := caller.back } : LogInfo T).left = 0 := by cases caller <;> rfl
    rw [hzero]
    simp only [LogInfo.left, hmain]
    omega
  | wroteDeltas caller file hmain hring hfile =>
    right
    have hpos := List.length_pos_of_ne_nil hring
    simp only [LogInfo.left, hmain, List.length_drop, LOG_BURST_COUNT]
    omega

omit [DecidableEq T] [Fintype T] in
theorem left_aside {s s' : LogInfo T} (h : Aside s s') :
    s.left = 0 ∧ s'.left = 0 ∨ 0 < s.left ∧ s'.left ≤ s.left + 2 := by
  have hrings := h.rings
  have hdeltas := h.deltaRing
  simp only [LogInfo.left, h.main, h.draining]
  cases s.main with
  | polling => exact .inl ⟨rfl, rfl⟩
  | freeing => exact .inl ⟨rfl, rfl⟩
  | closed => exact .inl ⟨rfl, rfl⟩
  | logs caller =>
    refine .inr ⟨Nat.succ_pos _, ?_⟩
    show 2 * s'.pool.ring.length + min 1 s.pool.draining.length + s'.deltaRing.length + 2 ≤
      2 * s.pool.ring.length + min 1 s.pool.draining.length + s.deltaRing.length + 2 + 2
    omega
  | deltas caller =>
    refine .inr ⟨Nat.succ_pos _, ?_⟩
    show s'.deltaRing.length + 1 ≤ s.deltaRing.length + 1 + 2
    omega

omit [Fintype T] in
/-- Turns bring the end nearer, and a step of another thread puts it off by two turns at
most. -/
theorem left_run {s s' : LogInfo T} {es : List (LogEvent T)} (hrun : run tool s es = .ok s')
    (hes : ∀ e ∈ es, e.isMain = e.isTurn) :
    (s.left = 0 → s'.left = 0) ∧ (s'.left = 0 ∨
      s'.left + es.countP LogEvent.isTurn ≤ s.left + 2 * es.countP fun e => !e.isTurn) := by
  induction es generalizing s with
  | nil =>
    cases hrun
    exact ⟨id, .inr (Nat.le_refl _)⟩
  | cons e es ih =>
    obtain ⟨u, hone, hrest⟩ := foldlM_cons_ok.mp hrun
    obtain ⟨hzero, hless⟩ := ih hrest fun e' he' => hes e' (List.mem_cons_of_mem e he')
    have hkind := hes e List.mem_cons_self
    rw [List.countP_cons, List.countP_cons]
    cases hturn : e.isTurn with
    | true =>
      have heq : e = .turn := by cases e <;> first | rfl | cases hturn
      subst heq
      rcases left_turn hone with ⟨-, hu⟩ | hu
      · exact ⟨fun _ => hzero hu, .inl (hzero hu)⟩
      · refine ⟨fun hs => absurd hu (by omega), hless.imp_right fun hle => ?_⟩
        simp only [Bool.not_true, if_true, Bool.false_eq_true, if_false]
        omega
    | false =>
      obtain ⟨t, hbeside⟩ := beside (hkind.trans hturn) hone
      rcases left_aside hbeside.aside with ⟨-, hu⟩ | ⟨hpos, hu⟩
      · exact ⟨fun _ => hzero hu, .inl (hzero hu)⟩
      · refine ⟨fun hs => absurd hs (Nat.ne_of_gt hpos), hless.imp_right fun hle => ?_⟩
        simp only [Bool.not_false, if_true, Bool.false_eq_true, if_false]
        omega

omit [Fintype T] in
/-- Logging stays on, as long as `log_close` is not called. -/
theorem logEnabled_step {s s' : LogInfo T} {e : LogEvent T} (he : e.isMain = e.isTurn)
    (hstep : step tool s e = .ok s') : s'.logEnabled = s.logEnabled := by
  cases hkind : e.isMain with
  | false =>
    obtain ⟨t, hbeside⟩ := beside hkind hstep
    exact hbeside.aside.logEnabled
  | true =>
    have heq : e = .turn := by
      rw [hkind] at he
      cases e <;> first | rfl | cases he
    subst heq
    cases turned hstep <;> rfl

/-- **`log_flush`.** With any threads logging beside it, it ends when it has had turns enough,
and then all that had gone into the rings before is taken from them; an open file gets it. -/
theorem log_flush_writes (tool : Tool) (content : Buffer → Mem UInt8) (pre mid : List (LogEvent T))
    (s₀ s : LogInfo T) (hpre : run tool (start content) pre = .ok s₀) (hmain : s₀.main = .polling)
    (hrun : run tool s₀ (.flush :: mid) = .ok s) (hmid : ∀ e ∈ mid, e.isMain = e.isTurn) :
    (2 * s₀.pool.ring.length + s₀.deltaRing.length + 2 + 2 * mid.countP (fun e => !e.isTurn) <
        mid.countP LogEvent.isTurn → s.main = .polling) ∧
      (s.main = .polling →
        s₀.enqueued.map Call.line <+: s.taken.map Prod.fst ∧ s₀.deltas <+: s.values ∧
          ∀ f, s₀.file = some f → ∃ blocks, s.file = some (f ++ blocks) ∧ s.old = s₀.old ∧
            s₀.waiting <+: blocks.flatMap Block.lines ∧
            s₀.deltaRing <+: blocks.flatMap Block.values) := by
  have hinv := (inv_start tool content).run hpre
  have hon : s₀.logEnabled = true := hinv.phase.enabled.mpr (by
    rw [hmain]
    exact ⟨Main.noConfusion, Main.noConfusion⟩)
  have hdrained : s₀.pool.draining = [] := hinv.phase.burst fun _ => by
    rw [hmain]
    exact Main.noConfusion
  obtain ⟨s₁, hflush, hturns⟩ := foldlM_cons_ok.mp hrun
  have hinv₁ : Inv tool s₁ := hinv.step hflush
  simp only [step, if_pos hmain, logFlush, if_pos hon, Except.ok.injEq] at hflush
  have hkept := foldlM_keeps_mem (P := fun u => Inv tool u ∧ u.logEnabled = true ∧ Flushing s₀ u)
    (fun e he u v hu hstep => ⟨hu.1.step hstep, (logEnabled_step (hmid e he) hstep).trans hu.2.1,
      hu.2.2.step hu.1 (hmid e he) hstep⟩) hturns ⟨hinv₁, by
    subst hflush
    refine ⟨hon, List.prefix_refl _, List.prefix_refl _, fun hno => absurd rfl (hno _),
      fun hno => absurd rfl (hno _), fun f hf => ⟨[], [], ?_, rfl, ?_, rfl⟩⟩
    · rw [List.append_nil]
      exact hf
    · rw [List.append_nil]⟩
  obtain ⟨hinvs, hons, hflushed⟩ := hkept
  constructor
  · intro henough
    have hleft : s₁.left = 2 * s₀.pool.ring.length + s₀.deltaRing.length + 2 := by
      subst hflush
      simp only [LogInfo.left, hdrained, List.length_nil]
      omega
    have hzero : s.left = 0 := ((left_run hturns hmid).2).resolve_right fun hle => by omega
    have hopen := hinvs.phase.enabled.mp hons
    unfold LogInfo.left at hzero
    split at hzero
    · cases hzero
    · cases hzero
    · assumption
    · exact absurd ‹_› hopen.1
    · exact absurd ‹_› hopen.2
  · intro hback
    have hlogs : ∀ caller, s.main ≠ .logs caller := fun _ => by
      rw [hback]
      exact Main.noConfusion
    have hdeltas : ∀ caller, s.main ≠ .deltas caller := fun _ => by
      rw [hback]
      exact Main.noConfusion
    have hlines := hflushed.lines hlogs
    have hvalues := hflushed.values hlogs hdeltas
    refine ⟨hlines, hvalues, fun f hf => ?_⟩
    obtain ⟨blocks, taken, hfile, hold, htaken, hblocks⟩ := hflushed.file f hf
    refine ⟨blocks, hfile, hold, ?_, ?_⟩
    · rw [← hinv.lines, htaken, List.map_append, List.prefix_append_right_inj] at hlines
      rwa [hblocks]
    · have hwritten : s.values = s₀.values ++ blocks.flatMap Block.values := by
        simp only [LogInfo.values, LogInfo.written, hfile, hold, hf, Option.getD_some,
          List.flatMap_append, List.append_assoc]
      rw [← hinv.values, hwritten, List.prefix_append_right_inj] at hvalues
      exact hvalues

/-- The turns of `log_flush`, with a thread that logs another delta meanwhile. -/
def besideTurns : List (LogEvent Unit) :=
  [.turn, .delta () 7, .turn, .enqueueDelta ()] ++ List.replicate 8 .turn

def helloBeside : LogInfo Unit :=
  { helloFlushed with file := some [.line helloText, .deltas [5, 7]], deltas := [5, 7] }

theorem hello_beside : run ratt helloEnqueued (.flush :: besideTurns) = .ok helloBeside := rfl

theorem log_flush_writes_hello : helloEnqueued.waiting <+: [helloText] ∧
    helloEnqueued.deltaRing <+: [5, 7] := by
  have h := log_flush_writes ratt blank helloEvents besideTurns helloEnqueued helloBeside
    hello_enqueued rfl hello_beside (by simp [besideTurns, LogEvent.isMain, LogEvent.isTurn])
  obtain ⟨blocks, hfile, -, hlines, hdeltas⟩ := (h.2 (h.1 (by decide))).2.2 [] rfl
  obtain rfl : [.line helloText, .deltas [5, 7]] = blocks := Option.some.inj hfile
  exact ⟨hlines, hdeltas⟩

/-! ## The file at the end -/

/-- From the call of `log_close` on nothing is taken or written any more. -/
structure Closed (s₀ s : LogInfo T) : Prop where
  main : s.main = .freeing ∨ s.main = .closed
  written : s.written = s₀.written
  taken : s.taken = s₀.taken
  enqueued : s₀.enqueued <+: s.enqueued
  deltas : s₀.deltas <+: s.deltas

omit [Fintype T] in
theorem Closed.step {s₀ s s' : LogInfo T} (h : Closed s₀ s) {e : LogEvent T}
    (hstep : step tool s e = .ok s') : Closed s₀ s' := by
  have hpolling : s.main ≠ .polling := by
    rcases h.main with hmain | hmain <;> rw [hmain] <;> exact Main.noConfusion
  cases stepped hstep with
  | same => exact h
  | beside t hbeside =>
    have ha := hbeside.aside
    refine ⟨ha.main ▸ h.main, ?_, ha.taken.trans h.taken, h.enqueued.trans ha.enqueued,
      h.deltas.trans ha.deltas⟩
    rw [← h.written, LogInfo.written, LogInfo.written, ha.file, ha.old]
  | turned hturned =>
    have hlogs {caller : Caller} : s.main ≠ .logs caller ∧ s.main ≠ .deltas caller := by
      rcases h.main with hmain | hmain <;> rw [hmain] <;>
        exact ⟨Main.noConfusion, Main.noConfusion⟩
    cases hturned with
    | outside => exact h
    | wrote caller file taken hmain => exact absurd hmain hlogs.1
    | empty caller hmain => exact absurd hmain hlogs.1
    | burst caller hmain => exact absurd hmain hlogs.1
    | done caller hmain => exact absurd hmain hlogs.2
    | wroteDeltas caller file hmain => exact absurd hmain hlogs.2
  | flushed hmain => exact absurd hmain hpolling
  | opened opened he hmain => exact absurd hmain hpolling
  | closed hmain => exact absurd hmain hpolling
  | freed =>
    exact ⟨.inr rfl, (List.append_nil _).trans h.written, h.taken, h.enqueued, h.deltas⟩

/-- What the files lack in the end, if `log_close` was called in `s₀`. -/
structure Lost (s₀ s : LogInfo T) : Prop where
  written : s.written = s₀.written
  lines : ∃ late, s.enqueued = s₀.enqueued ++ late ∧
    s.taken.map Prod.fst ++ s₀.waiting ++ late.map Call.line = s.enqueued.map Call.line ∧
    (s.lines = s.enqueued.map Call.line ↔
      s₀.pool.ring = [] ∧ late = [] ∧ ∀ x ∈ s.taken, x.2 = true)
  values : ∃ late, s.deltas = s₀.deltas ++ late ∧ s.values ++ s₀.deltaRing ++ late = s.deltas ∧
    (s.values = s.deltas ↔ s₀.deltaRing = [] ∧ late = [])

theorem filter_eq_append_iff {α : Type} (xs : List (α × Bool)) (ys : List α) :
    (xs.filter Prod.snd).map Prod.fst = xs.map Prod.fst ++ ys ↔ ys = [] ∧ ∀ x ∈ xs, x.2 = true := by
  constructor
  · intro h
    have hlength := congrArg List.length h
    have hle := List.length_filter_le Prod.snd xs
    simp only [List.length_map, List.length_append] at hlength
    exact ⟨List.eq_nil_of_length_eq_zero (by omega),
      List.length_filter_eq_length_iff.mp (by omega)⟩
  · rintro ⟨rfl, hall⟩
    rw [List.filter_eq_self.mpr hall, List.append_nil]

/-- **`log_close`.** It writes nothing: what is in the rings when it is called, and what goes
in afterwards, is what the files lack in the end, besides lines LTTT could not write before.
They are complete just if there is nothing of that. -/
theorem log_close_loses (tool : Tool) (content : Buffer → Mem UInt8) (pre post : List (LogEvent T))
    (s₀ s : LogInfo T) (hpre : run tool (start content) pre = .ok s₀) (hmain : s₀.main = .polling)
    (hrun : run tool s₀ (.close :: post) = .ok s) : Lost s₀ s := by
  have hinv := (inv_start tool content).run hpre
  have hdrained : s₀.pool.draining = [] := hinv.phase.burst fun _ => by
    rw [hmain]
    exact Main.noConfusion
  obtain ⟨s₁, hclose, hpost⟩ := foldlM_cons_ok.mp hrun
  simp only [step, if_pos hmain, logClose_eq hinv.phase hmain, Except.ok.injEq] at hclose
  have hs₁ : Closed s₀ s₁ := by
    subst hclose
    exact ⟨.inl rfl, rfl, rfl, List.prefix_refl _, List.prefix_refl _⟩
  have hinvs := hinv.run hrun
  have hclosed := foldlM_keeps (fun _ _ _ hs hstep => hs.step hstep) hpost hs₁
  obtain ⟨late, henqueued⟩ := hclosed.enqueued
  obtain ⟨lateDeltas, hdeltas⟩ := hclosed.deltas
  have hlines : s.taken.map Prod.fst ++ s₀.waiting ++ late.map Call.line =
      s.enqueued.map Call.line := by
    rw [hclosed.taken, hinv.lines, ← henqueued, List.map_append]
  have hvalues : s.values ++ s₀.deltaRing ++ lateDeltas = s.deltas := by
    rw [LogInfo.values, hclosed.written, ← hdeltas]
    exact congrArg (· ++ lateDeltas) hinv.values
  refine ⟨hclosed.written, ⟨late, henqueued.symm, hlines, ?_⟩, lateDeltas, hdeltas.symm, hvalues, ?_⟩
  · have hring : s₀.waiting = s₀.pool.ring.map fun b => record (s₀.content b) := by
      rw [LogInfo.waiting, LogInfo.pending, hdrained, List.nil_append]
    rw [← hlines, hinvs.written, List.append_assoc, filter_eq_append_iff, List.append_eq_nil_iff,
      List.map_eq_nil_iff, hring, List.map_eq_nil_iff, and_assoc]
  · rw [← hvalues, List.append_assoc, List.self_eq_append_right, List.append_eq_nil_iff]

/-- `log_close` with the line and the delta in the rings. -/
def helloClosed : LogInfo Unit :=
  { helloEnqueued with logEnabled := false, main := .closed, file := none }

theorem log_close_loses_hello :
    helloClosed.lines ≠ [hello.line] ∧ helloClosed.values ≠ [5] := by
  have h := log_close_loses ratt blank helloEvents [.free] helloEnqueued helloClosed hello_enqueued
    rfl rfl
  obtain ⟨late, -, -, hlines⟩ := h.lines
  obtain ⟨lateDeltas, -, -, hvalues⟩ := h.values
  exact ⟨fun heq => List.cons_ne_nil _ _ (hlines.mp heq).1,
    fun heq => List.cons_ne_nil _ _ (hvalues.mp heq).1⟩

/-! ## Faults -/

/-- The tool writes with an open file only, as LTTT, which logs no deltas, does. -/
def Tool.Careful (tool : Tool) : Prop := tool.checksFd = true ∧ tool.deltasEnabled = false

structure Safe (tool : Tool) (s : LogInfo T) : Prop where
  inv : Inv tool s
  file : tool.Careful ∨ Opened s
  idle : s.main = .closed → ∀ t, s.calling t = .idle

theorem Safe.turn {s : LogInfo T} (h : Safe tool s) : ∃ s', turn tool s = .ok s' := by
  have hfile (hopen : s.main ≠ .closed) : tool.Careful ∨ ∃ f, s.file = some f :=
    h.file.imp_right fun hopened => hopened hopen
  unfold ToolLog.turn
  split
  · rename_i caller hmain
    unfold flushLogs
    split
    · generalize s.pool.draining.map (fun b => record (s.content b)) = texts
      unfold printLines
      split
      · exact ⟨_, rfl⟩
      · rename_i hno
        rcases hfile (by rw [hmain]; exact Main.noConfusion) with hcareful | ⟨f, hf⟩
        · rw [hcareful.1, Bool.true_and, Bool.not_eq_true, Option.isNone_eq_false_iff] at hno
          obtain ⟨f, hf⟩ := Option.isSome_iff_exists.mp hno
          rw [fprintf, hf]
          exact ⟨_, rfl⟩
        · rw [fprintf, hf]
          exact ⟨_, rfl⟩
    · split <;> exact ⟨_, rfl⟩
  · rename_i caller hmain
    unfold flushDeltas
    split
    · exact ⟨_, rfl⟩
    · rename_i hring
      rcases hfile (by rw [hmain]; exact Main.noConfusion) with hcareful | ⟨f, hf⟩
      · have hvalues := h.inv.values
        rw [h.inv.off hcareful.2, List.append_eq_nil_iff] at hvalues
        exact absurd hvalues.2 hring
      · rw [fprintf, hf]
        exact ⟨_, rfl⟩
  all_goals exact ⟨s, rfl⟩

omit [Fintype T] in
/-- A thread that logs has nothing to fear before `log_close` is through. -/
theorem beside_ok {s : LogInfo T} {e : LogEvent T} (he : e.isMain = false)
    (hopen : s.main ≠ .closed) : ∃ s', step tool s e = .ok s' := by
  cases e with
  | message t c => exact ⟨_, rfl⟩
  | get t b =>
    simp only [step, get, if_neg hopen]
    split
    · split
      · exact ⟨_, rfl⟩
      · split <;> exact ⟨_, rfl⟩
    · exact ⟨_, rfl⟩
  | enqueue t =>
    simp only [step, enqueue, if_neg hopen]
    split
    · exact ⟨_, rfl⟩
    · split <;> exact ⟨_, rfl⟩
  | put t =>
    simp only [step, put, if_neg hopen]
    split <;> exact ⟨_, rfl⟩
  | delta t d => exact ⟨_, rfl⟩
  | enqueueDelta t =>
    simp only [step, enqueueDelta, if_neg hopen]
    split
    · split <;> exact ⟨_, rfl⟩
    · exact ⟨_, rfl⟩
    · exact ⟨_, rfl⟩
  | flush => cases he
  | turn => cases he
  | reopen opened => cases he
  | close => cases he
  | free => cases he

/-- Behind `log_close` with no thread in a call, nothing happens any more. -/
theorem Safe.closed {s : LogInfo T} (h : Safe tool s) (hclosed : s.main = .closed)
    (e : LogEvent T) : step tool s e = .ok s := by
  have hidle := h.idle hclosed
  have hrest (t : T) : s.pool.producer t = .idle := h.inv.threads.resting t fun c hc => by
    rw [hidle t] at hc
    cases hc
  have hoff : s.logEnabled = false := by
    cases hlog : s.logEnabled with
    | false => rfl
    | true => exact absurd hclosed (h.inv.phase.enabled.mp hlog).2
  cases e with
  | message t c => simp only [step, message, hidle t, hoff, Bool.false_eq_true, if_false]
  | get t b => simp only [step, get, hidle t]
  | enqueue t => simp only [step, enqueue, Pool.enqueue, hrest t]
  | put t => simp only [step, put, Pool.put, hrest t]
  | delta t d =>
    simp only [step, delta, hidle t, hoff, Bool.false_and, Bool.false_eq_true, if_false]
  | enqueueDelta t => simp only [step, enqueueDelta, hidle t]
  | turn => simp only [step, ToolLog.turn, hclosed]
  | flush => simp only [step, hclosed, reduceCtorEq, if_false]
  | reopen opened => simp only [step, hclosed, reduceCtorEq, if_false]
  | close => simp only [step, hclosed, reduceCtorEq, if_false]
  | free => simp only [step, hclosed, reduceCtorEq, if_false]

/-- Only the end of `log_close` frees the rings and the pool. -/
theorem closed_step {s s' : LogInfo T} (h : Inv tool s) {e : LogEvent T}
    (hstep : step tool s e = .ok s') (hclosed : s.main ≠ .closed) (hs' : s'.main = .closed) :
    e = .free ∧ s.main = .freeing ∧ s'.calling = s.calling := by
  have hback (caller : Caller) : caller.back ≠ .closed := by
    cases caller <;> exact Main.noConfusion
  have hentered (u : LogInfo T) (caller : Caller) : (enterDeltas tool u caller).main ≠ .closed := by
    unfold enterDeltas
    dsimp only
    split
    · exact Main.noConfusion
    · exact hback caller
  have hflushed (u : LogInfo T) (caller : Caller) : (logFlush tool u caller).main ≠ .closed := by
    unfold logFlush
    split
    · exact Main.noConfusion
    · exact hentered u caller
  cases stepped hstep with
  | same => exact absurd hs' hclosed
  | beside t hbeside => exact absurd (hbeside.aside.main ▸ hs') hclosed
  | turned hturned =>
    cases hturned with
    | empty => exact absurd hs' (hentered s _)
    | done caller => exact absurd hs' (hback caller)
    | _ => exact absurd hs' hclosed
  | flushed => exact absurd hs' (hflushed s _)
  | opened => exact absurd hs' hclosed
  | closed hmain =>
    rw [logClose_eq h.phase hmain] at hs'
    cases hs'
  | freed he hmain => exact ⟨he, hmain, rfl⟩

theorem Safe.step {s : LogInfo T} (h : Safe tool s) {e : LogEvent T}
    (hreopen : tool.Careful ∨ e ≠ .reopen false)
    (hfree : e = .free → s.main = .freeing → ∀ t, s.calling t = .idle) :
    ∃ s', step tool s e = .ok s' ∧ Safe tool s' := by
  by_cases hclosed : s.main = .closed
  · exact ⟨s, h.closed hclosed e, h⟩
  obtain ⟨s', hstep⟩ : ∃ s', ToolLog.step tool s e = .ok s' := by
    cases hkind : e.isMain with
    | false => exact beside_ok hkind hclosed
    | true =>
      cases e with
      | turn => exact h.turn
      | flush => exact ⟨_, rfl⟩
      | reopen opened => exact ⟨_, rfl⟩
      | close => exact ⟨_, rfl⟩
      | free => exact ⟨_, rfl⟩
      | message t c => cases hkind
      | get t b => cases hkind
      | enqueue t => cases hkind
      | put t => cases hkind
      | delta t d => cases hkind
      | enqueueDelta t => cases hkind
  refine ⟨s', hstep, h.inv.step hstep, ?_, fun hs' => ?_⟩
  · rcases hreopen with hcareful | he
    · exact .inl hcareful
    · exact h.file.imp_right fun hopened => hopened.step he hstep
  · obtain ⟨he, hmain, hcalling⟩ := closed_step h.inv hstep hclosed hs'
    rw [hcalling]
    exact hfree he hmain

/-- **Runs without a fault.** Nothing is used behind its end, provided that no thread is in
`log_message` or `log_delta` when `log_close` frees the rings and the pool, and that RATT
could open its file each time. -/
theorem log_run_ok (tool : Tool) (content : Buffer → Mem UInt8) (es : List (LogEvent T))
    (hreopen : tool.Careful ∨ .reopen false ∉ es)
    (hfree : ∀ pre post s, es = pre ++ .free :: post → run tool (start content) pre = .ok s →
      s.main = .freeing → ∀ t, s.calling t = .idle) :
    ∃ s, run tool (start content) es = .ok s := by
  suffices hsafe : ∃ s, run tool (start content) es = .ok s ∧ Safe tool s from
    ⟨hsafe.choose, hsafe.choose_spec.1⟩
  induction es using List.reverseRecOn with
  | nil => exact ⟨_, rfl, inv_start tool content, .inr fun _ => ⟨[], rfl⟩, Main.noConfusion⟩
  | append_singleton es e ih =>
    obtain ⟨s, hrun, hs⟩ := ih (hreopen.imp_right fun hno hmem => hno (List.mem_append_left _ hmem))
      fun pre post s hes => hfree pre (post ++ [e]) s (by rw [hes]; simp)
    obtain ⟨s', hstep, hs'⟩ := hs.step
      (hreopen.imp_right fun hno he => hno (he ▸ List.mem_append_right _ List.mem_cons_self))
      (fun he => hfree es [] s (by rw [he]) hrun)
    exact ⟨s', foldlM_snoc_ok.mpr ⟨s, hrun, hstep⟩, hs'⟩

def closeEvents : List (LogEvent Unit) := helloEvents ++ .flush :: flushTurns ++ [.close]

/-- `log_close` before it frees the rings. -/
def helloFreeing : LogInfo Unit := { helloFlushed with logEnabled := false, main := .freeing }

theorem hello_freeing : run ratt (start blank) closeEvents = .ok helloFreeing :=
  foldlM_append_ok.mpr ⟨_, foldlM_append_ok.mpr ⟨_, hello_enqueued, hello_flushed⟩, rfl⟩

theorem free_not_mem : LogEvent.free ∉ closeEvents := by
  simp [closeEvents, helloEvents, flushTurns]

/-- The log is closed at the end of these events only. -/
theorem free_last {pre post : List (LogEvent Unit)}
    (h : closeEvents ++ [.free] = pre ++ .free :: post) : pre = closeEvents := by
  obtain ⟨more, rfl, hmore⟩ | ⟨more, hclose, hmore⟩ := List.append_eq_append_iff.mp h
  · cases more with
    | nil => exact List.append_nil _
    | cons e more =>
      have hlength := congrArg List.length hmore
      simp only [List.length_append, List.length_cons, List.length_nil] at hlength
      omega
  · cases more with
    | nil => exact (hclose.trans (List.append_nil _)).symm
    | cons e more =>
      obtain rfl : .free = e := (List.cons.inj hmore).1
      have hmem : LogEvent.free ∈ closeEvents := by
        rw [hclose]
        exact List.mem_append_right pre List.mem_cons_self
      exact absurd hmem free_not_mem

theorem log_run_ok_hello : ∃ s, run ratt (start blank) (closeEvents ++ [.free]) = .ok s := by
  have hreopen : LogEvent.reopen false ∉ closeEvents ++ [.free] := by
    simp [closeEvents, helloEvents, flushTurns]
  have hidle : ∀ pre post s, closeEvents ++ [.free] = pre ++ .free :: post →
      run ratt (start blank) pre = .ok s → s.main = .freeing → ∀ t, s.calling t = .idle := by
    intro pre post s hes hrun _ t
    rw [free_last hes, hello_freeing] at hrun
    cases hrun
    rfl
  have h := @log_run_ok Unit _ _ ratt blank (closeEvents ++ [.free]) (.inr hreopen)
  exact h hidle

end log

end Rtdk.ToolLog
