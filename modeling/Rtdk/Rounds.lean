import Rtdk.Cascade

/-! Rounds of the transmit chain.

A round starts when the first class transmits; then the loop of each later class
makes a pass, in the order of the chain. `Exact` follows the one signal
through the chain: it is never lost if the class that takes it has its timer
set up. -/

namespace Rtdk.Rounds
open Rtdk.NetDef Rtdk.Config Rtdk.Timer Rtdk.Cascade

variable {cfg : TimerConfig} {links : Links} {first : FrameType}

/-- The loops of the listed classes make a pass, one after the other, with any
steps of all loops before, between and after. -/
inductive InOrder (cfg : TimerConfig) (links : Links) : List FrameType → TxState → TxState → Prop
  | done {s s' : TxState} (es : List TxEvent) :
    run cfg links s es = some s' → InOrder cfg links [] s s'
  | pass {s s₁ s₂ s₃ s' : TxState} (b : FrameType) (bs : List FrameType) (before during : List TxEvent) :
    run cfg links s before = some s₁ → step cfg links s₁ (.check b) = some s₂ →
    run cfg links s₂ during = some s₃ → (s₃.thread b).pc = .ready →
    InOrder cfg links bs s₃ s' → InOrder cfg links (b :: bs) s s'

/-- The active classes after the first one, in the order of the chain. -/
def followers (cfg : TimerConfig) (first : FrameType) : List FrameType :=
  (laterPn first).filter cfg.app.isActive

/-- The first class transmits, ends its pass, and does not transmit again before
the others have made theirs. -/
def Round (cfg : TimerConfig) (links : Links) (first : FrameType) (s s' : TxState) : Prop :=
  ∃ now s₁ own s₂, step cfg links s (.act first now) = some s₁ ∧
    (s₁.thread first).runs = (s.thread first).runs + 1 ∧
    run cfg links s₁ own = some s₂ ∧ (s₂.thread first).pc = .ready ∧
    InOrder cfg links (followers cfg first) s₂ s' ∧
    (s'.thread first).runs = (s₁.thread first).runs

/-- The states after `k` rounds that all start in a state with `P`. -/
inductive AfterRounds (cfg : TimerConfig) (links : Links) (first : FrameType)
    (startNs : FrameType → UInt64) (P : TxState → Prop) : Nat → TxState → Prop
  | start {s : TxState} (es : List TxEvent) :
    run cfg links (start cfg startNs) es = some s → (s.thread first).runs = 0 →
    AfterRounds cfg links first startNs P 0 s
  | round {k : Nat} {s s' : TxState} :
    AfterRounds cfg links first startNs P k s → P s → Round cfg links first s s' →
    AfterRounds cfg links first startNs P (k + 1) s'

/-- The later classes have set their timers up. -/
def SetUp (cfg : TimerConfig) (first : FrameType) (s : TxState) : Prop :=
  ∀ x ∈ followers cfg first, (s.thread x).info.doOnce = true

/-- No active PROFINET class comes before the first one. -/
def Leads (cfg : TimerConfig) (links : Links) (first : FrameType) : Prop :=
  links.isFirst first = true ∧
    ∀ x, x ≠ .l2 → cfg.app.isActive x = true → x = first ∨ x ∈ laterPn first

/-! ## The signal in the chain -/

/-- What `a` has passed on, `b` has done or is about to do. -/
def Exact (cfg : TimerConfig) (links : Links) (s : TxState) : Prop :=
  ∀ a b, cfg.app.isActive a = true → links.next a = some b →
    (s.thread b).runs + (s.flag b).toNat + (s.thread b).pc.taken + (s.thread a).pc.owes =
      (s.thread a).runs

/-- A state of a round in which each class has run `r` times or once more. -/
structure InRound (cfg : TimerConfig) (links : Links) (first : FrameType) (r : Nat) (s : TxState) :
    Prop where
  caused : Caused cfg.app links s
  exact : Exact cfg links s
  setUp : SetUp cfg first s
  lower : ∀ x, x ≠ .l2 → cfg.app.isActive x = true → r ≤ (s.thread x).runs
  bound : (s.thread first).runs ≤ r + 1

section links
variable {a b : FrameType} {bs : List FrameType}

theorem laterPn_cases (a : FrameType) : laterPn a = [] ∨ ∃ x, laterPn a = x :: laterPn x := by
  cases a <;> simp [laterPn]

/-- The followers of a class are the next class and its followers. -/
theorem followers_cons (h : followers cfg a = b :: bs) :
    findNextPnThread cfg.app a = some b ∧ bs = followers cfg b := by
  induction hlen : (laterPn a).length generalizing a with
  | zero =>
    rw [followers, List.length_eq_zero_iff.mp hlen] at h
    cases h
  | succ n ih =>
    obtain hnil | ⟨x, hx⟩ := laterPn_cases a
    · rw [hnil] at hlen
      cases hlen
    · rw [hx, List.length_cons, Nat.succ_inj] at hlen
      rw [followers, hx] at h
      rw [findNextPnThread, hx]
      cases hact : cfg.app.isActive x with
      | true =>
        rw [List.filter_cons_of_pos hact] at h
        obtain ⟨rfl, rfl⟩ := List.cons.inj h
        exact ⟨List.find?_cons_of_pos hact, rfl⟩
      | false =>
        have hnot : ¬cfg.app.isActive x = true := by simp [hact]
        rw [List.filter_cons_of_neg hnot] at h
        obtain ⟨hnext, hbs⟩ := ih h hlen
        exact ⟨(List.find?_cons_of_neg hnot).trans hnext, hbs⟩

theorem mem_followers : b ∈ followers cfg a ↔ b ∈ laterPn a ∧ cfg.app.isActive b = true := by
  rw [followers, List.mem_filter]

/-- What does not grow along the links does not grow along the chain. -/
theorem le_of_links (hlinks : Linked cfg.app links) {f : FrameType → Nat}
    (hle : ∀ a b, cfg.app.isActive a = true → links.next a = some b → f b ≤ f a)
    (ha : cfg.app.isActive a = true) : ∀ x ∈ followers cfg a, f x ≤ f a := by
  induction hf : followers cfg a generalizing a with
  | nil =>
    intro x hx
    exact absurd hx List.not_mem_nil
  | cons b bs ih =>
    obtain ⟨hnext, hbs⟩ := followers_cons hf
    have hb : cfg.app.isActive b = true := (findNextPnThread_spec hnext).2.1
    have hab := hle a b ha (by rw [hlinks.next_eq, hnext])
    intro x hx
    rcases List.mem_cons.mp hx with rfl | hx
    · exact hab
    · exact (ih hb hbs.symm x hx).trans hab

/-- Every follower is next to an active class. -/
theorem exists_previous (hlinks : Linked cfg.app links) (ha : cfg.app.isActive a = true) :
    ∀ x ∈ followers cfg a, ∃ y, cfg.app.isActive y = true ∧ links.next y = some x := by
  induction hf : followers cfg a generalizing a with
  | nil =>
    intro x hx
    exact absurd hx List.not_mem_nil
  | cons b bs ih =>
    obtain ⟨hnext, hbs⟩ := followers_cons hf
    intro x hx
    rcases List.mem_cons.mp hx with rfl | hx
    · exact ⟨a, ha, by rw [hlinks.next_eq, hnext]⟩
    · exact ih (findNextPnThread_spec hnext).2.1 hbs.symm x hx

/-- The class an active class is linked to follows the first one. -/
theorem Leads.next_mem (hleads : Leads cfg links first) (hlinks : Linked cfg.app links)
    (ha : cfg.app.isActive a = true) (hnext : links.next a = some b) :
    b ∈ followers cfg first ∧ b ≠ .l2 ∧ links.isFirst b = false := by
  obtain ⟨hmem, hact, -⟩ := hlinks.next_spec hnext
  have hpos := mem_laterPn.mp hmem
  have hl2 : a ≠ .l2 := by
    rintro rfl
    exact absurd hmem List.not_mem_nil
  have hlater : b ∈ laterPn first := by
    rcases hleads.2 a hl2 ha with rfl | hafter
    · exact hmem
    · have hpos' := mem_laterPn.mp hafter
      exact mem_laterPn.mpr ⟨hpos'.1.trans hpos.1, hpos.2⟩
  refine ⟨mem_followers.mpr ⟨hlater, hact⟩, hpos.2, ?_⟩
  cases hb : links.isFirst b with
  | false => rfl
  | true =>
    obtain rfl := hlinks.first_unique _ _ hb hleads.1
    exact absurd (mem_laterPn.mp hlater).1 (Nat.lt_irrefl _)

end links

/-! ## One step of a round -/

section step
variable {s s' : TxState} {r : Nat} {ty : FrameType}

/-- The runs of a class and the signals it has not yet acted on. -/
def told (s : TxState) (b : FrameType) : Nat :=
  (s.thread b).runs + (s.flag b).toNat + (s.thread b).pc.taken

theorem told_check (hpc : (s.thread ty).pc = .ready) (b : FrameType) (hl2 : b ≠ .l2) :
    told (s.check ty) b = told s b := by
  unfold told
  by_cases hb : b = ty
  · subst hb
    have hcond : hasCond b .tx = true := by simp [hasCond, hl2]
    rw [check_thread_self, check_flag, hpc, hcond]
    cases s.flag b <;> simp [Pc.taken]
  · rw [check_thread_other _ hb, check_flag, if_neg fun h => hb h.1]

theorem told_act {signaled : Bool} {now : UInt64} (hpc : (s.thread ty).pc = .checked signaled)
    (b : FrameType) (hl2 : b ≠ .l2) (hfirst : links.isFirst b = false)
    (hdo : (s.thread b).info.doOnce = true) :
    told (s.act cfg links ty signaled now) b = told s b := by
  unfold told
  rw [act_flag]
  by_cases hb : b = ty
  · subst hb
    obtain ⟨-, -, ⟨hpc', hruns, hbody⟩ | ⟨hpc', hruns, hno⟩⟩ :=
      act_thread_self cfg links s b signaled now
    · have hsig := bodyRuns_signaled hfirst hl2 hbody
      rw [hpc', hruns, hpc, hsig]
      simp only [Pc.taken]
      omega
    · cases signaled with
      | false =>
        rw [hpc', hruns, hpc]
        simp only [Pc.taken]
      | true =>
        have hbody := hno hdo rfl
        revert hbody
        cases b <;> simp [bodyRuns]
  · rw [act_thread_other hb]

theorem told_signal (hpc : (s.thread ty).pc = .signaling) (b : FrameType)
    (hflag : links.next ty = some b → s.flag b = false) :
    told (s.signal links ty) b = told s b + if links.next ty = some b then 1 else 0 := by
  have hthread : ((s.signal links ty).thread b).runs = (s.thread b).runs ∧
      ((s.signal links ty).thread b).pc.taken = (s.thread b).pc.taken := by
    by_cases hb : b = ty
    · subst hb
      rw [signal_thread_self, hpc]
      exact ⟨rfl, rfl⟩
    · rw [signal_thread_other hb]
      exact ⟨rfl, rfl⟩
  unfold told
  rw [hthread.1, hthread.2, signal_flag]
  split
  · rename_i hnext
    rw [hflag hnext]
    simp only [Bool.toNat_true, Bool.toNat_false]
    omega
  · rfl

theorem InRound.upper (h : InRound cfg links first r s) (hlinks : Linked cfg.app links)
    (hleads : Leads cfg links first) (x : FrameType) (hl2 : x ≠ .l2)
    (hact : cfg.app.isActive x = true) : (s.thread x).runs ≤ r + 1 := by
  rcases hleads.2 x hl2 hact with rfl | hafter
  · exact h.bound
  · refine (le_of_links (f := fun x => (s.thread x).runs) hlinks ?_
      (hlinks.first_active first hleads.1) x (mem_followers.mpr ⟨hafter, hact⟩)).trans h.bound
    intro a b ha hnext
    have hexact := h.exact a b ha hnext
    omega

theorem InRound.step {e : TxEvent} (h : InRound cfg links first r s) (hlinks : Linked cfg.app links)
    (hleads : Leads cfg links first) (hstep : step cfg links s e = some s')
    (hbound : (s'.thread first).runs ≤ r + 1) : InRound cfg links first r s' := by
  refine ⟨h.caused.step hlinks hstep, ?_, ?_, ?_, hbound⟩
  · intro a b ha hnext
    obtain ⟨hmem, hl2, hfirst⟩ := hleads.next_mem hlinks ha hnext
    have hexact : told s b + (s.thread a).pc.owes = (s.thread a).runs := h.exact a b ha hnext
    have hgoal : told s' b + (s'.thread a).pc.owes = (s'.thread a).runs := by
      obtain ⟨ty, -, -, hpc, rfl⟩ | ⟨ty, now, signaled, -, hpc, rfl⟩ | ⟨ty, -, hpc, rfl⟩ :=
        step_cases hstep
      · rw [told_check hpc b hl2]
        by_cases hx : a = ty
        · subst hx
          rw [check_thread_self]
          rw [hpc] at hexact
          exact hexact
        · rwa [check_thread_other _ hx]
      · rw [told_act hpc b hl2 hfirst (h.setUp b hmem)]
        have howes := (act_owes cfg links now hpc a).2
        omega
      · have hdown (hty : links.next ty = some b) : s.flag b = false ∧ ty = a := by
          have hactive : cfg.app.isActive ty = true := by
            apply h.caused.active_of_signaling hlinks _ hpc
            rintro rfl
            exact absurd (hlinks.next_spec hty).1 List.not_mem_nil
          obtain rfl := hlinks.unique ha hactive hnext hty
          refine ⟨?_, rfl⟩
          have ha2 : a ≠ .l2 := by
            rintro rfl
            exact absurd (hlinks.next_spec hnext).1 List.not_mem_nil
          have hupper := h.upper hlinks hleads a ha2 ha
          have hlower := h.lower b hl2 (mem_followers.mp hmem).2
          rw [hpc] at hexact
          unfold told at hexact
          simp only [Pc.owes] at hexact
          cases hf : s.flag b with
          | false => rfl
          | true =>
            rw [hf] at hexact
            simp only [Bool.toNat_true] at hexact
            omega
        rw [told_signal hpc b fun hty => (hdown hty).1]
        by_cases hty : links.next ty = some b
        · obtain rfl := (hdown hty).2
          rw [if_pos hty, signal_thread_self]
          rw [hpc] at hexact
          simp only [Pc.owes] at hexact ⊢
          omega
        · have hne : a ≠ ty := fun heq => hty (heq ▸ hnext)
          rw [if_neg hty, signal_thread_other hne]
          omega
    exact hgoal
  · intro x hx
    exact (step_mono hstep x).2 (h.setUp x hx)
  · intro x hl2 hact
    exact (h.lower x hl2 hact).trans (step_mono hstep x).1

theorem InRound.run {es : List TxEvent} (h : InRound cfg links first r s)
    (hlinks : Linked cfg.app links) (hleads : Leads cfg links first)
    (hrun : run cfg links s es = some s') (hbound : (s'.thread first).runs ≤ r + 1) :
    InRound cfg links first r s' := by
  induction es generalizing s with
  | nil =>
    cases hrun
    exact h
  | cons e es ih =>
    obtain ⟨q, hq, hrest⟩ := Option.bind_eq_some_iff.mp hrun
    exact ih (h.step hlinks hleads hq ((run_mono hrest first).1.trans hbound)) hrest

end step

/-! ## The passes of a round -/

section passes
variable {s s' : TxState} {r : Nat} {a b : FrameType}

theorem step_owes {e : TxEvent} (hstep : step cfg links s e = some s') (x : FrameType) :
    (s.thread x).runs + (s'.thread x).pc.owes ≤ (s'.thread x).runs + (s.thread x).pc.owes := by
  obtain ⟨ty, -, -, hpc, rfl⟩ | ⟨ty, now, signaled, -, hpc, rfl⟩ | ⟨ty, -, -, rfl⟩ :=
    step_cases hstep
  · by_cases hx : x = ty
    · subst hx
      rw [check_thread_self, hpc]
      exact le_rfl
    · rw [check_thread_other _ hx]
  · exact (act_owes cfg links now hpc x).2.le
  · by_cases hx : x = ty
    · subst hx
      rw [signal_thread_self]
      exact Nat.add_le_add_left (Nat.zero_le _) _
    · rw [signal_thread_other hx]

/-- Nobody raises the flag of a class when the class before it owes nothing. -/
theorem step_flag {e : TxEvent} (hcaused : Caused cfg.app links s) (hlinks : Linked cfg.app links)
    (ha : cfg.app.isActive a = true) (hnext : links.next a = some b)
    (howes : (s.thread a).pc.owes = 0) (hflag : s.flag b = false)
    (hstep : step cfg links s e = some s') : s'.flag b = false := by
  obtain ⟨ty, -, -, -, rfl⟩ | ⟨ty, now, signaled, -, -, rfl⟩ | ⟨ty, -, hpc, rfl⟩ := step_cases hstep
  · rw [check_flag]
    split
    · rfl
    · exact hflag
  · rw [act_flag]
    exact hflag
  · rw [signal_flag]
    split
    · rename_i hty
      have hactive : cfg.app.isActive ty = true := by
        apply hcaused.active_of_signaling hlinks _ hpc
        rintro rfl
        exact absurd (hlinks.next_spec hty).1 List.not_mem_nil
      obtain rfl := hlinks.unique ha hactive hnext hty
      rw [hpc] at howes
      cases howes
    · exact hflag

/-- A class that has run in this round and signaled stays so. -/
theorem InRound.run_done {es : List TxEvent} (h : InRound cfg links first r s)
    (hlinks : Linked cfg.app links) (hleads : Leads cfg links first) (hl2 : a ≠ .l2)
    (ha : cfg.app.isActive a = true) (hruns : (s.thread a).runs = r + 1)
    (howes : (s.thread a).pc.owes = 0) (hrun : Cascade.run cfg links s es = some s')
    (hbound : (s'.thread first).runs ≤ r + 1) :
    (s'.thread a).runs = r + 1 ∧ (s'.thread a).pc.owes = 0 ∧
      (links.next a = some b → s.flag b = false → s'.flag b = false) := by
  induction es generalizing s with
  | nil =>
    cases hrun
    exact ⟨hruns, howes, fun _ => id⟩
  | cons e es ih =>
    obtain ⟨q, hq, hrest⟩ := Option.bind_eq_some_iff.mp hrun
    have hin := h.step hlinks hleads hq ((run_mono hrest first).1.trans hbound)
    have hupper := hin.upper hlinks hleads a hl2 ha
    have hmono := (step_mono hq a).1
    have hstep := step_owes hq a
    obtain ⟨hruns', howes', hflag'⟩ := ih hin (by omega) (by omega) hrest
    refine ⟨hruns', howes', fun hnext hflag => hflag' hnext ?_⟩
    exact step_flag h.caused hlinks ha hnext howes hflag hq

theorem InOrder.mono {bs : List FrameType} (h : InOrder cfg links bs s s') (x : FrameType) :
    (s.thread x).runs ≤ (s'.thread x).runs := by
  induction h with
  | done es hrun => exact (run_mono hrun x).1
  | pass b bs before during hbefore hcheck hduring hready hrest ih =>
    exact (run_mono hbefore x).1.trans ((step_mono hcheck x).1.trans
      ((run_mono hduring x).1.trans ih))

/-- Each class that makes its pass after the class before it has run and signaled
has run after its pass. -/
theorem InOrder.served {bs : List FrameType} (h : InOrder cfg links bs s s')
    (hlinks : Linked cfg.app links) (hleads : Leads cfg links first) (hl2 : a ≠ .l2)
    (ha : cfg.app.isActive a = true) (hbs : bs = followers cfg a) (hin : InRound cfg links first r s)
    (hruns : (s.thread a).runs = r + 1) (howes : (s.thread a).pc.owes = 0)
    (hbound : (s'.thread first).runs ≤ r + 1) :
    InRound cfg links first r s' ∧ ∀ x ∈ bs, (s'.thread x).runs = r + 1 := by
  induction h generalizing a with
  | done es hrun =>
    exact ⟨hin.run hlinks hleads hrun hbound, fun x hx => absurd hx List.not_mem_nil⟩
  | @pass s s₁ s₂ s₃ s' b bs before during hbefore hcheck hduring hready hrest ih =>
    obtain ⟨hfind, hbs'⟩ := followers_cons hbs.symm
    have hnext : links.next a = some b := by rw [hlinks.next_eq, hfind]
    obtain ⟨hmem, hbl2, -⟩ := hleads.next_mem hlinks ha hnext
    have hb := (mem_followers.mp hmem).2
    have hbound₃ := (hrest.mono first).trans hbound
    have hbound₂ := ((run_mono hduring first).1).trans hbound₃
    have hbound₁ := ((step_mono hcheck first).1).trans hbound₂
    have hin₁ := hin.run hlinks hleads hbefore hbound₁
    obtain ⟨hruns₁, howes₁, -⟩ :=
      hin.run_done (b := b) hlinks hleads hl2 ha hruns howes hbefore hbound₁
    have hin₂ := hin₁.step hlinks hleads hcheck hbound₂
    have hupper₂ := hin₂.upper hlinks hleads a hl2 ha
    have hmono₂ := (step_mono hcheck a).1
    have hstep₂ := step_owes hcheck a
    have hflag₂ : s₂.flag b = false := by
      obtain ⟨ty, heq, -, -, rfl⟩ | ⟨_, _, _, heq, -⟩ | ⟨_, heq, -⟩ := step_cases hcheck
      · cases heq
        rw [check_flag, if_pos ⟨rfl, by simp [hasCond, hbl2]⟩]
      · cases heq
      · cases heq
    have hin₃ := hin₂.run hlinks hleads hduring hbound₃
    obtain ⟨hruns₃, howes₃, hflag₃⟩ :=
      hin₂.run_done (b := b) hlinks hleads hl2 ha (by omega) (by omega) hduring hbound₃
    have hexact₃ := hin₃.exact a b ha hnext
    have hb₃ : (s₃.thread b).runs = r + 1 := by
      rw [hflag₃ hnext hflag₂, hready, hruns₃, howes₃] at hexact₃
      simpa [Pc.taken] using hexact₃
    obtain ⟨hin', hserved⟩ := ih hbl2 hb hbs' hin₃ hb₃ (by rw [hready]; rfl) hbound
    refine ⟨hin', ?_⟩
    intro x hx
    rcases List.mem_cons.mp hx with rfl | hx
    · have hupper := hin'.upper hlinks hleads x hbl2 hb
      have hmono := hrest.mono x
      omega
    · exact hserved x hx

end passes

/-! ## Round after round -/

/-- Between two rounds. -/
structure Level (cfg : TimerConfig) (links : Links) (k : Nat) (s : TxState) : Prop where
  caused : Caused cfg.app links s
  exact : Exact cfg links s
  runs : ∀ x, x ≠ .l2 → cfg.app.isActive x = true → (s.thread x).runs = k

section level
variable {s s' : TxState} {k : Nat}

/-- Before the first class has transmitted, nothing has happened. -/
theorem level_zero (hlinks : Linked cfg.app links) (hleads : Leads cfg links first)
    (hcaused : Caused cfg.app links s) (hzero : (s.thread first).runs = 0) :
    Level cfg links 0 s := by
  have hruns (x : FrameType) (hl2 : x ≠ .l2) (hact : cfg.app.isActive x = true) :
      (s.thread x).runs = 0 := by
    rcases hleads.2 x hl2 hact with rfl | hafter
    · exact hzero
    · have hle := le_of_links (f := fun x => (s.thread x).runs) hlinks (by
        intro a b ha hnext
        obtain ⟨-, hbl2, hfirst⟩ := hleads.next_mem hlinks ha hnext
        have hflow := hcaused.flow a b ha hnext
        have htaken := hcaused.taken b hbl2 hfirst
        omega) (hlinks.first_active first hleads.1) x (mem_followers.mpr ⟨hafter, hact⟩)
      omega
  refine ⟨hcaused, ?_, hruns⟩
  intro a b ha hnext
  obtain ⟨-, hbl2, hfirst⟩ := hleads.next_mem hlinks ha hnext
  have hal2 : a ≠ .l2 := by
    rintro rfl
    exact absurd (hlinks.next_spec hnext).1 List.not_mem_nil
  have hflow := hcaused.flow a b ha hnext
  have htaken := hcaused.taken b hbl2 hfirst
  have ha0 := hruns a hal2 ha
  omega

/-- A round takes every class one run further. -/
theorem Level.round (h : Level cfg links k s) (hlinks : Linked cfg.app links)
    (hleads : Leads cfg links first) (hsetUp : SetUp cfg first s)
    (hround : Round cfg links first s s') : Level cfg links (k + 1) s' := by
  obtain ⟨now, s₁, own, s₂, hact, hruns₁, hown, hready, hpasses, hlast⟩ := hround
  have hfirst := hlinks.first_active first hleads.1
  have hl2 : first ≠ .l2 := by
    rintro rfl
    exact absurd hleads.1 (by simp [hlinks.first_pn])
  have hk := h.runs first hl2 hfirst
  have hin : InRound cfg links first k s :=
    ⟨h.caused, h.exact, hsetUp, fun x hx hxa => (h.runs x hx hxa).ge, by omega⟩
  have hin₁ := hin.step hlinks hleads hact (by omega)
  have hmono₂ := (run_mono hown first).1
  have hmono' := hpasses.mono first
  have hin₂ := hin₁.run hlinks hleads hown (by omega)
  obtain ⟨hin', hserved⟩ := hpasses.served hlinks hleads hl2 hfirst rfl hin₂ (by omega)
    (by rw [hready]; rfl) (by omega)
  refine ⟨hin'.caused, hin'.exact, ?_⟩
  intro x hxl2 hxa
  rcases hleads.2 x hxl2 hxa with rfl | hafter
  · omega
  · exact hserved x (mem_followers.mpr ⟨hafter, hxa⟩)

theorem AfterRounds.level {startNs : FrameType → UInt64} (hlinks : Linked cfg.app links)
    (hleads : Leads cfg links first)
    (h : AfterRounds cfg links first startNs (SetUp cfg first) k s) : Level cfg links k s := by
  induction h with
  | start es hrun hzero =>
    exact level_zero hlinks hleads ((start_caused cfg links startNs).run hlinks hrun) hzero
  | round _ hsetUp hround ih => exact ih.round hlinks hleads hsetUp hround

end level

/-- If no active class comes before the first one, and the later classes have set
their timers up before each round, every active PROFINET class transmits once
in every round, and takes just as many signals. -/
theorem cascade_complete (cfg : TimerConfig) (links : Links)
    (hlink : functionLinkPnThreads cfg.app = .ok links) (first : FrameType)
    (hleads : Leads cfg links first) (startNs : FrameType → UInt64) (k : Nat) (s : TxState)
    (h : AfterRounds cfg links first startNs (SetUp cfg first) k s) (x : FrameType)
    (hl2 : x ≠ .l2) (hact : cfg.app.isActive x = true) :
    (s.thread x).runs = k ∧ (x ≠ first → (s.thread x).consumed = k) := by
  have hlinks := functionLinkPnThreads_linked hlink
  have hlevel := h.level hlinks hleads
  have hx := hlevel.runs x hl2 hact
  refine ⟨hx, fun hne => ?_⟩
  rcases hleads.2 x hl2 hact with heq | hafter
  · exact absurd heq hne
  · obtain ⟨y, hy, hnext⟩ := exists_previous hlinks (hlinks.first_active first hleads.1) x
      (mem_followers.mpr ⟨hafter, hact⟩)
    obtain ⟨-, -, hfirst⟩ := hleads.next_mem hlinks hy hnext
    have hyl2 : y ≠ .l2 := by
      rintro rfl
      exact absurd (hlinks.next_spec hnext).1 List.not_mem_nil
    have hflow := hlevel.caused.flow y x hy hnext
    have htaken := hlevel.caused.taken x hl2 hfirst
    have hyk := hlevel.runs y hyl2 hy
    omega

/-! ## A round of RTC and RTA -/

/-- The small configuration with only the listed classes. -/
def only (on : List FrameType) : TimerConfig :=
  { smallTimers with
    app := { smallTimers.app with
      cls := fun ty => { smallTimers.app.cls ty with enabled := decide (ty ∈ on) } } }

def rtcLinks (on : List FrameType) : Links :=
  ⟨findNextPnThread (only on).app, fun ty => ty == .rtc⟩

/-- The state after some events, if they are possible. -/
def reach (on : List FrameType) (s : TxState) (es : List TxEvent) : TxState :=
  (run (only on) (rtcLinks on) s es).getD s

theorem reach_spec {on : List FrameType} {s : TxState} {es : List TxEvent}
    (h : (run (only on) (rtcLinks on) s es).isSome = true) :
    run (only on) (rtcLinks on) s es = some (reach on s es) := by
  obtain ⟨s', hs'⟩ := Option.isSome_iff_exists.mp h
  rw [reach, hs', Option.getD_some]

theorem reach_step {on : List FrameType} {s : TxState} {e : TxEvent}
    (h : (run (only on) (rtcLinks on) s [e]).isSome = true) :
    step (only on) (rtcLinks on) s e = some (reach on s [e]) := by
  have hrun := reach_spec h
  rwa [run, show (fun s' => run (only on) (rtcLinks on) s' []) = some from rfl,
    Option.bind_fun_some] at hrun

/-- The timer of RTC is set up, and about to expire again. -/
def rtcDue : List TxEvent := [.check .rtc, .act .rtc 600000, .check .rtc]

/-- The timer of RTA is set up as well. -/
def bothDue : List TxEvent := [.check .rta, .act .rta 600000] ++ rtcDue

def begin (on : List FrameType) (es : List TxEvent) : TxState :=
  reach on (start (only on) fun _ => 0) es

/-- RTC transmits and signals. -/
def sent (on : List FrameType) (es : List TxEvent) : TxState :=
  reach on (reach on (begin on es) [.act .rtc 1600000]) [.signal .rtc]

/-- RTA makes a pass. -/
def passed (on : List FrameType) (es rest : List TxEvent) : TxState :=
  reach on (reach on (sent on es) [.check .rta]) rest

theorem leads_pair : Leads (only [.rtc, .rta]) (rtcLinks [.rtc, .rta]) .rtc := by
  refine ⟨rfl, ?_⟩
  intro x
  cases x <;> decide +kernel

theorem cascade_complete_pair :
    ((passed [.rtc, .rta] bothDue [.act .rta 1600001, .signal .rta]).thread .rta).runs = 1 := by
  have hround : Round (only [.rtc, .rta]) (rtcLinks [.rtc, .rta]) .rtc (begin [.rtc, .rta] bothDue)
      (passed [.rtc, .rta] bothDue [.act .rta 1600001, .signal .rta]) :=
    ⟨1600000, _, [.signal .rtc], _, reach_step (by decide +kernel), by decide +kernel,
      reach_spec (by decide +kernel), by decide +kernel,
      .pass .rta [] [] _ rfl (reach_step (by decide +kernel)) (reach_spec (by decide +kernel))
        (by decide +kernel) (.done [] rfl), by decide +kernel⟩
  have hafter : AfterRounds (only [.rtc, .rta]) (rtcLinks [.rtc, .rta]) .rtc (fun _ => 0)
      (SetUp (only [.rtc, .rta]) .rtc) 1 _ :=
    .round (.start bothDue (reach_spec (by decide +kernel)) (by decide +kernel))
      (by unfold SetUp; decide +kernel) hround
  exact (cascade_complete (only [.rtc, .rta]) (rtcLinks [.rtc, .rta]) rfl .rtc leads_pair
    (fun _ => 0) 1
    _ hafter .rta (by decide) (by decide +kernel)).1

/-- TSN low without TSN high is active, but no class is linked to it; and a
signal that reaches RTA before its timer is set up is taken by the set-up. -/
theorem cascade_not_complete :
    (¬ ∀ (cfg : TimerConfig) (links : Links) (first : FrameType) (startNs : FrameType → UInt64)
        (k : Nat) (s : TxState), functionLinkPnThreads cfg.app = .ok links →
        links.isFirst first = true →
        AfterRounds cfg links first startNs (fun _ => True) k s →
        ∀ x, x ≠ .l2 → cfg.app.isActive x = true → (s.thread x).runs = k) ∧
    (¬ ∀ (cfg : TimerConfig) (links : Links) (first : FrameType) (startNs : FrameType → UInt64)
        (k : Nat) (s : TxState), functionLinkPnThreads cfg.app = .ok links →
        Leads cfg links first →
        AfterRounds cfg links first startNs (fun _ => True) k s →
        ∀ x, x ≠ .l2 → cfg.app.isActive x = true → (s.thread x).runs = k) := by
  constructor
  · intro h
    have hround : Round (only [.tsnLow, .rtc]) (rtcLinks [.tsnLow, .rtc]) .rtc
        (begin [.tsnLow, .rtc] rtcDue) (sent [.tsnLow, .rtc] rtcDue) :=
      ⟨1600000, _, [.signal .rtc], _, reach_step (by decide +kernel), by decide +kernel,
        reach_spec (by decide +kernel), by decide +kernel, .done [] rfl, by decide +kernel⟩
    have hruns := h (only [.tsnLow, .rtc]) (rtcLinks [.tsnLow, .rtc]) .rtc (fun _ => 0) 1 _ rfl rfl
      (.round (.start rtcDue (reach_spec (by decide +kernel)) (by decide +kernel)) trivial hround)
      .tsnLow (by decide) (by decide +kernel)
    exact absurd hruns (by decide +kernel)
  · intro h
    have hround : Round (only [.rtc, .rta]) (rtcLinks [.rtc, .rta]) .rtc
        (begin [.rtc, .rta] rtcDue) (passed [.rtc, .rta] rtcDue [.act .rta 1600001]) :=
      ⟨1600000, _, [.signal .rtc], _, reach_step (by decide +kernel), by decide +kernel,
        reach_spec (by decide +kernel), by decide +kernel,
        .pass .rta [] [] _ rfl (reach_step (by decide +kernel)) (reach_spec (by decide +kernel))
          (by decide +kernel) (.done [] rfl), by decide +kernel⟩
    have hruns := h (only [.rtc, .rta]) (rtcLinks [.rtc, .rta]) .rtc (fun _ => 0) 1 _ rfl leads_pair
      (.round (.start rtcDue (reach_spec (by decide +kernel)) (by decide +kernel)) trivial hround)
      .rta (by decide) (by decide +kernel)
    exact absurd hruns (by decide +kernel)

end Rtdk.Rounds
