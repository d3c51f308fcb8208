import Rtdk.Hist
import Rtdk.Sane

/-! The set-up of the statistics (`__stat_init` of `stat.c`).

A reference keeps a backlog for every frame type, whether the class is active or
not, and asks for the memory of all of them. A class that is not configured has
no frames in a cycle, so it asks for no memory at all, and the answer to that is
the same as to a request that fails. -/

namespace Rtdk.StatSetup
open Rtdk.NetDef Rtdk.Stat Rtdk.Config Rtdk.ConfigFile Rtdk.Thread Rtdk.Hist Rtdk.StatRun
open Rtdk.Sane

/-- `stat_private`, with the backlogs as pointers and whether the two files of
the tracer are open. -/
structure Setup where
  globalStatistics : FrameType → Statistics
  statisticsPerPeriod : FrameType → Statistics
  backlog : FrameType → Option (List Backlog)
  backlogLen : FrameType → UInt64
  rttExpectedRtLimit : UInt64
  fileTracingOn : Bool
  fileTraceMarker : Bool

/-- `static stat_private_t stat_private = {0}`. -/
def Setup.zero : Setup where
  globalStatistics := fun _ => {}
  statisticsPerPeriod := fun _ => {}
  backlog := fun _ => none
  backlogLen := fun _ => 0
  rttExpectedRtLimit := 0
  fileTracingOn := false
  fileTraceMarker := false

/-- What a failed call leaves in `errno`. -/
structure Errno where
  value : Int32
  value_ne : value ≠ 0

def statMaxBacklog : UInt64 := 1024

/-- The loop over the frame types, which goes on after a failure; whether there
was one. -/
def allocate (granted : FrameType → Bool) : List FrameType → Setup → Bool × Setup
  | [], s => (false, s)
  | ty :: tys, s =>
    let backlog := rteCallocSocket (granted ty) ⟨0, 0⟩ (s.backlogLen ty)
    let (allocationError, s) :=
      allocate granted tys { s with backlog := Function.update s.backlog ty backlog }
    (backlog.isNone || allocationError, s)

/-- A record before its first sample. -/
def clearExtremes (st : Statistics) : Statistics :=
  { st with
    roundTripMin := UInt64.ofNat (2 ^ 64 - 1)
    roundTripMax := 0
    onewayMin := UInt64.ofNat (2 ^ 64 - 1)
    onewayMax := 0 }

def openTracer (fopen : String → Except Errno Unit) (s : Setup) : Int32 × Setup :=
  match fopen "/sys/kernel/debug/tracing/tracing_on" with
  | .error errno => (-errno.value, s)
  | .ok () =>
    match fopen "/sys/kernel/debug/tracing/trace_marker" with
    | .error errno => (-errno.value, { s with fileTracingOn := true })
    | .ok () => (0, { s with fileTracingOn := true, fileTraceMarker := true })

/-- `__stat_init`. -/
def statInit (app : AppConfig) (mirrorMode : Bool) (granted : FrameType → Bool)
    (fopen : String → Except Errno Unit) (s : Setup) : Int32 × Setup :=
  let (allocationError, s) :=
    if mirrorMode then (false, s)
    else
      allocate granted frameTypes
        { s with backlogLen := fun ty => statMaxBacklog * (app.cls ty).numFramesPerCycle }
  if allocationError then (-enomem, s)
  else
    let s := { s with
      globalStatistics := fun ty => clearExtremes (s.globalStatistics ty)
      statisticsPerPeriod := fun ty => clearExtremes (s.statisticsPerPeriod ty) }
    let (ret, s) := if app.debugStopTraceOnOutlier then openTracer fopen s else (0, s)
    if ret ≠ 0 then (ret, s)
    else (0, { s with rttExpectedRtLimit := app.applicationBaseCycleTimeNs * 2 / 1000 })

/-- The statistics as `stat_frame_sent` and `stat_frame_received` see them. -/
def Setup.stat (s : Setup) (histograms : FrameType → Stat.Histogram) : StatPrivate where
  globalStatistics := s.globalStatistics
  statisticsPerPeriod := s.statisticsPerPeriod
  roundTripContexts := fun ty =>
    ⟨fun i => ((s.backlog ty).getD []).getD i ⟨0, 0⟩, s.backlogLen ty⟩
  rttExpectedRtLimit := s.rttExpectedRtLimit
  histograms := histograms
  published := []

/-! ## The allocations -/

theorem allocate_eq (granted : FrameType → Bool) {tys : List FrameType} (hnd : tys.Nodup)
    (s : Setup) : allocate granted tys s =
      (tys.any fun ty => !(granted ty && s.backlogLen ty != 0),
        { s with backlog := fun ty =>
            if ty ∈ tys then rteCallocSocket (granted ty) ⟨0, 0⟩ (s.backlogLen ty)
            else s.backlog ty }) := by
  induction tys generalizing s with
  | nil => simp [allocate]
  | cons ty tys ih =>
    obtain ⟨hty, hrest⟩ := List.nodup_cons.mp hnd
    have hnone : (rteCallocSocket (granted ty) (⟨0, 0⟩ : Backlog) (s.backlogLen ty)).isNone =
        !(granted ty && s.backlogLen ty != 0) := by
      unfold rteCallocSocket
      cases granted ty && s.backlogLen ty != 0 <;> rfl
    rw [allocate, ih hrest]
    simp only [hnone, List.any_cons]
    congr 2
    funext t
    by_cases ht : t = ty
    · subst ht
      rw [if_neg hty, Function.update_self, if_pos List.mem_cons_self]
    · rw [Function.update_of_ne ht]
      simp only [List.mem_cons, ht, false_or]

theorem openTracer_ret (fopen : String → Except Errno Unit) (s : Setup) :
    (openTracer fopen s).1 = 0 ↔
      fopen "/sys/kernel/debug/tracing/tracing_on" = .ok () ∧
        fopen "/sys/kernel/debug/tracing/trace_marker" = .ok () := by
  have hneg (errno : Errno) : -errno.value ≠ 0 := fun h => errno.value_ne (by
    rw [← Int32.neg_neg (a := errno.value), h]
    rfl)
  unfold openTracer
  cases fopen "/sys/kernel/debug/tracing/tracing_on" with
  | error errno => simp [hneg]
  | ok _ =>
    cases fopen "/sys/kernel/debug/tracing/trace_marker" with
    | error errno => simp [hneg]
    | ok _ => simp

section setup
variable {app : AppConfig} {granted : FrameType → Bool} {fopen : String → Except Errno Unit}

/-- Both files of the tracer can be opened, if they are wanted. -/
def TracerOpens (app : AppConfig) (fopen : String → Except Errno Unit) : Prop :=
  app.debugStopTraceOnOutlier = true →
    fopen "/sys/kernel/debug/tracing/tracing_on" = .ok () ∧
      fopen "/sys/kernel/debug/tracing/trace_marker" = .ok ()

/-- When the set-up of a reference succeeds. -/
theorem statInit_ret (s : Setup) : (statInit app false granted fopen s).1 = 0 ↔
    (∀ ty, granted ty = true ∧ statMaxBacklog * (app.cls ty).numFramesPerCycle ≠ 0) ∧
      TracerOpens app fopen := by
  unfold statInit
  simp only [Bool.false_eq_true, if_false]
  rw [allocate_eq granted (by decide)]
  simp only
  cases hany : frameTypes.any fun ty =>
      !(granted ty && statMaxBacklog * (app.cls ty).numFramesPerCycle != 0) with
  | true =>
    rw [if_pos rfl]
    refine iff_of_false (show -enomem ≠ 0 by decide) fun h => ?_
    obtain ⟨ty, -, hty⟩ := List.any_eq_true.mp hany
    simp [h.1 ty] at hty
  | false =>
    rw [if_neg Bool.false_ne_true]
    have hall : ∀ ty, granted ty = true ∧ statMaxBacklog * (app.cls ty).numFramesPerCycle ≠ 0 := by
      intro ty
      have hty := List.any_eq_false.mp hany ty (mem_frameTypes ty)
      simpa using hty
    rw [and_iff_right hall]
    unfold TracerOpens
    cases hstop : app.debugStopTraceOnOutlier with
    | false => simp
    | true =>
      simp only [if_true, true_implies]
      split
      · exact openTracer_ret fopen _
      · rename_i hret
        exact iff_of_true rfl ((openTracer_ret fopen _).mp (not_not.mp hret))

/-- The sizes of the backlogs do not depend on how the set-up ends. -/
theorem statInit_backlogLen (s : Setup) (ty : FrameType) :
    (statInit app false granted fopen s).2.backlogLen ty =
      statMaxBacklog * (app.cls ty).numFramesPerCycle := by
  have hopen (s' : Setup) : (openTracer fopen s').2.backlogLen = s'.backlogLen := by
    unfold openTracer
    split
    · rfl
    · split <;> rfl
  unfold statInit
  simp only [Bool.false_eq_true, if_false]
  rw [allocate_eq granted (by decide)]
  simp only
  split
  · rfl
  · split
    · split
      · rw [hopen]
      · simp only [hopen]
    · split <;> rfl

/-- A set-up that succeeds leaves what `Thread.statInit` describes. -/
theorem statInit_refines (h : (statInit app false granted fopen .zero).1 = 0) :
    (statInit app false granted fopen .zero).2.stat (Thread.statInit app false).histograms =
      Thread.statInit app false := by
  obtain ⟨hall, hopens⟩ := (statInit_ret .zero).mp h
  have hbacklog (n : Nat) (i : Nat) :
      (List.replicate n (⟨0, 0⟩ : Backlog)).getD i ⟨0, 0⟩ = ⟨0, 0⟩ := by
    rw [List.getD_eq_getElem?_getD, List.getElem?_replicate]
    split <;> rfl
  have hcalloc (ty : FrameType) : rteCallocSocket (granted ty) (⟨0, 0⟩ : Backlog)
      (statMaxBacklog * (app.cls ty).numFramesPerCycle) =
        some (List.replicate (statMaxBacklog * (app.cls ty).numFramesPerCycle).toNat ⟨0, 0⟩) := by
    rw [rteCallocSocket, if_pos (by simpa using hall ty)]
  have hnone : (frameTypes.any fun ty =>
      !(granted ty && statMaxBacklog * (app.cls ty).numFramesPerCycle != 0)) = false := by
    rw [List.any_eq_false]
    intro ty _
    simpa using hall ty
  have htracer (s : Setup) : ∃ on marker,
      (if app.debugStopTraceOnOutlier = true then openTracer fopen s else (0, s)) =
        (0, { s with fileTracingOn := on, fileTraceMarker := marker }) := by
    cases hstop : app.debugStopTraceOnOutlier with
    | false => exact ⟨s.fileTracingOn, s.fileTraceMarker, rfl⟩
    | true =>
      obtain ⟨hon, hmarker⟩ := hopens hstop
      exact ⟨true, true, by simp [openTracer, hon, hmarker]⟩
  unfold statInit
  simp only [Bool.false_eq_true, if_false]
  rw [allocate_eq granted (by decide)]
  simp only [hnone, Bool.false_eq_true, if_false]
  obtain ⟨on, marker, heq⟩ := htracer _
  rw [heq]
  simp only [ne_eq, not_true_eq_false, if_false, Setup.stat, Thread.statInit, clearExtremes,
    Setup.zero, mem_frameTypes, if_true, hcalloc, Option.getD_some, hbacklog]
  rfl

end setup

/-! ## The ring of a class -/

/-- **No division by zero.**  As long as only classes with a backlog have frames, no
call divides by zero. -/
theorem play_ne_sigfpe {cfg : StatConfig} (href : cfg.mirrorMode = false) {s : StatPrivate}
    {es : List Event} (h : ∀ e ∈ es, (s.roundTripContexts e.ty).backlogLen ≠ 0) :
    play cfg s es ≠ .error .sigfpe := by
  induction es generalizing s with
  | nil =>
    intro h
    cases h
  | cons e es ih =>
    have hlen := h e List.mem_cons_self
    have hcall : (e.call cfg s).halt ≠ some .sigfpe := by
      cases e with
      | sent ty k t =>
        have hz : ¬ (!cfg.mirrorMode && (s.roundTripContexts ty).backlogLen == 0) = true := by
          have hring : (s.roundTripContexts ty).backlogLen ≠ 0 := hlen
          simpa [href] using hring
        simp only [Event.call, statFrameSent, if_neg hz]
        intro h
        cases h
      | received ty k o p f tx now =>
        rcases statFrameReceived_halt cfg s ty k o p f tx now (Or.inr hlen) with hhalt | ⟨hhalt, -⟩
        · rw [Event.call, hhalt]
          intro h
          cases h
        · rw [Event.call, hhalt]
          intro h
          cases h
    rw [play]
    cases hhalt : (e.call cfg s).halt with
    | some reason =>
      rw [hhalt] at hcall
      exact fun heq => hcall (by rw [Except.error.inj heq])
    | none =>
      refine ih fun e' he' => ?_
      rw [(call_backlog href hhalt e'.ty 0).1]
      exact h e' (List.mem_cons_of_mem e he')

/-! ## What the set-up promises -/

/-- The set-up succeeds, the backlog of every active class has room for 1024 cycles,
and no run of the active classes divides by its size when that is zero. -/
structure Ready (app : AppConfig) (r : Int32 × Setup) : Prop where
  ret : r.1 = 0
  backlogLen : ∀ ty, app.isActive ty = true →
    (r.2.backlogLen ty).toNat = 1024 * (app.cls ty).numFramesPerCycle.toNat ∧
      r.2.backlogLen ty ≠ 0
  modulo : ∀ (cfg : StatConfig) (histograms : FrameType → Stat.Histogram) (es : List Event),
    cfg.mirrorMode = false → (∀ e ∈ es, app.isActive e.ty = true) →
    play cfg (r.2.stat histograms) es ≠ .error .sigfpe

/-- **Set-up.**  It keeps its promise just if no class, active or not, has a backlog of
size zero modulo `2^64`, the sizes of the active ones do not wrap around, and the
tracer can be opened if it is wanted. -/
theorem statInit_ready_iff (app : AppConfig) {granted : FrameType → Bool}
    (hgranted : ∀ ty, granted ty = true) (fopen : String → Except Errno Unit) :
    Ready app (statInit app false granted fopen .zero) ↔
      (∀ ty, (app.cls ty).numFramesPerCycle.toNat % 2 ^ 54 ≠ 0) ∧
        (∀ ty, app.isActive ty = true → (app.cls ty).numFramesPerCycle.toNat < 2 ^ 54) ∧
          TracerOpens app fopen := by
  have hlen (ty : FrameType) : (statMaxBacklog * (app.cls ty).numFramesPerCycle).toNat =
      1024 * (app.cls ty).numFramesPerCycle.toNat % 2 ^ 64 := UInt64.toNat_mul _ _
  have hzero (ty : FrameType) : statMaxBacklog * (app.cls ty).numFramesPerCycle ≠ 0 ↔
      (app.cls ty).numFramesPerCycle.toNat % 2 ^ 54 ≠ 0 := by
    rw [ne_eq, ← UInt64.toNat_inj, hlen, UInt64.toNat_zero]
    omega
  constructor
  · intro h
    obtain ⟨hall, hopens⟩ := (statInit_ret .zero).mp h.ret
    refine ⟨fun ty => (hzero ty).mp (hall ty).2, fun ty hact => ?_, hopens⟩
    obtain ⟨heq, -⟩ := h.backlogLen ty hact
    rw [statInit_backlogLen, hlen] at heq
    omega
  · rintro ⟨hall, hwrap, hopens⟩
    refine ⟨(statInit_ret .zero).mpr ⟨fun ty => ⟨hgranted ty, (hzero ty).mpr (hall ty)⟩, hopens⟩,
      fun ty hact => ?_, fun cfg histograms es href hes => ?_⟩
    · rw [statInit_backlogLen, hlen]
      have hlt := hwrap ty hact
      exact ⟨Nat.mod_eq_of_lt (by omega), (hzero ty).mpr (hall ty)⟩
    · refine play_ne_sigfpe href fun e he => ?_
      show (statInit app false granted fopen .zero).2.backlogLen e.ty ≠ 0
      rw [statInit_backlogLen]
      exact (hzero e.ty).mpr (hall e.ty)

theorem statInit_ready_iff_all :
    Ready (AppConfig.small .none 40 1 [])
      (StatSetup.statInit (AppConfig.small .none 40 1 []) false (fun _ => true) (fun _ => .ok ()) .zero) :=
  (statInit_ready_iff (AppConfig.small .none 40 1 []) (fun _ => rfl) fun _ => .ok ()).mpr
    ⟨fun ty => by cases ty <;> decide, fun ty _ => by cases ty <;> decide, fun _ => ⟨rfl, rfl⟩⟩

/-- The default configuration with RTC enabled, one frame in a cycle. -/
def onlyRtc : AppConfig :=
  appConfig (Function.update (Function.update configSetDefaults (.enabled .rtc) true)
    (.numFramesPerCycle .rtc) (1 : UInt64))

/-- With eight classes disabled, the set-up runs out of memory. -/
theorem statInit_onlyRtc :
    ¬ ∀ (app : AppConfig) (granted : FrameType → Bool) (fopen : String → Except Errno Unit),
      (∀ ty, app.isActive ty = true → (app.cls ty).numFramesPerCycle ≥ 1) →
      (∀ ty, granted ty = true) → TracerOpens app fopen →
      Ready app (StatSetup.statInit app false granted fopen .zero) := by
  intro h
  have hready := h onlyRtc (fun _ => true) (fun _ => .ok ())
    (fun ty => by cases ty <;> decide) (fun _ => rfl) (fun _ => ⟨rfl, rfl⟩)
  exact absurd hready.ret (by decide)

end Rtdk.StatSetup
