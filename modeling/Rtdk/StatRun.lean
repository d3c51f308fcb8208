import Rtdk.Thread

/-! Runs of the statistics: any sequence of `stat_frame_sent` and
`stat_frame_received` calls over all frame types.

A slot of a backlog belongs to all counters that are congruent modulo the size
of the backlog. `play_backlog` says what a slot holds after a run: what the last
call that touched it left there. -/

namespace Rtdk.StatRun
open Rtdk.NetDef Rtdk.Stat Rtdk.Config Rtdk.Thread

/-- A call of `stat_frame_sent` or `stat_frame_received`, with the clock reading
the latter makes. -/
inductive Event
  | sent (ty : FrameType) (cycleNumber timestamp : UInt64)
  | received (ty : FrameType) (cycleNumber : UInt64)
      (outOfOrder payloadMismatch frameIdMismatch : Bool) (txTimestamp currTime : UInt64)
  deriving DecidableEq, Repr

def Event.ty : Event → FrameType
  | .sent ty _ _ => ty
  | .received ty _ _ _ _ _ _ => ty

def Event.cycleNumber : Event → UInt64
  | .sent _ k _ => k
  | .received _ k _ _ _ _ _ => k

def Event.call (cfg : StatConfig) (s : StatPrivate) : Event → Result
  | .sent ty k t => statFrameSent cfg s ty k t
  | .received ty k o p f tx now => statFrameReceived cfg s ty k o p f tx now

/-- The state after the calls, unless one of them ended the process. -/
def play (cfg : StatConfig) : StatPrivate → List Event → Except Halt StatPrivate
  | s, [] => .ok s
  | s, e :: es =>
    match (e.call cfg s).halt with
    | some reason => .error reason
    | none => play cfg (e.call cfg s).stat es

theorem play_cons_ok {cfg : StatConfig} {s s' : StatPrivate} {e : Event} {es : List Event}
    (h : play cfg s (e :: es) = .ok s') :
    (e.call cfg s).halt = none ∧ play cfg (e.call cfg s).stat es = .ok s' := by
  rw [play] at h
  cases hh : (e.call cfg s).halt with
  | some reason =>
    rw [hh] at h
    cases h
  | none =>
    rw [hh] at h
    exact ⟨rfl, h⟩

theorem play_append (cfg : StatConfig) (s : StatPrivate) (es es' : List Event) :
    play cfg s (es ++ es') = (do
      let s ← play cfg s es
      play cfg s es') := by
  induction es generalizing s with
  | nil => rfl
  | cons e es ih =>
    rw [List.cons_append, play, play]
    cases (e.call cfg s).halt with
    | some reason => rfl
    | none => exact ih _

/-- A run that returns, taken apart at its last call. -/
theorem play_snoc_ok {cfg : StatConfig} {s s' : StatPrivate} {es : List Event} {e : Event}
    (h : play cfg s (es ++ [e]) = .ok s') :
    ∃ s1, play cfg s es = .ok s1 ∧ (e.call cfg s1).halt = none ∧ (e.call cfg s1).stat = s' := by
  rw [play_append] at h
  cases hes : play cfg s es with
  | error reason =>
    rw [hes] at h
    cases h
  | ok s1 =>
    rw [hes] at h
    obtain ⟨hhalt, hlast⟩ := play_cons_ok h
    exact ⟨s1, rfl, hhalt, Except.ok.inj hlast⟩

/-! ## The backlog -/

/-- The slot of a counter in a backlog of `len` entries. -/
def slotOf (len k : UInt64) : Nat := (k % len).toNat

/-- The call uses the slot of the class's backlog. -/
def Event.hits (ty : FrameType) (len : UInt64) (slot : Nat) (e : Event) : Bool :=
  decide (e.ty = ty) && decide (slotOf len e.cycleNumber = slot)

/-- What a call that uses a slot leaves in it. -/
def Event.leaves : Event → Backlog
  | .sent _ k t => ⟨k, t⟩
  | .received _ _ _ _ _ _ _ => ⟨0, 0⟩

/-- The slot after the calls, if it held `b` before them. -/
def lastEntry (ty : FrameType) (len : UInt64) (slot : Nat) (b : Backlog) (es : List Event) :
    Backlog :=
  es.foldl (fun b e => if e.hits ty len slot then e.leaves else b) b

theorem lastEntry_append (ty : FrameType) (len : UInt64) (slot : Nat) (b : Backlog)
    (es es' : List Event) :
    lastEntry ty len slot b (es ++ es') = lastEntry ty len slot (lastEntry ty len slot b es) es' := by
  simp only [lastEntry, List.foldl_append]

/-- Calls that do not use the slot leave it alone. -/
theorem lastEntry_of_not_hits {ty : FrameType} {len : UInt64} {slot : Nat} {es : List Event}
    (h : ∀ e ∈ es, e.hits ty len slot = false) (b : Backlog) : lastEntry ty len slot b es = b := by
  induction es generalizing b with
  | nil => rfl
  | cons e es ih =>
    simp only [lastEntry, List.foldl_cons, h e List.mem_cons_self, Bool.false_eq_true, if_false]
    exact ih (fun e' he' => h e' (List.mem_cons_of_mem _ he')) b

theorem lastEntry_skip {ty : FrameType} {len : UInt64} {slot : Nat} {e : Event}
    (h : e.hits ty len slot = false) (b : Backlog) (es : List Event) :
    lastEntry ty len slot b (es ++ [e]) = lastEntry ty len slot b es := by
  rw [lastEntry_append]
  exact lastEntry_of_not_hits (by simpa using h) _

theorem Event.not_hits_of_slot {ty : FrameType} {len : UInt64} {slot : Nat} {e : Event}
    (h : slotOf len e.cycleNumber ≠ slot) : e.hits ty len slot = false := by
  simp [Event.hits, h]

theorem Event.not_hits_of_ty {ty : FrameType} {len : UInt64} {slot : Nat} {e : Event}
    (h : e.ty ≠ ty) : e.hits ty len slot = false := by
  simp [Event.hits, h]

theorem update_backlog (backlog : Nat → Backlog) (i slot : Nat) (b : Backlog) :
    Function.update backlog i b slot = if i = slot then b else backlog slot := by
  by_cases h : i = slot
  · rw [if_pos h, h, Function.update_self]
  · rw [if_neg h, Function.update_of_ne (Ne.symm h)]

theorem sent_contexts {cfg : StatConfig} (href : cfg.mirrorMode = false) {s : StatPrivate}
    {ty : FrameType} {k t : UInt64} (h : (statFrameSent cfg s ty k t).halt = none) :
    (statFrameSent cfg s ty k t).stat.roundTripContexts =
      setAt s.roundTripContexts ty { s.roundTripContexts ty with
        backlog := Function.update (s.roundTripContexts ty).backlog
          (slotOf (s.roundTripContexts ty).backlogLen k) ⟨k, t⟩ } := by
  unfold statFrameSent at h ⊢
  simp only at h ⊢
  split at h
  · cases h
  · rename_i hz
    rw [if_neg hz]
    simp only [href, Bool.false_eq_true, if_false, statFrameSentPerPeriod]
    split <;> rfl

/-- A reference without a backlog ends with the first frame it sends. -/
theorem sent_backlogLen {cfg : StatConfig} (href : cfg.mirrorMode = false) {s : StatPrivate}
    {ty : FrameType} {k t : UInt64} (h : (statFrameSent cfg s ty k t).halt = none) :
    (s.roundTripContexts ty).backlogLen ≠ 0 := by
  intro h0
  simp [statFrameSent, href, h0] at h

theorem received_contexts {cfg : StatConfig} (href : cfg.mirrorMode = false) {s : StatPrivate}
    {ty : FrameType} {k : UInt64} {o p f : Bool} {tx now : UInt64}
    (h : (statFrameReceived cfg s ty k o p f tx now).halt = none) :
    (statFrameReceived cfg s ty k o p f tx now).stat.roundTripContexts =
      setAt s.roundTripContexts ty { s.roundTripContexts ty with
        backlog := Function.update (s.roundTripContexts ty).backlog
          (slotOf (s.roundTripContexts ty).backlogLen k) ⟨0, 0⟩ } := by
  rw [(statFrameReceived_global h).2]
  simp only [roundTrip, href, Bool.false_eq_true, if_false, roundTripSample]
  rfl

/-- One call on the backlogs of the classes. -/
theorem call_backlog {cfg : StatConfig} (href : cfg.mirrorMode = false) {s : StatPrivate}
    {e : Event} (h : (e.call cfg s).halt = none) (ty : FrameType) (slot : Nat) :
    ((e.call cfg s).stat.roundTripContexts ty).backlogLen = (s.roundTripContexts ty).backlogLen ∧
      ((e.call cfg s).stat.roundTripContexts ty).backlog slot =
        if e.hits ty (s.roundTripContexts ty).backlogLen slot then e.leaves
        else (s.roundTripContexts ty).backlog slot := by
  have hctx : (e.call cfg s).stat.roundTripContexts =
      setAt s.roundTripContexts e.ty { s.roundTripContexts e.ty with
        backlog := Function.update (s.roundTripContexts e.ty).backlog
          (slotOf (s.roundTripContexts e.ty).backlogLen e.cycleNumber) e.leaves } := by
    cases e with
    | sent ty' k t => exact sent_contexts href h
    | received ty' k o p f tx now => exact received_contexts href h
  rw [hctx]
  by_cases hty : e.ty = ty
  · subst hty
    rw [setAt_same]
    refine ⟨rfl, ?_⟩
    simp only [update_backlog, Event.hits, decide_true, Bool.true_and, decide_eq_true_eq]
  · have hne : ty ≠ e.ty := Ne.symm hty
    rw [setAt, if_neg hne]
    refine ⟨rfl, ?_⟩
    simp only [Event.hits, hty, decide_false, Bool.false_and, Bool.false_eq_true, if_false]

/-- **The backlog after a run.**  A slot holds what the last call that used it
left there. -/
theorem play_backlog {cfg : StatConfig} (href : cfg.mirrorMode = false) {es : List Event}
    {s s' : StatPrivate} (h : play cfg s es = .ok s') (ty : FrameType) (slot : Nat) :
    (s'.roundTripContexts ty).backlogLen = (s.roundTripContexts ty).backlogLen ∧
      (s'.roundTripContexts ty).backlog slot =
        lastEntry ty (s.roundTripContexts ty).backlogLen slot
          ((s.roundTripContexts ty).backlog slot) es := by
  induction es generalizing s with
  | nil =>
    cases h
    exact ⟨rfl, rfl⟩
  | cons e es ih =>
    obtain ⟨hhalt, hrest⟩ := play_cons_ok h
    obtain ⟨hlen, hslot⟩ := call_backlog href hhalt ty slot
    obtain ⟨hlen', hslot'⟩ := ih hrest
    refine ⟨hlen'.trans hlen, ?_⟩
    rw [hslot', hlen, hslot]
    rfl

end Rtdk.StatRun
