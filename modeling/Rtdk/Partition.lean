import Rtdk.LogOnly
import Rtdk.Checks

/-! Does it matter how received frames are split into bursts?

The handlers of the VLAN classes keep `expected_frame_length` across the frames
of one call and lower it for every untagged frame, so a frame of a later burst
can be refused only because untagged frames came before it in the same call.
`rxFrame_append_iff` says exactly when one call on `xs ++ ys` and two calls, on
`xs` and then on `ys`, have the same outcome.

Outcomes are compared by `observe`: statistics, counters, transmit buffer,
freed mbufs and log calls with their level and format string. The numbers
printed in a log call are left out, since the texts about a wrong length print
the lowered length. -/

namespace Rtdk.Partition
open Rtdk.Memory Rtdk.Endian Rtdk.NetDef Rtdk.Security Rtdk.Stat Rtdk.Lport Rtdk.Config Rtdk.Frame
open Rtdk.Thread Rtdk.Receive Rtdk.Handlers Rtdk.LogOnly Rtdk.Checks

variable {C D : Type}

/-! ## Outcomes -/

abbrev Text := LogLevel × String

/-- What is compared: the process ended, how and after which log calls, or the
world without its log, the freed mbufs and the log calls. -/
def observe : Except Stop (World C D × List Mbuf) →
    Except (Halt × List Text) (World C D × List Mbuf × List Text)
  | .ok (w, fs) => .ok (mute w, fs, w.log.map text)
  | .error e => .error (e.reason, e.log.map text)

/-- Two states a handler cannot tell apart but for the expected length and the
stack buffer. -/
structure Alike (s s' : RxState C D) : Prop where
  mute_eq : mute s.world = mute s'.world
  text_eq : s.world.log.map text = s'.world.log.map text

/-- The log calls made up to the end of a burst. -/
def logOf : Except Stop (RxState C D × List Mbuf) → List LogEntry
  | .ok p => p.1.world.log
  | .error e => e.log

def outcome (x : Except Stop (RxState C D × List Mbuf)) : Except Stop (World C D × List Mbuf) :=
  x.map fun p => (p.1.world, p.2)

/-! ## The stack buffer -/

/-- OpenSSL stores as many bytes as it was given: "Input equals Output length". -/
def Fills (evp : Evp C) : Prop :=
  ∀ c ct aad tag iv, (securityDecrypt evp c (some ct) aad tag iv).plaintext.length = ct.length

/-- The decrypted bytes of the frame cover what the handler compares. -/
def Covers (env : Env C D) (ty : FrameType) (m : Mbuf) : Prop :=
  env.app.mode ty = .ae → (env.app.cls ty).payloadPattern.length + 60 ≤ m.len.toNat

theorem slice_write_covered (p p' : Mem UInt8) (bs : List UInt8) (n : Nat) (h : n ≤ bs.length) :
    slice (write p 0 bs) 0 n = slice (write p' 0 bs) 0 n := by
  apply slice_congr
  intro i hi
  simp only [Nat.zero_add]
  have hp := write_inside p 0 bs i (by omega)
  have hp' := write_inside p' 0 bs i (by omega)
  rw [Nat.zero_add] at hp hp'
  rw [hp, hp']

theorem aeOpen_length {evp : Evp C} (hfill : Fills evp) (c : ClassConfig) (ctx : C) {m : Mbuf}
    (off : Nat) (hlen : 60 ≤ m.len.toNat) :
    (aeOpen evp c ctx m off).plaintext.length = m.len.toNat - 60 := by
  rw [aeOpen, hfill, slice_length, payloadSize_toNat hlen]

/-- What stood in the stack buffer before shows in the buffer only. -/
theorem profinetDecode_plaintext (env : Env C D) (c : ClassConfig) (ao ae : UInt64 → LogEntry)
    (w : World C D) (p p' : Mem UInt8) (m : Mbuf) (lay : Layout)
    (hfill : c.securityMode = .ae → Fills env.evp)
    (hcov : c.securityMode = .ae → c.payloadPattern.length + 60 ≤ m.len.toNat) :
    ∃ q, profinetDecode env c ao ae w p' m lay =
      (profinetDecode env c ao ae w p m lay).map fun r => { r with plaintext := q } := by
  unfold profinetDecode
  cases hm : c.securityMode with
  | none => exact ⟨p', rfl⟩
  | ao => exact ⟨p', rfl⟩
  | ae =>
    have hc := hcov hm
    have hlen := aeOpen_length (hfill hm) c w.thread.rxSecurityContext (m := m) lay.off (by omega)
    simp only [aeDecode, World.tick_thread]
    refine ⟨write p' 0 (aeOpen env.evp c w.thread.rxSecurityContext m lay.off).plaintext, ?_⟩
    rw [slice_write_covered p p' _ _ (by rw [hlen]; omega)]
    split <;> rfl

theorem decode_plaintext (env : Env C D) (ty : FrameType) (w : World C D) (p p' : Mem UInt8)
    (m : Mbuf) (lay : Layout) (hfill : env.app.mode ty = .ae → Fills env.evp)
    (hcov : Covers env ty m) :
    ∃ q, (rxHandler env ty).decode w p' m lay =
      ((rxHandler env ty).decode w p m lay).map fun r => { r with plaintext := q } := by
  cases ty with
  | tsnHigh => exact profinetDecode_plaintext env _ _ _ w p p' m lay hfill hcov
  | tsnLow => exact profinetDecode_plaintext env _ _ _ w p p' m lay hfill hcov
  | rtc => exact profinetDecode_plaintext env _ _ _ w p p' m lay hfill hcov
  | rta => exact profinetDecode_plaintext env _ _ _ w p p' m lay hfill hcov
  | dcp => exact ⟨p', rfl⟩
  | lldp => exact ⟨p', rfl⟩
  | udpHigh => exact ⟨p', rfl⟩
  | udpLow => exact ⟨p', rfl⟩
  | l2 => exact ⟨p', rfl⟩

/-- Accepting a frame has the same effect whatever the stack buffer held. -/
theorem accept_plaintext (env : Env C D) (ty : FrameType) (w : World C D) (p p' : Mem UInt8)
    (m : Mbuf) (lay : Layout) (hfill : env.app.mode ty = .ae → Fills env.evp)
    (hcov : Covers env ty m) :
    ∃ q, (rxHandler env ty).accept env w p' m lay =
      ((rxHandler env ty).accept env w p m lay).map fun r => { r with plaintext := q } := by
  obtain ⟨q, hq⟩ := decode_plaintext env ty w p p' m lay hfill hcov
  refine ⟨q, ?_⟩
  unfold RxHandler.accept
  rw [hq]
  cases (rxHandler env ty).decode w p m lay with
  | error e => rfl
  | ok r =>
    simp only [Except.map, bind, Except.bind]
    have hacc : (rxHandler env ty).account env { r with plaintext := q }
        ((rxHandler env ty).verdict { r with plaintext := q }) =
        (rxHandler env ty).account env r ((rxHandler env ty).verdict r) := rfl
    rw [hacc]
    cases (rxHandler env ty).account env r ((rxHandler env ty).verdict r) with
    | error e => rfl
    | ok w' =>
      have hcon : (rxHandler env ty).conclude env w' { r with plaintext := q }
          ((rxHandler env ty).verdict { r with plaintext := q }) lay =
          (rxHandler env ty).conclude env w' r ((rxHandler env ty).verdict r) lay := rfl
      simp only [hcon]
      cases (rxHandler env ty).conclude env w' r ((rxHandler env ty).verdict r) lay <;> rfl

/-! ## Frames on which the two lengths agree -/

/-- For every frame of the burst the length check has the same answer from `e`
and from `e'` on. -/
def Agree (env : Env C D) (ty : FrameType) : UInt64 → UInt64 → List Mbuf → Prop
  | _, _, [] => True
  | e, e', m :: ms =>
    (typeOk env ty m = true → (m.len = e - lowers ty m ↔ m.len = e' - lowers ty m)) ∧
      Agree env ty (e - lowers ty m) (e' - lowers ty m) ms

/-- The frames accepted from `e` on are covered by their decrypted bytes. -/
def CoversAll (env : Env C D) (ty : FrameType) : UInt64 → List Mbuf → Prop
  | _, [] => True
  | e, m :: ms =>
    (typeOk env ty m = true → m.len = e - lowers ty m → Covers env ty m) ∧
      CoversAll env ty (e - lowers ty m) ms

def StepAlike : Except Stop (RxState C D × Option Mbuf) →
    Except Stop (RxState C D × Option Mbuf) → Prop
  | .ok p, .ok p' => Alike p.1 p'.1 ∧ p.2 = p'.2
  | .error e, .error e' => e.reason = e'.reason ∧ e.log.map text = e'.log.map text
  | _, _ => False

theorem Alike.say {s s' : RxState C D} (h : Alike s s') (x x' : LogEntry) (hx : text x = text x')
    (e e' : UInt64) (p p' : Mem UInt8) :
    Alike (C := C) (D := D) ⟨s.world.say [x], e, p⟩ ⟨s'.world.say [x'], e', p'⟩ where
  mute_eq := h.mute_eq
  text_eq := by simp [h.text_eq, hx]

/-- Accepting a frame from states that are alike. -/
theorem accept_alike (env : Env C D) (ty : FrameType) (hfill : env.app.mode ty = .ae → Fills env.evp)
    {s s' : RxState C D} (h : Alike s s') (m : Mbuf) (lay : Layout) (hcov : Covers env ty m)
    (e e' : UInt64) :
    StepAlike
      (do let r ← (rxHandler env ty).accept env s.world s.plaintext m lay
          .ok (⟨r.world, e, r.plaintext⟩, r.dropped))
      (do let r ← (rxHandler env ty).accept env s'.world s'.plaintext m lay
          .ok (⟨r.world, e', r.plaintext⟩, r.dropped)) := by
  have hs := accept_relog env ty s.world.log (mute s.world) s.plaintext m lay
  have hs' := accept_relog env ty s'.world.log (mute s'.world) s'.plaintext m lay
  obtain ⟨q, hq⟩ :=
    accept_plaintext env ty (mute s.world) s.plaintext s'.plaintext m lay hfill hcov
  rw [logged_mute] at hs hs'
  rw [← h.mute_eq, hq] at hs'
  rw [hs, hs']
  cases (rxHandler env ty).accept env (mute s.world) s.plaintext m lay with
  | error x => exact ⟨rfl, by simp [h.text_eq]⟩
  | ok r => exact ⟨⟨rfl, by simp [Handled.logged, h.text_eq]⟩, rfl⟩

/-- One pass of the loop body keeps states alike if the length check agrees. -/
theorem rxOne_alike (env : Env C D) (ty : FrameType) (hv : isVlan ty = true)
    (hfill : env.app.mode ty = .ae → Fills env.evp) {s s' : RxState C D} (h : Alike s s') (m : Mbuf)
    (hagree : typeOk env ty m = true → (m.len = s.expectedFrameLength - lowers ty m ↔
      m.len = s'.expectedFrameLength - lowers ty m))
    (hcov : typeOk env ty m = true → m.len = s'.expectedFrameLength - lowers ty m →
      Covers env ty m) :
    StepAlike (rxOne env (rxHandler env ty) s m) (rxOne env (rxHandler env ty) s' m) := by
  obtain ⟨refuse, wrong, hw, hc⟩ := check_vlan env ty hv
  simp only [rxOne, hc, checked]
  cases ht : typeOk env ty m with
  | false => exact ⟨h.say _ _ rfl _ _ _ _, rfl⟩
  | true =>
    by_cases hl : m.len = s'.expectedFrameLength - lowers ty m
    · simp only [if_true, if_pos hl, if_pos ((hagree ht).mpr hl)]
      exact accept_alike env ty hfill h m (layoutOf m) (hcov ht hl) _ _
    · have hl' : m.len ≠ s.expectedFrameLength - lowers ty m := fun he => hl ((hagree ht).mp he)
      simp only [if_true, if_neg hl, if_neg hl']
      exact ⟨h.say _ _ (by rw [hw, hw]) _ _ _ _, rfl⟩

theorem rxOne_expected (env : Env C D) (ty : FrameType) (hv : isVlan ty = true)
    {s t : RxState C D} {m : Mbuf} {d : Option Mbuf}
    (h : rxOne env (rxHandler env ty) s m = .ok (t, d)) :
    t.expectedFrameLength = s.expectedFrameLength - lowers ty m := by
  obtain ⟨refuse, wrong, -, hc⟩ := check_vlan env ty hv
  simp only [rxOne, hc] at h
  cases hk : checked env ty refuse wrong (s.expectedFrameLength - lowers ty m) m with
  | error entry =>
    rw [hk] at h
    cases h
    rfl
  | ok lay =>
    rw [hk] at h
    simp only [bind, Except.bind] at h
    split at h
    · cases h
    · cases h
      rfl

theorem rxBurst_expected (env : Env C D) (ty : FrameType) (hv : isVlan ty = true)
    (ms : List Mbuf) {s t : RxState C D} {fs : List Mbuf}
    (h : rxBurst env (rxHandler env ty) s ms = .ok (t, fs)) :
    t.expectedFrameLength = s.expectedFrameLength - lowered ty ms := by
  induction ms generalizing s fs with
  | nil =>
    cases h
    simp [lowered]
  | cons m ms ih =>
    obtain ⟨s', d, gs, hone, hrest, rfl⟩ := rxBurst_cons_ok h
    rw [ih hrest, rxOne_expected env ty hv hone, lowered]
    grind

/-- Agreement gives the same outcome. -/
theorem observe_of_agree (env : Env C D) (ty : FrameType) (hv : isVlan ty = true)
    (hfill : env.app.mode ty = .ae → Fills env.evp) (ms : List Mbuf) {s s' : RxState C D}
    (h : Alike s s') (hagree : Agree env ty s.expectedFrameLength s'.expectedFrameLength ms)
    (hcov : CoversAll env ty s'.expectedFrameLength ms) :
    observe (outcome (rxBurst env (rxHandler env ty) s ms)) =
      observe (outcome (rxBurst env (rxHandler env ty) s' ms)) := by
  induction ms generalizing s s' with
  | nil => simp [rxBurst, outcome, observe, Except.map, h.mute_eq, h.text_eq]
  | cons m ms ih =>
    have hstep := rxOne_alike env ty hv hfill h m hagree.1 hcov.1
    simp only [rxBurst]
    cases hone : rxOne env (rxHandler env ty) s m with
    | error x =>
      cases hone' : rxOne env (rxHandler env ty) s' m with
      | error x' =>
        rw [hone, hone'] at hstep
        simp [bind, Except.bind, outcome, Except.map, observe, hstep.1, hstep.2]
      | ok p' =>
        rw [hone, hone'] at hstep
        exact hstep.elim
    | ok p =>
      cases hone' : rxOne env (rxHandler env ty) s' m with
      | error x' =>
        rw [hone, hone'] at hstep
        exact hstep.elim
      | ok p' =>
        rw [hone, hone'] at hstep
        have hrest := ih hstep.1
          (by rw [rxOne_expected env ty hv hone, rxOne_expected env ty hv hone']; exact hagree.2)
          (by rw [rxOne_expected env ty hv hone']; exact hcov.2)
        simp only [bind, Except.bind, hstep.2]
        cases hb : rxBurst env (rxHandler env ty) p.1 ms with
        | error x =>
          cases hb' : rxBurst env (rxHandler env ty) p'.1 ms with
          | error x' =>
            rw [hb, hb'] at hrest
            exact hrest
          | ok q' =>
            rw [hb, hb'] at hrest
            cases hrest
        | ok q =>
          cases hb' : rxBurst env (rxHandler env ty) p'.1 ms with
          | error x' =>
            rw [hb, hb'] at hrest
            cases hrest
          | ok q' =>
            rw [hb, hb'] at hrest
            simp only [outcome, Except.map, observe, Except.ok.injEq, Prod.mk.injEq] at hrest ⊢
            exact ⟨hrest.1, by rw [hrest.2.1], hrest.2.2⟩

/-! ## The first log call tells a refused frame from an accepted one -/

/-- The log does not start with the complaint about a wrong length. -/
def Unlike (ty : FrameType) (l : List LogEntry) : Prop :=
  ∀ x, l.head? = some x → text x ≠ (.warning, wrongLengthFormat ty)

theorem Unlike.append {ty : FrameType} {l : List LogEntry} (h : Unlike ty l) (hne : l ≠ [])
    (l' : List LogEntry) : Unlike ty (l ++ l') := by
  intro x hx
  cases l with
  | nil => exact absurd rfl hne
  | cons y ys => exact h x hx

theorem complain_unlike (ty : FrameType) (ret : Int) (entry : LogEntry)
    (h : text entry ≠ (.warning, wrongLengthFormat ty)) : Unlike ty (complain ret entry) := by
  intro x hx
  unfold complain at hx
  split at hx
  · cases hx
  · cases hx
    exact h

theorem profinetDecode_unlike (env : Env C D) (c : ClassConfig) (ty : FrameType)
    (ao ae : UInt64 → LogEntry) (hao : ∀ n, text (ao n) ≠ (.warning, wrongLengthFormat ty))
    (hae : ∀ n, text (ae n) ≠ (.warning, wrongLengthFormat ty)) (w : World C D) (hw : w.log = [])
    (p : Mem UInt8) (m : Mbuf) (lay : Layout) :
    match profinetDecode env c ao ae w p m lay with
    | .ok r => Unlike ty r.world.log
    | .error e => Unlike ty e.log := by
  unfold profinetDecode
  cases c.securityMode with
  | none => simp [plainDecode, Unlike, hw]
  | ao =>
    simp only [aoDecode, World.sealed, World.tick_log, hw, List.nil_append]
    exact complain_unlike ty _ _ (hao _)
  | ae =>
    simp only [aeDecode, World.sealed, World.tick_log, hw, List.nil_append]
    generalize sealPayload env.evp _ _ _ _ _ _ _ _ _ = sealing
    cases sealing with
    | error reason => exact complain_unlike ty _ _ (hae _)
    | ok again => exact complain_unlike ty _ _ (hae _)

theorem decode_unlike (env : Env C D) (ty : FrameType) (hv : isVlan ty = true) (w : World C D)
    (hw : w.log = []) (p : Mem UInt8) (m : Mbuf) (lay : Layout) :
    match (rxHandler env ty).decode w p m lay with
    | .ok r => Unlike ty r.world.log
    | .error e => Unlike ty e.log := by
  have hfmt {f : String} (h : f ≠ wrongLengthFormat ty) (args : List LogArg) :
      text (warning f args) ≠ (.warning, wrongLengthFormat ty) := by
    intro he
    exact h (Prod.mk.inj he).2
  cases ty with
  | tsnHigh =>
    exact profinetDecode_unlike env _ _ _ _ (fun _ => hfmt (by decide) _)
      (fun _ => hfmt (by decide) _) w hw p m lay
  | tsnLow =>
    exact profinetDecode_unlike env _ _ _ _ (fun _ => hfmt (by decide) _)
      (fun _ => hfmt (by decide) _) w hw p m lay
  | rtc =>
    exact profinetDecode_unlike env _ _ _ _ (fun _ => hfmt (by decide) _)
      (fun _ => hfmt (by decide) _) w hw p m lay
  | rta =>
    exact profinetDecode_unlike env _ _ _ _ (fun _ => hfmt (by decide) _)
      (fun _ => hfmt (by decide) _) w hw p m lay
  | dcp => simp [rxHandler, dcpRxFrame, plainDecode, Unlike, hw]
  | l2 => simp [rxHandler, l2RxFrame, plainDecode, Unlike, hw]
  | lldp => cases hv
  | udpHigh => cases hv
  | udpLow => cases hv

/-- `stat_frame_received` starts with a log call on the debug level. -/
theorem statFrameReceived_log (cfg : StatConfig) (st : StatPrivate) (ty : FrameType) (n : UInt64)
    (o p f : Bool) (ts now : UInt64) :
    ∃ l, (statFrameReceived cfg st ty n o p f ts now).log =
      ⟨.debug, "%s: frame[%lu] received\n", [.str ty.name, .num n]⟩ :: l := by
  unfold statFrameReceived
  simp only
  split
  · exact ⟨[], rfl⟩
  · exact ⟨_, rfl⟩

theorem account_log (env : Env C D) (h : RxHandler C D) (r : Received C D) (v : Verdict) :
    ∃ x l, text x = (.debug, "%s: frame[%lu] received\n") ∧
      match h.account env r v with
      | .ok w => w.log = r.world.log ++ x :: l
      | .error e => e.log = r.world.log ++ x :: l := by
  obtain ⟨l, hl⟩ := statFrameReceived_log env.statConfig r.world.stat h.ty r.sequenceCounter
    v.outOfOrder v.payloadMismatch v.frameIdMismatch r.txTimestamp (r.world.now env)
  refine ⟨⟨.debug, "%s: frame[%lu] received\n", [.str h.ty.name, .num r.sequenceCounter]⟩, l, rfl, ?_⟩
  unfold RxHandler.account World.applyStat
  rw [hl]
  split
  · rename_i w' h'
    split at h'
    · cases h'
    · cases h'
      rfl
  · rename_i e h'
    split at h'
    · cases h'
      rfl
    · cases h'

theorem forward_log (env : Env C D) (ty : FrameType) (w : World C D) (m : Mbuf) (lay : Layout) :
    ((rxHandler env ty).forward w m lay).1.log = w.log := by
  cases ty <;> rfl

theorem conclude_log (env : Env C D) (ty : FrameType) (w : World C D) (r : Received C D)
    (v : Verdict) (lay : Layout) :
    ∃ l, match (rxHandler env ty).conclude env w r v lay with
      | .ok p => p.1.log = w.log ++ l
      | .error e => e.log = w.log ++ l := by
  unfold RxHandler.conclude
  cases v.frameIdMismatch with
  | true => exact ⟨_, rfl⟩
  | false =>
    cases v.outOfOrder with
    | true =>
      cases (rxHandler env ty).resync
      · exact ⟨_, rfl⟩
      · exact ⟨_, rfl⟩
    | false =>
      cases v.payloadMismatch with
      | true =>
        cases hp : (rxHandler env ty).payloadText r.sequenceCounter r.payload with
        | ok entry => exact ⟨[entry], by simp⟩
        | error reason => exact ⟨[], by simp⟩
      | false =>
        cases env.mirrorMode
        · exact ⟨[], by simp⟩
        · exact ⟨[], by simp [forward_log]⟩

theorem accept_unlike (env : Env C D) (ty : FrameType) (hv : isVlan ty = true) (w : World C D)
    (hw : w.log = []) (p : Mem UInt8) (m : Mbuf) (lay : Layout) :
    match (rxHandler env ty).accept env w p m lay with
    | .ok r => Unlike ty r.world.log ∧ r.world.log ≠ []
    | .error e => Unlike ty e.log := by
  have hd := decode_unlike env ty hv w hw p m lay
  unfold RxHandler.accept
  cases hdec : (rxHandler env ty).decode w p m lay with
  | error e =>
    rw [hdec] at hd
    exact hd
  | ok r =>
    rw [hdec] at hd
    simp only [bind, Except.bind] at hd ⊢
    obtain ⟨x, l, hx, hacc⟩ := account_log env (rxHandler env ty) r ((rxHandler env ty).verdict r)
    have hne : r.world.log ++ x :: l ≠ [] := by simp
    have hun : Unlike ty (r.world.log ++ x :: l) := by
      intro y hy
      cases hr : r.world.log with
      | nil =>
        rw [hr] at hy
        cases hy
        rw [hx]
        exact fun he => by cases (Prod.mk.inj he).1
      | cons z zs =>
        rw [hr] at hy hd
        exact hd y hy
    cases ha : (rxHandler env ty).account env r ((rxHandler env ty).verdict r) with
    | error e =>
      rw [ha] at hacc
      simp only at hacc ⊢
      rw [hacc]
      exact hun
    | ok w' =>
      rw [ha] at hacc
      simp only at hacc ⊢
      obtain ⟨l', hcon⟩ := conclude_log env ty w' r ((rxHandler env ty).verdict r) lay
      cases hc : (rxHandler env ty).conclude env w' r ((rxHandler env ty).verdict r) lay with
      | error e =>
        rw [hc] at hcon
        simp only at hcon ⊢
        rw [hcon, hacc]
        exact hun.append hne l'
      | ok q =>
        rw [hc] at hcon
        simp only at hcon ⊢
        rw [hcon, hacc]
        exact ⟨hun.append hne l', by simp⟩

theorem rxBurst_log (env : Env C D) (ty : FrameType) (s : RxState C D) (ms : List Mbuf) :
    ∃ l, logOf (rxBurst env (rxHandler env ty) s ms) = s.world.log ++ l := by
  have h := rxBurst_relog env ty s.world.log ms ⟨mute s.world, s.expectedFrameLength, s.plaintext⟩
  rw [RxState.logged, logged_mute] at h
  rw [h]
  cases rxBurst env (rxHandler env ty) ⟨mute s.world, s.expectedFrameLength, s.plaintext⟩ ms with
  | error e => exact ⟨e.log, rfl⟩
  | ok p => exact ⟨p.1.world.log, rfl⟩

theorem rxBurst_cons_log (env : Env C D) (ty : FrameType) {s t : RxState C D} {m : Mbuf}
    {d : Option Mbuf} (ms : List Mbuf) (h : rxOne env (rxHandler env ty) s m = .ok (t, d)) :
    logOf (rxBurst env (rxHandler env ty) s (m :: ms)) =
      logOf (rxBurst env (rxHandler env ty) t ms) := by
  simp only [rxBurst, h, bind, Except.bind]
  cases rxBurst env (rxHandler env ty) t ms <;> rfl

/-- If the length check refuses the first frame from `s` and lets it pass from
`s'`, the log calls of the two bursts differ. -/
theorem texts_ne (env : Env C D) (ty : FrameType) (hv : isVlan ty = true) {s s' : RxState C D}
    (h : Alike s s') (m : Mbuf) (ms : List Mbuf) (ht : typeOk env ty m = true)
    (hl : m.len ≠ s.expectedFrameLength - lowers ty m)
    (hl' : m.len = s'.expectedFrameLength - lowers ty m) :
    (logOf (rxBurst env (rxHandler env ty) s (m :: ms))).map text ≠
      (logOf (rxBurst env (rxHandler env ty) s' (m :: ms))).map text := by
  obtain ⟨refuse, wrong, hw, hc⟩ := check_vlan env ty hv
  have hone : rxOne env (rxHandler env ty) s m =
      .ok (⟨s.world.say [wrong m.len (s.expectedFrameLength - lowers ty m)],
        s.expectedFrameLength - lowers ty m, s.plaintext⟩, some m) := by
    simp only [rxOne, hc, checked, ht, if_true, if_neg hl]
  obtain ⟨l, hlog⟩ := rxBurst_log env ty
    ⟨s.world.say [wrong m.len (s.expectedFrameLength - lowers ty m)],
      s.expectedFrameLength - lowers ty m, s.plaintext⟩ ms
  rw [rxBurst_cons_log env ty ms hone, hlog]
  have hacc := accept_unlike env ty hv (mute s'.world) rfl s'.plaintext m (layoutOf m)
  have hrel := accept_relog env ty s'.world.log (mute s'.world) s'.plaintext m (layoutOf m)
  rw [logged_mute] at hrel
  have hother : ∃ l', Unlike ty l' ∧
      logOf (rxBurst env (rxHandler env ty) s' (m :: ms)) = s'.world.log ++ l' := by
    simp only [rxBurst, rxOne, hc, checked, ht, if_true, if_pos hl', hrel]
    cases ha : (rxHandler env ty).accept env (mute s'.world) s'.plaintext m (layoutOf m) with
    | error e =>
      rw [ha] at hacc
      exact ⟨e.log, hacc, rfl⟩
    | ok r =>
      rw [ha] at hacc
      simp only [relog, bind, Except.bind]
      obtain ⟨l', hl'⟩ := rxBurst_log env ty
        ⟨(Handled.logged s'.world.log r).world, s'.expectedFrameLength - lowers ty m,
          (Handled.logged s'.world.log r).plaintext⟩ ms
      refine ⟨r.world.log ++ l', hacc.1.append hacc.2 l', ?_⟩
      cases hb : rxBurst env (rxHandler env ty) ⟨(Handled.logged s'.world.log r).world,
          s'.expectedFrameLength - lowers ty m, (Handled.logged s'.world.log r).plaintext⟩ ms with
      | error e =>
        rw [hb] at hl'
        simpa [logOf, Handled.logged] using hl'
      | ok q =>
        rw [hb] at hl'
        simpa [logOf, Handled.logged] using hl'
  obtain ⟨l', hun, hlog'⟩ := hother
  rw [hlog']
  intro heq
  simp only [World.say_log, List.map_append, h.text_eq, List.append_assoc,
    List.append_cancel_left_eq, List.map_cons, List.map_nil, List.cons_append, hw] at heq
  cases l' with
  | nil => cases heq
  | cons x xs => exact hun x rfl (List.cons.inj heq).1.symm

theorem observe_texts {x x' : Except Stop (RxState C D × List Mbuf)}
    (h : observe (outcome x) = observe (outcome x')) :
    (logOf x).map text = (logOf x').map text := by
  cases x with
  | error e =>
    cases x' with
    | error e' =>
      simp only [outcome, Except.map, observe, Except.error.injEq, Prod.mk.injEq] at h
      exact h.2
    | ok p' => cases h
  | ok p =>
    cases x' with
    | error e' => cases h
    | ok p' =>
      simp only [outcome, Except.map, observe, Except.ok.injEq, Prod.mk.injEq] at h
      exact h.2.2

/-- The same outcome of a burst that returns gives agreement. -/
theorem agree_of_observe (env : Env C D) (ty : FrameType) (hv : isVlan ty = true)
    (hfill : env.app.mode ty = .ae → Fills env.evp) (ms : List Mbuf) {s s' t : RxState C D}
    {fs : List Mbuf} (h : Alike s s') (hcov : CoversAll env ty s'.expectedFrameLength ms)
    (hret : rxBurst env (rxHandler env ty) s ms = .ok (t, fs))
    (hobs : observe (outcome (rxBurst env (rxHandler env ty) s ms)) =
      observe (outcome (rxBurst env (rxHandler env ty) s' ms))) :
    Agree env ty s.expectedFrameLength s'.expectedFrameLength ms := by
  induction ms generalizing s s' fs with
  | nil => trivial
  | cons m ms ih =>
    have htexts := observe_texts hobs
    have hagree : typeOk env ty m = true → (m.len = s.expectedFrameLength - lowers ty m ↔
        m.len = s'.expectedFrameLength - lowers ty m) := by
      intro ht
      by_cases hl : m.len = s.expectedFrameLength - lowers ty m
      · by_cases hl' : m.len = s'.expectedFrameLength - lowers ty m
        · exact ⟨fun _ => hl', fun _ => hl⟩
        · exact absurd htexts.symm (texts_ne env ty hv ⟨h.mute_eq.symm, h.text_eq.symm⟩ m ms ht hl' hl)
      · by_cases hl' : m.len = s'.expectedFrameLength - lowers ty m
        · exact absurd htexts (texts_ne env ty hv h m ms ht hl hl')
        · exact ⟨fun he => absurd he hl, fun he => absurd he hl'⟩
    refine ⟨hagree, ?_⟩
    obtain ⟨s₁, d, gs, hone, hrest, rfl⟩ := rxBurst_cons_ok hret
    have hstep := rxOne_alike env ty hv hfill h m hagree hcov.1
    cases hone' : rxOne env (rxHandler env ty) s' m with
    | error e =>
      rw [hone, hone'] at hstep
      exact hstep.elim
    | ok p' =>
      rw [hone, hone'] at hstep
      have he := rxOne_expected env ty hv hone
      have he' := rxOne_expected env ty hv hone'
      have hd : d = p'.2 := hstep.2
      have hsame : observe (outcome (rxBurst env (rxHandler env ty) s₁ ms)) =
          observe (outcome (rxBurst env (rxHandler env ty) p'.1 ms)) := by
        simp only [rxBurst, hone, hone', bind, Except.bind, hrest] at hobs ⊢
        cases hb' : rxBurst env (rxHandler env ty) p'.1 ms with
        | error e =>
          rw [hb'] at hobs
          cases hobs
        | ok q' =>
          rw [hb'] at hobs
          simp only [outcome, Except.map, observe, Except.ok.injEq, Prod.mk.injEq, hd,
            List.append_cancel_left_eq] at hobs ⊢
          exact hobs
      have hrec := ih hstep.1 (by rw [he']; exact hcov.2) hrest hsame
      rw [he, he'] at hrec
      exact hrec

/-! ## One call or two -/

/-- Two calls of the handler, with whatever the stack buffer holds each time. -/
def rxTwice (env : Env C D) (ty : FrameType) (stack stack' : Mem UInt8) (w : World C D)
    (xs ys : List Mbuf) : Except Stop (World C D × List Mbuf) := do
  let (w, fs) ← rxFrame env ty stack w xs
  let (w, gs) ← rxFrame env ty stack' w ys
  .ok (w, fs ++ gs)

/-- For every frame `y` of `ys` with the class's type, the length check has the
same answer whether or not the untagged frames of `xs` are counted. -/
def LengthsAgree (env : Env C D) (ty : FrameType) (xs ys : List Mbuf) : Prop :=
  ∀ pre y post, ys = pre ++ y :: post → typeOk env ty y = true →
    (y.len = (env.app.cls ty).frameLength - lowered ty (xs ++ pre ++ [y]) ↔
      y.len = (env.app.cls ty).frameLength - lowered ty (pre ++ [y]))

/-- In AE mode the payload of each frame of `ys` that passes the length check is
at least as long as the pattern, so only decrypted bytes are compared. -/
def PayloadCovered (env : Env C D) (ty : FrameType) (ys : List Mbuf) : Prop :=
  ∀ pre y post, ys = pre ++ y :: post → typeOk env ty y = true →
    y.len = (env.app.cls ty).frameLength - lowered ty (pre ++ [y]) → Covers env ty y

theorem lowered_append (ty : FrameType) (xs ys : List Mbuf) :
    lowered ty (xs ++ ys) = lowered ty xs + lowered ty ys := by
  induction xs with
  | nil => simp [lowered]
  | cons x xs ih => simp only [List.cons_append, lowered, ih, UInt64.add_assoc]

theorem agree_iff (env : Env C D) (ty : FrameType) (ys : List Mbuf) (e e' : UInt64) :
    Agree env ty e e' ys ↔ ∀ pre y post, ys = pre ++ y :: post → typeOk env ty y = true →
      (y.len = e - lowered ty (pre ++ [y]) ↔ y.len = e' - lowered ty (pre ++ [y])) := by
  induction ys generalizing e e' with
  | nil => simp [Agree]
  | cons m ms ih =>
    have hshift (a : UInt64) (pre : List Mbuf) (y : Mbuf) :
        a - lowered ty (m :: pre ++ [y]) = a - lowers ty m - lowered ty (pre ++ [y]) := by
      simp only [List.cons_append, lowered]
      grind
    constructor
    · rintro ⟨hm, hrest⟩ pre y post hsplit ht
      cases pre with
      | nil =>
        obtain ⟨rfl, rfl⟩ := List.cons.inj hsplit
        simpa [lowered] using hm ht
      | cons z pre =>
        obtain ⟨rfl, rfl⟩ := List.cons.inj hsplit
        rw [hshift, hshift]
        exact (ih _ _).mp hrest pre y post rfl ht
    · intro h
      refine ⟨fun ht => ?_, (ih _ _).mpr fun pre y post hsplit ht => ?_⟩
      · simpa [lowered] using h [] m ms rfl ht
      · rw [← hshift, ← hshift]
        exact h (m :: pre) y post (by rw [hsplit]; rfl) ht

theorem coversAll_of_covered (env : Env C D) (ty : FrameType) (ys : List Mbuf) (e : UInt64)
    (h : ∀ pre y post, ys = pre ++ y :: post → typeOk env ty y = true →
      y.len = e - lowered ty (pre ++ [y]) → Covers env ty y) : CoversAll env ty e ys := by
  induction ys generalizing e with
  | nil => trivial
  | cons m ms ih =>
    refine ⟨fun ht hl => h [] m ms rfl ht (by simpa [lowered] using hl), ih _ ?_⟩
    intro pre y post hsplit ht hl
    apply h (m :: pre) y post (by rw [hsplit]; rfl) ht
    rw [hl]
    simp only [List.cons_append, lowered]
    grind

/-- **Burst partition.**  One call on `xs ++ ys` has the outcome of two calls,
on `xs` and on `ys`, if the length check of every frame of `ys` does not depend
on the untagged frames of `xs`; and only then, unless the process ends. -/
theorem rxFrame_append_iff (env : Env C D) (ty : FrameType) (hv : isVlan ty = true)
    (stack stack' : Mem UInt8) (w : World C D) (xs ys : List Mbuf)
    (hfill : env.app.mode ty = .ae → Fills env.evp) (hcov : PayloadCovered env ty ys) :
    (LengthsAgree env ty xs ys →
      observe (rxFrame env ty stack w (xs ++ ys)) =
        observe (rxTwice env ty stack stack' w xs ys)) ∧
    ((∃ r, rxFrame env ty stack w (xs ++ ys) = .ok r) →
      observe (rxFrame env ty stack w (xs ++ ys)) =
        observe (rxTwice env ty stack stack' w xs ys) → LengthsAgree env ty xs ys) := by
  simp only [rxTwice, rxFrame, rxFrames_eq_rxBurst, rxBurst_append]
  have hlengths (t : RxState C D) (ht : t.expectedFrameLength =
      (env.app.cls ty).frameLength - lowered ty xs) :
      LengthsAgree env ty xs ys ↔
        Agree env ty t.expectedFrameLength (env.app.cls ty).frameLength ys := by
    rw [agree_iff, ht]
    have hsub (pre : List Mbuf) (y : Mbuf) :
        (env.app.cls ty).frameLength - lowered ty (xs ++ pre ++ [y]) =
          (env.app.cls ty).frameLength - lowered ty xs - lowered ty (pre ++ [y]) := by
      rw [List.append_assoc, lowered_append]
      grind
    simp only [LengthsAgree, hsub]
  cases hx : rxBurst env (rxHandler env ty) ⟨w, (env.app.cls ty).frameLength, stack⟩ xs with
  | error e => exact ⟨fun _ => rfl, fun ⟨r, hr⟩ => by cases hr⟩
  | ok p =>
    obtain ⟨t, fs⟩ := p
    have ht := rxBurst_expected env ty hv xs hx
    have hcall := coversAll_of_covered env ty ys _ hcov
    have halike : Alike t ⟨t.world, (env.app.cls ty).frameLength, stack'⟩ := ⟨rfl, rfl⟩
    have hiff := hlengths t ht
    simp only [bind, Except.bind, Except.map]
    constructor
    · intro hag
      have hobs := observe_of_agree env ty hv hfill ys halike (hiff.mp hag) hcall
      cases hb : rxBurst env (rxHandler env ty) t ys with
      | error e =>
        cases hb' : rxBurst env (rxHandler env ty)
            ⟨t.world, (env.app.cls ty).frameLength, stack'⟩ ys with
        | error e' =>
          rw [hb, hb'] at hobs
          exact hobs
        | ok q' =>
          rw [hb, hb'] at hobs
          cases hobs
      | ok q =>
        cases hb' : rxBurst env (rxHandler env ty)
            ⟨t.world, (env.app.cls ty).frameLength, stack'⟩ ys with
        | error e' =>
          rw [hb, hb'] at hobs
          cases hobs
        | ok q' =>
          rw [hb, hb'] at hobs
          simp only [outcome, Except.map, observe, Except.ok.injEq, Prod.mk.injEq] at hobs ⊢
          exact ⟨hobs.1, by rw [hobs.2.1], hobs.2.2⟩
    · rintro ⟨r, hr⟩ hobs
      rw [hiff]
      cases hb : rxBurst env (rxHandler env ty) t ys with
      | error e =>
        rw [hb] at hr
        cases hr
      | ok q =>
        refine agree_of_observe env ty hv hfill ys halike hcall hb ?_
        rw [hb] at hobs ⊢
        cases hb' : rxBurst env (rxHandler env ty)
            ⟨t.world, (env.app.cls ty).frameLength, stack'⟩ ys with
        | error e' =>
          rw [hb'] at hobs
          cases hobs
        | ok q' =>
          rw [hb'] at hobs
          simp only [outcome, Except.map, observe, Except.ok.injEq, Prod.mk.injEq,
            List.append_cancel_left_eq] at hobs ⊢
          exact hobs

/-! A TSN receiver for frames of 40 bytes, one per cycle: the first frame
arrives with its tag stripped, the second with its tag. -/

def smallReceiver : Env DigestCtx Unit := Env.small (AppConfig.small .none 40 1 []) true

def freshReceiver : World DigestCtx Unit := World.fresh smallReceiver .tsnHigh DigestCtx.fresh ()

def strippedFrame (cycle : UInt8) : Mbuf :=
  ⟨0, write (fun _ => 0) 12 [0x88, 0x92, 0x01, 0x00, 0, 0, 0, 0, 0, 0, 0, cycle], 36, 36⟩

def taggedFrame (cycle : UInt8) : Mbuf :=
  ⟨1, write (fun _ => 0) 12
    [0x81, 0x00, 0, 100, 0x88, 0x92, 0x01, 0x00, 0, 0, 0, 0, 0, 0, 0, cycle], 40, 40⟩

/-- Received frames and next expected counter of a TSN receiver. -/
def progress (x : Except Stop (World DigestCtx Unit × List Mbuf)) : Option (UInt64 × UInt64) :=
  x.toOption.map fun r =>
    ((r.1.stat.globalStatistics .tsnHigh).framesReceived, r.1.thread.rxSequenceCounter)

theorem rxFrame_append_iff_tagged :
    LengthsAgree smallReceiver .tsnHigh [taggedFrame 0] [taggedFrame 1] ∧
      observe (rxFrame smallReceiver .tsnHigh (fun _ => 0) freshReceiver
          ([taggedFrame 0] ++ [taggedFrame 1])) =
        observe (rxTwice smallReceiver .tsnHigh (fun _ => 0) (fun _ => 0) freshReceiver
          [taggedFrame 0] [taggedFrame 1]) := by
  have hag : LengthsAgree smallReceiver .tsnHigh [taggedFrame 0] [taggedFrame 1] := by
    intro pre y post _ _
    have hx : lowered .tsnHigh [taggedFrame 0] = 0 := by decide +kernel
    rw [List.append_assoc, lowered_append, hx, UInt64.zero_add]
  exact ⟨hag, (rxFrame_append_iff smallReceiver .tsnHigh rfl (fun _ => 0) (fun _ => 0) freshReceiver
    [taggedFrame 0] [taggedFrame 1] (fun h => by cases h)
    (fun _ _ _ _ _ _ h => by cases h)).1 hag⟩

/-- One call counts one frame and refuses the tagged one for its length; two
calls count both. -/
theorem rxFrame_append_stripped :
    progress (rxFrame smallReceiver .tsnHigh (fun _ => 0) freshReceiver
        ([strippedFrame 0] ++ [taggedFrame 1])) = some (1, 1) ∧
      progress (rxTwice smallReceiver .tsnHigh (fun _ => 0) (fun _ => 0) freshReceiver
        [strippedFrame 0] [taggedFrame 1]) = some (2, 2) := by
  decide +kernel

end Rtdk.Partition
