import Mathlib.Data.List.Induction
import Rtdk.Judge

/-! Streams with gaps.

The frames of a class arrive with arbitrary counters, mixed with strays of
another type or length, and are handed to the class's handler in bursts of any
size. `bursts_treated` follows a handler through such a stream. All classes but
DCP resynchronise after a gap, so each gap is reported once (`gaps_exact`); DCP
waits for the missing frame, and accepts nothing but the frames that continue
from where it stands (`dcp_recovers_iff`).

A stray can hurt the frames behind it in its burst: an untagged frame lowers
the expected length, whatever becomes of the frame itself. -/

namespace Rtdk.Gaps
open Rtdk.Memory Rtdk.Endian Rtdk.NetDef Rtdk.Security Rtdk.Stat Rtdk.Lport Rtdk.Config Rtdk.Frame
open Rtdk.Thread Rtdk.Receive Rtdk.Handlers Rtdk.Checks Rtdk.Builder Rtdk.Decode Rtdk.Generate
open Rtdk.Lossless Rtdk.Mirror Rtdk.Conserve Rtdk.Judge Rtdk.Runs

variable {C D : Type}

/-! ## Frames -/

/-- The EtherType of the classes without a tag. Their handlers do not look at it. -/
def bareProto : FrameType → UInt16
  | .lldp => ethPLldp
  | _ => ethPIp

def rightType (env : Env C D) (ty : FrameType) (m : Mbuf) : Bool :=
  if isVlan ty then typeOk env ty m else decide (read16 m.data 12 = bareProto ty)

/-- The configured length, less the tag where it is missing. -/
def rightLength (env : Env C D) (ty : FrameType) (m : Mbuf) : Bool :=
  decide (m.len = (env.app.cls ty).frameLength - if isVlan ty && !m.tagged then 4 else 0)

/-- A frame of the class as it is sent: type, length, frame id and payload are right. -/
def valid (env : Env C D) (ty : FrameType) (m : Mbuf) : Bool :=
  (!isVlan ty || m.tagged) && rightType env ty m && rightLength env ty m &&
    (!isProfinet ty || decide (read16 m.data 18 = frameId ty (env.app.mode ty))) &&
    decide (slice m.data (payloadOff env.app ty) (env.app.cls ty).payloadPattern.length =
      (env.app.cls ty).payloadPattern)

/-- A frame of another type or with a wrong length. -/
def stray (env : Env C D) (ty : FrameType) (m : Mbuf) : Bool :=
  !rightType env ty m || !rightLength env ty m

/-- The counter of a frame of the class. -/
def counter (env : Env C D) (ty : FrameType) (m : Mbuf) : UInt64 :=
  metaDataToSequenceCounter m.data (getMetaDataOffset ty (env.app.mode ty))
    (env.app.cls ty).numFramesPerCycle

/-! ## Calls of the handler -/

/-- Several calls of the class's handler, one for each burst; the stack buffer
of each call holds anything. The mbufs freed by the calls are listed in order. -/
def rxCalls (env : Env C D) (ty : FrameType) :
    World C D → List (Mem UInt8 × List Mbuf) → Except Stop (World C D × List Mbuf)
  | w, [] => .ok (w, [])
  | w, b :: bs => do
    let (w, fs) ← rxFrame env ty b.1 w b.2
    let (w, gs) ← rxCalls env ty w bs
    .ok (w, fs ++ gs)

/-- The frames of all bursts. -/
def frames (bs : List (Mem UInt8 × List Mbuf)) : List Mbuf := bs.flatMap Prod.snd

/-- The expected length was lowered by `low` before the frame; this does not
change what the frame's own length says. For the classes without a tag: a frame
of another type has not the configured length. -/
def Unswayed (env : Env C D) (ty : FrameType) (low : UInt64) (m : Mbuf) : Prop :=
  if isVlan ty then
    low = 0 ∨ (valid env ty m = false ∧ (typeOk env ty m = true →
      m.len ≠ (env.app.cls ty).frameLength - low - lowers ty m))
  else stray env ty m = true → m.len ≠ (env.app.cls ty).frameLength

/-- Every frame of the burst finds an expected length that does not change its verdict. -/
def Steady (env : Env C D) (ty : FrameType) : UInt64 → List Mbuf → Prop
  | _, [] => True
  | low, m :: ms => Unswayed env ty low m ∧ Steady env ty (low + lowers ty m) ms

/-! ## What the handler expects -/

/-- The counter expected of each frame. -/
def expectations (resync : Bool) : UInt64 → List UInt64 → List UInt64
  | _, [] => []
  | rx, k :: ks => rx :: expectations resync (rxAfter resync rx k) ks

theorem expectations_length (resync : Bool) (rx : UInt64) (ks : List UInt64) :
    (expectations resync rx ks).length = ks.length := by
  induction ks generalizing rx with
  | nil => rfl
  | cons k ks ih => simp [expectations, ih]

theorem expectations_append (resync : Bool) (rx : UInt64) (ks ks' : List UInt64) :
    expectations resync rx (ks ++ ks') =
      expectations resync rx ks ++ expectations resync (ks.foldl (rxAfter resync) rx) ks' := by
  induction ks generalizing rx with
  | nil => rfl
  | cons k ks ih => simp [expectations, ih]

/-- The frames with what the handler expected of each. -/
def expecting (env : Env C D) (ty : FrameType) (resync : Bool) (rx : UInt64) (vs : List Mbuf) :
    List (Mbuf × UInt64) :=
  vs.zip (expectations resync rx (vs.map (counter env ty)))

theorem expecting_append (env : Env C D) (ty : FrameType) (resync : Bool) (rx : UInt64)
    (vs vs' : List Mbuf) :
    expecting env ty resync rx (vs ++ vs') =
      expecting env ty resync rx vs ++
        expecting env ty resync ((vs.map (counter env ty)).foldl (rxAfter resync) rx) vs' := by
  unfold expecting
  rw [List.map_append, expectations_append, List.zip_append]
  rw [expectations_length, List.length_map]

/-- The frame is not the expected one. -/
def missed (env : Env C D) (ty : FrameType) (p : Mbuf × UInt64) : Bool :=
  decide (counter env ty p.1 ≠ p.2)

/-- The valid frames `vs`, each paired in `ps` with the counter it is held
against, were handled: those with another counter are reported and rejected, the
others accepted, and by a mirror forwarded in order. -/
structure Treated (env : Env C D) (ty : FrameType) (vs : List Mbuf) (ps : List (Mbuf × UInt64))
    (last : UInt64) (w w' : World C D) : Prop where
  rx : w'.thread.rxSequenceCounter = last
  errors : (w'.stat.globalStatistics ty).outOfOrderErrors =
    (w.stat.globalStatistics ty).outOfOrderErrors + UInt64.ofNat (ps.countP (missed env ty))
  received : (w'.stat.globalStatistics ty).framesReceived =
    (w.stat.globalStatistics ty).framesReceived + UInt64.ofNat vs.length
  backlog : (w'.stat.roundTripContexts ty).backlogLen = (w.stat.roundTripContexts ty).backlogLen
  reported : reports ty w'.log = reports ty w.log ++
    (ps.filter (missed env ty)).map fun p =>
      (rxHandler env ty).outOfOrderText (counter env ty p.1) p.2
  forwarded : w'.tx.added.map Mbuf.id = w.tx.added.map Mbuf.id ++
    if env.mirrorMode then (ps.filter fun p => !missed env ty p).map fun p => p.1.id else []

theorem Treated.nil (env : Env C D) (ty : FrameType) (w : World C D) :
    Treated env ty [] [] w.thread.rxSequenceCounter w w := by
  refine ⟨rfl, ?_, ?_, rfl, ?_, ?_⟩
  · simp
  · simp
  · simp
  · simp

theorem Treated.append {env : Env C D} {ty : FrameType} {vs vs' : List Mbuf}
    {ps ps' : List (Mbuf × UInt64)} {last last' : UInt64} {w w' w'' : World C D}
    (h : Treated env ty vs ps last w w') (h' : Treated env ty vs' ps' last' w' w'') :
    Treated env ty (vs ++ vs') (ps ++ ps') last' w w'' := by
  refine ⟨h'.rx, ?_, ?_, h'.backlog.trans h.backlog, ?_, ?_⟩
  · rw [h'.errors, h.errors, List.countP_append, UInt64.ofNat_add, UInt64.add_assoc]
  · rw [h'.received, h.received, List.length_append, UInt64.ofNat_add, UInt64.add_assoc]
  · rw [h'.reported, h.reported, List.filter_append, List.map_append, List.append_assoc]
  · rw [h'.forwarded, h.forwarded, List.filter_append, List.map_append]
    cases env.mirrorMode <;> simp

/-- One frame, judged. -/
theorem Judged.treated {env : Env C D} {ty : FrameType} {m : Mbuf} {w w' : World C D}
    {d : Option Mbuf} (h : Judged env ty (counter env ty m) m.id w w' d) :
    Treated env ty [m] [(m, w.thread.rxSequenceCounter)]
      (rxAfter (rxHandler env ty).resync w.thread.rxSequenceCounter (counter env ty m)) w w' := by
  by_cases hk : counter env ty m = w.thread.rxSequenceCounter
  · have hmiss : missed env ty (m, w.thread.rxSequenceCounter) = false := by simp [missed, hk]
    refine ⟨h.rx, ?_, h.received, h.backlog, ?_, ?_⟩
    · rw [h.errors]
      simp [hk, hmiss]
    · rw [h.reported]
      simp [hk, hmiss]
    · rw [h.added]
      cases env.mirrorMode <;> simp [hk, hmiss]
  · have hmiss : missed env ty (m, w.thread.rxSequenceCounter) = true := by simp [missed, hk]
    refine ⟨h.rx, ?_, h.received, h.backlog, ?_, ?_⟩
    · rw [h.errors]
      simp [hk, hmiss]
    · rw [h.reported]
      simp [hk, hmiss]
    · rw [h.added]
      cases env.mirrorMode <;> simp [hk, hmiss]

/-! ## The checks -/

theorem vlanCheck_error {wrongType : UInt16 → Option LogEntry}
    {wrongLength : UInt64 → UInt64 → LogEntry} {e e' : UInt64} {m : Mbuf} {entry : LogEntry}
    (h : vlanCheck wrongType wrongLength e m = (e', .error entry)) :
    wrongType m.proto = some entry ∨ ∃ a b, entry = wrongLength a b := by
  rw [vlanCheck_eq] at h
  obtain ⟨-, h⟩ := Prod.mk.inj h
  cases hw : wrongType m.proto with
  | some x =>
    rw [hw] at h
    cases h
    exact Or.inl rfl
  | none =>
    rw [hw] at h
    by_cases hl : m.len = e - (if m.tagged then 0 else 4)
    · rw [if_pos hl] at h
      cases h
    · rw [if_neg hl] at h
      exact Or.inr ⟨_, _, (Except.error.inj h).symm⟩

theorem refuseShort_error {tooSmall : LogEntry}
    {check : UInt64 → Mbuf → UInt64 × Except LogEntry Layout} {e e' : UInt64} {m : Mbuf}
    {entry : LogEntry} (h : refuseShort tooSmall check e m = (e', .error entry)) :
    entry = tooSmall ∨ check e m = (e', .error entry) := by
  unfold refuseShort at h
  split at h
  · cases h
    exact Or.inl rfl
  · exact Or.inr h

theorem notProfinet_some {entry e : LogEntry} {proto : UInt16}
    (h : notProfinet entry proto = some e) : e = entry := by
  unfold notProfinet at h
  split at h
  · exact (Option.some.inj h).symm
  · cases h

/-- A refused frame is not reported as out of order. -/
theorem check_error_format (env : Env C D) (ty : FrameType) {e e' : UInt64} {m : Mbuf}
    {entry : LogEntry} (h : (rxHandler env ty).check e m = (e', .error entry)) :
    entry.format ≠ outOfOrderFormat ty := by
  cases ty with
  | tsnHigh | tsnLow | rtc | rta =>
    rcases refuseShort_error h with rfl | h
    · simp [warning, outOfOrderFormat]
    · rcases vlanCheck_error h with h | ⟨a, b, rfl⟩
      · rw [notProfinet_some h]
        simp [warning, outOfOrderFormat]
      · simp [warning, outOfOrderFormat]
  | l2 =>
    rcases refuseShort_error h with rfl | h
    · simp [warning, outOfOrderFormat]
    · rcases vlanCheck_error h with h | ⟨a, b, rfl⟩
      · unfold wrongEtherType at h
        split at h
        · rw [← Option.some.inj h]
          simp [warning, outOfOrderFormat]
        · cases h
      · simp [warning, outOfOrderFormat]
  | dcp =>
    simp only [rxHandler, dcpRxFrame] at h
    rcases vlanCheck_error h with h | ⟨a, b, rfl⟩
    · rw [notProfinet_some h]
      simp [warning, outOfOrderFormat]
    · simp [warning, outOfOrderFormat]
  | lldp | udpHigh | udpLow =>
    simp only [rxHandler, lldpRxFrame, udpRxFrame, lengthCheck_eq] at h
    obtain ⟨-, h⟩ := Prod.mk.inj h
    split at h
    · cases h
    · cases h
      simp [warning, outOfOrderFormat]

/-- The length a handler expects after frames that lowered it by `low`. -/
def expectedAfter (env : Env C D) (ty : FrameType) (low : UInt64) : UInt64 :=
  (env.app.cls ty).frameLength - if isVlan ty then low else 0

theorem expectedAfter_lowers (env : Env C D) (ty : FrameType) (hv : isVlan ty = true)
    (low : UInt64) (m : Mbuf) :
    expectedAfter env ty low - lowers ty m = expectedAfter env ty (low + lowers ty m) := by
  simp only [expectedAfter, hv, if_true]
  grind

/-- A frame that is not swayed passes exactly if it is valid. -/
theorem check_valid {env : Env C D} {ty : FrameType} {low : UInt64} {m : Mbuf}
    (hval : valid env ty m = true) (hun : Unswayed env ty low m) :
    (rxHandler env ty).check (expectedAfter env ty low) m =
      (expectedAfter env ty (low + lowers ty m), .ok (ownLayout ty)) := by
  have hall := hval
  simp only [valid, Bool.and_eq_true] at hall
  obtain ⟨⟨⟨⟨htag, htype⟩, hlen⟩, -⟩, -⟩ := hall
  unfold Unswayed at hun
  cases hv : isVlan ty with
  | true =>
    simp only [hv, if_true, hval, Bool.true_eq_false, false_and, or_false] at hun
    have htagged : m.tagged = true := by simpa [hv] using htag
    have hright : typeOk env ty m = true := by simpa [rightType, hv] using htype
    have hm : m.len = (env.app.cls ty).frameLength := by simpa [rightLength, htagged] using hlen
    obtain ⟨refuse, wrong, -, hc⟩ := check_vlan env ty hv
    rw [hc, expectedAfter_lowers env ty hv, lowers_tagged ty htagged, hun, checked, hright, if_pos rfl,
      if_pos (by simp [expectedAfter, hm])]
    simp [layoutOf, htagged, ethHeaderSize, ownLayout, hv]
  | false =>
    have hm : m.len = (env.app.cls ty).frameLength := by simpa [rightLength, hv] using hlen
    obtain ⟨wrong, hc⟩ := check_untagged env ty hv
    rw [hc, if_pos (by simp [expectedAfter, hv, hm])]
    simp [expectedAfter, hv, ownLayout]

theorem check_stray {env : Env C D} {ty : FrameType} {low : UInt64} {m : Mbuf}
    (hstray : stray env ty m = true) (hun : Unswayed env ty low m) :
    ∃ entry, (rxHandler env ty).check (expectedAfter env ty low) m =
      (expectedAfter env ty (low + lowers ty m), .error entry) := by
  unfold Unswayed at hun
  cases hv : isVlan ty with
  | true =>
    simp only [hv, if_true] at hun
    obtain ⟨refuse, wrong, -, hc⟩ := check_vlan env ty hv
    rw [hc, expectedAfter_lowers env ty hv, checked]
    cases hright : typeOk env ty m with
    | false => exact ⟨_, rfl⟩
    | true =>
      have hne : m.len ≠ expectedAfter env ty (low + lowers ty m) := by
        rw [← expectedAfter_lowers env ty hv, expectedAfter, hv, if_pos rfl]
        rcases hun with hlow | ⟨-, hne⟩
        · have hlen : rightLength env ty m = false := by
            simpa [stray, rightType, hv, hright] using hstray
          simp only [rightLength, hv, Bool.true_and, decide_eq_false_iff_not] at hlen
          rw [hlow, UInt64.sub_zero]
          cases ht : m.tagged with
          | true => simpa [lowers_tagged ty ht, ht] using hlen
          | false => simpa [lowers_untagged hright ht, ht] using hlen
        · exact hne hright
      rw [if_pos rfl, if_neg hne]
      exact ⟨_, rfl⟩
  | false =>
    simp only [hv, Bool.false_eq_true, if_false] at hun
    obtain ⟨wrong, hc⟩ := check_untagged env ty hv
    have hne : m.len ≠ expectedAfter env ty low := by simpa [expectedAfter, hv] using hun hstray
    rw [hc, if_neg hne]
    exact ⟨wrong, by simp [expectedAfter, hv]⟩

/-! ## One frame -/

/-- The classes that check the frame id are those with security modes. -/
theorem expectedFrameId_some {env : Env C D} {ty : FrameType} {fid : UInt16}
    (h : (rxHandler env ty).expectedFrameId = some fid) :
    hasSecurity ty = true ∧ fid = frameId ty (env.app.mode ty) := by
  cases ty with
  | tsnHigh | tsnLow | rtc | rta => exact ⟨rfl, (Option.some.inj h).symm⟩
  | dcp | lldp | udpHigh | udpLow | l2 => cases h

/-- Decoding a valid frame finds nothing wrong. -/
theorem decode_valid {env : Env C D} {ty : FrameType} (hm : env.app.mode ty = .none) {m : Mbuf}
    (hval : valid env ty m = true) (w : World C D) (p : Mem UInt8) :
    ∃ r, (rxHandler env ty).decode w p m (ownLayout ty) = .ok r ∧ Sound env ty w m r ∧
      r.sequenceCounter = counter env ty m := by
  simp only [valid, Bool.and_eq_true] at hval
  obtain ⟨⟨-, hid⟩, hpay⟩ := hval
  have hdec := decode_plain env ty hm w p m (ownLayout ty)
  refine ⟨_, hdec, ⟨?_, rfl, ?_, ?_⟩, ?_⟩
  · cases ty <;> rfl
  · refine Eq.trans ?_ (of_decide_eq_true hpay)
    show slice (restamp (decodeStamp env ty w) m.data _) _ _ = _
    rw [metaAt_own]
    apply slice_congr
    intro i _
    exact restamp_outside _ _ (by simp only [sizeofReferenceMetaData]; omega)
  · intro fid hfid
    obtain ⟨hsec, rfl⟩ := expectedFrameId_some hfid
    obtain ⟨-, hp, hown, -⟩ := secure_class hsec
    have hread : read16 m.data 18 = frameId ty (env.app.mode ty) := by simpa [hp] using hid
    show decodeFrameId ty m (ownLayout ty).off = _
    rw [decodeFrameId, hp, if_pos rfl, hown, hread]
  · rw [(decode_spec env ty hdec).sequenceCounter, metaAt_own]
    rfl

/-- The world after the valid frames among `ms`. -/
def TreatedAll (env : Env C D) (ty : FrameType) (ms : List Mbuf) (w w' : World C D) : Prop :=
  let vs := ms.filter (valid env ty)
  let resync := (rxHandler env ty).resync
  Treated env ty vs (expecting env ty resync w.thread.rxSequenceCounter vs)
    ((vs.map (counter env ty)).foldl (rxAfter resync) w.thread.rxSequenceCounter) w w'

theorem TreatedAll.append {env : Env C D} {ty : FrameType} {ms ms' : List Mbuf}
    {w w' w'' : World C D} (h : TreatedAll env ty ms w w') (h' : TreatedAll env ty ms' w' w'') :
    TreatedAll env ty (ms ++ ms') w w'' := by
  unfold TreatedAll at h h' ⊢
  simp only at h h' ⊢
  rw [List.filter_append, expecting_append, List.map_append, List.foldl_append]
  rw [h.rx] at h'
  exact Treated.append h h'

/-- A mirror or a reference with a backlog stays one. -/
theorem TreatedAll.hasBacklog {env : Env C D} {ty : FrameType} {ms : List Mbuf} {w w' : World C D}
    (h : TreatedAll env ty ms w w') (hb : HasBacklog env ty w) : HasBacklog env ty w' := by
  unfold HasBacklog
  rw [h.backlog]
  exact hb

theorem TreatedAll.stray {env : Env C D} {ty : FrameType} {m : Mbuf} (hm : valid env ty m = false)
    (w : World C D) {entry : LogEntry} (hfmt : entry.format ≠ outOfOrderFormat ty) :
    TreatedAll env ty [m] w (w.say [entry]) := by
  have hquiet : reports ty (w.log ++ [entry]) = reports ty w.log := by
    rw [reports_append, reports_quiet (l := [entry]) (by simpa using hfmt), List.append_nil]
  unfold TreatedAll
  rw [List.filter_cons_of_neg (by simp [hm])]
  refine ⟨rfl, ?_, ?_, rfl, ?_, ?_⟩
  · simp [expecting]
  · simp
  · simpa [expecting] using hquiet
  · simp [expecting]

theorem valid_or_stray {env : Env C D} {ty : FrameType} {m : Mbuf} (h : stray env ty m = true) :
    valid env ty m = false := by
  simp only [stray, Bool.or_eq_true, Bool.not_eq_true'] at h
  rcases h with h | h
  · simp [valid, h]
  · simp [valid, h]

/-- **One pass of the loop.** -/
theorem rxOne_treated (env : Env C D) (ty : FrameType) (hm : env.app.mode ty = .none)
    {s : RxState C D} {low : UInt64} (hs : s.expectedFrameLength = expectedAfter env ty low)
    (hb : HasBacklog env ty s.world) {m : Mbuf}
    (hkind : valid env ty m = true ∨ stray env ty m = true) (hun : Unswayed env ty low m) :
    Outlier env (rxOne env (rxHandler env ty) s m) ∨
      ∃ s' d, rxOne env (rxHandler env ty) s m = .ok (s', d) ∧
        s'.expectedFrameLength = expectedAfter env ty (low + lowers ty m) ∧
        TreatedAll env ty [m] s.world s'.world := by
  unfold rxOne
  rw [hs]
  rcases hkind with hval | hstray
  · rw [check_valid hval hun]
    obtain ⟨r, hdec, hsound, hk⟩ := decode_valid hm hval s.world s.plaintext
    rcases accept_judged env ty hdec hsound hb with ⟨hstop, l, he⟩ | ⟨out, hout, hj⟩
    · left
      simp only [he, bind, Except.bind]
      exact ⟨hstop, l, rfl⟩
    · right
      simp only [hout, bind, Except.bind]
      refine ⟨_, _, rfl, rfl, ?_⟩
      rw [hk] at hj
      unfold TreatedAll
      rw [List.filter_cons_of_pos hval]
      exact Judged.treated hj
  · obtain ⟨entry, hc⟩ := check_stray hstray hun
    rw [hc]
    right
    exact ⟨_, _, rfl, rfl, .stray (valid_or_stray hstray) _ (check_error_format env ty hc)⟩

/-! ## Bursts -/

theorem rxBurst_treated (env : Env C D) (ty : FrameType) (hm : env.app.mode ty = .none)
    (ms : List Mbuf) {s : RxState C D} {low : UInt64}
    (hs : s.expectedFrameLength = expectedAfter env ty low) (hb : HasBacklog env ty s.world)
    (hkind : ∀ m ∈ ms, valid env ty m = true ∨ stray env ty m = true)
    (hsteady : Steady env ty low ms) :
    Outlier env (rxBurst env (rxHandler env ty) s ms) ∨
      ∃ s' fs, rxBurst env (rxHandler env ty) s ms = .ok (s', fs) ∧
        TreatedAll env ty ms s.world s'.world := by
  induction ms generalizing s low with
  | nil => exact Or.inr ⟨s, [], rfl, Treated.nil env ty s.world⟩
  | cons m ms ih =>
    obtain ⟨hun, hrest⟩ := hsteady
    apply rxBurst_cons_returns
    rcases rxOne_treated env ty hm hs hb (hkind m List.mem_cons_self) hun with
      hstop | ⟨s', d, hone, hs', ht⟩
    · exact Or.inl hstop
    · refine Or.inr ⟨s', d, hone, ?_⟩
      rcases ih hs' (ht.hasBacklog hb) (fun m' hm' => hkind m' (List.mem_cons_of_mem _ hm')) hrest with
        hstop | ⟨s'', fs, hrun, ht'⟩
      · exact Or.inl hstop
      · exact Or.inr ⟨s'', fs, hrun, ht.append ht'⟩

/-- **Any split into bursts.**  The calls return, unless an outlier ends the
process, and have treated the valid frames of the whole stream in order. -/
theorem bursts_treated (env : Env C D) (ty : FrameType) (hm : env.app.mode ty = .none)
    (bs : List (Mem UInt8 × List Mbuf)) {w : World C D} (hb : HasBacklog env ty w)
    (hkind : ∀ m ∈ frames bs, valid env ty m = true ∨ stray env ty m = true)
    (hsteady : ∀ b ∈ bs, Steady env ty 0 b.2) :
    Outlier env (rxCalls env ty w bs) ∨
      ∃ w' fs, rxCalls env ty w bs = .ok (w', fs) ∧ TreatedAll env ty (frames bs) w w' := by
  induction bs generalizing w with
  | nil => exact Or.inr ⟨w, [], rfl, Treated.nil env ty w⟩
  | cons b bs ih =>
    have hsplit : frames (b :: bs) = b.2 ++ frames bs := rfl
    rw [hsplit] at hkind ⊢
    simp only [rxCalls]
    have hfirst := rxFrame_returns (rxBurst_treated env ty hm b.2
      (s := ⟨w, (env.app.cls ty).frameLength, b.1⟩) (by simp [expectedAfter]) hb
      (fun m hm => hkind m (List.mem_append_left _ hm)) (hsteady b List.mem_cons_self))
    rcases hfirst with ⟨hstop, l, he⟩ | ⟨w', fs, hrun, ht⟩
    · left
      simp only [he, bind, Except.bind]
      exact ⟨hstop, l, rfl⟩
    · rcases ih (ht.hasBacklog hb) (fun m hm => hkind m (List.mem_append_right _ hm))
          (fun b' hb' => hsteady b' (List.mem_cons_of_mem _ hb')) with
        ⟨hstop, l, he⟩ | ⟨w'', gs, hrest, ht'⟩
      · left
        simp only [hrun, he, bind, Except.bind]
        exact ⟨hstop, l, rfl⟩
      · right
        simp only [hrun, hrest, bind, Except.bind]
        exact ⟨_, _, rfl, ht.append ht'⟩

/-- No mbuf is lost between the bursts, the transmit buffer and the free calls. -/
theorem rxCalls_fate (env : Env C D) (ty : FrameType) (bs : List (Mem UInt8 × List Mbuf))
    {w w' : World C D} {fs : List Mbuf} (h : rxCalls env ty w bs = .ok (w', fs)) :
    (fs.map Mbuf.id ++ w'.tx.added.map Mbuf.id).Perm
      ((frames bs).map Mbuf.id ++ w.tx.added.map Mbuf.id) := by
  induction bs generalizing w fs with
  | nil =>
    cases h
    exact .refl _
  | cons b bs ih =>
    rw [rxCalls] at h
    obtain ⟨⟨w1, freed⟩, hrx, h⟩ := bind_ok_iff.mp h
    obtain ⟨⟨w2, later⟩, hrest, h⟩ := bind_ok_iff.mp h
    cases h
    obtain ⟨qs, htx, hperm, -, -⟩ := rxFrame_fate hrx
    have hlater := ih hrest
    rw [htx, foldl_added, List.map_append] at hlater
    have hsplit : frames (b :: bs) = b.2 ++ frames bs := rfl
    rw [hsplit, List.perm_iff_count]
    intro a
    have hfirst := hperm.count_eq a
    have hcount := hlater.count_eq a
    simp only [List.map_append, List.count_append] at hfirst hcount ⊢
    omega

/-! ## Classes that resynchronise -/

theorem rxAfter_resync (rx k : UInt64) : rxAfter true rx k = k + 1 := by
  unfold rxAfter
  split
  · rename_i h
    rw [h]
  · rfl

/-- After a gap the handler goes on from the frame it has. -/
theorem expecting_resync (env : Env C D) (ty : FrameType) (rx : UInt64) (vs : List Mbuf) :
    expecting env ty true rx vs = vs.zip (rx :: vs.map fun m => counter env ty m + 1) := by
  induction vs generalizing rx with
  | nil => rfl
  | cons m vs ih =>
    show (m, rx) :: expecting env ty true (rxAfter true rx (counter env ty m)) vs = _
    rw [ih, rxAfter_resync]
    rfl

theorem foldl_resync (rx : UInt64) (ks : List UInt64) :
    ks.foldl (rxAfter true) rx = (ks.getLast?.map (· + 1)).getD rx := by
  induction ks using List.reverseRecOn with
  | nil => rfl
  | append_singleton ks k ih =>
    rw [List.foldl_append, List.getLast?_concat]
    exact rxAfter_resync _ k

/-- The calls return, unless an outlier ends the process, and each valid frame
was held against its predecessor, the first against the receive counter: those
that do not follow are reported and rejected, the others accepted, and all are
counted. What was not forwarded was freed. -/
def Exact (env : Env C D) (ty : FrameType) (bs : List (Mem UInt8 × List Mbuf)) (w : World C D) :
    Prop :=
  Outlier env (rxCalls env ty w bs) ∨
    ∃ w' fs, rxCalls env ty w bs = .ok (w', fs) ∧
      let vs := (frames bs).filter (valid env ty)
      Treated env ty vs
          (vs.zip (w.thread.rxSequenceCounter :: vs.map fun m => counter env ty m + 1))
          (((vs.map (counter env ty)).getLast?.map (· + 1)).getD w.thread.rxSequenceCounter) w w' ∧
        (fs.map Mbuf.id ++ w'.tx.added.map Mbuf.id).Perm
          ((frames bs).map Mbuf.id ++ w.tx.added.map Mbuf.id)

/-- **Exact accounting of gaps.**  It holds for every stream of valid frames
and strays that comes in steady bursts. -/
theorem gaps_exact (env : Env C D) (ty : FrameType) (hty : ty ≠ .dcp)
    (hm : env.app.mode ty = .none) (bs : List (Mem UInt8 × List Mbuf)) {w : World C D}
    (hb : HasBacklog env ty w)
    (hkind : ∀ m ∈ frames bs, valid env ty m = true ∨ stray env ty m = true)
    (hsteady : ∀ b ∈ bs, Steady env ty 0 b.2) : Exact env ty bs w := by
  rcases bursts_treated env ty hm bs hb hkind hsteady with hstop | ⟨w', fs, hrun, ht⟩
  · exact Or.inl hstop
  · right
    refine ⟨w', fs, hrun, ?_, rxCalls_fate env ty bs hrun⟩
    unfold TreatedAll at ht
    simp only [resync_of_ne_dcp env ty hty, expecting_resync, foldl_resync] at ht
    exact ht

/-! A mirror for TSN frames of 40 bytes, one per cycle. -/

/-- Frame number `k` of TSN high, for `k` below 256. -/
def tsnFrame (k : UInt8) (id : Nat) : Mbuf where
  id := id
  data := fun i =>
    match i with
    | 12 => 0x81
    | 16 => 0x88
    | 17 => 0x92
    | 18 => 0x01
    | 27 => k
    | _ => 0
  dataLen := 40
  pktLen := 40

/-- An untagged frame of 20 bytes of another type. -/
def strayFrame (id : Nat) : Mbuf := ⟨id, fun _ => 0, 20, 20⟩

def gapWorld : World DigestCtx Unit := World.fresh smallMirror .tsnHigh DigestCtx.fresh ()

def gapBursts : List (Mem UInt8 × List Mbuf) :=
  [(fun _ => 0, [tsnFrame 0 0, tsnFrame 2 1]), (fun _ => 0, [tsnFrame 3 2, strayFrame 3])]

/-- Frames 0, 2 and 3 with a stray behind them: frame 2 is reported, the others are forwarded. -/
theorem gaps_exact_one_lost :
    Exact smallMirror .tsnHigh gapBursts gapWorld ∧
      ∃ w' fs, rxCalls smallMirror .tsnHigh gapWorld gapBursts = .ok (w', fs) ∧
        w'.thread.rxSequenceCounter = 4 ∧
        (w'.stat.globalStatistics .tsnHigh).outOfOrderErrors = 1 ∧
        w'.tx.added.map Mbuf.id = [0, 2] := by
  constructor
  · refine gaps_exact smallMirror .tsnHigh (by decide) rfl gapBursts (Or.inl rfl) ?_ ?_
    · intro m hm
      simp only [frames, gapBursts, List.flatMap_cons, List.flatMap_nil, List.cons_append,
        List.nil_append, List.append_nil, List.mem_cons, List.not_mem_nil, or_false] at hm
      rcases hm with rfl | rfl | rfl | rfl
      · exact Or.inl (by decide +kernel)
      · exact Or.inl (by decide +kernel)
      · exact Or.inl (by decide +kernel)
      · exact Or.inr (by decide +kernel)
    · intro b hb
      simp only [gapBursts, List.mem_cons, List.not_mem_nil, or_false] at hb
      rcases hb with rfl | rfl
      · exact ⟨Or.inl rfl, Or.inl (by decide +kernel), trivial⟩
      · exact ⟨Or.inl rfl, Or.inl (by decide +kernel), trivial⟩
  · exact ⟨_, _, rfl, by decide +kernel, by decide +kernel, by decide +kernel⟩

/-- The stray in front of frame 0 makes the mirror refuse the frame. -/
theorem stray_hides_frame :
    stray smallMirror .tsnHigh (strayFrame 0) = true ∧
      valid smallMirror .tsnHigh (tsnFrame 0 1) = true ∧
      ¬ Exact smallMirror .tsnHigh [(fun _ => 0, [strayFrame 0, tsnFrame 0 1])] gapWorld := by
  refine ⟨by decide +kernel, by decide +kernel, ?_⟩
  rintro (hstop | ⟨w', fs, hrun, ht, -⟩)
  · exact small_no_outlier hstop
  · cases hrun
    exact absurd ht.received (by decide +kernel)

/-! ## DCP

An out-of-order DCP frame leaves the receive counter where it is. -/

theorem rxAfter_stay {rx k : UInt64} (h : k ≠ rx) : rxAfter false rx k = rx := by
  simp [rxAfter, h]

theorem succ_le_iff {a k : UInt64} (h : a < k) (v : UInt64) : a + 1 ≤ v ↔ a < v := by
  have hk := k.toNat_lt
  rw [UInt64.lt_iff_toNat_lt] at h
  rw [UInt64.le_iff_toNat_le, UInt64.lt_iff_toNat_lt, UInt64.toNat_add]
  show (a.toNat + 1) % 2 ^ 64 ≤ v.toNat ↔ a.toNat < v.toNat
  omega

/-- Every counter from `rx` on up to `k` is in the stream. -/
def Unbroken (rx : UInt64) (ks : List UInt64) (k : UInt64) : Prop :=
  rx ≤ k ∧ ∀ v, rx ≤ v → v ≤ k → v ∈ ks

/-- **What DCP accepts.**  A frame of a stream with increasing counters is the
expected one exactly if nothing is missing before it, from the counter on that
was expected first. Induction on the frames before it. -/
theorem expected_iff {l r : List UInt64} {k : UInt64} (hinc : (l ++ k :: r).Pairwise (· < ·))
    (rx : UInt64) : l.foldl (rxAfter false) rx = k ↔ Unbroken rx (l ++ k :: r) k := by
  induction l generalizing rx with
  | nil =>
    simp only [List.nil_append, List.pairwise_cons] at hinc
    constructor
    · rintro rfl
      refine ⟨UInt64.le_refl _, fun v hlow hhigh => ?_⟩
      rw [UInt64.le_antisymm hlow hhigh]
      exact List.mem_cons_self
    · rintro ⟨hle, hall⟩
      rcases List.mem_cons.mp (hall rx (UInt64.le_refl _) hle) with h | h
      · exact h
      · exact absurd hle (UInt64.not_le.mpr (hinc.1 rx h))
  | cons a l ih =>
    simp only [List.cons_append, List.pairwise_cons] at hinc
    have hak : a < k := hinc.1 k (List.mem_append_right _ List.mem_cons_self)
    rw [List.foldl_cons, ih hinc.2]
    by_cases ha : a = rx
    · have hnext : rxAfter false rx a = rx + 1 := by simp [rxAfter, ha]
      subst ha
      rw [hnext]
      constructor
      · rintro ⟨-, hall⟩
        refine ⟨UInt64.le_of_lt hak, fun v hlow hhigh => ?_⟩
        rcases UInt64.lt_or_eq_of_le hlow with hlt | rfl
        · exact List.mem_cons_of_mem _ (hall v ((succ_le_iff hak v).mpr hlt) hhigh)
        · exact List.mem_cons_self
      · rintro ⟨-, hall⟩
        refine ⟨(succ_le_iff hak k).mpr hak, fun v hlow hhigh => ?_⟩
        have hlt : a < v := (succ_le_iff hak v).mp hlow
        rcases List.mem_cons.mp (hall v (UInt64.le_of_lt hlt) hhigh) with h | h
        · exact absurd (h ▸ hlt) (UInt64.lt_irrefl _)
        · exact h
    · rw [rxAfter_stay ha]
      constructor
      · rintro ⟨hle, hall⟩
        exact ⟨hle, fun v hlow hhigh => List.mem_cons_of_mem _ (hall v hlow hhigh)⟩
      · rintro ⟨hle, hall⟩
        have harx : a < rx := by
          rcases List.mem_cons.mp (hall rx (UInt64.le_refl _) hle) with h | h
          · exact absurd h.symm ha
          · exact hinc.1 rx h
        refine ⟨hle, fun v hlow hhigh => ?_⟩
        rcases List.mem_cons.mp (hall v hlow hhigh) with h | h
        · exact absurd (UInt64.lt_of_lt_of_le harx hlow) (h ▸ UInt64.lt_irrefl _)
        · exact h

/-- Each frame is paired with what the frames before it leave expected. -/
theorem expecting_split (env : Env C D) (ty : FrameType) (resync : Bool) {rx : UInt64}
    {vs : List Mbuf} {p : Mbuf × UInt64} (h : p ∈ expecting env ty resync rx vs) :
    ∃ l r, vs = l ++ p.1 :: r ∧ (l.map (counter env ty)).foldl (rxAfter resync) rx = p.2 := by
  induction vs generalizing rx with
  | nil => cases h
  | cons m vs ih =>
    have hcons : expecting env ty resync rx (m :: vs) =
        (m, rx) :: expecting env ty resync (rxAfter resync rx (counter env ty m)) vs := rfl
    rw [hcons] at h
    rcases List.mem_cons.mp h with rfl | h
    · exact ⟨[], vs, rfl, rfl⟩
    · obtain ⟨l, r, hvs, hrx⟩ := ih h
      exact ⟨m :: l, r, by rw [hvs]; rfl, hrx⟩

theorem expecting_mem (env : Env C D) (ty : FrameType) (resync : Bool) (rx : UInt64)
    {vs : List Mbuf} {m : Mbuf} (h : m ∈ vs) : ∃ e, (m, e) ∈ expecting env ty resync rx vs := by
  induction vs generalizing rx with
  | nil => cases h
  | cons m' vs ih =>
    rcases List.mem_cons.mp h with rfl | h
    · exact ⟨rx, List.mem_cons_self⟩
    · obtain ⟨e, he⟩ := ih (rxAfter resync rx (counter env ty m')) h
      exact ⟨e, List.mem_cons_of_mem _ he⟩

/-- The counters of the stream increase. -/
def Increasing (env : Env C D) (ty : FrameType) (vs : List Mbuf) : Prop :=
  (vs.map (counter env ty)).Pairwise (· < ·)

theorem missed_iff {env : Env C D} {ty : FrameType} {rx : UInt64} {vs : List Mbuf}
    (hinc : Increasing env ty vs) {p : Mbuf × UInt64} (h : p ∈ expecting env ty false rx vs) :
    missed env ty p = false ↔ Unbroken rx (vs.map (counter env ty)) (counter env ty p.1) := by
  obtain ⟨l, r, hvs, hrx⟩ := expecting_split env ty false h
  have hmap : vs.map (counter env ty) =
      l.map (counter env ty) ++ counter env ty p.1 :: r.map (counter env ty) := by
    rw [hvs]
    simp
  unfold Increasing at hinc
  rw [hmap] at hinc ⊢
  rw [← expected_iff hinc, hrx, missed, decide_eq_false_iff_not, not_not]
  exact eq_comm

/-- The number of gaps in a stream. -/
def gapCount : List UInt64 → Nat
  | a :: b :: ks => (if b = a + 1 then 0 else 1) + gapCount (b :: ks)
  | _ => 0

/-- Does the stream start with another counter than `rx`? -/
def startsElsewhere (rx : UInt64) : List UInt64 → Nat
  | [] => 0
  | k :: _ => if k = rx then 0 else 1

/-- If no frame that follows its predecessor is missed, there are no more
misses than gaps. Induction on the stream; its first frame may be missed. -/
theorem misses_le (ks : List UInt64) (rx : UInt64)
    (h : ∀ l a b r, ks = l ++ a :: b :: r → b = a + 1 →
      (l ++ [a]).foldl (rxAfter false) rx = b) :
    (ks.zip (expectations false rx ks)).countP (fun p => decide (p.1 ≠ p.2)) ≤
      gapCount ks + startsElsewhere rx ks := by
  induction ks generalizing rx with
  | nil => exact Nat.le_refl 0
  | cons a ks ih =>
    have hrest := ih (rxAfter false rx a) (fun l a' b r hks hb => h (a :: l) a' b r (by rw [hks]; rfl) hb)
    rw [expectations, List.zip_cons_cons, List.countP_cons]
    have hfirst : (if decide (a ≠ rx) = true then 1 else 0) = startsElsewhere rx (a :: ks) := by
      by_cases ha : a = rx <;> simp [startsElsewhere, ha]
    have hnext : gapCount ks + startsElsewhere (rxAfter false rx a) ks ≤ gapCount (a :: ks) := by
      cases ks with
      | nil => exact Nat.le_refl 0
      | cons b ks =>
        simp only [gapCount, startsElsewhere]
        by_cases hb : b = a + 1
        · have hb' := h [] a b ks rfl hb
          simp only [List.nil_append, List.foldl_cons, List.foldl_nil] at hb'
          rw [if_pos hb'.symm, if_pos hb]
          omega
        · rw [if_neg hb]
          split <;> omega
    show _ + (if decide (a ≠ rx) = true then 1 else 0) ≤ _
    rw [hfirst]
    omega

/-- DCP recovers from loss: it reports no more frames than there are gaps, and
one more if the stream does not start with the counter expected first; and it
drops no frame that directly follows its predecessor. -/
def Recovers (env : Env C D) (vs : List Mbuf) (w w' : World C D) : Prop :=
  ∃ lines, reports .dcp w'.log = reports .dcp w.log ++ lines ∧
    (w'.stat.globalStatistics .dcp).outOfOrderErrors =
      (w.stat.globalStatistics .dcp).outOfOrderErrors + UInt64.ofNat lines.length ∧
    lines.length ≤ gapCount (vs.map (counter env .dcp)) +
      startsElsewhere w.thread.rxSequenceCounter (vs.map (counter env .dcp)) ∧
    ∀ l m m' r, vs = l ++ m :: m' :: r → counter env .dcp m' = counter env .dcp m + 1 →
      (∀ e, (rxHandler env .dcp).outOfOrderText (counter env .dcp m') e ∉ lines) ∧
        (env.mirrorMode = true → ∃ fwd, w'.tx.added.map Mbuf.id =
          w.tx.added.map Mbuf.id ++ fwd ∧ m'.id ∈ fwd)

/-- Nothing is missing before any frame that directly follows its predecessor,
from the counter on that is expected first. -/
def NothingMissing (env : Env C D) (vs : List Mbuf) (rx : UInt64) : Prop :=
  ∀ l m m' r, vs = l ++ m :: m' :: r → counter env .dcp m' = counter env .dcp m + 1 →
    Unbroken rx (vs.map (counter env .dcp)) (counter env .dcp m')

theorem NothingMissing.misses_le {env : Env C D} {vs : List Mbuf} {rx : UInt64}
    (hinc : Increasing env .dcp vs) (h : NothingMissing env vs rx) :
    (expecting env .dcp false rx vs).countP (missed env .dcp) ≤
      gapCount (vs.map (counter env .dcp)) + startsElsewhere rx (vs.map (counter env .dcp)) := by
  have hcount : (expecting env .dcp false rx vs).countP (missed env .dcp) =
      ((vs.map (counter env .dcp)).zip
        (expectations false rx (vs.map (counter env .dcp)))).countP
          (fun p => decide (p.1 ≠ p.2)) := by
    rw [List.zip_map_left, List.countP_map]
    rfl
  rw [hcount]
  apply Rtdk.Gaps.misses_le
  intro l a b r hks hb
  obtain ⟨l', t, hvs, hl, ht⟩ := List.map_eq_append_iff.mp hks
  obtain ⟨m, t', rfl, hm, ht'⟩ := List.map_eq_cons_iff.mp ht
  obtain ⟨m', r', rfl, hm', hr⟩ := List.map_eq_cons_iff.mp ht'
  have hun := h l' m m' r' hvs (by rw [hm, hm', hb])
  have hsplit : vs.map (counter env .dcp) = (l ++ [a]) ++ b :: r := by
    rw [hks]
    simp
  unfold Increasing at hinc
  rw [hsplit] at hinc hun
  rw [hm'] at hun
  exact (expected_iff hinc rx).mpr hun

theorem outOfOrderText_counter {env : Env C D} {k k' e e' : UInt64}
    (h : (rxHandler env .dcp).outOfOrderText k e = (rxHandler env .dcp).outOfOrderText k' e') :
    k = k' := by
  simp only [rxHandler, dcpRxFrame, warning, LogEntry.mk.injEq, List.cons.injEq, LogArg.num.injEq]
    at h
  exact h.2.2.1

/-- What `Recovers` says of a stream that was treated as DCP does. -/
theorem unbroken_recovers_iff {env : Env C D} {vs : List Mbuf} {last : UInt64} {w w' : World C D}
    (hinc : Increasing env .dcp vs)
    (ht : Treated env .dcp vs (expecting env .dcp false w.thread.rxSequenceCounter vs) last w w') :
    Recovers env vs w w' ↔ NothingMissing env vs w.thread.rxSequenceCounter := by
  constructor
  · rintro ⟨lines, hlines, -, -, hdrops⟩ l m m' r hvs hnext
    have heq : lines = _ := List.append_cancel_left (hlines.symm.trans ht.reported)
    obtain ⟨e, he⟩ := expecting_mem env .dcp false w.thread.rxSequenceCounter
      (show m' ∈ vs by rw [hvs]; simp)
    refine (missed_iff hinc he).mp ?_
    by_contra hmiss
    apply (hdrops l m m' r hvs hnext).1 e
    rw [heq]
    exact List.mem_map.mpr ⟨(m', e), List.mem_filter.mpr ⟨he, by simpa using hmiss⟩, rfl⟩
  · intro h
    refine ⟨_, ht.reported, ?_, ?_, ?_⟩
    · rw [ht.errors, List.length_map, List.countP_eq_length_filter]
    · rw [List.length_map, ← List.countP_eq_length_filter]
      exact h.misses_le hinc
    · intro l m m' r hvs hnext
      have hun := h l m m' r hvs hnext
      constructor
      · intro e hin
        obtain ⟨p, hp, htext⟩ := List.mem_map.mp hin
        obtain ⟨hmem, hmiss⟩ := List.mem_filter.mp hp
        rw [← outOfOrderText_counter htext, ← missed_iff hinc hmem, hmiss] at hun
        cases hun
      · intro hmirror
        obtain ⟨e, he⟩ := expecting_mem env .dcp false w.thread.rxSequenceCounter
          (show m' ∈ vs by rw [hvs]; simp)
        have hfwd := ht.forwarded
        rw [hmirror, if_pos rfl] at hfwd
        refine ⟨_, hfwd, List.mem_map.mpr ⟨(m', e), List.mem_filter.mpr ⟨he, ?_⟩, rfl⟩⟩
        rw [(missed_iff hinc he).mpr hun]
        rfl

/-- Valid frames carry their tag, so none of them lowers the expected length. -/
theorem steady_of_valid {env : Env C D} {ty : FrameType} (hv : isVlan ty = true) {ms : List Mbuf}
    (h : ∀ m ∈ ms, valid env ty m = true) : Steady env ty 0 ms := by
  induction ms with
  | nil => trivial
  | cons m ms ih =>
    have htag : m.tagged = true := by
      have hval := h m List.mem_cons_self
      simp only [valid, hv, Bool.not_true, Bool.false_or, Bool.and_eq_true] at hval
      exact hval.1.1.1.1
    refine ⟨?_, ?_⟩
    · rw [Unswayed, hv, if_pos rfl]
      exact Or.inl rfl
    · rw [lowers_tagged ty htag, UInt64.add_zero]
      exact ih fun m' hm' => h m' (List.mem_cons_of_mem _ hm')

/-- DCP holds every frame of such a stream against a counter that moves with
accepted frames only. -/
theorem dcp_treated (env : Env C D) (bs : List (Mem UInt8 × List Mbuf)) {w : World C D}
    (hb : HasBacklog env .dcp w) (hvalid : ∀ m ∈ frames bs, valid env .dcp m = true) :
    Outlier env (rxCalls env .dcp w bs) ∨
      ∃ w' fs last, rxCalls env .dcp w bs = .ok (w', fs) ∧
        Treated env .dcp (frames bs)
          (expecting env .dcp false w.thread.rxSequenceCounter (frames bs)) last w w' := by
  have hsteady : ∀ b ∈ bs, Steady env .dcp 0 b.2 := by
    intro b hb'
    apply steady_of_valid rfl
    intro m hm
    exact hvalid m (List.mem_flatMap.mpr ⟨b, hb', hm⟩)
  rcases bursts_treated env .dcp rfl bs hb (fun m hm => Or.inl (hvalid m hm)) hsteady with
    hstop | ⟨w', fs, hrun, ht⟩
  · exact Or.inl hstop
  · right
    have hall : (frames bs).filter (valid env .dcp) = frames bs := List.filter_eq_self.mpr hvalid
    unfold TreatedAll at ht
    rw [hall] at ht
    exact ⟨w', fs, _, hrun, ht⟩

/-- **DCP and loss.**  On a stream of valid frames with increasing counters, in
any bursts, DCP recovers exactly if nothing is missing before any frame that
follows its predecessor. -/
theorem dcp_recovers_iff (env : Env C D) (bs : List (Mem UInt8 × List Mbuf)) {w : World C D}
    (hb : HasBacklog env .dcp w) (hvalid : ∀ m ∈ frames bs, valid env .dcp m = true)
    (hinc : Increasing env .dcp (frames bs)) :
    Outlier env (rxCalls env .dcp w bs) ∨
      ∃ w' fs, rxCalls env .dcp w bs = .ok (w', fs) ∧
        (Recovers env (frames bs) w w' ↔
          NothingMissing env (frames bs) w.thread.rxSequenceCounter) := by
  rcases dcp_treated env bs hb hvalid with hstop | ⟨w', fs, last, hrun, ht⟩
  · exact Or.inl hstop
  · exact Or.inr ⟨w', fs, hrun, unbroken_recovers_iff hinc ht⟩

/-! Three DCP frames for a mirror, without and with a loss. -/

/-- Frame number `k` of DCP, for `k` below 256. -/
def dcpFrame (k : UInt8) (id : Nat) : Mbuf where
  id := id
  data := fun i =>
    match i with
    | 12 => 0x81
    | 16 => 0x88
    | 17 => 0x92
    | 18 => 0xfe
    | 19 => 0xfe
    | 27 => k
    | _ => 0
  dataLen := 40
  pktLen := 40

def dcpWorld : World DigestCtx Unit := World.fresh smallMirror .dcp DigestCtx.fresh ()

def dcpBurst (a b c : UInt8) : List (Mem UInt8 × List Mbuf) :=
  [(fun _ => 0, [dcpFrame a 0, dcpFrame b 1, dcpFrame c 2])]

theorem dcp_recovers_no_loss :
    ∃ w' fs, rxCalls smallMirror .dcp dcpWorld (dcpBurst 0 1 2) = .ok (w', fs) ∧
      Recovers smallMirror (frames (dcpBurst 0 1 2)) dcpWorld w' := by
  have hcounters : (frames (dcpBurst 0 1 2)).map (counter smallMirror .dcp) = [0, 1, 2] := by
    decide +kernel
  have hvalid : ∀ m ∈ frames (dcpBurst 0 1 2), valid smallMirror .dcp m = true := by
    apply List.all_eq_true.mp
    decide +kernel
  have hinc : Increasing smallMirror .dcp (frames (dcpBurst 0 1 2)) := by
    rw [Increasing, hcounters]
    decide
  rcases dcp_recovers_iff smallMirror (dcpBurst 0 1 2) (w := dcpWorld) (Or.inl rfl) hvalid hinc with
    hstop | ⟨w', fs, hrun, hiff⟩
  · exact (small_no_outlier hstop).elim
  · refine ⟨w', fs, hrun, hiff.mpr ?_⟩
    intro l m m' r hvs _
    have hmem : counter smallMirror .dcp m' ∈ ([0, 1, 2] : List UInt64) := by
      rw [← hcounters]
      exact List.mem_map_of_mem (by rw [hvs]; simp)
    rw [hcounters]
    refine ⟨UInt64.zero_le, fun v _ hv => ?_⟩
    have hle : counter smallMirror .dcp m' ≤ 2 := by
      simp only [List.mem_cons, List.not_mem_nil, or_false] at hmem
      rcases hmem with h | h | h <;> rw [h] <;> decide
    have hv2 : v.toNat ≤ 2 := UInt64.le_iff_toNat_le.mp (UInt64.le_trans hv hle)
    have hcases : v.toNat = 0 ∨ v.toNat = 1 ∨ v.toNat = 2 := by omega
    simp only [← UInt64.toNat_inj, List.mem_cons, List.not_mem_nil, or_false]
    exact hcases

/-- Frame 1 is lost; frame 3 follows frame 2 and is dropped all the same. -/
theorem dcp_stuck_after_loss :
    ∃ w' fs, rxCalls smallMirror .dcp dcpWorld (dcpBurst 0 2 3) = .ok (w', fs) ∧
      ¬ Recovers smallMirror (frames (dcpBurst 0 2 3)) dcpWorld w' := by
  have hcounters : (frames (dcpBurst 0 2 3)).map (counter smallMirror .dcp) = [0, 2, 3] := by
    decide +kernel
  have hvalid : ∀ m ∈ frames (dcpBurst 0 2 3), valid smallMirror .dcp m = true := by
    apply List.all_eq_true.mp
    decide +kernel
  have hinc : Increasing smallMirror .dcp (frames (dcpBurst 0 2 3)) := by
    rw [Increasing, hcounters]
    decide
  rcases dcp_treated smallMirror (dcpBurst 0 2 3) (w := dcpWorld) (Or.inl rfl) hvalid with
    hstop | ⟨w', fs, last, hrun, ht⟩
  · exact (small_no_outlier hstop).elim
  · refine ⟨w', fs, hrun, ?_⟩
    rw [unbroken_recovers_iff hinc ht]
    intro h
    have hun := h [dcpFrame 0 0] (dcpFrame 2 1) (dcpFrame 3 2) [] rfl (by decide +kernel)
    rw [hcounters] at hun
    have hone : (1 : UInt64) ∈ ([0, 2, 3] : List UInt64) := hun.2 1 (by decide +kernel) (by decide +kernel)
    exact absurd hone (by decide)

end Rtdk.Gaps
