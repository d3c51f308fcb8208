import Rtdk.Builder

/-! What handling one frame does, in one form for all handlers and security
modes: where the metadata is read (`metaAt`), which parts of the world decoding
leaves alone (`decode_spec`), and what a frame that passed the checks does to
counters, statistics and transmit buffer (`accept_ok`, `account_ok`,
`conclude_rx`, `conclude_fate`). -/

namespace Rtdk.Decode
open Rtdk.Memory Rtdk.Endian Rtdk.NetDef Rtdk.Security Rtdk.Stat Rtdk.Lport Rtdk.Config Rtdk.Frame
open Rtdk.Thread Rtdk.Receive Rtdk.Handlers Rtdk.Checks Rtdk.Builder Rtdk.Runs

variable {C D : Type}

/-! ## Decoding -/

/-- Where a handler finds the metadata of a frame whose Ethernet header ends at `off`. -/
def metaAt (cfg : AppConfig) (ty : FrameType) (off : Nat) : Nat :=
  match ty with
  | .tsnHigh | .tsnLow | .rtc | .rta => if cfg.mode ty = .none then off + 2 else off + 10
  | .dcp => off + 2
  | .l2 => off
  | .udpHigh | .udpLow => 42
  | .lldp => 14

/-- In its own frames a handler finds the metadata where they were put. -/
theorem metaAt_own (cfg : AppConfig) (ty : FrameType) :
    metaAt cfg ty (ownLayout ty).off = getMetaDataOffset ty (cfg.mode ty) := by
  cases ty with
  | tsnHigh | tsnLow | rtc | rta =>
    simp only [metaAt, ownLayout, getMetaDataOffset, isVlan, if_true, sizeofVlanEthernetHeader]
  | dcp | lldp | udpHigh | udpLow | l2 => rfl

/-- What decoding a frame gives, whatever the class and its security mode. -/
structure Decoded (env : Env C D) (ty : FrameType) (w : World C D) (m : Mbuf) (off : Nat)
    (r : Received C D) : Prop where
  sequenceCounter : r.sequenceCounter =
    metaDataToSequenceCounter m.data (metaAt env.app ty off) (env.app.cls ty).numFramesPerCycle
  txTimestamp : r.txTimestamp = metaDataToTxTimestamp m.data (metaAt env.app ty off)
  frameId : isProfinet ty = true → r.frameId = read16 m.data off
  rx : r.world.thread.rxSequenceCounter = w.thread.rxSequenceCounter
  stat : r.world.stat = w.stat
  tx : r.world.tx = w.tx
  dataLen : r.mbuf.dataLen = m.dataLen
  pktLen : r.mbuf.pktLen = m.pktLen

theorem plainDecode_spec (env : Env C D) (ty : FrameType) (stamp : Option UInt64) (fid : UInt16)
    (off : Nat) (w w' : World C D) (p : Mem UInt8) (m : Mbuf)
    (hfid : isProfinet ty = true → fid = read16 m.data off) (hthread : w'.thread = w.thread)
    (hstat : w'.stat = w.stat) (htx : w'.tx = w.tx) :
    Decoded env ty w m off (plainDecode (env.app.cls ty).numFramesPerCycle
      (env.app.cls ty).payloadPattern stamp fid (metaAt env.app ty off) w' p m) where
  sequenceCounter := rfl
  txTimestamp := rfl
  frameId := hfid
  rx := congrArg ThreadContext.rxSequenceCounter hthread
  stat := hstat
  tx := htx
  dataLen := rfl
  pktLen := rfl

theorem profinetDecode_spec (env : Env C D) (ty : FrameType) (ao ae : UInt64 → LogEntry)
    (hsec : hasSecurity ty = true) {w : World C D} {p : Mem UInt8} {m : Mbuf} {lay : Layout}
    {r : Received C D} (h : profinetDecode env (env.app.cls ty) ao ae w p m lay = .ok r) :
    Decoded env ty w m lay.off r := by
  have hmode : env.app.mode ty = (env.app.cls ty).securityMode := by simp [AppConfig.mode, hsec]
  have hmeta : metaAt env.app ty lay.off =
      if (env.app.cls ty).securityMode = .none then lay.off + 2 else lay.off + 10 := by
    rw [← hmode]
    cases ty <;> first | rfl | cases hsec
  unfold profinetDecode at h
  cases hm : (env.app.cls ty).securityMode with
  | none =>
    simp only [hm, Except.ok.injEq] at h
    rw [if_pos hm] at hmeta
    rw [← h, ← hmeta]
    exact plainDecode_spec env ty _ _ lay.off w w.tick p m (fun _ => rfl) rfl rfl rfl
  | ao =>
    simp only [hm, Except.ok.injEq] at h
    rw [if_neg (by simp [hm])] at hmeta
    rw [← h]
    exact ⟨by rw [hmeta]; rfl, by rw [hmeta]; rfl, fun _ => rfl, rfl, rfl, rfl, rfl, rfl⟩
  | ae =>
    simp only [hm, aeDecode] at h
    rw [if_neg (by simp [hm])] at hmeta
    split at h
    · cases h
    · cases h
      exact ⟨by rw [hmeta, rxCounter], by rw [hmeta], fun _ => rfl, rfl, rfl, rfl, rfl, rfl⟩

/-- **Decoding.**  Counter, time stamp and frame id come from the frame as it
arrived; the receive counter, the statistics and the transmit buffer stay. -/
theorem decode_spec (env : Env C D) (ty : FrameType) {w : World C D} {p : Mem UInt8} {m : Mbuf}
    {lay : Layout} {r : Received C D} (h : (rxHandler env ty).decode w p m lay = .ok r) :
    Decoded env ty w m lay.off r := by
  cases ty with
  | tsnHigh => exact profinetDecode_spec env .tsnHigh _ _ rfl h
  | tsnLow => exact profinetDecode_spec env .tsnLow _ _ rfl h
  | rtc => exact profinetDecode_spec env .rtc _ _ rfl h
  | rta => exact profinetDecode_spec env .rta _ _ rfl h
  | dcp =>
    cases h
    exact plainDecode_spec env .dcp _ _ lay.off w w p m (fun _ => rfl) rfl rfl rfl
  | lldp =>
    cases h
    exact plainDecode_spec env .lldp _ _ lay.off w w p m (fun hp => by cases hp) rfl rfl rfl
  | udpHigh =>
    cases h
    exact plainDecode_spec env .udpHigh _ _ lay.off w w.tick p m (fun hp => by cases hp) rfl rfl rfl
  | udpLow =>
    cases h
    exact plainDecode_spec env .udpLow _ _ lay.off w w.tick p m (fun hp => by cases hp) rfl rfl rfl
  | l2 =>
    cases h
    exact plainDecode_spec env .l2 _ _ lay.off w w.tick p m (fun hp => by cases hp) rfl rfl rfl

/-- The time stamp a handler writes into a frame before it looks at the
payload: DCP never does, and LLDP only when it mirrors. -/
def decodeStamp (env : Env C D) (ty : FrameType) (w : World C D) : Option UInt64 :=
  match ty with
  | .dcp | .lldp => none
  | _ => some (env.mirrorStamp (w.now env))

/-- The world after decoding without security: whoever writes a time stamp has read the clock. -/
def decodeTick (ty : FrameType) (w : World C D) : World C D :=
  match ty with
  | .dcp | .lldp => w
  | _ => w.tick

def decodeFrameId (ty : FrameType) (m : Mbuf) (off : Nat) : UInt16 :=
  if isProfinet ty then read16 m.data off else 0

/-- Without security all handlers decode the same way. -/
theorem decode_plain (env : Env C D) (ty : FrameType) (hm : env.app.mode ty = .none)
    (w : World C D) (p : Mem UInt8) (m : Mbuf) (lay : Layout) :
    (rxHandler env ty).decode w p m lay =
      .ok (plainDecode (env.app.cls ty).numFramesPerCycle (env.app.cls ty).payloadPattern
        (decodeStamp env ty w) (decodeFrameId ty m lay.off) (metaAt env.app ty lay.off)
        (decodeTick ty w) p m) := by
  have hprofinet (ty : FrameType) (ao ae : UInt64 → LogEntry) (hsec : hasSecurity ty = true)
      (hm : env.app.mode ty = .none) :
      profinetDecode env (env.app.cls ty) ao ae w p m lay =
        .ok (plainDecode (env.app.cls ty).numFramesPerCycle (env.app.cls ty).payloadPattern
          (some (env.mirrorStamp (w.now env))) (read16 m.data lay.off) (lay.off + 2) w.tick p m) := by
    have hmode : (env.app.cls ty).securityMode = .none := by
      simpa [AppConfig.mode, hsec] using hm
    simp only [profinetDecode, hmode]
  cases ty with
  | tsnHigh | tsnLow | rtc | rta =>
    simp only [metaAt, hm, if_true]
    exact hprofinet _ _ _ rfl hm
  | dcp | lldp | udpHigh | udpLow | l2 => rfl

/-! ## A frame that passed the checks -/

theorem handler_ty (env : Env C D) (ty : FrameType) : (rxHandler env ty).ty = ty := by
  cases ty <;> rfl

theorem handler_pattern (env : Env C D) (ty : FrameType) :
    (rxHandler env ty).expectedPattern = (env.app.cls ty).payloadPattern := by
  cases ty <;> rfl

/-- The parts of a successful `accept`. -/
theorem accept_ok {env : Env C D} {h : RxHandler C D} {w : World C D} {p : Mem UInt8} {m : Mbuf}
    {lay : Layout} {out : Handled C D} (ha : h.accept env w p m lay = .ok out) :
    ∃ r w', h.decode w p m lay = .ok r ∧ h.account env r (h.verdict r) = .ok w' ∧
      h.conclude env w' r (h.verdict r) lay = .ok (out.world, out.dropped) ∧
      out.plaintext = r.plaintext := by
  obtain ⟨r, hd, ha⟩ := bind_ok_iff.mp ha
  obtain ⟨w', hacc, ha⟩ := bind_ok_iff.mp ha
  obtain ⟨q, hcon, ha⟩ := bind_ok_iff.mp ha
  cases ha
  exact ⟨r, w', hd, hacc, hcon, rfl⟩

/-- One pass of the loop: the frame is refused, or accepted with the layout it shows. -/
theorem rxOne_ok {env : Env C D} {h : RxHandler C D} {s s' : RxState C D} {m : Mbuf}
    {d : Option Mbuf} (hone : rxOne env h s m = .ok (s', d)) :
    (∃ e, s'.world = s.world.say [e]) ∨
      ∃ expected lay out, h.check s.expectedFrameLength m = (expected, .ok lay) ∧
        h.accept env s.world s.plaintext m lay = .ok out ∧ s'.world = out.world := by
  unfold rxOne at hone
  cases hc : h.check s.expectedFrameLength m with
  | mk expected res =>
    rw [hc] at hone
    cases res with
    | error entry =>
      cases hone
      exact Or.inl ⟨entry, rfl⟩
    | ok lay =>
      obtain ⟨out, hacc, hone⟩ := bind_ok_iff.mp hone
      cases hone
      exact Or.inr ⟨expected, lay, out, rfl, hacc, rfl⟩

/-- A call of the handler as a burst. -/
theorem rxFrame_ok {env : Env C D} {ty : FrameType} {stack : Mem UInt8} {w w' : World C D}
    {ms freed : List Mbuf} (h : rxFrame env ty stack w ms = .ok (w', freed)) :
    ∃ t fs, rxBurst env (rxHandler env ty) ⟨w, (env.app.cls ty).frameLength, stack⟩ ms =
      .ok (t, fs) ∧ t.world = w' := by
  rw [rxFrame, rxFrames_eq_rxBurst] at h
  obtain ⟨t, hb, ht⟩ := map_ok_iff.mp h
  exact ⟨t.1, t.2, hb, congrArg Prod.fst ht⟩

/-- A call of the handler on one frame that passes the checks. -/
theorem rxFrame_single (env : Env C D) (ty : FrameType) (stack : Mem UInt8) (w : World C D)
    {m : Mbuf} {lay : Layout} {expected : UInt64}
    (hcheck : (rxHandler env ty).check (env.app.cls ty).frameLength m = (expected, .ok lay)) :
    rxFrame env ty stack w [m] = ((rxHandler env ty).accept env w stack m lay).map fun out =>
      (out.world, out.dropped.toList) := by
  rw [rxFrame, rxFrames_eq_rxBurst]
  simp only [rxBurst, rxOne, hcheck, bind, Except.bind]
  cases (rxHandler env ty).accept env w stack m lay with
  | error e => rfl
  | ok out => simp [Except.map]

/-- Accounting reads the clock and touches statistics and log only. -/
theorem account_ok {env : Env C D} {h : RxHandler C D} {r : Received C D} {v : Verdict}
    {w' : World C D} (ha : h.account env r v = .ok w') :
    let res := statFrameReceived env.statConfig r.world.stat h.ty r.sequenceCounter v.outOfOrder
      v.payloadMismatch v.frameIdMismatch r.txTimestamp (r.world.now env)
    res.halt = none ∧
      w' = { r.world.tick with stat := res.stat, log := r.world.log ++ res.log } :=
  World.applyStat_ok ha

/-- Before the drop decisions nothing is queued. -/
theorem account_tx {env : Env C D} {ty : FrameType} {w w1 : World C D} {p : Mem UInt8} {m : Mbuf}
    {lay : Layout} {r : Received C D} {v : Verdict}
    (hdec : (rxHandler env ty).decode w p m lay = .ok r)
    (hacc : (rxHandler env ty).account env r v = .ok w1) : w1.tx = w.tx := by
  rw [(account_ok hacc).2]
  exact (decode_spec env ty hdec).tx

theorem forward_world (env : Env C D) (ty : FrameType) (w : World C D) (m : Mbuf) (lay : Layout) :
    ((rxHandler env ty).forward w m lay).1.thread = w.thread ∧
      ((rxHandler env ty).forward w m lay).1.stat = w.stat ∧
      ((rxHandler env ty).forward w m lay).1.tx = w.tx ∧
      ((rxHandler env ty).forward w m lay).1.log = w.log ∧
      ((rxHandler env ty).forward w m lay).1.seals = w.seals := by
  cases ty <;> exact ⟨rfl, rfl, rfl, rfl, rfl⟩

/-- The receive counter after a frame with counter `k` that has the right frame id. -/
def rxAfter (resync : Bool) (rx k : UInt64) : UInt64 :=
  if k = rx then rx + 1 else if resync then k + 1 else rx

/-- The drop decisions leave the statistics alone and set the receive counter. -/
theorem conclude_rx (env : Env C D) (ty : FrameType) {w w' : World C D} {r : Received C D}
    {v : Verdict} {lay : Layout} {d : Option Mbuf}
    (hv : v.outOfOrder = decide (r.sequenceCounter ≠ w.thread.rxSequenceCounter))
    (hc : (rxHandler env ty).conclude env w r v lay = .ok (w', d)) :
    w'.stat = w.stat ∧
      w'.thread.rxSequenceCounter =
        (if v.frameIdMismatch then w.thread.rxSequenceCounter
        else rxAfter (rxHandler env ty).resync w.thread.rxSequenceCounter r.sequenceCounter) := by
  unfold RxHandler.conclude at hc
  unfold rxAfter
  cases hf : v.frameIdMismatch with
  | true =>
    simp only [hf, if_true] at hc
    cases hc
    exact ⟨rfl, rfl⟩
  | false =>
    simp only [hf, Bool.false_eq_true, if_false] at hc
    cases ho : v.outOfOrder with
    | true =>
      have hne : r.sequenceCounter ≠ w.thread.rxSequenceCounter := by simpa [ho] using hv
      simp only [ho, if_true] at hc
      simp only [hne, Bool.false_eq_true, if_false]
      cases hr : (rxHandler env ty).resync <;> rw [hr] at hc <;> cases hc <;> exact ⟨rfl, rfl⟩
    | false =>
      have heq : r.sequenceCounter = w.thread.rxSequenceCounter := by simpa [ho] using hv
      simp only [ho, Bool.false_eq_true, if_false] at hc
      simp only [heq, Bool.false_eq_true, if_false, if_true]
      cases hp : v.payloadMismatch with
      | true =>
        simp only [hp, if_true] at hc
        split at hc
        · cases hc
          exact ⟨rfl, rfl⟩
        · cases hc
      | false =>
        simp only [hp, Bool.false_eq_true, if_false] at hc
        cases hm : env.mirrorMode with
        | false =>
          simp only [hm, Bool.not_false, if_true] at hc
          cases hc
          exact ⟨rfl, rfl⟩
        | true =>
          simp only [hm, Bool.not_true, Bool.false_eq_true, if_false] at hc
          have hfw := forward_world env ty (w.setRx (w.thread.rxSequenceCounter + 1)) r.mbuf lay
          cases hc
          exact ⟨hfw.2.1, by rw [World.enqueue_thread, hfw.1]; rfl⟩

/-- A frame that passed the checks is dropped as it was decoded, or, by a
mirror that found nothing wrong, edited and handed to the transmit buffer. -/
theorem conclude_fate (env : Env C D) (ty : FrameType) {w w' : World C D} {r : Received C D}
    {v : Verdict} {lay : Layout} {d : Option Mbuf}
    (h : (rxHandler env ty).conclude env w r v lay = .ok (w', d)) :
    (d = some r.mbuf ∧ ∃ x l, w' = (w.setRx x).say l) ∨
      (d = none ∧ env.mirrorMode = true ∧ v = ⟨false, false, false⟩ ∧
        w' = ((rxHandler env ty).forward (w.setRx (w.thread.rxSequenceCounter + 1)) r.mbuf
            lay).1.enqueue env
          ((rxHandler env ty).forward (w.setRx (w.thread.rxSequenceCounter + 1)) r.mbuf lay).2) := by
  obtain ⟨o, p, f⟩ := v
  unfold RxHandler.conclude at h
  cases f with
  | true =>
    cases h
    exact Or.inl ⟨rfl, w.thread.rxSequenceCounter, _, rfl⟩
  | false =>
    cases o with
    | true =>
      simp only [Bool.false_eq_true, if_false, if_true] at h
      cases hr : (rxHandler env ty).resync with
      | false =>
        rw [hr] at h
        cases h
        exact Or.inl ⟨rfl, w.thread.rxSequenceCounter, _, rfl⟩
      | true =>
        rw [hr] at h
        cases h
        exact Or.inl ⟨rfl, r.sequenceCounter + 1, _, rfl⟩
    | false =>
      cases p with
      | true =>
        simp only [Bool.false_eq_true, if_false, if_true] at h
        split at h
        · cases h
          exact Or.inl ⟨rfl, w.thread.rxSequenceCounter + 1, _, rfl⟩
        · cases h
      | false =>
        cases hm : env.mirrorMode with
        | false =>
          simp only [Bool.false_eq_true, if_false, hm, Bool.not_false, if_true] at h
          cases h
          exact Or.inl ⟨rfl, w.thread.rxSequenceCounter + 1, [], by simp [World.say, World.setRx]⟩
        | true =>
          simp only [Bool.false_eq_true, if_false, hm, Bool.not_true] at h
          cases h
          exact Or.inr ⟨rfl, rfl, rfl, rfl⟩

end Rtdk.Decode
