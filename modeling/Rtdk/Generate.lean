import Rtdk.Runs
import Rtdk.Thread

/-! The transmit side: the `*_gen_and_send_frames` functions of the reference
and `send_frames_common` of the mirror.

A generator takes `nb_pkts` buffers from its pool, reads the clock once, and for
each buffer builds the frame with the next counter, accounts for it and adds it
to the transmit buffer; then the counter advances and the buffer is flushed. The
mbufs the pool gives are an argument, `none` if the pool is exhausted. -/

namespace Rtdk.Generate
open Rtdk.Memory Rtdk.NetDef Rtdk.Security Rtdk.Stat Rtdk.Lport Rtdk.Config Rtdk.Frame Rtdk.Thread
open Rtdk.Runs

variable {C D : Type}

/-- Log calls when the pool is exhausted: one by `lport_tx_get_bulk` itself, one
by the generator. -/
def bulkFailed (ty : FrameType) (nbPkts : UInt16) : List LogEntry :=
  let failed (level : LogLevel) (func : String) : LogEntry :=
    ⟨level, "%s: lport_tx_get_bulk() failed\n", [.str func]⟩
  let caller : LogEntry :=
    match ty with
    | .tsnHigh | .tsnLow => failed .warning "tsn_gen_and_send_frames"
    | .rtc => failed .error "rtc_gen_and_send_frames"
    | .rta => failed .error "rta_gen_and_send_frames"
    | .dcp => failed .error "dcp_gen_and_send_frames"
    | .lldp => failed .error "lldp_gen_and_send_frames"
    | .udpHigh | .udpLow => failed .error "udp_gen_and_send_frame"
    | .l2 => ⟨.error, "%s: rte_mempool_get_bulk() failed for %u mbufs\n",
        [.str "l2_gen_and_send_frames", .num nbPkts.toUInt64]⟩
  [failed .error "lport_tx_get_bulk", caller]

def prepareFailed (ty : FrameType) : LogEntry :=
  match ty with
  | .tsnHigh | .tsnLow => ⟨.error, "%sTx: Failed to prepare frame for Tx!\n", [.str ty.name]⟩
  | _ => ⟨.error, "RTTx: Failed to prepare frame for Tx!\n", []⟩

/-- Frames per cycle as the class's generator encodes them: UDP uses the
configured number, all others the number of packets of the burst. -/
def divisor (c : ClassConfig) (ty : FrameType) (nbPkts : UInt16) : UInt64 :=
  match ty with
  | .udpHigh | .udpLow => c.numFramesPerCycle
  | _ => nbPkts.toUInt64

/-- The argument of `prepare_frame_for_tx` for an initialised frame. -/
def prepareConfig (env : Env C D) (ty : FrameType) (thread : ThreadContext C) (m : Mbuf)
    (n seq txTime : UInt64) : PrepareFrameConfig C where
  mode := (env.app.cls ty).securityMode
  securityContext := thread.txSecurityContext
  ivPrefix := (env.app.cls ty).securityIvPrefix
  payloadPattern := thread.payloadPattern
  payloadPatternLength := thread.payloadPatternLength
  frameData := m.data
  frameLength := m.dataLen.toNat
  numFramesPerCycle := n
  sequenceCounter := seq
  txTimestamp := txTime
  metaDataOffset := env.metaDataOffset ty

/-- Counter, time stamp and seal of an initialised frame. The classes without
security store counter and time stamp themselves. A failed preparation is only
logged. -/
def prepareFrame (env : Env C D) (ty : FrameType) (n seq txTime : UInt64) (w : World C D)
    (m : Mbuf) : Except Stop (World C D × Mbuf) :=
  if hasSecurity ty then
    match prepareFrameForTx env.evp (prepareConfig env ty w.thread m n seq txTime) with
    | .error reason => .error ⟨reason, w.log⟩
    | .ok p =>
      .ok ({ w with
          thread := { w.thread with txSecurityContext := p.ctx }
          log := w.log ++ (if p.ret = 0 then [] else [prepareFailed ty])
          seals := w.seals ++ p.call.toList },
        { m with data := p.data })
  else .ok (w, { m with data := stampMetaData m.data (env.metaDataOffset ty) seq n txTime })

/-- One pass of the loop: initialise, prepare, account, add. -/
def genFrame (env : Env C D) (ty : FrameType) (n seq txTime : UInt64) (w : World C D) (m : Mbuf) :
    Except Stop (World C D) := do
  let (w, m) ← prepareFrame env ty n seq txTime w (initializeFrame env.app env.mac ty m)
  let w ← w.applyStat (statFrameSent env.statConfig w.stat ty seq txTime)
  .ok (w.enqueue env m)

def genFrames (env : Env C D) (ty : FrameType) (n txTime : UInt64) :
    UInt64 → World C D → List Mbuf → Except Stop (World C D)
  | _, w, [] => .ok w
  | seq, w, m :: ms => do
    let w ← genFrame env ty n seq txTime w m
    genFrames env ty n txTime (seq + 1) w ms

/-- The generator of a class on a request for `numFrames` frames. Only RTA and DCP test
for an empty request; the others fall through the loop. -/
def genAndSendFrames (env : Env C D) (ty : FrameType) (numFrames : UInt64)
    (mbufs : Option (List Mbuf)) (w : World C D) : Except Stop (World C D) :=
  let nbPkts := numFrames.toUInt16
  if (ty = .rta ∨ ty = .dcp) ∧ numFrames = 0 then .ok w else
  match mbufs with
  | none => .ok (w.say (bulkFailed ty nbPkts))
  | some ms => do
    let seq := w.thread.txSequenceCounter
    let w ← genFrames env ty (divisor (env.app.cls ty) ty nbPkts) (w.now env) seq w.tick ms
    let thread := { w.thread with txSequenceCounter := w.thread.txSequenceCounter + nbPkts.toUInt64 }
    .ok { w with thread := thread, tx := lportSend env.dev w.tx }

/-- Account for the buffered frames, oldest first. -/
def accountBuffered (env : Env C D) (ty : FrameType) (framesPerCycle timestamp : UInt64) :
    World C D → List Mbuf → Except Stop (World C D)
  | w, [] => .ok w
  | w, m :: ms => do
    let seq := metaDataToSequenceCounter m.data (env.metaDataOffset ty) framesPerCycle
    let w ← w.applyStat (statFrameSent env.statConfig w.stat ty seq timestamp)
    accountBuffered env ty framesPerCycle timestamp w ms

/-- `send_frames_common`, with the clock reading its callers pass. -/
def sendFramesCommon (env : Env C D) (ty : FrameType) (framesPerCycle : UInt64) (w : World C D) :
    Except Stop (World C D) := do
  let w ← accountBuffered env ty framesPerCycle (w.now env) w.tick w.tx.pkts
  .ok { w with tx := lportSend env.dev w.tx }

/-- The sender's counter has not yet used up the cycle numbers of the wire. -/
def BelowWrap (cfg : AppConfig) (ty : FrameType) (w : World C D) : Prop :=
  w.thread.txSequenceCounter.toNat < (cfg.cls ty).numFramesPerCycle.toNat * 2 ^ 32

/-- With fewer than `2 ^ 16` frames per cycle all generators encode the configured number. -/
theorem divisor_eq {c : ClassConfig} (ty : FrameType) (hn : c.numFramesPerCycle.toNat < 2 ^ 16) :
    c.numFramesPerCycle.toUInt16.toUInt64 = c.numFramesPerCycle ∧
      divisor c ty c.numFramesPerCycle.toUInt16 = c.numFramesPerCycle := by
  have hback : c.numFramesPerCycle.toUInt16.toUInt64 = c.numFramesPerCycle := by
    rw [← UInt64.toNat_inj, UInt16.toNat_toUInt64, UInt64.toNat_toUInt16]
    exact Nat.mod_eq_of_lt hn
  refine ⟨hback, ?_⟩
  cases ty <;> first | rfl | exact hback

/-- Preparing a frame touches neither statistics nor transmit buffer. -/
theorem prepareFrame_keeps {env : Env C D} {ty : FrameType} {n seq txTime : UInt64}
    {w w' : World C D} {m f : Mbuf} (h : prepareFrame env ty n seq txTime w m = .ok (w', f)) :
    w'.tx = w.tx ∧ w'.stat = w.stat := by
  unfold prepareFrame at h
  split at h
  · split at h
    · cases h
    · cases h
      exact ⟨rfl, rfl⟩
  · cases h
    exact ⟨rfl, rfl⟩

/-- One pass of the loop adds the prepared frame. -/
theorem genFrame_ok {env : Env C D} {ty : FrameType} {n seq txTime : UInt64} {w w' : World C D}
    {m : Mbuf} (h : genFrame env ty n seq txTime w m = .ok w') :
    ∃ w1 f, prepareFrame env ty n seq txTime w (initializeFrame env.app env.mac ty m) =
        .ok (w1, f) ∧ w'.tx.added = w.tx.added ++ [f] := by
  obtain ⟨⟨w1, f⟩, hp, h⟩ := bind_ok_iff.mp h
  obtain ⟨w2, hstat, h⟩ := bind_ok_iff.mp h
  cases h
  refine ⟨w1, f, hp, ?_⟩
  rw [World.enqueue_added, (World.applyStat_ok hstat).2]
  exact congrArg (fun tx : TxQueue D => tx.added ++ [f]) (prepareFrame_keeps hp).1

/-- A burst adds one frame for each mbuf. -/
theorem genFrames_count {env : Env C D} {ty : FrameType} {n txTime seq : UInt64}
    {w w' : World C D} {ms : List Mbuf} (h : genFrames env ty n txTime seq w ms = .ok w') :
    ∃ fs, w'.tx.added = w.tx.added ++ fs ∧ fs.length = ms.length := by
  induction ms generalizing seq w with
  | nil =>
    cases h
    exact ⟨[], (List.append_nil _).symm, rfl⟩
  | cons m ms ih =>
    simp only [genFrames, bind, Except.bind] at h
    split at h
    · cases h
    · rename_i w1 hone
      obtain ⟨-, f, -, hadded⟩ := genFrame_ok hone
      obtain ⟨fs, hadded', hlen⟩ := ih h
      exact ⟨f :: fs, by rw [hadded', hadded, List.append_assoc]; rfl, congrArg (· + 1) hlen⟩

/-! ## Frames with security -/

/-- The parts of a generated frame. -/
theorem genFrame_secured_ok {env : Env C D} {ty : FrameType} (hsec : hasSecurity ty = true)
    {n seq txTime : UInt64} {w w' : World C D} {m : Mbuf}
    (h : genFrame env ty n seq txTime w m = .ok w') :
    ∃ p, prepareFrameForTx env.evp
        (prepareConfig env ty w.thread (initializeFrame env.app env.mac ty m) n seq txTime) = .ok p ∧
      w'.thread = { w.thread with txSecurityContext := p.ctx } ∧
      w'.seals = w.seals ++ p.call.toList ∧
      w'.tx = lportTxBufferAdd env.dev w.tx
        { initializeFrame env.app env.mac ty m with data := p.data } := by
  simp only [genFrame, prepareFrame, hsec, if_true, bind, Except.bind] at h
  cases hp : prepareFrameForTx env.evp
      (prepareConfig env ty w.thread (initializeFrame env.app env.mac ty m) n seq txTime) with
  | error e =>
    rw [hp] at h
    cases h
  | ok p =>
    rw [hp] at h
    simp only at h
    split at h
    · cases h
    · rename_i w1 hstat
      have hw1 := (World.applyStat_ok hstat).2
      cases h
      exact ⟨p, rfl, by rw [World.enqueue_thread, hw1], by rw [World.enqueue_seals, hw1],
        by rw [hw1]; rfl⟩

/-! ## Frames without security -/

/-- The frame with counter `seq`, as a class without security builds it. -/
def plainFrame (env : Env C D) (ty : FrameType) (n seq txTime : UInt64) (m : Mbuf) : Mbuf :=
  let m := initializeFrame env.app env.mac ty m
  { m with data := stampMetaData m.data (env.metaDataOffset ty) seq n txTime }

/-- The frames of a burst that starts with counter `seq`. -/
def plainFrames (env : Env C D) (ty : FrameType) (n txTime : UInt64) :
    UInt64 → List Mbuf → List Mbuf
  | _, [] => []
  | seq, m :: ms => plainFrame env ty n seq txTime m :: plainFrames env ty n txTime (seq + 1) ms

theorem plainFrames_length (env : Env C D) (ty : FrameType) (n txTime seq : UInt64)
    (ms : List Mbuf) : (plainFrames env ty n txTime seq ms).length = ms.length := by
  induction ms generalizing seq with
  | nil => rfl
  | cons m ms ih => simp [plainFrames, ih]

theorem prepareFrame_plain (env : Env C D) (ty : FrameType) (hm : env.app.mode ty = .none)
    (n seq txTime : UInt64) (w : World C D) (m : Mbuf) :
    prepareFrame env ty n seq txTime w m =
      .ok (w, { m with data := stampMetaData m.data (env.metaDataOffset ty) seq n txTime }) := by
  unfold prepareFrame
  cases hs : hasSecurity ty with
  | false => rfl
  | true =>
    have hmode : (env.app.cls ty).securityMode = .none := by
      simpa [AppConfig.mode, hs] using hm
    simp [prepareFrameForTx, prepareConfig, hmode]

/-- What a burst changes at the sender, and what it keeps. -/
structure Emitted (env : Env C D) (ty : FrameType) (w w' : World C D) (fs : List Mbuf) : Prop where
  thread : w'.thread = w.thread
  added : w'.tx.added = w.tx.added ++ fs
  conserved : w.tx.Conserved → w'.tx.Conserved
  unsent : env.dev.Reliable → w.tx.unsent = [] → w'.tx.unsent = []
  backlog : (w'.stat.roundTripContexts ty).backlogLen = (w.stat.roundTripContexts ty).backlogLen

/-- The sender can take round-trip samples: it is a mirror or has a backlog. -/
def HasBacklog (env : Env C D) (ty : FrameType) (w : World C D) : Prop :=
  env.mirrorMode = true ∨ (w.stat.roundTripContexts ty).backlogLen ≠ 0

theorem genFrame_plain (env : Env C D) (ty : FrameType) (hm : env.app.mode ty = .none)
    (n seq txTime : UInt64) (w : World C D) (m : Mbuf) (hb : HasBacklog env ty w) :
    ∃ w', genFrame env ty n seq txTime w m = .ok w' ∧
      Emitted env ty w w' [plainFrame env ty n seq txTime m] := by
  have hs := statFrameSent_spec env.statConfig w.stat ty seq txTime hb
  unfold genFrame World.applyStat
  rw [prepareFrame_plain env ty hm]
  simp only [bind, Except.bind, hs.1]
  refine ⟨_, rfl, rfl, ?_, ?_, ?_, hs.2⟩
  · exact lportTxBufferAdd_added env.dev w.tx _
  · exact lportTxBufferAdd_conserved env.dev w.tx _
  · exact fun hr => lportTxBufferAdd_unsent hr w.tx _

theorem genFrames_plain (env : Env C D) (ty : FrameType) (hm : env.app.mode ty = .none)
    (n txTime : UInt64) (ms : List Mbuf) (seq : UInt64) (w : World C D)
    (hb : HasBacklog env ty w) :
    ∃ w', genFrames env ty n txTime seq w ms = .ok w' ∧
      Emitted env ty w w' (plainFrames env ty n txTime seq ms) := by
  induction ms generalizing seq w with
  | nil => exact ⟨w, rfl, rfl, by simp [plainFrames], id, fun _ => id, rfl⟩
  | cons m ms ih =>
    obtain ⟨w', hw, he⟩ := genFrame_plain env ty hm n seq txTime w m hb
    have hb' : HasBacklog env ty w' := by
      unfold HasBacklog
      rwa [he.backlog]
    obtain ⟨w'', hw', he'⟩ := ih (seq + 1) w' hb'
    refine ⟨w'', ?_, ?_, ?_, ?_, ?_, ?_⟩
    · simp only [genFrames, hw, bind, Except.bind]
      exact hw'
    · rw [he'.thread, he.thread]
    · simp [he'.added, he.added, plainFrames]
    · exact fun hc => he'.conserved (he.conserved hc)
    · exact fun hr hu => he'.unsent hr (he.unsent hr hu)
    · rw [he'.backlog, he.backlog]

end Rtdk.Generate
