import Rtdk.FrameCondition
import Rtdk.Network

/-! The time stamp of mirrored frames.

A mirror is to replace the time stamp of every frame it forwards by its own, so
that the reference measures the way back alone. `oneway_from_mirror` says that
in every run of the two nodes this holds for all classes but DCP, whose handler
never writes a time stamp. -/

namespace Rtdk.Latency
open Rtdk.Memory Rtdk.Endian Rtdk.NetDef Rtdk.Security Rtdk.Stat Rtdk.Lport Rtdk.Config Rtdk.Frame
open Rtdk.Thread Rtdk.Receive Rtdk.Handlers Rtdk.Checks Rtdk.Builder Rtdk.Decode Rtdk.Generate
open Rtdk.Sealing Rtdk.Reseal Rtdk.SecureTx Rtdk.Mirror Rtdk.FrameCondition Rtdk.Network

variable {C D C' D' K K' : Type}

/-! ## The frames of a burst -/

/-- In the burst `ms` that starts in the first state, the frame `m` is handled
between the two other states. -/
inductive Handling (env : Env C D) (h : RxHandler C D) :
    RxState C D → List Mbuf → RxState C D → Mbuf → RxState C D → Prop
  | head {s s' : RxState C D} {m : Mbuf} {ms : List Mbuf} {d : Option Mbuf}
      (hone : rxOne env h s m = .ok (s', d)) : Handling env h s (m :: ms) s m s'
  | tail {s s' s0 s1 : RxState C D} {m m0 : Mbuf} {ms : List Mbuf} {d : Option Mbuf}
      (hone : rxOne env h s m = .ok (s', d)) (hrest : Handling env h s' ms s0 m0 s1) :
      Handling env h s (m :: ms) s0 m0 s1

theorem Handling.spec {env : Env C D} {h : RxHandler C D} {s s0 s1 : RxState C D} {ms : List Mbuf}
    {m : Mbuf} (hh : Handling env h s ms s0 m s1) :
    m ∈ ms ∧ ∃ d, rxOne env h s0 m = .ok (s1, d) := by
  induction hh with
  | head hone => exact ⟨List.mem_cons_self, _, hone⟩
  | tail _ _ ih => exact ⟨List.mem_cons_of_mem _ ih.1, ih.2⟩

/-- Whatever a burst adds to the transmit buffer was added while one of its frames was handled. -/
theorem rxBurst_added {env : Env C D} {ty : FrameType} {ms fs : List Mbuf} {s t : RxState C D}
    (hb : rxBurst env (rxHandler env ty) s ms = .ok (t, fs)) {q : Mbuf}
    (hq : q ∈ t.world.tx.added) :
    q ∈ s.world.tx.added ∨ ∃ s0 m s1, Handling env (rxHandler env ty) s ms s0 m s1 ∧
      s1.world.tx.added = s0.world.tx.added ++ [q] := by
  induction ms generalizing s fs with
  | nil =>
    cases hb
    exact Or.inl hq
  | cons m ms ih =>
    obtain ⟨s1, d, gs, hone, hrest, -⟩ := rxBurst_cons_ok hb
    rcases ih hrest with hold | ⟨s0, m0, s2, hh, hadded⟩
    · have hstep : s1.world.tx.added = s.world.tx.added ∨
          ∃ q, s1.world.tx.added = s.world.tx.added ++ [q] := by
        rcases rxOne_ok hone with ⟨e, hw⟩ | ⟨expected, lay, out, -, hacc, hw⟩
        · rw [hw]
          exact Or.inl rfl
        · rw [hw]
          rcases accept_queued hacc with hsame | ⟨q', hq', -⟩
          · exact Or.inl hsame
          · exact Or.inr ⟨q', hq'⟩
      rcases hstep with hsame | ⟨q', hq'⟩
      · exact Or.inl (hsame ▸ hold)
      · rw [hq'] at hold
        rcases List.mem_append.mp hold with hold | hnew
        · exact Or.inl hold
        · obtain rfl := List.mem_singleton.mp hnew
          exact Or.inr ⟨s, m, s1, .head hone, hq'⟩
    · exact Or.inr ⟨s0, m0, s2, .tail hone hh, hadded⟩

/-! ## The stamp of one frame -/

/-- The time stamp a frame of the class carries. -/
def stampOf (cfg : AppConfig) (ty : FrameType) (q : Mbuf) : UInt64 :=
  metaDataToTxTimestamp q.data (getMetaDataOffset ty (cfg.mode ty))

/-- Decoding puts a clock reading into the frame, except for DCP and LLDP. -/
theorem decode_stamped {env : Env C D} {key : C → K} (hl : env.evp.Lawful key) {ty : FrameType}
    (hdcp : ty ≠ .dcp) (hlldp : ty ≠ .lldp) {w : World C D} {p : Mem UInt8} {m : Mbuf}
    (hroom : env.app.mode ty ≠ .none → 60 ≤ m.len.toNat) {r : Received C D}
    (h : (rxHandler env ty).decode w p m (ownLayout ty) = .ok r) :
    stampOf env.app ty r.mbuf = env.mirrorStamp (w.now env) ∧ r.world.ticks = w.ticks + 1 := by
  by_cases hm : env.app.mode ty = .none
  · have hstamp : decodeStamp env ty w = some (env.mirrorStamp (w.now env)) := by
      cases ty <;> first | rfl | exact absurd rfl hdcp | exact absurd rfl hlldp
    have htick : decodeTick ty w = w.tick := by
      cases ty <;> first | rfl | exact absurd rfl hdcp | exact absurd rfl hlldp
    rw [plain_mbuf env ty hm h, metaAt_own, hstamp]
    refine ⟨read64_write_same _ _ _, ?_⟩
    rw [decode_plain env ty hm, htick] at h
    cases h
    rfl
  · obtain ⟨hsec, -⟩ := hasSecurity_of_mode hm
    rw [(secure_class hsec).2.2.1] at h
    have hr := decode_resealed hm h
    refine ⟨?_, hr.ticks⟩
    obtain ⟨hsame, -, -⟩ := sealAgain_spec hl (env.app.cls ty) w m 18
      (env.mirrorStamp (w.now env)) (hroom hm)
    have h60 : 18 + 42 ≤ m.len.toNat := hroom hm
    have haad := (aadLength_room (env.app.cls ty) h60).1
    rw [stampOf, secured_offset hm, hr.mbuf]
    refine (read64_congr fun i hi => hsame _ (by omega)).trans ?_
    exact read64_write_same _ _ _

/-- The edits before mirroring keep the stamp; LLDP writes its own here. -/
theorem forward_stamped (env : Env C D) (ty : FrameType) (w : World C D) (m : Mbuf) :
    let f := (rxHandler env ty).forward w m (ownLayout ty)
    if ty = .lldp then
      stampOf env.app ty f.2 = env.mirrorStamp (w.now env) ∧ f.1.ticks = w.ticks + 1
    else stampOf env.app ty f.2 = stampOf env.app ty m ∧ f.1.ticks = w.ticks := by
  have hoff := metaDataOffset_ethhdr ty (env.app.mode ty)
  have hswap (data : Mem UInt8) (len : Nat) :
      metaDataToTxTimestamp (swapMacAddresses data len) (getMetaDataOffset ty (env.app.mode ty)) =
        metaDataToTxTimestamp data (getMetaDataOffset ty (env.app.mode ty)) :=
    read64_congr fun i _ => swapMacAddresses_above _ _ _ (by omega)
  cases ty with
  | tsnHigh | tsnLow | rtc | rta | l2 | dcp | udpHigh | udpLow => exact ⟨hswap _ _, rfl⟩
  | lldp => exact ⟨read64_write_same _ _ _, rfl⟩

/-- A forwarded frame carries a clock reading made while it was handled. -/
theorem accept_stamped {env : Env C D} {key : C → K} (hl : env.evp.Lawful key) {ty : FrameType}
    (hdcp : ty ≠ .dcp) {w : World C D} {p : Mem UInt8} {m : Mbuf}
    (hroom : env.app.mode ty ≠ .none → 60 ≤ m.len.toNat) {out : Handled C D}
    (h : (rxHandler env ty).accept env w p m (ownLayout ty) = .ok out) {q : Mbuf}
    (hq : out.world.tx.added = w.tx.added ++ [q]) :
    ∃ t, w.ticks ≤ t ∧ t < out.world.ticks ∧
      stampOf env.app ty q = env.mirrorStamp (env.clock t) := by
  obtain ⟨r, w1, hdec, hacc, hcon, -⟩ := accept_ok h
  have htx := account_tx hdec hacc
  have hw1 : w1.ticks = r.world.ticks + 1 := by rw [(account_ok hacc).2]; rfl
  rcases conclude_fate env ty hcon with ⟨-, x, l, hw⟩ | ⟨-, -, -, hw⟩
  · rw [hw, World.say_tx, World.setRx_tx, htx] at hq
    simp at hq
  · have hfw := forward_world env ty (w1.setRx (w1.thread.rxSequenceCounter + 1)) r.mbuf
      (ownLayout ty)
    have hst := forward_stamped env ty (w1.setRx (w1.thread.rxSequenceCounter + 1)) r.mbuf
    rw [hw, World.enqueue_added, hfw.2.2.1, World.setRx_tx, htx] at hq
    obtain rfl : _ = q := by simpa using hq
    rw [hw, World.enqueue_ticks]
    by_cases hlldp : ty = .lldp
    · subst hlldp
      cases hdec
      exact ⟨w1.ticks, by rw [hw1]; exact Nat.le_succ _, by rw [hst.2]; exact Nat.lt_succ_self _,
        hst.1⟩
    · simp only [hlldp, if_false] at hst
      obtain ⟨hstamp, hticks⟩ := decode_stamped hl hdcp hlldp hroom hdec
      refine ⟨w.ticks, Nat.le_refl _, ?_, hst.1.trans hstamp⟩
      rw [hst.2, World.setRx_ticks, hw1, hticks]
      omega

/-! ## Frames on the wire -/

/-- A configuration whose frames hold the headers of the class, its time stamp
and its checksum. -/
structure Fits (cfg : AppConfig) (ty : FrameType) : Prop where
  stamp : getMetaDataOffset ty (cfg.mode ty) + 16 ≤ (cfg.cls ty).frameLength.toNat
  secure : cfg.mode ty ≠ .none → 60 ≤ (cfg.cls ty).frameLength.toNat
  high : (cfg.cls ty).frameLength.toNat < 2 ^ 16

/-- What every frame of the class looks like when it leaves its sender. -/
structure Outgoing (cfg : AppConfig) (ty : FrameType) (f : Mbuf) : Prop where
  length : f.dataLen.toNat = (cfg.cls ty).frameLength.toNat
  tagged : isVlan ty = true → read16 f.data 12 = ethP8021Q

/-- Preparing a frame leaves its Ethernet header alone. -/
theorem prepareFrame_header {env : Env C D} {key : C → K} (hl : env.evp.Lawful key) {ty : FrameType}
    {n seq t : UInt64} {w w' : World C D} {m f : Mbuf}
    (hroom : env.app.mode ty ≠ .none → 60 ≤ m.dataLen.toNat)
    (h : prepareFrame env ty n seq t w m = .ok (w', f)) :
    f.dataLen = m.dataLen ∧ w'.tx = w.tx ∧ ∀ i, i < 14 → f.data i = m.data i := by
  have hstamp (off i : Nat) (hoff : 14 ≤ off) (hi : i < 14) :
      stampMetaData m.data off seq n t i = m.data i :=
    stampMetaData_outside _ _ _ _ _ _ (Or.inl (by omega))
  by_cases hm : env.app.mode ty = .none
  · rw [prepareFrame_plain env ty hm] at h
    cases h
    refine ⟨rfl, rfl, fun i hi => hstamp _ i ?_ hi⟩
    exact metaDataOffset_ethhdr ty _
  · obtain ⟨hsec, hmode⟩ := hasSecurity_of_mode hm
    have hlen := hroom hm
    simp only [prepareFrame, hsec, if_true] at h
    cases hp : prepareFrameForTx env.evp (prepareConfig env ty w.thread m n seq t) with
    | error e =>
      rw [hp] at h
      cases h
    | ok p =>
      rw [hp] at h
      cases h
      refine ⟨rfl, rfl, fun i hi => ?_⟩
      refine (prepare_header hl ?_ hlen hp i (by omega)).trans (hstamp 28 i (by omega) hi)
      change (env.app.cls ty).securityMode ≠ .none
      rw [← hmode]
      exact hm

/-- The frames of the class and what has been sent of them. -/
structure Sends (cfg : AppConfig) (ty : FrameType) (q : TxQueue D) : Prop where
  frames : ∀ f ∈ q.added, Outgoing cfg ty f
  within : q.Within

theorem Sends.add {cfg : AppConfig} {ty : FrameType} {q : TxQueue D} (h : Sends cfg ty q)
    (dev : TxDevice D) {f : Mbuf} (hf : Outgoing cfg ty f) :
    Sends cfg ty (lportTxBufferAdd dev q f) := by
  refine ⟨fun g hg => ?_, lportTxBufferAdd_within dev q f h.within⟩
  rw [lportTxBufferAdd_added] at hg
  rcases List.mem_append.mp hg with hg | hg
  · exact h.frames g hg
  · rw [List.mem_singleton.mp hg]
    exact hf

theorem genFrame_sends {env : Env C D} {key : C → K} (hl : env.evp.Lawful key) {ty : FrameType}
    (hfit : Fits env.app ty) {n seq t : UInt64} {w w' : World C D} {m : Mbuf}
    (hw : Sends env.app ty w.tx) (h : genFrame env ty n seq t w m = .ok w') :
    Sends env.app ty w'.tx := by
  have hdlen : (initializeFrame env.app env.mac ty m).dataLen.toNat =
      (env.app.cls ty).frameLength.toNat := by
    rw [(initializeFrame_lengths env.app env.mac ty m).1, UInt64.toNat_toUInt16]
    exact Nat.mod_eq_of_lt hfit.high
  simp only [genFrame, bind, Except.bind] at h
  split at h
  · cases h
  · rename_i v hprep
    obtain ⟨hd, htx, hhead⟩ := prepareFrame_header hl (fun hm => by
      rw [hdlen]
      exact hfit.secure hm) hprep
    split at h
    · cases h
    · rename_i w1 hstat
      have hw1 := (World.applyStat_ok hstat).2
      cases h
      rw [hw1]
      refine Sends.add (by rw [htx]; exact hw) env.dev ⟨?_, fun hv => ?_⟩
      · rw [hd, hdlen]
      · rw [← (initializeFrame_built env.app env.mac ty m).tagged hv]
        exact read16_congr fun i hi => hhead _ (by omega)

theorem genFrames_sends {env : Env C D} {key : C → K} (hl : env.evp.Lawful key) {ty : FrameType}
    (hfit : Fits env.app ty) {n t seq : UInt64} {ms : List Mbuf} {w w' : World C D}
    (hw : Sends env.app ty w.tx) (h : genFrames env ty n t seq w ms = .ok w') :
    Sends env.app ty w'.tx := by
  induction ms generalizing seq w with
  | nil =>
    cases h
    exact hw
  | cons m ms ih =>
    simp only [genFrames, bind, Except.bind] at h
    split at h
    · cases h
    · rename_i w1 hone
      exact ih (genFrame_sends hl hfit hw hone) h

theorem generate_sends {env : Env C D} {key : C → K} (hl : env.evp.Lawful key) {ty : FrameType}
    (hfit : Fits env.app ty) {n : UInt64} {mbufs : Option (List Mbuf)} {w w' : World C D}
    (hw : Sends env.app ty w.tx) (h : genAndSendFrames env ty n mbufs w = .ok w') :
    Sends env.app ty w'.tx := by
  unfold genAndSendFrames at h
  simp only at h
  split at h
  · cases h
    exact hw
  · cases mbufs with
    | none =>
      cases h
      exact hw
    | some ms =>
      simp only [bind, Except.bind] at h
      split at h
      · cases h
      · rename_i w1 hgen
        have hw1 := genFrames_sends hl hfit (w := w.tick) hw hgen
        cases h
        exact ⟨hw1.frames, lportTxBufferFlush_within env.dev _ hw1.within⟩

/-- A frame that arrives has the configured length, and its tag if the class has one. -/
theorem Outgoing.arrives {cfg : AppConfig} {ty : FrameType} (hfit : Fits cfg ty) {f m : Mbuf}
    (hf : Outgoing cfg ty f) (h : Arrives f.wire m) :
    m.len.toNat = (cfg.cls ty).frameLength.toNat ∧
      m.dataLen.toNat = (cfg.cls ty).frameLength.toNat ∧ seenLayout ty m = ownLayout ty ∧
      (∀ i, i < (cfg.cls ty).frameLength.toNat → m.data i = f.data i) := by
  obtain ⟨hcar, hlen⟩ := arrives_carries h
  rw [hf.length] at hcar hlen
  have hdlen : m.dataLen.toNat = (cfg.cls ty).frameLength.toNat := by
    rw [← hlen, Mbuf.len_toNat, h.length, UInt16.toNat_toUInt32]
  refine ⟨hlen, hdlen, ?_, hcar⟩
  unfold seenLayout ownLayout
  cases hv : isVlan ty with
  | false => rfl
  | true =>
    have hstamp := hfit.stamp
    have htag : m.tagged = true := by
      have h12 : read16 m.data 12 = ethP8021Q :=
        (hcar.read16 12 (by omega)).trans (hf.tagged hv)
      simp only [Mbuf.tagged, h12, decide_true]
    simp [layoutOf, htag, ethHeaderSize]

/-- Decoding leaves the Ethernet header and the lengths alone. -/
theorem decode_header {env : Env C D} {key : C → K} (hl : env.evp.Lawful key) {ty : FrameType}
    {w : World C D} {p : Mem UInt8} {m : Mbuf}
    (hroom : env.app.mode ty ≠ .none → 60 ≤ m.len.toNat) {r : Received C D}
    (h : (rxHandler env ty).decode w p m (ownLayout ty) = .ok r) (i : Nat) (hi : i < 14) :
    r.mbuf.data i = m.data i := by
  by_cases hm : env.app.mode ty = .none
  · have hoff := metaDataOffset_ethhdr ty (env.app.mode ty)
    rw [plain_mbuf env ty hm h, metaAt_own]
    exact restamp_outside _ _ (Or.inl (by omega))
  · obtain ⟨hsec, -⟩ := hasSecurity_of_mode hm
    rw [(secure_class hsec).2.2.1] at h
    rw [(decode_resealed hm h).mbuf]
    obtain ⟨hsame, -, -⟩ := sealAgain_spec hl (env.app.cls ty) w m 18
      (env.mirrorStamp (w.now env)) (hroom hm)
    exact (hsame i (by omega)).trans (stamp_below _ _ _ _ (by omega))

/-- What a mirror queues for a frame of the class is again a frame of the class. -/
theorem forwards_outgoing {env : Env C D} {key : C → K} (hl : env.evp.Lawful key) {ty : FrameType}
    (hfit : Fits env.app ty) {w : World C D} {p : Mem UInt8} {f m q : Mbuf}
    (hf : Outgoing env.app ty f) (harr : Arrives f.wire m)
    (h : Forwards env ty w p m (ownLayout ty) q) : Outgoing env.app ty q := by
  obtain ⟨hlen, hdlen, -, hcar⟩ := hf.arrives hfit harr
  obtain ⟨r, w1, hdec, -, -, -, rfl⟩ := h
  have hspec := decode_spec env ty hdec
  have hstamp := hfit.stamp
  have hoff := metaDataOffset_ethhdr ty (env.app.mode ty)
  obtain ⟨hd, -, hbytes⟩ := forward_edits env ty
    (w1.setRx (w1.thread.rxSequenceCounter + 1)) r.mbuf (by
      rintro rfl
      rw [hspec.dataLen, hspec.pktLen]
      constructor
      · rw [← UInt16.toNat_inj, hdlen, UInt64.toNat_toUInt16]
        exact (Nat.mod_eq_of_lt hfit.high).symm
      · have hhigh := hfit.high
        rw [← UInt32.toNat_inj, ← Mbuf.len_toNat, hlen, UInt64.toNat_toUInt32]
        exact (Nat.mod_eq_of_lt (by omega)).symm)
  refine ⟨by rw [hd, hspec.dataLen, hdlen], fun hv => ?_⟩
  rw [← hf.tagged hv]
  apply read16_congr
  intro i hi
  rw [hbytes _ (by omega) (Or.inr (Or.inl (by omega))), decode_header hl (fun hm => by
    rw [hlen]
    exact hfit.secure hm) hdec _ (by omega), hcar _ (by omega)]

/-- What happens while a mirror handles a frame of the class. -/
theorem handling_forwarded {env : Env C D} {key : C → K} (hl : env.evp.Lawful key) {ty : FrameType}
    (hdcp : ty ≠ .dcp) (hfit : Fits env.app ty) {s s0 s1 : RxState C D} {ms : List Mbuf} {m f : Mbuf}
    (hh : Handling env (rxHandler env ty) s ms s0 m s1) (hf : Outgoing env.app ty f)
    (harr : Arrives f.wire m) {q : Mbuf}
    (hq : s1.world.tx.added = s0.world.tx.added ++ [q]) :
    Outgoing env.app ty q ∧ ∃ t, s0.world.ticks ≤ t ∧ t < s1.world.ticks ∧
      stampOf env.app ty q = env.mirrorStamp (env.clock t) := by
  obtain ⟨-, d, hone⟩ := hh.spec
  obtain ⟨hlen, -, hlay, -⟩ := hf.arrives hfit harr
  rcases rxOne_ok hone with ⟨e, hw⟩ | ⟨expected, lay, out, hc, hacc, hw⟩
  · rw [hw] at hq
    simp at hq
  · rw [check_layout hc, hlay] at hacc
    rw [hw] at hq ⊢
    have hroom : env.app.mode ty ≠ .none → 60 ≤ m.len.toNat := fun hm => by
      rw [hlen]
      exact hfit.secure hm
    refine ⟨?_, accept_stamped hl hdcp hroom hacc hq⟩
    rcases accept_queued hacc with hsame | ⟨q', hq', hfw⟩
    · rw [hsame] at hq
      simp at hq
    · rw [hq'] at hq
      obtain rfl : q' = q := by simpa using hq
      exact forwards_outgoing hl hfit hf harr hfw

/-! ## The transmit buffer over a burst -/

theorem rxOne_tx {env : Env C D} {ty : FrameType} {s s' : RxState C D} {m : Mbuf} {d : Option Mbuf}
    (hone : rxOne env (rxHandler env ty) s m = .ok (s', d)) :
    s'.world.tx = s.world.tx ∨
      env.mirrorMode = true ∧ ∃ q, s'.world.tx = lportTxBufferAdd env.dev s.world.tx q := by
  rcases rxOne_ok hone with ⟨e, hw⟩ | ⟨expected, lay, out, -, hacc, hw⟩
  · rw [hw]
    exact Or.inl rfl
  · rw [hw]
    rcases accept_tx hacc with hsame | ⟨q, hq, r, w1, -, -, hmirror, -, -⟩
    · exact Or.inl hsame
    · exact Or.inr ⟨hmirror, q, hq⟩

/-- What adding a frame keeps, a burst keeps. -/
theorem rxBurst_queue {env : Env C D} {ty : FrameType} {P : TxQueue D → Prop}
    (hadd : ∀ q m, P q → P (lportTxBufferAdd env.dev q m)) {ms fs : List Mbuf} {s t : RxState C D}
    (hb : rxBurst env (rxHandler env ty) s ms = .ok (t, fs)) (hs : P s.world.tx) :
    P t.world.tx := by
  induction ms generalizing s fs with
  | nil =>
    cases hb
    exact hs
  | cons m ms ih =>
    obtain ⟨s1, d, gs, hone, hrest, -⟩ := rxBurst_cons_ok hb
    apply ih hrest
    rcases rxOne_tx hone with hsame | ⟨-, q, hq⟩
    · rw [hsame]
      exact hs
    · rw [hq]
      exact hadd _ q hs

theorem rxBurst_tx {env : Env C D} {ty : FrameType} {ms fs : List Mbuf} {s t : RxState C D}
    (hb : rxBurst env (rxHandler env ty) s ms = .ok (t, fs)) (href : env.mirrorMode = false) :
    t.world.tx = s.world.tx := by
  induction ms generalizing s fs with
  | nil =>
    cases hb
    rfl
  | cons m ms ih =>
    obtain ⟨s1, d, gs, hone, hrest, -⟩ := rxBurst_cons_ok hb
    rcases rxOne_tx hone with hsame | ⟨hmirror, -⟩
    · exact (ih hrest).trans hsame
    · rw [href] at hmirror
      cases hmirror

/-! ## Runs -/

/-- The two nodes have the same configuration of the class. -/
def SameClass (cfg cfg' : AppConfig) (ty : FrameType) : Prop := cfg'.cls ty = cfg.cls ty

theorem SameClass.mode {cfg cfg' : AppConfig} {ty : FrameType} (h : SameClass cfg cfg' ty) :
    cfg'.mode ty = cfg.mode ty := by
  unfold AppConfig.mode
  rw [h]

theorem SameClass.fits {cfg cfg' : AppConfig} {ty : FrameType} (h : SameClass cfg cfg' ty)
    (hfit : Fits cfg ty) : Fits cfg' ty := by
  refine ⟨?_, ?_, ?_⟩
  · rw [h.mode, h]
    exact hfit.stamp
  · rw [h.mode, h]
    exact hfit.secure
  · rw [h]
    exact hfit.high

theorem SameClass.outgoing {cfg cfg' : AppConfig} {ty : FrameType} (h : SameClass cfg cfg' ty)
    {f : Mbuf} : Outgoing cfg' ty f ↔ Outgoing cfg ty f := by
  constructor
  · exact fun hf => ⟨h ▸ hf.length, hf.tagged⟩
  · exact fun hf => ⟨by rw [h]; exact hf.length, hf.tagged⟩

/-- In a run from `start` to `net` the mirror queued `q` while it handled a frame
of the reference, and took its clock reading number `t` meanwhile. -/
def ForwardedAt (env : Env C D) (envM : Env C' D') (ty : FrameType) (start net : Net C D C' D')
    (q : Mbuf) (t : Nat) : Prop :=
  ∃ net0 stack ms w freed s0 m s1, Run Guards.any env envM ty start net0 ∧
    ComesFrom net0.ref.tx.sent ms ∧ rxFrame envM ty stack net0.mirror ms = .ok (w, freed) ∧
    Run Guards.any env envM ty { net0 with mirror := w } net ∧
    Handling envM (rxHandler envM ty) ⟨net0.mirror, (envM.app.cls ty).frameLength, stack⟩ ms s0 m
      s1 ∧
    s1.world.tx.added = s0.world.tx.added ++ [q] ∧ s0.world.ticks ≤ t ∧ t < s1.world.ticks

theorem ForwardedAt.step {env : Env C D} {envM : Env C' D'} {ty : FrameType}
    {start net net' : Net C D C' D'} {q : Mbuf} {t : Nat}
    (h : ForwardedAt env envM ty start net q t) (hs : Step Guards.any env envM ty net net') :
    ForwardedAt env envM ty start net' q t := by
  obtain ⟨net0, stack, ms, w, freed, s0, m, s1, hrun, hms, hrx, hrest, hrem⟩ := h
  exact ⟨net0, stack, ms, w, freed, s0, m, s1, hrun, hms, hrx, hrest.tail hs, hrem⟩

/-- The frame carries the mirror's clock reading of the time it was handled. -/
def CarriesOwnStamp (env : Env C D) (envM : Env C' D') (ty : FrameType) (start net : Net C D C' D')
    (q : Mbuf) : Prop :=
  ∃ t, ForwardedAt env envM ty start net q t ∧
    stampOf envM.app ty q = envM.mirrorStamp (envM.clock t)

theorem CarriesOwnStamp.step {env : Env C D} {envM : Env C' D'} {ty : FrameType}
    {start net net' : Net C D C' D'} {q : Mbuf} (h : CarriesOwnStamp env envM ty start net q)
    (hs : Step Guards.any env envM ty net net') : CarriesOwnStamp env envM ty start net' q := by
  obtain ⟨t, hat, hstamp⟩ := h
  exact ⟨t, hat.step hs, hstamp⟩

structure Inv (env : Env C D) (envM : Env C' D') (ty : FrameType) (start net : Net C D C' D') :
    Prop where
  ref : Sends env.app ty net.ref.tx
  mirror : Sends env.app ty net.mirror.tx
  stamps : ∀ q ∈ net.mirror.tx.added, CarriesOwnStamp env envM ty start net q

theorem start_inv (env : Env C D) (envM : Env C' D') (ty : FrameType) (ctx : C) (dev : D) (ctxM : C')
    (devM : D') : Inv env envM ty (Net.start env envM ty ctx dev ctxM devM)
      (Net.start env envM ty ctx dev ctxM devM) where
  ref := ⟨fun f h => (by cases h), fun f h => (by rcases h with h | h <;> cases h)⟩
  mirror := ⟨fun f h => (by cases h), fun f h => (by rcases h with h | h <;> cases h)⟩
  stamps q h := by cases h

theorem mirrorRx_inv {env : Env C D} {envM : Env C' D'} {keyM : C' → K'}
    (hlM : envM.evp.Lawful keyM) {ty : FrameType} (hcls : SameClass env.app envM.app ty)
    (hdcp : ty ≠ .dcp) (hfit : Fits env.app ty) {start net : Net C D C' D'}
    (hrun : Run Guards.any env envM ty start net) (hi : Inv env envM ty start net)
    {stack : Mem UInt8} {ms : List Mbuf} (hms : ComesFrom net.ref.tx.sent ms) {w : World C' D'}
    {freed : List Mbuf} (h : rxFrame envM ty stack net.mirror ms = .ok (w, freed)) :
    Inv env envM ty start { net with mirror := w } := by
  have hstep : Step Guards.any env envM ty net { net with mirror := w } :=
    Step.mirrorRx stack ms trivial hms h
  obtain ⟨t, fs, hb, rfl⟩ := rxFrame_ok h
  have hq (q : Mbuf) (hq : q ∈ t.world.tx.added) : Outgoing env.app ty q ∧
      CarriesOwnStamp env envM ty start { net with mirror := t.world } q := by
    rcases rxBurst_added hb hq with hold | ⟨s0, m, s1, hh, hadded⟩
    · exact ⟨hi.mirror.frames q hold, (hi.stamps q hold).step hstep⟩
    · obtain ⟨f, hf, harr⟩ := hms m hh.spec.1
      have hout := hcls.outgoing.mpr (hi.ref.frames f (hi.ref.within f (Or.inl hf)))
      obtain ⟨hnew, k, hlow, hhigh, hstamp⟩ :=
        handling_forwarded hlM hdcp (hcls.fits hfit) hh hout harr hadded
      exact ⟨hcls.outgoing.mp hnew, k, ⟨net, stack, ms, t.world, freed, s0, m, s1, hrun, hms, h,
        .refl, hh, hadded, hlow, hhigh⟩, hstamp⟩
  exact ⟨hi.ref, ⟨fun q h => (hq q h).1,
    rxBurst_queue (lportTxBufferAdd_within envM.dev) hb hi.mirror.within⟩, fun q h => (hq q h).2⟩

theorem run_inv {env : Env C D} {envM : Env C' D'} {key : C → K} {keyM : C' → K'}
    (hl : env.evp.Lawful key) (hlM : envM.evp.Lawful keyM) {ty : FrameType}
    (hcls : SameClass env.app envM.app ty) (href : env.mirrorMode = false) (hdcp : ty ≠ .dcp)
    (hfit : Fits env.app ty) {ctx : C} {dev : D} {ctxM : C'} {devM : D'} {net : Net C D C' D'}
    (h : Run Guards.any env envM ty (Net.start env envM ty ctx dev ctxM devM) net) :
    Inv env envM ty (Net.start env envM ty ctx dev ctxM devM) net := by
  induction h with
  | refl => exact start_inv env envM ty ctx dev ctxM devM
  | tail hrun hstep hi =>
    have hkeep := fun q hq => (hi.stamps q hq).step hstep
    cases hstep with
    | generate mbufs hg hlen h =>
      exact ⟨generate_sends hl hfit hi.ref h, hi.mirror, hkeep⟩
    | mirrorRx stack ms hg hms h => exact mirrorRx_inv hlM hcls hdcp hfit hrun hi hms h
    | mirrorTx h =>
      obtain ⟨-, -, htx, -⟩ := sendFramesCommon_ok h
      refine ⟨hi.ref, ⟨?_, ?_⟩, fun q hq => hkeep q ?_⟩
      · rw [htx]
        exact hi.mirror.frames
      · rw [htx]
        exact lportTxBufferFlush_within envM.dev _ hi.mirror.within
      · rw [htx] at hq
        exact hq
    | refRx stack ms hg hms h =>
      obtain ⟨t, fs, hb, rfl⟩ := rxFrame_ok h
      refine ⟨?_, hi.mirror, hkeep⟩
      rw [rxBurst_tx hb href]
      exact hi.ref

/-! ## The reference's measurement -/

/-- Decoding reads the clock at most once. -/
theorem decode_ticks {env : Env C D} {ty : FrameType} {w : World C D} {p : Mem UInt8} {m : Mbuf}
    {lay : Layout} {r : Received C D}
    (h : (rxHandler env ty).decode w p m lay = .ok r) : w.ticks ≤ r.world.ticks := by
  by_cases hm : env.app.mode ty = .none
  · rw [decode_plain env ty hm] at h
    cases h
    cases ty <;> first | exact Nat.le_refl _ | exact Nat.le_succ _
  · rw [(decode_resealed hm h).ticks]
    exact Nat.le_succ _

/-- While the reference handles `m` it takes no sample, or one with the time
stamp `stamp` and a clock reading of its own. -/
def Samples (env : Env C D) (ty : FrameType) (s0 s1 : RxState C D) (stamp : UInt64) : Prop :=
  ∃ (k : UInt64) (v : Verdict) (now : Nat), s0.world.ticks ≤ now ∧ now < s1.world.ticks ∧
    s1.world.stat = (statFrameReceived env.statConfig s0.world.stat ty k v.outOfOrder
      v.payloadMismatch v.frameIdMismatch stamp (env.clock now)).stat

theorem handling_samples {env : Env C D} {ty : FrameType} (href : env.mirrorMode = false)
    (hfit : Fits env.app ty) {s s0 s1 : RxState C D} {ms : List Mbuf} {m q : Mbuf}
    (hh : Handling env (rxHandler env ty) s ms s0 m s1)
    (hq : Outgoing env.app ty q) (harr : Arrives q.wire m) :
    s1.world.stat = s0.world.stat ∨ Samples env ty s0 s1 (stampOf env.app ty q) := by
  obtain ⟨-, d, hone⟩ := hh.spec
  obtain ⟨-, -, hlay, hcar⟩ := hq.arrives hfit harr
  rcases rxOne_ok hone with ⟨e, hw⟩ | ⟨expected, lay, out, hc, hacc, hw⟩
  · rw [hw]
    exact Or.inl rfl
  · right
    rw [check_layout hc, hlay] at hacc
    obtain ⟨r, w1, hdec, hcount, hcon, -⟩ := accept_ok hacc
    have hspec := decode_spec env ty hdec
    have hacct := (account_ok hcount).2
    have hstamp : r.txTimestamp = stampOf env.app ty q := by
      have hroom := hfit.stamp
      rw [hspec.txTimestamp, metaAt_own]
      exact read64_congr fun i hi => hcar _ (by omega)
    rcases conclude_fate env ty hcon with ⟨-, x, l, hout⟩ | ⟨-, hmirror, -, -⟩
    · refine ⟨r.sequenceCounter, (rxHandler env ty).verdict r, r.world.ticks, decode_ticks hdec,
        ?_, ?_⟩
      · rw [hw, hout, hacct]
        exact Nat.lt_succ_self _
      · rw [hw, hout, World.say_stat, World.setRx_stat, hacct, ← hstamp, ← hspec.stat, handler_ty]
        rfl
    · rw [href] at hmirror
      cases hmirror

/-- The time stamp lies inside the frame. The sanity check sees to it for all classes but UDP. -/
def StampFits (cfg : AppConfig) (ty : FrameType) : Prop :=
  getMetaDataOffset ty (cfg.mode ty) + 16 ≤ (cfg.cls ty).frameLength.toNat

theorem fits_of_sane {withMqtt : Bool} {cfg : AppConfig} {ty : FrameType}
    (hsane : configSanityCheck withMqtt cfg = .ok ()) (hstamp : StampFits cfg ty) : Fits cfg ty := by
  refine ⟨hstamp, fun hm => ?_, Nat.lt_of_le_of_lt (frameLength_bounds hsane ty).2 (by decide)⟩
  have hsec := (hasSecurity_of_mode hm).1
  have hroom := frameLength_room hsane ty (by rintro rfl; cases hsec)
    (by rintro rfl; cases hsec)
  rw [secured_offset hm, if_neg hm] at hroom
  omega

/-- **One-way samples.**  In every run, for all classes but DCP: each frame the
mirror forwarded carries the clock reading made while it was handled, and the
samples the reference takes from what the mirror sent start from that reading. -/
theorem oneway_from_mirror {env : Env C D} {envM : Env C' D'} {key : C → K} {keyM : C' → K'}
    (hl : env.evp.Lawful key) (hlM : envM.evp.Lawful keyM) {withMqtt : Bool}
    (hsane : configSanityCheck withMqtt env.app = .ok ()) {ty : FrameType}
    (hcls : SameClass env.app envM.app ty) (href : env.mirrorMode = false) (hdcp : ty ≠ .dcp)
    (hstamp : StampFits env.app ty) {ctx : C} {dev : D} {ctxM : C'} {devM : D'}
    {net : Net C D C' D'}
    (hrun : Run Guards.any env envM ty (Net.start env envM ty ctx dev ctxM devM) net) :
    (∀ q ∈ net.mirror.tx.added,
      CarriesOwnStamp env envM ty (Net.start env envM ty ctx dev ctxM devM) net q) ∧
    ∀ ms, ComesFrom net.mirror.tx.sent ms → ∀ stack s0 m s1,
      Handling env (rxHandler env ty) ⟨net.ref, (env.app.cls ty).frameLength, stack⟩ ms s0 m s1 →
        s1.world.stat = s0.world.stat ∨
        ∃ q ∈ net.mirror.tx.sent, Arrives q.wire m ∧
          ∃ t, ForwardedAt env envM ty (Net.start env envM ty ctx dev ctxM devM) net q t ∧
            Samples env ty s0 s1 (envM.mirrorStamp (envM.clock t)) := by
  have hfit := fits_of_sane hsane hstamp
  have hi := run_inv hl hlM hcls href hdcp hfit hrun
  refine ⟨hi.stamps, fun ms hms stack s0 m s1 hh => ?_⟩
  obtain ⟨q, hq, harr⟩ := hms m hh.spec.1
  have hadded := hi.mirror.within q (Or.inl hq)
  obtain ⟨t, hat, hst⟩ := hi.stamps q hadded
  rcases handling_samples href hfit hh (hi.mirror.frames q hadded) harr with hnone | hsample
  · exact Or.inl hnone
  · refine Or.inr ⟨q, hq, harr, t, hat, ?_⟩
    rw [← hst, stampOf, hcls.mode]
    exact hsample

/-! A reference and a mirror for frames of 40 bytes, one per cycle. The mirror's
clock is five milliseconds ahead. -/

def refNode : Env DigestCtx Unit := Env.small (AppConfig.small .none 40 1 []) false

def mirrorNode : Env DigestCtx Unit :=
  { Env.small (AppConfig.small .none 40 1 []) true with
    clock := fun i => 5000000 + 1000 * UInt64.ofNat i }

def tripStart (ty : FrameType) : Net DigestCtx Unit DigestCtx Unit :=
  Net.start refNode mirrorNode ty DigestCtx.fresh () DigestCtx.fresh ()

/-- The reference after one cycle, and the mirror after it handled what was sent. -/
def trip (ty : FrameType) : Except Stop (Net DigestCtx Unit DigestCtx Unit) := do
  let w ← genAndSendFrames refNode ty 1 (some [⟨0, fun _ => 0, 0, 0⟩]) (tripStart ty).ref
  let (w', _) ← rxFrame mirrorNode ty (fun _ => 0) (tripStart ty).mirror w.tx.sent
  .ok ⟨w, w'⟩

/-- Lengths agree in the sent mbufs; time stamps of the forwarded frames and the
number of clock readings of the mirror. -/
def outcome (ty : FrameType) : Option (Bool × List UInt64 × Nat) :=
  match trip ty with
  | .ok net => some (net.ref.tx.sent.all fun m => m.pktLen == m.dataLen.toUInt32,
      net.mirror.tx.added.map (stampOf mirrorNode.app ty), net.mirror.ticks)
  | .error _ => none

theorem trip_run (ty : FrameType) (stamps : List UInt64) (ticks : Nat)
    (h : outcome ty = some (true, stamps, ticks)) :
    ∃ net, Run Guards.any refNode mirrorNode ty (tripStart ty) net ∧
      net.mirror.tx.added.map (stampOf mirrorNode.app ty) = stamps ∧ net.mirror.ticks = ticks := by
  unfold outcome trip at h
  simp only [bind, Except.bind] at h
  cases hgen : genAndSendFrames refNode ty 1 (some [⟨0, fun _ => 0, 0, 0⟩]) (tripStart ty).ref with
  | error e =>
    rw [hgen] at h
    cases h
  | ok w =>
    rw [hgen] at h
    simp only at h
    cases hrx : rxFrame mirrorNode ty (fun _ => 0) (tripStart ty).mirror w.tx.sent with
    | error e =>
      rw [hrx] at h
      cases h
    | ok p =>
      rw [hrx] at h
      obtain ⟨hlen, hstamps, hticks⟩ : _ ∧ _ ∧ _ := by
        simpa only [Option.some.injEq, Prod.mk.injEq] using h
      refine ⟨⟨w, p.1⟩, run_cycle (tripStart ty) trivial trivial ?_ hgen ?_ hrx, hstamps,
        hticks⟩
      · cases ty <;> rfl
      · intro m hm
        simpa using List.all_eq_true.mp hlen m hm

theorem refNode_sane : configSanityCheck false refNode.app = .ok () := by rfl

theorem refNode_lawful : refNode.evp.Lawful (fun _ : DigestCtx => ()) := digestEvp_lawful

theorem mirrorNode_lawful : mirrorNode.evp.Lawful (fun _ : DigestCtx => ()) := digestEvp_lawful

theorem oneway_from_mirror_trip :
    ∃ net, net.mirror.tx.added.length = 1 ∧ ∀ q ∈ net.mirror.tx.added,
      CarriesOwnStamp refNode mirrorNode .tsnHigh (tripStart .tsnHigh) net q := by
  obtain ⟨net, hrun, hstamps, -⟩ := trip_run .tsnHigh [5400000] 2 (by decide +kernel)
  refine ⟨net, by simpa using congrArg List.length hstamps, ?_⟩
  exact (oneway_from_mirror refNode_lawful mirrorNode_lawful refNode_sane rfl rfl (by decide)
    (by change 36 ≤ 40; decide) hrun).1

/-- DCP frames come back with the time stamp of the reference. -/
theorem dcp_keeps_stamp :
    ∃ net, Run Guards.any refNode mirrorNode .dcp (tripStart .dcp) net ∧
      ∃ q ∈ net.mirror.tx.added, ∀ t, t < net.mirror.ticks →
        stampOf mirrorNode.app .dcp q ≠ mirrorNode.mirrorStamp (mirrorNode.clock t) := by
  obtain ⟨net, hrun, hstamps, hticks⟩ := trip_run .dcp [0] 1 (by decide +kernel)
  obtain ⟨q, hq, hz⟩ := List.mem_map.mp (hstamps ▸ List.mem_singleton_self (0 : UInt64))
  refine ⟨net, hrun, q, hq, fun t ht => ?_⟩
  rw [hticks] at ht
  obtain rfl : t = 0 := by omega
  rw [hz]
  decide +kernel

end Rtdk.Latency
