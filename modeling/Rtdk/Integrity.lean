import Rtdk.Agreement
import Rtdk.Gaps
import Rtdk.Latency

/-! Frames with which nothing is wrong but perhaps their counter.

A frame is genuine when it leaves its sender (`prepareFrame_genuine`), after an
unmodified trip (`Genuine.arrives`), and when a mirror forwards it
(`Genuine.forwarded`). Whoever receives a genuine frame without security or in
AO mode finds payload, frame id and checksum in order (`Genuine.decode`), and
judges it by its counter alone (`rxOne_genuine`). -/

namespace Rtdk.Integrity
open Rtdk.Memory Rtdk.Endian Rtdk.NetDef Rtdk.Security Rtdk.Stat Rtdk.Lport Rtdk.Config Rtdk.Frame
open Rtdk.Thread Rtdk.Receive Rtdk.Handlers Rtdk.Checks Rtdk.Builder Rtdk.Decode Rtdk.Generate
open Rtdk.Sealing Rtdk.Reseal Rtdk.SecureTx Rtdk.Agreement Rtdk.Mirror Rtdk.FrameCondition
open Rtdk.Lossless Rtdk.Judge Rtdk.Latency

variable {C D K : Type}

/-- The counter in a frame of the class. -/
def number (cfg : AppConfig) (ty : FrameType) (m : Mbuf) : Nat :=
  (metaDataToSequenceCounter m.data (getMetaDataOffset ty (cfg.mode ty))
    (cfg.cls ty).numFramesPerCycle).toNat

/-- A frame of the class that passes all checks of a receiver with the key `k`,
its counter apart. -/
structure Genuine (cfg : AppConfig) (evp : Evp C) (key : C → K) (k : K) (ty : FrameType)
    (f : Mbuf) : Prop where
  length : f.dataLen.toNat = (cfg.cls ty).frameLength.toNat
  segment : f.pktLen = f.dataLen.toUInt32
  built : Built cfg ty f.data
  authentic : cfg.mode ty = .ao → ∀ ctx, key ctx = k → (aoOpen evp (cfg.cls ty) ctx f 18).ret = 0

theorem Genuine.len {cfg : AppConfig} {evp : Evp C} {key : C → K} {k : K} {ty : FrameType}
    {f : Mbuf} (h : Genuine cfg evp key k ty f) :
    f.len.toNat = (cfg.cls ty).frameLength.toNat := by
  rw [Mbuf.len_toNat, h.segment, UInt16.toNat_toUInt32, h.length]

/-! ## What receivers read -/

/-- The two frames agree where a receiver looks for tag, EtherType, frame id,
counter and payload. -/
def SameContent (cfg : AppConfig) (ty : FrameType) (data data' : Mem UInt8) : Prop :=
  ∀ i, 12 ≤ i →
    (i < getMetaDataOffset ty (cfg.mode ty) + 8 ∨ getMetaDataOffset ty (cfg.mode ty) + 16 ≤ i) →
    i < getMetaDataOffset ty (cfg.mode ty) + 16 + (cfg.cls ty).payloadPattern.length →
    data' i = data i

theorem SameContent.built {cfg : AppConfig} {ty : FrameType} {data data' : Mem UInt8}
    (h : SameContent cfg ty data data') (hb : Built cfg ty data) : Built cfg ty data' := by
  have hge := metaDataOffset_ge ty (cfg.mode ty)
  have hread (a : Nat) (h12 : 12 ≤ a) (ha : a + 2 ≤ getMetaDataOffset ty (cfg.mode ty)) :
      read16 data' a = read16 data a :=
    read16_congr fun i hi => h _ (by omega) (Or.inl (by omega)) (by omega)
  refine ⟨fun hv => ?_, fun hv => ?_, fun hp => ?_, ?_⟩
  · have := hge.1 hv
    rw [hread 12 (by omega) (by omega), hb.tagged hv]
  · have := hge.1 hv
    rw [hread 16 (by omega) (by omega), hb.proto hv]
  · have := hge.2 hp
    rw [hread 18 (by omega) (by omega), hb.frameId hp]
  · have hoff := metaDataOffset_ethhdr ty (cfg.mode ty)
    rw [← hb.payload, slice_length]
    apply slice_congr
    intro i hi
    simp only [payloadOff, sizeofReferenceMetaData]
    exact h _ (by omega) (Or.inr (by omega)) (by omega)

theorem SameContent.number {cfg : AppConfig} {ty : FrameType} {f g : Mbuf}
    (h : SameContent cfg ty f.data g.data) : number cfg ty g = number cfg ty f := by
  have hoff := metaDataOffset_ethhdr ty (cfg.mode ty)
  unfold Rtdk.Integrity.number
  apply congrArg UInt64.toNat
  apply sequenceCounter_congr
  intro i hi
  exact h _ (by omega) (Or.inl (by omega)) (by omega)

/-! ## On the link -/

theorem Genuine.arrives {cfg : AppConfig} {evp : Evp C} {key : C → K} {k : K} {ty : FrameType}
    (hc : Checked cfg ty) {f m : Mbuf} (h : Genuine cfg evp key k ty f) (ha : Arrives f.wire m) :
    Genuine cfg evp key k ty m ∧ m.dataLen = f.dataLen ∧
      ∀ i, i < (cfg.cls ty).frameLength.toNat → m.data i = f.data i := by
  obtain ⟨hcar, hlen⟩ := arrives_carries ha
  rw [h.length] at hcar hlen
  have hlow := hc.low
  have hd : m.dataLen.toNat = (cfg.cls ty).frameLength.toNat := by
    rw [← hlen, Mbuf.len_toNat, ha.length, UInt16.toNat_toUInt32]
  have hdata : m.dataLen = f.dataLen := by rw [← UInt16.toNat_inj, hd, h.length]
  have hsame : SameContent cfg ty f.data m.data := by
    intro i _ _ hi
    exact hcar i (by omega)
  refine ⟨⟨hd, ha.length, hsame.built h.built, fun hm ctx hctx => ?_⟩, hdata, hcar⟩
  have h60 := (hc.secured (by simp [hm])).low
  rw [aoOpen_congr evp (cfg.cls ty) ctx (m := f) (by rw [h.len]; omega)
    (by rw [ha.length, h.segment, hdata]) fun i _ hi => hcar i (by rw [← h.len]; exact hi)]
  exact h.authentic hm ctx hctx

/-! ## The sender -/

/-- What preparing a frame leaves of the world. -/
structure Prepares (w w' : World C D) (key : C → K) : Prop where
  thread : ∃ c, key c = key w.thread.txSecurityContext ∧
    w'.thread = { w.thread with txSecurityContext := c }
  stat : w'.stat = w.stat
  tx : w'.tx = w.tx
  ticks : w'.ticks = w.ticks

theorem prepareFrame_genuine {env : Env C D} {key : C → K} (hl : env.evp.Lawful key)
    {ty : FrameType} (hc : Checked env.app ty) (hae : env.app.mode ty ≠ .ae) {w w' : World C D}
    (hw : SetUp env.app ty w.thread) {m f : Mbuf} {s t : UInt64}
    (hwire : wireCounter s (env.app.cls ty).numFramesPerCycle = s)
    (h : prepareFrame env ty (env.app.cls ty).numFramesPerCycle s t w
      (initializeFrame env.app env.mac ty m) = .ok (w', f)) :
    Genuine env.app env.evp key (key w.thread.txSecurityContext) ty f ∧
      number env.app ty f = s.toNat ∧ stampOf env.app ty f = t ∧ Prepares w w' key := by
  have hlens := initializeFrame_lengths env.app env.mac ty m
  have hbuilt := initializeFrame_built env.app env.mac ty m
  generalize initializeFrame env.app env.mac ty m = im at hlens hbuilt h
  have hhigh := hc.high
  have hlow := hc.low
  have hdl : im.dataLen.toNat = (env.app.cls ty).frameLength.toNat := by
    rw [hlens.1, UInt64.toNat_toUInt16, Nat.mod_eq_of_lt hhigh]
  have hseg : im.pktLen = im.dataLen.toUInt32 := by
    rw [← UInt32.toNat_inj, UInt16.toNat_toUInt32, hdl, hlens.2, UInt64.toNat_toUInt32]
    exact Nat.mod_eq_of_lt (by omega)
  have hstamped := hbuilt.stamp s (env.app.cls ty).numFramesPerCycle t
  cases hm : env.app.mode ty with
  | ae => exact absurd hm hae
  | none =>
    rw [prepareFrame_plain env ty hm] at h
    cases h
    refine ⟨⟨hdl, hseg, hstamped, fun hao => ?_⟩, ?_, ?_, ⟨⟨_, rfl, rfl⟩, rfl, rfl, rfl⟩⟩
    · rw [hm] at hao
      cases hao
    · exact congrArg UInt64.toNat ((stampMetaData_counter _ _ _ _ _).trans hwire)
    · exact stampMetaData_timestamp _ _ _ _ _
  | ao =>
    have hnone : env.app.mode ty ≠ .none := by simp [hm]
    have hs := hc.secured hnone
    have hsec := hs.hasSecurity
    have hmode : (env.app.cls ty).securityMode = .ao := hs.securityMode ▸ hm
    have hoff := secured_offset hnone
    have hpay : w.thread.payloadPatternLength.toNat = (env.app.cls ty).frameLength.toNat - 60 := by
      rw [hw.length, threadSetup_length hs]
    obtain ⟨p, hp, hf⟩ := prepareFrame_secured_ok hsec h
    simp only [prepareFrame, hsec, if_true, hp] at h
    obtain ⟨hdata, -⟩ := prepare_secured hl hs hdl hpay hp
    have hroom : 60 ≤ im.dataLen.toNat := by
      rw [hdl]
      exact hs.low
    have hctx := (prepare_ao hl hmode hroom hp).1.ctx
    have haad : frameAad (env.app.cls ty) = (env.app.cls ty).frameLength.toNat - 34 := by
      simp only [frameAad, hmode]
    rw [if_neg hnone, hoff] at hlow
    rw [hoff] at hstamped
    have hcell (i : Nat) (hi : i < (env.app.cls ty).frameLength.toNat - 16) :
        p.data i = stampMetaData im.data 28 s (env.app.cls ty).numFramesPerCycle t i :=
      hdata i (by omega)
    have hsame : SameContent env.app ty
        (stampMetaData im.data 28 s (env.app.cls ty).numFramesPerCycle t) p.data := by
      intro i _ _ hi
      rw [hoff] at hi
      exact hcell i (by omega)
    have harr : Arrived env ty im f f (env.app.cls ty).numFramesPerCycle s t := by
      subst hf
      refine ⟨hbuilt, hdl, ⟨rfl, fun i hi => ?_⟩, rfl, hseg⟩
      rw [hoff] at hi ⊢
      exact hcell i (by omega)
    subst hf
    refine ⟨⟨hdl, hseg, hsame.built hstamped, fun _ ctx hk => ?_⟩, ?_, ?_, ?_⟩
    · exact openFrame_ao hl hmode hp (arrived_unmodified hs hw harr) hwire ctx hk.symm
    · let stamped : Mbuf :=
        { im with data := stampMetaData im.data 28 s (env.app.cls ty).numFramesPerCycle t }
      have hnum : number env.app ty stamped = s.toNat := by
        unfold number
        rw [hoff, stampMetaData_counter, hwire]
      exact (hsame.number (f := stamped)).trans hnum
    · unfold stampOf
      rw [hoff, ← stampMetaData_timestamp im.data 28 s (env.app.cls ty).numFramesPerCycle t]
      exact txTimestamp_congr fun i hi => hcell _ (by omega)
    · cases h
      refine ⟨⟨p.ctx, ?_, rfl⟩, rfl, rfl, rfl⟩
      rw [hctx]
      exact hl.encrypt_key _ _ _ _

/-! ## The receiver -/

theorem Genuine.check {env : Env C D} {key : C → K} {k : K} {ty : FrameType}
    (hc : Checked env.app ty) (het : EtherTypeFits env.app ty) {m : Mbuf}
    (h : Genuine env.app env.evp key k ty m) :
    (rxHandler env ty).check (env.app.cls ty).frameLength m =
      ((env.app.cls ty).frameLength, .ok (ownLayout ty)) := by
  have hlow := hc.low
  have hoff := metaDataOffset_ethhdr ty (env.app.mode ty)
  exact check_own env ty h.built.tagged h.built.proto (UInt64.toNat_inj.mp h.len) (by omega) het

/-- Nothing is logged about a frame that authenticates. -/
theorem ao_quiet {env : Env C D} {ty : FrameType} (hm : env.app.mode ty = .ao) {w : World C D}
    {p : Mem UInt8} {m : Mbuf} {lay : Layout} {r : Received C D}
    (h : (rxHandler env ty).decode w p m lay = .ok r) (hret : r.authRet = 0) :
    r.world.log = w.log := by
  have hne : env.app.mode ty ≠ .none := by simp [hm]
  obtain ⟨hsec, hmode⟩ := hasSecurity_of_mode hne
  obtain ⟨ao, ae, hd⟩ := decode_secured env hsec
  rw [hm] at hmode
  simp only [hd, profinetDecode, ← hmode, Except.ok.injEq] at h
  subst h
  change w.log ++ complain _ _ = w.log
  have hz : (aoOpen env.evp (env.app.cls ty) w.tick.thread.rxSecurityContext m lay.off).ret = 0 :=
    hret
  rw [complain, if_pos hz, List.append_nil]

/-- **A genuine frame at its receiver.** -/
theorem Genuine.decode {env : Env C D} {key : C → K} {k : K} {ty : FrameType} (hc : Checked env.app ty) (hae : env.app.mode ty ≠ .ae) {m : Mbuf}
    (h : Genuine env.app env.evp key k ty m) {w : World C D}
    (hk : key w.thread.rxSecurityContext = k) (p : Mem UInt8) :
    ∃ r, (rxHandler env ty).decode w p m (ownLayout ty) = .ok r ∧ Sound env ty w m r ∧
      r.sequenceCounter.toNat = number env.app ty m ∧ r.authRet = 0 := by
  obtain ⟨r, hr⟩ := decode_total env ty w p m (ownLayout ty) (fun hm => absurd hm hae)
  have hspec := decode_spec env ty hr
  have hlow := hc.low
  have hfid : ∀ fid, (rxHandler env ty).expectedFrameId = some fid → r.frameId = fid := by
    intro fid hfid
    obtain ⟨hsec, rfl⟩ := Gaps.expectedFrameId_some hfid
    obtain ⟨-, hp, hown, -⟩ := secure_class hsec
    rw [hspec.frameId hp, hown]
    exact h.built.frameId hp
  have hseq : r.sequenceCounter.toNat = number env.app ty m := by
    rw [hspec.sequenceCounter, metaAt_own]
    rfl
  cases hm : env.app.mode ty with
  | ae => exact absurd hm hae
  | none =>
    have hpay := plain_payload env ty hm hr
    rw [metaAt_own] at hpay
    refine ⟨r, hr, ⟨?_, ?_, hpay.trans h.built.payload, hfid⟩, hseq, ?_⟩
    · rw [decode_plain env ty hm] at hr
      cases hr
      cases ty <;> rfl
    · rw [plain_mbuf env ty hm hr]
    · rw [decode_plain env ty hm] at hr
      cases hr
      rfl
  | ao =>
    have hnone : env.app.mode ty ≠ .none := by simp [hm]
    obtain ⟨hsec, hmode⟩ := hasSecurity_of_mode hnone
    have hown := (secure_class hsec).2.2.1
    have hres := decode_resealed hnone hr
    rw [if_neg hnone, secured_offset hnone] at hlow
    have hroom : (ownLayout ty).off + 26 + (env.app.cls ty).payloadPattern.length ≤ checksumOff m := by
      simp only [hown, checksumOff, h.len, sizeofSecurityChecksum]
      omega
    have hret : r.authRet = 0 := by
      rw [hres.authRet, openFrame, ← hmode, hm, hown]
      exact h.authentic hm _ hk
    refine ⟨r, hr, ⟨ao_quiet hm hr hret, ?_, ?_, hfid⟩, hseq, hret⟩
    · rw [hres.mbuf]
    · rw [ao_payload env hm hroom hr, hown]
      have hpay := h.built.payload
      rw [payloadOff, secured_offset hnone] at hpay
      exact hpay

/-! ## The mirror -/

/-- `q` is the frame `f` with other addresses and another time stamp, and in AO
mode another checksum. -/
structure Copy (cfg : AppConfig) (ty : FrameType) (f q : Mbuf) : Prop where
  length : q.dataLen = f.dataLen
  bytes : ∀ i, 12 ≤ i →
    (i < getMetaDataOffset ty (cfg.mode ty) + 8 ∨ getMetaDataOffset ty (cfg.mode ty) + 16 ≤ i) →
    i < f.dataLen.toNat - (if cfg.mode ty = .ao then 16 else 0) → q.data i = f.data i

theorem Copy.sameContent {cfg : AppConfig} {ty : FrameType} (hc : Checked cfg ty) {f q : Mbuf}
    (h : Copy cfg ty f q) (hlen : f.dataLen.toNat = (cfg.cls ty).frameLength.toNat) :
    SameContent cfg ty f.data q.data := by
  intro i h12 hstamp hi
  refine h.bytes i h12 hstamp ?_
  have hlow := hc.low
  rw [hlen]
  by_cases hm : cfg.mode ty = .ao
  · rw [if_neg (by simp [hm])] at hlow
    rw [if_pos hm]
    omega
  · rw [if_neg hm]
    split at hlow <;> omega

theorem Copy.trans {cfg : AppConfig} {ty : FrameType} {f m q : Mbuf} (h : Copy cfg ty f m)
    (h' : Copy cfg ty m q) : Copy cfg ty f q := by
  refine ⟨h'.length.trans h.length, fun i h12 hstamp hi => ?_⟩
  rw [h'.bytes i h12 hstamp (by rw [h.length]; exact hi), h.bytes i h12 hstamp hi]

theorem Copy.number {cfg : AppConfig} {ty : FrameType} (hc : Checked cfg ty) {f q : Mbuf}
    (h : Copy cfg ty f q) (hlen : f.dataLen.toNat = (cfg.cls ty).frameLength.toNat) :
    number cfg ty q = number cfg ty f :=
  (h.sameContent hc hlen).number

/-- A frame that arrives is a copy of the one that was sent. -/
theorem Genuine.copy {cfg : AppConfig} {evp : Evp C} {key : C → K} {k : K} {ty : FrameType}
    (hc : Checked cfg ty) {f m : Mbuf} (h : Genuine cfg evp key k ty f) (ha : Arrives f.wire m) :
    Copy cfg ty f m := by
  obtain ⟨-, hdata, hcar⟩ := h.arrives hc ha
  refine ⟨hdata, fun i _ _ hi => hcar i ?_⟩
  rw [← h.length]
  omega

/-- What a mirror makes of a genuine frame is a genuine copy of it. -/
theorem Genuine.forwarded {env : Env C D} {key : C → K} {k : K} (hl : env.evp.Lawful key)
    {ty : FrameType} (hc : Checked env.app ty) (het : EtherTypeFits env.app ty)
    (hae : env.app.mode ty ≠ .ae) {m q : Mbuf} (h : Genuine env.app env.evp key k ty m)
    {w : World C D} (hk : key w.thread.rxSecurityContext = k) {p : Mem UInt8}
    (hf : Forwards env ty w p m (ownLayout ty) q) :
    Genuine env.app env.evp key k ty q ∧ Copy env.app ty m q := by
  have hm := forwards_mirrored hl hae ⟨⟨_, h.check hc het⟩, h.segment⟩ (fun hmode => by
    rw [h.len]
    have h60 := (hc.secured (by simp [hmode])).low
    omega) hf
  have hcopy : Copy env.app ty m q := by
    refine ⟨hm.dataLen, fun i h12 hstamp hi => hm.bytes i ⟨h12, hstamp, fun hmode => ?_⟩⟩
    rw [if_pos hmode, h.length, ← h.len] at hi
    exact hi
  refine ⟨⟨?_, ?_, ?_, fun hmode ctx hctx => ?_⟩, hcopy⟩
  · rw [hm.dataLen, h.length]
  · rw [hm.pktLen, hm.dataLen, h.segment]
  · exact (hcopy.sameContent hc h.length).built h.built
  · exact hm.verifies hmode ctx (hctx.trans hk.symm)

/-! ## One frame of a burst -/

/-- Decoding changes nothing of the thread but its receive context, under the same key. -/
theorem decode_thread {env : Env C D} {key : C → K} (hl : env.evp.Lawful key) {ty : FrameType}
    {w : World C D} {p : Mem UInt8} {m : Mbuf} {lay : Layout} {r : Received C D}
    (h : (rxHandler env ty).decode w p m lay = .ok r) :
    ∃ c, key c = key w.thread.rxSecurityContext ∧
      r.world.thread = { w.thread with rxSecurityContext := c } := by
  have hkey := decode_key hl h
  by_cases hm : env.app.mode ty = .none
  · rw [decode_plain env ty hm] at h
    cases h
    refine ⟨w.thread.rxSecurityContext, rfl, ?_⟩
    cases ty <;> rfl
  · have hres := decode_resealed hm h
    refine ⟨r.world.thread.rxSecurityContext, hkey, ?_⟩
    rw [hres.thread]

/-- What becomes of the world after decoding, whatever the verdict. -/
theorem accept_world {env : Env C D} {ty : FrameType} (hlldp : ty ≠ .lldp) {w : World C D}
    {p : Mem UInt8} {m : Mbuf} {out : Handled C D}
    (h : (rxHandler env ty).accept env w p m (ownLayout ty) = .ok out) {r : Received C D}
    (hdec : (rxHandler env ty).decode w p m (ownLayout ty) = .ok r) :
    (∃ x, out.world.thread = { r.world.thread with rxSequenceCounter := x }) ∧
      out.world.ticks = r.world.ticks + 1 ∧
      let v := (rxHandler env ty).verdict r
      let res := statFrameReceived env.statConfig r.world.stat ty r.sequenceCounter v.outOfOrder
        v.payloadMismatch v.frameIdMismatch r.txTimestamp (r.world.now env)
      res.halt = none ∧ out.world.stat = res.stat := by
  obtain ⟨r', w1, hdec', hacc, hcon, -⟩ := accept_ok h
  obtain rfl : r' = r := Except.ok.inj (hdec'.symm.trans hdec)
  obtain ⟨hhalt, hw1⟩ := account_ok hacc
  rw [handler_ty] at hhalt hw1
  rcases conclude_fate env ty hcon with ⟨-, x, l, hw⟩ | ⟨-, -, -, hw⟩
  · rw [hw, hw1]
    exact ⟨⟨x, rfl⟩, rfl, hhalt, rfl⟩
  · have hfw := forward_world env ty (w1.setRx (w1.thread.rxSequenceCounter + 1)) r'.mbuf
      (ownLayout ty)
    have hst := forward_stamped env ty (w1.setRx (w1.thread.rxSequenceCounter + 1)) r'.mbuf
    simp only [hlldp, if_false] at hst
    refine ⟨⟨w1.thread.rxSequenceCounter + 1, ?_⟩, ?_, hhalt, ?_⟩
    · rw [hw, World.enqueue_thread, hfw.1, hw1]
      rfl
    · rw [hw, World.enqueue_ticks, hst.2, World.setRx_ticks, hw1]
      rfl
    · rw [hw, World.enqueue_stat, hfw.2.1, World.setRx_stat, hw1]

/-- The receiver decodes the frame and finds payload, frame id and checksum in order. -/
def Clean (env : Env C D) (ty : FrameType) (s : RxState C D) (m : Mbuf) : Prop :=
  (rxHandler env ty).check s.expectedFrameLength m =
      ((env.app.cls ty).frameLength, .ok (ownLayout ty)) ∧
    ∃ r, (rxHandler env ty).decode s.world s.plaintext m (ownLayout ty) = .ok r ∧
      ((rxHandler env ty).verdict r).payloadMismatch = false ∧
      ((rxHandler env ty).verdict r).frameIdMismatch = false ∧ r.authRet = 0

/-- The statistics call for a genuine frame. Its clock reading is the second one
made for the frame; the first went into the time stamp. -/
def statCall (env : Env C D) (ty : FrameType) (s : RxState C D) (m : Mbuf) (o : Bool)
    (tx : UInt64) : Result :=
  statFrameReceived env.statConfig s.world.stat ty (UInt64.ofNat (number env.app ty m)) o false
    false tx (env.clock (s.world.ticks + 1))

/-- What a genuine frame does to its receiver. -/
structure Passes (env : Env C D) (key : C → K) (k : K) (ty : FrameType) (m : Mbuf)
    (s s' : RxState C D) : Prop where
  length : s'.expectedFrameLength = (env.app.cls ty).frameLength
  thread : ∃ c, key c = k ∧ s'.world.thread = { s.world.thread with
    rxSequenceCounter := UInt64.ofNat (number env.app ty m + 1), rxSecurityContext := c }
  errors : (s'.world.stat.globalStatistics ty).outOfOrderErrors =
    (s.world.stat.globalStatistics ty).outOfOrderErrors +
      if UInt64.ofNat (number env.app ty m) = s.world.thread.rxSequenceCounter then 0 else 1
  backlog : (s'.world.stat.roundTripContexts ty).backlogLen =
    (s.world.stat.roundTripContexts ty).backlogLen
  ticks : s'.world.ticks = s.world.ticks + 2
  stat : ∃ o tx, (statCall env ty s m o tx).halt = none ∧
    s'.world.stat = (statCall env ty s m o tx).stat
  tx : if env.mirrorMode ∧ UInt64.ofNat (number env.app ty m) = s.world.thread.rxSequenceCounter
    then ∃ q, s'.world.tx = lportTxBufferAdd env.dev s.world.tx q ∧
      Genuine env.app env.evp key k ty q ∧ Copy env.app ty m q
    else s'.world.tx = s.world.tx

/-- A frame is queued exactly if a mirror expected its counter. -/
theorem judged_tx {env : Env C D} {ty : FrameType} {w : World C D} {p : Mem UInt8} {m : Mbuf}
    {out : Handled C D} {c : UInt64}
    (h : (rxHandler env ty).accept env w p m (ownLayout ty) = .ok out)
    (hj : Judged env ty c m.id w out.world out.dropped) :
    if env.mirrorMode ∧ c = w.thread.rxSequenceCounter
    then ∃ q, out.world.tx = lportTxBufferAdd env.dev w.tx q ∧
      Forwards env ty w p m (ownLayout ty) q
    else out.world.tx = w.tx := by
  have hadd := congrArg List.length hj.added
  by_cases hcond : env.mirrorMode ∧ c = w.thread.rxSequenceCounter
  · rw [if_pos hcond]
    rcases accept_tx h with hsame | hq
    · rw [hsame, hcond.1, hcond.2] at hadd
      simp at hadd
    · exact hq
  · rw [if_neg hcond]
    rcases accept_tx h with hsame | ⟨q, hq, -⟩
    · exact hsame
    · have hno : (env.mirrorMode && decide (c = w.thread.rxSequenceCounter)) = false := by
        simpa using hcond
      rw [hq, hno, lportTxBufferAdd_added] at hadd
      simp at hadd

/-- **One genuine frame.**  It is found in order, and handled to the end unless
an outlier ends the process. -/
theorem rxOne_genuine {env : Env C D} {key : C → K} {k : K} (hl : env.evp.Lawful key)
    {ty : FrameType} (hdcp : ty ≠ .dcp) (hlldp : ty ≠ .lldp) (hc : Checked env.app ty)
    (het : EtherTypeFits env.app ty) (hae : env.app.mode ty ≠ .ae) {s : RxState C D}
    (hs : s.expectedFrameLength = (env.app.cls ty).frameLength) (hb : HasBacklog env ty s.world)
    (hk : key s.world.thread.rxSecurityContext = k) {m : Mbuf}
    (h : Genuine env.app env.evp key k ty m) :
    Clean env ty s m ∧ (Outlier env (rxOne env (rxHandler env ty) s m) ∨
      ∃ s' d, rxOne env (rxHandler env ty) s m = .ok (s', d) ∧ Passes env key k ty m s s') := by
  have hcheck := h.check hc het
  obtain ⟨r, hdec, hsound, hseq, hret⟩ := h.decode hc hae hk s.plaintext
  have hnum : r.sequenceCounter = UInt64.ofNat (number env.app ty m) := by
    rw [← hseq, UInt64.ofNat_toNat]
  refine ⟨⟨by rw [hs]; exact hcheck, r, hdec, ?_, ?_, hret⟩, ?_⟩
  · rw [hsound.verdict]
  · rw [hsound.verdict]
  · unfold rxOne
    simp only [hs, hcheck, bind, Except.bind]
    rcases accept_judged env ty hdec hsound hb with ⟨hstop, l, he⟩ | ⟨out, hout, hj⟩
    · left
      rw [he]
      exact ⟨hstop, l, rfl⟩
    · right
      rw [hout]
      refine ⟨_, _, rfl, ?_⟩
      have hroom : env.app.mode ty ≠ .none → 60 ≤ m.len.toNat := fun hm => by
        rw [h.len]
        exact (hc.secured hm).low
      have hdticks := (decode_stamped hl hdcp hlldp hroom hdec).2
      obtain ⟨c, hck, hthread⟩ := decode_thread hl hdec
      obtain ⟨⟨x, hx⟩, hticks, hhalt, hstat⟩ := accept_world hlldp hout hdec
      have htx := judged_tx hout hj
      have hrx := hj.rx
      rw [resync_of_ne_dcp env ty hdcp, Gaps.rxAfter_resync] at hrx
      rw [hnum] at htx hrx hj hhalt hstat
      rw [(decode_spec env ty hdec).stat, hsound.verdict, World.now, hdticks] at hhalt hstat
      refine ⟨rfl, ⟨c, hck.trans hk, ?_⟩, ?_, hj.backlog, ?_, ⟨_, _, hhalt, hstat⟩, ?_⟩
      · rw [hx] at hrx ⊢
        simp only at hrx
        rw [hrx, hthread, UInt64.ofNat_add]
        rfl
      · rw [hj.errors]
        apply congrArg ((s.world.stat.globalStatistics ty).outOfOrderErrors + ·)
        by_cases heq : UInt64.ofNat (number env.app ty m) = s.world.thread.rxSequenceCounter
        · simp [heq]
        · simp [heq]
      · rw [hticks, hdticks]
      · by_cases hcond : env.mirrorMode ∧
            UInt64.ofNat (number env.app ty m) = s.world.thread.rxSequenceCounter
        · rw [if_pos hcond] at htx ⊢
          obtain ⟨q, hq, hf⟩ := htx
          exact ⟨q, hq, h.forwarded hl hc het hae hk hf⟩
        · rw [if_neg hcond] at htx ⊢
          exact htx

end Rtdk.Integrity
