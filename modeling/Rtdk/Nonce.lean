import Rtdk.Network

/-! Nonce reuse between a reference and a mirror with one key and IV prefix.

A frame is sealed when it is generated and again by every handler it passes,
each time under the IV of its counter. As long as counters survive the wire all
these sealings belong to the same generated frame, so an IV is used for one
input only if no handler changes the time stamp, which is part of the
associated data (`nonce_unique`). Handlers write their own clock into it. -/

namespace Rtdk.Nonce
open Rtdk.Memory Rtdk.Endian Rtdk.NetDef Rtdk.Security Rtdk.Stat Rtdk.Lport Rtdk.Config Rtdk.Frame
open Rtdk.Thread Rtdk.Receive Rtdk.Handlers Rtdk.Checks Rtdk.Builder Rtdk.Decode Rtdk.Generate
open Rtdk.Sealing Rtdk.Reseal Rtdk.SecureTx Rtdk.Network

variable {C D C' D' K K' : Type}

/-- No IV is used for two different inputs. -/
def NonceUnique (calls : List SealCall) : Prop :=
  ∀ x ∈ calls, ∀ y ∈ calls, x.iv = y.iv → x.aad = y.aad ∧ x.plaintext = y.plaintext

instance (calls : List SealCall) : Decidable (NonceUnique calls) :=
  inferInstanceAs (Decidable (∀ x ∈ calls, ∀ y ∈ calls,
    x.iv = y.iv → x.aad = y.aad ∧ x.plaintext = y.plaintext))

/-! ## Frames of a run -/

/-- The frame carries counter `s` and the associated data that belongs to it. -/
structure FrameOf (cfg : AppConfig) (ty : FrameType) (aadOf : Nat → List UInt8) (s : Nat)
    (f : Mbuf) : Prop where
  tagged : read16 f.data 12 = ethP8021Q
  proto : read16 f.data 16 = ethPProfinetRt
  counter : metaDataToSequenceCounter f.data 28 (cfg.cls ty).numFramesPerCycle = UInt64.ofNat s
  aad : slice f.data 18 (frameAad (cfg.cls ty)) = aadOf s
  dataLen : f.dataLen.toNat = (cfg.cls ty).frameLength.toNat
  pktLen : f.len.toNat = (cfg.cls ty).frameLength.toNat

/-- What is sealed under the IV of counter `s`. -/
def callOf (cfg : AppConfig) (ty : FrameType) (aadOf : Nat → List UInt8) (s : Nat) : SealCall :=
  ⟨(prepareIv (cfg.cls ty).securityIvPrefix (UInt64.ofNat s)).take securityIvLen, aadOf s,
    plaintextOf (cfg.cls ty) (threadSetup cfg ty () ())⟩

/-- A frame is told by its header behind the addresses and its associated data. -/
theorem FrameOf.congr {cfg : AppConfig} {ty : FrameType} (hs : Secured cfg ty)
    {aadOf : Nat → List UInt8} {s : Nat} {f m : Mbuf} (h : FrameOf cfg ty aadOf s f)
    (hdata : ∀ i, 12 ≤ i → i < 18 + frameAad (cfg.cls ty) → m.data i = f.data i)
    (hd : m.dataLen = f.dataLen) (hp : m.pktLen = f.pktLen) : FrameOf cfg ty aadOf s m := by
  have hb := frameAad_bounds hs
  refine ⟨?_, ?_, ?_, ?_, ?_, ?_⟩
  · rw [← h.tagged]
    exact read16_congr fun i hi => hdata _ (by omega) (by omega)
  · rw [← h.proto]
    exact read16_congr fun i hi => hdata _ (by omega) (by omega)
  · rw [← h.counter]
    exact sequenceCounter_congr _ fun i hi => hdata _ (by omega) (by omega)
  · rw [← h.aad]
    exact slice_congr fun i hi => hdata _ (by omega) (by omega)
  · rw [hd]
    exact h.dataLen
  · rw [← h.pktLen, Mbuf.len, hp]
    rfl

theorem FrameOf.arrives {cfg : AppConfig} {ty : FrameType} (hs : Secured cfg ty)
    {aadOf : Nat → List UInt8} {s : Nat} {f m : Mbuf} (h : FrameOf cfg ty aadOf s f)
    (harr : Arrives f.wire m) : FrameOf cfg ty aadOf s m := by
  obtain ⟨hcar, hlen⟩ := arrives_carries harr
  have hb := frameAad_bounds hs
  rw [h.dataLen] at hcar hlen
  have hd : m.dataLen.toNat = (cfg.cls ty).frameLength.toNat := by
    rw [← hlen, Mbuf.len_toNat, harr.length, UInt16.toNat_toUInt32]
  refine h.congr hs (fun i _ hi => hcar i (by omega)) ?_ ?_
  · exact UInt16.toNat_inj.mp (by rw [hd, h.dataLen])
  · rw [← UInt32.toNat_inj, ← Mbuf.len_toNat, ← Mbuf.len_toNat, hlen, h.pktLen]

/-- What a node has sealed and queued so far belongs to counters below `limit`. -/
structure Book (cfg : AppConfig) (ty : FrameType) (aadOf : Nat → List UInt8) (limit : Nat)
    (w : World C D) : Prop where
  seals : ∀ x ∈ w.seals, ∃ s, s < limit ∧ x = callOf cfg ty aadOf s
  frames : ∀ f ∈ w.tx.added, ∃ s, s < limit ∧ FrameOf cfg ty aadOf s f
  within : w.tx.Within
  setUp : SetUp cfg ty w.thread

/-- New counters do not change what the old ones stand for. -/
theorem Book.mono {cfg : AppConfig} {ty : FrameType} {aadOf aadOf' : Nat → List UInt8}
    {limit limit' : Nat} {w : World C D} (h : Book cfg ty aadOf limit w) (hl : limit ≤ limit')
    (ha : ∀ s, s < limit → aadOf' s = aadOf s) : Book cfg ty aadOf' limit' w := by
  refine ⟨fun x hx => ?_, fun f hf => ?_, h.within, h.setUp⟩
  · obtain ⟨s, hs, rfl⟩ := h.seals x hx
    exact ⟨s, by omega, by rw [callOf, callOf, ha s hs]⟩
  · obtain ⟨s, hs, hframe⟩ := h.frames f hf
    refine ⟨s, by omega, ⟨hframe.tagged, hframe.proto, hframe.counter, ?_, hframe.dataLen,
      hframe.pktLen⟩⟩
    rw [ha s hs]
    exact hframe.aad

/-! ## Receiving -/

/-- The handler writes into each frame of the burst the time stamp the frame
already carries; it reads the clock twice for each frame. -/
def Keeps (env : Env C D) : Nat → List Mbuf → Prop
  | _, [] => True
  | t, m :: ms =>
    metaDataToTxTimestamp m.data 28 = env.mirrorStamp (env.clock t) ∧ Keeps env (t + 2) ms

instance decidableKeeps (env : Env C D) : (t : Nat) → (ms : List Mbuf) → Decidable (Keeps env t ms)
  | _, [] => isTrue trivial
  | t, m :: ms =>
    have := decidableKeeps env (t + 2) ms
    inferInstanceAs (Decidable (metaDataToTxTimestamp m.data 28 = env.mirrorStamp (env.clock t) ∧
      Keeps env (t + 2) ms))

/-- Writing the time stamp a frame carries changes nothing. -/
theorem stamp_same (data : Mem UInt8) (off : Nat) :
    txTimestampToMetaData data off (metaDataToTxTimestamp data off) = data :=
  write_read64 data (off + 8)

/-- A frame of the run that is sealed again with its own time stamp. -/
theorem decode_book {env : Env C D} {key : C → K} (hl : env.evp.Lawful key) {ty : FrameType}
    (hs : Secured env.app ty) {aadOf : Nat → List UInt8} {limit s : Nat} {w : World C D}
    (hb : Book env.app ty aadOf limit w) {p : Mem UInt8} {m : Mbuf} (hlt : s < limit)
    (hf : FrameOf env.app ty aadOf s m)
    (hkeep : metaDataToTxTimestamp m.data 28 = env.mirrorStamp (w.now env)) {r : Received C D}
    (h : (rxHandler env ty).decode w p m ⟨18, false⟩ = .ok r) :
    Book env.app ty aadOf limit r.world ∧ FrameOf env.app ty aadOf s r.mbuf ∧
      r.world.ticks = w.ticks + 1 := by
  have hr := decode_resealed hs.mode h
  have hlen := aadLength_eq hs hf.pktLen
  have hbounds := frameAad_bounds hs
  have hroom : 18 + 42 ≤ m.len.toNat := by
    rw [hf.pktLen]
    exact hs.low
  obtain ⟨hsame, -, hcall⟩ := sealAgain_spec hl (env.app.cls ty) w m 18
    (env.mirrorStamp (w.now env)) hroom
  have hstamp : txTimestampToMetaData m.data 28 (env.mirrorStamp (w.now env)) = m.data := by
    rw [← hkeep]
    exact stamp_same m.data 28
  have hiv : rxIv (env.app.cls ty) m 18 =
      prepareIv (env.app.cls ty).securityIvPrefix (UInt64.ofNat s) := by
    rw [rxIv, rxCounter, hf.counter]
  simp only [hlen, hstamp] at hsame
  simp only [hlen, hstamp, hiv, hf.aad, hb.setUp.plaintext] at hcall
  refine ⟨⟨?_, ?_, ?_, ?_⟩, ?_, hr.ticks⟩
  · intro x hx
    rw [hr.seals] at hx
    rcases List.mem_append.mp hx with hx | hx
    · exact hb.seals x hx
    · exact ⟨s, hlt, by rw [List.mem_singleton.mp hx, hcall]; rfl⟩
  · rw [(decode_spec env ty h).tx]
    exact hb.frames
  · rw [(decode_spec env ty h).tx]
    exact hb.within
  · rw [hr.thread]
    exact ⟨hb.setUp.payload, hb.setUp.length⟩
  · rw [hr.mbuf]
    exact hf.congr hs (fun i _ hi => hsame i hi) rfl rfl

/-- What the rest of a handler does to a book: it may queue the frame. -/
theorem accept_book {env : Env C D} {key : C → K} (hl : env.evp.Lawful key) {ty : FrameType}
    (hs : Secured env.app ty) {aadOf : Nat → List UInt8} {limit s : Nat} {w : World C D}
    (hb : Book env.app ty aadOf limit w) {p : Mem UInt8} {m : Mbuf} (hlt : s < limit)
    (hf : FrameOf env.app ty aadOf s m)
    (hkeep : metaDataToTxTimestamp m.data 28 = env.mirrorStamp (w.now env)) {out : Handled C D}
    (h : (rxHandler env ty).accept env w p m ⟨18, false⟩ = .ok out) :
    Book env.app ty aadOf limit out.world ∧ out.world.ticks = w.ticks + 2 ∧
      out.world.thread.txSequenceCounter = w.thread.txSequenceCounter := by
  obtain ⟨r, w1, hdec, hacc, hcon, -⟩ := accept_ok h
  obtain ⟨hbook, hframe, hticks⟩ := decode_book hl hs hb hlt hf hkeep hdec
  have hthread := (decode_resealed hs.mode hdec).thread
  have hw1 := (account_ok hacc).2
  have hbook1 : Book env.app ty aadOf limit w1 := by
    rw [hw1]
    exact ⟨hbook.seals, hbook.frames, hbook.within, hbook.setUp⟩
  have hticks1 : w1.ticks = w.ticks + 2 := by
    rw [hw1]
    change r.world.ticks + 1 = _
    rw [hticks]
  have htx1 : w1.thread.txSequenceCounter = w.thread.txSequenceCounter := by
    rw [hw1]
    change r.world.thread.txSequenceCounter = _
    rw [hthread]
  rcases conclude_fate env ty hcon with ⟨-, x, l, hw⟩ | ⟨-, -, -, hw⟩
  · rw [hw]
    exact ⟨⟨hbook1.seals, hbook1.frames, hbook1.within, ⟨hbook1.setUp.payload, hbook1.setUp.length⟩⟩,
      hticks1, htx1⟩
  · have hfw : (rxHandler env ty).forward (w1.setRx (w1.thread.rxSequenceCounter + 1)) r.mbuf
        ⟨18, false⟩ = (w1.setRx (w1.thread.rxSequenceCounter + 1),
          { r.mbuf with data := swapMacAddresses r.mbuf.data r.mbuf.len.toNat }) := by
      have hsec := hs.hasSecurity
      cases ty <;> first | rfl | cases hsec
    rw [hfw] at hw
    rw [hw]
    refine ⟨⟨hbook1.seals, ?_, ?_, ⟨hbook1.setUp.payload, hbook1.setUp.length⟩⟩, hticks1, htx1⟩
    · intro f hfin
      rw [World.enqueue_added] at hfin
      rcases List.mem_append.mp hfin with hfin | hfin
      · exact hbook1.frames f hfin
      · refine ⟨s, hlt, ?_⟩
        rw [List.mem_singleton.mp hfin]
        exact hframe.congr hs (fun i hi _ => swapMacAddresses_above _ _ i hi) rfl rfl
    · exact lportTxBufferAdd_within env.dev _ _ hbook1.within

/-- Frames of the run pass the checks of the class. -/
theorem check_frameOf {env : Env C D} {ty : FrameType} (hs : Secured env.app ty)
    {aadOf : Nat → List UInt8} {s : Nat} {m : Mbuf} (hf : FrameOf env.app ty aadOf s m) :
    (rxHandler env ty).check (env.app.cls ty).frameLength m =
      ((env.app.cls ty).frameLength, .ok ⟨18, false⟩) := by
  obtain ⟨-, -, hown, hinner, het⟩ := secure_class hs.hasSecurity
  have hlow := hs.low
  rw [← hown]
  exact check_own env ty (fun _ => hf.tagged) (fun _ => hf.proto.trans (hinner _).symm)
    (UInt64.toNat_inj.mp hf.pktLen) (by omega) (het _)

theorem rxBurst_book {env : Env C D} {key : C → K} (hl : env.evp.Lawful key) {ty : FrameType}
    (hs : Secured env.app ty) {aadOf : Nat → List UInt8} {limit : Nat} (ms : List Mbuf)
    (st : RxState C D) (hexp : st.expectedFrameLength = (env.app.cls ty).frameLength)
    (hb : Book env.app ty aadOf limit st.world)
    (hms : ∀ m ∈ ms, ∃ s, s < limit ∧ FrameOf env.app ty aadOf s m)
    (hkeep : Keeps env st.world.ticks ms) {st' : RxState C D} {fs : List Mbuf}
    (h : rxBurst env (rxHandler env ty) st ms = .ok (st', fs)) :
    Book env.app ty aadOf limit st'.world ∧
      st'.world.thread.txSequenceCounter = st.world.thread.txSequenceCounter := by
  induction ms generalizing st fs with
  | nil =>
    cases h
    exact ⟨hb, rfl⟩
  | cons m ms ih =>
    obtain ⟨s1, d, gs, hone, hrest, -⟩ := rxBurst_cons_ok h
    obtain ⟨s, hlt, hf⟩ := hms m (List.mem_cons_self)
    simp only [rxOne, hexp, check_frameOf hs hf, bind, Except.bind] at hone
    cases hacc : (rxHandler env ty).accept env st.world st.plaintext m ⟨18, false⟩ with
    | error e =>
      rw [hacc] at hone
      cases hone
    | ok out =>
      rw [hacc] at hone
      cases hone
      obtain ⟨hbook, hticks, htx⟩ := accept_book hl hs hb hlt hf hkeep.1 hacc
      have hkeep' : Keeps env out.world.ticks ms := by
        rw [hticks]
        exact hkeep.2
      obtain ⟨hb', htx'⟩ := ih ⟨out.world, (env.app.cls ty).frameLength, out.plaintext⟩ rfl hbook
        (fun m' hm' => hms m' (List.mem_cons_of_mem _ hm')) hkeep' hrest
      exact ⟨hb', htx'.trans htx⟩

/-- **Receiving.**  A handler that keeps the time stamps seals nothing new. -/
theorem rxFrame_book {env : Env C D} {key : C → K} (hl : env.evp.Lawful key) {ty : FrameType}
    (hs : Secured env.app ty) {aadOf : Nat → List UInt8} {limit : Nat} {ms freed : List Mbuf}
    {stack : Mem UInt8} {w w' : World C D} (hb : Book env.app ty aadOf limit w)
    (hms : ∀ m ∈ ms, ∃ s, s < limit ∧ FrameOf env.app ty aadOf s m)
    (hkeep : Keeps env w.ticks ms) (h : rxFrame env ty stack w ms = .ok (w', freed)) :
    Book env.app ty aadOf limit w' ∧ w'.thread.txSequenceCounter = w.thread.txSequenceCounter := by
  obtain ⟨st, fs, hburst, rfl⟩ := rxFrame_ok h
  exact rxBurst_book hl hs ms ⟨w, _, stack⟩ rfl hb hms hkeep hburst

/-! ## Generating -/

/-- A prepared frame belongs to its counter. -/
theorem prepared_frameOf {env : Env C D} {ty : FrameType} (hs : Secured env.app ty)
    {aadOf : Nat → List UInt8} {k : Nat} {t : UInt64} {im : Mbuf} {data : Mem UInt8}
    (hbuilt : Built env.app ty im.data)
    (hdl : im.dataLen.toNat = (env.app.cls ty).frameLength.toNat)
    (hpl : im.len.toNat = (env.app.cls ty).frameLength.toNat)
    (hwire : wireCounter (UInt64.ofNat k) (env.app.cls ty).numFramesPerCycle = UInt64.ofNat k)
    (hdata : ∀ i, i < 18 + frameAad (env.app.cls ty) →
      data i = stampMetaData im.data 28 (UInt64.ofNat k) (env.app.cls ty).numFramesPerCycle t i)
    (haad : aadOf k = slice (stampMetaData im.data 28 (UInt64.ofNat k)
      (env.app.cls ty).numFramesPerCycle t) 18 (frameAad (env.app.cls ty))) :
    FrameOf env.app ty aadOf k { im with data := data } := by
  obtain ⟨hvlan, -, -, hproto, -⟩ := secure_class hs.hasSecurity
  have hoff := secured_offset hs.mode
  have hstamped := hbuilt.stamp (UInt64.ofNat k) (env.app.cls ty).numFramesPerCycle t
  rw [hoff] at hstamped
  have hbounds := frameAad_bounds hs
  refine ⟨?_, ?_, ?_, ?_, hdl, hpl⟩
  · rw [← hstamped.tagged hvlan]
    exact read16_congr fun i hi => hdata _ (by omega)
  · rw [← hproto env.app, ← hstamped.proto hvlan]
    exact read16_congr fun i hi => hdata _ (by omega)
  · rw [← hwire, ← stampMetaData_counter im.data 28 (UInt64.ofNat k) _ t]
    exact sequenceCounter_congr _ fun i hi => hdata _ (by omega)
  · rw [haad]
    exact slice_congr fun i hi => hdata _ (by omega)

/-- **One generated frame.**  The next counter gets its associated data. -/
theorem genFrame_book {env : Env C D} {key : C → K} (hl : env.evp.Lawful key) {ty : FrameType}
    (hs : Secured env.app ty) {aadOf : Nat → List UInt8} {k : Nat} {t : UInt64} {w w' : World C D}
    (hb : Book env.app ty aadOf k w)
    (hwire : wireCounter (UInt64.ofNat k) (env.app.cls ty).numFramesPerCycle = UInt64.ofNat k)
    {m : Mbuf}
    (h : genFrame env ty (env.app.cls ty).numFramesPerCycle (UInt64.ofNat k) t w m = .ok w') :
    ∃ aadOf', (∀ s, s < k → aadOf' s = aadOf s) ∧ Book env.app ty aadOf' (k + 1) w' ∧
      w'.thread.txSequenceCounter = w.thread.txSequenceCounter := by
  obtain ⟨p, hp, hthread, hseals, htx⟩ := genFrame_secured_ok hs.hasSecurity h
  obtain ⟨hdl, hpl⟩ := initializeFrame_len hs env.mac m
  have hbuilt := initializeFrame_built env.app env.mac ty m
  generalize initializeFrame env.app env.mac ty m = im at hdl hpl hbuilt hp htx
  have hpay : w.thread.payloadPatternLength.toNat = (env.app.cls ty).frameLength.toNat - 60 := by
    rw [hb.setUp.length, threadSetup_length hs]
  obtain ⟨hdata, hcall⟩ := prepare_secured hl hs hdl hpay hp
  let aadOf' : Nat → List UInt8 := Function.update aadOf k
    (slice (stampMetaData im.data 28 (UInt64.ofNat k) (env.app.cls ty).numFramesPerCycle t) 18
      (frameAad (env.app.cls ty)))
  have hold (s : Nat) (hlt : s < k) : aadOf' s = aadOf s :=
    Function.update_of_ne (Nat.ne_of_lt hlt) _ _
  have hnew : aadOf' k = slice (stampMetaData im.data 28 (UInt64.ofNat k)
      (env.app.cls ty).numFramesPerCycle t) 18 (frameAad (env.app.cls ty)) :=
    Function.update_self _ _ _
  have hbook := hb.mono (Nat.le_succ k) hold
  refine ⟨aadOf', hold, ⟨?_, ?_, ?_, ?_⟩, by rw [hthread]⟩
  · intro x hx
    rw [hseals, hcall] at hx
    rcases List.mem_append.mp hx with hx | hx
    · exact hbook.seals x hx
    · refine ⟨k, Nat.lt_succ_self k, ?_⟩
      rw [List.mem_singleton.mp hx, callOf, hnew, hb.setUp.plaintext]
  · intro f hf
    rw [htx, lportTxBufferAdd_added] at hf
    rcases List.mem_append.mp hf with hf | hf
    · exact hbook.frames f hf
    · refine ⟨k, Nat.lt_succ_self k, ?_⟩
      rw [List.mem_singleton.mp hf]
      exact prepared_frameOf hs hbuilt hdl hpl hwire hdata hnew
  · rw [htx]
    exact lportTxBufferAdd_within env.dev _ _ hb.within
  · rw [hthread]
    exact ⟨hb.setUp.payload, hb.setUp.length⟩

theorem genFrames_book {env : Env C D} {key : C → K} (hl : env.evp.Lawful key) {ty : FrameType}
    (hs : Secured env.app ty) {t : UInt64} (ms : List Mbuf) {aadOf : Nat → List UInt8} {k : Nat}
    {w w' : World C D} (hb : Book env.app ty aadOf k w)
    (hwire : ∀ j, j < k + ms.length →
      wireCounter (UInt64.ofNat j) (env.app.cls ty).numFramesPerCycle = UInt64.ofNat j)
    (h : genFrames env ty (env.app.cls ty).numFramesPerCycle t (UInt64.ofNat k) w ms = .ok w') :
    ∃ aadOf', (∀ s, s < k → aadOf' s = aadOf s) ∧ Book env.app ty aadOf' (k + ms.length) w' ∧
      w'.thread.txSequenceCounter = w.thread.txSequenceCounter := by
  induction ms generalizing aadOf k w with
  | nil =>
    cases h
    exact ⟨aadOf, fun _ _ => rfl, hb, rfl⟩
  | cons m ms ih =>
    simp only [genFrames, bind, Except.bind] at h
    split at h
    · cases h
    · rename_i w1 hone
      obtain ⟨aad1, hold, hb1, htx1⟩ := genFrame_book hl hs hb (hwire k (by simp)) hone
      have hlen : k + (m :: ms).length = k + 1 + ms.length := by
        rw [List.length_cons]
        omega
      rw [hlen] at hwire ⊢
      have hnext : UInt64.ofNat k + 1 = UInt64.ofNat (k + 1) := by
        rw [UInt64.ofNat_add]
        rfl
      rw [hnext] at h
      obtain ⟨aad2, hold2, hb2, htx2⟩ := ih hb1 hwire h
      refine ⟨aad2, fun s hlt => ?_, hb2, htx2.trans htx1⟩
      rw [hold2 s (by omega), hold s hlt]

/-! ## Runs -/

/-- The runs in which counters survive the wire and no handler changes a time stamp. -/
def keeping (env : Env C D) (envM : Env C' D') (ty : FrameType) : Guards C D C' D' where
  generate := BelowWrap env.app ty
  mirrorRx w ms := Keeps envM w.ticks ms
  refRx w ms := Keeps env w.ticks ms

structure Inv (cfg : AppConfig) (ty : FrameType) (aadOf : Nat → List UInt8) (limit : Nat)
    (net : Net C D C' D') : Prop where
  counter : net.ref.thread.txSequenceCounter = UInt64.ofNat limit
  cycle : (cfg.cls ty).numFramesPerCycle.toNat ∣ limit
  bound : limit ≤ (cfg.cls ty).numFramesPerCycle.toNat * 2 ^ 32
  ref : Book cfg ty aadOf limit net.ref
  mirror : Book cfg ty aadOf limit net.mirror

theorem start_inv (env : Env C D) (envM : Env C' D') (ty : FrameType) (happ : envM.app = env.app)
    (ctx : C) (dev : D) (ctxM : C') (devM : D') :
    Inv env.app ty (fun _ => []) 0 (Net.start env envM ty ctx dev ctxM devM) where
  counter := rfl
  cycle := Nat.dvd_zero _
  bound := Nat.zero_le _
  ref := ⟨fun x h => (by cases h), fun f h => (by cases h),
    fun f h => (by rcases h with h | h <;> cases h), rfl, rfl⟩
  mirror := ⟨fun x h => (by cases h), fun f h => (by cases h),
    fun f h => (by rcases h with h | h <;> cases h), by rw [← happ]; rfl, by rw [← happ]; rfl⟩

theorem Book.say {cfg : AppConfig} {ty : FrameType} {aadOf : Nat → List UInt8} {limit : Nat}
    {w : World C D} (h : Book cfg ty aadOf limit w) (es : List LogEntry) :
    Book cfg ty aadOf limit (w.say es) :=
  ⟨h.seals, h.frames, h.within, h.setUp⟩

theorem generate_inv {env : Env C D} {key : C → K} (hl : env.evp.Lawful key) {ty : FrameType}
    (hs : Secured env.app ty) (hn : (env.app.cls ty).numFramesPerCycle.toNat < 2 ^ 16) {aadOf : Nat → List UInt8} {limit : Nat} {net : Net C D C' D'}
    (hi : Inv env.app ty aadOf limit net) (hg : BelowWrap env.app ty net.ref)
    {mbufs : Option (List Mbuf)} {w : World C D}
    (hlen : ∀ ms, mbufs = some ms → ms.length = (env.app.cls ty).numFramesPerCycle.toUInt16.toNat)
    (h : genAndSendFrames env ty (env.app.cls ty).numFramesPerCycle mbufs net.ref = .ok w) :
    ∃ aadOf' limit', Inv env.app ty aadOf' limit' { net with ref := w } := by
  have hd := divisor_eq ty hn
  have hlt : limit < (env.app.cls ty).numFramesPerCycle.toNat * 2 ^ 32 := by
    have hb := hi.bound
    unfold BelowWrap at hg
    rw [hi.counter, UInt64.toNat_ofNat', Nat.mod_eq_of_lt (by omega)] at hg
    exact hg
  have hz : ¬ ((ty = .rta ∨ ty = .dcp) ∧ (env.app.cls ty).numFramesPerCycle = 0) := by
    rintro ⟨-, h0⟩
    rw [h0] at hlt
    exact absurd hlt (by simp)
  simp only [genAndSendFrames, if_neg hz, hd.2] at h
  cases mbufs with
  | none =>
    cases h
    exact ⟨aadOf, limit, hi.counter, hi.cycle, hi.bound, hi.ref.say _, hi.mirror⟩
  | some ms =>
    have hburst : ms.length = (env.app.cls ty).numFramesPerCycle.toNat := by
      rw [hlen ms rfl, ← UInt16.toNat_toUInt64, hd.1]
    have hfits : limit + ms.length ≤ (env.app.cls ty).numFramesPerCycle.toNat * 2 ^ 32 := by
      obtain ⟨c, hc⟩ := hi.cycle
      rw [hc] at hlt
      have hclt : c < 2 ^ 32 := Nat.lt_of_mul_lt_mul_left hlt
      rw [hburst, hc, ← Nat.mul_succ]
      exact Nat.mul_le_mul_left _ hclt
    simp only [bind, Except.bind, hi.counter] at h
    split at h
    · cases h
    · rename_i w1 hgen
      have hbook : Book env.app ty aadOf limit net.ref.tick :=
        ⟨hi.ref.seals, hi.ref.frames, hi.ref.within, hi.ref.setUp⟩
      obtain ⟨aadOf', hold, hb, htx⟩ := genFrames_book hl hs ms hbook
        (fun j hj => wireCounter_ofNat hn (by omega)) hgen
      cases h
      refine ⟨aadOf', limit + ms.length, ?_, ?_, hfits, ?_, hi.mirror.mono (by omega) hold⟩
      · simp only [htx, hd.1]
        change net.ref.thread.txSequenceCounter + _ = _
        rw [hi.counter, hburst, UInt64.ofNat_add]
        simp
      · rw [hburst]
        exact Nat.dvd_add hi.cycle (Nat.dvd_refl _)
      · exact ⟨hb.seals, hb.frames, lportTxBufferFlush_within env.dev _ hb.within,
          ⟨hb.setUp.payload, hb.setUp.length⟩⟩

/-- Frames that arrive belong to counters of the sender's book. -/
theorem comesFrom_frames {cfg : AppConfig} {ty : FrameType} (hs : Secured cfg ty)
    {aadOf : Nat → List UInt8} {limit : Nat} {w : World C D} (hb : Book cfg ty aadOf limit w)
    {ms : List Mbuf} (hms : ComesFrom w.tx.sent ms) :
    ∀ m ∈ ms, ∃ s, s < limit ∧ FrameOf cfg ty aadOf s m := by
  intro m hm
  obtain ⟨f, hf, harr⟩ := hms m hm
  obtain ⟨s, hlt, hframe⟩ := hb.frames f (hb.within f (Or.inl hf))
  exact ⟨s, hlt, hframe.arrives hs harr⟩

theorem run_inv {env : Env C D} {envM : Env C' D'} {key : C → K} {keyM : C' → K'}
    (hl : env.evp.Lawful key) (hlM : envM.evp.Lawful keyM) {ty : FrameType}
    (happ : envM.app = env.app) (hs : Secured env.app ty)
    (hn : (env.app.cls ty).numFramesPerCycle.toNat < 2 ^ 16) {ctx : C} {dev : D} {ctxM : C'}
    {devM : D'} {net : Net C D C' D'}
    (h : Run (keeping env envM ty) env envM ty (Net.start env envM ty ctx dev ctxM devM) net) :
    ∃ aadOf limit, Inv env.app ty aadOf limit net := by
  induction h with
  | refl => exact ⟨_, _, start_inv env envM ty happ ctx dev ctxM devM⟩
  | tail _ hstep ih =>
    obtain ⟨aadOf, limit, hi⟩ := ih
    cases hstep with
    | generate mbufs hg hlen h => exact generate_inv hl hs hn hi hg hlen h
    | mirrorRx stack ms hg hms h =>
      have hframes := comesFrom_frames hs hi.ref hms
      have hb := hi.mirror
      rw [← happ] at hs hb hframes
      obtain ⟨hb', -⟩ := rxFrame_book hlM hs hb hframes hg h
      rw [happ] at hb'
      exact ⟨aadOf, limit, hi.counter, hi.cycle, hi.bound, hi.ref, hb'⟩
    | mirrorTx h =>
      obtain ⟨hthread, hseals, htx, -⟩ := sendFramesCommon_ok h
      refine ⟨aadOf, limit, hi.counter, hi.cycle, hi.bound, hi.ref, ?_, ?_, ?_, ?_⟩
      · rw [hseals]
        exact hi.mirror.seals
      · rw [htx]
        exact hi.mirror.frames
      · rw [htx]
        exact lportTxBufferFlush_within envM.dev _ hi.mirror.within
      · rw [hthread]
        exact hi.mirror.setUp
    | refRx stack ms hg hms h =>
      obtain ⟨hb', htx⟩ := rxFrame_book hl hs hi.ref (comesFrom_frames hs hi.mirror hms) hg h
      exact ⟨aadOf, limit, htx.trans hi.counter, hi.cycle, hi.bound, hb', hi.mirror⟩

/-- **Nonces.**  In every run in which counters survive the wire and no handler
changes the time stamp of a frame, no IV is used for two different inputs at
either node. -/
theorem nonce_unique {env : Env C D} {envM : Env C' D'} {key : C → K} {keyM : C' → K'}
    (hl : env.evp.Lawful key) (hlM : envM.evp.Lawful keyM) {ty : FrameType}
    (happ : envM.app = env.app) (hs : Secured env.app ty)
    (hn : (env.app.cls ty).numFramesPerCycle.toNat < 2 ^ 16) {ctx : C} {dev : D} {ctxM : C'}
    {devM : D'} {net : Net C D C' D'}
    (h : Run (keeping env envM ty) env envM ty (Net.start env envM ty ctx dev ctxM devM) net) :
    NonceUnique (net.ref.seals ++ net.mirror.seals) := by
  obtain ⟨aadOf, limit, hi⟩ := run_inv hl hlM happ hs hn h
  have hcall (x : SealCall) (hx : x ∈ net.ref.seals ++ net.mirror.seals) :
      ∃ s, s < limit ∧ x = callOf env.app ty aadOf s := by
    rcases List.mem_append.mp hx with hx | hx
    · exact hi.ref.seals x hx
    · exact hi.mirror.seals x hx
  intro x hx y hy hiv
  obtain ⟨s, hs1, rfl⟩ := hcall x hx
  obtain ⟨s', hs2, rfl⟩ := hcall y hy
  have hb := hi.bound
  have htoNat (j : Nat) (hj : j < limit) : (UInt64.ofNat j).toNat = j := by
    rw [UInt64.toNat_ofNat']
    exact Nat.mod_eq_of_lt (by omega)
  have heq := prepareIv_injective (env.app.cls ty).securityIvPrefix _ _
    (by rw [htoNat s hs1]; omega) (by rw [htoNat s' hs2]; omega) hiv
  have hss : s = s' := by rw [← htoNat s hs1, heq, htoNat s' hs2]
  rw [hss]
  exact ⟨rfl, rfl⟩

/-! A TSN reference and a mirror for frames of 60 bytes in AO mode, one per
cycle: the reference sends one frame and the mirror handles it. With clocks that
differ by the configured offset the time stamp stays; with the clocks of the
small setting it does not. -/

def secRef (clock : Nat → UInt64) : Env DigestCtx Unit :=
  { Env.small (AppConfig.small .ao 60 1 []) false with clock := clock }

def secMirror (clock : Nat → UInt64) : Env DigestCtx Unit :=
  { Env.small (AppConfig.small .ao 60 1 []) true with clock := clock }

abbrev SmallNet := Net DigestCtx Unit DigestCtx Unit

def smallStart (a b : Nat → UInt64) : SmallNet :=
  Net.start (secRef a) (secMirror b) .tsnHigh DigestCtx.fresh () DigestCtx.fresh ()

def blank : Mbuf := ⟨0, fun _ => 0, 0, 0⟩

def generated (a b : Nat → UInt64) : Except Stop (World DigestCtx Unit) :=
  genAndSendFrames (secRef a) .tsnHigh ((secRef a).app.cls .tsnHigh).numFramesPerCycle (some [blank])
    (smallStart a b).ref

def sentBy (a b : Nat → UInt64) : List Mbuf :=
  match generated a b with
  | .ok w => w.tx.sent
  | .error _ => []

def handled (a b : Nat → UInt64) : Except Stop (World DigestCtx Unit × List Mbuf) :=
  rxFrame (secMirror b) .tsnHigh (fun _ => 0) (smallStart a b).mirror (sentBy a b)

/-- All sealings of the two steps. -/
def sealings (a b : Nat → UInt64) : List SealCall :=
  match generated a b, handled a b with
  | .ok w, .ok (w', _) => w.seals ++ w'.seals
  | _, _ => []

theorem small_run (g : Guards DigestCtx Unit DigestCtx Unit) (a b : Nat → UInt64)
    (hg : g.generate (smallStart a b).ref) (hrx : g.mirrorRx (smallStart a b).mirror (sentBy a b))
    (hlen : ∀ m ∈ sentBy a b, m.pktLen = m.dataLen.toUInt32) (hseals : (sealings a b).length = 2) :
    ∃ net : SmallNet, Run g (secRef a) (secMirror b) .tsnHigh (smallStart a b) net ∧
      net.ref.seals ++ net.mirror.seals = sealings a b := by
  cases hgen : generated a b with
  | error e =>
    unfold sealings at hseals
    rw [hgen] at hseals
    cases hseals
  | ok w =>
    cases hhand : handled a b with
    | error e =>
      unfold sealings at hseals
      rw [hgen, hhand] at hseals
      cases hseals
    | ok q =>
      obtain ⟨w', freed⟩ := q
      have hsent : sentBy a b = w.tx.sent := by
        unfold sentBy
        rw [hgen]
      have hboth : sealings a b = w.seals ++ w'.seals := by
        unfold sealings
        rw [hgen, hhand]
      unfold generated at hgen
      unfold handled at hhand
      rw [hsent] at hrx hlen hhand
      exact ⟨⟨w, w'⟩, run_cycle (smallStart a b) hg hrx rfl hgen hlen hhand, hboth.symm⟩

theorem small_secured (a : Nat → UInt64) : Secured (secRef a).app .tsnHigh where
  mode h := by cases h
  low := Nat.le_refl 60
  high := by change 60 < 2 ^ 16; decide

theorem secRef_lawful (a : Nat → UInt64) : (secRef a).evp.Lawful (fun _ : DigestCtx => ()) :=
  digestEvp_lawful

theorem secMirror_lawful (b : Nat → UInt64) : (secMirror b).evp.Lawful (fun _ : DigestCtx => ()) :=
  digestEvp_lawful

theorem nonce_unique_kept :
    ∃ net : SmallNet, (net.ref.seals ++ net.mirror.seals).length = 2 ∧
      NonceUnique (net.ref.seals ++ net.mirror.seals) := by
  obtain ⟨net, hrun, hseals⟩ := small_run
    (keeping (secRef fun _ => 400000) (secMirror fun _ => 0) .tsnHigh) (fun _ => 400000)
    (fun _ => 0) (by change 0 < 1 * 2 ^ 32; decide)
    (by change Keeps (secMirror fun _ => 0) 0 _; decide +kernel) (by decide +kernel)
    (by decide +kernel)
  refine ⟨net, by rw [hseals]; decide +kernel, ?_⟩
  exact nonce_unique (secRef_lawful _) (secMirror_lawful _) rfl (small_secured _) (by change 1 < 2 ^ 16; decide) hrun

/-- The mirror seals the frame under the reference's IV with another time stamp. -/
theorem nonce_reused :
    ∃ net : SmallNet, Run Guards.any (secRef fun i => 1000 * UInt64.ofNat i)
        (secMirror fun i => 1000 * UInt64.ofNat i) .tsnHigh
        (smallStart (fun i => 1000 * UInt64.ofNat i) (fun i => 1000 * UInt64.ofNat i)) net ∧
      ¬ NonceUnique (net.ref.seals ++ net.mirror.seals) := by
  obtain ⟨net, hrun, hseals⟩ := small_run Guards.any (fun i => 1000 * UInt64.ofNat i)
    (fun i => 1000 * UInt64.ofNat i) trivial trivial (by decide +kernel) (by decide +kernel)
  refine ⟨net, hrun, ?_⟩
  rw [hseals]
  decide +kernel

end Rtdk.Nonce
