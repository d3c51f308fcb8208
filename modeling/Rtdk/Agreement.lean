import Rtdk.SecureTx

/-! Sender and receiver of a PROFINET class in all three security modes.

A frame built by the class's own path is decoded by the class's own handler.
`agrees_iff` says for which configurations frame id, counter, time stamp,
authentication and payload always come out right: the number of frames per cycle
has to fit the 16 bits of the generator, and with encryption the payload buffer
the setup code leaves has to hold the configured pattern. It holds zeros for RTC
and was never allocated for TSN and RTA. -/

namespace Rtdk.Agreement
open Rtdk.Memory Rtdk.Endian Rtdk.NetDef Rtdk.Security Rtdk.Stat Rtdk.Lport Rtdk.Config Rtdk.Frame
open Rtdk.Thread Rtdk.Receive Rtdk.Handlers Rtdk.Checks Rtdk.Builder Rtdk.Decode Rtdk.Generate
open Rtdk.Sealing Rtdk.Reseal Rtdk.SecureTx

variable {C D D' K : Type}

/-- The class's path to a frame with counter `s` and time stamp `t`, from a
packet buffer `m`. -/
def buildFrame (env : Env C D) (ty : FrameType) (w : World C D) (m : Mbuf) (s t : UInt64) :
    Except Stop (World C D × Mbuf) :=
  let c := env.app.cls ty
  prepareFrame env ty (divisor c ty c.numFramesPerCycle.toUInt16) s t w
    (initializeFrame env.app env.mac ty m)

/-- The frame is built, and a receiver that expects its counter finds nothing
wrong with it. -/
def Agrees (env : Env C D) (envR : Env C D') (ty : FrameType) (w : World C D) (wr : World C D')
    (m : Mbuf) (s t : UInt64) : Prop :=
  ∃ w' f, buildFrame env ty w m s t = .ok (w', f) ∧
    ∀ (a : Mbuf) (stack : Mem UInt8), Arrives f.wire a →
      (rxHandler envR ty).check (env.app.cls ty).frameLength a =
          ((env.app.cls ty).frameLength, .ok ⟨18, false⟩) ∧
        ∃ r, (rxHandler envR ty).decode (wr.setRx s) stack a ⟨18, false⟩ = .ok r ∧
          r.frameId = frameId ty (env.app.mode ty) ∧ r.sequenceCounter = s ∧ r.txTimestamp = t ∧
          r.authRet = 0 ∧ (rxHandler envR ty).verdict r = ⟨false, false, false⟩

/-- The condition: with encryption, the buffer the setup leaves holds the pattern. -/
def PayloadReady (cfg : AppConfig) (ty : FrameType) : Prop :=
  cfg.mode ty = .ae →
    (ty = .rtc ∨ (cfg.cls ty).frameLength = 60) ∧ ∀ b ∈ (cfg.cls ty).payloadPattern, b = 0

/-! ## What a checked configuration gives -/

structure Checked (cfg : AppConfig) (ty : FrameType) : Prop where
  low : getMetaDataOffset ty (cfg.mode ty) + 16 + (cfg.cls ty).payloadPattern.length +
    (if cfg.mode ty = .none then 0 else 16) ≤ (cfg.cls ty).frameLength.toNat
  high : (cfg.cls ty).frameLength.toNat < 2 ^ 16

theorem checked_of_sane {withMqtt : Bool} {cfg : AppConfig} {ty : FrameType}
    (hsec : hasSecurity ty = true) (h : configSanityCheck withMqtt cfg = .ok ()) :
    Checked cfg ty := by
  have hmax := (frameLength_bounds h ty).2
  refine ⟨frameLength_room h ty ?_ ?_, Nat.lt_of_le_of_lt hmax (by decide)⟩
  · rintro rfl
    cases hsec
  · rintro rfl
    cases hsec

theorem Checked.secured {cfg : AppConfig} {ty : FrameType} (h : Checked cfg ty)
    (hm : cfg.mode ty ≠ .none) : Secured cfg ty where
  mode := hm
  low := by
    have hlow := h.low
    rw [if_neg hm, secured_offset hm] at hlow
    omega
  high := h.high

/-! ## The bytes that arrive -/

/-- A built frame: headers and metadata are the stamped ones, whatever the mode. -/
structure Emits (env : Env C D) (ty : FrameType) (im f : Mbuf) (n s t : UInt64) : Prop where
  dataLen : f.dataLen = im.dataLen
  bytes : ∀ i, i < getMetaDataOffset ty (env.app.mode ty) + 16 →
    f.data i = stampMetaData im.data (getMetaDataOffset ty (env.app.mode ty)) s n t i

/-- The parts of a successful preparation of a secured frame. -/
theorem prepareFrame_secured_ok {env : Env C D} {ty : FrameType} (hsec : hasSecurity ty = true)
    {n s t : UInt64} {w w' : World C D} {im f : Mbuf}
    (h : prepareFrame env ty n s t w im = .ok (w', f)) :
    ∃ p, prepareFrameForTx env.evp (prepareConfig env ty w.thread im n s t) = .ok p ∧
      f = { im with data := p.data } := by
  simp only [prepareFrame, hsec, if_true] at h
  cases hp : prepareFrameForTx env.evp (prepareConfig env ty w.thread im n s t) with
  | error e =>
    rw [hp] at h
    cases h
  | ok p =>
    rw [hp] at h
    cases h
    exact ⟨p, rfl, rfl⟩

theorem prepareFrame_emits {env : Env C D} {key : C → K} (hl : env.evp.Lawful key)
    {ty : FrameType} (hsec : hasSecurity ty = true) (hc : Checked env.app ty) {n s t : UInt64}
    {w w' : World C D} (hw : SetUp env.app ty w.thread) {im f : Mbuf}
    (hlen : im.dataLen.toNat = (env.app.cls ty).frameLength.toNat)
    (h : prepareFrame env ty n s t w im = .ok (w', f)) : Emits env ty im f n s t := by
  by_cases hm : env.app.mode ty = .none
  · rw [prepareFrame_plain env ty hm] at h
    cases h
    exact ⟨rfl, fun i _ => rfl⟩
  · have hs := hc.secured hm
    obtain ⟨p, hp, rfl⟩ := prepareFrame_secured_ok hsec h
    have hpay : w.thread.payloadPatternLength.toNat = (env.app.cls ty).frameLength.toNat - 60 := by
      rw [hw.length, threadSetup_length hs]
    obtain ⟨hdata, -⟩ := prepare_secured hl hs hlen hpay hp
    have hb := frameAad_bounds hs
    refine ⟨rfl, fun i hi => ?_⟩
    rw [secured_offset hm] at hi ⊢
    exact hdata i (by omega)

/-- What a handler reads from an arrived frame before it looks at the payload. -/
structure Header (ty : FrameType) (mode : SecurityMode) (r : Received C D') (n n' s t : UInt64) :
    Prop where
  frameId : r.frameId = frameId ty mode
  sequenceCounter : r.sequenceCounter = (s / n').toUInt32.toUInt64 * n + (s % n').toUInt32.toUInt64
  txTimestamp : r.txTimestamp = t

theorem stampMetaData_decoded (data : Mem UInt8) (off : Nat) (s n n' t : UInt64) :
    metaDataToSequenceCounter (stampMetaData data off s n' t) off n =
      (s / n').toUInt32.toUInt64 * n + (s % n').toUInt32.toUInt64 := by
  rw [stampMetaData, sequenceCounter_txTimestamp]
  simp only [metaDataToSequenceCounter, sequenceCounterToMetaData]
  rw [read32_write_same, read32_write_disjoint _ _ _ _ (by simp), read32_write_same]

theorem metaAt_secure (cfg : AppConfig) {ty : FrameType} (hsec : hasSecurity ty = true) :
    metaAt cfg ty 18 = getMetaDataOffset ty (cfg.mode ty) := by
  have h := metaAt_own cfg ty
  rwa [(secure_class hsec).2.2.1] at h

section Arrival

variable {env : Env C D} {envR : Env C D'} {ty : FrameType} {im f a : Mbuf} {n' s t : UInt64}

/-- A built frame of the configured length, and its copy at the receiver. -/
structure Arrived (env : Env C D) (ty : FrameType) (im f a : Mbuf) (n' s t : UInt64) : Prop where
  built : Built env.app ty im.data
  length : im.dataLen.toNat = (env.app.cls ty).frameLength.toNat
  emits : Emits env ty im f n' s t
  arrives : Arrives f.wire a

theorem Arrived.carries (h : Arrived env ty im f a n' s t) :
    (∀ i, i < (env.app.cls ty).frameLength.toNat → a.data i = f.data i) ∧
      a.len.toNat = (env.app.cls ty).frameLength.toNat := by
  obtain ⟨hcar, hlen⟩ := arrives_carries h.arrives
  rw [h.emits.dataLen, h.length] at hcar hlen
  exact ⟨hcar, hlen⟩

theorem Arrived.header (h : Arrived env ty im f a n' s t) (hc : Checked env.app ty) (i : Nat)
    (hi : i < getMetaDataOffset ty (env.app.mode ty) + 16) :
    a.data i = stampMetaData im.data (getMetaDataOffset ty (env.app.mode ty)) s n' t i := by
  have hlow := hc.low
  rw [h.carries.1 i (by omega), h.emits.bytes i hi]

theorem Arrived.check (h : Arrived env ty im f a n' s t) (hc : Checked env.app ty)
    (happ : envR.app = env.app) (hsec : hasSecurity ty = true) :
    (rxHandler envR ty).check (env.app.cls ty).frameLength a =
      ((env.app.cls ty).frameLength, .ok ⟨18, false⟩) := by
  obtain ⟨hvlan, -, hown, -, het⟩ := secure_class hsec
  have hge := (metaDataOffset_ge ty (env.app.mode ty)).1 hvlan
  have hlow := hc.low
  have hst := h.built.stamp s n' t
  have hread (x : Nat) (hx : x + 2 ≤ 18) : read16 a.data x =
      read16 (stampMetaData im.data (getMetaDataOffset ty (env.app.mode ty)) s n' t) x :=
    read16_congr fun i hi => h.header hc _ (by omega)
  rw [← happ, ← hown]
  rw [← happ] at hst
  refine check_own envR ty (fun hv => ?_) (fun hv => ?_) ?_ ?_ (het _)
  · rw [hread 12 (by omega), ← happ, hst.tagged hv]
  · rw [hread 16 (by omega), ← happ, hst.proto hv]
  · rw [← UInt64.toNat_inj, happ]
    exact h.carries.2
  · rw [happ]
    omega

theorem Arrived.decoded (h : Arrived env ty im f a n' s t) (hc : Checked env.app ty)
    (happ : envR.app = env.app) (hsec : hasSecurity ty = true) {w : World C D'} {p : Mem UInt8}
    {r : Received C D'} (hr : (rxHandler envR ty).decode w p a ⟨18, false⟩ = .ok r) :
    Header ty (env.app.mode ty) r (env.app.cls ty).numFramesPerCycle n' s t := by
  have hprof := (secure_class hsec).2.1
  have hspec := decode_spec envR ty hr
  have hoff : metaAt envR.app ty 18 = getMetaDataOffset ty (env.app.mode ty) := by
    rw [happ, metaAt_secure _ hsec]
  have hge := (metaDataOffset_ge ty (env.app.mode ty)).2 hprof
  refine ⟨?_, ?_, ?_⟩
  · rw [hspec.frameId hprof, ← (h.built.stamp s n' t).frameId hprof]
    exact read16_congr fun i hi => h.header hc (18 + i) (by omega)
  · rw [hspec.sequenceCounter, hoff, happ, ← stampMetaData_decoded im.data _ s _ n' t]
    exact sequenceCounter_congr _ fun i hi => h.header hc _ (by omega)
  · rw [hspec.txTimestamp, hoff, ← stampMetaData_timestamp im.data _ s n' t]
    exact txTimestamp_congr fun i hi => h.header hc _ (by omega)

end Arrival

/-! ## Authentication and payload, mode by mode -/

/-- Without security the payload is the frame's. -/
theorem plain_agrees {env : Env C D} {envR : Env C D'} {ty : FrameType} {im f a : Mbuf}
    {n s t : UInt64} (h : Arrived env ty im f a n s t) (hc : Checked env.app ty)
    (happ : envR.app = env.app) (hm : env.app.mode ty = .none) (hsec : hasSecurity ty = true)
    (hf : f.data = stampMetaData im.data (getMetaDataOffset ty (env.app.mode ty)) s n t)
    {w : World C D'} {p : Mem UInt8} {r : Received C D'}
    (hr : (rxHandler envR ty).decode w p a ⟨18, false⟩ = .ok r) :
    r.authRet = 0 ∧ r.payload = (env.app.cls ty).payloadPattern := by
  have hmR : envR.app.mode ty = .none := happ ▸ hm
  have hlow := hc.low
  refine ⟨?_, ?_⟩
  · rw [decode_plain envR ty hmR] at hr
    cases hr
    rfl
  · have hpay := plain_payload envR ty hmR hr
    simp only [happ, metaAt_secure _ hsec] at hpay
    rw [hpay]
    refine Eq.trans ?_ (h.built.stamp s n t).payload
    apply slice_congr
    intro i hi
    rw [h.carries.1 _ (by omega), hf]
    rfl

/-- The frame of a secured class at a receiver with the sender's configuration. -/
theorem arrived_unmodified {env : Env C D} {ty : FrameType} (hs : Secured env.app ty)
    {w : World C D} (hw : SetUp env.app ty w.thread) {im a : Mbuf} {s t : UInt64} {p : Prepared C}
    (h : Arrived env ty im { im with data := p.data } a (env.app.cls ty).numFramesPerCycle s t) :
    Unmodified (prepareConfig env ty w.thread im (env.app.cls ty).numFramesPerCycle s t) p
      (env.app.cls ty) a where
  secure := fun hm => hs.mode (hs.securityMode.trans hm)
  mode := rfl
  frames := rfl
  ivPrefix := rfl
  room := by
    change 60 ≤ im.dataLen.toNat
    rw [h.length]
    exact hs.low
  payload := fun _ => by
    change w.thread.payloadPatternLength.toNat = im.dataLen.toNat - 60
    rw [hw.length, threadSetup_length hs, h.length]
  length := h.carries.2.trans h.length.symm
  bytes := fun i hi => h.carries.1 i (h.length ▸ hi)

theorem ao_agrees {env : Env C D} {envR : Env C D'} {key : C → K} (hl : env.evp.Lawful key)
    {ty : FrameType} {im a : Mbuf} {s t : UInt64} {p : Prepared C} (hc : Checked env.app ty)
    (happ : envR.app = env.app) (hevp : envR.evp = env.evp) (hm : env.app.mode ty = .ao)
    {w : World C D} (hw : SetUp env.app ty w.thread) (wr : World C D')
    (hkey : key w.thread.txSecurityContext = key wr.thread.rxSecurityContext)
    (hwire : wireCounter s (env.app.cls ty).numFramesPerCycle = s)
    (hp : prepareFrameForTx env.evp
      (prepareConfig env ty w.thread im (env.app.cls ty).numFramesPerCycle s t) = .ok p)
    (h : Arrived env ty im { im with data := p.data } a (env.app.cls ty).numFramesPerCycle s t)
    {st : Mem UInt8} {r : Received C D'}
    (hr : (rxHandler envR ty).decode wr st a ⟨18, false⟩ = .ok r) :
    r.authRet = 0 ∧ r.payload = (env.app.cls ty).payloadPattern := by
  have hnone : env.app.mode ty ≠ .none := by simp [hm]
  have hs := hc.secured hnone
  have hmR : envR.app.mode ty = .ao := happ ▸ hm
  have hmode : (env.app.cls ty).securityMode = .ao := hs.securityMode ▸ hm
  have hres := decode_resealed (by simp [hmR]) hr
  have hun := arrived_unmodified hs hw h
  refine ⟨?_, ?_⟩
  · rw [hres.authRet, happ, hevp, openFrame, hmode]
    exact openFrame_ao hl hmode hp hun hwire _ hkey
  · have hlow := hc.low
    rw [if_neg hnone, secured_offset hnone] at hlow
    have hlen := h.carries.2
    have hroom : 18 + 26 + (envR.app.cls ty).payloadPattern.length ≤ checksumOff a := by
      simp only [happ, checksumOff, hlen, sizeofSecurityChecksum]
      omega
    rw [ao_payload envR hmR hroom hr, happ]
    have hpay : w.thread.payloadPatternLength.toNat = (env.app.cls ty).frameLength.toNat - 60 := by
      rw [hw.length, threadSetup_length hs]
    obtain ⟨hdata, -⟩ := prepare_secured hl hs h.length hpay hp
    have haad : frameAad (env.app.cls ty) = (env.app.cls ty).frameLength.toNat - 34 := by
      simp only [frameAad, hmode]
    have hst := (h.built.stamp s (env.app.cls ty).numFramesPerCycle t).payload
    rw [payloadOff, secured_offset hnone] at hst
    refine Eq.trans ?_ hst
    apply slice_congr
    intro i hi
    have hi' : 18 + 26 + i < (env.app.cls ty).frameLength.toNat := by omega
    exact (h.carries.1 _ hi').trans (hdata _ (by omega))

theorem ae_agrees {env : Env C D} {envR : Env C D'} {key : C → K} (hl : env.evp.Lawful key)
    {ty : FrameType} {im a : Mbuf} {s t : UInt64} {p : Prepared C} (hc : Checked env.app ty)
    (happ : envR.app = env.app) (hevp : envR.evp = env.evp) (hm : env.app.mode ty = .ae)
    {w : World C D} (hw : SetUp env.app ty w.thread) (wr : World C D')
    (hkey : key w.thread.txSecurityContext = key wr.thread.rxSecurityContext)
    (hwire : wireCounter s (env.app.cls ty).numFramesPerCycle = s)
    (hp : prepareFrameForTx env.evp
      (prepareConfig env ty w.thread im (env.app.cls ty).numFramesPerCycle s t) = .ok p)
    (h : Arrived env ty im { im with data := p.data } a (env.app.cls ty).numFramesPerCycle s t)
    {st : Mem UInt8} {r : Received C D'}
    (hr : (rxHandler envR ty).decode wr st a ⟨18, false⟩ = .ok r) :
    let buf := payloadBytes w.thread.payloadPattern w.thread.payloadPatternLength
    r.authRet = 0 ∧ (env.app.cls ty).payloadPattern.length ≤ buf.length ∧
      r.payload = buf.take (env.app.cls ty).payloadPattern.length := by
  intro buf
  have hnone : env.app.mode ty ≠ .none := by simp [hm]
  have hs := hc.secured hnone
  have hmR : envR.app.mode ty = .ae := happ ▸ hm
  have hmode : (env.app.cls ty).securityMode = .ae := hs.securityMode ▸ hm
  have hres := decode_resealed (by simp [hmR]) hr
  have hun := arrived_unmodified hs hw h
  obtain ⟨hret, hplain⟩ := openFrame_ae hl hmode hp hun hwire wr.thread.rxSecurityContext hkey
  have hlow := hc.low
  rw [if_neg hnone, secured_offset hnone] at hlow
  obtain ⟨hlen, -, -⟩ := prepare_ae hl (f := prepareConfig env ty w.thread im
    (env.app.cls ty).numFramesPerCycle s t) hmode hun.room (hun.payload hmode) hp
  have hlen' : buf.length = (env.app.cls ty).frameLength.toNat - 60 := by
    rw [← h.length]
    exact hlen
  refine ⟨?_, by omega, ?_⟩
  · rw [hres.authRet, happ, hevp, openFrame, hmode]
    exact hret
  · have hpl := ae_payload envR hmR hr
    simp only [happ, hevp] at hpl
    rw [hpl, hplain]
    have hin := slice_write_inside st 0 buf 0 (env.app.cls ty).payloadPattern.length (by omega)
    rw [Nat.zero_add, List.drop_zero] at hin
    exact hin

/-! ## The payload buffer -/

/-- The setup leaves a buffer of zeros or none. -/
theorem setUp_zeros {cfg : AppConfig} {ty : FrameType} {thread : ThreadContext C}
    (h : SetUp cfg ty thread) (b : UInt8)
    (hb : b ∈ payloadBytes thread.payloadPattern thread.payloadPatternLength) : b = 0 := by
  rw [h.payload] at hb
  simp only [threadSetup] at hb
  split at hb
  · simp only [payloadBytes, slice, List.mem_map] at hb
    obtain ⟨_, _, rfl⟩ := hb
    rfl
  · cases hb

/-- The pattern is a prefix of zeros exactly when it is zeros. -/
theorem take_eq_pattern_iff {pattern buf : List UInt8} (hbuf : ∀ b ∈ buf, b = 0)
    (hlen : pattern.length ≤ buf.length) :
    buf.take pattern.length = pattern ↔ ∀ b ∈ pattern, b = 0 := by
  have hz : buf.take pattern.length = List.replicate pattern.length 0 := by
    rw [List.eq_replicate_iff]
    exact ⟨by rw [List.length_take]; omega, fun b hb => hbuf b (List.mem_of_mem_take hb)⟩
  rw [hz, eq_comm, List.eq_replicate_iff]
  exact ⟨fun h => h.2, fun h => ⟨rfl, h⟩⟩

/-- For AE the buffer is there, or the frame has no room for a payload. -/
theorem payloadReady_buffer {cfg : AppConfig} {ty : FrameType} (hs : Secured cfg ty)
    {thread : ThreadContext C} (h : SetUp cfg ty thread)
    (hready : ty = .rtc ∨ (cfg.cls ty).frameLength = 60) :
    thread.payloadPattern ≠ none ∨ thread.payloadPatternLength = 0 := by
  rcases hready with rfl | hL
  · left
    rw [h.payload]
    simp [threadSetup]
  · right
    rw [← UInt64.toNat_inj, h.length, threadSetup_length hs, hL]
    rfl

theorem prepareFrame_total (env : Env C D) {ty : FrameType} (n s t : UInt64) (w : World C D)
    (im : Mbuf)
    (hbuf : env.app.mode ty = .ae →
      w.thread.payloadPattern ≠ none ∨ w.thread.payloadPatternLength = 0) :
    ∃ w' f, prepareFrame env ty n s t w im = .ok (w', f) := by
  by_cases hm : env.app.mode ty = .none
  · exact ⟨_, _, prepareFrame_plain env ty hm n s t w im⟩
  · obtain ⟨hsec, hmode⟩ := hasSecurity_of_mode hm
    rw [hmode] at hbuf hm
    simp only [prepareFrame, hsec, if_true]
    cases hp : prepareFrameForTx env.evp (prepareConfig env ty w.thread im n s t) with
    | ok p => exact ⟨_, _, rfl⟩
    | error e =>
      exfalso
      simp only [prepareFrameForTx, prepareConfig] at hp
      cases hsm : (env.app.cls ty).securityMode with
      | none => exact hm hsm
      | ao =>
        rw [hsm] at hp
        cases hp
      | ae =>
        rw [hsm] at hp
        simp only [sealPayload] at hp
        cases hb : w.thread.payloadPattern with
        | some buf =>
          rw [hb] at hp
          cases hp
        | none =>
          have hz : w.thread.payloadPatternLength = 0 := by
            rcases hbuf hsm with hne | hz
            · exact absurd hb hne
            · exact hz
          rw [hb] at hp
          simp only [hz, ne_eq, not_true_eq_false, false_and, if_false] at hp
          cases hp

/-! ## Both directions -/

theorem verdict_good {envR : Env C D'} {ty : FrameType} (hsec : hasSecurity ty = true)
    {r : Received C D'} (hid : r.frameId = frameId ty (envR.app.mode ty))
    (hseq : r.sequenceCounter = r.world.thread.rxSequenceCounter)
    (hpay : r.payload = (envR.app.cls ty).payloadPattern) :
    (rxHandler envR ty).verdict r = ⟨false, false, false⟩ := by
  have hmode : envR.app.mode ty = (envR.app.cls ty).securityMode := by simp [AppConfig.mode, hsec]
  rw [hmode] at hid
  cases ty with
  | tsnHigh | tsnLow | rtc | rta =>
    simp only [RxHandler.verdict, rxHandler, tsnRxFrame, rtcRxFrame, rtaRxFrame, hid, hseq, hpay,
      ne_eq, not_true_eq_false, decide_false]
  | dcp | lldp | udpHigh | udpLow | l2 => cases hsec

/-- A frame built and received, with what the two sides share. -/
theorem built_arrived {env : Env C D} {key : C → K} (hl : env.evp.Lawful key) {ty : FrameType}
    (hsec : hasSecurity ty = true) (hc : Checked env.app ty) {w w' : World C D}
    (hw : SetUp env.app ty w.thread) {m f a : Mbuf} {s t : UInt64}
    (h : buildFrame env ty w m s t = .ok (w', f)) (harr : Arrives f.wire a) :
    Arrived env ty (initializeFrame env.app env.mac ty m) f a
      (divisor (env.app.cls ty) ty (env.app.cls ty).numFramesPerCycle.toUInt16) s t := by
  have hlen : (initializeFrame env.app env.mac ty m).dataLen.toNat =
      (env.app.cls ty).frameLength.toNat := by
    rw [(initializeFrame_lengths env.app env.mac ty m).1, UInt64.toNat_toUInt16,
      Nat.mod_eq_of_lt hc.high]
  exact ⟨initializeFrame_built env.app env.mac ty m, hlen,
    prepareFrame_emits hl hsec hc hw hlen h, harr⟩

theorem agrees_of_ready {env : Env C D} {envR : Env C D'} {key : C → K} (hl : env.evp.Lawful key)
    {ty : FrameType} (hsec : hasSecurity ty = true) (hc : Checked env.app ty)
    (happ : envR.app = env.app) (hevp : envR.evp = env.evp) {w : World C D} {wr : World C D'}
    (hw : SetUp env.app ty w.thread) (hwr : SetUp env.app ty wr.thread)
    (hkey : key w.thread.txSecurityContext = key wr.thread.rxSecurityContext)
    (hn : (env.app.cls ty).numFramesPerCycle.toNat < 2 ^ 16) (hready : PayloadReady env.app ty)
    {s : UInt64} (hs : s.toNat < (env.app.cls ty).numFramesPerCycle.toNat * 2 ^ 32) (t : UInt64)
    (m : Mbuf) : Agrees env envR ty w wr m s t := by
  have hwire : wireCounter s (env.app.cls ty).numFramesPerCycle = s := by
    have h := wireCounter_ofNat hn hs
    rwa [UInt64.ofNat_toNat] at h
  have hbuf (th : ThreadContext C) (hth : SetUp env.app ty th) (hm : env.app.mode ty = .ae) :=
    payloadReady_buffer (hc.secured (by simp [hm])) hth (hready hm).1
  obtain ⟨w', f, hbuild⟩ := prepareFrame_total env
    (divisor (env.app.cls ty) ty (env.app.cls ty).numFramesPerCycle.toUInt16) s t w
    (initializeFrame env.app env.mac ty m) (hbuf _ hw)
  refine ⟨w', f, hbuild, fun a stack harr => ?_⟩
  have harrived := built_arrived hl hsec hc hw hbuild harr
  rw [(divisor_eq ty hn).2] at harrived hbuild
  refine ⟨harrived.check hc happ hsec, ?_⟩
  obtain ⟨r, hr⟩ := decode_total envR ty (wr.setRx s) stack a ⟨18, false⟩
    (by rw [happ]; exact hbuf _ ⟨hwr.payload, hwr.length⟩)
  have hhead := harrived.decoded hc happ hsec hr
  have hseq : r.sequenceCounter = s := hhead.sequenceCounter.trans hwire
  have hgood : r.authRet = 0 ∧ r.payload = (env.app.cls ty).payloadPattern := by
    cases hm : env.app.mode ty with
    | none =>
      rw [prepareFrame_plain env ty hm] at hbuild
      refine plain_agrees harrived hc happ hm hsec ?_ hr
      cases hbuild
      rfl
    | ao =>
      obtain ⟨p, hp, rfl⟩ := prepareFrame_secured_ok hsec hbuild
      exact ao_agrees hl hc happ hevp hm hw (wr.setRx s) hkey hwire hp harrived hr
    | ae =>
      obtain ⟨p, hp, rfl⟩ := prepareFrame_secured_ok hsec hbuild
      obtain ⟨hret, hlen, hpay⟩ :=
        ae_agrees hl hc happ hevp hm hw (wr.setRx s) hkey hwire hp harrived hr
      exact ⟨hret, hpay.trans ((take_eq_pattern_iff (setUp_zeros hw) hlen).mpr (hready hm).2)⟩
  refine ⟨r, hr, hhead.frameId, hseq, hhead.txTimestamp, hgood.1, ?_⟩
  refine verdict_good hsec ?_ ?_ ?_
  · rw [happ]
    exact hhead.frameId
  · rw [hseq, (decode_spec envR ty hr).rx]
    rfl
  · rw [happ]
    exact hgood.2

/-- A copy of a frame can arrive. -/
theorem exists_arrival (f : Mbuf) : ∃ a, Arrives f.wire a :=
  ⟨{ f with pktLen := f.dataLen.toUInt32 }, rfl, rfl⟩

/-- More frames per cycle than the generator can count: some counter comes out wrong. -/
theorem frames_of_agrees {env : Env C D} {envR : Env C D'} {key : C → K}
    (hl : env.evp.Lawful key) {ty : FrameType} (hsec : hasSecurity ty = true)
    (hc : Checked env.app ty) (happ : envR.app = env.app) {w : World C D} {wr : World C D'}
    (hw : SetUp env.app ty w.thread)
    (h : ∀ s t m, s.toNat < (env.app.cls ty).numFramesPerCycle.toNat * 2 ^ 32 →
      Agrees env envR ty w wr m s t) :
    (env.app.cls ty).numFramesPerCycle.toNat < 2 ^ 16 := by
  have hdiv : divisor (env.app.cls ty) ty (env.app.cls ty).numFramesPerCycle.toUInt16 =
      (env.app.cls ty).numFramesPerCycle.toUInt16.toUInt64 := by
    cases ty with
    | tsnHigh | tsnLow | rtc | rta => rfl
    | dcp | lldp | udpHigh | udpLow | l2 => cases hsec
  generalize hN : (env.app.cls ty).numFramesPerCycle = n at *
  have hdecoded (s : UInt64) (hs : s.toNat < n.toNat * 2 ^ 32) :
      s = (s / n.toUInt16.toUInt64).toUInt32.toUInt64 * n +
        (s % n.toUInt16.toUInt64).toUInt32.toUInt64 := by
    obtain ⟨w', f, hbuild, hall⟩ := h s 0 ⟨0, fun _ => 0, 0, 0⟩ hs
    obtain ⟨a, harr⟩ := exists_arrival f
    obtain ⟨-, r, hr, -, hseq, -⟩ := hall a (fun _ => 0) harr
    have hhead := (built_arrived hl hsec hc hw hbuild harr).decoded hc happ hsec hr
    rw [hN, hdiv] at hhead
    exact hseq.symm.trans hhead.sequenceCounter
  by_contra hbig
  have hlt : n.toUInt16.toUInt64.toNat < 2 ^ 16 := by
    rw [UInt16.toNat_toUInt64]
    exact n.toUInt16.toNat_lt
  by_cases hz : n.toUInt16.toUInt64 = 0
  · have hd := hdecoded 4294967296 (by change 4294967296 < _; omega)
    rw [hz] at hd
    have hzero : ((4294967296 : UInt64) / 0).toUInt32.toUInt64 = 0 := by decide
    have hmod : ((4294967296 : UInt64) % 0).toUInt32.toUInt64 = 0 := by decide
    rw [hzero, hmod, UInt64.zero_mul] at hd
    exact absurd hd (by decide)
  · have hd := hdecoded n.toUInt16.toUInt64 (by omega)
    have hpos : 0 < n.toUInt16.toUInt64.toNat := by
      rcases Nat.eq_zero_or_pos n.toUInt16.toUInt64.toNat with h0 | h0
      · exact absurd (UInt64.toNat_inj.mp h0) hz
      · exact h0
    have hone : n.toUInt16.toUInt64 / n.toUInt16.toUInt64 = 1 := by
      rw [← UInt64.toNat_inj, UInt64.toNat_div, Nat.div_self hpos]
      rfl
    have hrem : n.toUInt16.toUInt64 % n.toUInt16.toUInt64 = 0 := by
      rw [← UInt64.toNat_inj, UInt64.toNat_mod, Nat.mod_self]
      rfl
    rw [hone, hrem] at hd
    have heq : n.toUInt16.toUInt64 = n := by
      have h1 : (1 : UInt64).toUInt32.toUInt64 = 1 := by decide
      have h0 : (0 : UInt64).toUInt32.toUInt64 = 0 := by decide
      rw [h1, h0, UInt64.one_mul, UInt64.add_zero] at hd
      exact hd
    rw [heq] at hlt
    exact hbig hlt

/-- With encryption, agreement on one frame shows that the buffer holds the pattern. -/
theorem ready_of_agrees {env : Env C D} {envR : Env C D'} {key : C → K} (hl : env.evp.Lawful key)
    {ty : FrameType} (hsec : hasSecurity ty = true) (hc : Checked env.app ty)
    (happ : envR.app = env.app) (hevp : envR.evp = env.evp) {w : World C D} {wr : World C D'}
    (hw : SetUp env.app ty w.thread)
    (hkey : key w.thread.txSecurityContext = key wr.thread.rxSecurityContext)
    (hn : (env.app.cls ty).numFramesPerCycle.toNat < 2 ^ 16)
    (hpos : 0 < (env.app.cls ty).numFramesPerCycle.toNat)
    (h : Agrees env envR ty w wr ⟨0, fun _ => 0, 0, 0⟩ 0 0) : PayloadReady env.app ty := by
  intro hm
  have hnone : env.app.mode ty ≠ .none := by simp [hm]
  have hs := hc.secured hnone
  have hwire : wireCounter 0 (env.app.cls ty).numFramesPerCycle = 0 :=
    wireCounter_ofNat (j := 0) hn (by omega)
  obtain ⟨w', f, hbuild, hall⟩ := h
  obtain ⟨a, harr⟩ := exists_arrival f
  obtain ⟨-, r, hr, -, -, -, -, hv⟩ := hall a (fun _ => 0) harr
  have harrived := built_arrived hl hsec hc hw hbuild harr
  rw [(divisor_eq ty hn).2] at harrived
  have hbuild' := hbuild
  rw [buildFrame, (divisor_eq ty hn).2] at hbuild'
  obtain ⟨p, hp, rfl⟩ := prepareFrame_secured_ok hsec hbuild'
  obtain ⟨-, hlen, hpay⟩ :=
    ae_agrees hl hc happ hevp hm hw (wr.setRx 0) hkey hwire hp harrived hr
  have hmatch : r.payload = (env.app.cls ty).payloadPattern := by
    have hp := congrArg Verdict.payloadMismatch hv
    simpa [RxHandler.verdict, handler_pattern, happ] using hp
  refine ⟨?_, (take_eq_pattern_iff (setUp_zeros hw) hlen).mp (hpay.symm.trans hmatch)⟩
  by_cases hrtc : ty = .rtc
  · exact Or.inl hrtc
  · right
    have hun := arrived_unmodified hs hw harrived
    have hmode : (env.app.cls ty).securityMode = .ae := hs.securityMode.symm.trans hm
    obtain ⟨hbl, -, -⟩ := prepare_ae hl (f := prepareConfig env ty w.thread _
      (env.app.cls ty).numFramesPerCycle 0 0) hmode hun.room (hun.payload hmode) hp
    have hnil : w.thread.payloadPattern = none := by
      rw [hw.payload]
      simp [threadSetup, hrtc]
    simp only [prepareConfig, hnil, payloadBytes, List.length_nil, harrived.length] at hbl
    have hlow := hs.low
    rw [← UInt64.toNat_inj]
    change _ = 60
    omega

/-- **Transmit and receive agree.**  For an active PROFINET class every frame the
class builds is received without complaint exactly when the number of frames
per cycle fits 16 bits and, with encryption, the pattern is zeros and the class
is RTC or its frames have no payload. -/
theorem agrees_iff {env : Env C D} {envR : Env C D'} {key : C → K} (hl : env.evp.Lawful key)
    {withMqtt : Bool} {ty : FrameType} (hsec : hasSecurity ty = true)
    (hsane : configSanityCheck withMqtt env.app = .ok ()) (hactive : env.app.isActive ty = true)
    (happ : envR.app = env.app) (hevp : envR.evp = env.evp) (w : World C D) (wr : World C D')
    (hw : SetUp env.app ty w.thread) (hwr : SetUp env.app ty wr.thread)
    (hkey : key w.thread.txSecurityContext = key wr.thread.rxSecurityContext) :
    (∀ (s t : UInt64) (m : Mbuf),
        s.toNat < (env.app.cls ty).numFramesPerCycle.toNat * 2 ^ 32 →
          Agrees env envR ty w wr m s t) ↔
      (env.app.cls ty).numFramesPerCycle.toNat < 2 ^ 16 ∧ PayloadReady env.app ty := by
  have hc := checked_of_sane hsec hsane
  have hpos : 0 < (env.app.cls ty).numFramesPerCycle.toNat := by
    simp only [AppConfig.isActive, Bool.and_eq_true, decide_eq_true_eq] at hactive
    exact UInt64.lt_iff_toNat_lt.mp hactive.2
  constructor
  · intro h
    have hn := frames_of_agrees hl hsec hc happ hw h
    exact ⟨hn, ready_of_agrees hl hsec hc happ hevp hw hkey hn hpos
      (h 0 0 _ (by change 0 < _; omega))⟩
  · rintro ⟨hn, hready⟩ s t m hs
    exact agrees_of_ready hl hsec hc happ hevp hw hwr hkey hn hready hs t m

/-! All classes in AE mode with one frame per cycle: RTC without a
pattern agrees; with the default pattern it decrypts zeros, and TSN does not get
as far as a frame. -/

def encrypted (frameLength : UInt64) (pattern : List UInt8) : AppConfig :=
  AppConfig.small .ae frameLength 1 pattern

/-- "Payload". -/
def defaultPattern : List UInt8 := [80, 97, 121, 108, 111, 97, 100]

def encryptedNode (frameLength : UInt64) (pattern : List UInt8) : Env DigestCtx Unit :=
  Env.small (encrypted frameLength pattern) false

def encryptedWorld (frameLength : UInt64) (pattern : List UInt8) (ty : FrameType) :
    World DigestCtx Unit :=
  World.fresh (encryptedNode frameLength pattern) ty DigestCtx.fresh ()

theorem encrypted_sane : configSanityCheck false (encrypted 64 []) = .ok () := by rfl

theorem encryptedNode_lawful (frameLength : UInt64) (pattern : List UInt8) :
    (encryptedNode frameLength pattern).evp.Lawful (fun _ : DigestCtx => ()) := digestEvp_lawful

theorem agrees_iff_empty :
    Agrees (encryptedNode 64 []) (encryptedNode 64 []) .rtc (encryptedWorld 64 [] .rtc)
      (encryptedWorld 64 [] .rtc) ⟨0, fun _ => 0, 0, 0⟩ 7 5 :=
  (agrees_iff (encryptedNode_lawful 64 []) rfl
    encrypted_sane (by decide) rfl rfl (encryptedWorld 64 [] .rtc) (encryptedWorld 64 [] .rtc)
    ⟨rfl, rfl⟩ ⟨rfl, rfl⟩ rfl).mpr
    ⟨by decide, fun _ => ⟨Or.inl rfl, fun b hb => by cases hb⟩⟩ 7 5 _ (by decide)

/-- What becomes of a frame with counter 0 that the class builds: how the
process ends, or authentication and verdict at the receiver. -/
def trip (frameLength : UInt64) (pattern : List UInt8) (ty : FrameType) :
    Except Halt (Int × Verdict) :=
  let env := encryptedNode frameLength pattern
  let w := encryptedWorld frameLength pattern ty
  match buildFrame env ty w ⟨0, fun _ => 0, 0, 0⟩ 0 5 with
  | .error e => .error e.reason
  | .ok (_, f) =>
    match (rxHandler env ty).decode w (fun _ => 0) f ⟨18, false⟩ with
    | .error e => .error e.reason
    | .ok r => .ok (r.authRet, (rxHandler env ty).verdict r)

theorem default_pattern_mismatch :
    (configSanityCheck false (encrypted 80 defaultPattern)).isOk = true ∧
      (trip 80 defaultPattern .rtc).toOption = some (0, ⟨false, true, false⟩) ∧
      (match trip 80 defaultPattern .tsnHigh with
        | .error reason => decide (reason = .sigsegv)
        | .ok _ => false) = true := by
  decide +kernel

end Rtdk.Agreement
