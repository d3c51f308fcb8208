import Rtdk.Reseal
import Rtdk.Generate

/-! Frames of the secured classes at the sender: the lengths a checked
configuration guarantees (`Secured`), the payload buffer the thread setup
leaves (`SetUp`), and what preparing a frame writes and seals
(`prepare_secured`). -/

namespace Rtdk.SecureTx
open Rtdk.Memory Rtdk.Endian Rtdk.NetDef Rtdk.Security Rtdk.Stat Rtdk.Lport Rtdk.Config Rtdk.Frame
open Rtdk.Thread Rtdk.Receive Rtdk.Handlers Rtdk.Checks Rtdk.Builder Rtdk.Decode Rtdk.Generate
open Rtdk.Sealing Rtdk.Reseal

variable {C D K : Type}

/-- Length of the associated data of the class's frames. -/
def frameAad (c : ClassConfig) : Nat :=
  match c.securityMode with
  | .ae => 26
  | _ => c.frameLength.toNat - 34

/-- A configuration of a secured class: its frames hold headers and checksum. -/
structure Secured (cfg : AppConfig) (ty : FrameType) : Prop where
  mode : cfg.mode ty ≠ .none
  low : 60 ≤ (cfg.cls ty).frameLength.toNat
  high : (cfg.cls ty).frameLength.toNat < 2 ^ 16

theorem Secured.hasSecurity {cfg : AppConfig} {ty : FrameType} (h : Secured cfg ty) :
    hasSecurity ty = true := (hasSecurity_of_mode h.mode).1

theorem Secured.securityMode {cfg : AppConfig} {ty : FrameType} (h : Secured cfg ty) :
    cfg.mode ty = (cfg.cls ty).securityMode := (hasSecurity_of_mode h.mode).2

/-- Where the metadata of the secured classes is. -/
theorem secured_offset {cfg : AppConfig} {ty : FrameType} (hm : cfg.mode ty ≠ .none) :
    getMetaDataOffset ty (cfg.mode ty) = 28 := by
  have hsec := (hasSecurity_of_mode hm).1
  cases ty with
  | tsnHigh | tsnLow | rtc | rta => simp only [getMetaDataOffset, hm, if_false]
  | dcp | lldp | udpHigh | udpLow | l2 => cases hsec

theorem frameAad_bounds {cfg : AppConfig} {ty : FrameType} (h : Secured cfg ty) :
    26 ≤ frameAad (cfg.cls ty) ∧ 34 + frameAad (cfg.cls ty) ≤ (cfg.cls ty).frameLength.toNat := by
  have hlow := h.low
  unfold frameAad
  split <;> omega

theorem aadLength_eq {cfg : AppConfig} {ty : FrameType} (h : Secured cfg ty) {m : Mbuf}
    (hlen : m.len.toNat = (cfg.cls ty).frameLength.toNat) :
    aadLength (cfg.cls ty) m 18 = frameAad (cfg.cls ty) := by
  unfold aadLength frameAad
  cases (cfg.cls ty).securityMode with
  | ae => rfl
  | none | ao =>
    have hlow := h.low
    simp only
    rw [aadSize_toNat (by omega), hlen]
    omega

/-- The payload buffer is as the class's setup left it. -/
structure SetUp (cfg : AppConfig) (ty : FrameType) (thread : ThreadContext C) : Prop where
  payload : thread.payloadPattern = (threadSetup cfg ty () ()).payloadPattern
  length : thread.payloadPatternLength = (threadSetup cfg ty () ()).payloadPatternLength

/-- Every thread encrypts the same bytes. -/
theorem SetUp.plaintext {cfg : AppConfig} {ty : FrameType} {thread : ThreadContext C}
    (h : SetUp cfg ty thread) :
    plaintextOf (cfg.cls ty) thread = plaintextOf (cfg.cls ty) (threadSetup cfg ty () ()) := by
  unfold plaintextOf
  rw [h.payload, h.length]

/-- The payload length the thread setup computes for a secured class. -/
theorem threadSetup_length_of {cfg : AppConfig} {ty : FrameType} (hsec : hasSecurity ty = true)
    (hlow : 60 ≤ (cfg.cls ty).frameLength.toNat) :
    (threadSetup cfg ty () ()).payloadPatternLength.toNat = (cfg.cls ty).frameLength.toNat - 60 := by
  have hroom := payloadSize_toNat hlow
  cases ty with
  | tsnHigh | tsnLow | rtc | rta => exact hroom
  | dcp | lldp | udpHigh | udpLow | l2 => cases hsec

theorem threadSetup_length {cfg : AppConfig} {ty : FrameType} (hs : Secured cfg ty) :
    (threadSetup cfg ty () ()).payloadPatternLength.toNat = (cfg.cls ty).frameLength.toNat - 60 :=
  threadSetup_length_of hs.hasSecurity hs.low

/-- Whatever a thread encrypts, headers and metadata of the sealed frame are as stamped. -/
theorem prepare_header {evp : Evp C} {key : C → K} (hl : evp.Lawful key) {f : PrepareFrameConfig C}
    {p : Prepared C} (hm : f.mode ≠ .none) (hroom : 60 ≤ f.frameLength)
    (hp : prepareFrameForTx evp f = .ok p) (i : Nat) (hi : i < 44) : p.data i = stamped f i := by
  cases hmode : f.mode with
  | none => exact absurd hmode hm
  | ao => exact (prepare_ao hl hmode hroom hp).1.header i hi
  | ae =>
    simp only [prepareFrameForTx, hmode] at hp
    cases hs : sealPayload evp f.securityContext
        (stampMetaData f.frameData 28 f.sequenceCounter f.numFramesPerCycle f.txTimestamp)
        f.payloadPattern f.payloadPatternLength (prepareIv f.ivPrefix f.sequenceCounter)
        sizeofVlanEthernetHeader sizeofProfinetSecureHeader
        (sizeofVlanEthernetHeader + sizeofProfinetSecureHeader)
        (f.frameLength - sizeofSecurityChecksum) with
    | error e =>
      rw [hs] at hp
      cases hp
    | ok r =>
      rw [hs] at hp
      have hr := sealPayload_eq hs
      cases hp
      rw [hr]
      refine (sealFrame_spec hl _ _ _ _ _ _ _ _ (Or.inr (Nat.le_refl _)) ?_).1 i hi
      simp only [sizeofVlanEthernetHeader, sizeofProfinetSecureHeader, sizeofSecurityChecksum]
      omega

/-- The frame a secured class prepares: header and associated data as stamped,
and the sealing that was done. -/
theorem prepare_secured {env : Env C D} {key : C → K} (hl : env.evp.Lawful key) {ty : FrameType}
    (hs : Secured env.app ty) {thread : ThreadContext C} {m : Mbuf} {n seq t : UInt64}
    (hlen : m.dataLen.toNat = (env.app.cls ty).frameLength.toNat)
    (hpay : thread.payloadPatternLength.toNat = (env.app.cls ty).frameLength.toNat - 60)
    {p : Prepared C}
    (hp : prepareFrameForTx env.evp (prepareConfig env ty thread m n seq t) = .ok p) :
    (∀ i, i < 18 + frameAad (env.app.cls ty) → p.data i = stampMetaData m.data 28 seq n t i) ∧
      p.call = some ⟨(prepareIv (env.app.cls ty).securityIvPrefix seq).take securityIvLen,
        slice (stampMetaData m.data 28 seq n t) 18 (frameAad (env.app.cls ty)),
        plaintextOf (env.app.cls ty) thread⟩ := by
  have hlow := hs.low
  have hroom : 60 ≤ (prepareConfig env ty thread m n seq t).frameLength := by
    change 60 ≤ m.dataLen.toNat
    omega
  cases hm : (env.app.cls ty).securityMode with
  | none => exact absurd (hs.securityMode.trans hm) hs.mode
  | ao =>
    obtain ⟨hb, hbelow⟩ := prepare_ao hl (f := prepareConfig env ty thread m n seq t) hm hroom hp
    have haad : (prepareConfig env ty thread m n seq t).frameLength - 34 =
        frameAad (env.app.cls ty) := by
      simp only [prepareConfig, hlen, frameAad, hm]
    have hbounds := frameAad_bounds hs
    rw [haad] at hb
    refine ⟨fun i hi => hbelow i ?_, ?_⟩
    · change i < m.dataLen.toNat - 16
      omega
    · simp only [plaintextOf, hm]
      exact hb.call
  | ae =>
    obtain ⟨-, hb, -⟩ := prepare_ae hl (f := prepareConfig env ty thread m n seq t) hm hroom
      (by rw [← hlen] at hpay; exact hpay) hp
    have haad : frameAad (env.app.cls ty) = 26 := by simp only [frameAad, hm]
    refine ⟨fun i hi => hb.header i (by omega), ?_⟩
    simp only [plaintextOf, hm, haad]
    exact hb.call

/-- Both lengths of an initialised frame are the configured one. -/
theorem initializeFrame_len {cfg : AppConfig} {ty : FrameType} (hs : Secured cfg ty)
    (mac : Vector UInt8 6) (m : Mbuf) :
    (initializeFrame cfg mac ty m).dataLen.toNat = (cfg.cls ty).frameLength.toNat ∧
      (initializeFrame cfg mac ty m).len.toNat = (cfg.cls ty).frameLength.toNat := by
  have hhigh := hs.high
  have hlens := initializeFrame_lengths cfg mac ty m
  refine ⟨?_, ?_⟩
  · rw [hlens.1, UInt64.toNat_toUInt16, Nat.mod_eq_of_lt hhigh]
  · rw [Mbuf.len_toNat, hlens.2, UInt64.toNat_toUInt32, Nat.mod_eq_of_lt (by omega)]

end Rtdk.SecureTx
