import Rtdk.Decode
import Rtdk.Sealing

/-! What a secured handler does to a frame it decodes: it opens the frame, puts
its own time stamp into it and seals it again under the IV of the frame's
counter (`decode_resealed`). Associated data, plaintext and checksum position of
the second sealing are given here in one form for both modes. -/

namespace Rtdk.Reseal
open Rtdk.Memory Rtdk.Endian Rtdk.NetDef Rtdk.Security Rtdk.Stat Rtdk.Lport Rtdk.Config Rtdk.Frame
open Rtdk.Thread Rtdk.Receive Rtdk.Handlers Rtdk.Checks Rtdk.Builder Rtdk.Decode Rtdk.Sealing

variable {C D K : Type}

/-- How much of a frame is associated data in the class's security mode. -/
def aadLength (c : ClassConfig) (m : Mbuf) (off : Nat) : Nat :=
  match c.securityMode with
  | .ae => sizeofProfinetSecureHeader
  | _ => (aadSize m.len off).toNat

/-- What a thread encrypts into every frame. -/
def plaintextOf (c : ClassConfig) (thread : ThreadContext C) : Option (List UInt8) :=
  match c.securityMode with
  | .ae => some (payloadBytes thread.payloadPattern thread.payloadPatternLength)
  | _ => none

/-- Where the ciphertext goes; without one the place does not matter. -/
def ciphertextOff (c : ClassConfig) (off : Nat) : Nat :=
  match c.securityMode with
  | .ae => off + sizeofProfinetSecureHeader
  | _ => 0

/-- The second sealing of a received frame, with time stamp `t`. -/
def sealAgain (env : Env C D) (c : ClassConfig) (w : World C D) (m : Mbuf) (off : Nat) (t : UInt64) :
    Sealed C :=
  sealFrame env.evp (openFrame env.evp c w.thread.rxSecurityContext m off).ctx
    (txTimestampToMetaData m.data (off + 10) t) (plaintextOf c w.thread) (rxIv c m off) off
    (aadLength c m off) (ciphertextOff c off) (checksumOff m)

/-- A decoded frame of a secured class. -/
structure Resealed (env : Env C D) (c : ClassConfig) (w : World C D) (m : Mbuf) (off : Nat)
    (r : Received C D) : Prop where
  mbuf : r.mbuf = { m with data := (sealAgain env c w m off (env.mirrorStamp (w.now env))).data }
  thread : r.world.thread = { w.thread with
    rxSecurityContext := (sealAgain env c w m off (env.mirrorStamp (w.now env))).ctx }
  seals : r.world.seals =
    w.seals ++ [(sealAgain env c w m off (env.mirrorStamp (w.now env))).call]
  ticks : r.world.ticks = w.ticks + 1
  authRet : r.authRet = (openFrame env.evp c w.thread.rxSecurityContext m off).ret

theorem profinetDecode_resealed {env : Env C D} {c : ClassConfig}
    (hm : c.securityMode ≠ .none) {ao ae : UInt64 → LogEntry} {w : World C D} {p : Mem UInt8}
    {m : Mbuf} {lay : Layout} {r : Received C D}
    (h : profinetDecode env c ao ae w p m lay = .ok r) : Resealed env c w m lay.off r := by
  unfold profinetDecode at h
  cases hmode : c.securityMode with
  | none => exact absurd hmode hm
  | ao =>
    simp only [hmode, Except.ok.injEq] at h
    have hagain : sealAgain env c w m lay.off (env.mirrorStamp (w.now env)) =
        sealFrame env.evp (aoOpen env.evp c w.thread.rxSecurityContext m lay.off).ctx
          (txTimestampToMetaData m.data (lay.off + 10) (env.mirrorStamp (w.now env))) none
          (rxIv c m lay.off) lay.off (aadSize m.len lay.off).toNat 0
          (checksumOff m) := by
      simp only [sealAgain, openFrame, plaintextOf, aadLength, ciphertextOff, hmode]
    subst h
    refine ⟨?_, ?_, ?_, rfl, ?_⟩
    · rw [hagain]
      rfl
    · rw [hagain]
      rfl
    · rw [hagain]
      rfl
    · simp only [openFrame, hmode]
      rfl
  | ae =>
    simp only [hmode, aeDecode] at h
    split at h
    · cases h
    · rename_i again hseal
      have hagain : sealAgain env c w m lay.off (env.mirrorStamp (w.now env)) = again := by
        rw [sealPayload_eq hseal]
        simp only [sealAgain, openFrame, plaintextOf, aadLength, ciphertextOff, hmode,
          World.tick_thread]
      cases h
      refine ⟨?_, ?_, ?_, rfl, ?_⟩
      · rw [hagain]
      · rw [hagain]
        rfl
      · rw [hagain]
        rfl
      · simp only [openFrame, hmode, World.tick_thread]

theorem decode_secured (env : Env C D) {ty : FrameType} (hsec : hasSecurity ty = true) :
    ∃ ao ae, (rxHandler env ty).decode = profinetDecode env (env.app.cls ty) ao ae := by
  cases ty with
  | tsnHigh | tsnLow | rtc | rta => exact ⟨_, _, rfl⟩
  | dcp | lldp | udpHigh | udpLow | l2 => cases hsec

theorem hasSecurity_of_mode {cfg : AppConfig} {ty : FrameType} (hm : cfg.mode ty ≠ .none) :
    hasSecurity ty = true ∧ cfg.mode ty = (cfg.cls ty).securityMode := by
  cases hs : hasSecurity ty with
  | true => exact ⟨rfl, by simp [AppConfig.mode, hs]⟩
  | false => exact absurd (by simp [AppConfig.mode, hs]) hm

/-- **Sealed again.**  Every frame a secured handler decodes, authentic or not,
leaves the decoding sealed under the IV of its own counter. -/
theorem decode_resealed {env : Env C D} {ty : FrameType} (hm : env.app.mode ty ≠ .none) {w : World C D} {p : Mem UInt8} {m : Mbuf} {lay : Layout}
    {r : Received C D} (h : (rxHandler env ty).decode w p m lay = .ok r) :
    Resealed env (env.app.cls ty) w m lay.off r := by
  obtain ⟨hsec, hmode⟩ := hasSecurity_of_mode hm
  obtain ⟨ao, ae, hd⟩ := decode_secured env hsec
  rw [hd] at h
  exact profinetDecode_resealed (hmode ▸ hm) h

/-- What a handler seals again in AE has the length of the thread's payload, or the sealing
fails. -/
theorem decode_payload_length {env : Env C D} {ty : FrameType} (hm : env.app.mode ty = .ae)
    {w : World C D} {p : Mem UInt8} {m : Mbuf} {lay : Layout} {r : Received C D}
    (h : (rxHandler env ty).decode w p m lay = .ok r)
    (hret : (sealAgain env (env.app.cls ty) w m lay.off (env.mirrorStamp (w.now env))).ret = 0) :
    (payloadBytes w.thread.payloadPattern w.thread.payloadPatternLength).length =
      w.thread.payloadPatternLength.toNat := by
  have hne : env.app.mode ty ≠ .none := by simp [hm]
  obtain ⟨hsec, hmode⟩ := hasSecurity_of_mode hne
  obtain ⟨ao, ae, hd⟩ := decode_secured env hsec
  rw [hm] at hmode
  simp only [hd, profinetDecode, ← hmode, aeDecode] at h
  split at h
  · cases h
  · rename_i again hseal
    have hagain : again.ret =
        (sealAgain env (env.app.cls ty) w m lay.off (env.mirrorStamp (w.now env))).ret := by
      rw [sealPayload_eq hseal]
      simp only [sealAgain, openFrame, plaintextOf, aadLength, ciphertextOff, ← hmode]
      rfl
    have hbytes := sealPayload_length hseal (hagain.trans hret)
    rwa [World.tick_thread] at hbytes

/-! ## The payload a handler compares -/

/-- Without security it is the frame's own, behind the metadata. -/
theorem plain_payload (env : Env C D) (ty : FrameType) (hm : env.app.mode ty = .none)
    {w : World C D} {p : Mem UInt8} {m : Mbuf} {lay : Layout} {r : Received C D}
    (h : (rxHandler env ty).decode w p m lay = .ok r) :
    r.payload = slice m.data (metaAt env.app ty lay.off + 16)
      (env.app.cls ty).payloadPattern.length := by
  rw [decode_plain env ty hm] at h
  cases h
  simp only [plainDecode, sizeofReferenceMetaData]
  cases decodeStamp env ty w with
  | none => rfl
  | some t =>
    apply slice_congr
    intro i hi
    exact write_above _ _ _ _ (by rw [be64_length]; omega)

/-- With authentication only it is the frame's own too; the new checksum lies behind it. -/
theorem ao_payload (env : Env C D) {ty : FrameType} (hm : env.app.mode ty = .ao) {w : World C D}
    {p : Mem UInt8} {m : Mbuf} {lay : Layout} {r : Received C D}
    (hroom : lay.off + 26 + (env.app.cls ty).payloadPattern.length ≤ checksumOff m)
    (h : (rxHandler env ty).decode w p m lay = .ok r) :
    r.payload = slice m.data (lay.off + 26) (env.app.cls ty).payloadPattern.length := by
  have hne : env.app.mode ty ≠ .none := by simp [hm]
  obtain ⟨hsec, hmode⟩ := hasSecurity_of_mode hne
  obtain ⟨ao, ae, hd⟩ := decode_secured env hsec
  rw [hm] at hmode
  simp only [hd, profinetDecode, ← hmode, Except.ok.injEq] at h
  subst h
  simp only [aoDecode, sealFrame_none_data, sizeofProfinetSecureHeader]
  apply slice_congr
  intro i hi
  rw [write_below _ _ _ _ (by omega)]
  exact write_above _ _ _ _ (by rw [be64_length]; omega)

/-- With encryption it is what decryption left in the stack buffer. -/
theorem ae_payload (env : Env C D) {ty : FrameType} (hm : env.app.mode ty = .ae) {w : World C D}
    {p : Mem UInt8} {m : Mbuf} {lay : Layout} {r : Received C D}
    (h : (rxHandler env ty).decode w p m lay = .ok r) :
    r.payload = slice (write p 0 (aeOpen env.evp (env.app.cls ty) w.thread.rxSecurityContext m
      lay.off).plaintext) 0 (env.app.cls ty).payloadPattern.length := by
  have hne : env.app.mode ty ≠ .none := by simp [hm]
  obtain ⟨hsec, hmode⟩ := hasSecurity_of_mode hne
  obtain ⟨ao, ae, hd⟩ := decode_secured env hsec
  rw [hm] at hmode
  simp only [hd, profinetDecode, ← hmode, aeDecode] at h
  split at h
  · cases h
  · cases h
    rfl

/-- Only a payload buffer that was never allocated keeps a frame from being decoded. -/
theorem decode_total (env : Env C D) (ty : FrameType) (w : World C D) (p : Mem UInt8) (m : Mbuf)
    (lay : Layout)
    (hbuf : env.app.mode ty = .ae →
      w.thread.payloadPattern ≠ none ∨ w.thread.payloadPatternLength = 0) :
    ∃ r, (rxHandler env ty).decode w p m lay = .ok r := by
  by_cases hnone : env.app.mode ty = .none
  · exact ⟨_, decode_plain env ty hnone w p m lay⟩
  · obtain ⟨hsec, hmode⟩ := hasSecurity_of_mode hnone
    obtain ⟨ao, ae, hd⟩ := decode_secured env hsec
    rw [hmode] at hbuf hnone
    rw [hd, profinetDecode]
    cases hm : (env.app.cls ty).securityMode with
    | none => exact absurd hm hnone
    | ao => exact ⟨_, rfl⟩
    | ae =>
      simp only [aeDecode, sealPayload, World.tick_thread]
      cases hb : w.thread.payloadPattern with
      | some buf => exact ⟨_, rfl⟩
      | none =>
        have hz : w.thread.payloadPatternLength = 0 := by
          rcases hbuf hm with hne | hz
          · exact absurd hb hne
          · exact hz
        simp only [hz, ne_eq, not_true_eq_false, false_and, if_false]
        exact ⟨_, rfl⟩

/-! ## The bytes of the sealed frame -/

/-- What sealing in place leaves of the frame, and the checksum it writes. -/
theorem sealFrame_spec {evp : Evp C} {key : C → K} (hl : evp.Lawful key) (ctx : C)
    (data : Mem UInt8) (pt : Option (List UInt8)) (iv : List UInt8) (aadOff aadLen ctOff tagOff : Nat)
    (hct : pt = none ∨ aadOff + aadLen ≤ ctOff) (htag : aadOff + aadLen ≤ tagOff) :
    let r := sealFrame evp ctx data pt iv aadOff aadLen ctOff tagOff
    (∀ i, i < aadOff + aadLen → r.data i = data i) ∧
      slice r.data tagOff sizeofSecurityChecksum =
        (securityEncrypt evp ctx pt (slice data aadOff aadLen) iv).tag := by
  intro r
  have hlen := hl.tag_length ctx pt (slice data aadOff aadLen) iv
  refine ⟨fun i hi => ?_, ?_⟩
  · change write (write data ctOff _) tagOff _ i = data i
    rw [write_below _ _ _ _ (by omega)]
    rcases hct with rfl | hct
    · rw [securityEncrypt_none_ciphertext, write_nil]
    · rw [write_below _ _ _ _ (by omega)]
  · rw [← hlen]
    exact slice_write_same _ _ _

/-- Opening a frame keeps the key of the context. -/
theorem openFrame_key {evp : Evp C} {key : C → K} (hl : evp.Lawful key) (c : ClassConfig) (ctx : C)
    (m : Mbuf) (off : Nat) : key (openFrame evp c ctx m off).ctx = key ctx := by
  unfold openFrame
  split <;> exact hl.decrypt_key _ _ _ _ _

/-- Time stamp, payload and checksum of a frame lie behind the bytes its IV is
rebuilt from. -/
theorem rxIv_congr (c : ClassConfig) {m m' : Mbuf} {off : Nat}
    (h : ∀ i, i < off + 18 → m'.data i = m.data i) : rxIv c m' off = rxIv c m off := by
  have hc : rxCounter c m' off = rxCounter c m off :=
    sequenceCounter_congr _ fun i hi => h _ (by omega)
  rw [rxIv, rxIv, hc]

theorem stamp_below (data : Mem UInt8) (off i : Nat) (t : UInt64) (h : i < off + 18) :
    txTimestampToMetaData data (off + 10) t i = data i := by
  unfold txTimestampToMetaData
  exact write_below _ _ _ _ (by omega)

/-- The associated data of a frame with room for its headers ends where
ciphertext or checksum begin. -/
theorem aadLength_room (c : ClassConfig) {m : Mbuf} {off : Nat} (hroom : off + 42 ≤ m.len.toNat) :
    26 ≤ aadLength c m off ∧ off + aadLength c m off ≤ checksumOff m := by
  have hsize : (aadSize m.len off).toNat = m.len.toNat - off - 16 := aadSize_toNat (by omega)
  simp only [aadLength, checksumOff, sizeofProfinetSecureHeader, sizeofSecurityChecksum]
  split <;> omega

/-- The second sealing leaves header and associated data, with the new time
stamp, as they are, and writes a checksum over them. -/
theorem sealAgain_spec_of {env : Env C D} {key : C → K} (hl : env.evp.Lawful key) (c : ClassConfig)
    (w : World C D) (m : Mbuf) (off : Nat) (t : UInt64)
    (hfit : off + aadLength c m off ≤ checksumOff m) :
    let again := sealAgain env c w m off t
    let data := txTimestampToMetaData m.data (off + 10) t
    (∀ i, i < off + aadLength c m off → again.data i = data i) ∧
      slice again.data (checksumOff m) sizeofSecurityChecksum =
        (securityEncrypt env.evp (openFrame env.evp c w.thread.rxSecurityContext m off).ctx
          (plaintextOf c w.thread) (slice data off (aadLength c m off)) (rxIv c m off)).tag ∧
      again.call = ⟨(rxIv c m off).take securityIvLen, slice data off (aadLength c m off),
        plaintextOf c w.thread⟩ := by
  have hct : plaintextOf c w.thread = none ∨ off + aadLength c m off ≤ ciphertextOff c off := by
    unfold plaintextOf aadLength ciphertextOff
    cases c.securityMode with
    | none => exact Or.inl rfl
    | ao => exact Or.inl rfl
    | ae => exact Or.inr (Nat.le_refl _)
  have h := sealFrame_spec hl (openFrame env.evp c w.thread.rxSecurityContext m off).ctx
    (txTimestampToMetaData m.data (off + 10) t) (plaintextOf c w.thread) (rxIv c m off) off
    (aadLength c m off) (ciphertextOff c off) (checksumOff m) hct hfit
  exact ⟨h.1, h.2, rfl⟩

theorem sealAgain_spec {env : Env C D} {key : C → K} (hl : env.evp.Lawful key) (c : ClassConfig)
    (w : World C D) (m : Mbuf) (off : Nat) (t : UInt64) (hroom : off + 42 ≤ m.len.toNat) :
    let again := sealAgain env c w m off t
    let data := txTimestampToMetaData m.data (off + 10) t
    (∀ i, i < off + aadLength c m off → again.data i = data i) ∧
      slice again.data (checksumOff m) sizeofSecurityChecksum =
        (securityEncrypt env.evp (openFrame env.evp c w.thread.rxSecurityContext m off).ctx
          (plaintextOf c w.thread) (slice data off (aadLength c m off)) (rxIv c m off)).tag ∧
      again.call = ⟨(rxIv c m off).take securityIvLen, slice data off (aadLength c m off),
        plaintextOf c w.thread⟩ :=
  sealAgain_spec_of hl c w m off t (aadLength_room c hroom).2

/-- A receiver of the frame sealed again rebuilds the same IV and
authenticates the new associated data. -/
theorem sealAgain_reads_of {env : Env C D} {key : C → K} (hl : env.evp.Lawful key) (c : ClassConfig)
    (w : World C D) (m : Mbuf) (off : Nat) (t : UInt64)
    (hfit : off + aadLength c m off ≤ checksumOff m) (hiv : 18 ≤ aadLength c m off) :
    let again := sealAgain env c w m off t
    rxIv c { m with data := again.data } off = rxIv c m off ∧
      slice again.data off (aadLength c m off) =
        slice (txTimestampToMetaData m.data (off + 10) t) off (aadLength c m off) := by
  intro again
  obtain ⟨hsame, -, -⟩ := sealAgain_spec_of hl c w m off t hfit
  constructor
  · apply rxIv_congr
    intro i hi
    exact (hsame i (by omega)).trans (stamp_below _ _ _ _ hi)
  · exact slice_congr fun i hi => hsame _ (by omega)

theorem sealAgain_reads {env : Env C D} {key : C → K} (hl : env.evp.Lawful key) (c : ClassConfig)
    (w : World C D) (m : Mbuf) (off : Nat) (t : UInt64) (hroom : off + 42 ≤ m.len.toNat) :
    let again := sealAgain env c w m off t
    rxIv c { m with data := again.data } off = rxIv c m off ∧
      slice again.data off (aadLength c m off) =
        slice (txTimestampToMetaData m.data (off + 10) t) off (aadLength c m off) := by
  obtain ⟨haad, hfit⟩ := aadLength_room c hroom
  exact sealAgain_reads_of hl c w m off t hfit (by omega)

end Rtdk.Reseal
