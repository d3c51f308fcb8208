import Rtdk.SecureTx

/-! The same frame with and without its VLAN tag.

A network card may remove the four bytes of the tag. `strip_invariant_iff` says
for which configurations a handler sees the same in both forms of every valid
frame: encryption is the exception, since the size of the ciphertext is computed
with the tagged header in both forms, and an L2 EtherType of `0x8100`, which
makes the stripped frame look tagged. -/

namespace Rtdk.VlanStrip
open Rtdk.Memory Rtdk.Endian Rtdk.NetDef Rtdk.Security Rtdk.Stat Rtdk.Lport Rtdk.Config Rtdk.Frame
open Rtdk.Thread Rtdk.Receive Rtdk.Handlers Rtdk.Checks Rtdk.Builder Rtdk.Decode Rtdk.Sealing
open Rtdk.Reseal Rtdk.SecureTx

variable {C D K : Type}

/-- The frame without the four bytes behind its addresses. -/
def stripTag (m : Mbuf) : Mbuf :=
  { m with
    data := fun i => if i < 12 then m.data i else m.data (i + 4)
    dataLen := m.dataLen - 4
    pktLen := m.pktLen - 4 }

/-- What a handler makes of a frame that passed its checks. -/
structure Seen where
  frameId : UInt16
  sequenceCounter : UInt64
  txTimestamp : UInt64
  authRet : Int
  verdict : Verdict
  deriving DecidableEq

def seen (h : RxHandler C D) : Except Stop (Received C D) → Except Halt Seen
  | .ok r => .ok ⟨r.frameId, r.sequenceCounter, r.txTimestamp, r.authRet, h.verdict r⟩
  | .error e => .error e.reason

def nextRx : Except Stop (World C D × List Mbuf) → Except Halt UInt64
  | .ok (w, _) => .ok w.thread.rxSequenceCounter
  | .error e => .error e.reason

/-- The tagged frame passes the checks. -/
def Valid (env : Env C D) (ty : FrameType) (m : Mbuf) : Prop :=
  (rxHandler env ty).check (env.app.cls ty).frameLength m =
    ((env.app.cls ty).frameLength, .ok ⟨18, false⟩)

/-- Both forms of the frame pass the checks and are judged alike. -/
def SameVerdict (env : Env C D) (ty : FrameType) (stack : Mem UInt8) (w : World C D) (m : Mbuf) :
    Prop :=
  let h := rxHandler env ty
  (∃ expected, h.check (env.app.cls ty).frameLength (stripTag m) = (expected, .ok ⟨14, true⟩)) ∧
    seen h (h.decode w stack (stripTag m) ⟨14, true⟩) = seen h (h.decode w stack m ⟨18, false⟩) ∧
    nextRx (rxFrame env ty stack w [stripTag m]) = nextRx (rxFrame env ty stack w [m])

/-! ## The checks -/

theorem stripTag_data (m : Mbuf) (i : Nat) (h : 12 ≤ i) : (stripTag m).data i = m.data (i + 4) := by
  simp only [stripTag]
  rw [if_neg (by omega)]

theorem stripTag_read16 (m : Mbuf) (a : Nat) (h : 12 ≤ a) :
    read16 (stripTag m).data a = read16 m.data (a + 4) := by
  apply read16_congr
  intro i _
  rw [stripTag_data m _ (by omega), Nat.add_right_comm]

theorem stripTag_len {m : Mbuf} (h : 4 ≤ m.len.toNat) :
    (stripTag m).len = m.len - 4 ∧ (stripTag m).len.toNat = m.len.toNat - 4 := by
  have h32 : (4 : UInt32) ≤ m.pktLen := by
    rw [UInt32.le_iff_toNat_le, ← Mbuf.len_toNat]
    exact h
  have h64 : (4 : UInt64) ≤ m.len := UInt64.le_iff_toNat_le.mpr h
  have hnat : (stripTag m).len.toNat = m.len.toNat - 4 := by
    rw [Mbuf.len_toNat, Mbuf.len_toNat]
    exact UInt32.toNat_sub_of_le _ _ h32
  refine ⟨?_, hnat⟩
  rw [← UInt64.toNat_inj, hnat, UInt64.toNat_sub_of_le _ _ h64]
  rfl

/-- What passing the checks in tagged form means. -/
theorem valid_iff (env : Env C D) {ty : FrameType} (hv : isVlan ty = true) (m : Mbuf) :
    Valid env ty m ↔
      m.tagged = true ∧ typeOk env ty m = true ∧ m.len = (env.app.cls ty).frameLength := by
  constructor
  · intro h
    obtain ⟨htype, hlen, hlay⟩ := check_vlan_ok hv h
    have htag : m.tagged = true := tagged_of_layout hlay
    refine ⟨htag, htype, ?_⟩
    rw [hlen, lowers_tagged ty htag, UInt64.sub_zero]
  · rintro ⟨htag, htype, hlen⟩
    obtain ⟨refuse, wrong, -, hc⟩ := check_vlan env ty hv
    rw [Valid, hc, checked, lowers_tagged ty htag, UInt64.sub_zero, htype, if_pos rfl, if_pos hlen]
    simp [layoutOf, htag, ethHeaderSize, sizeofVlanEthernetHeader]

/-- The stripped frame shows the inner EtherType where the tag was. -/
theorem stripTag_tagged (m : Mbuf) (ht : m.tagged = true) :
    (stripTag m).tagged = decide (m.proto = ethP8021Q) := by
  have hp : m.proto = read16 m.data 16 := by simp [Mbuf.proto, ht]
  rw [hp]
  simp only [Mbuf.tagged, stripTag_read16 m 12 (by omega)]

theorem check_strip (env : Env C D) {ty : FrameType} (hv : isVlan ty = true)
    (hL : 22 ≤ (env.app.cls ty).frameLength.toNat) {m : Mbuf} (hm : Valid env ty m)
    (hp : m.proto ≠ ethP8021Q) :
    (rxHandler env ty).check (env.app.cls ty).frameLength (stripTag m) =
      ((env.app.cls ty).frameLength - 4, .ok ⟨14, true⟩) := by
  obtain ⟨htag, htype, hlen⟩ := (valid_iff env hv m).mp hm
  obtain ⟨refuse, wrong, -, hc⟩ := check_vlan env ty hv
  obtain ⟨hl, hnat⟩ := stripTag_len (m := m) (by rw [hlen]; omega)
  have hunt : (stripTag m).tagged = false := by
    rw [stripTag_tagged m htag]
    simp [hp]
  have hproto : (stripTag m).proto = m.proto := by
    simp only [Mbuf.proto, hunt, htag, Bool.false_eq_true, if_false, if_true,
      stripTag_read16 m 12 (by omega)]
  have hlong : longEnough ty (stripTag m) = true := by
    have h18 : ¬ (stripTag m).len < 18 := by
      rw [UInt64.lt_iff_toNat_lt, hnat, hlen]
      change ¬ _ < 18
      omega
    simp [longEnough, h18]
  have htype' : typeOk env ty (stripTag m) = true := by
    simp only [typeOk, Bool.and_eq_true] at htype ⊢
    rw [hproto]
    exact ⟨hlong, htype.2⟩
  rw [hc, lowers_untagged htype' hunt, checked, htype', if_pos rfl, if_pos (by rw [hl, hlen])]
  simp [layoutOf, hunt, ethHeaderSize, sizeofEthhdr]

/-- An L2 frame whose own EtherType is that of a tag looks tagged once it is stripped. -/
theorem check_strip_refused (env : Env C D) {ty : FrameType} (hv : isVlan ty = true)
    (hL : 22 ≤ (env.app.cls ty).frameLength.toNat) {m : Mbuf} (hm : Valid env ty m)
    (hp : m.proto = ethP8021Q) (expected : UInt64) (lay : Layout) :
    (rxHandler env ty).check (env.app.cls ty).frameLength (stripTag m) ≠ (expected, .ok lay) := by
  obtain ⟨htag, -, hlen⟩ := (valid_iff env hv m).mp hm
  obtain ⟨-, hnat⟩ := stripTag_len (m := m) (by rw [hlen]; omega)
  have htagged : (stripTag m).tagged = true := by
    rw [stripTag_tagged m htag]
    simp [hp]
  intro h
  have hsame := check_vlan_len hv (by omega) h
  rw [htagged, if_pos rfl, hnat, hlen] at hsame
  omega

/-! ## Decoding without encryption -/

/-- Two decoded frames that differ in their mbuf only. -/
def SameDecoded (r r' : Received C D) : Prop := r' = { r with mbuf := r'.mbuf }

theorem stripTag_counter (m : Mbuf) (off : Nat) (n : UInt64) (h : 12 ≤ off) :
    metaDataToSequenceCounter (stripTag m).data off n =
      metaDataToSequenceCounter m.data (off + 4) n := by
  apply sequenceCounter_congr
  intro i _
  rw [stripTag_data m _ (by omega), Nat.add_right_comm]

theorem stripTag_timestamp (m : Mbuf) (off : Nat) (h : 12 ≤ off) :
    metaDataToTxTimestamp (stripTag m).data off = metaDataToTxTimestamp m.data (off + 4) := by
  apply read64_congr
  intro i _
  rw [stripTag_data m _ (by omega)]
  congr 1
  omega

theorem stripTag_slice (m : Mbuf) (off n : Nat) (h : 12 ≤ off) :
    slice (stripTag m).data off n = slice m.data (off + 4) n := by
  apply slice_congr
  intro i _
  rw [stripTag_data m _ (by omega), Nat.add_right_comm]

theorem metaAt_strip (cfg : AppConfig) {ty : FrameType} (hv : isVlan ty = true) :
    metaAt cfg ty 14 + 4 = metaAt cfg ty 18 ∧ 14 ≤ metaAt cfg ty 14 := by
  cases ty with
  | tsnHigh | tsnLow | rtc | rta =>
    simp only [metaAt]
    split <;> omega
  | dcp | l2 => exact ⟨rfl, by simp only [metaAt]; omega⟩
  | lldp | udpHigh | udpLow => cases hv

theorem plain_strip (env : Env C D) {ty : FrameType} (hv : isVlan ty = true)
    (hm : env.app.mode ty = .none) (w : World C D) (p : Mem UInt8) (m : Mbuf) :
    ∃ r r', (rxHandler env ty).decode w p m ⟨18, false⟩ = .ok r ∧
      (rxHandler env ty).decode w p (stripTag m) ⟨14, true⟩ = .ok r' ∧ SameDecoded r r' := by
  obtain ⟨hmeta, hge⟩ := metaAt_strip env.app hv
  have hdec := decode_plain env ty hm w p m ⟨18, false⟩
  have hdec' := decode_plain env ty hm w p (stripTag m) ⟨14, true⟩
  refine ⟨_, _, hdec, hdec', ?_⟩
  have hpay := plain_payload env ty hm hdec
  have hpay' := plain_payload env ty hm hdec'
  rw [stripTag_slice m _ _ (by simp only; omega), Nat.add_right_comm, hmeta] at hpay'
  have hfid : decodeFrameId ty (stripTag m) 14 = decodeFrameId ty m 18 := by
    simp only [decodeFrameId, stripTag_read16 m 14 (by omega)]
  have hseq := stripTag_counter m (metaAt env.app ty 14) (env.app.cls ty).numFramesPerCycle
    (by omega)
  have hts := stripTag_timestamp m (metaAt env.app ty 14) (by omega)
  rw [hmeta] at hseq hts
  rw [SameDecoded, Received.mk.injEq]
  exact ⟨rfl, rfl, rfl, hfid, hseq, hts, rfl, hpay'.trans hpay.symm⟩

theorem rxCounter_strip (c : ClassConfig) (m : Mbuf) :
    rxCounter c (stripTag m) 14 = rxCounter c m 18 :=
  stripTag_counter m 24 c.numFramesPerCycle (by omega)

theorem checksum_strip {m : Mbuf} (h : 60 ≤ m.len.toNat) :
    slice (stripTag m).data (checksumOff (stripTag m)) sizeofSecurityChecksum =
      slice m.data (checksumOff m) sizeofSecurityChecksum := by
  obtain ⟨-, hlen⟩ := stripTag_len (m := m) (by omega)
  rw [stripTag_slice m _ _ (by simp only [checksumOff, sizeofSecurityChecksum]; omega)]
  congr 1
  simp only [checksumOff, hlen, sizeofSecurityChecksum]
  omega

theorem aadSize_strip {m : Mbuf} (h : 60 ≤ m.len.toNat) :
    (aadSize (stripTag m).len 14).toNat = (aadSize m.len 18).toNat := by
  obtain ⟨-, hlen⟩ := stripTag_len (m := m) (by omega)
  rw [aadSize_toNat (by omega), aadSize_toNat (by omega), hlen]
  omega

/-- Authentication covers the same bytes in both forms. -/
theorem aoOpen_strip (evp : Evp C) (c : ClassConfig) (ctx : C) {m : Mbuf} (h : 60 ≤ m.len.toNat) :
    aoOpen evp c ctx (stripTag m) 14 = aoOpen evp c ctx m 18 := by
  obtain ⟨-, hlen⟩ := stripTag_len (m := m) (by omega)
  rw [aoOpen, aoOpen, checksum_strip h, aadSize_strip h, stripTag_slice m 14 _ (by omega), rxIv, rxIv,
    rxCounter_strip]

theorem stampedAad_strip {m : Mbuf} (h : 60 ≤ m.len.toNat) (t : UInt64) :
    slice (txTimestampToMetaData (stripTag m).data 24 t) 14
        (aadSize (stripTag m).len 14).toNat =
      slice (txTimestampToMetaData m.data 28 t) 18 (aadSize m.len 18).toNat := by
  rw [aadSize_strip h]
  apply slice_congr
  intro i _
  rw [Nat.add_right_comm 14 4 i]
  exact write_shift 32 (be64 t) (stripTag_data m _ (by omega))

theorem ao_strip (env : Env C D) {ty : FrameType} (hm : env.app.mode ty = .ao) (w : World C D)
    (p : Mem UInt8) {m : Mbuf}
    (hroom : 60 + (env.app.cls ty).payloadPattern.length ≤ m.len.toNat) :
    ∃ r r', (rxHandler env ty).decode w p m ⟨18, false⟩ = .ok r ∧
      (rxHandler env ty).decode w p (stripTag m) ⟨14, true⟩ = .ok r' ∧ SameDecoded r r' := by
  have hne : env.app.mode ty ≠ .none := by simp [hm]
  obtain ⟨hsec, hmode⟩ := hasSecurity_of_mode hne
  obtain ⟨ao, ae, hd⟩ := decode_secured env hsec
  rw [hm] at hmode
  have hopen := aoOpen_strip env.evp (env.app.cls ty) w.thread.rxSecurityContext (m := m) (by omega)
  have hctr := rxCounter_strip (env.app.cls ty) m
  have haad := stampedAad_strip (m := m) (by omega) (env.mirrorStamp (w.now env))
  have hdec : (rxHandler env ty).decode w p m ⟨18, false⟩ =
      .ok (aoDecode env (env.app.cls ty) ao w.tick p m 18 (env.mirrorStamp (w.now env))) := by
    simp only [hd, profinetDecode, ← hmode]
  have hdec' : (rxHandler env ty).decode w p (stripTag m) ⟨14, true⟩ =
      .ok (aoDecode env (env.app.cls ty) ao w.tick p (stripTag m) 14
        (env.mirrorStamp (w.now env))) := by
    simp only [hd, profinetDecode, ← hmode]
  obtain ⟨-, hlen⟩ := stripTag_len (m := m) (by omega)
  have hpay := ao_payload env hm (by
    simp only [checksumOff, sizeofSecurityChecksum]
    omega) hdec
  have hpay' := ao_payload env hm (by
    simp only [checksumOff, sizeofSecurityChecksum]
    omega) hdec'
  rw [stripTag_slice m _ _ (by simp only; omega)] at hpay'
  refine ⟨_, _, hdec, hdec', ?_⟩
  rw [SameDecoded, Received.mk.injEq]
  refine ⟨?_, rfl, rfl, stripTag_read16 m 14 (by omega), hctr,
    stripTag_timestamp m 24 (by omega), congrArg DecryptResult.ret hopen, hpay'.trans hpay.symm⟩
  simp only [aoDecode, World.tick_thread, hopen, sealFrame, haad, rxIv, hctr]

/-! ## The verdict -/

/-- The receive counter after a decoded frame does not depend on its mbuf. -/
theorem conclude_next (env : Env C D) (ty : FrameType) (w : World C D) {r r' : Received C D}
    (h : SameDecoded r r') (v : Verdict) (lay lay' : Layout) :
    nextRx (((rxHandler env ty).conclude env w r' v lay').map fun p => (p.1, p.2.toList)) =
      nextRx (((rxHandler env ty).conclude env w r v lay).map fun p => (p.1, p.2.toList)) := by
  obtain ⟨o, p, fid⟩ := v
  rw [h]
  unfold RxHandler.conclude
  cases fid with
  | true => rfl
  | false =>
    cases o with
    | true => rfl
    | false =>
      cases p with
      | true =>
        simp only [Bool.false_eq_true, if_false, if_true]
        cases (rxHandler env ty).payloadText r.sequenceCounter r.payload <;> rfl
      | false =>
        cases env.mirrorMode with
        | false => rfl
        | true =>
          have hfw (m : Mbuf) (l : Layout) :=
            (forward_world env ty (w.setRx (w.thread.rxSequenceCounter + 1)) m l).1
          simp [Except.map, nextRx, hfw]

theorem accept_next (env : Env C D) (ty : FrameType) (w : World C D) (p : Mem UInt8) {m m' : Mbuf}
    {lay lay' : Layout} {r r' : Received C D} (h : SameDecoded r r')
    (hd : (rxHandler env ty).decode w p m lay = .ok r)
    (hd' : (rxHandler env ty).decode w p m' lay' = .ok r') :
    nextRx (((rxHandler env ty).accept env w p m' lay').map fun out =>
        (out.world, out.dropped.toList)) =
      nextRx (((rxHandler env ty).accept env w p m lay).map fun out =>
        (out.world, out.dropped.toList)) := by
  have hv : (rxHandler env ty).verdict r' = (rxHandler env ty).verdict r := by
    rw [h]
    rfl
  have hacc : (rxHandler env ty).account env r' ((rxHandler env ty).verdict r) =
      (rxHandler env ty).account env r ((rxHandler env ty).verdict r) := by
    rw [h]
    rfl
  simp only [RxHandler.accept, hd, hd', bind, Except.bind, hv, hacc]
  cases (rxHandler env ty).account env r ((rxHandler env ty).verdict r) with
  | error e => rfl
  | ok w1 =>
    have hcon := conclude_next env ty w1 h ((rxHandler env ty).verdict r) lay lay'
    simp only
    cases hc : (rxHandler env ty).conclude env w1 r ((rxHandler env ty).verdict r) lay <;>
      cases hc' : (rxHandler env ty).conclude env w1 r' ((rxHandler env ty).verdict r) lay' <;>
      rw [hc, hc'] at hcon <;> exact hcon

/-- Frames that decode alike are judged alike. -/
theorem sameVerdict_of_decoded (env : Env C D) {ty : FrameType} {stack : Mem UInt8} {w : World C D}
    {m : Mbuf} {expected : UInt64} (hm : Valid env ty m)
    (hs : (rxHandler env ty).check (env.app.cls ty).frameLength (stripTag m) =
      (expected, .ok ⟨14, true⟩))
    (h : ∃ r r', (rxHandler env ty).decode w stack m ⟨18, false⟩ = .ok r ∧
      (rxHandler env ty).decode w stack (stripTag m) ⟨14, true⟩ = .ok r' ∧ SameDecoded r r') :
    SameVerdict env ty stack w m := by
  obtain ⟨r, r', hd, hd', hsame⟩ := h
  refine ⟨⟨expected, hs⟩, ?_, ?_⟩
  · rw [hd, hd', hsame]
    rfl
  · rw [rxFrame_single env ty stack w hs, rxFrame_single env ty stack w hm]
    exact accept_next env ty w stack hsame hd hd'

/-! ## Encryption -/

/-- Under one tag the small cipher opens texts of one length only, modulo 256. -/
theorem digest_length {c : DigestCtx} {ct ct' aad tag iv : List UInt8}
    (h : (securityDecrypt digestEvp c (some ct) aad tag iv).ret = 0)
    (h' : (securityDecrypt digestEvp c (some ct') aad tag iv).ret = 0) :
    ct.length % 256 = ct'.length % 256 := by
  have hopens (ct : List UInt8) (h : (securityDecrypt digestEvp c (some ct) aad tag iv).ret = 0) :
      tag = digestTag ⟨iv.take securityIvLen, aad, ct, tag⟩ := by
    by_contra hne
    simp [securityDecrypt, decryptTail, digestEvp, eperm] at h
    exact hne h
  have heq := (hopens ct h).symm.trans (hopens ct' h')
  simp only [digestTag, List.append_cancel_left_eq, List.cons.injEq] at heq
  have hlen := congrArg UInt8.toNat heq.2.2.2.1
  simpa using hlen

theorem payloadSize_strip (len : UInt64) :
    (payloadSize (len - 4)).toNat % 256 ≠ (payloadSize len).toNat % 256 := by
  have h : payloadSize (len - 4) = payloadSize len - 4 := by
    simp only [payloadSize, UInt64.sub_eq_add_neg]
    ac_rfl
  have hlt := (payloadSize len).toNat_lt
  rw [h, UInt64.toNat_sub]
  change (2 ^ 64 - 4 + _) % 2 ^ 64 % 256 ≠ _
  omega

/-- The frame with its payload encrypted and its checksum written. -/
def encryptFrame (evp : Evp C) (c : ClassConfig) (ctx : C) (m : Mbuf) (pt : List UInt8) : Mbuf :=
  { m with
    data := (sealFrame evp ctx m.data (some pt) (rxIv c m 18) 18 sizeofProfinetSecureHeader 44
      (checksumOff m)).data }

theorem encryptFrame_opens {evp : Evp C} {key : C → K} (hl : evp.Lawful key) (c : ClassConfig)
    (ctx : C) {m : Mbuf} (hL : 60 ≤ m.len.toNat) {pt : List UInt8}
    (hpt : pt.length = (payloadSize m.len).toNat) :
    (∀ i, i < 44 → (encryptFrame evp c ctx m pt).data i = m.data i) ∧
      (aeOpen evp c ctx (encryptFrame evp c ctx m pt) 18).ret = 0 := by
  have hsize := payloadSize_toNat hL
  have hoff : checksumOff m = m.len.toNat - 16 := rfl
  obtain ⟨hbelow, htag⟩ := sealFrame_spec hl ctx m.data (some pt) (rxIv c m 18) 18
    sizeofProfinetSecureHeader 44 (checksumOff m) (Or.inr (Nat.le_refl _))
    (by simp only [hoff, sizeofProfinetSecureHeader]; omega)
  have hiv : rxIv c (encryptFrame evp c ctx m pt) 18 = rxIv c m 18 :=
    rxIv_congr c fun i hi => hbelow i (by simp only [sizeofProfinetSecureHeader]; omega)
  have haad : slice (encryptFrame evp c ctx m pt).data 18 sizeofProfinetSecureHeader =
      slice m.data 18 sizeofProfinetSecureHeader :=
    slice_congr fun i hi => hbelow _ (by omega)
  have hclen := hl.ciphertext_length ctx pt (slice m.data 18 sizeofProfinetSecureHeader)
    (rxIv c m 18)
  have hct : slice (encryptFrame evp c ctx m pt).data 44 (payloadSize m.len).toNat =
      (securityEncrypt evp ctx (some pt) (slice m.data 18 sizeofProfinetSecureHeader)
        (rxIv c m 18)).ciphertext := by
    change slice (write (write m.data 44 _) _ _) 44 _ = _
    rw [slice_write_disjoint _ _ _ _ _ (by rw [hoff, hsize]; omega), ← hpt, ← hclen]
    exact slice_write_same _ _ _
  refine ⟨fun i hi => hbelow i hi, ?_⟩
  have hopen := hl.open_seal ctx ctx pt (slice m.data 18 sizeofProfinetSecureHeader) (rxIv c m 18) rfl
  simp only [← hct, ← htag] at hopen
  simp only [aeOpen, haad, hiv]
  exact hopen.1

/-- A header with a tag and the inner EtherType `proto`, then zeros. -/
def taggedData (proto : UInt16) : Mem UInt8 :=
  write (write (fun _ => 0) 12 (be16 ethP8021Q)) 16 (be16 proto)

/-- A frame of the class with that header. -/
def taggedFrame (c : ClassConfig) (proto : UInt16) : Mbuf :=
  ⟨0, taggedData proto, c.frameLength.toUInt16, c.frameLength.toUInt32⟩

theorem taggedData_read (proto : UInt16) :
    read16 (taggedData proto) 12 = ethP8021Q ∧ read16 (taggedData proto) 16 = proto := by
  unfold taggedData
  rw [read16_write_disjoint _ 16 _ 12 (by simp), read16_write_same, read16_write_same]
  exact ⟨rfl, rfl⟩

theorem taggedFrame_len {c : ClassConfig} (h : c.frameLength.toNat ≤ maxFrameSize) (proto : UInt16) :
    (taggedFrame c proto).len = c.frameLength := by
  rw [← UInt64.toNat_inj, Mbuf.len_toNat]
  simp only [taggedFrame, UInt64.toNat_toUInt32]
  exact Nat.mod_eq_of_lt (Nat.lt_of_le_of_lt h (by decide))

/-- A tagged PROFINET frame of the class, sealed by the small cipher. -/
def sealedFrame (c : ClassConfig) : Mbuf :=
  encryptFrame digestEvp c DigestCtx.fresh (taggedFrame c ethPProfinetRt)
    (List.replicate (payloadSize (taggedFrame c ethPProfinetRt).len).toNat 0)

theorem sealedFrame_opens {c : ClassConfig} (hL : 60 ≤ c.frameLength.toNat)
    (hmax : c.frameLength.toNat ≤ maxFrameSize) :
    (sealedFrame c).tagged = true ∧ (sealedFrame c).proto = ethPProfinetRt ∧
      (aeOpen digestEvp c DigestCtx.fresh (sealedFrame c) 18).ret = 0 := by
  have hlen := taggedFrame_len hmax ethPProfinetRt
  obtain ⟨hbelow, hopen⟩ := encryptFrame_opens digestEvp_lawful c DigestCtx.fresh
    (m := taggedFrame c ethPProfinetRt) (by rw [hlen]; exact hL)
    (List.length_replicate (a := 0))
  obtain ⟨h12, h16⟩ := taggedData_read ethPProfinetRt
  have htag : read16 (sealedFrame c).data 12 = ethP8021Q :=
    (read16_congr fun i hi => hbelow _ (by omega)).trans h12
  have hproto : read16 (sealedFrame c).data 16 = ethPProfinetRt :=
    (read16_congr fun i hi => hbelow _ (by omega)).trans h16
  have htagged : (sealedFrame c).tagged = true := by simp [Mbuf.tagged, htag]
  exact ⟨htagged, by simp [Mbuf.proto, htagged, hproto], hopen⟩

/-- The stripped form of that frame does not authenticate: the text to be
decrypted is four bytes too short. -/
theorem sealedFrame_strip_fails {c : ClassConfig} (hL : 60 ≤ c.frameLength.toNat)
    (hmax : c.frameLength.toNat ≤ maxFrameSize) :
    (aeOpen digestEvp c DigestCtx.fresh (stripTag (sealedFrame c)) 14).ret ≠ 0 := by
  intro h
  have hopen := (sealedFrame_opens hL hmax).2.2
  have hlen : (sealedFrame c).len = c.frameLength := taggedFrame_len hmax ethPProfinetRt
  obtain ⟨hstrip, -⟩ := stripTag_len (m := sealedFrame c) (by rw [hlen]; omega)
  have haad : slice (stripTag (sealedFrame c)).data 14 sizeofProfinetSecureHeader =
      slice (sealedFrame c).data 18 sizeofProfinetSecureHeader := stripTag_slice _ _ _ (by omega)
  have hiv : rxIv c (stripTag (sealedFrame c)) 14 = rxIv c (sealedFrame c) 18 := by
    rw [rxIv, rxIv, rxCounter_strip]
  simp only [aeOpen, haad, hiv, checksum_strip (m := sealedFrame c) (by rw [hlen]; exact hL)] at h hopen
  have hmod := digest_length h hopen
  rw [slice_length, slice_length, hstrip, hlen] at hmod
  exact payloadSize_strip _ hmod

/-! ## Which configurations are invariant -/

/-- A receiver of the class whose payload buffer is there. -/
def bufferedWorld (env : Env DigestCtx Unit) (ty : FrameType) : World DigestCtx Unit :=
  let w := World.fresh env ty DigestCtx.fresh ()
  { w with thread := { w.thread with payloadPattern := some fun _ => 0 } }

theorem ae_differs {cfg : AppConfig} {ty : FrameType} (hm : cfg.mode ty = .ae)
    (hL : 60 ≤ (cfg.cls ty).frameLength.toNat)
    (hmax : (cfg.cls ty).frameLength.toNat ≤ maxFrameSize) :
    Valid (Env.small cfg false) ty (sealedFrame (cfg.cls ty)) ∧
      ¬ SameVerdict (Env.small cfg false) ty (fun _ => 0) (bufferedWorld (Env.small cfg false) ty)
        (sealedFrame (cfg.cls ty)) := by
  have hne : (Env.small cfg false).app.mode ty ≠ .none := by
    change cfg.mode ty ≠ .none
    simp [hm]
  obtain ⟨hsec, hmode⟩ := hasSecurity_of_mode hne
  obtain ⟨htag, hproto, hopen⟩ := sealedFrame_opens hL hmax
  have hlen : (sealedFrame (cfg.cls ty)).len = (cfg.cls ty).frameLength :=
    taggedFrame_len hmax ethPProfinetRt
  have hlong : longEnough ty (sealedFrame (cfg.cls ty)) = true := by
    have h18 : ¬ (sealedFrame (cfg.cls ty)).len < 18 := by
      rw [hlen, UInt64.lt_iff_toNat_lt]
      exact Nat.not_lt.mpr (Nat.le_trans (by decide) hL)
    simp [longEnough, h18]
  refine ⟨(valid_iff (Env.small cfg false) (secure_class hsec).1 _).mpr ⟨htag, ?_, hlen⟩, ?_⟩
  · cases ty with
    | tsnHigh | tsnLow | rtc | rta => simp [typeOk, hlong, hproto]
    | dcp | lldp | udpHigh | udpLow | l2 => cases hsec
  · rintro ⟨-, hseen, -⟩
    obtain ⟨r, hr⟩ := decode_total (Env.small cfg false) ty
      (bufferedWorld (Env.small cfg false) ty) (fun _ => 0) (sealedFrame (cfg.cls ty)) ⟨18, false⟩
      fun _ => Or.inl (by simp [bufferedWorld])
    obtain ⟨r', hr'⟩ := decode_total (Env.small cfg false) ty
      (bufferedWorld (Env.small cfg false) ty) (fun _ => 0) (stripTag (sealedFrame (cfg.cls ty)))
      ⟨14, true⟩ fun _ => Or.inl (by simp [bufferedWorld])
    have hret := (decode_resealed hne hr).authRet
    have hret' := (decode_resealed hne hr').authRet
    have hae : ((Env.small cfg false).app.cls ty).securityMode = .ae := hmode ▸ hm
    simp only [openFrame, hae] at hret hret'
    rw [hr, hr'] at hseen
    have heq : r'.authRet = r.authRet := congrArg Seen.authRet (Except.ok.inj hseen)
    rw [hret, hret'] at heq
    exact sealedFrame_strip_fails hL hmax (heq.trans hopen)

theorem l2_differs {cfg : AppConfig} (hl2 : cfg.l2EtherType = 0x8100)
    (hL : 34 ≤ (cfg.cls .l2).frameLength.toNat)
    (hmax : (cfg.cls .l2).frameLength.toNat ≤ maxFrameSize) :
    Valid (Env.small cfg false) .l2 (taggedFrame (cfg.cls .l2) ethP8021Q) ∧
      ¬ SameVerdict (Env.small cfg false) .l2 (fun _ => 0) (bufferedWorld (Env.small cfg false) .l2)
        (taggedFrame (cfg.cls .l2) ethP8021Q) := by
  obtain ⟨h12, h16⟩ := taggedData_read ethP8021Q
  have hlen := taggedFrame_len hmax ethP8021Q
  have htag : (taggedFrame (cfg.cls .l2) ethP8021Q).tagged = true := by
    simp [Mbuf.tagged, taggedFrame, h12]
  have hproto : (taggedFrame (cfg.cls .l2) ethP8021Q).proto = ethP8021Q := by
    simp only [Mbuf.proto, htag, if_true]
    exact h16
  have h18 : ¬ (taggedFrame (cfg.cls .l2) ethP8021Q).len < 18 := by
    rw [hlen, UInt64.lt_iff_toNat_lt]
    exact Nat.not_lt.mpr (Nat.le_trans (by decide) hL)
  have hvalid : Valid (Env.small cfg false) .l2 (taggedFrame (cfg.cls .l2) ethP8021Q) := by
    refine (valid_iff (Env.small cfg false) rfl _).mpr ⟨htag, ?_, hlen⟩
    simp only [typeOk, longEnough, h18, hproto, Env.small, hl2]
    rfl
  refine ⟨hvalid, ?_⟩
  rintro ⟨⟨expected, hcheck⟩, -, -⟩
  refine check_strip_refused (Env.small cfg false) rfl ?_ hvalid hproto expected _ hcheck
  exact Nat.le_trans (by decide) hL

/-- **Stripped tags.**  A class judges every valid frame the same with and
without its tag, in every state, exactly if it does not encrypt and, for L2, its
EtherType is not that of a VLAN tag. -/
theorem strip_invariant_iff {withMqtt : Bool} {cfg : AppConfig}
    (hsane : configSanityCheck withMqtt cfg = .ok ()) {ty : FrameType} (hv : isVlan ty = true) :
    (∀ (C D K : Type) (env : Env C D) (key : C → K), env.app = cfg → env.evp.Lawful key →
        ∀ (stack : Mem UInt8) (w : World C D) (m : Mbuf), Valid env ty m →
          SameVerdict env ty stack w m) ↔
      cfg.mode ty ≠ .ae ∧ (ty = .l2 → cfg.l2EtherType ≠ 0x8100) := by
  have hmax := (frameLength_bounds hsane ty).2
  have hroom := frameLength_room hsane ty (by rintro rfl; cases hv) (by rintro rfl; cases hv)
  have hge := (metaDataOffset_ge ty (cfg.mode ty)).1 hv
  constructor
  · intro h
    refine ⟨fun hm => ?_, fun hty hl2 => ?_⟩
    · rw [secured_offset (by simp [hm]), if_neg (by simp [hm])] at hroom
      obtain ⟨hvalid, hdiff⟩ := ae_differs hm (by omega) hmax
      exact hdiff (h _ _ _ (Env.small cfg false) _ rfl digestEvp_lawful _ _ _ hvalid)
    · subst hty
      obtain ⟨hvalid, hdiff⟩ := l2_differs hl2 (by omega) hmax
      exact hdiff (h _ _ _ (Env.small cfg false) _ rfl digestEvp_lawful _ _ _ hvalid)
  · rintro ⟨hae, hl2⟩ C D K env key rfl - stack w m hvalid
    obtain ⟨-, htype, hlen⟩ := (valid_iff env hv m).mp hvalid
    have hp : m.proto ≠ ethP8021Q := by
      intro hp
      simp only [typeOk, hp, Bool.and_eq_true] at htype
      cases ty with
      | l2 => exact hl2 rfl (of_decide_eq_true htype.2).symm
      | tsnHigh | tsnLow | rtc | rta | dcp => simp [ethP8021Q, ethPProfinetRt] at htype
      | lldp | udpHigh | udpLow => cases hv
    refine sameVerdict_of_decoded env hvalid (check_strip env hv (by omega) hvalid hp) ?_
    cases hm : env.app.mode ty with
    | none => exact plain_strip env hv hm w stack m
    | ao =>
      rw [secured_offset (by simp [hm]), if_neg (by simp [hm])] at hroom
      exact ao_strip env hm w stack (by rw [hlen]; omega)
    | ae => exact absurd hm hae

/-! An RTC receiver of encrypted frames of 80 bytes with an empty pattern. -/

def encryptedRtc : Env DigestCtx Unit := Env.small (AppConfig.small .ae 80 1 []) false

theorem encryptedRtc_sane : configSanityCheck false encryptedRtc.app = .ok () := by rfl

theorem strip_invariant_iff_encrypted :
    configSanityCheck false encryptedRtc.app = .ok () ∧
    ¬ ∀ (C D K : Type) (env : Env C D) (key : C → K), env.app = encryptedRtc.app →
      env.evp.Lawful key → ∀ (stack : Mem UInt8) (w : World C D) (m : Mbuf), Valid env .rtc m →
        SameVerdict env .rtc stack w m :=
  ⟨encryptedRtc_sane, fun h => ((strip_invariant_iff encryptedRtc_sane rfl).mp h).1 rfl⟩

/-- Return value of the decryption, in a receiver as its setup leaves it. -/
def authenticates (m : Mbuf) (lay : Layout) : Option Int :=
  match (rxHandler encryptedRtc .rtc).decode (World.fresh encryptedRtc .rtc DigestCtx.fresh ())
      (fun _ => 0) m lay with
  | .ok r => some r.authRet
  | .error _ => none

/-- The frame passes the checks in both forms and authenticates in one. -/
theorem stripped_not_authentic :
    let m := sealedFrame (encryptedRtc.app.cls .rtc)
    (rxHandler encryptedRtc .rtc).check 80 m = (80, .ok ⟨18, false⟩) ∧
      (rxHandler encryptedRtc .rtc).check 80 (stripTag m) = (76, .ok ⟨14, true⟩) ∧
      authenticates m ⟨18, false⟩ = some 0 ∧ authenticates (stripTag m) ⟨14, true⟩ = some (-eperm) := by
  decide +kernel

end Rtdk.VlanStrip
