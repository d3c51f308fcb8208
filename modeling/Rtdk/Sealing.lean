import Rtdk.Handlers

/-! Sealing and opening a frame.

The sender puts all 64 bits of its counter into the IV; the receiver rebuilds
the IV from the two 32-bit counters of the metadata. `iv_agrees_iff` says for
which counters the two are the same, and that then an unmodified frame
authenticates. The lemmas on the way give the bytes the sender seals and the
bytes the receiver opens: associated data, ciphertext and checksum of the two
sides are the same ranges of the frame. -/

namespace Rtdk.Sealing
open Rtdk.Memory Rtdk.Endian Rtdk.NetDef Rtdk.Security Rtdk.Stat Rtdk.Lport Rtdk.Config Rtdk.Frame
open Rtdk.Thread Rtdk.Receive Rtdk.Handlers

variable {C D : Type}

/-! ## Metadata -/

theorem stampMetaData_outside (data : Mem UInt8) (off : Nat) (s n t : UInt64) (i : Nat)
    (h : i < off ∨ off + 16 ≤ i) : stampMetaData data off s n t i = data i := by
  unfold stampMetaData txTimestampToMetaData sequenceCounterToMetaData
  rw [write_outside _ _ _ _ (by simp; omega), write_outside _ _ _ _ (by simp; omega),
    write_outside _ _ _ _ (by simp; omega)]

theorem stampMetaData_counter (data : Mem UInt8) (off : Nat) (s n t : UInt64) :
    metaDataToSequenceCounter (stampMetaData data off s n t) off n = wireCounter s n := by
  rw [stampMetaData, sequenceCounter_txTimestamp, sequenceCounter_roundtrip]

theorem stampMetaData_timestamp (data : Mem UInt8) (off : Nat) (s n t : UInt64) :
    metaDataToTxTimestamp (stampMetaData data off s n t) off = t := by
  rw [stampMetaData, txTimestamp_roundtrip]

/-! ## What sealing writes -/

/-- Without a plaintext `security_encrypt` stores no ciphertext. -/
theorem securityEncrypt_none_ciphertext (evp : Evp C) (c : C) (aad iv : List UInt8) :
    (securityEncrypt evp c none aad iv).ciphertext = [] := by
  unfold securityEncrypt encryptTail
  simp only
  split
  · rfl
  · split
    · rfl
    · split
      · rfl
      · split <;> rfl

theorem sealFrame_none_data (evp : Evp C) (c : C) (data : Mem UInt8) (iv : List UInt8)
    (aadOff aadLen ctOff tagOff : Nat) :
    (sealFrame evp c data none iv aadOff aadLen ctOff tagOff).data =
      write data tagOff (securityEncrypt evp c none (slice data aadOff aadLen) iv).tag := by
  simp only [sealFrame, securityEncrypt_none_ciphertext, write_nil]

/-- A sealing that succeeds gets as far as reading its plaintext. -/
theorem readsPlaintext_of_ret {evp : Evp C} {c : C} {pt : Option (List UInt8)} {aad iv : List UInt8}
    (h : (securityEncrypt evp c pt aad iv).ret = 0) : readsPlaintext evp c aad iv = true := by
  unfold securityEncrypt at h
  unfold readsPlaintext
  simp only at h ⊢
  cases hinit : (evp.encryptInit c (iv.take securityIvLen)).1 with
  | false => simp [hinit, einval] at h
  | true =>
    cases haad : (evp.encryptAad (evp.encryptInit c (iv.take securityIvLen)).2 aad).1 with
    | false => simp [hinit, haad, einval] at h
    | true => rfl

/-- The plaintext in a thread's payload buffer. -/
def payloadBytes (payload : Option (Mem UInt8)) (n : UInt64) : List UInt8 :=
  match payload with
  | some buf => slice buf 0 n.toNat
  | none => []

section payload
variable {evp : Evp C} {c : C} {data : Mem UInt8} {payload : Option (Mem UInt8)} {n : UInt64}
  {iv : List UInt8} {aadOff aadLen ctOff tagOff : Nat} {r : Sealed C}

/-- If `sealPayload` returns, it has sealed the bytes of the buffer. -/
theorem sealPayload_eq (h : sealPayload evp c data payload n iv aadOff aadLen ctOff tagOff = .ok r) :
    r = sealFrame evp c data (some (payloadBytes payload n)) iv aadOff aadLen ctOff tagOff := by
  cases payload with
  | some buf => exact (Except.ok.inj h).symm
  | none =>
    simp only [sealPayload] at h
    split at h
    · cases h
    · exact (Except.ok.inj h).symm

/-- If the sealing succeeds too, there were as many bytes as it was to read. -/
theorem sealPayload_length
    (h : sealPayload evp c data payload n iv aadOff aadLen ctOff tagOff = .ok r)
    (hret : r.ret = 0) : (payloadBytes payload n).length = n.toNat := by
  cases payload with
  | some buf => exact slice_length _ _ _
  | none =>
    rw [sealPayload_eq h] at hret
    have hreads := readsPlaintext_of_ret hret
    simp only [sealPayload] at h
    split at h
    · cases h
    · rename_i hn
      have hz : n = 0 := by
        by_contra hne
        exact hn ⟨hne, hreads⟩
      simp [payloadBytes, hz]

/-- The plaintext `sealPayload` encrypts when no sealing fails. -/
theorem sealPayload_ok (hl : ∀ c pt aad iv, (securityEncrypt evp c pt aad iv).ret = 0)
    (h : sealPayload evp c data payload n iv aadOff aadLen ctOff tagOff = .ok r) :
    (payloadBytes payload n).length = n.toNat ∧
      r = sealFrame evp c data (some (payloadBytes payload n)) iv aadOff aadLen ctOff tagOff := by
  have heq := sealPayload_eq h
  refine ⟨sealPayload_length h ?_, heq⟩
  rw [heq]
  exact hl _ _ _ _

end payload

/-! ## The frame at the receiver -/

/-- The receiver has the sender's configuration and got the frame unmodified,
and the frame has room for its headers and checksum. The payload length is the
one the class's thread setup computes. -/
structure Unmodified (f : PrepareFrameConfig C) (p : Prepared C) (c : ClassConfig) (m : Mbuf) :
    Prop where
  secure : f.mode ≠ .none
  mode : c.securityMode = f.mode
  frames : c.numFramesPerCycle = f.numFramesPerCycle
  ivPrefix : c.securityIvPrefix = f.ivPrefix
  room : 60 ≤ f.frameLength
  payload : f.mode = .ae → f.payloadPatternLength.toNat = f.frameLength - 60
  length : m.len.toNat = f.frameLength
  bytes : ∀ i, i < f.frameLength → m.data i = p.data i

/-- The receiver's decryption in the mode of the class. -/
def openFrame (evp : Evp C) (c : ClassConfig) (ctx : C) (m : Mbuf) (off : Nat) : DecryptResult C :=
  match c.securityMode with
  | .ae => aeOpen evp c ctx m off
  | _ => aoOpen evp c ctx m off

/-- The frame before it is sealed. -/
def stamped (f : PrepareFrameConfig C) : Mem UInt8 :=
  stampMetaData f.frameData 28 f.sequenceCounter f.numFramesPerCycle f.txTimestamp

/-- What sealing left in the frame: the stamped frame up to the payload, then
in AE the ciphertext, and the checksum at the end. -/
structure SealedBytes (evp : Evp C) (f : PrepareFrameConfig C) (p : Prepared C)
    (pt : Option (List UInt8)) (aadLen : Nat) : Prop where
  call : p.call = some ⟨(prepareIv f.ivPrefix f.sequenceCounter).take securityIvLen,
    slice (stamped f) 18 aadLen, pt⟩
  ctx : p.ctx = (securityEncrypt evp f.securityContext pt (slice (stamped f) 18 aadLen)
    (prepareIv f.ivPrefix f.sequenceCounter)).ctx
  ret : p.ret = (securityEncrypt evp f.securityContext pt (slice (stamped f) 18 aadLen)
    (prepareIv f.ivPrefix f.sequenceCounter)).ret
  aad : slice p.data 18 aadLen = slice (stamped f) 18 aadLen
  header : ∀ i, i < 44 → p.data i = stamped f i
  tag : slice p.data (f.frameLength - 16) 16 =
    (securityEncrypt evp f.securityContext pt (slice (stamped f) 18 aadLen)
      (prepareIv f.ivPrefix f.sequenceCounter)).tag

theorem prepare_ao {K : Type} {evp : Evp C} {key : C → K} (hl : evp.Lawful key)
    {f : PrepareFrameConfig C} {p : Prepared C} (hm : f.mode = .ao) (hroom : 60 ≤ f.frameLength)
    (hp : prepareFrameForTx evp f = .ok p) :
    SealedBytes evp f p none (f.frameLength - 34) ∧
      ∀ i, i < f.frameLength - 16 → p.data i = stamped f i := by
  unfold prepareFrameForTx at hp
  simp only [hm, Except.ok.injEq] at hp
  have hlen : f.frameLength - sizeofVlanEthernetHeader - sizeofSecurityChecksum =
      f.frameLength - 34 := by
    simp only [sizeofVlanEthernetHeader, sizeofSecurityChecksum]
    omega
  rw [hlen] at hp
  have htag := hl.tag_length f.securityContext none (slice (stamped f) 18 (f.frameLength - 34))
    (prepareIv f.ivPrefix f.sequenceCounter)
  have hdata : p.data = write (stamped f) (f.frameLength - 16)
      (securityEncrypt evp f.securityContext none (slice (stamped f) 18 (f.frameLength - 34))
        (prepareIv f.ivPrefix f.sequenceCounter)).tag := by
    rw [← hp]
    exact sealFrame_none_data _ _ _ _ _ _ _ _
  have hbelow (i : Nat) (hi : i < f.frameLength - 16) : p.data i = stamped f i := by
    rw [hdata, write_below _ _ _ _ hi]
  refine ⟨⟨?_, ?_, ?_, ?_, ?_, ?_⟩, hbelow⟩
  · rw [← hp]
    rfl
  · rw [← hp]
    rfl
  · rw [← hp]
    rfl
  · apply slice_congr
    intro i hi
    exact hbelow _ (by omega)
  · intro i hi
    exact hbelow i (by omega)
  · rw [hdata]
    simp only [sizeofSecurityChecksum] at htag
    conv_lhs => rw [← htag]
    exact slice_write_same _ _ _

theorem prepare_ae {K : Type} {evp : Evp C} {key : C → K} (hl : evp.Lawful key)
    {f : PrepareFrameConfig C} {p : Prepared C} (hm : f.mode = .ae) (hroom : 60 ≤ f.frameLength)
    (hpay : f.payloadPatternLength.toNat = f.frameLength - 60)
    (hp : prepareFrameForTx evp f = .ok p) :
    let pt := payloadBytes f.payloadPattern f.payloadPatternLength
    pt.length = f.frameLength - 60 ∧ SealedBytes evp f p (some pt) 26 ∧
      slice p.data 44 (f.frameLength - 60) =
        (securityEncrypt evp f.securityContext (some pt) (slice (stamped f) 18 26)
          (prepareIv f.ivPrefix f.sequenceCounter)).ciphertext := by
  intro pt
  unfold prepareFrameForTx at hp
  simp only [hm] at hp
  cases hs : sealPayload evp f.securityContext
      (stampMetaData f.frameData 28 f.sequenceCounter f.numFramesPerCycle f.txTimestamp)
      f.payloadPattern f.payloadPatternLength (prepareIv f.ivPrefix f.sequenceCounter)
      sizeofVlanEthernetHeader sizeofProfinetSecureHeader
      (sizeofVlanEthernetHeader + sizeofProfinetSecureHeader)
      (f.frameLength - sizeofSecurityChecksum) with
  | error e =>
    rw [hs] at hp
    cases hp
  | ok r =>
    rw [hs] at hp
    obtain ⟨hlen, hr⟩ := sealPayload_ok hl.encrypt_ret hs
    simp only [Except.map, Except.ok.injEq] at hp
    rw [hpay] at hlen
    change pt.length = _ at hlen
    have htag := hl.tag_length f.securityContext (some pt) (slice (stamped f) 18 26)
      (prepareIv f.ivPrefix f.sequenceCounter)
    have hct := hl.ciphertext_length f.securityContext pt (slice (stamped f) 18 26)
      (prepareIv f.ivPrefix f.sequenceCounter)
    rw [hlen] at hct
    have hdata : p.data = write (write (stamped f) 44
        (securityEncrypt evp f.securityContext (some pt) (slice (stamped f) 18 26)
          (prepareIv f.ivPrefix f.sequenceCounter)).ciphertext) (f.frameLength - 16)
        (securityEncrypt evp f.securityContext (some pt) (slice (stamped f) 18 26)
          (prepareIv f.ivPrefix f.sequenceCounter)).tag := by
      rw [← hp, hr]
      rfl
    have hbelow (i : Nat) (hi : i < 44) : p.data i = stamped f i := by
      rw [hdata, write_below _ _ _ _ (by omega), write_below _ _ _ _ hi]
    refine ⟨hlen, ⟨?_, ?_, ?_, ?_, hbelow, ?_⟩, ?_⟩
    · rw [← hp, hr]
      rfl
    · rw [← hp, hr]
      rfl
    · rw [← hp, hr]
      rfl
    · apply slice_congr
      intro i hi
      exact hbelow _ (by omega)
    · rw [hdata]
      simp only [sizeofSecurityChecksum] at htag
      conv_lhs => rw [← htag]
      exact slice_write_same _ _ _
    · rw [hdata, slice_write_disjoint _ _ _ _ _ (by omega)]
      conv_lhs => rw [← hct]
      exact slice_write_same _ _ _

/-- The receiver decodes the counter the wire left of the sender's. -/
theorem rxCounter_unmodified {f : PrepareFrameConfig C} {p : Prepared C} {c : ClassConfig}
    {m : Mbuf} (h : Unmodified f p c m) (hb : ∀ i, i < 44 → p.data i = stamped f i) :
    rxCounter c m 18 = wireCounter f.sequenceCounter f.numFramesPerCycle := by
  rw [rxCounter, h.frames, ← stampMetaData_counter f.frameData 28 _ _ f.txTimestamp]
  apply sequenceCounter_congr
  intro i hi
  have hroom := h.room
  rw [h.bytes _ (by omega), hb _ (by omega)]
  rfl

theorem rxTag_unmodified {f : PrepareFrameConfig C} {p : Prepared C} {c : ClassConfig} {m : Mbuf}
    (h : Unmodified f p c m) :
    slice m.data (checksumOff m) sizeofSecurityChecksum = slice p.data (f.frameLength - 16) 16 := by
  have hroom := h.room
  simp only [checksumOff, h.length, sizeofSecurityChecksum]
  apply slice_congr
  intro i hi
  exact h.bytes _ (by omega)

theorem openFrame_ao {K : Type} {evp : Evp C} {key : C → K} (hl : evp.Lawful key)
    {f : PrepareFrameConfig C} {p : Prepared C} {c : ClassConfig} {m : Mbuf} (hm : f.mode = .ao)
    (hp : prepareFrameForTx evp f = .ok p) (h : Unmodified f p c m)
    (hwire : wireCounter f.sequenceCounter f.numFramesPerCycle = f.sequenceCounter) (ctx : C)
    (hkey : key f.securityContext = key ctx) : (aoOpen evp c ctx m 18).ret = 0 := by
  obtain ⟨hs, hbelow⟩ := prepare_ao hl hm h.room hp
  have hroom := h.room
  have hiv : rxIv c m 18 = prepareIv f.ivPrefix f.sequenceCounter := by
    rw [rxIv, rxCounter_unmodified h hs.header, hwire, h.ivPrefix]
  have haad : slice m.data 18 (aadSize m.len 18).toNat =
      slice (stamped f) 18 (f.frameLength - 34) := by
    rw [aadSize_toNat (by rw [h.length]; omega), h.length]
    rw [show f.frameLength - 18 - 16 = f.frameLength - 34 by omega]
    apply slice_congr
    intro i hi
    rw [h.bytes _ (by omega), hbelow _ (by omega)]
  rw [aoOpen, haad, rxTag_unmodified h, hs.tag, hiv]
  exact hl.open_auth _ _ _ _ hkey

theorem openFrame_ae {K : Type} {evp : Evp C} {key : C → K} (hl : evp.Lawful key)
    {f : PrepareFrameConfig C} {p : Prepared C} {c : ClassConfig} {m : Mbuf} (hm : f.mode = .ae)
    (hp : prepareFrameForTx evp f = .ok p) (h : Unmodified f p c m)
    (hwire : wireCounter f.sequenceCounter f.numFramesPerCycle = f.sequenceCounter) (ctx : C)
    (hkey : key f.securityContext = key ctx) :
    (aeOpen evp c ctx m 18).ret = 0 ∧
      (aeOpen evp c ctx m 18).plaintext =
        payloadBytes f.payloadPattern f.payloadPatternLength := by
  have hroom := h.room
  obtain ⟨-, hs, hct⟩ := prepare_ae hl hm hroom (h.payload hm) hp
  have hiv : rxIv c m 18 = prepareIv f.ivPrefix f.sequenceCounter := by
    rw [rxIv, rxCounter_unmodified h hs.header, hwire, h.ivPrefix]
  have haad : slice m.data 18 sizeofProfinetSecureHeader = slice (stamped f) 18 26 := by
    apply slice_congr
    intro i hi
    change i < 26 at hi
    rw [h.bytes _ (by omega), hs.header _ (by omega)]
  have hctm : slice m.data (18 + sizeofProfinetSecureHeader) (payloadSize m.len).toNat =
      (securityEncrypt evp f.securityContext
        (some (payloadBytes f.payloadPattern f.payloadPatternLength)) (slice (stamped f) 18 26)
        (prepareIv f.ivPrefix f.sequenceCounter)).ciphertext := by
    rw [← hct, payloadSize_toNat (by rw [h.length]; exact hroom), h.length]
    apply slice_congr
    intro i hi
    exact h.bytes _ (by simp only [sizeofProfinetSecureHeader]; omega)
  have hopen := hl.open_seal f.securityContext ctx
    (payloadBytes f.payloadPattern f.payloadPatternLength) (slice (stamped f) 18 26)
    (prepareIv f.ivPrefix f.sequenceCounter) hkey
  simp only [aeOpen, hctm, haad, rxTag_unmodified h, hs.tag, hiv]
  exact hopen

/-- **IV agreement.**  The IV a frame is sealed with is the one the receiver
rebuilds, and the frame authenticates, exactly when the cycle number of the
counter and its position in the cycle both fit 32 bits. -/
theorem iv_agrees_iff {K : Type} {evp : Evp C} {key : C → K} (hl : evp.Lawful key)
    {f : PrepareFrameConfig C} {p : Prepared C} {c : ClassConfig} {m : Mbuf}
    (hp : prepareFrameForTx evp f = .ok p) (h : Unmodified f p c m)
    (hn : f.numFramesPerCycle ≠ 0) (hs : f.sequenceCounter.toNat < 2 ^ 48) (ctx : C)
    (hkey : key f.securityContext = key ctx) :
    (p.call.map SealCall.iv = some ((rxIv c m 18).take securityIvLen) ∧
        (openFrame evp c ctx m 18).ret = 0) ↔
      f.sequenceCounter.toNat / f.numFramesPerCycle.toNat < 2 ^ 32 ∧
        f.sequenceCounter.toNat % f.numFramesPerCycle.toNat < 2 ^ 32 := by
  rw [← wireCounter_eq_self_iff _ _ hn]
  have hsealed : ∃ pt aadLen, SealedBytes evp f p pt aadLen := by
    cases hm : f.mode with
    | none => exact absurd hm h.secure
    | ao => exact ⟨_, _, (prepare_ao hl hm h.room hp).1⟩
    | ae =>
      obtain ⟨-, hb, -⟩ := prepare_ae hl hm h.room (h.payload hm) hp
      exact ⟨_, _, hb⟩
  obtain ⟨pt, aadLen, hb⟩ := hsealed
  have hiv : (rxIv c m 18).take securityIvLen = (prepareIv f.ivPrefix
      (wireCounter f.sequenceCounter f.numFramesPerCycle)).take securityIvLen := by
    rw [rxIv, rxCounter_unmodified h hb.header, h.ivPrefix]
  constructor
  · rintro ⟨hcall, -⟩
    rw [hb.call, hiv] at hcall
    have hle := wireCounter_le f.sequenceCounter f.numFramesPerCycle
    exact (prepareIv_injective f.ivPrefix _ _ hs (by omega) (Option.some.inj hcall)).symm
  · intro hwire
    refine ⟨by rw [hb.call, hiv, hwire]; rfl, ?_⟩
    unfold openFrame
    cases hm : f.mode with
    | none => exact absurd hm h.secure
    | ao =>
      rw [h.mode, hm]
      exact openFrame_ao hl hm hp h hwire ctx hkey
    | ae =>
      rw [h.mode, hm]
      exact (openFrame_ae hl hm hp h hwire ctx hkey).1

/-! A frame of 60 bytes, one per cycle, in AO mode: with counter 7 the two
sides agree, with counter `2 ^ 32` the receiver takes the frame for number 0. -/

def smallPrepare (sequenceCounter : UInt64) : PrepareFrameConfig DigestCtx where
  mode := .ao
  securityContext := DigestCtx.fresh
  ivPrefix := [1, 2, 3, 4, 5, 6]
  payloadPattern := none
  payloadPatternLength := 0
  frameData := fun _ => 0
  frameLength := 60
  numFramesPerCycle := 1
  sequenceCounter := sequenceCounter
  txTimestamp := 5
  metaDataOffset := 28

def smallSealed (sequenceCounter : UInt64) : Prepared DigestCtx :=
  .ofSealed (sealFrame digestEvp DigestCtx.fresh (stamped (smallPrepare sequenceCounter)) none
    (prepareIv [1, 2, 3, 4, 5, 6] sequenceCounter) 18 26 0 44)

def smallArrived (sequenceCounter : UInt64) : Mbuf :=
  ⟨0, (smallSealed sequenceCounter).data, 60, 60⟩

theorem smallArrived_unmodified (s : UInt64) :
    Unmodified (smallPrepare s) (smallSealed s) (ClassConfig.small .ao 60 1 []) (smallArrived s) where
  secure h := by cases h
  mode := rfl
  frames := rfl
  ivPrefix := rfl
  room := Nat.le_refl 60
  payload h := by cases h
  length := by rfl
  bytes _ _ := rfl

theorem iv_agrees_iff_seven :
    (smallSealed 7).call.map SealCall.iv =
        some ((rxIv (ClassConfig.small .ao 60 1 []) (smallArrived 7) 18).take securityIvLen) ∧
      (openFrame digestEvp (ClassConfig.small .ao 60 1 []) DigestCtx.fresh (smallArrived 7) 18).ret
        = 0 :=
  (iv_agrees_iff digestEvp_lawful (f := smallPrepare 7) rfl (smallArrived_unmodified 7) (by decide)
    (by decide) DigestCtx.fresh rfl).mpr (by decide)

theorem iv_differs_after_wrap :
    (smallSealed 4294967296).call.map SealCall.iv ≠
        some ((rxIv (ClassConfig.small .ao 60 1 []) (smallArrived 4294967296) 18).take
          securityIvLen) ∧
      (openFrame digestEvp (ClassConfig.small .ao 60 1 []) DigestCtx.fresh
        (smallArrived 4294967296) 18).ret = -eperm := by
  decide +kernel

end Rtdk.Sealing
