import Rtdk.Agreement
import Rtdk.FrameCondition
import Rtdk.Network
import Rtdk.Partition
import Rtdk.Runs

/-! Frames whose sealing fails.

Any of the cipher calls may return an error. The generators log it, the
handlers of a mirror do not look at it, and both add the frame to the transmit
buffer all the same (`added_iff`). `onlySealed_iff` says when a class sends
sealed frames only: `security_encrypt` must not fail for a frame that is to be
sent. The proofs cannot use `Evp.Lawful` here; they go frame by frame from
`Evp.Sound`, which promises nothing about a call that failed. -/

namespace Rtdk.Unsealed
open Rtdk.Memory Rtdk.Endian Rtdk.NetDef Rtdk.Security Rtdk.Stat Rtdk.Lport Rtdk.Config Rtdk.Frame
open Rtdk.Thread Rtdk.Receive Rtdk.Handlers Rtdk.Checks Rtdk.Builder Rtdk.Decode Rtdk.Generate
open Rtdk.Sealing Rtdk.Reseal Rtdk.SecureTx Rtdk.Agreement Rtdk.Mirror Rtdk.FrameCondition
open Rtdk.Network Rtdk.Partition Rtdk.Runs

variable {C D K : Type}

/-! ## Sealed frames -/

/-- The ciphertext of a tagged frame. -/
def ciphertextOf (c : ClassConfig) (m : Mbuf) : Option (List UInt8) :=
  match c.securityMode with
  | .ae => some (slice m.data 44 (payloadSize m.len).toNat)
  | _ => none

/-- `security_decrypt` on a tagged frame, under a given IV. -/
def openUnder (evp : Evp C) (c : ClassConfig) (ctx : C) (iv : List UInt8) (m : Mbuf) :
    DecryptResult C :=
  securityDecrypt evp ctx (ciphertextOf c m) (slice m.data 18 (aadLength c m 18))
    (slice m.data (checksumOff m) sizeofSecurityChecksum) iv

/-- A receiver opens the frame under the IV it rebuilds from the frame. -/
theorem openFrame_eq_openUnder (evp : Evp C) (c : ClassConfig) (ctx : C) (m : Mbuf) :
    openFrame evp c ctx m 18 = openUnder evp c ctx (rxIv c m 18) m := by
  unfold openFrame openUnder ciphertextOf aadLength
  cases c.securityMode <;> rfl

/-- The checksum of the frame verifies: under the key, and the IV of a sequence
counter, the frame opens. -/
def Verifies (evp : Evp C) (key : C → K) (k : K) (c : ClassConfig) (m : Mbuf) : Prop :=
  ∃ s, ∀ ctx, key ctx = k → (openUnder evp c ctx (prepareIv c.securityIvPrefix s) m).ret = 0

/-- The payload of the frame is what a `security_encrypt` that returned zero
stored there. -/
def Enciphered (evp : Evp C) (key : C → K) (k : K) (c : ClassConfig) (m : Mbuf) : Prop :=
  ∃ ctx pt s, key ctx = k ∧
    let sealed := securityEncrypt evp ctx (some pt) (slice m.data 18 sizeofProfinetSecureHeader)
      (prepareIv c.securityIvPrefix s)
    sealed.ret = 0 ∧ slice m.data 44 (payloadSize m.len).toNat = sealed.ciphertext

/-- A frame that may leave the node. -/
structure Protected (evp : Evp C) (key : C → K) (k : K) (c : ClassConfig) (m : Mbuf) : Prop where
  verifies : Verifies evp key k c m
  enciphered : c.securityMode = .ae → Enciphered evp key k c m

theorem Protected.congr {evp : Evp C} {key : C → K} {k : K} {c : ClassConfig} {m m' : Mbuf}
    (h : Protected evp key k c m) (hlen : m'.len = m.len)
    (hdata : ∀ i, 12 ≤ i → m'.data i = m.data i) (hroom : 60 ≤ m.len.toNat) :
    Protected evp key k c m' := by
  have hslice (a n : Nat) (ha : 12 ≤ a) : slice m'.data a n = slice m.data a n :=
    slice_congr fun i _ => hdata _ (by omega)
  have haad : aadLength c m' 18 = aadLength c m 18 := by simp only [aadLength, hlen]
  have hoff : checksumOff m' = checksumOff m := by simp only [checksumOff, hlen]
  have hct : ciphertextOf c m' = ciphertextOf c m := by
    simp only [ciphertextOf, hlen, hslice 44 _ (by decide)]
  refine ⟨?_, fun hae => ?_⟩
  · obtain ⟨s, hs⟩ := h.verifies
    refine ⟨s, fun ctx hctx => ?_⟩
    have hopen := hs ctx hctx
    rw [openUnder] at hopen ⊢
    rwa [hct, haad, hoff, hslice 18 _ (by decide), hslice _ _ ?_]
    simp only [checksumOff, sizeofSecurityChecksum]
    omega
  · obtain ⟨ctx, pt, s, hctx, hret, hpay⟩ := h.enciphered hae
    refine ⟨ctx, pt, s, hctx, ?_⟩
    rw [hslice 18 _ (by decide), hlen, hslice 44 _ (by decide)]
    exact ⟨hret, hpay⟩

/-- What a thread encrypts fills the frame between header and checksum. -/
def Fills (c : ClassConfig) (m : Mbuf) (pt : Option (List UInt8)) : Prop :=
  match c.securityMode with
  | .ae => ∃ bs : List UInt8, pt = some bs ∧ bs.length = m.len.toNat - 60
  | _ => pt = none

theorem Fills.eq_none {c : ClassConfig} {m : Mbuf} {pt : Option (List UInt8)} (h : Fills c m pt)
    (hmode : c.securityMode ≠ .ae) : pt = none := by
  unfold Fills at h
  split at h
  · exact absurd ‹_› hmode
  · exact h

theorem Fills.eq_some {c : ClassConfig} {m : Mbuf} {pt : Option (List UInt8)} (h : Fills c m pt)
    (hmode : c.securityMode = .ae) :
    ∃ bs : List UInt8, pt = some bs ∧ bs.length = m.len.toNat - 60 := by
  simpa only [Fills, hmode] using h

theorem Fills.congr {c : ClassConfig} {m m' : Mbuf} {pt : Option (List UInt8)} (h : Fills c m pt)
    (hlen : m'.len = m.len) : Fills c m' pt := by
  unfold Fills at h ⊢
  rwa [hlen]

/-- The frame in `m` with counter `s` and metadata in place, sealed. -/
def sealIn (evp : Evp C) (c : ClassConfig) (ctx : C) (m : Mbuf) (pt : Option (List UInt8))
    (s : UInt64) : Sealed C :=
  sealFrame evp ctx m.data pt (prepareIv c.securityIvPrefix s) 18 (aadLength c m 18)
    (ciphertextOff c 18) (checksumOff m)

section frames
variable {evp : Evp C} {key : C → K} {k : K} {c : ClassConfig} {ctx : C} {m : Mbuf}
  {pt : Option (List UInt8)} {s : UInt64}

/-- What a successful sealing stores, and where. -/
theorem sealIn_data (hl : evp.Sound key) (hroom : 60 ≤ m.len.toNat) (hfill : Fills c m pt)
    (hret : (sealIn evp c ctx m pt s).ret = 0) :
    let sealed := securityEncrypt evp ctx pt (slice m.data 18 (aadLength c m 18))
      (prepareIv c.securityIvPrefix s)
    let data := (sealIn evp c ctx m pt s).data
    slice data 18 (aadLength c m 18) = slice m.data 18 (aadLength c m 18) ∧
      slice data (checksumOff m) sizeofSecurityChecksum = sealed.tag ∧
      (c.securityMode = .ae → slice data 44 (payloadSize m.len).toNat = sealed.ciphertext) := by
  intro sealed data
  have htag : sealed.tag.length = sizeofSecurityChecksum := hl.tag_length _ _ _ _ hret
  obtain ⟨-, haad⟩ : 26 ≤ aadLength c m 18 ∧ 18 + aadLength c m 18 ≤ checksumOff m :=
    aadLength_room c hroom
  have hdata : data = write (write m.data (ciphertextOff c 18) sealed.ciphertext) (checksumOff m)
      sealed.tag := rfl
  have htail : slice data (checksumOff m) sizeofSecurityChecksum = sealed.tag := by
    rw [hdata, ← htag]
    exact slice_write_same _ _ _
  refine ⟨?_, htail, fun hmode => ?_⟩
  · rw [hdata, slice_write_disjoint _ _ _ _ _ (Or.inr haad)]
    cases hmode : c.securityMode with
    | none | ao =>
      have hempty : sealed.ciphertext = [] := by
        simp only [sealed, hfill.eq_none (by simp [hmode]), securityEncrypt_none_ciphertext]
      rw [hempty, write_nil]
    | ae =>
      apply slice_write_disjoint
      right
      simp only [aadLength, ciphertextOff, hmode]
      exact Nat.le_refl _
  · obtain ⟨bs, rfl, hbs⟩ := hfill.eq_some hmode
    have hsize : (payloadSize m.len).toNat = sealed.ciphertext.length := by
      rw [payloadSize_toNat hroom, ← hbs]
      exact (hl.ciphertext_length _ _ _ _ hret).symm
    have hoff : ciphertextOff c 18 = 44 := by
      simp only [ciphertextOff, hmode]
      rfl
    have hend : 44 + (payloadSize m.len).toNat ≤ checksumOff m := by
      rw [payloadSize_toNat hroom]
      simp only [checksumOff, sizeofSecurityChecksum]
      omega
    rw [hdata, hoff, slice_write_disjoint _ _ _ _ _ (Or.inr hend), hsize]
    exact slice_write_same _ _ _

/-- **Sealed.**  If `security_encrypt` returned zero, the frame may leave the node. -/
theorem sealIn_protected (hl : evp.Sound key) (hctx : key ctx = k) (hroom : 60 ≤ m.len.toNat)
    (hfill : Fills c m pt) (hret : (sealIn evp c ctx m pt s).ret = 0) :
    Protected evp key k c { m with data := (sealIn evp c ctx m pt s).data } := by
  obtain ⟨haad, htag, hct⟩ := sealIn_data hl hroom hfill hret
  refine ⟨⟨s, fun ctx' hctx' => ?_⟩, fun hmode => ?_⟩
  · change (securityDecrypt evp ctx' (ciphertextOf c { m with data := (sealIn evp c ctx m pt s).data })
      (slice (sealIn evp c ctx m pt s).data 18 (aadLength c m 18))
      (slice (sealIn evp c ctx m pt s).data (checksumOff m) sizeofSecurityChecksum) _).ret = 0
    rw [haad, htag]
    cases hmode : c.securityMode with
    | none | ao =>
      obtain rfl := hfill.eq_none (by simp [hmode])
      simp only [ciphertextOf, hmode]
      exact hl.open_auth _ _ _ _ (hctx.trans hctx'.symm) hret
    | ae =>
      obtain ⟨bs, rfl, -⟩ := hfill.eq_some hmode
      simp only [ciphertextOf, hmode]
      change (securityDecrypt evp ctx' (some (slice (sealIn evp c ctx m (some bs) s).data 44
        (payloadSize m.len).toNat)) _ _ _).ret = 0
      rw [hct hmode]
      exact hl.open_seal _ _ _ _ _ (hctx.trans hctx'.symm) hret
  · obtain ⟨bs, rfl, -⟩ := hfill.eq_some hmode
    have h26 : aadLength c m 18 = sizeofProfinetSecureHeader := by simp only [aadLength, hmode]
    rw [h26] at haad hct
    refine ⟨ctx, bs, s, hctx, ?_⟩
    change (securityEncrypt evp ctx (some bs) (slice (sealIn evp c ctx m (some bs) s).data 18
      sizeofProfinetSecureHeader) _).ret = 0 ∧ slice (sealIn evp c ctx m (some bs) s).data 44
        (payloadSize m.len).toNat = (securityEncrypt evp ctx (some bs)
          (slice (sealIn evp c ctx m (some bs) s).data 18 sizeofProfinetSecureHeader) _).ciphertext
    rw [haad]
    exact ⟨by rw [← h26]; exact hret, hct hmode⟩

end frames

/-! ## One frame -/

section one
variable {env : Env C D} {ty : FrameType} {thread : ThreadContext C} {w w' : World C D}
  {m : Mbuf} {n seq t : UInt64}

/-- The frame a generator builds, before it is sealed. -/
def stampedFrame (env : Env C D) (ty : FrameType) (m : Mbuf) (n seq t : UInt64) : Mbuf :=
  let im := initializeFrame env.app env.mac ty m
  { im with data := stampMetaData im.data 28 seq n t }

/-- The sealing of a generated frame. -/
def genSealed (env : Env C D) (ty : FrameType) (thread : ThreadContext C) (m : Mbuf)
    (n seq t : UInt64) : Sealed C :=
  sealIn env.evp (env.app.cls ty) thread.txSecurityContext (stampedFrame env ty m n seq t)
    (plaintextOf (env.app.cls ty) thread) seq

theorem fills_of_length {c : ClassConfig}
    (h : c.securityMode = .ae → (payloadBytes thread.payloadPattern
      thread.payloadPatternLength).length = m.len.toNat - 60) :
    Fills c m (plaintextOf c thread) := by
  unfold Fills plaintextOf
  cases hmode : c.securityMode with
  | none | ao => rfl
  | ae => exact ⟨_, rfl, h hmode⟩

theorem stampedFrame_len (hs : Secured env.app ty) (m : Mbuf) (n seq t : UInt64) :
    (stampedFrame env ty m n seq t).dataLen.toNat = (env.app.cls ty).frameLength.toNat ∧
      (stampedFrame env ty m n seq t).len.toNat = (env.app.cls ty).frameLength.toNat :=
  initializeFrame_len hs env.mac m

/-- `prepare_frame_for_tx` on a frame of a secured class is this sealing. -/
theorem prepare_genSealed (hs : Secured env.app ty) {p : Prepared C}
    (hp : prepareFrameForTx env.evp (prepareConfig env ty thread
      (initializeFrame env.app env.mac ty m) n seq t) = .ok p) :
    p = .ofSealed (genSealed env ty thread m n seq t) ∧
      (SetUp env.app ty thread → p.ret = 0 →
        Fills (env.app.cls ty) (stampedFrame env ty m n seq t)
          (plaintextOf (env.app.cls ty) thread)) := by
  obtain ⟨hdl, hlen⟩ := stampedFrame_len hs m n seq t
  have hlow := hs.low
  have hoff : checksumOff (stampedFrame env ty m n seq t) =
      (stampedFrame env ty m n seq t).dataLen.toNat - 16 := by
    rw [checksumOff, hlen, hdl]
    rfl
  cases hmode : (env.app.cls ty).securityMode with
  | none => exact absurd (hs.securityMode.trans hmode) hs.mode
  | ao =>
    have haad : aadLength (env.app.cls ty) (stampedFrame env ty m n seq t) 18 =
        (stampedFrame env ty m n seq t).dataLen.toNat - 18 - 16 := by
      simp only [aadLength, hmode]
      rw [aadSize_toNat (by omega), hlen, hdl]
    simp only [prepareFrameForTx, prepareConfig, hmode, Except.ok.injEq] at hp
    refine ⟨?_, fun _ _ => fills_of_length fun hae => by rw [hmode] at hae; cases hae⟩
    rw [← hp, genSealed, sealIn, haad, hoff]
    simp only [plaintextOf, ciphertextOff, hmode]
    rfl
  | ae =>
    simp only [prepareFrameForTx, prepareConfig, hmode] at hp
    cases hseal : sealPayload env.evp thread.txSecurityContext
        (stampMetaData (initializeFrame env.app env.mac ty m).data 28 seq n t) thread.payloadPattern
        thread.payloadPatternLength (prepareIv (env.app.cls ty).securityIvPrefix seq)
        sizeofVlanEthernetHeader sizeofProfinetSecureHeader
        (sizeofVlanEthernetHeader + sizeofProfinetSecureHeader)
        ((initializeFrame env.app env.mac ty m).dataLen.toNat - sizeofSecurityChecksum) with
    | error e =>
      rw [hseal] at hp
      cases hp
    | ok r =>
      rw [hseal] at hp
      obtain rfl : Prepared.ofSealed r = p := Except.ok.inj hp
      refine ⟨?_, fun hset hret => fills_of_length fun _ => ?_⟩
      · rw [sealPayload_eq hseal, genSealed, sealIn, hoff]
        simp only [plaintextOf, ciphertextOff, aadLength, hmode]
        rfl
      · rw [sealPayload_length hseal hret, hset.length, threadSetup_length hs, hlen]

theorem generated_protected {key : C → K} {k : K} (hl : env.evp.Sound key) (hs : Secured env.app ty)
    (hset : SetUp env.app ty thread) (hkey : key thread.txSecurityContext = k) {p : Prepared C}
    (hp : prepareFrameForTx env.evp (prepareConfig env ty thread
      (initializeFrame env.app env.mac ty m) n seq t) = .ok p) (hret : p.ret = 0) :
    Protected env.evp key k (env.app.cls ty)
      { initializeFrame env.app env.mac ty m with data := p.data } := by
  obtain ⟨rfl, hfill⟩ := prepare_genSealed hs hp
  have hroom : 60 ≤ (stampedFrame env ty m n seq t).len.toNat := by
    rw [(stampedFrame_len hs m n seq t).2]
    exact hs.low
  exact sealIn_protected hl hkey hroom (hfill hset hret) hret

/-- A handler that seals the frame again has as many bytes to encrypt as its
setup says, or the sealing fails. -/
theorem decode_fills (hs : Secured env.app ty) (hset : SetUp env.app ty w.thread)
    (hlen : m.len.toNat = (env.app.cls ty).frameLength.toNat) {stack : Mem UInt8} {lay : Layout}
    {r : Received C D} (hdec : (rxHandler env ty).decode w stack m lay = .ok r)
    (hret : (sealAgain env (env.app.cls ty) w m lay.off (env.mirrorStamp (w.now env))).ret = 0) :
    Fills (env.app.cls ty) m (plaintextOf (env.app.cls ty) w.thread) := by
  refine fills_of_length fun hmode => ?_
  rw [decode_payload_length (hs.securityMode.trans hmode) hdec hret, hset.length,
    threadSetup_length hs, hlen]

theorem sealAgain_eq_sealIn (env : Env C D) (c : ClassConfig) (w : World C D) (m : Mbuf)
    (t : UInt64) :
    sealAgain env c w m 18 t = sealIn env.evp c
      (openFrame env.evp c w.thread.rxSecurityContext m 18).ctx
      { m with data := txTimestampToMetaData m.data (18 + 10) t } (plaintextOf c w.thread)
      (rxCounter c m 18) := rfl

/-- **Mirrored.**  If sealing a tagged frame again succeeds, what a mirror hands
over may leave the node. -/
theorem forwarded_protected {key : C → K} {k : K} (hl : env.evp.Sound key) (hs : Secured env.app ty)
    (hset : SetUp env.app ty w.thread) (hkey : key w.thread.rxSecurityContext = k)
    (hlen : m.len.toNat = (env.app.cls ty).frameLength.toNat) {stack : Mem UInt8} {q : Mbuf}
    (hq : Forwards env ty w stack m ⟨18, false⟩ q)
    (hret : (sealAgain env (env.app.cls ty) w m 18 (env.mirrorStamp (w.now env))).ret = 0) :
    Protected env.evp key k (env.app.cls ty) q := by
  obtain ⟨r, w1, hdec, -, -, -, rfl⟩ := hq
  have hroom : 60 ≤ m.len.toNat := hlen ▸ hs.low
  have hlay := (secure_class hs.hasSecurity).2.2.1
  have hopen : key (openFrame env.evp (env.app.cls ty) w.thread.rxSecurityContext m 18).ctx = k := by
    rw [← hkey]
    unfold openFrame
    split <;> exact hl.decrypt_key _ _ _ _ _
  have hsealed : Protected env.evp key k (env.app.cls ty) r.mbuf := by
    rw [(decode_resealed hs.mode hdec).mbuf]
    have hfill := decode_fills hs hset hlen hdec hret
    rw [sealAgain_eq_sealIn] at hret ⊢
    refine sealIn_protected hl hopen ?_ ?_ hret
    · exact hroom
    · exact hfill.congr rfl
  have hedit := forward_edits env ty (w1.setRx (w1.thread.rxSequenceCounter + 1)) r.mbuf (by
    rintro rfl
    cases hs.hasSecurity)
  rw [hlay] at hedit
  refine hsealed.congr (by simp only [Mbuf.len, hedit.2.1]) (fun i hi => ?_) ?_
  · refine hedit.2.2 i hi (Or.inl ?_)
    rintro rfl
    cases hs.hasSecurity
  · rw [(decode_resealed hs.mode hdec).mbuf]
    exact hroom

end one

/-! ## Outcomes -/

/-- A frame that went through `security_encrypt`: whether it is to be sent, that
is, generated, or received by a mirror that finds nothing wrong with it; what
the call returned; and what was added to the transmit buffer for it. -/
structure Outcome where
  due : Bool
  ret : Int
  added : List Mbuf

def newlyAdded (w w' : World C D) : List Mbuf := w'.tx.added.drop w.tx.added.length

/-- What `prepare_frame_for_tx` returns to the generator. -/
def genRet (env : Env C D) (ty : FrameType) (n seq t : UInt64) (w : World C D) (m : Mbuf) : Int :=
  match prepareFrameForTx env.evp (prepareConfig env ty w.thread
      (initializeFrame env.app env.mac ty m) n seq t) with
  | .ok p => p.ret
  | .error _ => 0

def genOutcomes (env : Env C D) (ty : FrameType) (n t : UInt64) :
    UInt64 → World C D → List Mbuf → List Outcome
  | _, _, [] => []
  | seq, w, m :: ms =>
    match genFrame env ty n seq t w m with
    | .ok w' =>
      ⟨true, genRet env ty n seq t w m, newlyAdded w w'⟩ :: genOutcomes env ty n t (seq + 1) w' ms
    | .error _ => []

/-- A mirror finds frame id, counter and payload of the frame in order. -/
def passes (env : Env C D) (ty : FrameType) (s : RxState C D) (m : Mbuf) (lay : Layout) : Bool :=
  env.mirrorMode &&
    match (rxHandler env ty).decode s.world s.plaintext m lay with
    | .ok r => decide ((rxHandler env ty).verdict r = ⟨false, false, false⟩)
    | .error _ => false

/-- Only a frame that passed the type and length checks is sealed again. -/
def rxOutcome (env : Env C D) (ty : FrameType) (s : RxState C D) (m : Mbuf) (w' : World C D) :
    List Outcome :=
  match (rxHandler env ty).check s.expectedFrameLength m with
  | (_, .ok lay) =>
    [⟨passes env ty s m lay,
      (sealAgain env (env.app.cls ty) s.world m lay.off (env.mirrorStamp (s.world.now env))).ret,
      newlyAdded s.world w'⟩]
  | (_, .error _) => []

def rxOutcomes (env : Env C D) (ty : FrameType) : RxState C D → List Mbuf → List Outcome
  | _, [] => []
  | s, m :: ms =>
    match rxOne env (rxHandler env ty) s m with
    | .ok (s', _) => rxOutcome env ty s m s'.world ++ rxOutcomes env ty s' ms
    | .error _ => []

/-- What the thread of a class does: a generator's cycle, a received burst, or
a mirror's cycle. -/
inductive Call
  | generate (numFrames : UInt64) (mbufs : Option (List Mbuf))
  | receive (stack : Mem UInt8) (mbufs : List Mbuf)
  | send

def Call.run (env : Env C D) (ty : FrameType) (w : World C D) : Call → Except Stop (World C D)
  | .generate numFrames mbufs => genAndSendFrames env ty numFrames mbufs w
  | .receive stack mbufs => (rxFrame env ty stack w mbufs).map Prod.fst
  | .send => sendFramesCommon env ty (env.app.cls ty).numFramesPerCycle w

def Call.outcomes (env : Env C D) (ty : FrameType) (w : World C D) : Call → List Outcome
  | .generate numFrames (some ms) =>
    if (ty = .rta ∨ ty = .dcp) ∧ numFrames = 0 then [] else
    genOutcomes env ty (divisor (env.app.cls ty) ty numFrames.toUInt16) (w.now env)
      w.thread.txSequenceCounter w.tick ms
  | .generate _ none => []
  | .receive stack ms => rxOutcomes env ty ⟨w, (env.app.cls ty).frameLength, stack⟩ ms
  | .send => []

/-- The outcomes of a run, in order. -/
def outcomes (env : Env C D) (ty : FrameType) : World C D → List Call → List Outcome
  | _, [] => []
  | w, c :: cs =>
    c.outcomes env ty w ++
      match c.run env ty w with
      | .ok w' => outcomes env ty w' cs
      | .error _ => []

theorem genOutcomes_added {env : Env C D} {ty : FrameType} (hsec : hasSecurity ty = true)
    {n t seq : UInt64} {w : World C D} {ms : List Mbuf} :
    ∀ o ∈ genOutcomes env ty n t seq w ms, o.added = [] ↔ o.due = false := by
  induction ms generalizing seq w with
  | nil => exact fun o ho => absurd ho (List.not_mem_nil)
  | cons m ms ih =>
    intro o ho
    rw [genOutcomes] at ho
    cases hone : genFrame env ty n seq t w m with
    | error e =>
      rw [hone] at ho
      cases ho
    | ok w' =>
      rw [hone] at ho
      rcases List.mem_cons.mp ho with rfl | ho
      · obtain ⟨p, -, -, -, htx⟩ := genFrame_secured_ok hsec hone
        simp [newlyAdded, htx]
      · exact ih o ho

theorem conclude_forward (env : Env C D) (ty : FrameType) (hmirror : env.mirrorMode = true)
    (w : World C D) (r : Received C D) (lay : Layout) {w' : World C D} {d : Option Mbuf}
    (h : (rxHandler env ty).conclude env w r ⟨false, false, false⟩ lay = .ok (w', d)) : d = none := by
  simp only [RxHandler.conclude, hmirror, Bool.not_true, Bool.false_eq_true, if_false] at h
  cases h
  rfl

/-- A mirror queues the frames it finds nothing wrong with, and no others. -/
theorem accept_passes {env : Env C D} {ty : FrameType} {s : RxState C D} {m : Mbuf} {lay : Layout}
    {out : Handled C D} (h : (rxHandler env ty).accept env s.world s.plaintext m lay = .ok out) :
    if passes env ty s m lay then
      ∃ q, out.world.tx = lportTxBufferAdd env.dev s.world.tx q ∧
        Forwards env ty s.world s.plaintext m lay q
    else out.world.tx = s.world.tx := by
  obtain ⟨r, w1, hdec, hcount, hcon, -⟩ := accept_ok h
  have htx := account_tx hdec hcount
  unfold passes
  rw [hdec]
  rcases conclude_fate env ty hcon with ⟨hd, x, l, hw⟩ | ⟨-, hmirror, hv, hw⟩
  · rw [if_neg, hw, World.say_tx, World.setRx_tx, htx]
    intro hpass
    obtain ⟨hmirror, hv⟩ : env.mirrorMode = true ∧
        (rxHandler env ty).verdict r = ⟨false, false, false⟩ := by simpa using hpass
    rw [hv] at hcon
    rw [conclude_forward env ty hmirror w1 r lay hcon] at hd
    cases hd
  · have hfw := forward_world env ty (w1.setRx (w1.thread.rxSequenceCounter + 1)) r.mbuf lay
    rw [if_pos (by simp [hmirror, hv])]
    refine ⟨_, ?_, r, w1, hdec, hcount, hmirror, hv, rfl⟩
    rw [hw, World.enqueue, hfw.2.2.1, World.setRx_tx, htx]

/-- One pass of the receive loop: the frame is refused, or accepted with one outcome. -/
theorem rxOne_outcome {env : Env C D} {ty : FrameType} {s s' : RxState C D} {m : Mbuf}
    {d : Option Mbuf} (h : rxOne env (rxHandler env ty) s m = .ok (s', d)) :
    (rxOutcome env ty s m s'.world = [] ∧ ∃ e, s'.world = s.world.say [e]) ∨
      ∃ expected lay out, (rxHandler env ty).check s.expectedFrameLength m = (expected, .ok lay) ∧
        (rxHandler env ty).accept env s.world s.plaintext m lay = .ok out ∧ s'.world = out.world ∧
        rxOutcome env ty s m s'.world = [⟨passes env ty s m lay,
          (sealAgain env (env.app.cls ty) s.world m lay.off
            (env.mirrorStamp (s.world.now env))).ret, newlyAdded s.world s'.world⟩] := by
  unfold rxOne at h
  unfold rxOutcome
  cases hc : (rxHandler env ty).check s.expectedFrameLength m with
  | mk expected res =>
    rw [hc] at h
    cases res with
    | error entry =>
      cases h
      exact Or.inl ⟨rfl, entry, rfl⟩
    | ok lay =>
      obtain ⟨out, hacc, h⟩ := bind_ok_iff.mp h
      cases h
      exact Or.inr ⟨expected, lay, out, rfl, hacc, rfl, rfl⟩

theorem rxOutcomes_added {env : Env C D} {ty : FrameType} {s : RxState C D} {ms : List Mbuf} :
    ∀ o ∈ rxOutcomes env ty s ms, o.added = [] ↔ o.due = false := by
  induction ms generalizing s with
  | nil => exact fun o ho => absurd ho List.not_mem_nil
  | cons m ms ih =>
    intro o ho
    rw [rxOutcomes] at ho
    cases hone : rxOne env (rxHandler env ty) s m with
    | error e =>
      rw [hone] at ho
      cases ho
    | ok p =>
      rw [hone] at ho
      rcases List.mem_append.mp ho with ho | ho
      · rcases rxOne_outcome hone with ⟨hnone, -⟩ | ⟨expected, lay, out, -, hacc, hw, hsome⟩
        · rw [hnone] at ho
          cases ho
        · rw [hsome] at ho
          obtain rfl := List.mem_singleton.mp ho
          have htx := accept_passes hacc
          simp only [newlyAdded, hw]
          cases hp : passes env ty s m lay with
          | false =>
            rw [hp, if_neg Bool.false_ne_true] at htx
            simp [htx]
          | true =>
            rw [hp, if_pos rfl] at htx
            obtain ⟨q, hq, -⟩ := htx
            simp [hq]
      · exact ih o ho

/-- **Error ignored.**  In every run a frame is added to the transmit buffer
exactly if it is to be sent, whatever `security_encrypt` returned for it. -/
theorem added_iff {env : Env C D} {ty : FrameType} (hsec : hasSecurity ty = true) {w : World C D}
    {cs : List Call} : ∀ o ∈ outcomes env ty w cs, o.added = [] ↔ o.due = false := by
  induction cs generalizing w with
  | nil => exact fun o ho => absurd ho List.not_mem_nil
  | cons c cs ih =>
    intro o ho
    rcases List.mem_append.mp ho with ho | ho
    · cases c with
      | generate numFrames mbufs =>
        cases mbufs with
        | none => cases ho
        | some ms =>
          simp only [Call.outcomes] at ho
          split at ho
          · cases ho
          · exact genOutcomes_added hsec o ho
      | receive stack ms => exact rxOutcomes_added o ho
      | send => cases ho
    · cases hrun : c.run env ty w with
      | error e =>
        rw [hrun] at ho
        cases ho
      | ok w' =>
        rw [hrun] at ho
        exact ih o ho

/-! ## Runs -/

/-- What holds of a thread as long as no sealing of a frame to be sent fails. -/
structure Inv (env : Env C D) (key : C → K) (k : K) (ty : FrameType) (w : World C D) : Prop where
  txKey : key w.thread.txSecurityContext = k
  rxKey : key w.thread.rxSecurityContext = k
  setUp : SetUp env.app ty w.thread
  within : w.tx.Within
  added : ∀ f ∈ w.tx.added, Protected env.evp key k (env.app.cls ty) f

section run
variable {env : Env C D} {key : C → K} {k : K} {ty : FrameType} {w w' : World C D}

theorem fresh_inv (env : Env C D) (key : C → K) (ty : FrameType) (ctx : C) (dev : D) :
    Inv env key (key ctx) ty (World.fresh env ty ctx dev) where
  txKey := rfl
  rxKey := rfl
  setUp := ⟨rfl, rfl⟩
  within := by
    intro f hf
    rcases hf with hf | hf <;> cases hf
  added := fun f hf => absurd hf List.not_mem_nil

/-- The invariant looks at contexts, payload buffer and transmit buffer only. -/
theorem Inv.add (hi : Inv env key k ty w) {q : Mbuf}
    (hq : Protected env.evp key k (env.app.cls ty) q)
    (htx : w'.tx = lportTxBufferAdd env.dev w.tx q)
    (htxKey : key w'.thread.txSecurityContext = k) (hrxKey : key w'.thread.rxSecurityContext = k)
    (hset : SetUp env.app ty w'.thread) : Inv env key k ty w' := by
  refine ⟨htxKey, hrxKey, hset, ?_, fun f hf => ?_⟩
  · rw [htx]
    exact lportTxBufferAdd_within env.dev _ _ hi.within
  · rw [htx, lportTxBufferAdd_added] at hf
    rcases List.mem_append.mp hf with hf | hf
    · exact hi.added f hf
    · obtain rfl := List.mem_singleton.mp hf
      exact hq

theorem Inv.genFrame (hi : Inv env key k ty w) (hl : env.evp.Sound key) (hs : Secured env.app ty)
    {n seq t : UInt64} {m : Mbuf} (h : genFrame env ty n seq t w m = .ok w')
    (hret : genRet env ty n seq t w m = 0) : Inv env key k ty w' := by
  obtain ⟨p, hp, hthread, -, htx⟩ := genFrame_secured_ok hs.hasSecurity h
  rw [genRet, hp] at hret
  have hkey : key p.ctx = k := by
    rw [(prepare_genSealed hs hp).1, ← hi.txKey]
    exact hl.encrypt_key _ _ _ _
  refine hi.add (generated_protected hl hs hi.setUp hi.txKey hp hret) htx ?_ ?_ ?_
  · rw [hthread]
    exact hkey
  · rw [hthread]
    exact hi.rxKey
  · rw [hthread]
    exact ⟨hi.setUp.payload, hi.setUp.length⟩

theorem Inv.genFrames (hi : Inv env key k ty w) (hl : env.evp.Sound key) (hs : Secured env.app ty)
    {n seq t : UInt64} {ms : List Mbuf} (h : genFrames env ty n t seq w ms = .ok w')
    (hret : ∀ o ∈ genOutcomes env ty n t seq w ms, o.due = true → o.ret = 0) :
    Inv env key k ty w' := by
  induction ms generalizing seq w with
  | nil =>
    cases h
    exact hi
  | cons m ms ih =>
    rw [Generate.genFrames] at h
    obtain ⟨w1, hone, h⟩ := bind_ok_iff.mp h
    rw [genOutcomes, hone] at hret
    have hi1 := hi.genFrame hl hs hone (hret _ List.mem_cons_self rfl)
    exact ih hi1 h fun o ho => hret o (List.mem_cons_of_mem _ ho)

/-- Handling a frame changes receive counter and receive context of the thread
only, and keeps the key. -/
theorem accept_thread (hl : env.evp.Sound key) (hm : env.app.mode ty ≠ .none) {stack : Mem UInt8}
    {m : Mbuf} {lay : Layout} {out : Handled C D}
    (h : (rxHandler env ty).accept env w stack m lay = .ok out) :
    ∃ x c, key c = key w.thread.rxSecurityContext ∧
      out.world.thread = { w.thread with rxSequenceCounter := x, rxSecurityContext := c } := by
  obtain ⟨r, w1, hdec, hcount, hcon, -⟩ := accept_ok h
  have hthread : w1.thread = r.world.thread := by
    rw [(account_ok hcount).2]
    rfl
  rw [(decode_resealed hm hdec).thread] at hthread
  have hkey : key (sealAgain env (env.app.cls ty) w m lay.off (env.mirrorStamp (w.now env))).ctx =
      key w.thread.rxSecurityContext := by
    refine (hl.encrypt_key _ _ _ _).trans ?_
    unfold openFrame
    split <;> exact hl.decrypt_key _ _ _ _ _
  rcases conclude_fate env ty hcon with ⟨-, x, l, hw⟩ | ⟨-, -, -, hw⟩
  · refine ⟨x, _, hkey, ?_⟩
    rw [hw, World.say_thread, World.setRx, hthread]
  · refine ⟨w1.thread.rxSequenceCounter + 1, _, hkey, ?_⟩
    rw [hw, World.enqueue_thread, (forward_world env ty _ _ _).1, World.setRx, hthread]

theorem Inv.rxOne {s s' : RxState C D} (hi : Inv env key k ty s.world) (hl : env.evp.Sound key)
    (hs : Secured env.app ty) (hexp : s.expectedFrameLength = (env.app.cls ty).frameLength)
    {m : Mbuf} (htag : m.tagged = true) {d : Option Mbuf}
    (h : rxOne env (rxHandler env ty) s m = .ok (s', d))
    (hret : ∀ o ∈ rxOutcome env ty s m s'.world, o.due = true → o.ret = 0) :
    Inv env key k ty s'.world ∧ s'.expectedFrameLength = (env.app.cls ty).frameLength := by
  have hv := (secure_class hs.hasSecurity).1
  refine ⟨?_, ?_⟩
  · rcases rxOne_outcome h with ⟨-, e, hw⟩ | ⟨expected, lay, out, hc, hacc, hw, hsome⟩
    · rw [hw]
      exact ⟨hi.txKey, hi.rxKey, hi.setUp, hi.within, hi.added⟩
    · rw [hsome] at hret
      obtain ⟨-, hlen, rfl⟩ := check_vlan_ok hv hc
      have hlay : layoutOf m = ⟨18, false⟩ := by simp [layoutOf, ethHeaderSize, htag]; rfl
      rw [lowers_tagged ty htag, UInt64.sub_zero, hexp] at hlen
      obtain ⟨x, c, hkey, hthread⟩ := accept_thread hl hs.mode hacc
      have hset : SetUp env.app ty out.world.thread := by
        rw [hthread]
        exact ⟨hi.setUp.payload, hi.setUp.length⟩
      have htxKey : key out.world.thread.txSecurityContext = k := by
        rw [hthread]
        exact hi.txKey
      have hrxKey : key out.world.thread.rxSecurityContext = k := by
        rw [hthread]
        exact hkey.trans hi.rxKey
      have htx := accept_passes hacc
      rw [hw]
      split at htx
      · rename_i hpass
        obtain ⟨q, hq, hfwd⟩ := htx
        have hzero := hret _ List.mem_cons_self hpass
        rw [hlay] at hfwd hzero
        exact hi.add (forwarded_protected hl hs hi.setUp hi.rxKey (congrArg _ hlen) hfwd hzero) hq
          htxKey hrxKey hset
      · refine ⟨htxKey, hrxKey, hset, ?_, ?_⟩
        · rw [htx]
          exact hi.within
        · rw [htx]
          exact hi.added
  · rw [rxOne_expected env ty hv h, lowers_tagged ty htag, UInt64.sub_zero, hexp]

theorem Inv.rxBurst {s s' : RxState C D} (hi : Inv env key k ty s.world) (hl : env.evp.Sound key)
    (hs : Secured env.app ty) (hexp : s.expectedFrameLength = (env.app.cls ty).frameLength)
    {ms fs : List Mbuf} (htag : ∀ m ∈ ms, m.tagged = true)
    (h : rxBurst env (rxHandler env ty) s ms = .ok (s', fs))
    (hret : ∀ o ∈ rxOutcomes env ty s ms, o.due = true → o.ret = 0) :
    Inv env key k ty s'.world := by
  induction ms generalizing s fs with
  | nil =>
    cases h
    exact hi
  | cons m ms ih =>
    obtain ⟨s1, d, gs, hone, hrest, -⟩ := rxBurst_cons_ok h
    rw [rxOutcomes, hone] at hret
    obtain ⟨hi1, hexp1⟩ := hi.rxOne hl hs hexp (htag m List.mem_cons_self) hone
      fun o ho => hret o (List.mem_append_left _ ho)
    exact ih hi1 hexp1 (fun m' hm' => htag m' (List.mem_cons_of_mem _ hm')) hrest
      fun o ho => hret o (List.mem_append_right _ ho)

theorem Inv.flush (hi : Inv env key k ty w) (htx : w'.tx = lportSend env.dev w.tx)
    (htxKey : w'.thread.txSecurityContext = w.thread.txSecurityContext)
    (hrxKey : w'.thread.rxSecurityContext = w.thread.rxSecurityContext)
    (hset : SetUp env.app ty w'.thread) : Inv env key k ty w' := by
  refine ⟨htxKey ▸ hi.txKey, hrxKey ▸ hi.rxKey, hset, ?_, ?_⟩
  · rw [htx]
    exact lportTxBufferFlush_within env.dev _ hi.within
  · rw [htx]
    exact hi.added

/-- The received frames of a call carry their VLAN tag. -/
def Call.Tagged : Call → Prop
  | .receive _ ms => ∀ m ∈ ms, m.tagged = true
  | _ => True

theorem Inv.call (hi : Inv env key k ty w) (hl : env.evp.Sound key) (hs : Secured env.app ty)
    {c : Call} (htag : c.Tagged) (h : c.run env ty w = .ok w')
    (hret : ∀ o ∈ c.outcomes env ty w, o.due = true → o.ret = 0) : Inv env key k ty w' := by
  cases c with
  | generate numFrames mbufs =>
    simp only [Call.run, genAndSendFrames] at h
    split at h
    · cases h
      exact hi
    · rename_i hsome
      cases mbufs with
      | none =>
        cases h
        exact ⟨hi.txKey, hi.rxKey, hi.setUp, hi.within, hi.added⟩
      | some ms =>
        simp only [bind, Except.bind] at h
        simp only [Call.outcomes, hsome, if_false] at hret
        split at h
        · cases h
        · rename_i w1 hgen
          have hi0 : Inv env key k ty w.tick := ⟨hi.txKey, hi.rxKey, hi.setUp, hi.within, hi.added⟩
          have hi1 := hi0.genFrames hl hs hgen hret
          cases h
          exact hi1.flush rfl rfl rfl ⟨hi1.setUp.payload, hi1.setUp.length⟩
  | receive stack ms =>
    obtain ⟨p, hrx, rfl⟩ := map_ok_iff.mp h
    obtain ⟨t, fs, hb, ht⟩ := rxFrame_ok hrx
    rw [← ht]
    exact hi.rxBurst hl hs rfl htag hb hret
  | send =>
    obtain ⟨hthread, -, htx, -⟩ := sendFramesCommon_ok h
    exact hi.flush htx (by rw [hthread]) (by rw [hthread]) (hthread ▸ hi.setUp)

theorem Inv.calls (hi : Inv env key k ty w) (hl : env.evp.Sound key) (hs : Secured env.app ty)
    {cs : List Call} (htag : ∀ c ∈ cs, c.Tagged) (h : cs.foldlM (Call.run env ty) w = .ok w')
    (hret : ∀ o ∈ outcomes env ty w cs, o.due = true → o.ret = 0) : Inv env key k ty w' := by
  induction cs generalizing w with
  | nil =>
    cases h
    exact hi
  | cons c cs ih =>
    obtain ⟨w1, hc, hrest⟩ := foldlM_cons_ok.mp h
    rw [outcomes, hc] at hret
    have hi1 := hi.call hl hs (htag c List.mem_cons_self) hc
      fun o ho => hret o (List.mem_append_left _ ho)
    exact ih hi1 (fun c' hc' => htag c' (List.mem_cons_of_mem _ hc')) hrest
      fun o ho => hret o (List.mem_append_right _ ho)

end run

/-- A run that sends sealed frames only: a frame for which `security_encrypt`
returned an error is not added to the transmit buffer, and what the device got
verifies and, with encryption, carries ciphertext. -/
structure OnlySealed (env : Env C D) (key : C → K) (ty : FrameType) (ctx : C) (dev : D)
    (cs : List Call) (w : World C D) : Prop where
  unsealed : ∀ o ∈ outcomes env ty (World.fresh env ty ctx dev) cs, o.ret ≠ 0 → o.added = []
  verifies : ∀ f ∈ w.tx.sent, Verifies env.evp key (key ctx) (env.app.cls ty) f
  enciphered : env.app.mode ty = .ae →
    ∀ f ∈ w.tx.sent, Enciphered env.evp key (key ctx) (env.app.cls ty) f

/-- **Sealed frames only.**  In every run with tagged frames, a secured class
sends sealed frames only if and only if `security_encrypt` fails for no frame
that is to be sent. -/
theorem onlySealed_iff {env : Env C D} {key : C → K} (hl : env.evp.Sound key) {withMqtt : Bool}
    (hsane : configSanityCheck withMqtt env.app = .ok ()) {ty : FrameType}
    (hm : env.app.mode ty ≠ .none) {ctx : C} {dev : D} {cs : List Call}
    (htag : ∀ c ∈ cs, c.Tagged) {w : World C D}
    (hrun : cs.foldlM (Call.run env ty) (World.fresh env ty ctx dev) = .ok w) :
    OnlySealed env key ty ctx dev cs w ↔
      ∀ o ∈ outcomes env ty (World.fresh env ty ctx dev) cs, o.due = true → o.ret = 0 := by
  obtain ⟨hsec, hmode⟩ := hasSecurity_of_mode hm
  have hs := (checked_of_sane hsec hsane).secured hm
  constructor
  · intro h o ho hdue
    by_contra hret
    rw [(added_iff hsec o ho).mp (h.unsealed o ho hret)] at hdue
    cases hdue
  · intro hret
    have hi := (fresh_inv env key ty ctx dev).calls hl hs htag hrun hret
    refine ⟨fun o ho hne => ?_, fun f hf => ?_, fun hae f hf => ?_⟩
    · rw [added_iff hsec o ho]
      cases hdue : o.due with
      | false => rfl
      | true => exact absurd (hret o ho hdue) hne
    · exact (hi.added f (hi.within f (Or.inl hf))).verifies
    · exact (hi.added f (hi.within f (Or.inl hf))).enciphered (hmode ▸ hae)

/-! One cycle of an RTC reference in AE mode: under the small cipher, and under
one whose encryption call fails. -/

def brokenEvp : Evp DigestCtx :=
  { digestEvp with encryptUpdate := fun c _ => (false, [], c) }

theorem brokenEvp_sound : brokenEvp.Sound (fun _ : DigestCtx => ()) where
  encrypt_key _ _ _ _ := rfl
  decrypt_key _ _ _ _ _ := rfl
  tag_length c pt aad iv h := by
    cases pt with
    | none => exact digestEvp_lawful.tag_length c none aad iv
    | some pt => cases h
  ciphertext_length c pt aad iv h := by cases h
  open_auth c c' aad iv _ _ := digestEvp_lawful.open_auth c c' aad iv rfl
  open_seal c c' pt aad iv _ h := by cases h

def cipherNode (evp : Evp DigestCtx) : Env DigestCtx Unit :=
  { encryptedNode 80 defaultPattern with evp := evp }

def cycle : List Call := [.generate 1 (some [⟨0, fun _ => 0, 0, 0⟩])]

def cycled (evp : Evp DigestCtx) : Except Stop (World DigestCtx Unit) :=
  cycle.foldlM (Call.run (cipherNode evp) .rtc)
    (World.fresh (cipherNode evp) .rtc DigestCtx.fresh ())

/-- The payload bytes of the frames the device got. -/
def payloads (evp : Evp DigestCtx) : Option (List (List UInt8)) :=
  (cycled evp).toOption.map fun w => w.tx.sent.map fun f => slice f.data 44 7

theorem cycled_ok (evp : Evp DigestCtx) {l : List (List UInt8)} (h : payloads evp = some l) :
    ∃ w, cycled evp = .ok w ∧ (w.tx.sent.map fun f => slice f.data 44 7) = l := by
  unfold payloads at h
  cases hc : cycled evp with
  | error e =>
    rw [hc] at h
    cases h
  | ok w =>
    rw [hc] at h
    exact ⟨w, rfl, Option.some.inj h⟩

def cycleOutcomes (evp : Evp DigestCtx) : List Outcome :=
  outcomes (cipherNode evp) .rtc (World.fresh (cipherNode evp) .rtc DigestCtx.fresh ()) cycle

theorem onlySealed_cycle :
    ∃ w, cycled digestEvp = .ok w ∧ w.tx.sent.length = 1 ∧
      OnlySealed (cipherNode digestEvp) (fun _ => ()) .rtc DigestCtx.fresh () cycle w := by
  obtain ⟨w, hw, hsent⟩ := cycled_ok digestEvp (l := [List.replicate 7 0]) (by decide +kernel)
  refine ⟨w, hw, by simpa using congrArg List.length hsent, ?_⟩
  have hsane : configSanityCheck false (cipherNode digestEvp).app = .ok () := by rfl
  refine (onlySealed_iff digestEvp_lawful.sound hsane (by decide) ?_ hw).mpr ?_
  · intro c hc
    obtain rfl := List.mem_singleton.mp hc
    trivial
  · change ∀ o ∈ cycleOutcomes digestEvp, o.due = true → o.ret = 0
    decide +kernel

/-- The encryption fails, and the device gets the frame with its plaintext. -/
theorem unsealed_sent :
    brokenEvp.Sound (fun _ : DigestCtx => ()) ∧
      ∃ w, cycled brokenEvp = .ok w ∧
        (w.tx.sent.map fun f => slice f.data 44 7) = [defaultPattern] ∧
        ¬ OnlySealed (cipherNode brokenEvp) (fun _ => ()) .rtc DigestCtx.fresh () cycle w := by
  obtain ⟨w, hw, hsent⟩ := cycled_ok brokenEvp (l := [defaultPattern]) (by decide +kernel)
  refine ⟨brokenEvp_sound, w, hw, hsent, fun h => ?_⟩
  have hadded : (cycleOutcomes brokenEvp).any fun o => decide (o.ret ≠ 0) && !o.added.isEmpty := by
    decide +kernel
  obtain ⟨o, ho, hbad⟩ := List.any_eq_true.mp hadded
  simp only [Bool.and_eq_true, decide_eq_true_eq, Bool.not_eq_true'] at hbad
  rw [h.unsealed o ho hbad.1] at hbad
  cases hbad.2

end Rtdk.Unsealed
