import Rtdk.Unsealed

/-! Which bytes of a frame are authenticated and which are encrypted.

The ranges are worked out in three places: by the generator from the configured
length and from the payload length of the thread setup, by the receiver from the
length that arrived, and by the mirror, for its second sealing, from both.
`sealed_alike` says that on a frame of the configured length with its tag they
are the same ranges, whatever buffer the payload is read from and also where that
read ends the process, and that they leave out no byte between the Ethernet
header and the checksum. -/

namespace Rtdk.Extent
open Rtdk.Memory Rtdk.Endian Rtdk.NetDef Rtdk.Security Rtdk.Stat Rtdk.Lport Rtdk.Config Rtdk.Frame
open Rtdk.Thread Rtdk.Receive Rtdk.Handlers Rtdk.Checks Rtdk.Builder Rtdk.Decode Rtdk.Generate
open Rtdk.Sealing Rtdk.Reseal Rtdk.SecureTx Rtdk.Unsealed

variable {C D K : Type}

/-! ## Ranges -/

/-- The bytes from `lo` up to, not including, `hi`. -/
structure Range where
  lo : Nat
  hi : Nat
  deriving DecidableEq, Repr

def Range.length (r : Range) : Nat := r.hi - r.lo

def Range.Has (r : Range) (i : Nat) : Prop := r.lo ≤ i ∧ i < r.hi

def Range.bytes (r : Range) (data : Mem UInt8) : List UInt8 := slice data r.lo r.length

/-- Associated data, ciphertext if there is one, and checksum. -/
structure Extents where
  aad : Range
  ciphertext : Option Range
  checksum : Range
  deriving DecidableEq, Repr

/-- The ranges of a tagged frame of `len` bytes. -/
def extents (mode : SecurityMode) (len : Nat) : Extents :=
  match mode with
  | .ae => ⟨⟨18, 44⟩, some ⟨44, len - 16⟩, ⟨len - 16, len⟩⟩
  | .none | .ao => ⟨⟨18, len - 16⟩, none, ⟨len - 16, len⟩⟩

/-- `security_encrypt` on these ranges. -/
def Extents.sealed (e : Extents) (evp : Evp C) (ctx : C) (data : Mem UInt8)
    (plaintext : Option (List UInt8)) (iv : List UInt8) : Sealed C :=
  let aad := e.aad.bytes data
  let r := securityEncrypt evp ctx plaintext aad iv
  let data :=
    match e.ciphertext with
    | some c => write data c.lo r.ciphertext
    | none => data
  { ctx := r.ctx
    ret := r.ret
    data := write data e.checksum.lo r.tag
    call := ⟨iv.take securityIvLen, aad, plaintext⟩ }

/-- `security_decrypt` on these ranges. -/
def Extents.opened (e : Extents) (evp : Evp C) (ctx : C) (data : Mem UInt8) (iv : List UInt8) :
    DecryptResult C :=
  securityDecrypt evp ctx (e.ciphertext.map (·.bytes data)) (e.aad.bytes data)
    (e.checksum.bytes data) iv

/-- `security_encrypt` on these ranges with the first `length` bytes of the thread's payload
buffer as plaintext. A buffer that was never allocated ends the process where it is read. -/
def Extents.seal (e : Extents) (evp : Evp C) (ctx : C) (data : Mem UInt8)
    (payload : Option (Mem UInt8)) (length : UInt64) (iv : List UInt8) : Except Halt (Sealed C) :=
  match e.ciphertext, payload with
  | none, _ => .ok (e.sealed evp ctx data none iv)
  | some _, some buf => .ok (e.sealed evp ctx data (some (slice buf 0 length.toNat)) iv)
  | some _, none =>
    if length ≠ 0 ∧ readsPlaintext evp ctx (e.aad.bytes data) iv = true then .error .sigsegv
    else .ok (e.sealed evp ctx data (some []) iv)

/-! ## The three places -/

/-- The sealing of a generated frame on the ranges `e`. -/
def Extents.sealNew (e : Extents) (env : Env C D) (ty : FrameType) (thread : ThreadContext C)
    (m : Mbuf) (n seq t : UInt64) : Except Halt (Sealed C) :=
  e.seal env.evp thread.txSecurityContext
    (stampMetaData (initializeFrame env.app env.mac ty m).data 28 seq n t) thread.payloadPattern
    thread.payloadPatternLength (prepareIv (env.app.cls ty).securityIvPrefix seq)

/-- Opening a received frame on the ranges `e`. -/
def Extents.openReceived (e : Extents) (env : Env C D) (ty : FrameType)
    (thread : ThreadContext C) (m : Mbuf) : DecryptResult C :=
  e.opened env.evp thread.rxSecurityContext m.data (rxIv (env.app.cls ty) m 18)

/-- The second sealing of a received frame on the ranges `e`, with time stamp `t`. -/
def Extents.sealReceived (e : Extents) (env : Env C D) (ty : FrameType)
    (thread : ThreadContext C) (m : Mbuf) (t : UInt64) : Except Halt (Sealed C) :=
  e.seal env.evp (e.openReceived env ty thread m).ctx (txTimestampToMetaData m.data 28 t)
    thread.payloadPattern thread.payloadPatternLength (rxIv (env.app.cls ty) m 18)

/-- Generator, receiver and mirror of a class work on the ranges `e` of frames of
`len` bytes. -/
structure SealedAlike (env : Env C D) (ty : FrameType) (len : Nat) (e : Extents) : Prop where
  /-- The payload length of the thread setup, which the generator and the mirror use. -/
  amount : ∀ {thread : ThreadContext C}, SetUp env.app ty thread → ∀ c, e.ciphertext = some c →
    thread.payloadPatternLength.toNat = c.length
  /-- A generated frame, in any thread. -/
  sender : ∀ (n seq t : UInt64) (w : World C D) (m : Mbuf),
    let frame := prepareFrame env ty n seq t w (initializeFrame env.app env.mac ty m)
    (∀ reason, e.sealNew env ty w.thread m n seq t = .error reason →
      frame = .error ⟨reason, w.log⟩) ∧
    ∀ s, e.sealNew env ty w.thread m n seq t = .ok s → ∃ w' f, frame = .ok (w', f) ∧
      f.data = s.data ∧ w'.thread.txSecurityContext = s.ctx ∧ w'.seals = w.seals ++ [s.call]
  /-- A received frame: what `security_decrypt` returns decides on a line in the log, and what
  it decrypts is compared to the pattern. -/
  receiver : ∀ (w : World C D) (p : Mem UInt8) (m : Mbuf), m.len.toNat = len → m.tagged = true →
    let opened := e.openReceived env ty w.thread m
    (∃ entry, ∀ stop, (rxHandler env ty).decode w p m (layoutOf m) = .error stop →
      stop.log = w.log ++ complain opened.ret entry) ∧
    ∀ r, (rxHandler env ty).decode w p m (layoutOf m) = .ok r →
      r.authRet = opened.ret ∧ (e.ciphertext ≠ none → r.payload =
        slice (write p 0 opened.plaintext) 0 (env.app.cls ty).payloadPattern.length)
  /-- The second sealing of a received frame. -/
  mirror : ∀ (w : World C D) (p : Mem UInt8) (m : Mbuf), m.len.toNat = len → m.tagged = true →
    let again := e.sealReceived env ty w.thread m (env.mirrorStamp (w.now env))
    (∀ reason, again = .error reason →
      ∃ log, (rxHandler env ty).decode w p m (layoutOf m) = .error ⟨reason, log⟩) ∧
    ∀ s, again = .ok s → ∃ r, (rxHandler env ty).decode w p m (layoutOf m) = .ok r ∧
      r.mbuf.data = s.data ∧ r.world.thread.rxSecurityContext = s.ctx ∧
      r.world.seals = w.seals ++ [s.call]

/-- The ranges of a frame of `len` bytes leave out nothing between the Ethernet
header and the checksum, and the time stamp a mirror writes is authenticated. -/
structure Covering (len : Nat) (e : Extents) : Prop where
  covers : ∀ i, 18 ≤ i ∧ i < len - 16 ↔ e.aad.Has i ∨ ∃ c, e.ciphertext = some c ∧ c.Has i
  disjoint : ∀ i c, e.ciphertext = some c → ¬ (e.aad.Has i ∧ c.Has i)
  checksum : e.checksum = ⟨len - 16, len⟩
  stamp : ∀ data t i, txTimestampToMetaData data 28 t i ≠ data i → e.aad.Has i
  stamped : ∀ i, 36 ≤ i → i < 44 → e.aad.Has i

theorem extents_covering (mode : SecurityMode) {len : Nat} (h : 60 ≤ len) :
    Covering len (extents mode len) := by
  have hstamp (data : Mem UInt8) (t : UInt64) (i : Nat)
      (hi : txTimestampToMetaData data 28 t i ≠ data i) : 36 ≤ i ∧ i < 44 := by
    by_contra hout
    apply hi
    exact write_outside _ _ _ _ (by rw [be64_length]; omega)
  cases mode with
  | ae =>
    refine ⟨fun i => ?_, ?_, rfl, fun data t i hi => ?_, fun i h36 h44 => ?_⟩
    · simp only [extents, Range.Has, Option.some.injEq, exists_eq_left']
      omega
    · rintro i c ⟨⟩
      simp only [extents, Range.Has]
      omega
    · have := hstamp data t i hi
      exact ⟨by simp only [extents]; omega, by simp only [extents]; omega⟩
    · exact ⟨by simp only [extents]; omega, by simp only [extents]; omega⟩
  | none | ao =>
    refine ⟨fun i => ?_, fun i c hc => (nomatch hc), rfl, fun data t i hi => ?_, fun i h36 h44 => ?_⟩
    · simp only [extents, Range.Has, reduceCtorEq, false_and, exists_false, or_false]
    · have := hstamp data t i hi
      exact ⟨by simp only [extents]; omega, by simp only [extents]; omega⟩
    · exact ⟨by simp only [extents]; omega, by simp only [extents]; omega⟩

section places
variable {env : Env C D} {ty : FrameType}

/-- Authenticating in place is sealing on the ranges. -/
theorem seal_ao {len : Nat} (hlen : 60 ≤ len) (evp : Evp C) (ctx : C) (data : Mem UInt8)
    (payload : Option (Mem UInt8)) (length : UInt64) (iv : List UInt8) :
    (extents .ao len).seal evp ctx data payload length iv =
      .ok (sealFrame evp ctx data none iv 18 (len - 18 - 16) 0 (len - 16)) := by
  have hcovered : len - 16 - 18 = len - 18 - 16 := by omega
  simp only [Extents.seal, extents, Extents.sealed, sealFrame, Range.bytes, Range.length, hcovered,
    securityEncrypt_none_ciphertext, write_nil]

/-- Encrypting in place is sealing on the ranges. -/
theorem seal_ae {len : Nat} (evp : Evp C) (ctx : C) (data : Mem UInt8)
    (payload : Option (Mem UInt8)) (length : UInt64) (iv : List UInt8) :
    (extents .ae len).seal evp ctx data payload length iv =
      sealPayload evp ctx data payload length iv 18 26 44 (len - 16) := by
  cases payload with
  | some buf => rfl
  | none => rfl

theorem openFrame_extents {c : ClassConfig} {ctx : C} {m : Mbuf} (hlen : 60 ≤ m.len.toNat)
    (evp : Evp C) :
    openFrame evp c ctx m 18 =
      (extents c.securityMode m.len.toNat).opened evp ctx m.data (rxIv c m 18) := by
  have haad : (aadSize m.len 18).toNat = m.len.toNat - 16 - 18 := by
    rw [aadSize_toNat (by omega)]
    omega
  have hpay : (payloadSize m.len).toNat = m.len.toNat - 16 - 44 := by
    rw [payloadSize_toNat hlen]
    omega
  have htag : m.len.toNat - (m.len.toNat - 16) = 16 := by omega
  unfold openFrame Extents.opened
  cases hmode : c.securityMode with
  | ae =>
    simp only [aeOpen, extents, Option.map_some, Range.bytes, Range.length, hpay, htag,
      checksumOff, sizeofSecurityChecksum, sizeofProfinetSecureHeader]
  | none | ao =>
    simp only [aoOpen, extents, Option.map_none, Range.bytes, Range.length, haad, htag,
      checksumOff, sizeofSecurityChecksum]

/-- The generator's call. -/
theorem prepareFrameForTx_seal (hs : Secured env.app ty) (thread : ThreadContext C) (m : Mbuf)
    (n seq t : UInt64) :
    prepareFrameForTx env.evp
        (prepareConfig env ty thread (initializeFrame env.app env.mac ty m) n seq t) =
      ((extents (env.app.mode ty) (env.app.cls ty).frameLength.toNat).sealNew env ty thread m n seq
        t).map .ofSealed := by
  have hlen := (initializeFrame_len hs env.mac m).1
  have hlow := hs.low
  have hne := hs.mode
  rw [hs.securityMode] at hne ⊢
  cases hmode : (env.app.cls ty).securityMode with
  | none => exact absurd hmode hne
  | ao =>
    simp only [prepareFrameForTx, prepareConfig, hmode, hlen, Extents.sealNew, seal_ao hlow]
    rfl
  | ae =>
    simp only [prepareFrameForTx, prepareConfig, hmode, hlen, Extents.sealNew, seal_ae]
    rfl

/-- The receiver's calls, and what becomes of their results. -/
theorem decode_seal (hs : Secured env.app ty) {w : World C D} {p : Mem UInt8} {m : Mbuf}
    (hlen : m.len.toNat = (env.app.cls ty).frameLength.toNat) (ht : m.tagged = true) :
    let e := extents (env.app.mode ty) (env.app.cls ty).frameLength.toNat
    ∃ entry, (∀ reason, e.sealReceived env ty w.thread m (env.mirrorStamp (w.now env)) =
        .error reason → (rxHandler env ty).decode w p m (layoutOf m) =
          .error ⟨reason, w.log ++ complain (e.openReceived env ty w.thread m).ret entry⟩) ∧
      ∀ s, e.sealReceived env ty w.thread m (env.mirrorStamp (w.now env)) = .ok s →
        ∃ r, (rxHandler env ty).decode w p m (layoutOf m) = .ok r ∧
          (r.mbuf.data = s.data ∧ r.world.thread.rxSecurityContext = s.ctx ∧
            r.world.seals = w.seals ++ [s.call]) ∧
          r.authRet = (e.openReceived env ty w.thread m).ret ∧
          (e.ciphertext ≠ none → r.payload =
            slice (write p 0 (e.openReceived env ty w.thread m).plaintext) 0
              (env.app.cls ty).payloadPattern.length) := by
  intro e
  obtain ⟨ao, ae, hdecode⟩ := decode_secured env hs.hasSecurity
  have hoff : (layoutOf m).off = 18 := by
    simp [layoutOf, ethHeaderSize, ht, sizeofVlanEthernetHeader]
  have hlow : 60 ≤ m.len.toNat := by
    rw [hlen]
    exact hs.low
  have hne := hs.mode
  have hopen : openFrame env.evp (env.app.cls ty) w.thread.rxSecurityContext m 18 =
      e.openReceived env ty w.thread m := by
    rw [openFrame_extents hlow, hlen, ← hs.securityMode]
    rfl
  have haad : (aadSize m.len 18).toNat = (env.app.cls ty).frameLength.toNat - 18 - 16 := by
    rw [aadSize_toNat (by omega), hlen]
  have htag : checksumOff m = (env.app.cls ty).frameLength.toNat - 16 := by
    rw [checksumOff, hlen]
    rfl
  rw [hs.securityMode] at hne
  cases hmode : (env.app.cls ty).securityMode with
  | none => exact absurd hmode hne
  | ao =>
    have he : e = extents .ao (env.app.cls ty).frameLength.toNat := by
      rw [← hmode, ← hs.securityMode]
    have hopened : aoOpen env.evp (env.app.cls ty) w.thread.rxSecurityContext m 18 =
        e.openReceived env ty w.thread m := by
      rw [← hopen, openFrame, hmode]
    have hsealed := seal_ao hs.low env.evp (e.openReceived env ty w.thread m).ctx
      (txTimestampToMetaData m.data 28 (env.mirrorStamp (w.now env))) w.thread.payloadPattern
      w.thread.payloadPatternLength (rxIv (env.app.cls ty) m 18)
    rw [← he] at hsealed
    refine ⟨ao (rxCounter (env.app.cls ty) m 18), fun reason h => ?_, fun s h => ?_⟩
    · rw [Extents.sealReceived, hsealed] at h
      cases h
    · rw [Extents.sealReceived, hsealed] at h
      cases h
      rw [hdecode]
      simp only [profinetDecode, hmode, aoDecode, hoff, World.tick_thread, hopened, haad, htag]
      refine ⟨_, rfl, ⟨rfl, rfl, rfl⟩, rfl, fun hne => absurd ?_ hne⟩
      rw [he]
      rfl
  | ae =>
    have he : e = extents .ae (env.app.cls ty).frameLength.toNat := by
      rw [← hmode, ← hs.securityMode]
    have hopened : aeOpen env.evp (env.app.cls ty) w.thread.rxSecurityContext m 18 =
        e.openReceived env ty w.thread m := by
      rw [← hopen, openFrame, hmode]
    have hsealed : sealPayload env.evp (e.openReceived env ty w.thread m).ctx
        (txTimestampToMetaData m.data (18 + 10) (env.mirrorStamp (w.now env)))
        w.thread.payloadPattern w.thread.payloadPatternLength (rxIv (env.app.cls ty) m 18) 18
        sizeofProfinetSecureHeader (18 + sizeofProfinetSecureHeader)
        ((env.app.cls ty).frameLength.toNat - 16) =
          e.sealReceived env ty w.thread m (env.mirrorStamp (w.now env)) := by
      rw [he]
      exact (seal_ae env.evp _ _ _ _ _).symm
    refine ⟨ae (rxCounter (env.app.cls ty) m 18), fun reason h => ?_, fun s h => ?_⟩
    · rw [h] at hsealed
      rw [hdecode]
      simp only [profinetDecode, hmode, aeDecode, hoff, World.tick_thread, hopened, htag, hsealed]
      rfl
    · rw [h] at hsealed
      rw [hdecode]
      simp only [profinetDecode, hmode, aeDecode, hoff, World.tick_thread, hopened, htag, hsealed]
      exact ⟨_, rfl, ⟨rfl, rfl, rfl⟩, rfl, fun _ => rfl⟩

theorem extents_ciphertext {mode : SecurityMode} {len : Nat} {c : Range}
    (h : (extents mode len).ciphertext = some c) : mode = .ae ∧ c = ⟨44, len - 16⟩ := by
  cases mode with
  | ae => exact ⟨rfl, (Option.some.inj h).symm⟩
  | none => cases h
  | ao => cases h

/-- **Sealed extents.**  In every secured class generator, receiver and mirror
agree on what is authenticated and what is encrypted. -/
theorem sealed_alike (hs : Secured env.app ty) :
    SealedAlike env ty (env.app.cls ty).frameLength.toNat
        (extents (env.app.mode ty) (env.app.cls ty).frameLength.toNat) ∧
      Covering (env.app.cls ty).frameLength.toNat
        (extents (env.app.mode ty) (env.app.cls ty).frameLength.toNat) := by
  refine ⟨⟨?_, ?_, ?_, ?_⟩, extents_covering _ hs.low⟩
  · intro thread hset c hc
    obtain ⟨-, rfl⟩ := extents_ciphertext hc
    have hlength : (env.app.cls ty).frameLength.toNat - 60 =
        (env.app.cls ty).frameLength.toNat - 16 - 44 := by omega
    rw [hset.length, threadSetup_length hs, hlength]
    rfl
  · intro n seq t w m frame
    have hseal := prepareFrameForTx_seal hs w.thread m n seq t
    refine ⟨fun reason h => ?_, fun s h => ?_⟩
    · rw [h] at hseal
      simp only [frame, prepareFrame, if_pos hs.hasSecurity, hseal]
      rfl
    · rw [h] at hseal
      simp only [frame, prepareFrame, if_pos hs.hasSecurity, hseal]
      exact ⟨_, _, rfl, rfl, rfl, rfl⟩
  · intro w p m hlen ht opened
    obtain ⟨entry, herror, hok⟩ := decode_seal (p := p) hs hlen ht
    cases hagain : (extents (env.app.mode ty) (env.app.cls ty).frameLength.toNat).sealReceived env ty
        w.thread m (env.mirrorStamp (w.now env)) with
    | error reason =>
      have hdec := herror reason hagain
      refine ⟨⟨entry, fun stop h => ?_⟩, fun r h => ?_⟩
      · rw [hdec] at h
        cases h
        rfl
      · rw [hdec] at h
        cases h
    | ok s =>
      obtain ⟨r', hdec, -, hreads⟩ := hok s hagain
      refine ⟨⟨entry, fun stop h => ?_⟩, fun r h => ?_⟩
      · rw [hdec] at h
        cases h
      · rw [hdec] at h
        cases h
        exact hreads
  · intro w p m hlen ht again
    obtain ⟨entry, herror, hok⟩ := decode_seal (p := p) hs hlen ht
    refine ⟨fun reason h => ⟨_, herror reason h⟩, fun s h => ?_⟩
    obtain ⟨r, hdec, hsealed, -⟩ := hok s h
    exact ⟨r, hdec, hsealed⟩

end places

/-- RTC frames of 80 bytes: 26 authenticated bytes, 20 encrypted ones. -/
theorem sealed_alike_rtc :
    SealedAlike (Env.small (AppConfig.small .ae 80 1 []) true) .rtc 80
        ⟨⟨18, 44⟩, some ⟨44, 64⟩, ⟨64, 80⟩⟩ ∧
      Covering 80 ⟨⟨18, 44⟩, some ⟨44, 64⟩, ⟨64, 80⟩⟩ :=
  @sealed_alike DigestCtx Unit (Env.small (AppConfig.small .ae 80 1 []) true) .rtc
    ⟨by decide, by decide, by decide⟩

end Rtdk.Extent
