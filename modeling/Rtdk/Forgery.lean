import Rtdk.SecureTx

/-! Frames whose authentication fails.

The secured handlers test the return value of `security_decrypt` and log a
warning, and that is all: the frame goes on through the later checks, and before
them it has been sealed again with the node's own key (`decode_verifies`). So
there is no state and no frame for which a forged frame is rejected
(`forged_not_rejected`). -/

namespace Rtdk.Forgery
open Rtdk.Memory Rtdk.Endian Rtdk.NetDef Rtdk.Security Rtdk.Stat Rtdk.Lport Rtdk.Config Rtdk.Frame
open Rtdk.Thread Rtdk.Receive Rtdk.Handlers Rtdk.Checks Rtdk.Builder Rtdk.Decode Rtdk.Sealing
open Rtdk.Reseal Rtdk.SecureTx

variable {C D K : Type}

/-- `security_decrypt` on everything between the Ethernet header and the checksum. On a tagged
frame it is the handler's own call; of an untagged one in AE the handler leaves out four
bytes. -/
def openWhole (evp : Evp C) (c : ClassConfig) (ctx : C) (m : Mbuf) (off : Nat) : DecryptResult C :=
  match c.securityMode with
  | .ae =>
    let payload := off + sizeofProfinetSecureHeader
    securityDecrypt evp ctx (some (slice m.data payload (checksumOff m - payload)))
      (slice m.data off sizeofProfinetSecureHeader)
      (slice m.data (checksumOff m) sizeofSecurityChecksum) (rxIv c m off)
  | _ => aoOpen evp c ctx m off

theorem openWhole_eq_openFrame (evp : Evp C) (c : ClassConfig) (ctx : C) {m : Mbuf}
    (hlen : 60 ≤ m.len.toNat) : openWhole evp c ctx m 18 = openFrame evp c ctx m 18 := by
  have hpay : (payloadSize m.len).toNat = checksumOff m - (18 + sizeofProfinetSecureHeader) := by
    rw [payloadSize_toNat hlen, checksumOff, Nat.sub_sub]
    rfl
  cases hmode : c.securityMode with
  | none | ao => simp only [openWhole, openFrame, hmode]
  | ae => simp only [openWhole, openFrame, aeOpen, hmode, hpay]

/-- The checksum of the frame is valid: with the key of `ctx` the frame opens. -/
def Verifies (env : Env C D) (key : C → K) (c : ClassConfig) (ctx : C) (m : Mbuf) (off : Nat) :
    Prop :=
  ∀ ctx', key ctx' = key ctx → (openWhole env.evp c ctx' m off).ret = 0

/-- A frame that passes type and length check and fails authentication. -/
structure Forged (env : Env C D) (ty : FrameType) (w : World C D) (m : Mbuf) (lay : Layout) :
    Prop where
  check : ∃ expected, (rxHandler env ty).check (env.app.cls ty).frameLength m = (expected, .ok lay)
  fails : (openFrame env.evp (env.app.cls ty) w.thread.rxSecurityContext m lay.off).ret ≠ 0

/-- A tagged frame with the expected counter that authenticates. -/
structure Genuine (env : Env C D) (ty : FrameType) (w : World C D) (m : Mbuf) : Prop where
  tagged : m.tagged = true
  typeOk : typeOk env ty m = true
  length : m.len = (env.app.cls ty).frameLength
  frameId : read16 m.data 18 = frameId ty (env.app.mode ty)
  counter : rxCounter (env.app.cls ty) m 18 = w.thread.rxSequenceCounter
  opens : (openFrame env.evp (env.app.cls ty) w.thread.rxSecurityContext m 18).ret = 0

/-- What rejecting a frame means: the call returns, the frame is not handed to
the transmit buffer, no checksum is computed for it or that is not valid, the receive
counter stays, and the next genuine frame in sequence is counted. -/
def Rejected (env : Env C D) (key : C → K) (ty : FrameType) (stack : Mem UInt8) (w : World C D)
    (m : Mbuf) (lay : Layout) : Prop :=
  ∃ w' freed, rxFrame env ty stack w [m] = .ok (w', freed) ∧
    w'.tx.added = w.tx.added ∧
    (w'.seals = w.seals ∨ ∀ m' ∈ freed,
      ¬ Verifies env key (env.app.cls ty) w.thread.rxSecurityContext m' lay.off) ∧
    w'.thread.rxSequenceCounter = w.thread.rxSequenceCounter ∧
    ∀ g stack', Genuine env ty w g → ∃ w'' freed', rxFrame env ty stack' w' [g] = .ok (w'', freed') ∧
      w''.thread.rxSequenceCounter = w.thread.rxSequenceCounter + 1

/-- What an encrypting sealing in place leaves in the range of the ciphertext. -/
theorem sealFrame_ciphertext {evp : Evp C} {key : C → K} (hl : evp.Lawful key) (ctx : C)
    (data : Mem UInt8) (pt iv : List UInt8) (aadOff aadLen ctOff tagOff : Nat)
    (hfill : ctOff + pt.length = tagOff) :
    slice (sealFrame evp ctx data (some pt) iv aadOff aadLen ctOff tagOff).data ctOff
        (tagOff - ctOff) =
      (securityEncrypt evp ctx (some pt) (slice data aadOff aadLen) iv).ciphertext := by
  have hlen := hl.ciphertext_length ctx pt (slice data aadOff aadLen) iv
  have hsize : tagOff - ctOff =
      (securityEncrypt evp ctx (some pt) (slice data aadOff aadLen) iv).ciphertext.length := by
    omega
  rw [sealFrame, hsize, slice_write_disjoint _ _ _ _ _ (Or.inr (by omega))]
  exact slice_write_same _ _ _

/-- Whatever `security_decrypt` said about it, the frame a secured handler
decoded carries a valid checksum. -/
theorem decode_verifies {env : Env C D} {key : C → K} (hl : env.evp.Lawful key) {ty : FrameType}
    (hm : env.app.mode ty ≠ .none) (hlow : 60 ≤ (env.app.cls ty).frameLength.toNat)
    {w : World C D} (hset : SetUp env.app ty w.thread) {p : Mem UInt8} {m : Mbuf} {lay : Layout}
    (hlen : m.len.toNat + 18 = lay.off + (env.app.cls ty).frameLength.toNat) {r : Received C D}
    (h : (rxHandler env ty).decode w p m lay = .ok r) :
    Verifies env key (env.app.cls ty) w.thread.rxSecurityContext r.mbuf lay.off := by
  have hroom : lay.off + 42 ≤ m.len.toNat := by omega
  have hr := decode_resealed hm h
  obtain ⟨-, htag, -⟩ := sealAgain_spec hl (env.app.cls ty) w m lay.off
    (env.mirrorStamp (w.now env)) hroom
  obtain ⟨hiv, hdata⟩ := sealAgain_reads hl (env.app.cls ty) w m lay.off
    (env.mirrorStamp (w.now env)) hroom
  have hopened := openFrame_key hl (env.app.cls ty) w.thread.rxSecurityContext m lay.off
  intro ctx' hctx'
  have hkey := hopened.trans hctx'.symm
  rw [hr.mbuf]
  obtain ⟨hsec, hmode⟩ := hasSecurity_of_mode hm
  rw [hmode] at hm
  cases hae : (env.app.cls ty).securityMode with
  | none => exact absurd hae hm
  | ao =>
    simp only [openWhole, aoOpen, hae]
    simp only [aadLength, plaintextOf, hae] at htag hdata
    change (securityDecrypt env.evp ctx' none
      (slice (sealAgain env _ w m lay.off _).data lay.off (aadSize m.len lay.off).toNat)
      (slice (sealAgain env _ w m lay.off _).data (checksumOff m) _) _).ret = 0
    rw [hiv, hdata, htag]
    exact hl.open_auth _ _ _ _ hkey
  | ae =>
    have hret : (sealAgain env (env.app.cls ty) w m lay.off (env.mirrorStamp (w.now env))).ret = 0 :=
      hl.encrypt_ret _ _ _ _
    have hbytes := decode_payload_length (hmode.trans hae) h hret
    have hsize := threadSetup_length_of hsec hlow
    rw [← hset.length] at hsize
    have hfill : lay.off + sizeofProfinetSecureHeader + (payloadBytes w.thread.payloadPattern
        w.thread.payloadPatternLength).length = checksumOff m := by
      rw [hbytes, hsize]
      simp only [checksumOff, sizeofProfinetSecureHeader, sizeofSecurityChecksum]
      omega
    have hct := sealFrame_ciphertext hl
      (openFrame env.evp (env.app.cls ty) w.thread.rxSecurityContext m lay.off).ctx
      (txTimestampToMetaData m.data (lay.off + 10) (env.mirrorStamp (w.now env))) _
      (rxIv (env.app.cls ty) m lay.off) lay.off sizeofProfinetSecureHeader _ _ hfill
    simp only [openWhole, hae]
    simp only [aadLength, plaintextOf, hae] at htag hdata
    have hsame : (sealAgain env (env.app.cls ty) w m lay.off (env.mirrorStamp (w.now env))).data =
        (sealFrame env.evp
          (openFrame env.evp (env.app.cls ty) w.thread.rxSecurityContext m lay.off).ctx
          (txTimestampToMetaData m.data (lay.off + 10) (env.mirrorStamp (w.now env)))
          (some (payloadBytes w.thread.payloadPattern w.thread.payloadPatternLength))
          (rxIv (env.app.cls ty) m lay.off) lay.off sizeofProfinetSecureHeader
          (lay.off + sizeofProfinetSecureHeader) (checksumOff m)).data := by
      simp only [sealAgain, plaintextOf, aadLength, ciphertextOff, hae]
    change (securityDecrypt env.evp ctx' (some (slice (sealAgain env _ w m lay.off _).data
      (lay.off + sizeofProfinetSecureHeader) (checksumOff m - (lay.off + sizeofProfinetSecureHeader))))
      (slice (sealAgain env _ w m lay.off _).data lay.off _)
      (slice (sealAgain env _ w m lay.off _).data (checksumOff m) _) _).ret = 0
    rw [hiv, hdata, htag, hsame, hct]
    exact (hl.open_seal _ _ _ _ _ hkey).1

/-! ## No frame is rejected -/

/-- The length of a frame that passed the checks, and where its header ends. -/
theorem check_ok_length {env : Env C D} {ty : FrameType} (hm : env.app.mode ty ≠ .none)
    (hlow : 60 ≤ (env.app.cls ty).frameLength.toNat) {m : Mbuf} {lay : Layout} {expected : UInt64}
    (h : (rxHandler env ty).check (env.app.cls ty).frameLength m = (expected, .ok lay)) :
    m.len.toNat + 18 = lay.off + (env.app.cls ty).frameLength.toNat := by
  have hv : isVlan ty = true := by
    cases ty <;> first | rfl | exact absurd rfl hm
  obtain ⟨-, -, rfl⟩ := check_vlan_ok hv h
  have hlen := check_vlan_len hv (by omega) h
  simp only [layoutOf, ethHeaderSize]
  cases htag : m.tagged with
  | true =>
    simp only [htag, if_true] at hlen
    simp only [if_true, sizeofVlanEthernetHeader]
    omega
  | false =>
    simp only [htag, Bool.false_eq_true, if_false] at hlen
    simp only [Bool.false_eq_true, if_false, sizeofEthhdr]
    omega

/-- **Forged frames.**  A secured handler rejects no frame whose authentication
fails: it hands it on or drops it with a fresh valid checksum, or the process
ends. -/
theorem forged_not_rejected {env : Env C D} {key : C → K} (hl : env.evp.Lawful key)
    {ty : FrameType} (hm : env.app.mode ty ≠ .none)
    (hlow : 60 ≤ (env.app.cls ty).frameLength.toNat) (stack : Mem UInt8) {w : World C D}
    (hset : SetUp env.app ty w.thread) (m : Mbuf) (lay : Layout)
    (hforged : Forged env ty w m lay) : ¬ Rejected env key ty stack w m lay := by
  rintro ⟨w', freed, hrx, hadded, htags, -, -⟩
  obtain ⟨expected, hcheck⟩ := hforged.check
  rw [rxFrame_single env ty stack w hcheck] at hrx
  cases hacc : (rxHandler env ty).accept env w stack m lay with
  | error e =>
    rw [hacc] at hrx
    cases hrx
  | ok out =>
    rw [hacc] at hrx
    obtain ⟨rfl, rfl⟩ := Prod.mk.inj (Except.ok.inj hrx)
    obtain ⟨r, w1, hdec, hcount, hcon, -⟩ := accept_ok hacc
    have hverifies := decode_verifies hl hm hlow hset (check_ok_length hm hlow hcheck) hdec
    rcases conclude_fate env ty hcon with ⟨hd, x, l, hw⟩ | ⟨-, -, -, hw⟩
    · rcases htags with hseals | htags
      · rw [hw, World.say_seals, World.setRx_seals, (account_ok hcount).2] at hseals
        change r.world.seals = w.seals at hseals
        rw [(decode_resealed hm hdec).seals] at hseals
        simp at hseals
      · exact htags r.mbuf (by simp [hd]) hverifies
    · have htx := account_tx hdec hcount
      have hfw := forward_world env ty (w1.setRx (w1.thread.rxSequenceCounter + 1)) r.mbuf lay
      rw [hw, World.enqueue_added, hfw.2.2.1, World.setRx_tx, htx] at hadded
      simp at hadded

/-! A TSN mirror for frames of 60 bytes in AO mode, and a frame with frame id,
counter and length as expected and a checksum of zeros. -/

def securedMirror : Env DigestCtx Unit := Env.small (AppConfig.small .ao 60 1 []) true

def securedFresh : World DigestCtx Unit := World.fresh securedMirror .tsnHigh DigestCtx.fresh ()

def forgedFrame : Mbuf :=
  ⟨0, write (write (fun _ => 0) 12 [0x81, 0, 0, 0, 0x88, 0x92]) 18 [1, 1], 60, 60⟩

/-- The same frame with the checksum the sender computes. -/
def genuineFrame : Mbuf :=
  { forgedFrame with
    data := (sealFrame digestEvp DigestCtx.fresh forgedFrame.data none
      (prepareIv [1, 2, 3, 4, 5, 6] 0) 18 26 0 44).data }

theorem forgedFrame_forged :
    Forged securedMirror .tsnHigh securedFresh forgedFrame ⟨18, false⟩ where
  check := ⟨60, by decide +kernel⟩
  fails := by decide +kernel

theorem forged_not_rejected_small :
    ¬ Rejected securedMirror (fun _ => ()) .tsnHigh (fun _ => 0) securedFresh forgedFrame
      ⟨18, false⟩ :=
  forged_not_rejected digestEvp_lawful (by decide) (by decide) _ ⟨rfl, rfl⟩ _ _ forgedFrame_forged

/-- What the mirror does with the frames: frames queued, how many of them
authenticate, the receive counter, and the frames reported as out of order. -/
def mirrored (ms : List Mbuf) : Option (Nat × Nat × UInt64 × UInt64) :=
  match rxFrame securedMirror .tsnHigh (fun _ => 0) securedFresh ms with
  | .ok (w, _) =>
    some (w.tx.added.length,
      (w.tx.added.filter fun m => (openFrame digestEvp (securedMirror.app.cls .tsnHigh)
        DigestCtx.fresh m 18).ret == 0).length,
      w.thread.rxSequenceCounter, (w.stat.globalStatistics .tsnHigh).outOfOrderErrors)
  | .error _ => none

/-- The forged frame fails authentication and is forwarded with a checksum that
verifies; the genuine frame with the same counter is then out of order. -/
theorem forged_forwarded :
    (openFrame digestEvp (securedMirror.app.cls .tsnHigh) DigestCtx.fresh forgedFrame 18).ret =
        -eperm ∧
      mirrored [forgedFrame] = some (1, 1, 1, 0) ∧
      (openFrame digestEvp (securedMirror.app.cls .tsnHigh) DigestCtx.fresh genuineFrame 18).ret =
        0 ∧
      mirrored [forgedFrame, genuineFrame] = some (1, 1, 1, 1) := by
  decide +kernel

end Rtdk.Forgery
