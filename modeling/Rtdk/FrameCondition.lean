import Rtdk.Mirror
import Rtdk.SecureTx

/-! What mirroring leaves of a frame.

The handlers edit a received frame in place before they know whether it will be
forwarded. `mirror_frame_condition` says what the edits add up to for every
forwarded frame of every burst: addresses and time stamp, and with
authentication the checksum, which verifies. -/

namespace Rtdk.FrameCondition
open Rtdk.Memory Rtdk.Endian Rtdk.NetDef Rtdk.Security Rtdk.Stat Rtdk.Lport Rtdk.Config Rtdk.Frame
open Rtdk.Thread Rtdk.Receive Rtdk.Handlers Rtdk.Checks Rtdk.Builder Rtdk.Decode Rtdk.Sealing
open Rtdk.Reseal Rtdk.SecureTx Rtdk.Mirror

variable {C D K : Type}

/-- A frame, in one segment, that passes the checks of its class: tagged, or for
UDP and LLDP untagged. -/
structure Accepted (env : Env C D) (ty : FrameType) (m : Mbuf) : Prop where
  check : ∃ expected, (rxHandler env ty).check (env.app.cls ty).frameLength m =
    (expected, .ok (ownLayout ty))
  segment : m.pktLen = m.dataLen.toUInt32

/-- The byte belongs to the part of a frame of the class that mirroring keeps. -/
def Kept (cfg : AppConfig) (ty : FrameType) (m : Mbuf) (i : Nat) : Prop :=
  12 ≤ i ∧
    (i < getMetaDataOffset ty (cfg.mode ty) + 8 ∨ getMetaDataOffset ty (cfg.mode ty) + 16 ≤ i) ∧
    (cfg.mode ty = .ao → i < checksumOff m)

/-- The forwarded frame `q` for the received frame `m`, under the key `k`. -/
structure Mirrored (env : Env C D) (key : C → K) (k : K) (ty : FrameType) (m q : Mbuf) : Prop where
  dataLen : q.dataLen = m.dataLen
  pktLen : q.pktLen = m.pktLen
  bytes : ∀ i, Kept env.app ty m i → q.data i = m.data i
  counter :
    metaDataToSequenceCounter q.data (getMetaDataOffset ty (env.app.mode ty))
        (env.app.cls ty).numFramesPerCycle =
      metaDataToSequenceCounter m.data (getMetaDataOffset ty (env.app.mode ty))
        (env.app.cls ty).numFramesPerCycle
  frameId : isProfinet ty = true → read16 q.data 18 = read16 m.data 18
  verifies : env.app.mode ty = .ao → ∀ ctx, key ctx = k →
    (aoOpen env.evp (env.app.cls ty) ctx q 18).ret = 0

/-! ## Decoding -/

theorem metaDataOffset_ethhdr (ty : FrameType) (mode : SecurityMode) :
    14 ≤ getMetaDataOffset ty mode := by
  cases ty <;> cases mode <;> decide

/-- The frame as decoding leaves it, before the edits of the class. -/
structure Edited (env : Env C D) (key : C → K) (k : K) (ty : FrameType) (m m' : Mbuf) : Prop where
  dataLen : m'.dataLen = m.dataLen
  pktLen : m'.pktLen = m.pktLen
  bytes : ∀ i, Kept env.app ty m i → m'.data i = m.data i
  verifies : env.app.mode ty = .ao → ∀ ctx, key ctx = k →
    (aoOpen env.evp (env.app.cls ty) ctx m' 18).ret = 0

theorem plain_edited {env : Env C D} {key : C → K} {k : K} {ty : FrameType}
    (hm : env.app.mode ty = .none) {w : World C D} {p : Mem UInt8} {m : Mbuf} {r : Received C D}
    (h : (rxHandler env ty).decode w p m (ownLayout ty) = .ok r) :
    Edited env key k ty m r.mbuf := by
  rw [plain_mbuf env ty hm h, metaAt_own]
  refine ⟨rfl, rfl, fun i hi => ?_, fun hao => ?_⟩
  · exact restamp_outside _ _ hi.2.1
  · rw [hm] at hao
    cases hao

theorem ao_edited {env : Env C D} {key : C → K} (hl : env.evp.Lawful key) {ty : FrameType}
    (hm : env.app.mode ty = .ao) {w : World C D} {p : Mem UInt8} {m : Mbuf} {r : Received C D}
    (hroom : 52 ≤ m.len.toNat) (h : (rxHandler env ty).decode w p m (ownLayout ty) = .ok r) :
    Edited env key (key w.thread.rxSecurityContext) ty m r.mbuf := by
  have hne : env.app.mode ty ≠ .none := by simp [hm]
  obtain ⟨hsec, hmode⟩ := hasSecurity_of_mode hne
  rw [hm] at hmode
  rw [(secure_class hsec).2.2.1] at h
  have hr := decode_resealed hne h
  have hkey := openFrame_key hl (env.app.cls ty) w.thread.rxSecurityContext m 18
  have haadlen : aadLength (env.app.cls ty) m 18 = (aadSize m.len 18).toNat := by
    simp only [aadLength, ← hmode]
  have hpt : plaintextOf (env.app.cls ty) w.thread = none := by simp only [plaintextOf, ← hmode]
  have hsize : aadLength (env.app.cls ty) m 18 = m.len.toNat - 18 - 16 := by
    rw [haadlen, aadSize_toNat (by omega)]
  have hend : 18 + aadLength (env.app.cls ty) m 18 = checksumOff m := by
    rw [hsize]
    simp only [checksumOff, sizeofSecurityChecksum]
    omega
  obtain ⟨hsame, htag, -⟩ := sealAgain_spec_of hl (env.app.cls ty) w m 18
    (env.mirrorStamp (w.now env)) (by omega)
  obtain ⟨hiv, haad⟩ := sealAgain_reads_of hl (env.app.cls ty) w m 18
    (env.mirrorStamp (w.now env)) (by omega) (by omega)
  rw [hpt] at htag
  rw [hr.mbuf]
  generalize sealAgain env (env.app.cls ty) w m 18 (env.mirrorStamp (w.now env)) = again
    at hsame htag hiv haad ⊢
  refine ⟨rfl, rfl, fun i hi => ?_, fun _ ctx hctx => ?_⟩
  · obtain ⟨-, hstamp, hsum⟩ := hi
    rw [secured_offset hne] at hstamp
    refine (hsame i (by rw [hend]; exact hsum hm)).trans ?_
    exact write_outside _ _ _ _ (by rw [be64_length]; omega)
  · rw [haadlen] at haad htag
    rw [aoOpen, hiv]
    change (securityDecrypt env.evp ctx none
      (slice again.data 18 (aadSize m.len 18).toNat)
      (slice again.data (checksumOff m) sizeofSecurityChecksum) _).ret = 0
    rw [haad, htag]
    exact hl.open_auth _ _ _ _ (hkey.trans hctx.symm)

/-! ## The edits of the class -/

/-- Forwarding changes the addresses, and for LLDP the time stamp. -/
theorem forward_edits (env : Env C D) (ty : FrameType) (w : World C D) (m : Mbuf)
    (hlen : ty = .lldp → m.dataLen = (env.app.cls .lldp).frameLength.toUInt16 ∧
      m.pktLen = (env.app.cls .lldp).frameLength.toUInt32) :
    let q := ((rxHandler env ty).forward w m (ownLayout ty)).2
    q.dataLen = m.dataLen ∧ q.pktLen = m.pktLen ∧
      (∀ i, 12 ≤ i → ty ≠ .lldp ∨ i < 22 ∨ 30 ≤ i → q.data i = m.data i) := by
  cases ty with
  | tsnHigh | tsnLow | rtc | rta | l2 | dcp | udpHigh | udpLow =>
    exact ⟨rfl, rfl, fun i hi _ => swapMacAddresses_above _ _ _ hi⟩
  | lldp =>
    obtain ⟨hd, hp⟩ := hlen rfl
    refine ⟨hd.symm, hp.symm, fun i hi hout => ?_⟩
    have hstamp : i < 22 ∨ 30 ≤ i := by
      rcases hout with h | h
      · exact absurd rfl h
      · exact h
    change txTimestampToMetaData (write _ 6 _) 14 _ i = _
    rw [txTimestampToMetaData, write_outside _ _ _ _ (by rw [be64_length]; omega),
      write_above _ _ _ _ (by simp; omega)]
    rfl

/-- Opening reads the frame behind the addresses, up to its end. -/
theorem aoOpen_congr (evp : Evp C) (c : ClassConfig) (ctx : C) {m m' : Mbuf} (hlen : 52 ≤ m.len.toNat)
    (hp : m'.pktLen = m.pktLen)
    (h : ∀ i, 12 ≤ i → i < m.len.toNat → m'.data i = m.data i) :
    aoOpen evp c ctx m' 18 = aoOpen evp c ctx m 18 := by
  have hl : m'.len = m.len := congrArg UInt32.toUInt64 hp
  have hc : checksumOff m' = checksumOff m := by simp only [checksumOff, hl]
  have hoff : checksumOff m + 16 = m.len.toNat := by
    simp only [checksumOff, sizeofSecurityChecksum]
    omega
  have hsize := aadSize_toNat (show 18 + 16 ≤ m.len.toNat by omega)
  have hctr : rxCounter c m' 18 = rxCounter c m 18 :=
    sequenceCounter_congr _ fun i _ => h _ (by omega) (by omega)
  have haad : slice m'.data 18 (aadSize m.len 18).toNat =
      slice m.data 18 (aadSize m.len 18).toNat :=
    slice_congr fun i hi => h _ (by omega) (by omega)
  have htag : slice m'.data (checksumOff m) sizeofSecurityChecksum =
      slice m.data (checksumOff m) sizeofSecurityChecksum := by
    apply slice_congr
    intro i hi
    simp only [sizeofSecurityChecksum] at hi
    exact h _ (by omega) (by omega)
  simp only [aoOpen, hl, hc, haad, htag, rxIv, hctr]

/-! ## One frame -/

/-- The layout a handler finds in a frame that passes its checks. -/
def seenLayout (ty : FrameType) (m : Mbuf) : Layout :=
  if isVlan ty then layoutOf m else ⟨sizeofEthhdr, false⟩

theorem check_layout {env : Env C D} {ty : FrameType} {m : Mbuf} {e expected : UInt64}
    {lay : Layout} (h : (rxHandler env ty).check e m = (expected, .ok lay)) :
    lay = seenLayout ty m := by
  unfold seenLayout
  cases hv : isVlan ty with
  | true => exact (check_vlan_ok hv h).2.2
  | false => exact (check_untagged_ok hv h).2

/-- An accepted frame has the configured length. -/
theorem Accepted.len {env : Env C D} {ty : FrameType} {m : Mbuf} (h : Accepted env ty m) :
    m.len = (env.app.cls ty).frameLength := by
  obtain ⟨expected, h⟩ := h.check
  cases hv : isVlan ty with
  | true =>
    obtain ⟨-, hlen, hlay⟩ := check_vlan_ok hv h
    rw [ownLayout, hv] at hlay
    rw [hlen, lowers_tagged ty (tagged_of_layout hlay), UInt64.sub_zero]
  | false => exact (check_untagged_ok hv h).1

/-- The two lengths of an accepted frame are those `setLengths` would write. -/
theorem Accepted.lengths {env : Env C D} {ty : FrameType} {m : Mbuf} (h : Accepted env ty m) :
    m.dataLen = (env.app.cls ty).frameLength.toUInt16 ∧
      m.pktLen = (env.app.cls ty).frameLength.toUInt32 := by
  rw [← h.len, Mbuf.len, h.segment]
  simp

theorem edited_mirrored {env : Env C D} {key : C → K} {k : K} {ty : FrameType} {m m' : Mbuf}
    (hm : Accepted env ty m) (h : Edited env key k ty m m')
    (hlow : env.app.mode ty = .ao → 52 ≤ m.len.toNat) (w : World C D) :
    Mirrored env key k ty m ((rxHandler env ty).forward w m' (ownLayout ty)).2 := by
  obtain ⟨hd, hp, hbytes⟩ := forward_edits env ty w m' (by
    rintro rfl
    rw [h.dataLen, h.pktLen]
    exact hm.lengths)
  generalize ((rxHandler env ty).forward w m' (ownLayout ty)).2 = q at hd hp hbytes
  have hkept (i : Nat) (hi : Kept env.app ty m i) : q.data i = m.data i := by
    refine (hbytes i hi.1 ?_).trans (h.bytes i hi)
    by_cases hlldp : ty = .lldp
    · subst hlldp
      exact Or.inr hi.2.1
    · exact Or.inl hlldp
  have hao : env.app.mode ty = .ao → 36 ≤ checksumOff m := by
    intro hmode
    have := hlow hmode
    simp only [checksumOff, sizeofSecurityChecksum]
    omega
  have hoff := metaDataOffset_ethhdr ty (env.app.mode ty)
  have hoffao : env.app.mode ty = .ao → getMetaDataOffset ty (env.app.mode ty) = 28 := by
    intro hmode
    exact secured_offset (by simp [hmode])
  refine ⟨hd.trans h.dataLen, hp.trans h.pktLen, hkept, ?_, fun hprofinet => ?_,
    fun hmode ctx hctx => ?_⟩
  · apply sequenceCounter_congr
    intro i hi
    refine hkept _ ⟨by omega, Or.inl (by omega), fun hmode => ?_⟩
    have h36 := hao hmode
    have h28 := hoffao hmode
    omega
  · have h20 := (metaDataOffset_ge ty (env.app.mode ty)).2 hprofinet
    apply read16_congr
    intro i hi
    refine hkept _ ⟨by omega, Or.inl (by omega), fun hmode => ?_⟩
    have h36 := hao hmode
    omega
  · have hne : ty ≠ .lldp := by
      rintro rfl
      cases hmode
    have hlen : 52 ≤ m'.len.toNat := by
      rw [Mbuf.len_toNat, h.pktLen, ← Mbuf.len_toNat]
      exact hlow hmode
    rw [aoOpen_congr env.evp (env.app.cls ty) ctx hlen hp fun i hi _ => hbytes i hi (Or.inl hne)]
    exact h.verifies hmode ctx hctx

/-- The frame condition for one frame, from any state of the receiver. -/
theorem forwards_mirrored {env : Env C D} {key : C → K} (hl : env.evp.Lawful key) {ty : FrameType}
    (hae : env.app.mode ty ≠ .ae) {w : World C D} {p : Mem UInt8} {m q : Mbuf}
    (hm : Accepted env ty m) (hlow : env.app.mode ty = .ao → 52 ≤ m.len.toNat)
    (h : Forwards env ty w p m (ownLayout ty) q) :
    Mirrored env key (key w.thread.rxSecurityContext) ty m q := by
  obtain ⟨r, w1, hdec, -, -, -, rfl⟩ := h
  have hedited : Edited env key (key w.thread.rxSecurityContext) ty m r.mbuf := by
    cases hmode : env.app.mode ty with
    | none => exact plain_edited hmode hdec
    | ao => exact ao_edited hl hmode (hlow hmode) hdec
    | ae => exact absurd hmode hae
  exact edited_mirrored hm hedited hlow _

/-- A frame is forwarded in the mbuf it arrived in. -/
theorem forwards_id {env : Env C D} {ty : FrameType} {w : World C D} {p : Mem UInt8} {m q : Mbuf}
    {lay : Layout} (h : Forwards env ty w p m lay q) : q.id = m.id := by
  obtain ⟨r, w1, hdec, -, -, -, rfl⟩ := h
  have hr : r.mbuf.id = m.id := by
    by_cases hm : env.app.mode ty = .none
    · rw [plain_mbuf env ty hm hdec]
    · rw [(decode_resealed hm hdec).mbuf]
  rw [← hr]
  cases ty <;> rfl

/-! ## Bursts -/

/-- No handler changes the key of its receive context. -/
theorem decode_key {env : Env C D} {key : C → K} (hl : env.evp.Lawful key) {ty : FrameType}
    {w : World C D} {p : Mem UInt8} {m : Mbuf} {lay : Layout} {r : Received C D}
    (h : (rxHandler env ty).decode w p m lay = .ok r) :
    key r.world.thread.rxSecurityContext = key w.thread.rxSecurityContext := by
  by_cases hm : env.app.mode ty = .none
  · rw [decode_plain env ty hm] at h
    cases h
    cases ty <;> rfl
  · rw [(decode_resealed hm h).thread]
    exact (hl.encrypt_key _ _ _ _).trans (openFrame_key hl _ _ _ _)

theorem accept_key {env : Env C D} {key : C → K} (hl : env.evp.Lawful key) {ty : FrameType}
    {w : World C D} {p : Mem UInt8} {m : Mbuf} {lay : Layout} {out : Handled C D}
    (h : (rxHandler env ty).accept env w p m lay = .ok out) :
    key out.world.thread.rxSecurityContext = key w.thread.rxSecurityContext := by
  obtain ⟨r, w1, hdec, hacc, hcon, -⟩ := accept_ok h
  have hthread : w1.thread = r.world.thread := by rw [(account_ok hacc).2]; rfl
  rw [← decode_key hl hdec, ← hthread]
  rcases conclude_fate env ty hcon with ⟨-, x, l, hw⟩ | ⟨-, -, -, hw⟩
  · rw [hw]
    rfl
  · rw [hw, World.enqueue_thread, (forward_world env ty _ _ _).1]
    rfl

/-- **Mirror frame condition.**  The frames a burst adds to the transmit buffer
match received frames in order, and differ from those that were accepted in the
addresses, the time stamp and, with authentication, a checksum that verifies.
With authentication the checksum has to start behind the two counters. -/
theorem mirror_frame_condition {env : Env C D} {key : C → K} (hl : env.evp.Lawful key)
    {ty : FrameType} (hae : env.app.mode ty ≠ .ae)
    (hlow : env.app.mode ty = .ao → 52 ≤ (env.app.cls ty).frameLength.toNat) {stack : Mem UInt8} {w w' : World C D} {ms freed : List Mbuf}
    (h : rxFrame env ty stack w ms = .ok (w', freed)) :
    Matches (fun m q => q.id = m.id ∧ (Accepted env ty m →
      Mirrored env key (key w.thread.rxSecurityContext) ty m q)) w w' ms := by
  obtain ⟨t, fs, hb, rfl⟩ := rxFrame_ok h
  refine (rxBurst_matches (P := fun v => key v.thread.rxSecurityContext =
    key w.thread.rxSecurityContext) ?_ rfl hb).2
  intro s s' m d hs hone
  rcases rxOne_ok hone with ⟨e, hw⟩ | ⟨expected, lay, out, hc, hacc, hw⟩
  · rw [hw]
    exact ⟨hs, Or.inl rfl⟩
  · rw [hw]
    refine ⟨(accept_key hl hacc).trans hs, ?_⟩
    rcases accept_queued hacc with hsame | ⟨q, hadded, hq⟩
    · exact Or.inl hsame
    · refine Or.inr ⟨q, hadded, forwards_id hq, fun hm => ?_⟩
      obtain ⟨e, hcheck⟩ := hm.check
      rw [check_layout hc, ← check_layout hcheck] at hq
      rw [← hs]
      exact forwards_mirrored hl hae hm (by rwa [hm.len]) hq

/-! TSN mirrors with authentication and the first frame of `length` bytes. -/

def aoMirror (length : UInt64) : Env DigestCtx Unit :=
  Env.small (AppConfig.small .ao length 1 []) true

def aoWorld (length : UInt64) : World DigestCtx Unit :=
  World.fresh (aoMirror length) .tsnHigh DigestCtx.fresh ()

def aoFrame (length : UInt64) : Mbuf :=
  ⟨0, write (write (fun _ => 0) 12 [0x81, 0, 0, 0, 0x88, 0x92]) 18 (be16 tsnHighSecFrameid),
    length.toUInt16, length.toUInt32⟩

theorem mirror_frame_condition_first :
    Accepted (aoMirror 60) .tsnHigh (aoFrame 60) ∧
    ∃ w' freed,
      rxFrame (aoMirror 60) .tsnHigh (fun _ => 0) (aoWorld 60) [aoFrame 60] = .ok (w', freed) ∧
      w'.tx.added.length = 1 ∧
      Matches (fun m q => q.id = m.id ∧ (Accepted (aoMirror 60) .tsnHigh m →
        Mirrored (aoMirror 60) (fun _ => ()) () .tsnHigh m q)) (aoWorld 60) w' [aoFrame 60] := by
  refine ⟨⟨⟨60, by decide +kernel⟩, rfl⟩, ?_⟩
  have hrun : (match rxFrame (aoMirror 60) .tsnHigh (fun _ => 0) (aoWorld 60) [aoFrame 60] with
      | .ok p => p.1.tx.added.length
      | .error _ => 0) = 1 := by decide +kernel
  cases h : rxFrame (aoMirror 60) .tsnHigh (fun _ => 0) (aoWorld 60) [aoFrame 60] with
  | error e =>
    rw [h] at hrun
    cases hrun
  | ok p =>
    rw [h] at hrun
    exact ⟨p.1, p.2, rfl, hrun, mirror_frame_condition digestEvp_lawful (by decide)
      (fun _ => by decide) h⟩

/-- In a frame of 48 bytes the checksum starts at byte 32, inside the counters:
the frame sent back carries another sequence counter than the one received. -/
theorem counter_overwritten :
    Accepted (aoMirror 48) .tsnHigh (aoFrame 48) ∧
    metaDataToSequenceCounter (aoFrame 48).data 28 1 = 0 ∧
    ∃ w' freed q,
      rxFrame (aoMirror 48) .tsnHigh (fun _ => 0) (aoWorld 48) [aoFrame 48] = .ok (w', freed) ∧
      w'.tx.added = [q] ∧ metaDataToSequenceCounter q.data 28 1 ≠ 0 := by
  refine ⟨⟨⟨48, by decide⟩, rfl⟩, by decide, ?_⟩
  have hrun : (match rxFrame (aoMirror 48) .tsnHigh (fun _ => 0) (aoWorld 48) [aoFrame 48] with
      | .ok p => p.1.tx.added.map fun (q : Mbuf) => metaDataToSequenceCounter q.data 28 1
      | .error _ => []) = [0x01020304] := by decide
  cases h : rxFrame (aoMirror 48) .tsnHigh (fun _ => 0) (aoWorld 48) [aoFrame 48] with
  | error e =>
    rw [h] at hrun
    cases hrun
  | ok p =>
    rw [h] at hrun
    obtain ⟨q, hq, hne⟩ := List.map_eq_singleton_iff.mp hrun
    exact ⟨p.1, p.2, q, rfl, hq, by rw [hne]; decide⟩

end Rtdk.FrameCondition
