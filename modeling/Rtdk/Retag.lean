import Rtdk.Mirror
import Rtdk.VlanStrip

/-! Mirroring a frame whose VLAN tag the network card removed.

`insert_vlan_tag` moves the frame up by four bytes and writes the tag, but the
length in the mbuf stays, and the inner EtherType is the PROFINET one for every
class. So the frame that goes out is never the one the tagged form would have
given (`tag_never_restored`). -/

namespace Rtdk.Retag
open Rtdk.Memory Rtdk.Endian Rtdk.NetDef Rtdk.Security Rtdk.Stat Rtdk.Lport Rtdk.Config Rtdk.Frame
open Rtdk.Thread Rtdk.Receive Rtdk.Handlers Rtdk.Checks Rtdk.Builder Rtdk.Decode Rtdk.Sealing
open Rtdk.Reseal Rtdk.Mirror Rtdk.VlanStrip

variable {C D : Type}

/-- The classes that re-add a missing tag. -/
def retags (ty : FrameType) : Bool := isVlan ty && decide (ty ≠ .dcp)

/-- The frame with a tag behind its addresses, everything else kept. -/
def addTag (tci : UInt16) (g : Mbuf) : Mbuf :=
  { g with
    data := write (write (fun i => if i < 12 then g.data i else g.data (i - 4)) 12 (be16 ethP8021Q))
      14 (be16 tci)
    dataLen := g.dataLen + 4
    pktLen := g.pktLen + 4 }

/-- An untagged frame, in one segment, that passes the checks. -/
structure Untagged (env : Env C D) (ty : FrameType) (g : Mbuf) : Prop where
  check : ∃ expected, (rxHandler env ty).check (env.app.cls ty).frameLength g =
    (expected, .ok ⟨14, true⟩)
  segment : g.pktLen = g.dataLen.toUInt32

/-- The mirror sends for the untagged frame what it sends for the tagged one. -/
def Restored (env : Env C D) (ty : FrameType) (stack : Mem UInt8) (w : World C D) (g : Mbuf) : Prop :=
  ∃ q t, Queues env ty stack w g q ∧
    Queues env ty stack w (addTag (env.app.cls ty).vlanTci g) t ∧ q.wire = t.wire

theorem forward_retags (env : Env C D) {ty : FrameType} (h : retags ty = true) :
    (rxHandler env ty).forward = vlanForward (env.app.cls ty) := by
  cases ty with
  | tsnHigh | tsnLow | rtc | rta | l2 => rfl
  | dcp | lldp | udpHigh | udpLow => cases h

/-! ## The tagged form -/

theorem addTag_above (tci : UInt16) (g : Mbuf) {i : Nat} (h : 12 ≤ i) :
    (addTag tci g).data (i + 4) = g.data i := by
  simp only [addTag]
  rw [write_above _ _ _ _ (by rw [be16_length]; omega),
    write_above _ _ _ _ (by rw [be16_length]; omega), if_neg (by omega), Nat.add_sub_cancel]

theorem addTag_below (tci : UInt16) (g : Mbuf) {i : Nat} (h : i < 12) :
    (addTag tci g).data i = g.data i := by
  simp only [addTag]
  rw [write_below _ _ _ _ (by omega), write_below _ _ _ _ h, if_pos h]

/-- Stripping undoes tagging. -/
theorem stripTag_addTag (tci : UInt16) (g : Mbuf) : stripTag (addTag tci g) = g := by
  have hdata : (stripTag (addTag tci g)).data = g.data := by
    funext i
    simp only [stripTag]
    split
    · exact addTag_below tci g (by assumption)
    · exact addTag_above tci g (by omega)
  have hd : (stripTag (addTag tci g)).dataLen = g.dataLen := by simp [stripTag, addTag]
  have hp : (stripTag (addTag tci g)).pktLen = g.pktLen := by simp [stripTag, addTag]
  calc stripTag (addTag tci g) = ⟨(stripTag (addTag tci g)).id, (stripTag (addTag tci g)).data,
        (stripTag (addTag tci g)).dataLen, (stripTag (addTag tci g)).pktLen⟩ := rfl
    _ = g := by rw [hdata, hd, hp]; rfl

theorem addTag_tagged (tci : UInt16) (g : Mbuf) :
    (addTag tci g).tagged = true ∧ (addTag tci g).proto = read16 g.data 12 := by
  have h12 : read16 (addTag tci g).data 12 = ethP8021Q := by
    simp only [addTag]
    rw [read16_write_disjoint _ 14 _ 12 (Or.inr (by omega))]
    exact read16_write_same _ 12 ethP8021Q
  have htag : (addTag tci g).tagged = true := by simp only [Mbuf.tagged, h12, decide_true]
  refine ⟨htag, ?_⟩
  simp only [Mbuf.proto, htag, if_true]
  apply read16_congr
  intro i _
  rw [show 16 + i = 12 + i + 4 by omega]
  exact addTag_above tci g (by omega)

/-- What passing the checks without a tag means. -/
theorem untagged_spec {env : Env C D} {ty : FrameType} (hv : isVlan ty = true)
    (hL : 22 ≤ (env.app.cls ty).frameLength.toNat) {g : Mbuf} (hg : Untagged env ty g) :
    g.tagged = false ∧ typeOk env ty g = true ∧
      g.len.toNat = (env.app.cls ty).frameLength.toNat - 4 := by
  obtain ⟨expected, hcheck⟩ := hg.check
  obtain ⟨htype, -, hlay⟩ := check_vlan_ok hv hcheck
  have htag : g.tagged = false := tagged_of_layout hlay
  refine ⟨htag, htype, ?_⟩
  rw [check_vlan_len hv (by omega) hcheck, htag]
  rfl

theorem addTag_valid {env : Env C D} {ty : FrameType} (hv : isVlan ty = true)
    (hL : 22 ≤ (env.app.cls ty).frameLength.toNat)
    (hmax : (env.app.cls ty).frameLength.toNat ≤ maxFrameSize) {g : Mbuf} (hg : Untagged env ty g)
    (tci : UInt16) : Valid env ty (addTag tci g) := by
  obtain ⟨htag, htype, hlen⟩ := untagged_spec hv hL hg
  obtain ⟨htagged, hproto⟩ := addTag_tagged tci g
  rw [Mbuf.len_toNat] at hlen
  have hlen' : (addTag tci g).len = (env.app.cls ty).frameLength := by
    rw [← UInt64.toNat_inj, Mbuf.len_toNat]
    simp only [addTag, UInt32.toNat_add, hlen]
    simp only [maxFrameSize] at hmax
    change (_ + 4) % 2 ^ 32 = _
    omega
  have hsame : (addTag tci g).proto = g.proto := by
    rw [hproto]
    simp [Mbuf.proto, htag]
  refine (valid_iff env hv _).mpr ⟨htagged, ?_, hlen'⟩
  have h18 : ¬ (addTag tci g).len < 18 := by
    rw [hlen', UInt64.lt_iff_toNat_lt]
    exact Nat.not_lt.mpr (Nat.le_trans (by decide) hL)
  simp only [typeOk, Bool.and_eq_true, hsame] at htype ⊢
  exact ⟨by simp [longEnough, h18], htype.2⟩

/-! ## What is sent -/

theorem tag_cell (data data' : Mem UInt8) (tci : UInt16) {i : Nat} (h : 12 ≤ i) (h' : i < 16) :
    write (write data 12 (be16 ethP8021Q)) 14 (be16 tci) i =
      write (write data' 12 (be16 ethP8021Q)) 14 (be16 tci) i := by
  by_cases h14 : i < 14
  · obtain ⟨j, rfl⟩ : ∃ j, i = 12 + j := ⟨i - 12, by omega⟩
    rw [write_below _ _ _ _ h14, write_below _ _ _ _ h14,
      write_inside _ _ _ j (by rw [be16_length]; omega),
      write_inside _ _ _ j (by rw [be16_length]; omega)]
  · obtain ⟨j, rfl⟩ : ∃ j, i = 14 + j := ⟨i - 14, by omega⟩
    rw [write_inside _ _ _ j (by rw [be16_length]; omega),
      write_inside _ _ _ j (by rw [be16_length]; omega)]

/-- The cells of the frame sent for the untagged form, up to the length in the mbuf. -/
theorem sent_cell (stamp : Option UInt64) (tci : UInt16) (g : Mbuf) (off : Nat) (hoff : 10 ≤ off)
    {len : Nat} (hlen : 14 ≤ len) (hfits : len + 4 ≤ maxFrameSize) {i : Nat} (hi : i < len) :
    swapMacAddresses (insertVlanTag (restamp stamp g.data off) len tci) len i =
      write (swapMacAddresses (restamp stamp (addTag tci g).data (off + 4)) (len + 4)) 16
        (be16 ethPProfinetRt) i := by
  have hcell := insertVlanTag_cell (restamp stamp g.data off) tci hfits
  have hlow (j : Nat) (hj : j < 12) : restamp stamp g.data off j =
      restamp stamp (addTag tci g).data (off + 4) j := by
    rw [restamp_outside _ _ (by omega), restamp_outside _ _ (by omega), addTag_below tci g hj]
  by_cases h12 : i < 12
  · rw [write_below _ _ _ _ (by omega)]
    refine swapMacAddresses_congr hlen (by omega) h12 fun j hj => ?_
    rw [(hcell j).1 hj, hlow j hj]
  · rw [swapMacAddresses_above _ _ _ (by omega)]
    by_cases h16 : i < 16
    · rw [(hcell i).2.1 (by omega) h16, write_below _ _ _ _ h16,
        swapMacAddresses_above _ _ _ (by omega), restamp_outside _ _ (by omega)]
      exact tag_cell _ _ tci (by omega) h16
    · by_cases h18 : i < 18
      · rw [(hcell i).2.2.1 (by omega) h18]
        obtain ⟨j, rfl⟩ : ∃ j, i = 16 + j := ⟨i - 16, by omega⟩
        rw [write_inside _ _ _ j (by rw [be16_length]; omega),
          write_inside _ _ _ j (by rw [be16_length]; omega)]
      · rw [(hcell i).2.2.2 (by omega) (by omega),
          write_above _ _ _ _ (by rw [be16_length]; omega), swapMacAddresses_above _ _ _ (by omega)]
        obtain ⟨j, rfl⟩ : ∃ j, i = j + 4 := ⟨i - 4, by omega⟩
        rw [Nat.add_sub_cancel]
        exact restamp_shift stamp off (addTag_above tci g (by omega)).symm

/-- The frame a class that re-adds tags queues, as an edit of the one it got. -/
theorem queues_retags {env : Env C D} {ty : FrameType} (hty : retags ty = true)
    (hm : env.app.mode ty = .none) {stack : Mem UInt8} {w : World C D} {m : Mbuf} {lay : Layout}
    {r : Received C D} {w1 : World C D}
    (hdec : (rxHandler env ty).decode w stack m lay = .ok r) :
    ((rxHandler env ty).forward (w1.setRx (w1.thread.rxSequenceCounter + 1)) r.mbuf lay).2 =
      { m with
        data := swapMacAddresses
          (if lay.vlanTagMissing then
            insertVlanTag (restamp (decodeStamp env ty w) m.data (metaAt env.app ty lay.off))
              m.len.toNat (env.app.cls ty).vlanTci
          else restamp (decodeStamp env ty w) m.data (metaAt env.app ty lay.off)) m.len.toNat } := by
  rw [forward_retags env hty, plain_mbuf env ty hm hdec]
  rfl

/-- **Tags are never restored.**  For no untagged frame does a mirror send what
it would send for the tagged form: the last four bytes are missing, and the
inner EtherType is that of PROFINET. -/
theorem tag_never_restored {withMqtt : Bool} {env : Env C D}
    (hsane : configSanityCheck withMqtt env.app = .ok ()) {ty : FrameType} (hty : retags ty = true)
    (hm : env.app.mode ty = .none) (stack : Mem UInt8) (w : World C D) {g : Mbuf}
    (hg : Untagged env ty g) :
    ¬ Restored env ty stack w g ∧
      ∀ q, Queues env ty stack w g q →
        ∃ t, Queues env ty stack w (addTag (env.app.cls ty).vlanTci g) t ∧
          t.wire.length = (env.app.cls ty).frameLength.toNat ∧
          q.wire = slice (write t.data 16 (be16 ethPProfinetRt)) 0
            ((env.app.cls ty).frameLength.toNat - 4) := by
  have hv : isVlan ty = true := by
    simp only [retags, Bool.and_eq_true] at hty
    exact hty.1
  have hmax := (frameLength_bounds hsane ty).2
  have hroom := frameLength_room hsane ty (by rintro rfl; cases hv) (by rintro rfl; cases hv)
  have hge := (metaDataOffset_ge ty (env.app.mode ty)).1 hv
  obtain ⟨hmeta, hoff⟩ := metaAt_strip env.app hv
  obtain ⟨-, -, hlen⟩ := untagged_spec hv (by omega) hg
  have hvalid := addTag_valid hv (by omega) hmax hg (env.app.cls ty).vlanTci
  obtain ⟨-, -, htlen⟩ := (valid_iff env hv _).mp hvalid
  obtain ⟨expected, hcheck⟩ := hg.check
  have hdlen : g.dataLen.toNat = (env.app.cls ty).frameLength.toNat - 4 := by
    rw [← hlen, Mbuf.len_toNat, hg.segment, UInt16.toNat_toUInt32]
  have htdlen : (g.dataLen + 4).toNat = (env.app.cls ty).frameLength.toNat := by
    simp only [maxFrameSize] at hmax
    rw [UInt16.toNat_add, hdlen]
    change (_ + 4) % 2 ^ 16 = _
    omega
  constructor
  · rintro ⟨q, t, hq, ht, hwire⟩
    obtain ⟨r, w1, hdec, -, -, -, rfl⟩ := (queues_iff env ty stack w hcheck q).mp hq
    obtain ⟨r', w2, hdec', -, -, -, rfl⟩ := (queues_iff env ty stack w hvalid t).mp ht
    rw [queues_retags hty hm hdec, queues_retags hty hm hdec'] at hwire
    have hl := congrArg List.length hwire
    simp only [Mbuf.wire, slice_length] at hl
    change g.dataLen.toNat = (g.dataLen + 4).toNat at hl
    omega
  · intro q hq
    obtain ⟨r', w1, hdec', hacc, hmirror, hverdict, rfl⟩ :=
      (queues_iff env ty stack w hcheck q).mp hq
    obtain ⟨r, r'', hdec, hdec'', hsame⟩ :=
      plain_strip env hv hm w stack (addTag (env.app.cls ty).vlanTci g)
    rw [stripTag_addTag, hdec'] at hdec''
    obtain rfl := Except.ok.inj hdec''
    rw [hsame] at hacc hverdict
    refine ⟨_, (queues_iff env ty stack w hvalid _).mpr ⟨r, w1, hdec, hacc, hmirror, hverdict, rfl⟩,
      ?_, ?_⟩
    · rw [queues_retags hty hm hdec]
      simp only [Mbuf.wire, slice_length]
      exact htdlen
    · rw [queues_retags hty hm hdec, queues_retags hty hm hdec']
      simp only [Mbuf.wire, hdlen, Bool.false_eq_true, if_true, if_false]
      apply slice_congr
      intro i hi
      rw [Nat.zero_add]
      have hcell := sent_cell (decodeStamp env ty w) (env.app.cls ty).vlanTci g
        (metaAt env.app ty 14) (by omega) (show 14 ≤ g.len.toNat by omega) (by omega) (i := i)
        (by omega)
      rw [hmeta, show g.len.toNat + 4 = (addTag (env.app.cls ty).vlanTci g).len.toNat by
        rw [htlen]; omega] at hcell
      exact hcell

/-! Mirrors for frames of 40 bytes, one with all classes but L2 and one with L2
alone, and the first frame of each class without its tag; its last byte is 7. -/

def smallConfig (l2 : Bool) : AppConfig :=
  let cfg := AppConfig.small .none 40 1 []
  { cfg with cls := fun ty => { cfg.cls ty with enabled := decide (ty = .l2) == l2 } }

def tagMirror (l2 : Bool) : Env DigestCtx Unit := Env.small (smallConfig l2) true

def untaggedFrame (etherType fid : UInt16) : Mbuf :=
  ⟨0, write (write (write (fun _ => 0) 12 (be16 etherType)) 14 (be16 fid)) 35 [7], 36, 36⟩

theorem untaggedFrame_untagged :
    Untagged (tagMirror false) .tsnHigh (untaggedFrame ethPProfinetRt tsnHighFrameid) where
  check := ⟨36, by decide +kernel⟩
  segment := rfl

theorem tagMirror_sane : configSanityCheck false (tagMirror false).app = .ok () := by rfl

theorem tag_never_restored_small :
    ¬ Restored (tagMirror false) .tsnHigh (fun _ => 0)
      (World.fresh (tagMirror false) .tsnHigh DigestCtx.fresh ())
      (untaggedFrame ethPProfinetRt tsnHighFrameid) :=
  (tag_never_restored tagMirror_sane rfl rfl _ _ untaggedFrame_untagged).1

/-- Inner EtherType and last bytes of what the mirror sends for a frame, and its length. -/
def mirrored (l2 : Bool) (ty : FrameType) (m : Mbuf) : Option (UInt16 × List UInt8 × Nat) :=
  match rxFrame (tagMirror l2) ty (fun _ => 0) (World.fresh (tagMirror l2) ty DigestCtx.fresh ())
      [m] with
  | .ok (w, _) => w.tx.added.head?.map fun q =>
      (read16 q.data 16, q.wire.drop (q.wire.length - 2), q.wire.length)
  | .error _ => none

def tsnTci : UInt16 := ((tagMirror false).app.cls .tsnHigh).vlanTci

def l2Tci : UInt16 := ((tagMirror true).app.cls .l2).vlanTci

theorem untagged_truncated :
    mirrored false .tsnHigh (untaggedFrame ethPProfinetRt tsnHighFrameid) =
        some (ethPProfinetRt, [0x1a, 0x80], 36) ∧
      mirrored false .tsnHigh (addTag tsnTci (untaggedFrame ethPProfinetRt tsnHighFrameid)) =
        some (ethPProfinetRt, [0, 7], 40) ∧
      mirrored true .l2 (untaggedFrame 0xb62c 0) = some (ethPProfinetRt, [0, 0], 36) ∧
      mirrored true .l2 (addTag l2Tci (untaggedFrame 0xb62c 0)) = some (0xb62c, [0, 7], 40) := by
  decide +kernel

end Rtdk.Retag
