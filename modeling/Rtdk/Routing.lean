import Rtdk.Sane
import Rtdk.Unsealed

/-! From VLAN ids to receive queues (`tsn.c`, the `*_threads_create` functions
and the queue numbers of `config_read_from_file`).

All frames come in through one queue; `rx_vlan_callback` looks up in `vid2qid`
which class's queue a frame goes to. The table has one entry per VLAN id. Each
active class writes its queue id at its own VLAN id when it is launched; LLDP
and UDP use three ids that are in no frame. Nothing keeps two classes from using
one entry, and a UDP frame is told by its source port alone. `routed_when` says
when the frames of a class find its queue. -/

namespace Rtdk.Routing
open Rtdk.Memory Rtdk.Endian Rtdk.NetDef Rtdk.Security Rtdk.Stat Rtdk.Lport Rtdk.Config Rtdk.Frame
open Rtdk.Thread Rtdk.Receive Rtdk.Handlers Rtdk.Checks Rtdk.Builder Rtdk.Decode Rtdk.Generate
open Rtdk.Sealing Rtdk.Reseal Rtdk.SecureTx Rtdk.Mirror Rtdk.FrameCondition Rtdk.Agreement
open Rtdk.CString Rtdk.ConfigFile Rtdk.Sane Rtdk.Unsealed

variable {C D : Type}

/-! ## The table -/

def rteEtherMaxVlanId : UInt16 := 4095
def lldpFakeVlanId : UInt16 := 200
def udpHighFakeVlanId : UInt16 := 201
def udpLowFakeVlanId : UInt16 := 202

def lport2qid (id : UInt32) : UInt16 := id.toUInt16

/-- `none` ends the process: all callers do so when the call fails. -/
def tsnSetVlanQid (vid2qid : Mem UInt16) (vlanId queueId : UInt16) : Option (Mem UInt16) :=
  if 0 < vlanId ∧ vlanId < rteEtherMaxVlanId then
    some (Function.update vid2qid vlanId.toNat queueId)
  else none

/-- The queue id `rx_vlan_callback` gives to a frame. An IP header is taken to have no
options. -/
def rxVlanCallback (cfg : AppConfig) (vid2qid : Mem UInt16) (m : Mbuf) : UInt16 :=
  let etherType := read16 m.data 12
  if etherType = ethP8021Q then vid2qid (read16 m.data 14 &&& 0xfff).toNat
  else if etherType = ethPIp then
    let vid := if read16 m.data 34 = (cfg.cls .udpHigh).udpSrcPort then udpHighFakeVlanId
      else udpLowFakeVlanId
    vid2qid vid.toNat
  else if etherType = ethPLldp then vid2qid lldpFakeVlanId.toNat
  else 0

/-- The first argument of `tsn_set_vlan_qid` in the class's `*_threads_create`. -/
def launchVid (cfg : AppConfig) : FrameType → UInt16
  | .lldp => lldpFakeVlanId
  | .udpHigh => udpHighFakeVlanId
  | .udpLow => udpLowFakeVlanId
  | ty => (cfg.cls ty).vid.toUInt32.toUInt16

def threadsCreate (cfg : AppConfig) (lportId : FrameType → UInt32) (vid2qid : Mem UInt16)
    (ty : FrameType) : Option (Mem UInt16) :=
  if cfg.isActive ty then tsnSetVlanQid vid2qid (launchVid cfg ty) (lport2qid (lportId ty))
  else some vid2qid

/-- The classes in the order of `enum function_idx`. -/
def launchOrder : List FrameType :=
  [.l2, .tsnHigh, .tsnLow, .rtc, .rta, .dcp, .lldp, .udpHigh, .udpLow]

/-- The table when every active class has been launched. -/
def functionLaunchAll (cfg : AppConfig) (lportId : FrameType → UInt32) : Option (Mem UInt16) :=
  launchOrder.foldlM (threadsCreate cfg lportId) fun _ => 0

def launchedAfter (ty : FrameType) : List FrameType := (launchOrder.dropWhile (· ≠ ty)).tail

/-- No class launched after this one writes the same entry. -/
def Unshared (cfg : AppConfig) (ty : FrameType) : Prop :=
  ∀ ty' ∈ launchedAfter ty, cfg.isActive ty' = true → launchVid cfg ty' ≠ launchVid cfg ty

section table
variable {cfg : AppConfig} {lportId : FrameType → UInt32} {t t' : Mem UInt16} {ty : FrameType}

theorem threadsCreate_active (hact : cfg.isActive ty = true)
    (h : threadsCreate cfg lportId t ty = some t') :
    (0 < launchVid cfg ty ∧ launchVid cfg ty < rteEtherMaxVlanId) ∧
      t' = Function.update t (launchVid cfg ty).toNat (lport2qid (lportId ty)) := by
  simp only [threadsCreate, hact, if_true, tsnSetVlanQid] at h
  split at h
  · rename_i hvid
    exact ⟨hvid, (Option.some.inj h).symm⟩
  · cases h

/-- After some launches an entry is as before, or has the queue id of one of the
classes that write it. -/
theorem launch_entry {tys : List FrameType}
    (h : tys.foldlM (threadsCreate cfg lportId) t = some t') (s : Nat) :
    (t' s = t s ∧ ∀ ty ∈ tys, cfg.isActive ty = true → (launchVid cfg ty).toNat ≠ s) ∨
      ∃ ty ∈ tys, cfg.isActive ty = true ∧ (launchVid cfg ty).toNat = s ∧
        t' s = lport2qid (lportId ty) := by
  induction tys generalizing t with
  | nil =>
    cases h
    exact Or.inl ⟨rfl, fun ty hty => absurd hty List.not_mem_nil⟩
  | cons ty tys ih =>
    rw [List.foldlM_cons, Option.bind_eq_bind, Option.bind_eq_some_iff] at h
    obtain ⟨t1, hone, hrest⟩ := h
    rcases ih hrest with ⟨hsame, hnone⟩ | ⟨ty', hty', hact, hs, hq⟩
    · cases hact : cfg.isActive ty with
      | false =>
        simp only [threadsCreate, hact, Bool.false_eq_true, if_false, Option.some.injEq] at hone
        refine Or.inl ⟨by rw [hsame, hone], fun ty' hty' hact' => ?_⟩
        rcases List.mem_cons.mp hty' with rfl | hty'
        · rw [hact] at hact'
          cases hact'
        · exact hnone ty' hty' hact'
      | true =>
        obtain ⟨-, rfl⟩ := threadsCreate_active hact hone
        by_cases hs : (launchVid cfg ty).toNat = s
        · refine Or.inr ⟨ty, List.mem_cons_self, hact, hs, ?_⟩
          rw [hsame, ← hs, Function.update_self]
        · refine Or.inl ⟨by rw [hsame, Function.update_of_ne (Ne.symm hs)], fun ty' hty' hact' => ?_⟩
          rcases List.mem_cons.mp hty' with rfl | hty'
          · exact hs
          · exact hnone ty' hty' hact'
    · exact Or.inr ⟨ty', List.mem_cons_of_mem _ hty', hact, hs, hq⟩

/-- Launching fails only at a VLAN id that is out of range. -/
theorem launch_total {tys : List FrameType}
    (h : ∀ ty ∈ tys, cfg.isActive ty = true →
      0 < launchVid cfg ty ∧ launchVid cfg ty < rteEtherMaxVlanId) (t : Mem UInt16) :
    ∃ t', tys.foldlM (threadsCreate cfg lportId) t = some t' := by
  induction tys generalizing t with
  | nil => exact ⟨t, rfl⟩
  | cons ty tys ih =>
    obtain ⟨t1, hone⟩ : ∃ t1, threadsCreate cfg lportId t ty = some t1 := by
      cases hact : cfg.isActive ty with
      | false => exact ⟨t, by simp [threadsCreate, hact]⟩
      | true =>
        have hvid := h ty List.mem_cons_self hact
        exact ⟨_, by simp only [threadsCreate, hact, if_true, tsnSetVlanQid, hvid, and_self]; rfl⟩
    obtain ⟨t', hrest⟩ := ih (fun ty' hty' => h ty' (List.mem_cons_of_mem _ hty')) t1
    refine ⟨t', ?_⟩
    rw [List.foldlM_cons, Option.bind_eq_bind, hone]
    exact hrest

theorem launchOrder_split (ty : FrameType) :
    ∃ earlier, launchOrder = earlier ++ ty :: launchedAfter ty :=
  ⟨launchOrder.takeWhile (· ≠ ty), by cases ty <;> rfl⟩

/-- Each class's queue has a number of its own, and none has number 0. -/
structure Numbered (cfg : AppConfig) (lportId : FrameType → UInt32) : Prop where
  pos : ∀ ty, (cfg.cls ty).enabled = true → lport2qid (lportId ty) ≠ 0
  inj : ∀ ty ty', (cfg.cls ty).enabled = true → (cfg.cls ty').enabled = true →
    lport2qid (lportId ty) = lport2qid (lportId ty') → ty = ty'

theorem isActive_enabled (h : cfg.isActive ty = true) : (cfg.cls ty).enabled = true := by
  simp only [AppConfig.isActive, Bool.and_eq_true] at h
  exact h.1

/-- The launch of a class, between those before and after it. -/
theorem launch_split (h : functionLaunchAll cfg lportId = some t) (hact : cfg.isActive ty = true) :
    (0 < launchVid cfg ty ∧ launchVid cfg ty < rteEtherMaxVlanId) ∧
      ∃ t0 : Mem UInt16, (launchedAfter ty).foldlM (threadsCreate cfg lportId)
        (Function.update t0 (launchVid cfg ty).toNat (lport2qid (lportId ty))) = some t := by
  obtain ⟨earlier, hsplit⟩ := launchOrder_split ty
  rw [functionLaunchAll, hsplit, List.foldlM_append, Option.bind_eq_bind,
    Option.bind_eq_some_iff] at h
  obtain ⟨t0, -, h⟩ := h
  rw [List.foldlM_cons, Option.bind_eq_bind, Option.bind_eq_some_iff] at h
  obtain ⟨t1, hone, hrest⟩ := h
  obtain ⟨hvid, rfl⟩ := threadsCreate_active hact hone
  exact ⟨hvid, t0, hrest⟩

/-- **Own entry.**  A class finds its queue id in its entry exactly if no class
launched later wrote there. -/
theorem own_entry_iff (hnum : Numbered cfg lportId) (h : functionLaunchAll cfg lportId = some t)
    (hact : cfg.isActive ty = true) :
    t (launchVid cfg ty).toNat = lport2qid (lportId ty) ↔ Unshared cfg ty := by
  obtain ⟨-, t0, hrest⟩ := launch_split h hact
  have hnot : ty ∉ launchedAfter ty := by cases ty <;> decide
  rcases launch_entry hrest (launchVid cfg ty).toNat with ⟨hsame, hnone⟩ | ⟨ty', hty', hact', hs, hq⟩
  · rw [hsame, Function.update_self]
    exact ⟨fun _ ty' hty' hact' heq => hnone ty' hty' hact' (congrArg _ heq), fun _ => rfl⟩
  · refine ⟨fun hown => ?_, fun hun => absurd (UInt16.toNat_inj.mp hs) (hun ty' hty' hact')⟩
    have heq : ty' = ty := hnum.inj ty' ty (isActive_enabled hact') (isActive_enabled hact)
      (hq.symm.trans hown)
    exact absurd (heq ▸ hty') hnot

/-- No other entry leads to the class's queue. -/
theorem other_entry (hnum : Numbered cfg lportId) (h : functionLaunchAll cfg lportId = some t)
    (hact : cfg.isActive ty = true) {s : Nat} (hs : s ≠ (launchVid cfg ty).toNat) :
    t s ≠ lport2qid (lportId ty) := by
  intro heq
  rcases launch_entry h s with ⟨hzero, -⟩ | ⟨ty', -, hact', hs', hq⟩
  · exact hnum.pos ty (isActive_enabled hact) (heq.symm.trans hzero)
  · obtain rfl : ty' = ty := hnum.inj ty' ty (isActive_enabled hact') (isActive_enabled hact)
      (hq.symm.trans heq)
    exact hs hs'.symm

end table

/-! ## Queue numbers -/

theorem lport2qid_lportMake (pid qid : UInt16) : lport2qid (lportMake pid qid) = qid := by
  apply UInt16.toBitVec_inj.mp
  simp only [lport2qid, lportMake, UInt32.toBitVec_toUInt16, UInt32.toBitVec_or,
    UInt32.toBitVec_shiftLeft, UInt16.toBitVec_toUInt32]
  ext i hi
  simp

/-- The queue numbers are given out in order, one for each enabled class. -/
theorem maxQueue_fold (app : Values) (tys : List FrameType) (hnodup : tys.Nodup) {q : Queues}
    (hq : q.qid.toNat + tys.length < 2 ^ 16) :
    (∀ ty, ty ∉ tys → (tys.foldl (maxQueue app) q).lportId ty = q.lportId ty) ∧
      (∀ ty ∈ tys, app.enabled ty = true →
        q.qid.toNat ≤ (lport2qid ((tys.foldl (maxQueue app) q).lportId ty)).toNat) ∧
      ∀ ty ∈ tys, ∀ ty' ∈ tys, app.enabled ty = true → app.enabled ty' = true →
        lport2qid ((tys.foldl (maxQueue app) q).lportId ty) =
          lport2qid ((tys.foldl (maxQueue app) q).lportId ty') → ty = ty' := by
  induction tys generalizing q with
  | nil => exact ⟨fun _ _ => rfl, fun ty hty => absurd hty List.not_mem_nil,
      fun ty hty => absurd hty List.not_mem_nil⟩
  | cons x tys ih =>
    obtain ⟨hx, hnodup⟩ := List.nodup_cons.mp hnodup
    rw [List.length_cons] at hq
    rw [List.foldl_cons]
    cases hen : app.enabled x with
    | false =>
      have hsame : maxQueue app q x = q := by simp [maxQueue, hen]
      obtain ⟨hout, hlow, hinj⟩ := ih hnodup (q := q) (by omega)
      have hne (ty : FrameType) (hty : ty ∈ x :: tys) (h : app.enabled ty = true) : ty ∈ tys := by
        rcases List.mem_cons.mp hty with rfl | hty
        · rw [hen] at h
          cases h
        · exact hty
      rw [hsame]
      exact ⟨fun ty hty => hout ty fun h => hty (List.mem_cons_of_mem _ h),
        fun ty hty h => hlow ty (hne ty hty h) h,
        fun ty hty ty' hty' h h' => hinj ty (hne ty hty h) ty' (hne ty' hty' h') h h'⟩
    | true =>
      have hnext : maxQueue app q x = ⟨q.qids ++ [q.qid], q.qid + 1,
          Function.update q.lportId x (lportMake 1 q.qid)⟩ := by simp [maxQueue, hen]
      have hsucc : (maxQueue app q x).qid.toNat = q.qid.toNat + 1 := by
        rw [hnext, UInt16.toNat_add]
        exact Nat.mod_eq_of_lt (by simp; omega)
      obtain ⟨hout, hlow, hinj⟩ := ih hnodup (q := maxQueue app q x) (by omega)
      have hown : lport2qid ((tys.foldl (maxQueue app) (maxQueue app q x)).lportId x) = q.qid := by
        rw [hout x hx, hnext]
        simp only [Function.update_self, lport2qid_lportMake]
      rw [hsucc] at hlow
      refine ⟨fun ty hty => ?_, fun ty hty h => ?_, fun ty hty ty' hty' h h' heq => ?_⟩
      · rw [List.mem_cons, not_or] at hty
        rw [hout ty hty.2, hnext]
        exact Function.update_of_ne hty.1 _ _
      · rcases List.mem_cons.mp hty with rfl | hty
        · rw [hown]
        · exact Nat.le_of_succ_le (hlow ty hty h)
      · rcases List.mem_cons.mp hty with rfl | hin
        · rcases List.mem_cons.mp hty' with rfl | hin'
          · rfl
          · have hgap := hlow ty' hin' h'
            rw [← heq, hown] at hgap
            omega
        · rcases List.mem_cons.mp hty' with rfl | hin'
          · have hgap := hlow ty hin h
            rw [heq, hown] at hgap
            omega
          · exact hinj ty hin ty' hin' h h' heq

/-- The queues of a loaded file. -/
theorem assignQueues_numbered (app : Values) :
    Numbered (appConfig app) (assignQueues app).lportId := by
  obtain ⟨-, hlow, hinj⟩ := maxQueue_fold app queueOrder (by decide)
    (q := ⟨[0], 1, fun _ => lportInvalid⟩) (by decide)
  have hmem (ty : FrameType) : ty ∈ queueOrder := by cases ty <;> decide
  refine ⟨fun ty h hzero => ?_, fun ty ty' h h' => hinj ty (hmem ty) ty' (hmem ty') h h'⟩
  have hone := hlow ty (hmem ty) h
  rw [show queueOrder.foldl (maxQueue app) _ = assignQueues app from rfl, hzero] at hone
  cases hone

/-! ## What the callback reads -/

def isUdp : FrameType → Bool
  | .udpHigh | .udpLow => true
  | _ => false

def etherTypeOf (ty : FrameType) : UInt16 :=
  if isVlan ty then ethP8021Q else if isUdp ty then ethPIp else ethPLldp

/-- The bytes of the class's frames that decide about their queue. -/
def RouteByte (ty : FrameType) (i : Nat) : Prop :=
  (i = 12 ∨ i = 13) ∨ (isVlan ty = true ∧ (i = 14 ∨ i = 15)) ∨ (isUdp ty = true ∧ (i = 34 ∨ i = 35))

/-- EtherType, tag and source port are those of the class. -/
structure Addressed (cfg : AppConfig) (ty : FrameType) (data : Mem UInt8) : Prop where
  etherType : read16 data 12 = etherTypeOf ty
  tci : isVlan ty = true → read16 data 14 = (cfg.cls ty).vlanTci
  port : isUdp ty = true → read16 data 34 = (cfg.cls ty).udpSrcPort

theorem read16_pair {data data' : Mem UInt8} {a : Nat} (h : data' a = data a)
    (h' : data' (a + 1) = data (a + 1)) : read16 data' a = read16 data a := by
  apply read16_congr
  intro i hi
  rcases (by omega : i = 0 ∨ i = 1) with rfl | rfl
  · exact h
  · exact h'

theorem Addressed.congr {cfg : AppConfig} {ty : FrameType} {data data' : Mem UInt8}
    (h : Addressed cfg ty data) (hb : ∀ i, RouteByte ty i → data' i = data i) :
    Addressed cfg ty data' where
  etherType := by
    rw [← h.etherType]
    exact read16_pair (hb _ (Or.inl (Or.inl rfl))) (hb _ (Or.inl (Or.inr rfl)))
  tci hv := by
    rw [← h.tci hv]
    exact read16_pair (hb _ (Or.inr (Or.inl ⟨hv, Or.inl rfl⟩)))
      (hb _ (Or.inr (Or.inl ⟨hv, Or.inr rfl⟩)))
  port hu := by
    rw [← h.port hu]
    exact read16_pair (hb _ (Or.inr (Or.inr ⟨hu, Or.inl rfl⟩)))
      (hb _ (Or.inr (Or.inr ⟨hu, Or.inr rfl⟩)))

/-- The tag's VLAN id, whatever the priority. -/
theorem vlanTci_vid (c : ClassConfig) :
    c.vlanTci &&& 0xfff = c.vid.toUInt32.toUInt16 &&& 0xfff := by
  apply UInt16.toBitVec_inj.mp
  have hor : (c.vid ||| c.pcp <<< vlanPcpShift).toUInt32.toBitVec =
      c.vid.toUInt32.toBitVec ||| c.pcp.toUInt32.toBitVec <<< 13 := rfl
  simp only [ClassConfig.vlanTci, UInt16.toBitVec_and, UInt32.toBitVec_toUInt16, hor]
  ext i hi
  by_cases h : i < 12
  · have h13 : i < 13 := by omega
    simp [h13]
  · have hz : (UInt16.toBitVec 4095)[i] = false := by
      rcases (by omega : i = 12 ∨ i = 13 ∨ i = 14 ∨ i = 15) with rfl | rfl | rfl | rfl <;> simp
    simp only [BitVec.getElem_and, hz, Bool.and_false]

theorem and_mask {v : UInt16} (h : v < rteEtherMaxVlanId) : v &&& 0xfff = v := by
  have hlt : v.toNat < 2 ^ 12 := Nat.lt_trans (UInt16.lt_iff_toNat_lt.mp h) (by decide)
  apply UInt16.toNat_inj.mp
  rw [UInt16.toNat_and]
  exact (Nat.and_two_pow_sub_one_eq_mod v.toNat 12).trans (Nat.mod_eq_of_lt hlt)

/-- The entry the callback looks up: a UDP frame is one of `udp_low` only if its
port is not that of `udp_high`. -/
def routedVid (cfg : AppConfig) : FrameType → UInt16
  | .udpLow =>
    if (cfg.cls .udpLow).udpSrcPort = (cfg.cls .udpHigh).udpSrcPort then udpHighFakeVlanId
    else udpLowFakeVlanId
  | ty => launchVid cfg ty

theorem rxVlanCallback_addressed {cfg : AppConfig} {ty : FrameType} {m : Mbuf}
    (h : Addressed cfg ty m.data) (hvid : launchVid cfg ty < rteEtherMaxVlanId) (t : Mem UInt16) :
    rxVlanCallback cfg t m = t (routedVid cfg ty).toNat := by
  have hether := h.etherType
  unfold rxVlanCallback
  cases ty with
  | tsnHigh | tsnLow | rtc | rta | dcp | l2 =>
    simp only [hether, etherTypeOf, isVlan, if_true, h.tci rfl, vlanTci_vid]
    exact congrArg (fun v : UInt16 => t v.toNat) (and_mask hvid)
  | lldp => simp [hether, etherTypeOf, isVlan, isUdp, routedVid, launchVid, ethPLldp, ethP8021Q, ethPIp]
  | udpHigh =>
    simp [hether, etherTypeOf, isVlan, isUdp, routedVid, launchVid, ethP8021Q, ethPIp, h.port rfl]
  | udpLow =>
    simp [hether, etherTypeOf, isVlan, isUdp, routedVid, ethP8021Q, ethPIp, h.port rfl]

/-! ## Generated frames -/

theorem writeVlanEthernetHeader_tci (data : Mem UInt8) (dst src : Vector UInt8 6)
    (tci proto : UInt16) :
    read16 (writeVlanEthernetHeader data dst src tci proto) 14 = tci := by
  unfold writeVlanEthernetHeader
  rw [read16_write_behind _ _ _ _ (by decide), read16_write_same]

theorem initializeProfinetFrame_tci (mode : SecurityMode) (data : Mem UInt8) (len : Nat)
    (src dst : Vector UInt8 6) (pattern : List UInt8) (tci fid : UInt16) :
    read16 (initializeProfinetFrame mode data len src dst pattern tci fid) 14 = tci := by
  cases mode with
  | none =>
    simp (disch := decide) only [initializeProfinetFrame, initializeRtProfinetFrame,
      read16_write_behind, writeVlanEthernetHeader_tci]
  | ao | ae =>
    simp (disch := decide) only [initializeProfinetFrame, initializeSecureProfinetFrame,
      read16_write_behind, writeVlanEthernetHeader_tci]

theorem writeAddress_ether (data : Mem UInt8) (off : Nat) (s : List UInt8) (h : 14 ≤ off) :
    read16 (writeAddress data off s) 12 = read16 data 12 := by
  unfold writeAddress
  split
  · exact read16_write_behind _ _ _ _ h
  · rfl

/-- What is written behind the source port of a UDP frame does not touch it. -/
theorem udpInitializeFrame_reads (c : ClassConfig) (source : Vector UInt8 6) (m : Mbuf) :
    read16 (udpInitializeFrame c source m).data 12 = ethPIp ∧
      read16 (udpInitializeFrame c source m).data 34 = c.udpSrcPort := by
  unfold udpInitializeFrame
  constructor
  · simp (disch := decide) only [read16_write_behind]
    split <;>
      simp (disch := decide) only [read16_write_behind, writeAddress_ether, read16_write_same]
  · simp (disch := decide) only [read16_write_behind]
    split <;> simp (disch := decide) only [read16_write_behind, read16_write_same]

/-- **Built with its address.**  Whatever was in the buffer before. -/
theorem initializeFrame_addressed (cfg : AppConfig) (source : Vector UInt8 6) (ty : FrameType)
    (m : Mbuf) : Addressed cfg ty (initializeFrame cfg source ty m).data := by
  have hbuilt := initializeFrame_built cfg source ty m
  cases ty with
  | tsnHigh | tsnLow | rtc | rta | dcp =>
    exact ⟨hbuilt.tagged rfl, fun _ => initializeProfinetFrame_tci _ _ _ _ _ _ _ _,
      fun h => (by cases h)⟩
  | l2 =>
    refine ⟨hbuilt.tagged rfl, fun _ => ?_, fun h => (by cases h)⟩
    simp (disch := decide) only [initializeFrame, l2InitializeFrame, read16_write_behind,
      writeVlanEthernetHeader_tci]
  | lldp =>
    refine ⟨?_, fun h => (by cases h), fun h => (by cases h)⟩
    simp (disch := decide) only [initializeFrame, lldpInitializeFrame, read16_write_behind,
      read16_write_same]
    rfl
  | udpHigh | udpLow =>
    obtain ⟨hether, hport⟩ := udpInitializeFrame_reads (cfg.cls _) source m
    exact ⟨hether, fun h => (by cases h), fun _ => hport⟩

theorem secured_routeByte {ty : FrameType} (hsec : hasSecurity ty = true) {i : Nat}
    (hi : RouteByte ty i) : i < 16 := by
  cases ty with
  | tsnHigh | tsnLow | rtc | rta =>
    simp only [RouteByte, isVlan, isUdp, Bool.false_eq_true, false_and, or_false, true_and] at hi
    omega
  | dcp | lldp | udpHigh | udpLow | l2 => cases hsec

/-- How long a frame must be: a sealed one holds what is written behind its Ethernet
header, a checksum or an encrypted payload with one, the others the bytes they are routed by. -/
def routeLen (cfg : AppConfig) (ty : FrameType) : Nat :=
  match cfg.mode ty with
  | .ae => 60
  | .ao => 34
  | .none => if isVlan ty then 16 else if isUdp ty then 36 else 14

/-- A frame of the class lies in its packet buffer, and has the bytes it is routed by. -/
structure Whole (cfg : AppConfig) (ty : FrameType) : Prop where
  low : routeLen cfg ty ≤ (cfg.cls ty).frameLength.toNat
  high : (cfg.cls ty).frameLength.toNat ≤ maxFrameSize

theorem RouteByte.lt_routeLen {ty : FrameType} {i : Nat} (h : RouteByte ty i) (cfg : AppConfig) :
    i < routeLen cfg ty := by
  cases hm : cfg.mode ty with
  | ae =>
    simp only [routeLen, hm]
    rcases h with h | h | h <;> omega
  | ao =>
    have hsec := (hasSecurity_of_mode (by rw [hm]; decide : cfg.mode ty ≠ .none)).1
    simp only [routeLen, hm]
    have h16 := secured_routeByte hsec h
    omega
  | none =>
    simp only [routeLen, hm]
    cases ty with
    | tsnHigh | tsnLow | rtc | rta | dcp | l2 | lldp | udpHigh | udpLow =>
      simp only [RouteByte, isVlan, isUdp, Bool.false_eq_true, false_and, or_false, false_or,
        true_and] at h
      simp only [isVlan, isUdp, Bool.false_eq_true, if_true, if_false]
      omega

/-- The metadata lies behind the bytes a frame is routed by. -/
theorem RouteByte.lt_metaData {ty : FrameType} {i : Nat} (h : RouteByte ty i)
    (mode : SecurityMode) : 12 ≤ i ∧ i < getMetaDataOffset ty mode := by
  cases ty with
  | tsnHigh | tsnLow | rtc | rta | dcp | l2 | lldp | udpHigh | udpLow =>
    simp only [RouteByte, isVlan, isUdp, Bool.false_eq_true, false_and, or_false, false_or,
      true_and] at h
    simp only [getMetaDataOffset]
    refine ⟨by omega, ?_⟩
    first | omega | (split <;> omega)

/-- In the buffer, the checksum of a sealed frame lies behind its Ethernet header. -/
theorem Whole.room {cfg : AppConfig} {ty : FrameType} (h : Whole cfg ty)
    (hm : cfg.mode ty ≠ .none) : 34 ≤ (cfg.cls ty).frameLength.toNat := by
  have hlow := h.low
  unfold routeLen at hlow
  cases hmode : cfg.mode ty with
  | none => exact absurd hmode hm
  | ao =>
    rw [hmode] at hlow
    exact hlow
  | ae =>
    simp only [hmode] at hlow
    omega

theorem Whole.dataLen {cfg : AppConfig} {ty : FrameType} (h : Whole cfg ty) :
    (cfg.cls ty).frameLength.toUInt16.toNat = (cfg.cls ty).frameLength.toNat := by
  rw [UInt64.toNat_toUInt16]
  exact Nat.mod_eq_of_lt (Nat.lt_of_le_of_lt h.high (by decide))

/-- A frame of the class as it is handed to the driver. -/
structure Sent (cfg : AppConfig) (ty : FrameType) (f : Mbuf) : Prop where
  addressed : Addressed cfg ty f.data
  dataLen : f.dataLen = (cfg.cls ty).frameLength.toUInt16

theorem stampMetaData_below (data : Mem UInt8) {off i : Nat} (s n t : UInt64) (h : i < off) :
    stampMetaData data off s n t i = data i := by
  unfold stampMetaData txTimestampToMetaData sequenceCounterToMetaData
  rw [write_below _ _ _ _ (by omega), write_below _ _ _ _ (by omega), write_below _ _ _ _ h]

/-- Sealing in place writes at the ciphertext and at the checksum only. -/
theorem sealFrame_below (evp : Evp C) (ctx : C) (data : Mem UInt8) (pt : Option (List UInt8))
    (iv : List UInt8) {aadOff aadLen ctOff tagOff i : Nat} (hct : pt = none ∨ i < ctOff)
    (htag : i < tagOff) : (sealFrame evp ctx data pt iv aadOff aadLen ctOff tagOff).data i = data i := by
  have hdata : (sealFrame evp ctx data pt iv aadOff aadLen ctOff tagOff).data =
      write (write data ctOff (securityEncrypt evp ctx pt (slice data aadOff aadLen) iv).ciphertext)
        tagOff _ := rfl
  rw [hdata, write_below _ _ _ _ htag]
  rcases hct with rfl | hct
  · rw [securityEncrypt_none_ciphertext, write_nil]
  · exact write_below _ _ _ _ hct

/-- A prepared frame has the bytes of its Ethernet header. -/
theorem prepareFrameForTx_below {evp : Evp C} {f : PrepareFrameConfig C} {p : Prepared C}
    (hm : f.mode ≠ .none) (h : prepareFrameForTx evp f = .ok p) {i : Nat} (hi : i < 18)
    (htag : i < f.frameLength - sizeofSecurityChecksum) :
    p.data i = stampMetaData f.frameData 28 f.sequenceCounter f.numFramesPerCycle f.txTimestamp i := by
  cases hmode : f.mode with
  | none => exact absurd hmode hm
  | ao =>
    simp only [prepareFrameForTx, hmode, Except.ok.injEq] at h
    subst h
    exact sealFrame_below _ _ _ _ _ (Or.inl rfl) htag
  | ae =>
    simp only [prepareFrameForTx, hmode] at h
    cases hseal : sealPayload evp f.securityContext
        (stampMetaData f.frameData 28 f.sequenceCounter f.numFramesPerCycle f.txTimestamp)
        f.payloadPattern f.payloadPatternLength (prepareIv f.ivPrefix f.sequenceCounter)
        sizeofVlanEthernetHeader sizeofProfinetSecureHeader
        (sizeofVlanEthernetHeader + sizeofProfinetSecureHeader)
        (f.frameLength - sizeofSecurityChecksum) with
    | error e =>
      rw [hseal] at h
      cases h
    | ok r =>
      rw [hseal] at h
      cases h
      have hsealed := sealPayload_eq hseal
      rw [hsealed]
      exact sealFrame_below _ _ _ _ _ (Or.inr (Nat.lt_of_lt_of_le hi (by decide))) htag

/-- Sealing a frame again keeps its Ethernet header. -/
theorem sealAgain_below (env : Env C D) (c : ClassConfig) (w : World C D) {m : Mbuf} (t : UInt64)
    {i : Nat} (hi : i < 18) (htag : i < checksumOff m) :
    (sealAgain env c w m 18 t).data i = m.data i := by
  have hct : plaintextOf c w.thread = none ∨ i < ciphertextOff c 18 := by
    cases hmode : c.securityMode with
    | none | ao => exact Or.inl (by simp only [plaintextOf, hmode])
    | ae =>
      right
      simp only [ciphertextOff, hmode]
      exact Nat.lt_of_lt_of_le hi (by decide)
  rw [sealAgain, sealFrame_below _ _ _ _ _ hct htag]
  exact stamp_below m.data 18 i t (by omega)

section generated
variable {env : Env C D} {ty : FrameType} {n seq t : UInt64} {w w' : World C D} {m f : Mbuf}

theorem prepareFrame_sent (hw : Whole env.app ty)
    (h : prepareFrame env ty n seq t w (initializeFrame env.app env.mac ty m) = .ok (w', f)) :
    Sent env.app ty f := by
  have haddr := initializeFrame_addressed env.app env.mac ty m
  have hlen := (initializeFrame_lengths env.app env.mac ty m).1
  by_cases hm : env.app.mode ty = .none
  · rw [prepareFrame_plain env ty hm] at h
    cases h
    refine ⟨haddr.congr fun i hi => ?_, hlen⟩
    exact stampMetaData_below _ _ _ _ (hi.lt_metaData _).2
  · obtain ⟨hsec, hmode⟩ := hasSecurity_of_mode hm
    rw [prepareFrame, if_pos hsec] at h
    cases hp : prepareFrameForTx env.evp (prepareConfig env ty w.thread
        (initializeFrame env.app env.mac ty m) n seq t) with
    | error e =>
      rw [hp] at h
      cases h
    | ok p =>
      rw [hp] at h
      cases h
      refine ⟨haddr.congr fun i hi => ?_, hlen⟩
      have h16 := secured_routeByte hsec hi
      have hroom := hw.room hm
      have htag : i < (prepareConfig env ty w.thread (initializeFrame env.app env.mac ty m) n seq
          t).frameLength - sizeofSecurityChecksum := by
        change i < (initializeFrame env.app env.mac ty m).dataLen.toNat - 16
        rw [hlen, hw.dataLen]
        omega
      rw [hmode] at hm
      exact (prepareFrameForTx_below hm hp (by omega) htag).trans
        (stampMetaData_below _ _ _ _ (by omega))

theorem genFrame_sent (hw : Whole env.app ty) (h : genFrame env ty n seq t w m = .ok w') :
    ∃ f, w'.tx.added = w.tx.added ++ [f] ∧ Sent env.app ty f := by
  obtain ⟨w1, f, hp, hadded⟩ := genFrame_ok h
  exact ⟨f, hadded, prepareFrame_sent hw hp⟩

theorem genFrames_sent (hw : Whole env.app ty) {ms : List Mbuf}
    (h : genFrames env ty n t seq w ms = .ok w') :
    ∃ fs, w'.tx.added = w.tx.added ++ fs ∧ ∀ f ∈ fs, Sent env.app ty f := by
  induction ms generalizing seq w with
  | nil =>
    cases h
    exact ⟨[], (List.append_nil _).symm, fun f hf => absurd hf List.not_mem_nil⟩
  | cons m ms ih =>
    simp only [genFrames, bind, Except.bind] at h
    split at h
    · cases h
    · rename_i w1 hone
      obtain ⟨f, hadded, hf⟩ := genFrame_sent hw hone
      obtain ⟨fs, hadded', hfs⟩ := ih h
      refine ⟨f :: fs, by rw [hadded', hadded, List.append_assoc]; rfl, fun g hg => ?_⟩
      rcases List.mem_cons.mp hg with rfl | hg
      · exact hf
      · exact hfs g hg

end generated

/-- The class's generator hands this frame to the driver, in some call. -/
def Generates (env : Env C D) (ty : FrameType) (f : Mbuf) : Prop :=
  ∃ (numFrames : UInt64) (mbufs : Option (List Mbuf)) (w w' : World C D),
    genAndSendFrames env ty numFrames mbufs w = .ok w' ∧ f ∈ newlyAdded w w'

theorem Generates.sent {env : Env C D} {ty : FrameType} {f : Mbuf} (hw : Whole env.app ty)
    (h : Generates env ty f) : Sent env.app ty f := by
  obtain ⟨numFrames, mbufs, w, w', hgen, hf⟩ := h
  have hnone (w' : World C D) (h : w'.tx = w.tx) (hf : f ∈ newlyAdded w w') : Sent env.app ty f := by
    rw [newlyAdded, h, List.drop_length] at hf
    cases hf
  unfold genAndSendFrames at hgen
  simp only at hgen
  split at hgen
  · cases hgen
    exact hnone w rfl hf
  · cases mbufs with
    | none =>
      cases hgen
      exact hnone _ rfl hf
    | some ms =>
      simp only [bind, Except.bind] at hgen
      split at hgen
      · cases hgen
      · rename_i w1 hframes
        cases hgen
        obtain ⟨fs, hadded, hfs⟩ := genFrames_sent hw hframes
        have hnew : (lportSend env.dev w1.tx).added.drop w.tx.added.length = fs := by
          rw [lportSend, lportTxBufferFlush_added, hadded]
          exact List.drop_left
        rw [newlyAdded, hnew] at hf
        exact hfs f hf

/-! ## Mirrored frames -/

/-- A frame of the class in a receive buffer. -/
structure Held (cfg : AppConfig) (ty : FrameType) (m : Mbuf) : Prop where
  addressed : Addressed cfg ty m.data
  dataLen : m.dataLen = (cfg.cls ty).frameLength.toUInt16
  segment : m.pktLen = m.dataLen.toUInt32

theorem Sent.arrives {cfg : AppConfig} {ty : FrameType} {f m : Mbuf} (hw : Whole cfg ty)
    (h : Sent cfg ty f) (ha : Arrives f.wire m) : Held cfg ty m := by
  have hlen : m.dataLen = f.dataLen := by
    have hwire := congrArg List.length ha.wire
    simp only [Mbuf.wire, slice_length] at hwire
    exact UInt16.toNat_inj.mp hwire
  refine ⟨h.addressed.congr fun i hi => ?_, hlen.trans h.dataLen, ha.length⟩
  apply (arrives_carries ha).1
  rw [h.dataLen, hw.dataLen]
  exact Nat.lt_of_lt_of_le (hi.lt_routeLen cfg) hw.low

/-- The handler of the class, in a mirror, hands `q` to the driver for `m`. -/
def Returns (env : Env C D) (ty : FrameType) (m q : Mbuf) : Prop :=
  ∃ (s s' : RxState C D) (d : Option Mbuf), rxOne env (rxHandler env ty) s m = .ok (s', d) ∧
    s'.world.tx.added = s.world.tx.added ++ [q]

section mirrored
variable {env : Env C D} {ty : FrameType} {m q : Mbuf}

theorem Held.layout {cfg : AppConfig} (h : Held cfg ty m) : seenLayout ty m = ownLayout ty := by
  unfold seenLayout ownLayout
  cases hv : isVlan ty with
  | false => rfl
  | true =>
    have htag : m.tagged = true := by
      have hether := h.addressed.etherType
      rw [etherTypeOf, hv, if_pos rfl] at hether
      exact decide_eq_true hether
    simp [layoutOf, htag, ethHeaderSize]

/-- Decoding keeps the bytes a frame is routed by. -/
theorem decode_routeBytes (hw : Whole env.app ty) (hm : Held env.app ty m) {w : World C D}
    {stack : Mem UInt8} {r : Received C D}
    (hdec : (rxHandler env ty).decode w stack m (ownLayout ty) = .ok r) {i : Nat}
    (hi : RouteByte ty i) : r.mbuf.data i = m.data i := by
  have hmeta := (hi.lt_metaData (env.app.mode ty)).2
  by_cases hmode : env.app.mode ty = .none
  · rw [plain_mbuf env ty hmode hdec, metaAt_own]
    exact restamp_outside _ _ (Or.inl (by omega))
  · have hsec := (hasSecurity_of_mode hmode).1
    have hlay := (secure_class hsec).2.2.1
    have hlt := secured_routeByte hsec hi
    have hroom := hw.room hmode
    have htag : i < checksumOff m := by
      rw [checksumOff, Mbuf.len_toNat, hm.segment, UInt16.toNat_toUInt32, hm.dataLen, hw.dataLen,
        sizeofSecurityChecksum]
      omega
    rw [(decode_resealed hmode hdec).mbuf, hlay]
    exact sealAgain_below env _ w _ (by omega) htag

theorem Returns.sent (hw : Whole env.app ty) (hm : Held env.app ty m) (h : Returns env ty m q) :
    Sent env.app ty q := by
  obtain ⟨s, s', d, hone, hadded⟩ := h
  have hkept (hsame : s'.world.tx.added = s.world.tx.added) : False := by
    rw [hsame] at hadded
    simp at hadded
  rcases rxOne_ok hone with ⟨e, hw'⟩ | ⟨expected, lay, out, hcheck, hacc, hw'⟩
  · exact (hkept (by rw [hw']; rfl)).elim
  · rcases accept_queued hacc with hsame | ⟨q', hq', hfwd⟩
    · exact (hkept (by rw [hw', hsame])).elim
    · obtain rfl : q = q' := by
        rw [hw', hq'] at hadded
        simpa using hadded.symm
      rw [check_layout hcheck, hm.layout] at hfwd
      obtain ⟨r, w1, hdec, -, -, -, rfl⟩ := hfwd
      have hd := decode_spec env ty hdec
      have hlen : r.mbuf.dataLen = (env.app.cls ty).frameLength.toUInt16 :=
        hd.dataLen.trans hm.dataLen
      have hpkt : r.mbuf.pktLen = (env.app.cls ty).frameLength.toUInt32 := by
        rw [hd.pktLen, hm.segment, hm.dataLen]
        apply UInt32.toNat_inj.mp
        rw [UInt16.toNat_toUInt32, hw.dataLen, UInt64.toNat_toUInt32]
        exact (Nat.mod_eq_of_lt (Nat.lt_of_le_of_lt hw.high (by decide))).symm
      have hedit := forward_edits env ty (w1.setRx (w1.thread.rxSequenceCounter + 1)) r.mbuf
        (by rintro rfl; exact ⟨hlen, hpkt⟩)
      refine ⟨hm.addressed.congr fun i hi => ?_, hedit.1.trans hlen⟩
      have hlldp : ty ≠ .lldp ∨ i < 22 ∨ 30 ≤ i := by
        by_cases hty : ty = .lldp
        · subst hty
          exact Or.inr (Or.inl (Nat.lt_trans (hi.lt_metaData .none).2 (by decide)))
        · exact Or.inl hty
      rw [hedit.2.2 i (hi.lt_metaData .none).1 hlldp, decode_routeBytes hw hm hdec hi]

end mirrored

/-! ## Routing -/

/-- Every frame of the class, on its way there and on its way back, is put into
the queue `config_read_from_file` gave to the class, and no other class has that
queue. -/
structure Routed (app : Loaded) (vid2qid : Mem UInt16) (ty : FrameType) : Prop where
  generated : ∀ {C D : Type} (env : Env C D), env.app = appConfig app.values →
    ∀ f m, Generates env ty f → Arrives f.wire m →
      rxVlanCallback (appConfig app.values) vid2qid m = lport2qid (app.queues.lportId ty)
  returned : ∀ {C D C' D' : Type} (env : Env C D) (mirror : Env C' D'),
    env.app = appConfig app.values → mirror.app = appConfig app.values →
      ∀ f m q m', Generates env ty f → Arrives f.wire m → Returns mirror ty m q →
        Arrives q.wire m' →
          rxVlanCallback (appConfig app.values) vid2qid m' = lport2qid (app.queues.lportId ty)
  alone : ∀ ty', ((appConfig app.values).cls ty').enabled = true →
    lport2qid (app.queues.lportId ty') = lport2qid (app.queues.lportId ty) → ty' = ty

/-- A receiver can tell the frames of `udp_low` from those of `udp_high`. -/
def PortTells (cfg : AppConfig) (ty : FrameType) : Prop :=
  ty = .udpLow → (cfg.cls .udpLow).udpSrcPort ≠ (cfg.cls .udpHigh).udpSrcPort

theorem routedVid_eq {cfg : AppConfig} {ty : FrameType} (h : PortTells cfg ty) :
    routedVid cfg ty = launchVid cfg ty := by
  cases ty with
  | udpLow => exact if_neg (h rfl)
  | tsnHigh | tsnLow | rtc | rta | dcp | lldp | udpHigh | l2 => rfl

/-- A generator with a payload buffer and a backlog does not stop. -/
theorem genFrame_total {env : Env C D} {ty : FrameType} (n seq t : UInt64) {w : World C D}
    (m : Mbuf) (hb : HasBacklog env ty w)
    (hbuf : w.thread.payloadPattern ≠ none) : ∃ w', genFrame env ty n seq t w m = .ok w' := by
  obtain ⟨w1, f, hp⟩ :
      ∃ w1 f, prepareFrame env ty n seq t w (initializeFrame env.app env.mac ty m) = .ok (w1, f) :=
    prepareFrame_total env n seq t w _ fun _ => Or.inl hbuf
  have hb1 : HasBacklog env ty w1 := by
    unfold HasBacklog
    rwa [(prepareFrame_keeps hp).2]
  have hgo := (statFrameSent_spec env.statConfig w1.stat ty seq t hb1).1
  simp only [genFrame, hp, bind, Except.bind, World.applyStat, hgo]
  exact ⟨_, rfl⟩

theorem Generates.of_genFrame {env : Env C D} {ty : FrameType} {w w1 : World C D} {m f : Mbuf}
    (hone : genFrame env ty (divisor (env.app.cls ty) ty 1) w.thread.txSequenceCounter (w.now env)
      w.tick m = .ok w1) (hadded : w1.tx.added = w.tx.added ++ [f]) : Generates env ty f := by
  refine ⟨1, some [m], w, { w1 with
    thread := { w1.thread with txSequenceCounter := w1.thread.txSequenceCounter + 1 }
    tx := lportSend env.dev w1.tx }, ?_, ?_⟩
  · have hnot : ¬ ((ty = .rta ∨ ty = .dcp) ∧ (1 : UInt64) = 0) := fun h => absurd h.2 (by decide)
    simp only [genAndSendFrames, if_neg hnot, genFrames, bind, Except.bind]
    rw [show (1 : UInt64).toUInt16 = 1 from rfl, hone]
    rfl
  · rw [newlyAdded, lportSend, lportTxBufferFlush_added, hadded, List.drop_left]
    exact List.mem_singleton.mpr rfl

theorem exists_generated {cfg : AppConfig} {ty : FrameType} (hw : Whole cfg ty) :
    ∃ f, Generates (Env.small cfg false) ty f := by
  let env := Env.small cfg false
  let fresh := World.fresh env ty DigestCtx.fresh ()
  let w := { fresh with
    thread := { fresh.thread with payloadPattern := some fun _ => 0 }
    stat := { fresh.stat with
      roundTripContexts := fun ty => ⟨(fresh.stat.roundTripContexts ty).backlog, 1⟩ } }
  have hw' : Whole env.app ty := hw
  have hb : HasBacklog env ty w.tick := Or.inr (by decide : (1 : UInt64) ≠ 0)
  have hbuf : w.tick.thread.payloadPattern ≠ none := Option.some_ne_none _
  obtain ⟨w1, hone⟩ := genFrame_total (divisor (cfg.cls ty) ty 1) w.thread.txSequenceCounter
    (w.now env) ⟨0, fun _ => 0, 0, 0⟩ hb hbuf
  obtain ⟨f, hadded, -⟩ := genFrame_sent hw' hone
  exact ⟨f, .of_genFrame hone hadded⟩

/-- The entry a class writes at launch, and the one its frames are looked up in. -/
theorem routedVid_own {cfg : AppConfig} {ty : FrameType} :
    routedVid cfg ty = launchVid cfg ty ↔ PortTells cfg ty := by
  refine ⟨?_, routedVid_eq⟩
  rintro h rfl hport
  rw [routedVid, if_pos hport] at h
  exact absurd (show udpHighFakeVlanId = udpLowFakeVlanId from h) (by decide)

section routed
variable {app : Loaded} {vid2qid : Mem UInt16} {ty : FrameType}

theorem Held.routed {m : Mbuf} (hlaunch : functionLaunchAll (appConfig app.values)
      app.queues.lportId = some vid2qid) (hact : (appConfig app.values).isActive ty = true)
    (hm : Held (appConfig app.values) ty m) :
    rxVlanCallback (appConfig app.values) vid2qid m =
      vid2qid (routedVid (appConfig app.values) ty).toNat :=
  rxVlanCallback_addressed hm.addressed (launch_split hlaunch hact).1.2 vid2qid

theorem routed_of (hnum : Numbered (appConfig app.values) app.queues.lportId)
    (hlaunch : functionLaunchAll (appConfig app.values) app.queues.lportId = some vid2qid)
    (hact : (appConfig app.values).isActive ty = true) (hw : Whole (appConfig app.values) ty)
    (hun : Unshared (appConfig app.values) ty) (hport : PortTells (appConfig app.values) ty) :
    Routed app vid2qid ty := by
  have hqid {m : Mbuf} (hm : Held (appConfig app.values) ty m) :
      rxVlanCallback (appConfig app.values) vid2qid m = lport2qid (app.queues.lportId ty) := by
    rw [hm.routed hlaunch hact, routedVid_eq hport]
    exact (own_entry_iff hnum hlaunch hact).2 hun
  refine ⟨fun env happ f m hf ha => ?_, fun env mirror happ hmapp f m q m' hf ha hq ha' => ?_,
    fun ty' hen heq => hnum.inj ty' ty hen (isActive_enabled hact) heq⟩
  · rw [← happ] at hw
    have hm := (hf.sent hw).arrives hw ha
    rw [happ] at hm
    exact hqid hm
  · have hwe : Whole env.app ty := happ ▸ hw
    have hwm : Whole mirror.app ty := hmapp ▸ hw
    have hm : Held mirror.app ty m := by
      rw [hmapp, ← happ]
      exact (hf.sent hwe).arrives hwe ha
    have hm' := (hq.sent hwm hm).arrives hwm ha'
    rw [hmapp] at hm'
    exact hqid hm'

theorem Routed.condition (h : Routed app vid2qid ty) (hw : Whole (appConfig app.values) ty)
    (hnum : Numbered (appConfig app.values) app.queues.lportId)
    (hlaunch : functionLaunchAll (appConfig app.values) app.queues.lportId = some vid2qid)
    (hact : (appConfig app.values).isActive ty = true) :
    Unshared (appConfig app.values) ty ∧ PortTells (appConfig app.values) ty := by
  obtain ⟨f, hf⟩ := exists_generated hw
  obtain ⟨m, ha⟩ := exists_arrival f
  have hm : Held (appConfig app.values) ty m := (hf.sent hw).arrives hw ha
  have hown := h.generated _ rfl f m hf ha
  rw [hm.routed hlaunch hact] at hown
  have hvid : routedVid (appConfig app.values) ty = launchVid (appConfig app.values) ty := by
    by_contra hne
    exact other_entry hnum hlaunch hact (fun heq => hne (UInt16.toNat_inj.mp heq)) hown
  rw [hvid] at hown
  exact ⟨(own_entry_iff hnum hlaunch hact).1 hown, routedVid_own.1 hvid⟩

end routed

/-- The queues of a loaded configuration are numbered from 1. -/
theorem configInit_numbered {fopen : CStr → Option File} {path : Option CStr} {app : Loaded}
    (h : configInit fopen path = .ok app) :
    Numbered (appConfig app.values) app.queues.lportId := by
  obtain ⟨p, file, app0, -, -, -, rfl⟩ := configInit_ok h
  have hsame : SameChecked (finalWaitTime (finalLinkSpeed app0)) app0 := fun f hspeed hwait => by
    rw [finalWaitTime_apply hwait, finalLinkSpeed_apply hspeed]
  rw [appConfig_congr hsame]
  exact assignQueues_numbered app0

/-- Both UDP classes, with the source ports they have by default. -/
def udpFile : File :=
  ⟨true, entry "UdpHighEnabled" "true" ++ entry "UdpHighNumFramesPerCycle" "1" ++
    entry "UdpLowEnabled" "true" ++ entry "UdpLowNumFramesPerCycle" "1" ++ [.streamEnd]⟩

def udpYaml : CStr := lit "udp.yaml"

end Rtdk.Routing
