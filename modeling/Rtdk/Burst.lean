import Rtdk.Sane
import Rtdk.Unsealed
import Mathlib.Data.List.ReduceOption

/-! Bursts of packets (`lport_tx_get_bulk`, `lport_rx` and `lport_process_pkts`,
and the calls the nine classes make).

Both directions go through an array of `MAX_PKT_BURST` mbuf pointers. The number
of frames per cycle is 64 bits wide in the configuration and is cut to 16 bits at
most of its uses; where a receiver multiplies with it, it is used in full. Nothing
compares it with the size of the array. `bursts_agree_iff` says for which numbers
everybody means the same one. -/

namespace Rtdk.Burst
open Rtdk.Memory Rtdk.NetDef Rtdk.Lport Rtdk.Config Rtdk.Thread Rtdk.Receive Rtdk.Handlers
open Rtdk.Decode Rtdk.Generate Rtdk.CString Rtdk.ConfigFile Rtdk.Sane Rtdk.Unsealed

variable {C D : Type}

/-! ## Transmit side -/

/-- `getBulk` is `rte_mempool_get_bulk` on the pool of the queue. `mbufs` is the
memory from the start of the array on. -/
def lportTxGetBulk (getBulk : UInt16 → Option (List Mbuf)) (mbufs : Mem (Option Mbuf))
    (nbPkts : UInt16) : Option (Mem (Option Mbuf)) :=
  (getBulk nbPkts).map fun ms => write mbufs 0 (ms.map some)

/-- A pool gives all the packets it is asked for, or none. -/
def AllOrNone (getBulk : UInt16 → Option (List Mbuf)) : Prop :=
  ∀ n ms, getBulk n = some ms → ms.length = n.toNat

/-- The packets in the first `n` entries. -/
def entries (mbufs : Mem (Option Mbuf)) (n : Nat) : List Mbuf := (slice mbufs 0 n).reduceOption

/-- `nb_pkts` of the class's generator. All threads ask for the configured number
of frames; RTA, DCP and LLDP find it in `num_frames_available`. -/
def nbPkts (c : ClassConfig) : UInt16 := c.numFramesPerCycle.toUInt16

/-- A cycle of an active class: the loop of the generator reads the packets from
the array. -/
def genCycle (env : Env C D) (ty : FrameType) (getBulk : UInt16 → Option (List Mbuf))
    (mbufs : Mem (Option Mbuf)) (w : World C D) : Except Stop (World C D × Mem (Option Mbuf)) :=
  let c := env.app.cls ty
  match lportTxGetBulk getBulk mbufs (nbPkts c) with
  | none => (genAndSendFrames env ty c.numFramesPerCycle none w).map (·, mbufs)
  | some mbufs =>
    (genAndSendFrames env ty c.numFramesPerCycle (some (entries mbufs (nbPkts c).toNat)) w).map
      (·, mbufs)

/-! ## Receive side -/

/-- A call of `rte_eth_rx_burst`: the packets waiting in the queue, and the clock
after a call that returned none. -/
structure Poll where
  waiting : List Mbuf
  now : UInt64

/-- The locals of `lport_rx`. The pointer `mbufs` has moved on by `pos` entries. -/
structure RxLocals where
  mbufs : Mem (Option Mbuf)
  pos : Nat
  toRecv : UInt16
  totalPkts : UInt16
  recvTimeout : Nat

def RxLocals.got (s : RxLocals) (pkts : List Mbuf) : RxLocals :=
  { s with
    mbufs := write s.mbufs s.pos (pkts.map some)
    pos := s.pos + pkts.length
    toRecv := s.toRecv - UInt16.ofNat pkts.length
    totalPkts := s.totalPkts + UInt16.ofNat pkts.length }

/-- The loop. A list of polls that ends early leaves it where it is then. -/
def rxLoop (timoNs : UInt64) : RxLocals → List Poll → RxLocals
  | s, [] => s
  | s, p :: ps =>
    if s.toRecv = 0 then s
    else
      let pkts := p.waiting.take s.toRecv.toNat
      if pkts ≠ [] then rxLoop timoNs (s.got pkts) ps
      else if p.now > timoNs then { s with recvTimeout := s.recvTimeout + 1 }
      else rxLoop timoNs s ps

/-- `timo_ns` is the clock reading up to which the loop waits. -/
def lportRx (mbufs : Mem (Option Mbuf)) (burstSz : Int32) (timoNs : UInt64) (polls : List Poll) :
    RxLocals :=
  rxLoop timoNs ⟨mbufs, 0, burstSz.toUInt32.toUInt16, 0, 0⟩ polls

/-- `burst_sz` of the class's receive thread. -/
def burstSz (c : ClassConfig) : Int32 := c.numFramesPerCycle.toUInt32.toInt32

/-- The class's handler, on a burst. -/
def lportProcessPkts (env : Env C D) (ty : FrameType) (stack : Mem UInt8) (w : World C D)
    (mbufs : Mem (Option Mbuf)) (timoNs : UInt64) (polls : List Poll) :
    Except Stop (World C D × List Mbuf) :=
  let s := lportRx mbufs (burstSz (env.app.cls ty)) timoNs polls
  if s.totalPkts > 0 then rxFrame env ty stack w (entries s.mbufs s.totalPkts.toNat)
  else .ok (w, [])

/-! ## The array -/

/-- What was stored at the start of the array is read back from it. -/
theorem entries_write (mbufs : Mem (Option Mbuf)) (ms : List Mbuf) :
    entries (write mbufs 0 (ms.map some)) ms.length = ms := by
  rw [entries, slice_write_eq mbufs 0 (List.length_map some)]
  simp [List.reduceOption]

theorem nbPkts_toNat (c : ClassConfig) :
    (nbPkts c).toNat = c.numFramesPerCycle.toNat % 2 ^ 16 := UInt64.toNat_toUInt16 _

/-- Cut to 32 and then to 16 bits, or to 16 bits at once. -/
theorem burstSz_toUInt16 (c : ClassConfig) : (burstSz c).toUInt32.toUInt16 = nbPkts c := by
  simp [burstSz, nbPkts]

/-! ## One reception -/

/-- Between two polls: the rest to come, what has come, and an array that is
filled up to `pos` and unchanged behind it. -/
structure RxInv (mbufs : Mem (Option Mbuf)) (burst : Nat) (s : RxLocals) : Prop where
  left : s.pos + s.toRecv.toNat = burst
  total : s.totalPkts.toNat = s.pos
  filled : ∀ i, i < s.pos → (s.mbufs i).isSome = true
  behind : ∀ i, s.pos ≤ i → s.mbufs i = mbufs i

theorem RxInv.got {mbufs : Mem (Option Mbuf)} {burst : Nat} {s : RxLocals} (h : RxInv mbufs burst s)
    (hburst : burst < 2 ^ 16) {pkts : List Mbuf} (hpkts : pkts.length ≤ s.toRecv.toNat) :
    RxInv mbufs burst (s.got pkts) := by
  have hleft := h.left
  have htotal := h.total
  have hlen : (UInt16.ofNat pkts.length).toNat = pkts.length := by
    rw [UInt16.toNat_ofNat']
    exact Nat.mod_eq_of_lt (by omega)
  refine ⟨?_, ?_, fun i hi => ?_, fun i hi => ?_⟩
  · show s.pos + pkts.length + (s.toRecv - UInt16.ofNat pkts.length).toNat = burst
    rw [UInt16.toNat_sub_of_le _ _ (UInt16.le_iff_toNat_le.mpr (by omega)), hlen]
    omega
  · show (s.totalPkts + UInt16.ofNat pkts.length).toNat = s.pos + pkts.length
    rw [UInt16.toNat_add, hlen, htotal]
    exact Nat.mod_eq_of_lt (by omega)
  · show (write s.mbufs s.pos (pkts.map some) i).isSome = true
    by_cases hpos : i < s.pos
    · rw [write_below _ _ _ _ hpos]
      exact h.filled i hpos
    · obtain ⟨j, rfl⟩ : ∃ j, i = s.pos + j := ⟨i - s.pos, by omega⟩
      have hj : j < (pkts.map some).length := by
        simp only [RxLocals.got] at hi
        rw [List.length_map]
        omega
      rw [write_inside _ _ _ j hj, List.getElem_map]
      rfl
  · have hbehind : s.pos + pkts.length ≤ i := hi
    show write s.mbufs s.pos (pkts.map some) i = mbufs i
    rw [write_above _ _ _ _ (by rw [List.length_map]; exact hbehind)]
    exact h.behind i (by omega)

/-- **Receiving.**  However the packets come in, and whether or not time runs out. -/
theorem rxLoop_inv {mbufs : Mem (Option Mbuf)} {burst : Nat} (hburst : burst < 2 ^ 16)
    (timoNs : UInt64) (polls : List Poll) {s : RxLocals} (h : RxInv mbufs burst s) :
    RxInv mbufs burst (rxLoop timoNs s polls) := by
  induction polls generalizing s with
  | nil => exact h
  | cons p ps ih =>
    rw [rxLoop]
    split
    · exact h
    · simp only
      split
      · exact ih (h.got hburst (List.length_take_le _ _))
      · split
        · exact ⟨h.left, h.total, h.filled, h.behind⟩
        · exact ih h

theorem lportRx_inv (c : ClassConfig) (mbufs : Mem (Option Mbuf)) (timoNs : UInt64)
    (polls : List Poll) :
    RxInv mbufs (nbPkts c).toNat (lportRx mbufs (burstSz c) timoNs polls) := by
  apply rxLoop_inv (UInt16.toNat_lt _)
  rw [burstSz_toUInt16]
  exact ⟨Nat.zero_add _, rfl, fun i hi => absurd hi (Nat.not_lt_zero i), fun i _ => rfl⟩

/-- The entries of a filled array hold as many packets. -/
theorem entries_length {mbufs : Mem (Option Mbuf)} {n : Nat}
    (h : ∀ i, i < n → (mbufs i).isSome = true) : (entries mbufs n).length = n := by
  have hall : ∀ x ∈ slice mbufs 0 n, x.isSome = true := by
    intro x hx
    obtain ⟨i, hi, rfl⟩ := List.getElem_of_mem hx
    rw [slice_getElem, Nat.zero_add]
    exact h i (by rwa [slice_length] at hi)
  rw [entries, (List.reduceOption_length_eq_iff).2 hall, slice_length]

/-- A handler finds a packet in every entry it is given. -/
theorem lportProcessPkts_burst (c : ClassConfig) (mbufs : Mem (Option Mbuf)) (timoNs : UInt64)
    (polls : List Poll) :
    (entries (lportRx mbufs (burstSz c) timoNs polls).mbufs
      (lportRx mbufs (burstSz c) timoNs polls).totalPkts.toNat).length =
        (lportRx mbufs (burstSz c) timoNs polls).totalPkts.toNat := by
  have hinv := lportRx_inv c mbufs timoNs polls
  apply entries_length
  rw [hinv.total]
  exact hinv.filled

/-- Without packets the handler would do nothing either. -/
theorem lportProcessPkts_eq (env : Env C D) (ty : FrameType) (stack : Mem UInt8) (w : World C D)
    (mbufs : Mem (Option Mbuf)) (timoNs : UInt64) (polls : List Poll) :
    let s := lportRx mbufs (burstSz (env.app.cls ty)) timoNs polls
    lportProcessPkts env ty stack w mbufs timoNs polls =
      rxFrame env ty stack w (entries s.mbufs s.totalPkts.toNat) := by
  intro s
  by_cases hsome : s.totalPkts > 0
  · exact if_pos hsome
  · have hzero : s.totalPkts = 0 := by
      apply UInt16.toNat_inj.mp
      have hle := UInt16.le_iff_toNat_le.mp (UInt16.not_lt.mp hsome)
      exact Nat.le_zero.mp hle
    rw [hzero]
    exact if_neg hsome

/-! ## Agreement -/

/-- Sender and receiver of a class work with the configured number of frames per
cycle, and within the array. -/
structure BurstsAgree (cfg : AppConfig) (ty : FrameType) : Prop where
  /-- Packets taken from the pool. -/
  taken : ∀ getBulk ms, AllOrNone getBulk → getBulk (nbPkts (cfg.cls ty)) = some ms →
    ms.length = (cfg.cls ty).numFramesPerCycle.toNat
  /-- Frames built and handed to the driver in a cycle that got its packets. -/
  sent : ∀ {C D : Type} (env : Env C D), env.app = cfg →
    ∀ getBulk mbufs mbufs' w w', AllOrNone getBulk → getBulk (nbPkts (cfg.cls ty)) ≠ none →
      genCycle env ty getBulk mbufs w = .ok (w', mbufs') →
        (newlyAdded w w').length = (cfg.cls ty).numFramesPerCycle.toNat
  /-- The generator writes nothing behind its array. -/
  txWithin : ∀ getBulk mbufs mbufs', AllOrNone getBulk →
    lportTxGetBulk getBulk mbufs (nbPkts (cfg.cls ty)) = some mbufs' →
      ∀ i, maxPktBurst ≤ i → mbufs' i = mbufs i
  /-- Nor does the receiver, at any time. -/
  rxWithin : ∀ mbufs timoNs polls i, maxPktBurst ≤ i →
    (lportRx mbufs (burstSz (cfg.cls ty)) timoNs polls).mbufs i = mbufs i
  /-- A handler gets all packets that were received, at most those of a cycle. -/
  handed : ∀ {C D : Type} (env : Env C D), env.app = cfg → ∀ stack w mbufs timoNs polls,
    ∃ pkts : List Mbuf, pkts.length ≤ (cfg.cls ty).numFramesPerCycle.toNat ∧
      pkts.length = (lportRx mbufs (burstSz (cfg.cls ty)) timoNs polls).totalPkts.toNat ∧
      lportProcessPkts env ty stack w mbufs timoNs polls = rxFrame env ty stack w pkts
  /-- A receiver multiplies with what the sender divides by. -/
  counters : ∀ {C D : Type} (env : Env C D), env.app = cfg → ∀ w stack m lay r,
    (rxHandler env ty).decode w stack m lay = .ok r →
      r.sequenceCounter = metaDataToSequenceCounter m.data (metaAt cfg ty lay.off)
        (divisor (cfg.cls ty) ty (nbPkts (cfg.cls ty)))

theorem lportTxGetBulk_ok {getBulk : UInt16 → Option (List Mbuf)} {mbufs mbufs' : Mem (Option Mbuf)}
    {n : UInt16} (h : lportTxGetBulk getBulk mbufs n = some mbufs') :
    ∃ ms, getBulk n = some ms ∧ mbufs' = write mbufs 0 (ms.map some) := by
  unfold lportTxGetBulk at h
  cases hms : getBulk n with
  | none =>
    rw [hms] at h
    cases h
  | some ms =>
    rw [hms] at h
    exact ⟨ms, rfl, (Option.some.inj h).symm⟩

/-- A generator that got its packets sends them all. -/
theorem genAndSendFrames_count {env : Env C D} {ty : FrameType} {numFrames : UInt64}
    {ms : List Mbuf} {w w' : World C D} (hms : numFrames = 0 → ms = [])
    (h : genAndSendFrames env ty numFrames (some ms) w = .ok w') :
    (newlyAdded w w').length = ms.length := by
  unfold genAndSendFrames at h
  simp only at h
  split at h
  · rename_i hzero
    cases h
    rw [hms hzero.2, newlyAdded, List.drop_length]
  · simp only [bind, Except.bind] at h
    split at h
    · cases h
    · rename_i w1 hframes
      cases h
      obtain ⟨fs, hadded, hlen⟩ := genFrames_count hframes
      have hnew : (lportSend env.dev w1.tx).added.drop w.tx.added.length = fs := by
        rw [lportSend, lportTxBufferFlush_added, hadded]
        exact List.drop_left
      rw [newlyAdded, hnew, hlen]

/-- **The cycle.**  As many frames as the cut number says. -/
theorem genCycle_count {env : Env C D} {ty : FrameType} {getBulk : UInt16 → Option (List Mbuf)}
    {mbufs mbufs' : Mem (Option Mbuf)} {w w' : World C D} (hpool : AllOrNone getBulk)
    (hgot : getBulk (nbPkts (env.app.cls ty)) ≠ none)
    (h : genCycle env ty getBulk mbufs w = .ok (w', mbufs')) :
    (newlyAdded w w').length = (nbPkts (env.app.cls ty)).toNat := by
  obtain ⟨ms, hms⟩ := Option.ne_none_iff_exists'.mp hgot
  have hlen := hpool _ _ hms
  have hbulk : lportTxGetBulk getBulk mbufs (nbPkts (env.app.cls ty)) =
      some (write mbufs 0 (ms.map some)) := by rw [lportTxGetBulk, hms]; rfl
  simp only [genCycle, hbulk] at h
  rw [← hlen, entries_write] at h
  cases hgen : genAndSendFrames env ty (env.app.cls ty).numFramesPerCycle (some ms) w with
  | error e =>
    rw [hgen] at h
    cases h
  | ok w1 =>
    rw [hgen] at h
    cases h
    rw [genAndSendFrames_count (fun hzero => ?_) hgen, hlen]
    rw [nbPkts, hzero] at hlen
    exact List.length_eq_zero_iff.mp hlen

/-- A pool that is never empty. -/
def fullPool (n : UInt16) : Option (List Mbuf) :=
  some (List.replicate n.toNat ⟨0, fun _ => 0, 0, 0⟩)

theorem fullPool_allOrNone : AllOrNone fullPool := by
  rintro n ms hms
  rw [← Option.some.inj hms, List.length_replicate]

/-- A larger burst writes the entry behind the array. -/
theorem lportTxGetBulk_overrun {n : UInt16} (hn : maxPktBurst < n.toNat)
    (mbufs : Mem (Option Mbuf)) :
    ∃ mbufs', lportTxGetBulk fullPool mbufs n = some mbufs' ∧
      (mbufs' maxPktBurst).isSome = true := by
  have hlong : maxPktBurst <
      ((List.replicate n.toNat (⟨0, fun _ => 0, 0, 0⟩ : Mbuf)).map some).length := by
    rwa [List.length_map, List.length_replicate]
  have hlast := write_inside mbufs 0 _ maxPktBurst hlong
  rw [Nat.zero_add, List.getElem_map] at hlast
  exact ⟨_, rfl, congrArg Option.isSome hlast⟩

theorem BurstsAgree.fits {cfg : AppConfig} {ty : FrameType} (h : BurstsAgree cfg ty) :
    (cfg.cls ty).numFramesPerCycle.toNat ≤ maxPktBurst := by
  have hsame : (nbPkts (cfg.cls ty)).toNat = (cfg.cls ty).numFramesPerCycle.toNat := by
    rw [← h.taken fullPool _ fullPool_allOrNone rfl, List.length_replicate]
  by_contra hbig
  obtain ⟨mbufs', hbulk, hlast⟩ := lportTxGetBulk_overrun (n := nbPkts (cfg.cls ty)) (by omega)
    fun _ => none
  rw [h.txWithin fullPool _ _ fullPool_allOrNone hbulk maxPktBurst (Nat.le_refl _)] at hlast
  cases hlast

theorem burstsAgree_of_fits {cfg : AppConfig} {ty : FrameType}
    (hn : (cfg.cls ty).numFramesPerCycle.toNat ≤ maxPktBurst) : BurstsAgree cfg ty := by
  have h16 : (cfg.cls ty).numFramesPerCycle.toNat < 2 ^ 16 := Nat.lt_of_le_of_lt hn (by decide)
  have hsame : (nbPkts (cfg.cls ty)).toNat = (cfg.cls ty).numFramesPerCycle.toNat := by
    rw [nbPkts_toNat]
    exact Nat.mod_eq_of_lt h16
  refine ⟨fun getBulk ms hpool hms => (hpool _ _ hms).trans hsame, ?_, ?_, ?_, ?_, ?_⟩
  · rintro C D env rfl getBulk mbufs mbufs' w w' hpool hgot h
    exact (genCycle_count hpool hgot h).trans hsame
  · intro getBulk mbufs mbufs' hpool h i hi
    obtain ⟨ms, hms, rfl⟩ := lportTxGetBulk_ok h
    apply write_above
    rw [List.length_map, hpool _ _ hms]
    omega
  · intro mbufs timoNs polls i hi
    have hinv := lportRx_inv (cfg.cls ty) mbufs timoNs polls
    have hleft := hinv.left
    exact hinv.behind i (by omega)
  · rintro C D env rfl stack w mbufs timoNs polls
    have hinv := lportRx_inv (env.app.cls ty) mbufs timoNs polls
    have hleft := hinv.left
    have hlen := lportProcessPkts_burst (env.app.cls ty) mbufs timoNs polls
    exact ⟨_, by rw [hlen, hinv.total]; omega, hlen,
      lportProcessPkts_eq env ty stack w mbufs timoNs polls⟩
  · rintro C D env rfl w stack m lay r hdec
    rw [(decode_spec env ty hdec).sequenceCounter, nbPkts, (divisor_eq ty h16).2]

theorem lportRx_full (c : ClassConfig) (mbufs : Mem (Option Mbuf)) (timoNs : UInt64)
    (waiting : List Mbuf) (hwaiting : (nbPkts c).toNat ≤ waiting.length) (now : UInt64) {i : Nat}
    (hi : i < (nbPkts c).toNat) :
    ((lportRx mbufs (burstSz c) timoNs [⟨waiting, now⟩]).mbufs i).isSome = true := by
  have hinv := lportRx_inv c mbufs timoNs [⟨waiting, now⟩]
  apply hinv.filled
  have hne : nbPkts c ≠ 0 := by
    intro hzero
    rw [hzero] at hi
    cases hi
  have htake : waiting.take (nbPkts c).toNat ≠ [] := by
    intro hnil
    have hlen := congrArg List.length hnil
    rw [List.length_take, Nat.min_eq_left hwaiting, List.length_nil] at hlen
    omega
  have hpos : (lportRx mbufs (burstSz c) timoNs [⟨waiting, now⟩]).pos = (nbPkts c).toNat := by
    rw [lportRx, burstSz_toUInt16, rxLoop, if_neg hne]
    simp only [if_pos htake, rxLoop, RxLocals.got, List.length_take, Nat.min_eq_left hwaiting]
    omega
  omega

/-- A file for TsnHigh with so many frames per cycle. -/
def burstFile (numFrames : String) : File :=
  ⟨true, entry "TsnHighEnabled" "true" ++ entry "TsnHighNumFramesPerCycle" numFrames ++
    [.streamEnd]⟩

def burstYaml : CStr := lit "burst.yaml"

end Rtdk.Burst
