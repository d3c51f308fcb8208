import Rtdk.Accumulator
import Rtdk.Fuel
import Rtdk.Memory
import Rtdk.SendPackets

/-! The mirror of the round-trip tool (`ratt/mirror.c`).

`mirror_routine` sends what it receives back, with the MAC addresses of its port. With
`--mirror-serial` it waits for a whole burst and runs the workload before it sends. How
often `is_running` still says yes is part of the state: once it has said no, it does not
say yes again. -/

namespace Rtdk.RattMirror
open Rtdk.Memory Rtdk.Accumulator Rtdk.Fuel Rtdk.Handover

/-- The bytes of a packet. -/
abbrev Packet := Mem UInt8

/-- `rte_eth_rx_burst`: what arrives, at most as much as is asked for. -/
structure RxDevice (E : Type) where
  rxBurst : E → UInt16 → List Packet × E
  rxBurst_le : ∀ e n, (rxBurst e n).1.length ≤ n.toNat

structure Lport where
  srcMac : Vector UInt8 6
  dstMac : Vector UInt8 6

/-- What the mirror finds around it. -/
structure Env (D E : Type) where
  rx : RxDevice E
  tx : SendPackets.Device D Packet
  lport : Lport
  burstCount : UInt16
  internalDebugEnabled : Bool
  workloadEnabled : Bool
  linkUp : Nat → Bool
  clockGetNs : Nat → UInt64

/-- The statistics the mirror keeps. -/
structure Stats where
  totalRx : UInt64
  totalTx : UInt64
  txRingFull : UInt64
  rxTimeout : UInt64
  rxSnapshot : MinAvgMax
  txSnapshot : MinAvgMax
  workload : MinAvgMax
  workloadSnapshot : MinAvgMax

/-- The devices, the answers `is_running` still has to give, the readings of the clock, the
statistics, and as history what has been received, sent and freed. -/
structure Mirror (D E : Type) where
  rx : E
  tx : D
  left : Nat
  readings : Nat
  stats : Stats
  received : List Packet
  sent : List Packet
  freed : List Packet

def maxBurstCount : UInt16 := 2048
def bigNum : UInt64 := 1000000

section model
variable {D E : Type} (env : Env D E)

def isRunning (m : Mirror D E) : Bool × Mirror D E :=
  (decide (0 < m.left), { m with left := m.left - 1 })

def clockGetNs (m : Mirror D E) : UInt64 × Mirror D E :=
  (env.clockGetNs m.readings, { m with readings := m.readings + 1 })

def rteEthRxBurst (n : UInt16) (m : Mirror D E) : List Packet × Mirror D E :=
  let (pkts, e) := env.rx.rxBurst m.rx n
  (pkts, { m with rx := e, received := m.received ++ pkts })

def beginTime (begin : UInt64) (m : Mirror D E) : UInt64 × Mirror D E :=
  if env.internalDebugEnabled then clockGetNs env m else (begin, m)

/-- `end_time`, for the accumulator that `update` changes. -/
def endTime (update : (MinAvgMax → MinAvgMax) → Stats → Stats) (begin : UInt64)
    (m : Mirror D E) : Mirror D E :=
  if env.internalDebugEnabled then
    let (now, m) := clockGetNs env m
    { m with stats := update (minAvgMaxUpdate · (now - begin)) m.stats }
  else m

def onRxSnapshot (f : MinAvgMax → MinAvgMax) (s : Stats) : Stats :=
  { s with rxSnapshot := f s.rxSnapshot }

def onTxSnapshot (f : MinAvgMax → MinAvgMax) (s : Stats) : Stats :=
  { s with txSnapshot := f s.txSnapshot }

/-- The workload between two readings of the clock. -/
def runWorkload (m : Mirror D E) : Mirror D E :=
  if env.workloadEnabled then
    let (begin, m) := clockGetNs env m
    let (now, m) := clockGetNs env m
    let s := m.stats
    { m with stats := { s with
        workload := minAvgMaxUpdate s.workload (now - begin)
        workloadSnapshot := minAvgMaxUpdate s.workloadSnapshot (now - begin) } }
  else m

def updateMacAddr (lport : Lport) (p : Packet) : Packet :=
  write (write p 6 lport.srcMac.toList) 0 lport.dstMac.toList

def updateMacAddrs (lport : Lport) (mbufs : List Packet) : List Packet :=
  mbufs.map (updateMacAddr lport)

def sendPackets (fuel : Nat) (mbufs : List Packet) (m : Mirror D E) : Option (Mirror D E) :=
  (SendPackets.Ratt.sendPackets env.tx (fun k => decide (k < m.left)) fuel m.tx
    m.stats.txRingFull mbufs (UInt16.ofNat mbufs.length)).map fun r =>
    { m with
      tx := r.device
      left := m.left - r.asked
      stats := { m.stats with txRingFull := r.txRingFull }
      sent := m.sent ++ r.sent
      freed := m.freed ++ r.freed }

/-- The part of a turn behind the receive calls. -/
def forward (fuel : Nat) (begin : UInt64) (mbufs : List Packet) (m : Mirror D E) :
    Option (UInt64 × Mirror D E) := do
  let (begin, m) := beginTime env begin m
  let m ← sendPackets env fuel (updateMacAddrs env.lport mbufs) m
  return (begin, endTime env onTxSnapshot begin m)

def Stats.count (s : Stats) (n : UInt16) : Stats :=
  { s with totalRx := s.totalRx + n.toUInt64, totalTx := s.totalTx + n.toUInt64 }

/-! ## Serial mode -/

/-- The locals of the receive loop. `complete` says that it was left for `record`. -/
structure Batch (D E : Type) where
  mirror : Mirror D E
  pkts : List Packet
  toRecv : UInt16
  totalRx : UInt16
  complete : Bool

/-- A pass of `do { … } while (is_running())`. -/
def receivePass (b : Batch D E) : Batch D E × Bool :=
  let (pkts, m) := rteEthRxBurst env b.toRecv b.mirror
  let nbRx := UInt16.ofNat pkts.length
  let toRecv := b.toRecv - nbRx
  let totalRx := b.totalRx + nbRx
  let b := { b with mirror := m, pkts := b.pkts ++ pkts, toRecv := toRecv, totalRx := totalRx }
  if nbRx ≠ 0 ∧ toRecv = 0 then
    ({ b with mirror := { m with stats := m.stats.count totalRx }, complete := true }, false)
  else
    let (running, m) := isRunning m
    ({ b with mirror := m }, running)

def receiveBatch (fuel : Nat) (m : Mirror D E) : Option (Batch D E) :=
  (DoWhile.run (receivePass env) fuel
    { mirror := m, pkts := [], toRecv := env.burstCount, totalRx := 0, complete := false }).map
    fun b =>
      if b.complete then b
      else
        let m := b.mirror
        { b with mirror :=
          { m with stats := { m.stats with rxTimeout := m.stats.rxTimeout + 1 } } }

/-- A turn of `while (is_running())`, from `begin_ns` on. -/
def serialTurn (fuel : Nat) (s : UInt64 × Mirror D E) : Option ((UInt64 × Mirror D E) × Bool) :=
  let (begin, m) := s
  let (running, m) := isRunning m
  if !running then some ((begin, m), false)
  else do
    let (begin, m) := beginTime env begin m
    let b ← receiveBatch env fuel m
    let m := endTime env onRxSnapshot begin b.mirror
    let m := runWorkload env m
    let s ← forward env fuel begin b.pkts m
    return (s, true)

/-! ## Without -/

def burstTurn (fuel : Nat) (s : UInt64 × Mirror D E) : Option ((UInt64 × Mirror D E) × Bool) :=
  let (begin, m) := s
  let (running, m) := isRunning m
  if !running then some ((begin, m), false)
  else
    let (begin, m) := beginTime env begin m
    let (mbufs, m) := rteEthRxBurst env maxBurstCount m
    let nbRx := UInt16.ofNat mbufs.length
    if nbRx = 0 then some ((begin, m), true)
    else do
      let m := endTime env onRxSnapshot begin m
      let m := { m with stats := m.stats.count nbRx }
      let s ← forward env fuel begin mbufs m
      return (s, true)

/-! ## The routine -/

/-- A pass of the loop that waits for the link, with the number of the pass. It ends with
the link or without `is_running`. -/
def linkPass (s : Nat × Bool × Mirror D E) : (Nat × Bool × Mirror D E) × Bool :=
  let (k, _, m) := s
  if env.linkUp k then ((k, true, m), false)
  else
    let (running, m) := isRunning m
    ((k + 1, false, m), running)

def initWorkload (m : Mirror D E) : Mirror D E :=
  if env.workloadEnabled then
    { m with stats := { m.stats with workload := { m.stats.workload with minNs := bigNum } } }
  else m

def mirrorRoutine (mirrorSerialEnabled : Bool) (fuel : Nat) (m : Mirror D E) :
    Option (Mirror D E) := do
  let (_, up, m) ← DoWhile.run (linkPass env) fuel (0, false, m)
  if !up then return m
  else
    let m := initWorkload env m
    let turn := if mirrorSerialEnabled then serialTurn env else burstTurn env
    let (_, m) ← loop turn fuel (0, m)
    return m

end model

/-! ## What is wanted -/

/-- The packet with the addresses of the port, and otherwise as it was. -/
structure Mirrored (lport : Lport) (p q : Packet) : Prop where
  destination : slice q 0 6 = lport.dstMac.toList
  source : slice q 6 6 = lport.srcMac.toList
  rest : ∀ i, 12 ≤ i → q i = p i

theorem mirrored_updateMacAddr (lport : Lport) (p : Packet) :
    Mirrored lport p (updateMacAddr lport p) := by
  have hdst : lport.dstMac.toList.length = 6 := by simp
  have hsrc : lport.srcMac.toList.length = 6 := by simp
  refine ⟨slice_write_eq _ 0 hdst, ?_, fun i hi => ?_⟩
  · rw [updateMacAddr, slice_write_disjoint _ 0 _ 6 6 (by omega)]
    exact slice_write_eq _ 6 hsrc
  · rw [updateMacAddr, write_above _ 0 _ i (by omega), write_above _ 6 _ i (by omega)]

theorem forall₂_updateMacAddrs (lport : Lport) (ps : List Packet) :
    List.Forall₂ (Mirrored lport) ps (updateMacAddrs lport ps) := by
  induction ps with
  | nil => exact .nil
  | cons p ps ih => exact .cons (mirrored_updateMacAddr lport p) ih

/-! ## What the clock and the accumulators do not change -/

/-- The part of the state that says what becomes of the packets. -/
structure View (D : Type) where
  tx : D
  left : Nat
  received : List Packet
  sent : List Packet
  freed : List Packet
  totalRx : UInt64
  totalTx : UInt64
  rxTimeout : UInt64
  workloads : UInt64

def Mirror.view {D E : Type} (m : Mirror D E) : View D :=
  ⟨m.tx, m.left, m.received, m.sent, m.freed, m.stats.totalRx, m.stats.totalTx, m.stats.rxTimeout,
    m.stats.workload.count⟩

section steps
variable {D E : Type} {env : Env D E}

variable (env) in
theorem beginTime_view (begin : UInt64) (m : Mirror D E) :
    (beginTime env begin m).2.view = m.view := by
  unfold beginTime
  split <;> rfl

variable (env) in
theorem endTime_view {update : (MinAvgMax → MinAvgMax) → Stats → Stats}
    (hupdate : update = onRxSnapshot ∨ update = onTxSnapshot) (begin : UInt64) (m : Mirror D E) :
    (endTime env update begin m).view = m.view := by
  unfold endTime
  rcases hupdate with rfl | rfl <;> split <;> rfl

variable (env) in
theorem runWorkload_view (m : Mirror D E) :
    (runWorkload env m).view =
      { m.view with
        workloads := m.view.workloads + if env.workloadEnabled then 1 else 0 } := by
  unfold runWorkload
  split
  · rfl
  · rw [UInt64.add_zero]

theorem initWorkload_view (m : Mirror D E) : (initWorkload env m).view = m.view := by
  unfold initWorkload
  split <;> rfl

theorem isRunning_view {m m' : Mirror D E} {running : Bool} (h : isRunning m = (running, m')) :
    m'.view = { m.view with left := m.left - 1 } ∧ (running = true ↔ 0 < m.left) := by
  cases h
  exact ⟨rfl, decide_eq_true_iff⟩

theorem isRunning_no {m m' : Mirror D E} (h : isRunning m = (false, m')) : m'.view = m.view := by
  obtain ⟨hview, hiff⟩ := isRunning_view h
  have hzero : m.left = 0 := by
    by_contra hne
    exact absurd (hiff.mpr (Nat.pos_of_ne_zero hne)) Bool.false_ne_true
  rw [hview, hzero]
  show ({ m.view with left := 0 } : View D) = { m.view with left := m.left }
  rw [hzero]

theorem rteEthRxBurst_view {n : UInt16} {m m' : Mirror D E} {pkts : List Packet}
    (h : rteEthRxBurst env n m = (pkts, m')) :
    m'.view = { m.view with received := m.received ++ pkts } ∧ pkts.length ≤ n.toNat := by
  have hle := env.rx.rxBurst_le m.rx n
  cases h
  exact ⟨rfl, hle⟩

/-! ## Sending -/

variable (env) in
theorem sendPackets_yields (m : Mirror D E) {pkts : List Packet} (hcount : pkts.length < 2 ^ 16) :
    ∃ m' sent freed calls, Yields (fun fuel => sendPackets env fuel pkts m) m' ∧
      Drains env.tx.burst offerAll m.tx pkts calls sent freed m'.tx ∧
      m'.left ≤ m.left ∧ (freed ≠ [] → m'.left = 0) ∧
      m'.view = { m.view with
        tx := m'.tx, left := m'.left, sent := m.sent ++ sent, freed := m.freed ++ freed } := by
  have hnum : (UInt16.ofNat pkts.length).toNat = pkts.length := by
    rw [UInt16.toNat_ofNat', Nat.mod_eq_of_lt hcount]
  have hstop : ∃ k, decide (k < m.left) = false := ⟨m.left, by simp⟩
  have hpassed (s s' : SendPackets.Sending D Packet UInt16) (goes : Bool)
      (hlength : s.numMbufs.toNat = s.mbufs.length)
      (hpass : SendPackets.retryPass env.tx (fun k => decide (k < m.left)) (· + 1) s = (s', goes)) :
      SendPackets.Passed env.tx offerAll UInt16.toNat (fun k => decide (k < m.left)) s s' goes :=
    SendPackets.retryPass_passed (· + 1) s s' goes hlength hpass
  obtain ⟨r, hr, hparts⟩ := SendPackets.partitions hpassed hstop
    (s := ⟨m.tx, pkts, UInt16.ofNat pkts.length, m.stats.txRingFull, 0, []⟩) rfl hnum rfl
  obtain ⟨calls, hdrains, -⟩ := hparts.device
  refine ⟨_, r.sent, r.freed, calls, Yields.map _ hr, hdrains, Nat.sub_le _ _, fun hfreed => ?_,
    rfl⟩
  obtain ⟨k, hk, hno⟩ := hparts.stopped hfreed
  rw [decide_eq_false_iff_not] at hno
  show m.left - r.asked = 0
  omega

variable (env) in
theorem forward_yields (begin : UInt64) (m : Mirror D E) {pkts : List Packet}
    (hcount : pkts.length < 2 ^ 16) :
    ∃ begin' m' sent freed calls,
      Yields (fun fuel => forward env fuel begin pkts m) (begin', m') ∧
      Drains env.tx.burst offerAll m.tx (updateMacAddrs env.lport pkts) calls sent
        freed m'.tx ∧
      m'.left ≤ m.left ∧ (freed ≠ [] → m'.left = 0) ∧
      m'.view = { m.view with
        tx := m'.tx, left := m'.left, sent := m.sent ++ sent, freed := m.freed ++ freed } := by
  have hlength : (updateMacAddrs env.lport pkts).length < 2 ^ 16 := by
    rw [updateMacAddrs, List.length_map]
    exact hcount
  have hbegin := beginTime_view env begin m
  obtain ⟨m', sent, freed, calls, hsend, hdrains, hleft, hfreed, hview⟩ :=
    sendPackets_yields env (beginTime env begin m).2 hlength
  have hend := endTime_view env (.inr rfl) (beginTime env begin m).1 m'
  have hleft' : (endTime env onTxSnapshot (beginTime env begin m).1 m').left = m'.left :=
    congrArg View.left hend
  have htx' : (endTime env onTxSnapshot (beginTime env begin m).1 m').tx = m'.tx :=
    congrArg View.tx hend
  have hstart : (beginTime env begin m).2.left = m.left := congrArg View.left hbegin
  have htx : (beginTime env begin m).2.tx = m.tx := congrArg View.tx hbegin
  refine ⟨(beginTime env begin m).1, endTime env onTxSnapshot (beginTime env begin m).1 m', sent,
    freed, calls, ?_, ?_, ?_, ?_, ?_⟩
  · exact hsend.bind (yields_some _)
  · rw [htx', ← htx]
    exact hdrains
  · rw [hleft', ← hstart]
    exact hleft
  · rw [hleft']
    exact hfreed
  · have hsent : (beginTime env begin m).2.sent = m.sent := congrArg View.sent hbegin
    have hold : (beginTime env begin m).2.freed = m.freed := congrArg View.freed hbegin
    rw [hend, hview, hbegin, hleft', htx', hsent, hold]

/-! ## Receiving a batch -/

/-- What holds before each pass of the receive loop, for a call that finds `m`. -/
structure Receiving (env : Env D E) (m : Mirror D E) (b : Batch D E) : Prop where
  view : b.mirror.view =
    { m.view with left := b.mirror.left, received := m.received ++ b.pkts }
  left : b.mirror.left ≤ m.left
  total : b.totalRx.toNat = b.pkts.length
  toRecv : b.toRecv.toNat + b.pkts.length = env.burstCount.toNat
  wanted : env.burstCount ≠ 0 → b.toRecv ≠ 0
  complete : b.complete = false

/-- What the receive loop leaves. -/
inductive Received (env : Env D E) (m : Mirror D E) (b : Batch D E) : Prop
  | complete (length : b.pkts.length = env.burstCount.toNat) (left : b.mirror.left ≤ m.left)
      (view : b.mirror.view = { m.view with
        left := b.mirror.left
        received := m.received ++ b.pkts
        totalRx := m.stats.totalRx + env.burstCount.toUInt64
        totalTx := m.stats.totalTx + env.burstCount.toUInt64 })
  | cut (length : b.pkts.length ≤ env.burstCount.toNat - 1) (left : b.mirror.left = 0)
      (view : b.mirror.view = { m.view with
        left := 0
        received := m.received ++ b.pkts
        rxTimeout := m.stats.rxTimeout + 1 })

/-- What the last pass leaves. -/
inductive Stopped (env : Env D E) (m : Mirror D E) (b : Batch D E) : Prop
  | complete (flag : b.complete = true) (received : Received env m b)
  | cut (flag : b.complete = false) (length : b.pkts.length ≤ env.burstCount.toNat - 1)
      (left : b.mirror.left = 0)
      (view : b.mirror.view = { m.view with left := 0, received := m.received ++ b.pkts })

theorem receivePass_spec {m : Mirror D E} {b b' : Batch D E} {goes : Bool}
    (h : Receiving env m b) (hpass : receivePass env b = (b', goes)) :
    (goes = true → Receiving env m b' ∧ b'.mirror.left < b.mirror.left) ∧
      (goes = false → Stopped env m b') := by
  obtain ⟨pkts, m₁, hburst⟩ : ∃ pkts m₁, rteEthRxBurst env b.toRecv b.mirror = (pkts, m₁) :=
    ⟨_, _, rfl⟩
  obtain ⟨hview₁, hle⟩ := rteEthRxBurst_view hburst
  have hrecv := b.toRecv.toNat_lt
  have hnum : (UInt16.ofNat pkts.length).toNat = pkts.length := by
    rw [UInt16.toNat_ofNat', Nat.mod_eq_of_lt (by omega)]
  have hsub : (b.toRecv - UInt16.ofNat pkts.length).toNat = b.toRecv.toNat - pkts.length := by
    rw [UInt16.toNat_sub_of_le _ _ (UInt16.le_iff_toNat_le.mpr (by omega)), hnum]
  have hburstCount := env.burstCount.toNat_lt
  have hsum := h.toRecv
  have hadd : (b.totalRx + UInt16.ofNat pkts.length).toNat = b.pkts.length + pkts.length := by
    rw [UInt16.toNat_add, hnum, h.total, Nat.mod_eq_of_lt (by omega)]
  have hlength : (b.pkts ++ pkts).length = b.pkts.length + pkts.length := List.length_append
  have hleft₁ : m₁.left = b.mirror.left := congrArg View.left hview₁
  have hview : m₁.view =
      { m.view with left := m₁.left, received := m.received ++ (b.pkts ++ pkts) } := by
    have hold : b.mirror.received = m.received ++ b.pkts := congrArg View.received h.view
    rw [hview₁, h.view, hold, hleft₁, List.append_assoc]
  have hrx : m₁.stats.totalRx = m.stats.totalRx := congrArg View.totalRx hview
  have htx : m₁.stats.totalTx = m.stats.totalTx := congrArg View.totalTx hview
  have hold : m₁.left ≤ m.left := hleft₁ ▸ h.left
  simp only [receivePass, hburst] at hpass
  split at hpass
  · rename_i hlast
    cases hpass
    refine ⟨nofun, fun _ => .complete rfl (.complete ?_ hold ?_)⟩
    · rw [hlast.2] at hsub
      have hzero : (0 : UInt16).toNat = 0 := rfl
      rw [hlength]
      omega
    · have htotal : b.totalRx + UInt16.ofNat pkts.length = env.burstCount := by
        rw [hlast.2] at hsub
        have hzero : (0 : UInt16).toNat = 0 := rfl
        apply UInt16.toNat_inj.mp
        omega
      have hcounted : ({ m₁ with stats := m₁.stats.count env.burstCount } : Mirror D E).view =
          { m₁.view with
            totalRx := m₁.stats.totalRx + env.burstCount.toUInt64
            totalTx := m₁.stats.totalTx + env.burstCount.toUInt64 } := rfl
      rw [htotal, hcounted, hview, hrx, htx]
  · rename_i hmore
    obtain ⟨running, m₂, hrun⟩ : ∃ running m₂, isRunning m₁ = (running, m₂) := ⟨_, _, rfl⟩
    obtain ⟨hview₂, hiff⟩ := isRunning_view hrun
    have hleft₂ : m₂.left = m₁.left - 1 := congrArg View.left hview₂
    simp only [hrun] at hpass
    cases hpass
    have hview' : m₂.view =
        { m.view with left := m₂.left, received := m.received ++ (b.pkts ++ pkts) } := by
      rw [hview₂, hview, hleft₂]
    have hwanted : env.burstCount ≠ 0 → b.toRecv - UInt16.ofNat pkts.length ≠ 0 := by
      intro hburst hzero
      refine hmore ⟨fun hnone => h.wanted hburst ?_, hzero⟩
      rw [hnone, UInt16.sub_zero] at hzero
      exact hzero
    constructor
    · intro hgoes
      have hpos := hiff.mp hgoes
      refine ⟨⟨hview', ?_, ?_, ?_, hwanted, h.complete⟩, ?_⟩
      · show m₂.left ≤ m.left
        omega
      · rw [hadd, hlength]
      · rw [hsub, hlength]
        omega
      · show m₂.left < b.mirror.left
        omega
    · intro hgoes
      have hzero : m₁.left = 0 := by
        by_contra hne
        rw [hiff.mpr (Nat.pos_of_ne_zero hne)] at hgoes
        cases hgoes
      have hnone : m₂.left = 0 := by omega
      refine .cut h.complete ?_ hnone (hnone ▸ hview')
      by_cases hburst : env.burstCount = 0
      · have hsize : env.burstCount.toNat = 0 := by rw [hburst]; rfl
        rw [hlength]
        omega
      · have hpos : (b.toRecv - UInt16.ofNat pkts.length).toNat ≠ 0 := fun hz =>
          hwanted hburst (UInt16.toNat_inj.mp hz)
        rw [hlength]
        omega

variable (env) in
theorem receiveBatch_yields (m : Mirror D E) :
    ∃ b, Yields (fun fuel => receiveBatch env fuel m) b ∧ Received env m b := by
  have hstart : Receiving env m
      { mirror := m, pkts := [], toRecv := env.burstCount, totalRx := 0, complete := false } := by
    refine ⟨?_, Nat.le_refl _, rfl, rfl, id, rfl⟩
    rw [List.append_nil]
    rfl
  have hnext (b b' : Batch D E) (hb : Receiving env m b) (hpass : receivePass env b = (b', true)) :
      Receiving env m b' ∧ b'.mirror.left < b.mirror.left := (receivePass_spec hb hpass).1 rfl
  obtain ⟨b, hend, hstopped⟩ := DoWhile.ends_of_variant (receivePass env) hnext
    (fun _ _ hb hpass => (receivePass_spec hb hpass).2 rfl) hstart
  refine ⟨_, (yields_of_ends hend).map _, ?_⟩
  cases hstopped with
  | complete hflag hreceived =>
    rw [hflag]
    exact hreceived
  | cut hflag hlength hleft hview =>
    rw [hflag]
    refine .cut hlength hleft ?_
    have htimeout : b.mirror.stats.rxTimeout = m.stats.rxTimeout := congrArg View.rxTimeout hview
    have hcounted (m' : Mirror D E) (n : UInt64) :
        ({ m' with stats := { m'.stats with rxTimeout := n } } : Mirror D E).view =
          { m'.view with rxTimeout := n } := rfl
    simp only [Bool.false_eq_true, if_false]
    rw [hcounted, hview, htimeout]

/-! ## A turn -/

/-- Everything received so far is mirrored, in order, in bursts to the device that was
found as `tx`; only what was left when `is_running` said no is freed, which is `bound`
packets at most. -/
structure Forwarded (env : Env D E) (tx : D) (bound : Nat) (v : View D) : Prop where
  parts : v.sent ++ v.freed = updateMacAddrs env.lport v.received
  device : Batches env.tx.burst offerAll tx (v.sent ++ v.freed) v.sent v.freed v.tx
  stopped : v.freed ≠ [] → v.left = 0
  bounded : v.freed.length ≤ bound

/-- The accounts in serial mode: `k` whole batches, and one with `r` packets if the receive
loop has been cut off, which `t` counts. -/
structure Serial (env : Env D E) (tx : D) (s : Stats) (v : View D) (k r t : Nat) : Prop where
  forwarded : Forwarded env tx env.burstCount.toNat v
  received : v.received.length = k * env.burstCount.toNat + r
  short : r ≤ env.burstCount.toNat - 1
  totalRx : v.totalRx = s.totalRx + UInt64.ofNat (k * env.burstCount.toNat)
  totalTx : v.totalTx = s.totalTx + UInt64.ofNat (k * env.burstCount.toNat)
  rxTimeout : v.rxTimeout = s.rxTimeout + UInt64.ofNat t
  workloads : v.workloads =
    s.workload.count + if env.workloadEnabled then UInt64.ofNat (k + t) else 0
  cut : t = 0 ∧ r = 0 ∨ t = 1 ∧ v.left = 0

/-- The accounts without serial mode. -/
structure Direct (env : Env D E) (tx : D) (s : Stats) (v : View D) : Prop where
  forwarded : Forwarded env tx 2048 v
  totalRx : v.totalRx = s.totalRx + UInt64.ofNat v.received.length
  totalTx : v.totalTx = s.totalTx + UInt64.ofNat v.received.length
  rxTimeout : v.rxTimeout = s.rxTimeout
  workloads : v.workloads = s.workload.count

/-- What `forward` makes of a batch, for the view `v` in front of the receive calls. -/
theorem Forwarded.step {tx : D} {bound : Nat} {v w : View D} {pkts sent freed : List Packet}
    {calls : Nat} (h : Forwarded env tx bound v) (hleft : 0 < v.left) (hbound : pkts.length ≤ bound)
    (hdrains : Drains env.tx.burst offerAll v.tx (updateMacAddrs env.lport pkts) calls
      sent freed w.tx) (hstop : freed ≠ [] → w.left = 0)
    (hreceived : w.received = v.received ++ pkts) (hsent : w.sent = v.sent ++ sent)
    (hfreed : w.freed = v.freed ++ freed) : Forwarded env tx bound w := by
  have hparts := hdrains.parts
  have hnone : v.freed = [] := by
    by_contra hne
    have hzero := h.stopped hne
    omega
  have hold := h.parts
  rw [hnone, List.append_nil] at hold
  rw [hnone, List.nil_append] at hfreed
  refine ⟨?_, ?_, ?_, ?_⟩
  · rw [hsent, hfreed, hreceived, List.append_assoc, hparts, hold, updateMacAddrs, updateMacAddrs,
      updateMacAddrs, List.map_append]
  · have hbatches := h.device.next hdrains
    rw [hnone, List.append_nil, List.nil_append, ← hparts, ← List.append_assoc, ← hsent,
      ← hfreed] at hbatches
    exact hbatches
  · rw [hfreed]
    exact hstop
  · have hlength := congrArg List.length hparts
    rw [List.length_append, updateMacAddrs, List.length_map] at hlength
    rw [hfreed]
    omega

theorem toUInt64_eq_ofNat (n : UInt16) : n.toUInt64 = UInt64.ofNat n.toNat := by
  apply UInt64.toNat_inj.mp
  have hlt := n.toNat_lt
  rw [UInt16.toNat_toUInt64, UInt64.toNat_ofNat', Nat.mod_eq_of_lt (by omega)]

theorem ofNat_succ_mul (k : Nat) (n : UInt16) :
    UInt64.ofNat ((k + 1) * n.toNat) = UInt64.ofNat (k * n.toNat) + n.toUInt64 := by
  rw [toUInt64_eq_ofNat, ← UInt64.ofNat_add, Nat.succ_mul]

theorem Serial.fresh {tx : D} {s : Stats} {v : View D} {k r t : Nat} (h : Serial env tx s v k r t)
    (hleft : 0 < v.left) : r = 0 ∧ t = 0 := by
  rcases h.cut with ⟨ht, hr⟩ | ⟨-, hzero⟩
  · exact ⟨hr, ht⟩
  · omega

/-- A whole batch. -/
theorem Serial.next {tx : D} {s : Stats} {v w : View D} {k r t : Nat} {pkts : List Packet}
    (h : Serial env tx s v k r t) (hleft : 0 < v.left)
    (hforwarded : Forwarded env tx env.burstCount.toNat w)
    (hreceived : w.received = v.received ++ pkts) (hlength : pkts.length = env.burstCount.toNat)
    (hrx : w.totalRx = v.totalRx + env.burstCount.toUInt64)
    (htx : w.totalTx = v.totalTx + env.burstCount.toUInt64) (htimeout : w.rxTimeout = v.rxTimeout)
    (hworkloads : w.workloads = v.workloads + if env.workloadEnabled then 1 else 0) :
    Serial env tx s w (k + 1) 0 0 := by
  obtain ⟨rfl, rfl⟩ := h.fresh hleft
  refine ⟨hforwarded, ?_, Nat.zero_le _, ?_, ?_, ?_, ?_, .inl ⟨rfl, rfl⟩⟩
  · rw [hreceived, List.length_append, h.received, hlength, Nat.succ_mul, Nat.add_zero,
      Nat.add_zero]
  · rw [hrx, h.totalRx, ofNat_succ_mul, UInt64.add_assoc]
  · rw [htx, h.totalTx, ofNat_succ_mul, UInt64.add_assoc]
  · rw [htimeout, h.rxTimeout]
  · rw [hworkloads, h.workloads, UInt64.add_assoc]
    cases env.workloadEnabled with
    | true =>
      simp only [if_true, Nat.add_zero, UInt64.ofNat_add k 1]
      rfl
    | false => rfl

/-- A batch that is cut off. -/
theorem Serial.last {tx : D} {s : Stats} {v w : View D} {k r t : Nat} {pkts : List Packet}
    (h : Serial env tx s v k r t) (hleft : 0 < v.left)
    (hforwarded : Forwarded env tx env.burstCount.toNat w)
    (hreceived : w.received = v.received ++ pkts)
    (hlength : pkts.length ≤ env.burstCount.toNat - 1) (hrx : w.totalRx = v.totalRx)
    (htx : w.totalTx = v.totalTx) (htimeout : w.rxTimeout = v.rxTimeout + 1)
    (hworkloads : w.workloads = v.workloads + if env.workloadEnabled then 1 else 0)
    (hzero : w.left = 0) : Serial env tx s w k pkts.length 1 := by
  obtain ⟨rfl, rfl⟩ := h.fresh hleft
  refine ⟨hforwarded, ?_, hlength, ?_, ?_, ?_, ?_, .inr ⟨rfl, hzero⟩⟩
  · rw [hreceived, List.length_append, h.received, Nat.add_zero]
  · rw [hrx, h.totalRx]
  · rw [htx, h.totalTx]
  · have hnone : UInt64.ofNat 0 = 0 := rfl
    rw [htimeout, h.rxTimeout, hnone, UInt64.add_zero]
    rfl
  · rw [hworkloads, h.workloads, UInt64.add_assoc]
    cases env.workloadEnabled with
    | true =>
      simp only [if_true, Nat.add_zero, UInt64.ofNat_add k 1]
      rfl
    | false => rfl

theorem Received.length_lt {m : Mirror D E} {b : Batch D E} (h : Received env m b) :
    b.pkts.length ≤ env.burstCount.toNat := by
  cases h with
  | complete hlength => exact Nat.le_of_eq hlength
  | cut hlength => exact Nat.le_trans hlength (Nat.sub_le _ _)

theorem serialTurn_spec {tx : D} {s : Stats} (begin : UInt64) {m : Mirror D E} {k r t : Nat}
    (h : Serial env tx s m.view k r t) :
    ∃ begin' m' goes, Yields (fun fuel => serialTurn env fuel (begin, m)) ((begin', m'), goes) ∧
      (∃ k r t, Serial env tx s m'.view k r t) ∧ (goes = true → m'.left < m.left) := by
  obtain ⟨running, m₁, hrun⟩ : ∃ running m₁, isRunning m = (running, m₁) := ⟨_, _, rfl⟩
  obtain ⟨hview₁, hiff⟩ := isRunning_view hrun
  have hleft₁ : m₁.left = m.left - 1 := congrArg View.left hview₁
  cases running with
  | false =>
    have hsame := isRunning_no hrun
    refine ⟨begin, m₁, false, ?_, ⟨k, r, t, hsame ▸ h⟩, nofun⟩
    simp only [serialTurn, hrun]
    exact yields_some _
  | true =>
    have hpos := hiff.mp rfl
    have hbegin := beginTime_view env begin m₁
    obtain ⟨b, hbatch, hreceived⟩ := receiveBatch_yields env (beginTime env begin m₁).2
    have hrx := endTime_view env (.inl rfl) (beginTime env begin m₁).1 b.mirror
    have hwork := runWorkload_view env
      (endTime env onRxSnapshot (beginTime env begin m₁).1 b.mirror)
    rw [hrx] at hwork
    have hcount := env.burstCount.toNat_lt
    have hbound := hreceived.length_lt
    obtain ⟨begin', m', sent, freed, calls, hforward, hdrains, hle, hstop, hview⟩ :=
      forward_yields env (beginTime env begin m₁).1
        (runWorkload env (endTime env onRxSnapshot (beginTime env begin m₁).1 b.mirror))
        (by omega : b.pkts.length < 2 ^ 16)
    have hyields : Yields (fun fuel => serialTurn env fuel (begin, m)) ((begin', m'), true) := by
      simp only [serialTurn, hrun]
      exact hbatch.bind (hforward.bind (yields_some _))
    have hm : (beginTime env begin m₁).2.view = { m.view with left := m₁.left } := by
      rw [hbegin, hview₁, hleft₁]
    generalize runWorkload env (endTime env onRxSnapshot (beginTime env begin m₁).1 b.mirror) = m₂
      at hwork hle hview hdrains
    generalize (beginTime env begin m₁).2 = m₃ at hreceived hm
    have hold : m₃.received = m.received := congrArg View.received hm
    have hforwarded (htx : m₂.tx = m.tx) (hsent : m₂.sent = m.sent) (hfreed : m₂.freed = m.freed)
        (hnew : m₂.received = m.received ++ b.pkts) :
        Forwarded env tx env.burstCount.toNat m'.view := by
      rw [htx] at hdrains
      refine h.forwarded.step hpos hbound hdrains hstop ?_ ?_ ?_ <;> rw [hview]
      · exact hnew
      · exact congrArg (· ++ sent) hsent
      · exact congrArg (· ++ freed) hfreed
    have hrx₃ : m₃.stats.totalRx = m.stats.totalRx := congrArg View.totalRx hm
    have htx₃ : m₃.stats.totalTx = m.stats.totalTx := congrArg View.totalTx hm
    have htimeout₃ : m₃.stats.rxTimeout = m.stats.rxTimeout := congrArg View.rxTimeout hm
    cases hreceived with
    | complete hlength hleft hb =>
      rw [hb, hm, hold, hrx₃, htx₃] at hwork
      have hleft₂ : m₂.left = b.mirror.left := congrArg View.left hwork
      have hleft₃ : m₃.left = m₁.left := congrArg View.left hm
      have hnew : m₂.received = m.received ++ b.pkts := congrArg View.received hwork
      refine ⟨begin', m', true, hyields, ⟨k + 1, 0, 0, ?_⟩, fun _ => by omega⟩
      have hparts := hforwarded (congrArg View.tx hwork) (congrArg View.sent hwork)
        (congrArg View.freed hwork) hnew
      rw [hview, hwork] at hparts ⊢
      exact h.next hpos hparts rfl hlength rfl rfl rfl rfl
    | cut hlength hleft hb =>
      rw [hb, hm, hold, htimeout₃] at hwork
      have hleft₂ : m₂.left = 0 := congrArg View.left hwork
      have hnone : m'.left = 0 := by omega
      have hnew : m₂.received = m.received ++ b.pkts := congrArg View.received hwork
      refine ⟨begin', m', true, hyields, ⟨k, b.pkts.length, 1, ?_⟩, fun _ => by omega⟩
      have hparts := hforwarded (congrArg View.tx hwork) (congrArg View.sent hwork)
        (congrArg View.freed hwork) hnew
      rw [hview, hwork] at hparts ⊢
      exact h.last hpos hparts rfl hlength rfl rfl rfl rfl hnone

theorem Direct.next {tx : D} {s : Stats} {v w : View D} (h : Direct env tx s v) (pkts : List Packet)
    (hforwarded : Forwarded env tx 2048 w) (hreceived : w.received = v.received ++ pkts)
    (hrx : w.totalRx = v.totalRx + UInt64.ofNat pkts.length)
    (htx : w.totalTx = v.totalTx + UInt64.ofNat pkts.length) (htimeout : w.rxTimeout = v.rxTimeout)
    (hworkloads : w.workloads = v.workloads) : Direct env tx s w := by
  refine ⟨hforwarded, ?_, ?_, htimeout.trans h.rxTimeout, hworkloads.trans h.workloads⟩
  · rw [hrx, h.totalRx, hreceived, List.length_append, UInt64.ofNat_add, UInt64.add_assoc]
  · rw [htx, h.totalTx, hreceived, List.length_append, UInt64.ofNat_add, UInt64.add_assoc]

theorem burstTurn_spec {tx : D} {s : Stats} (begin : UInt64) {m : Mirror D E} (h : Direct env tx s m.view) :
    ∃ begin' m' goes, Yields (fun fuel => burstTurn env fuel (begin, m)) ((begin', m'), goes) ∧
      Direct env tx s m'.view ∧ (goes = true → m'.left < m.left) := by
  obtain ⟨running, m₁, hrun⟩ : ∃ running m₁, isRunning m = (running, m₁) := ⟨_, _, rfl⟩
  obtain ⟨hview₁, hiff⟩ := isRunning_view hrun
  have hleft₁ : m₁.left = m.left - 1 := congrArg View.left hview₁
  cases running with
  | false =>
    have hsame := isRunning_no hrun
    refine ⟨begin, m₁, false, ?_, hsame ▸ h, nofun⟩
    simp only [burstTurn, hrun]
    exact yields_some _
  | true =>
    have hpos := hiff.mp rfl
    have hbegin := beginTime_view env begin m₁
    obtain ⟨pkts, m₂, hburst⟩ : ∃ pkts m₂,
        rteEthRxBurst env maxBurstCount (beginTime env begin m₁).2 = (pkts, m₂) := ⟨_, _, rfl⟩
    obtain ⟨hview₂, hbound⟩ := rteEthRxBurst_view hburst
    have hmax : maxBurstCount.toNat = 2048 := rfl
    have hnum : (UInt16.ofNat pkts.length).toNat = pkts.length := by
      rw [UInt16.toNat_ofNat', Nat.mod_eq_of_lt (by omega)]
    have hm : (beginTime env begin m₁).2.view = { m.view with left := m₁.left } := by
      rw [hbegin, hview₁, hleft₁]
    have hold : (beginTime env begin m₁).2.received = m.received := congrArg View.received hm
    rw [hm, hold] at hview₂
    have hleft₂ : m₂.left = m₁.left := congrArg View.left hview₂
    by_cases hnone : UInt16.ofNat pkts.length = 0
    · have hempty : pkts = [] := by
        rw [hnone] at hnum
        exact List.eq_nil_of_length_eq_zero hnum.symm
      refine ⟨(beginTime env begin m₁).1, m₂, true, ?_, ?_, fun _ => by omega⟩
      · simp only [burstTurn, hrun, hburst, if_pos hnone]
        exact yields_some _
      · have hzero : UInt64.ofNat ([] : List Packet).length = 0 := rfl
        subst hempty
        rw [hview₂]
        refine h.next [] ?_ rfl ?_ ?_ rfl rfl
        · exact h.forwarded.step hpos (Nat.zero_le _)
            (.start : Drains _ _ m.tx (updateMacAddrs env.lport []) 0 [] [] m.tx)
            (fun hne => absurd rfl hne) rfl (List.append_nil _).symm (List.append_nil _).symm
        · rw [hzero, UInt64.add_zero]
        · rw [hzero, UInt64.add_zero]
    · have hrx := endTime_view env (.inl rfl) (beginTime env begin m₁).1 m₂
      generalize hm₃ : endTime env onRxSnapshot (beginTime env begin m₁).1 m₂ = m₃ at hrx
      obtain ⟨begin', m', sent, freed, calls, hforward, hdrains, hle, hstop, hview⟩ :=
        forward_yields env (beginTime env begin m₁).1
          { m₃ with stats := m₃.stats.count (UInt16.ofNat pkts.length) } 
          (by omega : pkts.length < 2 ^ 16)
      have hleft₃ : m₃.left = m₂.left := congrArg View.left hrx
      refine ⟨begin', m', true, ?_, ?_, fun _ => ?_⟩
      · simp only [burstTurn, hrun, hburst, if_neg hnone, hm₃]
        exact hforward.bind (yields_some _)
      · have hcounted : ({ m₃ with stats := m₃.stats.count (UInt16.ofNat pkts.length) } :
            Mirror D E).view = { m₃.view with
              totalRx := m₃.view.totalRx + UInt64.ofNat pkts.length
              totalTx := m₃.view.totalTx + UInt64.ofNat pkts.length } := by
          rw [← hnum, ← toUInt64_eq_ofNat, hnum]
          rfl
        have hsent : m₃.sent = m.sent :=
          (congrArg View.sent hrx).trans (congrArg View.sent hview₂)
        have hfreed : m₃.freed = m.freed :=
          (congrArg View.freed hrx).trans (congrArg View.freed hview₂)
        have htx : m₃.tx = m.tx := (congrArg View.tx hrx).trans (congrArg View.tx hview₂)
        have hcalls : Drains env.tx.burst offerAll m.tx
            (updateMacAddrs env.lport pkts) calls sent freed m'.tx := htx ▸ hdrains
        rw [hcounted, hrx, hview₂] at hview
        rw [hview]
        refine h.next pkts ?_ rfl rfl rfl rfl rfl
        exact h.forwarded.step hpos hbound hcalls hstop rfl (congrArg (· ++ sent) hsent)
          (congrArg (· ++ freed) hfreed)
      · have hle' : m'.left ≤ m₃.left := hle
        omega

/-! ## A run -/

/-- Waiting for the link changes nothing but the calls left. -/
def Linking (m : Mirror D E) (s : Nat × Bool × Mirror D E) : Prop :=
  s.2.2.left ≤ m.left ∧ s.2.2.view = { m.view with left := s.2.2.left }

theorem linkPass_spec {m : Mirror D E} {s s' : Nat × Bool × Mirror D E} {goes : Bool}
    (h : Linking m s) (hpass : linkPass env s = (s', goes)) :
    Linking m s' ∧ (goes = true → s'.2.2.left < s.2.2.left) := by
  obtain ⟨k, up, m₁⟩ := s
  obtain ⟨hle, hview⟩ := h
  simp only [linkPass] at hpass
  split at hpass
  · cases hpass
    exact ⟨⟨hle, hview⟩, nofun⟩
  · obtain ⟨running, m₂, hrun⟩ : ∃ running m₂, isRunning m₁ = (running, m₂) := ⟨_, _, rfl⟩
    obtain ⟨hview₂, hiff⟩ := isRunning_view hrun
    have hleft₂ : m₂.left = m₁.left - 1 := congrArg View.left hview₂
    simp only [hrun] at hpass
    cases hpass
    refine ⟨⟨?_, ?_⟩, fun hgoes => ?_⟩
    · show m₂.left ≤ m.left
      exact hleft₂ ▸ Nat.le_trans (Nat.sub_le _ _) hle
    · rw [hview₂, hview, hleft₂]
    · have hpos := hiff.mp hgoes
      show m₂.left < m₁.left
      omega

/-- A run keeps what the turns of its loop keep. -/
theorem mirrorRoutine_yields (serial : Bool) (m : Mirror D E) (Inv : View D → Prop)
    (hstart : ∀ left, Inv { m.view with left := left })
    (hturn : ∀ begin m', Inv (Mirror.view m') → ∃ begin'' m'' goes,
      Yields (fun fuel => (if serial then serialTurn env else burstTurn env) fuel (begin, m'))
        ((begin'', m''), goes) ∧ Inv (Mirror.view m'') ∧ (goes = true → m''.left < m'.left)) :
    ∃ m', Yields (fun fuel => mirrorRoutine env serial fuel m) m' ∧ Inv m'.view := by
  have hnext (s s' : Nat × Bool × Mirror D E) (hs : Linking m s)
      (hpass : linkPass env s = (s', true)) : Linking m s' ∧ s'.2.2.left < s.2.2.left :=
    ⟨(linkPass_spec hs hpass).1, (linkPass_spec hs hpass).2 rfl⟩
  have hlast (s s' : Nat × Bool × Mirror D E) (hs : Linking m s)
      (hpass : linkPass env s = (s', false)) : Linking m s' := (linkPass_spec hs hpass).1
  obtain ⟨⟨k, up, m₁⟩, hlink, hview⟩ := DoWhile.ends_of_variant (linkPass env) hnext hlast
    (s := (0, false, m)) ⟨Nat.le_refl _, rfl⟩
  have hlinked := yields_of_ends hlink
  have hinv : Inv m₁.view := hview.2 ▸ hstart m₁.left
  cases up with
  | false => exact ⟨m₁, hlinked.bind (yields_some m₁), hinv⟩
  | true =>
    obtain ⟨⟨begin, m'⟩, hloop, hpost⟩ := loop_yields
      (if serial then serialTurn env else burstTurn env)
      (fun s => Inv s.2.view) (fun s => Inv s.2.view) (fun s => s.2.left)
      (fun s hs => by
        obtain ⟨begin'', m'', goes, hyields, hinv', hless⟩ := hturn s.1 s.2 hs
        exact ⟨_, hyields, fun hgoes => ⟨hinv', hless hgoes⟩, fun _ => hinv'⟩)
      (s := (0, initWorkload env m₁)) (initWorkload_view m₁ ▸ hinv)
    exact ⟨m', hlinked.bind (hloop.bind (yields_some m')), hpost⟩

end steps

/-- The state in which the routine is entered. -/
def start {D E : Type} (rx : E) (tx : D) (left readings : Nat) (stats : Stats) : Mirror D E :=
  { rx := rx, tx := tx, left := left, readings := readings, stats := stats, received := []
    sent := [], freed := [] }

section runs
variable {D E : Type} (env : Env D E) (rx : E) (tx : D) (left readings : Nat) (stats : Stats)

theorem forwarded_start (bound : Nat) {v : View D} (htx : v.tx = tx) (hreceived : v.received = [])
    (hsent : v.sent = []) (hfreed : v.freed = []) : Forwarded env tx bound v := by
  refine ⟨?_, ?_, fun hne => absurd hfreed hne, ?_⟩
  · rw [hsent, hfreed, hreceived]
    rfl
  · rw [hsent, hfreed, htx]
    exact .start
  · rw [hfreed]
    exact Nat.zero_le bound

theorem serial_yields :
    ∃ m, Yields (fun fuel => mirrorRoutine env true fuel (start rx tx left readings stats)) m ∧
      ∃ k r t, Serial env tx stats m.view k r t := by
  refine mirrorRoutine_yields true _ (fun v => ∃ k r t, Serial env tx stats v k r t) ?_ ?_
  · intro left'
    have hnone : UInt64.ofNat 0 = 0 := rfl
    refine ⟨0, 0, 0, forwarded_start env tx _ rfl rfl rfl rfl, ?_, Nat.zero_le _, ?_, ?_, ?_, ?_,
      .inl ⟨rfl, rfl⟩⟩
    · rw [Nat.zero_mul]
      rfl
    · rw [Nat.zero_mul, hnone, UInt64.add_zero]
      rfl
    · rw [Nat.zero_mul, hnone, UInt64.add_zero]
      rfl
    · rw [hnone, UInt64.add_zero]
      rfl
    · rw [Nat.add_zero, hnone, ite_self, UInt64.add_zero]
      rfl
  · rintro begin m ⟨k, r, t, h⟩
    obtain ⟨begin', m', goes, hyields, hserial, hless⟩ := serialTurn_spec begin h
    exact ⟨begin', m', goes, hyields, hserial, hless⟩

theorem direct_yields :
    ∃ m, Yields (fun fuel => mirrorRoutine env false fuel (start rx tx left readings stats)) m ∧
      Direct env tx stats m.view := by
  refine mirrorRoutine_yields false _ (Direct env tx stats) ?_ ?_
  · intro left'
    have hnone : UInt64.ofNat 0 = 0 := rfl
    refine ⟨forwarded_start env tx _ rfl rfl rfl rfl, ?_, ?_, rfl, rfl⟩
    · exact (UInt64.add_zero _).symm
    · exact (UInt64.add_zero _).symm
  · intro begin m h
    obtain ⟨begin', m', goes, hyields, hdirect, hless⟩ := burstTurn_spec begin h
    exact ⟨begin', m', goes, hyields, hdirect, hless⟩

/-- The counters after a run in serial mode: `k` whole batches are counted, and a cut one of
`r` packets is not. -/
structure SerialCounts (m : Mirror D E) (k r t : Nat) : Prop where
  received : m.received.length = k * env.burstCount.toNat + r
  short : r ≤ env.burstCount.toNat - 1
  cut : t ≤ 1 ∧ (r ≠ 0 → t = 1)
  totalRx : m.stats.totalRx = stats.totalRx + UInt64.ofNat (k * env.burstCount.toNat)
  totalTx : m.stats.totalTx = stats.totalTx + UInt64.ofNat (k * env.burstCount.toNat)
  rxTimeout : m.stats.rxTimeout = stats.rxTimeout + UInt64.ofNat t
  workload : m.stats.workload.count =
    stats.workload.count + if env.workloadEnabled then UInt64.ofNat (k + t) else 0

/-- The counters after a run without serial mode. -/
structure DirectCounts (m : Mirror D E) : Prop where
  totalRx : m.stats.totalRx = stats.totalRx + UInt64.ofNat m.received.length
  totalTx : m.stats.totalTx = stats.totalTx + UInt64.ofNat m.received.length
  rxTimeout : m.stats.rxTimeout = stats.rxTimeout
  workload : m.stats.workload.count = stats.workload.count

end runs

end Rtdk.RattMirror
