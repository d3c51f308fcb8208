import Rtdk.Accumulator
import Rtdk.Lport

/-! The network probe (`cnp/rxtx.c`).

The client sends probes in PTP frames: `tx_timestamping` numbers each probe and
writes the time it is sent into it. The server sends back what it accepts, with
the MAC addresses swapped. Both sides receive with `rx_timestamping`, which
follows the numbers and times what it accepts. The clocks, the time stamps of
the hardware and the bursts the device hands over are inputs. -/

namespace Rtdk.Cnp
open Rtdk.Memory Rtdk.Endian Rtdk.Accumulator
open Rtdk.Lport (Mbuf)

def rteEtherType1588 : UInt16 := 0x88F7

def theMagic : UInt16 := 0xbeef

def typeProbeSend : UInt16 := 1

/-- The lengths of the Ethernet header, of `ptpv2_msg` and of `probe_payload_t`. -/
def probeLen : UInt32 := 14 + 2 + 16

/-- The settings of the tool. -/
structure Info where
  pktLength : UInt16
  clientMode : Bool
  swTimestamp : Bool
  hwTimestamp : Bool

/-- The statistics the two functions keep. -/
structure Stats where
  totalRx : UInt64
  totalTx : UInt64
  noMbufs : UInt64
  manyRx : UInt64
  rxFrameErrors : UInt64
  rxUnknownFrames : UInt64
  rxNoProbeFrames : UInt64
  txTimestampErrors : UInt64
  rxNoTimestamp : UInt64
  swRtt : StatsTimer
  hwRtt : StatsTimer
  poll : StatsTimer

structure Lport where
  srcMac : List UInt8
  dstMac : List UInt8
  txSequence : UInt32
  rxSequence : UInt32
  txTimestamp : UInt64
  otherStats : Stats

/-! ## Sending -/

/-- What one call of `tx_timestamping` finds: the mbuf, the clock when the probe
is stamped, the clock before and after the wait for the hardware, and the time
stamp of the hardware if it comes in time. -/
structure TxPoll where
  mbuf : Option Mbuf
  now : UInt64
  pollStart : UInt64
  txTimestamp : Option UInt64
  pollEnd : UInt64

/-- The frame before the probe is written into it. -/
def ptpFrame (info : Info) (lport : Lport) (m : Mbuf) : Mbuf :=
  let data := write (write m.data 6 lport.srcMac) 0 lport.dstMac
  let data := write data 12 (be16 rteEtherType1588)
  { m with
    data := write data 14 [0x0, 0x02]
    dataLen := info.pktLength
    pktLen := info.pktLength.toUInt32 }

/-- The payload of a probe. -/
def writeProbe (data : Mem UInt8) (sequenceNumber : UInt32) (t1 : UInt64) : Mem UInt8 :=
  let data := write data 16 (List.replicate 16 0)
  let data := write data 16 (be16 theMagic)
  let data := write data 18 (be16 typeProbeSend)
  let data := write data 20 (be32 sequenceNumber)
  write data 24 (be64 t1)

/-- After the send: wait for the time stamp of the hardware. -/
def txHwTimestamp (s : Stats) (p : TxPoll) : Stats × UInt64 :=
  let s := { s with poll := startStatsTimer s.poll p.pollStart }
  let (s, txTimestamp) := match p.txTimestamp with
    | none => (s, UInt64.ofNat (2 ^ 64 - 1))
    | some t =>
      if t = UInt64.ofNat (2 ^ 64 - 1) then
        ({ s with txTimestampErrors := s.txTimestampErrors + 1 }, t)
      else ({ s with hwRtt := startStatsTimer s.hwRtt t }, t)
  ({ s with poll := endStatsTimer s.poll p.pollEnd }, txTimestamp)

/-- The port afterwards and the frame handed to `send_packets`. -/
def txTimestamping (info : Info) (lport : Lport) (p : TxPoll) : Lport × Option Mbuf :=
  match p.mbuf with
  | none =>
    let s := lport.otherStats
    ({ lport with otherStats := { s with noMbufs := s.noMbufs + 1 } }, none)
  | some m =>
    let m := ptpFrame info lport m
    let (lport, m) :=
      if info.swTimestamp then
        let s := lport.otherStats
        ({ lport with
            txSequence := lport.txSequence + 1
            otherStats := { s with swRtt := startStatsTimer s.swRtt p.now } },
          { m with data := writeProbe m.data lport.txSequence p.now })
      else (lport, m)
    if info.hwTimestamp then
      let (s, txTimestamp) := txHwTimestamp lport.otherStats p
      ({ lport with otherStats := s, txTimestamp := txTimestamp }, some m)
    else (lport, some m)

/-! ## Receiving -/

/-- A received packet, with the clock when it is timed and the receive time
stamp of the hardware. -/
structure Arrival where
  frame : Mbuf
  now : UInt64
  rxTimestamp : Option UInt64

def sequenceNumber (m : Mbuf) : UInt32 := read32 m.data 20

def t1 (m : Mbuf) : UInt64 := read64 m.data 24

/-! What is written into a probe is read back, and nothing in front of it changes. -/

section written

variable (data : Mem UInt8) (s : UInt32) (t : UInt64)

theorem writeProbe_magic : read16 (writeProbe data s t) 16 = theMagic := by
  simp only [writeProbe]
  rw [read16_write_disjoint _ _ _ _ (.inr (by omega)),
    read16_write_disjoint _ _ _ _ (.inr (by omega)),
    read16_write_disjoint _ _ _ _ (.inr (by omega)), read16_write_same]

theorem writeProbe_sequenceNumber : read32 (writeProbe data s t) 20 = s := by
  simp only [writeProbe]
  rw [read32_write_disjoint _ _ _ _ (.inr (by omega)), read32_write_same]

theorem writeProbe_t1 : read64 (writeProbe data s t) 24 = t := by
  simp only [writeProbe]
  rw [read64_write_same]

theorem writeProbe_below (i : Nat) (h : i < 16) : writeProbe data s t i = data i := by
  simp only [writeProbe]
  rw [write_below _ _ _ _ (by omega), write_below _ _ _ _ (by omega),
    write_below _ _ _ _ (by omega), write_below _ _ _ _ (by omega),
    write_below _ _ _ _ (by omega)]

end written

inductive Verdict
  | tooShort | unknownFrame | noProbe | outOfOrder | accepted
deriving DecidableEq, Repr

/-- What `rx_timestamping` makes of a packet. All but the accepted ones are freed. -/
def verdict (info : Info) (lport : Lport) (m : Mbuf) : Verdict :=
  if m.pktLen < probeLen then .tooShort
  else if read16 m.data 12 ≠ rteEtherType1588 then .unknownFrame
  else if info.swTimestamp then
    if read16 m.data 16 ≠ theMagic then .noProbe
    else if sequenceNumber m ≠ lport.rxSequence then .outOfOrder
    else .accepted
  else .accepted

def rxHwTimestamp (info : Info) (s : Stats) (a : Arrival) : Stats :=
  if info.hwTimestamp then
    match a.rxTimestamp with
    | none => { s with rxNoTimestamp := s.rxNoTimestamp + 1 }
    | some t => { s with hwRtt := endStatsTimer s.hwRtt t }
  else s

/-- One packet of the receive loop. -/
def rxPacket (info : Info) (lport : Lport) (a : Arrival) : Lport :=
  let s := { lport.otherStats with totalRx := lport.otherStats.totalRx + 1 }
  match verdict info lport a.frame with
  | .tooShort => { lport with otherStats := { s with rxFrameErrors := s.rxFrameErrors + 1 } }
  | .unknownFrame =>
    { lport with otherStats := { s with rxUnknownFrames := s.rxUnknownFrames + 1 } }
  | .noProbe => { lport with otherStats := { s with rxNoProbeFrames := s.rxNoProbeFrames + 1 } }
  | .outOfOrder => { lport with rxSequence := sequenceNumber a.frame, otherStats := s }
  | .accepted =>
    if info.swTimestamp then
      let s := { s with swRtt := endStatsTimer s.swRtt a.now }
      { lport with
        rxSequence := lport.rxSequence + 1
        otherStats := rxHwTimestamp info s a }
    else { lport with otherStats := rxHwTimestamp info s a }

/-- Swapping source and destination in place. -/
def swapMacs (m : Mbuf) : Mbuf :=
  { m with data := write (write m.data 0 (slice m.data 6 6)) 6 (slice m.data 0 6) }

/-- The receive loop: the port, the verdict on each packet, and `tx_mbufs`. -/
def rxLoop (info : Info) : Lport → List Arrival → Lport × List Verdict × List Mbuf
  | lport, [] => (lport, [], [])
  | lport, a :: as =>
    let v := verdict info lport a.frame
    let (after, vs, txMbufs) := rxLoop info (rxPacket info lport a) as
    (after, v :: vs, if v = .accepted then swapMacs a.frame :: txMbufs else txMbufs)

/-- What a call of `rx_timestamping` leaves: the port, the verdicts, and what it
handed to `send_packets`. -/
structure RxResult where
  lport : Lport
  verdicts : List Verdict
  sent : List Mbuf

def countMany (lport : Lport) (burst : List Arrival) : Lport :=
  let s := lport.otherStats
  if burst.length > 1 then { lport with otherStats := { s with manyRx := s.manyRx + 1 } }
  else lport

def rxTimestamping (info : Info) (lport : Lport) (burst : List Arrival) : RxResult :=
  let (lport, verdicts, txMbufs) := rxLoop info (countMany lport burst) burst
  let s := lport.otherStats
  { lport := { lport with
      otherStats := { s with totalTx := s.totalTx + UInt64.ofNat txMbufs.length } }
    verdicts := verdicts
    sent := if info.clientMode then [] else txMbufs }

/-- Call after call. -/
def rxRun (info : Info) : Lport → List (List Arrival) → RxResult
  | lport, [] => { lport := lport, verdicts := [], sent := [] }
  | lport, burst :: bursts =>
    let r := rxTimestamping info lport burst
    let rest := rxRun info r.lport bursts
    { lport := rest.lport
      verdicts := r.verdicts ++ rest.verdicts
      sent := r.sent ++ rest.sent }

/-! ## Following the numbers -/

/-- A packet that gets as far as the check of its number. -/
structure ValidProbe (m : Mbuf) : Prop where
  len : ¬ m.pktLen < probeLen
  etherType : read16 m.data 12 = rteEtherType1588
  magic : read16 m.data 16 = theMagic

def nextSequence (rxSequence s : UInt32) : UInt32 :=
  if s = rxSequence then rxSequence + 1 else s

/-- Which numbers of a stream the check lets through. -/
def accepts : UInt32 → List UInt32 → List Bool
  | _, [] => []
  | rxSequence, s :: ss => decide (s = rxSequence) :: accepts (nextSequence rxSequence s) ss

/-- Which numbers of a stream directly follow the one before, when `next` would
directly follow what came before the stream. -/
def follows : UInt32 → List UInt32 → List Bool
  | _, [] => []
  | next, s :: ss => decide (s = next) :: follows (s + 1) ss

def verdictOf (b : Bool) : Verdict := if b then .accepted else .outOfOrder

def marked {α : Type} : List Bool → List α → List α
  | b :: bs, a :: as => if b then a :: marked bs as else marked bs as
  | _, _ => []

def timeAll (timer : StatsTimer) (as : List Arrival) : StatsTimer :=
  as.foldl (fun timer a => endStatsTimer timer a.now) timer

def numbers (as : List Arrival) : List UInt32 := as.map fun a => sequenceNumber a.frame

theorem accepts_length (rxSequence : UInt32) (ss : List UInt32) :
    (accepts rxSequence ss).length = ss.length := by
  induction ss generalizing rxSequence with
  | nil => rfl
  | cons s ss ih => simp [accepts, ih]

theorem accepts_append (rxSequence : UInt32) (xs ys : List UInt32) :
    accepts rxSequence (xs ++ ys) =
      accepts rxSequence xs ++ accepts (xs.foldl nextSequence rxSequence) ys := by
  induction xs generalizing rxSequence with
  | nil => rfl
  | cons x xs ih => simp [accepts, ih]

theorem marked_append {α : Type} (bs cs : List Bool) (as ds : List α)
    (h : bs.length = as.length) : marked (bs ++ cs) (as ++ ds) = marked bs as ++ marked cs ds := by
  induction bs generalizing as with
  | nil =>
    have has : as = [] := List.eq_nil_of_length_eq_zero h.symm
    simp [has, marked]
  | cons b bs ih =>
    cases as with
    | nil => simp at h
    | cons a as =>
      have htail := ih as (by simpa using h)
      cases b <;> simp [marked, htail]

/-- What receiving `as` does to the port: the numbers decide which packets are
accepted, and just these are timed and passed on to `tx`. -/
structure Scanned (lport : Lport) (as : List Arrival) (after : Lport) (vs : List Verdict)
    (tx : List Mbuf) : Prop where
  rxSequence : after.rxSequence = (numbers as).foldl nextSequence lport.rxSequence
  verdicts : vs = (accepts lport.rxSequence (numbers as)).map verdictOf
  swRtt : after.otherStats.swRtt =
    timeAll lport.otherStats.swRtt (marked (accepts lport.rxSequence (numbers as)) as)
  tx : tx = (marked (accepts lport.rxSequence (numbers as)) as).map fun a => swapMacs a.frame

section scan

variable {info : Info} {lport : Lport}

theorem verdict_probe (hsw : info.swTimestamp) {m : Mbuf} (hm : ValidProbe m) :
    verdict info lport m = verdictOf (decide (sequenceNumber m = lport.rxSequence)) := by
  simp only [verdict, if_neg hm.len, hm.etherType, hm.magic, ne_eq, not_true, if_false, hsw,
    if_true]
  by_cases hs : sequenceNumber m = lport.rxSequence <;> simp [hs, verdictOf]

theorem rxHwTimestamp_swRtt (s : Stats) (a : Arrival) :
    (rxHwTimestamp info s a).swRtt = s.swRtt := by
  unfold rxHwTimestamp
  split
  · split <;> rfl
  · rfl

theorem rxPacket_inOrder (hsw : info.swTimestamp) {a : Arrival} (ha : ValidProbe a.frame)
    (hs : sequenceNumber a.frame = lport.rxSequence) :
    (rxPacket info lport a).rxSequence = lport.rxSequence + 1 ∧
      (rxPacket info lport a).otherStats.swRtt =
        endStatsTimer lport.otherStats.swRtt a.now := by
  have hv : verdict info lport a.frame = .accepted := by
    rw [verdict_probe hsw ha]
    simp [hs, verdictOf]
  simp only [rxPacket, hv, hsw, if_true]
  exact ⟨trivial, rxHwTimestamp_swRtt _ a⟩

theorem rxPacket_outOfOrder (hsw : info.swTimestamp) {a : Arrival} (ha : ValidProbe a.frame)
    (hs : sequenceNumber a.frame ≠ lport.rxSequence) :
    (rxPacket info lport a).rxSequence = sequenceNumber a.frame ∧
      (rxPacket info lport a).otherStats.swRtt = lport.otherStats.swRtt := by
  have hv : verdict info lport a.frame = .outOfOrder := by
    rw [verdict_probe hsw ha]
    simp [hs, verdictOf]
  simp only [rxPacket, hv]
  exact ⟨trivial, trivial⟩

/-- The loop over one burst. -/
theorem rxLoop_scanned (hsw : info.swTimestamp) (as : List Arrival)
    (has : ∀ a ∈ as, ValidProbe a.frame) :
    Scanned lport as (rxLoop info lport as).1 (rxLoop info lport as).2.1
      (rxLoop info lport as).2.2 := by
  induction as generalizing lport with
  | nil => exact ⟨rfl, rfl, rfl, rfl⟩
  | cons a as ih =>
    have ha := has a List.mem_cons_self
    have hrest : Scanned (rxPacket info lport a) as _ _ _ :=
      ih fun b hb => has b (List.mem_cons_of_mem a hb)
    have hv : verdict info lport a.frame = _ := verdict_probe hsw ha
    by_cases hs : sequenceNumber a.frame = lport.rxSequence
    · obtain ⟨hseq, htimer⟩ := rxPacket_inOrder hsw ha hs
      simp only [hs, decide_true, verdictOf, if_true] at hv
      constructor
      · simp [rxLoop, hrest.rxSequence, hseq, numbers, nextSequence, hs]
      · simp [rxLoop, hrest.verdicts, hseq, numbers, nextSequence, hs, hv, accepts, verdictOf]
      · simp [rxLoop, hrest.swRtt, hseq, htimer, numbers, nextSequence, hs, accepts, marked,
          timeAll]
      · simp [rxLoop, hrest.tx, hseq, numbers, nextSequence, hs, hv, accepts, marked]
    · obtain ⟨hseq, htimer⟩ := rxPacket_outOfOrder hsw ha hs
      simp only [hs, decide_false, verdictOf] at hv
      constructor
      · simp [rxLoop, hrest.rxSequence, hseq, numbers, nextSequence, hs]
      · simp [rxLoop, hrest.verdicts, hseq, numbers, nextSequence, hs, hv, accepts, verdictOf]
      · simp [rxLoop, hrest.swRtt, hseq, htimer, numbers, nextSequence, hs, accepts, marked]
      · simp [rxLoop, hrest.tx, hseq, numbers, nextSequence, hs, hv, accepts, marked]

theorem countMany_rxSequence (burst : List Arrival) :
    (countMany lport burst).rxSequence = lport.rxSequence := by
  unfold countMany
  split <;> rfl

theorem countMany_swRtt (burst : List Arrival) :
    (countMany lport burst).otherStats.swRtt = lport.otherStats.swRtt := by
  unfold countMany
  split <;> rfl

/-- What one call sends back, from what its loop lets through. -/
def loopedBack (info : Info) (txMbufs : List Mbuf) : List Mbuf :=
  if info.clientMode then [] else txMbufs

theorem rxTimestamping_scanned (hsw : info.swTimestamp) (burst : List Arrival)
    (hb : ∀ a ∈ burst, ValidProbe a.frame) :
    ∃ tx, Scanned lport burst (rxTimestamping info lport burst).lport
        (rxTimestamping info lport burst).verdicts tx ∧
      (rxTimestamping info lport burst).sent = loopedBack info tx := by
  have hloop : Scanned (countMany lport burst) burst _ _ _ := rxLoop_scanned hsw burst hb
  obtain ⟨hseq, hverdicts, hsw, htx⟩ := hloop
  rw [countMany_rxSequence] at hseq hverdicts hsw htx
  rw [countMany_swRtt] at hsw
  exact ⟨_, ⟨hseq, hverdicts, hsw, htx⟩, rfl⟩

theorem Scanned.append {lport after after' : Lport} {as bs : List Arrival} {vs ws : List Verdict}
    {tx tx' : List Mbuf} (h : Scanned lport as after vs tx) (h' : Scanned after bs after' ws tx') :
    Scanned lport (as ++ bs) after' (vs ++ ws) (tx ++ tx') := by
  have hnumbers : numbers (as ++ bs) = numbers as ++ numbers bs := List.map_append
  have haccepts := accepts_append lport.rxSequence (numbers as) (numbers bs)
  rw [← h.rxSequence] at haccepts
  have hmarked : marked (accepts lport.rxSequence (numbers (as ++ bs))) (as ++ bs) =
      marked (accepts lport.rxSequence (numbers as)) as ++
        marked (accepts after.rxSequence (numbers bs)) bs := by
    rw [hnumbers, haccepts]
    exact marked_append _ _ _ _ (by rw [accepts_length]; exact List.length_map _)
  constructor
  · rw [hnumbers, List.foldl_append, ← h.rxSequence]
    exact h'.rxSequence
  · rw [hnumbers, haccepts, List.map_append, ← h.verdicts, ← h'.verdicts]
  · rw [hmarked, timeAll, List.foldl_append]
    rw [h'.swRtt, h.swRtt]
    rfl
  · rw [hmarked, List.map_append, ← h.tx, ← h'.tx]

/-- However the stream is split into bursts, it is scanned as a whole. -/
theorem rxRun_scanned (hsw : info.swTimestamp) (bursts : List (List Arrival))
    (hb : ∀ a ∈ bursts.flatten, ValidProbe a.frame) :
    ∃ tx, Scanned lport bursts.flatten (rxRun info lport bursts).lport
        (rxRun info lport bursts).verdicts tx ∧
      (rxRun info lport bursts).sent = loopedBack info tx := by
  induction bursts generalizing lport with
  | nil => exact ⟨[], ⟨rfl, rfl, rfl, rfl⟩, by simp [rxRun, loopedBack]⟩
  | cons burst bursts ih =>
    rw [List.flatten_cons] at hb ⊢
    obtain ⟨tx, hscan, hsent⟩ : ∃ tx, Scanned lport burst _ _ tx ∧ _ :=
      rxTimestamping_scanned hsw burst fun a ha => hb a (List.mem_append_left _ ha)
    obtain ⟨tx', hscan', hsent'⟩ : ∃ tx, Scanned (rxTimestamping info lport burst).lport _ _ _ tx ∧ _ :=
      ih fun a ha => hb a (List.mem_append_right _ ha)
    refine ⟨tx ++ tx', hscan.append hscan', ?_⟩
    simp only [rxRun, hsent, hsent', loopedBack]
    split <;> rfl

end scan

/-! ## One lost probe

After a rejected probe its own number is expected, which the next probe of an
increasing stream does not have. So nothing is accepted after the first gap. -/

/-- Increasing modulo 2^32: each number is ahead of the one before it. -/
def Increasing (ss : List UInt32) : Prop := ss.IsChain (· ≠ ·)

theorem accepts_stuck (s : UInt32) (ss : List UInt32) (h : (s :: ss).IsChain (· ≠ ·)) :
    accepts s ss = List.replicate ss.length false := by
  induction ss generalizing s with
  | nil => rfl
  | cons x xs ih =>
    obtain ⟨hne, hxs⟩ := List.isChain_cons_cons.mp h
    have hx : ¬ x = s := fun hxs => hne hxs.symm
    simp only [accepts, nextSequence, hx, decide_false, if_false, ih x hxs, List.length_cons,
      List.replicate_succ]

theorem follows_length (next : UInt32) (ss : List UInt32) :
    (follows next ss).length = ss.length := by
  induction ss generalizing next with
  | nil => rfl
  | cons s ss ih => simp [follows, ih]

/-- Once false, always false. -/
def NoResume (bs : List Bool) : Prop := bs.IsChain fun a b => a = false → b = false

theorem noResume_false_cons (bs : List Bool) :
    NoResume (false :: bs) ↔ bs = List.replicate bs.length false := by
  induction bs with
  | nil => simp [NoResume]
  | cons b bs ih =>
    constructor
    · intro h
      obtain ⟨hb, hbs⟩ := List.isChain_cons_cons.mp h
      rw [hb rfl] at hbs ⊢
      rw [List.length_cons, List.replicate_succ, ← ih.mp hbs]
    · intro h
      rw [List.length_cons, List.replicate_succ, List.cons.injEq] at h
      rw [h.1]
      exact List.isChain_cons_cons.mpr ⟨fun _ => rfl, ih.mpr h.2⟩

theorem noResume_true_cons (bs : List Bool) : NoResume (true :: bs) ↔ NoResume bs := by
  cases bs with
  | nil => simp [NoResume]
  | cons b bs => simp [NoResume]

/-- The check lets through what directly follows just when nothing does after a gap. -/
theorem accepts_eq_follows_iff (rxSequence : UInt32) (ss : List UInt32) (hss : Increasing ss) :
    accepts rxSequence ss = follows rxSequence ss ↔ NoResume (follows rxSequence ss) := by
  induction ss generalizing rxSequence with
  | nil => simp [accepts, follows, NoResume]
  | cons s ss ih =>
    by_cases hs : s = rxSequence
    · subst hs
      have htail : Increasing ss := List.IsChain.of_cons hss
      simp only [accepts, follows, nextSequence, decide_true, if_true, List.cons.injEq, true_and,
        noResume_true_cons]
      exact ih (s + 1) htail
    · simp only [accepts, follows, nextSequence, hs, decide_false, if_false, List.cons.injEq,
        true_and, noResume_false_cons, accepts_stuck s ss hss, follows_length]
      exact eq_comm

/-- What tracking the probes is for: just what directly follows its predecessor
is accepted, timed and, by a server, looped back. -/
structure Recovers (info : Info) (lport : Lport) (as : List Arrival) (r : RxResult) : Prop where
  verdicts : r.verdicts = (follows lport.rxSequence (numbers as)).map verdictOf
  timed : r.lport.otherStats.swRtt =
    timeAll lport.otherStats.swRtt (marked (follows lport.rxSequence (numbers as)) as)
  looped : info.clientMode = false →
    r.sent = (marked (follows lport.rxSequence (numbers as)) as).map fun a => swapMacs a.frame

theorem verdictOf_injective : Function.Injective verdictOf := by
  intro a b h
  cases a <;> cases b <;> simp [verdictOf] at h ⊢

/-- Over any increasing stream of probes in any bursts, tracking recovers from
every loss just when no probe directly follows its predecessor after a gap. -/
theorem recovers_iff (info : Info) (lport : Lport) (bursts : List (List Arrival))
    (hsw : info.swTimestamp) (hvalid : ∀ a ∈ bursts.flatten, ValidProbe a.frame)
    (hincreasing : Increasing (numbers bursts.flatten)) :
    Recovers info lport bursts.flatten (rxRun info lport bursts) ↔
      NoResume (follows lport.rxSequence (numbers bursts.flatten)) := by
  obtain ⟨tx, hscan, hsent⟩ : ∃ tx, Scanned lport bursts.flatten _ _ tx ∧ _ :=
    rxRun_scanned hsw bursts hvalid
  rw [← accepts_eq_follows_iff _ _ hincreasing]
  constructor
  · intro h
    have hmap := hscan.verdicts.symm.trans h.verdicts
    exact List.map_injective_iff.mpr verdictOf_injective hmap
  · intro h
    refine ⟨?_, ?_, ?_⟩
    · rw [← h]
      exact hscan.verdicts
    · rw [← h]
      exact hscan.swRtt
    · intro hserver
      rw [hsent, loopedBack, hserver, ← h]
      exact hscan.tx

/-- The port of a tool that has just started. -/
def startPort (srcMac dstMac : List UInt8) : Lport where
  srcMac := srcMac
  dstMac := dstMac
  txSequence := 0
  rxSequence := 0
  txTimestamp := 0
  otherStats :=
    { totalRx := 0, totalTx := 0, noMbufs := 0, manyRx := 0, rxFrameErrors := 0
      rxUnknownFrames := 0, rxNoProbeFrames := 0, txTimestampErrors := 0, rxNoTimestamp := 0
      swRtt := ⟨cleared 1000000, 0⟩, hwRtt := ⟨cleared 1000000, 0⟩, poll := ⟨cleared 1000000, 0⟩ }

/-- A probe of 60 bytes as the client sends it. -/
def probeFrame (s : UInt32) (t : UInt64) : Mbuf :=
  let m : Mbuf := { id := 0, data := fun _ => 0, dataLen := 0, pktLen := 0 }
  let m := ptpFrame ⟨60, true, true, false⟩ (startPort [] []) m
  { m with data := writeProbe m.data s t }

theorem probeFrame_valid (s : UInt32) (t : UInt64) : ValidProbe (probeFrame s t) where
  len := by
    show ¬ (60 : UInt16).toUInt32 < probeLen
    decide
  etherType := by
    have htype : ∀ i, i < 2 → (probeFrame s t).data (12 + i) =
        (write (fun _ => 0) 12 (be16 rteEtherType1588) : Mem UInt8) (12 + i) := by
      intro i hi
      simp only [probeFrame, ptpFrame]
      rw [writeProbe_below _ _ _ _ (by omega), write_below _ _ _ _ (by omega)]
      simp [startPort]
    rw [read16_congr htype, read16_write_same]
  magic := writeProbe_magic _ s t

def probeArrival (s : UInt32) (now : UInt64) : Arrival :=
  { frame := probeFrame s 7, now := now, rxTimestamp := none }

theorem numbers_probes (ps : List (UInt32 × UInt64)) :
    numbers (ps.map fun p => probeArrival p.1 p.2) = ps.map Prod.fst := by
  rw [numbers, List.map_map]
  apply List.map_congr_left
  intro p _
  exact writeProbe_sequenceNumber _ p.1 7

/-- A server that misses probe 2 of four, the last of the stream being probe 3. -/
theorem recovers_at_end :
    Recovers ⟨60, false, true, false⟩ (startPort [] [])
      [probeArrival 0 10, probeArrival 1 20, probeArrival 3 30]
      (rxRun ⟨60, false, true, false⟩ (startPort [] [])
        [[probeArrival 0 10, probeArrival 1 20], [probeArrival 3 30]]) := by
  have hnumbers := numbers_probes [(0, 10), (1, 20), (3, 30)]
  refine (recovers_iff ⟨60, false, true, false⟩ (startPort [] [])
    [[probeArrival 0 10, probeArrival 1 20], [probeArrival 3 30]] rfl ?_ ?_).mpr ?_
  · intro a ha
    simp only [List.flatten_cons, List.flatten_nil, List.append_nil, List.cons_append,
      List.nil_append, List.mem_cons, List.not_mem_nil, or_false] at ha
    rcases ha with rfl | rfl | rfl <;> exact probeFrame_valid _ 7
  · rw [Increasing]
    exact hnumbers ▸ (by decide : ([0, 1, 3] : List UInt32).IsChain (· ≠ ·))
  · rw [NoResume]
    exact hnumbers ▸ (by decide :
      (follows 0 [0, 1, 3]).IsChain fun a b => a = false → b = false)

/-- A server that misses probe 1 of four also rejects probe 3, which directly
follows probe 2. -/
theorem lost_probe_stalls :
    let bursts := [[probeArrival 0 10], [probeArrival 2 30, probeArrival 3 40]]
    numbers bursts.flatten = [0, 2, 3] ∧
      (rxRun ⟨60, false, true, false⟩ (startPort [] []) bursts).verdicts =
        [.accepted, .outOfOrder, .outOfOrder] ∧
      ¬ Recovers ⟨60, false, true, false⟩ (startPort [] []) bursts.flatten
        (rxRun ⟨60, false, true, false⟩ (startPort [] []) bursts) := by
  intro bursts
  have hnumbers : numbers bursts.flatten = [0, 2, 3] :=
    numbers_probes [(0, 10), (2, 30), (3, 40)]
  have hverdicts : (rxRun ⟨60, false, true, false⟩ (startPort [] []) bursts).verdicts =
      [.accepted, .outOfOrder, .outOfOrder] := by
    obtain ⟨tx, hscan, -⟩ : ∃ tx, Scanned (startPort [] []) bursts.flatten
        (rxRun ⟨60, false, true, false⟩ (startPort [] []) bursts).lport _ tx ∧ _ :=
      rxRun_scanned rfl bursts (by
        intro a ha
        simp only [bursts, List.flatten_cons, List.flatten_nil, List.append_nil, List.cons_append,
          List.nil_append, List.mem_cons, List.not_mem_nil, or_false] at ha
        rcases ha with rfl | rfl | rfl <;> exact probeFrame_valid _ 7)
    rw [hscan.verdicts, hnumbers]
    decide
  refine ⟨hnumbers, hverdicts, ?_⟩
  intro h
  have hmap := hverdicts.symm.trans h.verdicts
  rw [hnumbers] at hmap
  exact absurd hmap (by decide)

end Rtdk.Cnp
