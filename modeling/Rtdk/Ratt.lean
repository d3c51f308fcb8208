import Rtdk.Accumulator
import Mathlib.Data.Nat.ModEq

/-! The reference loop of the round-trip tool (`ratt/reference.c`).

Once a cycle `tx_timestamping` sends a burst of numbered packets, and
`rx_timestamping` collects what comes back until a burst is complete or the time
is up. It compares the number of the first packet of this window with `rx_id`,
which counts the packets received. How many packets each poll of the device
returns, and how many polls there is time for, are inputs; so is what gets lost
on the way. -/

namespace Rtdk.Ratt
open Rtdk.Accumulator

def theBeefTimestamp : UInt16 := 0xbeef

/-- `timestamp_t` of a packet. `serial` is history: how many packets were sent
before it. -/
structure Pkt where
  timestamp : UInt64
  beef : UInt16
  id : UInt16
  serial : Nat
deriving DecidableEq, Repr

structure Info where
  cycleTimeNs : UInt64
  burstCount : UInt16
  pktSkipCnt : UInt32

structure Stats where
  totalRx : UInt64
  totalTx : UInt64
  noMbufs : UInt64
  noTimestamp : UInt64
  idError : UInt64
  rxTryExtraTime : UInt64
  rtt : MinAvgMax
  spike : MinAvgMax
  snapshot : MinAvgMax
deriving DecidableEq, Repr

structure Lcore where
  txId : UInt16
  rxId : UInt16
  skipCnt : UInt32
  stats : Stats
deriving DecidableEq, Repr

/-! ## Sending -/

/-- The packets of a burst, numbered from `txId` on. -/
def burstPkts (currNs : UInt64) : UInt16 → Nat → Nat → List Pkt
  | _, _, 0 => []
  | txId, serial, n + 1 =>
    { timestamp := currNs, beef := theBeefTimestamp, id := txId, serial := serial } ::
      burstPkts currNs (txId + 1) (serial + 1) n

/-- The burst handed to `send_packets`, or nothing when there are no mbufs. -/
def txTimestamping (info : Info) (lcore : Lcore) (mbufs : Bool) (currNs : UInt64)
    (serial : Nat) : Lcore × Option (List Pkt) :=
  let s := lcore.stats
  if mbufs then
    ({ lcore with
        txId := lcore.txId + info.burstCount
        stats := { s with totalTx := s.totalTx + info.burstCount.toUInt64 } },
      some (burstPkts currNs lcore.txId serial info.burstCount.toNat))
  else ({ lcore with stats := { s with noMbufs := s.noMbufs + 1 } }, none)

/-! ## Receiving -/

/-- Polling for at most `toRecv` packets while there is time. A poll returns
`nbRx` of the packets that have arrived, if there are that many and they are
wanted. What it got, what is still wanted, and what is left on the wire. A complete
burst ends it before the time does. -/
def recvLoop : Nat → List Nat → List Pkt → List Pkt × Nat × List Pkt
  | toRecv, [], wire => ([], toRecv, wire)
  | toRecv, nbRx :: polls, wire =>
    let pkts := wire.take (min nbRx toRecv)
    let toRecv := toRecv - pkts.length
    let wire := wire.drop pkts.length
    if pkts ≠ [] ∧ toRecv = 0 then (pkts, 0, wire)
    else
      let (more, toRecv, wire) := recvLoop toRecv polls wire
      (pkts ++ more, toRecv, wire)

/-- What one call finds: the polls there is time for before the end of the cycle
and in the quarter of a cycle after it, whether the tool is still running then,
and the clock when the packets are processed. -/
structure RxPoll where
  inTime : List Nat
  extraTime : List Nat
  running : Bool
  currNs : UInt64

/-- The packets a call processes, and whether it counted an error for them.
`counted` says that they were not skipped. -/
structure Window where
  pkts : List Pkt
  counted : Bool
  error : Bool
deriving DecidableEq, Repr

/-- The part of `rx_timestamping` that collects a window. The flag says that the
loop in time completed the burst. -/
def collect (info : Info) (p : RxPoll) (wire : List Pkt) : List Pkt × Nat × List Pkt × Bool :=
  let (pkts, toRecv, wire) := recvLoop info.burstCount.toNat p.inTime wire
  if toRecv = 0 then (pkts, 0, wire, true)
  else
    let (more, toRecv, wire) := recvLoop toRecv p.extraTime wire
    (pkts ++ more, toRecv, wire, false)

def countExtraTime (lcore : Lcore) (inTime : Bool) : Lcore :=
  let s := lcore.stats
  if inTime then lcore
  else { lcore with stats := { s with rxTryExtraTime := s.rxTryExtraTime + 1 } }

def updateRtt (info : Info) (s : Stats) (deltaNs : UInt64) : Stats :=
  { s with
    rtt := minAvgMaxUpdate s.rtt deltaNs
    snapshot := minAvgMaxUpdate s.snapshot deltaNs
    spike := if deltaNs ≥ info.cycleTimeNs * 2 then minAvgMaxUpdate s.spike deltaNs else s.spike }

/-- The label `process_packets`, for a window that starts with `ts`. Without a time stamp
`rx_id` stays behind. -/
def processPackets (info : Info) (lcore : Lcore) (currNs : UInt64) (ts : Pkt)
    (totalRx : UInt16) : Lcore × Bool × Bool :=
  let s := lcore.stats
  let s := { s with totalRx := s.totalRx + totalRx.toUInt64 }
  if lcore.skipCnt ≠ 0 then
    ({ lcore with skipCnt := lcore.skipCnt - 1, rxId := lcore.rxId + totalRx, stats := s },
      false, false)
  else if ts.beef = theBeefTimestamp then
    let error := lcore.rxId ≠ ts.id
    let s := if error then { s with idError := s.idError + 1 } else s
    ({ lcore with
        rxId := lcore.rxId + totalRx
        stats := updateRtt info s (currNs - ts.timestamp) }, true, error)
  else ({ lcore with stats := { s with noTimestamp := s.noTimestamp + 1 } }, true, false)

/-- The port, the wire and the window of a call, if it gets to process one. -/
def rxTimestamping (info : Info) (lcore : Lcore) (p : RxPoll) (wire : List Pkt) :
    Lcore × List Pkt × Option Window :=
  let (pkts, toRecv, wire, inTime) := collect info p wire
  let lcore := countExtraTime lcore inTime
  match pkts with
  | [] => (lcore, wire, none)
  | ts :: rest =>
    if toRecv = 0 ∨ p.running then
      let (lcore, counted, error) :=
        processPackets info lcore p.currNs ts (UInt16.ofNat (rest.length + 1))
      (lcore, wire, some { pkts := ts :: rest, counted := counted, error := error })
    else (lcore, wire, none)

/-! ## The loop -/

/-- One turn of the loop: whether there are mbufs, the clock when the burst is
stamped, which packets of the burst come back, and the receive call. -/
structure Cycle where
  mbufs : Bool
  currNs : UInt64
  back : List Bool
  rx : RxPoll

/-- The tool: `wire` holds what will still come back, `sent` and `windows` are
history. -/
structure Run where
  lcore : Lcore
  wire : List Pkt
  sent : Nat
  windows : List Window

/-- The packets of a burst that are not lost. -/
def survivors : List Bool → List Pkt → List Pkt
  | b :: bs, p :: ps => if b then p :: survivors bs ps else survivors bs ps
  | _, _ => []

/-- A turn of the loop, or nothing when `tx_timestamping` fails and the tool exits. -/
def step (info : Info) (r : Run) (c : Cycle) : Option Run :=
  let (lcore, burst) := txTimestamping info r.lcore c.mbufs c.currNs r.sent
  burst.map fun pkts =>
    let (lcore, wire, window) :=
      rxTimestamping info lcore c.rx (r.wire ++ survivors c.back pkts)
    { lcore := lcore
      wire := wire
      sent := r.sent + info.burstCount.toNat
      windows := r.windows ++ window.toList }

def run (info : Info) : Run → List Cycle → Run
  | r, [] => r
  | r, c :: cs =>
    match step info r c with
    | none => r
    | some r' => if c.rx.running then run info r' cs else r'

/-- The state in which `reference_routine` enters the loop. -/
def start (info : Info) (s : Stats) : Run where
  lcore := { txId := 0, rxId := 0, skipCnt := info.pktSkipCnt, stats := s }
  wire := []
  sent := 0
  windows := []

/-! ## Accounting for the numbers -/

/-- The window starts with the packet sent as number `n`. -/
def Window.Starts (w : Window) (n : Nat) : Prop := w.pkts.head?.map Pkt.serial = some n

/-- What directly follows a window, when `next` directly follows what came before it. -/
def nextAfter (next : Nat) (pkts : List Pkt) : Nat :=
  (pkts.getLast?.map fun p => p.serial + 1).getD next

/-- An error is counted only for a window that does not directly follow the one
before. -/
def OnlyAtGaps : Nat → List Window → Prop
  | _, [] => True
  | next, w :: ws =>
    (w.error = true → ¬ w.Starts next) ∧ OnlyAtGaps (nextAfter next w.pkts) ws

/-- How often something was lost directly before a packet of the stream. -/
def losses : Nat → List Pkt → Nat
  | _, [] => 0
  | next, p :: ps => (if p.serial = next then 0 else 1) + losses (p.serial + 1) ps

def errors (ws : List Window) : Nat := ws.countP Window.error

def stream (ws : List Window) : List Pkt := ws.flatMap Window.pkts

/-- What the accounting is for: errors only where something is missing between
two windows, so no more of them than losses. -/
structure Accounted (ws : List Window) : Prop where
  only : OnlyAtGaps 0 ws
  errors_le : errors ws ≤ losses 0 (stream ws)

/-- Whenever a counted window directly follows the one before, what was lost
until then is a multiple of 2^16: the number of its first packet agrees with the
number of packets received. -/
def FullTurns : Nat → Nat → List Window → Prop
  | _, _, [] => True
  | next, received, w :: ws =>
    (w.counted = true → w.Starts next → next ≡ received [MOD 2 ^ 16]) ∧
      FullTurns (nextAfter next w.pkts) (received + w.pkts.length) ws

/-- What the loop does for each window: an error when the number of the first
packet is not the number of packets received, modulo 2^16. -/
def Judged : Nat → List Window → Prop
  | _, [] => True
  | received, w :: ws =>
    ((∃ n, w.Starts n) ∧
      ∀ n, w.Starts n → (w.error = true ↔ w.counted = true ∧ ¬ n ≡ received [MOD 2 ^ 16])) ∧
      Judged (received + w.pkts.length) ws

theorem onlyAtGaps_iff (next received : Nat) (ws : List Window) (h : Judged received ws) :
    OnlyAtGaps next ws ↔ FullTurns next received ws := by
  induction ws generalizing next received with
  | nil => simp [OnlyAtGaps, FullTurns]
  | cons w ws ih =>
    obtain ⟨⟨-, hw⟩, hws⟩ := h
    simp only [OnlyAtGaps, FullTurns, ih _ _ hws]
    refine and_congr_left fun _ => ?_
    constructor
    · intro herror hcounted hstarts
      by_contra hmod
      exact herror ((hw next hstarts).mpr ⟨hcounted, hmod⟩) hstarts
    · intro hturn herror hstarts
      obtain ⟨hcounted, hmod⟩ := (hw next hstarts).mp herror
      exact hmod (hturn hcounted hstarts)

theorem losses_append (next : Nat) (xs ys : List Pkt) :
    losses next (xs ++ ys) = losses next xs + losses (nextAfter next xs) ys := by
  induction xs generalizing next with
  | nil => simp [losses, nextAfter]
  | cons x xs ih =>
    have hnext : nextAfter next (x :: xs) = nextAfter (x.serial + 1) xs := by
      cases xs with
      | nil => rfl
      | cons y ys => simp [nextAfter, List.getLast?_cons]
    simp only [List.cons_append, losses, ih, hnext, Nat.add_assoc]

/-- Errors only at gaps are no more than the losses. -/
theorem errors_le_losses (next : Nat) (ws : List Window) (h : OnlyAtGaps next ws)
    (hstarts : ∀ w ∈ ws, ∃ n, w.Starts n) : errors ws ≤ losses next (stream ws) := by
  induction ws generalizing next with
  | nil => exact Nat.zero_le _
  | cons w ws ih =>
    obtain ⟨hw, hws⟩ := h
    have htail := ih (nextAfter next w.pkts) hws fun v hv => hstarts v (List.mem_cons_of_mem w hv)
    have hhead : (if w.error = true then 1 else 0) ≤ losses next w.pkts := by
      obtain ⟨n, hn⟩ := hstarts w List.mem_cons_self
      cases hp : w.pkts with
      | nil => simp [Window.Starts, hp] at hn
      | cons p ps =>
        split
        · rename_i herror
          have hne : ¬ p.serial = next := by
            intro heq
            exact hw herror (by simp [Window.Starts, hp, heq])
          simp only [losses, if_neg hne]
          omega
        · exact Nat.zero_le _
    rw [stream, List.flatMap_cons, losses_append, ← stream]
    simp only [errors, List.countP_cons] at htail ⊢
    omega

theorem judged_starts (received : Nat) (ws : List Window) (h : Judged received ws) :
    ∀ w ∈ ws, ∃ n, w.Starts n := by
  induction ws generalizing received with
  | nil => simp
  | cons w ws ih =>
    intro v hv
    rcases List.mem_cons.mp hv with rfl | hv
    · exact h.1.1
    · exact ih _ h.2 v hv

theorem accounted_iff (ws : List Window) (h : Judged 0 ws) : Accounted ws ↔ FullTurns 0 0 ws := by
  rw [← onlyAtGaps_iff 0 0 ws h]
  exact ⟨fun ha => ha.only, fun ho => ⟨ho, errors_le_losses 0 ws ho (judged_starts 0 ws h)⟩⟩

theorem judged_append (received : Nat) (ws : List Window) (w : Window) (h : Judged received ws)
    (hw : Judged (received + (stream ws).length) [w]) : Judged received (ws ++ [w]) := by
  induction ws generalizing received with
  | nil => simpa [stream] using hw
  | cons v ws ih =>
    refine ⟨h.1, ih _ h.2 ?_⟩
    simpa [stream, Nat.add_assoc] using hw

/-! ## What one turn does -/

section turn

variable (info : Info) (lcore : Lcore) {wire : List Pkt}

def Numbered (p : Pkt) : Prop := p.beef = theBeefTimestamp ∧ p.id = UInt16.ofNat p.serial

theorem burstPkts_numbered (currNs : UInt64) (txId : UInt16) (serial n : Nat)
    (h : txId = UInt16.ofNat serial) : ∀ p ∈ burstPkts currNs txId serial n, Numbered p := by
  induction n generalizing txId serial with
  | zero => simp [burstPkts]
  | succ n ih =>
    intro p hp
    rcases List.mem_cons.mp hp with rfl | hp
    · exact ⟨rfl, h⟩
    · exact ih (txId + 1) (serial + 1) (by rw [h, UInt16.ofNat_add]; rfl) p hp

theorem survivors_sublist (bs : List Bool) (ps : List Pkt) : (survivors bs ps).Sublist ps := by
  induction bs generalizing ps with
  | nil => simp [survivors]
  | cons b bs ih =>
    cases ps with
    | nil => simp [survivors]
    | cons p ps =>
      cases b with
      | true => exact (ih ps).cons_cons p
      | false => exact (ih ps).cons p

/-- A loop takes packets off the front of the wire. -/
theorem recvLoop_wire (toRecv : Nat) (polls : List Nat) (wire : List Pkt) :
    (recvLoop toRecv polls wire).1 ++ (recvLoop toRecv polls wire).2.2 = wire := by
  induction polls generalizing toRecv wire with
  | nil => simp [recvLoop]
  | cons nbRx polls ih =>
    have hsplit : wire.take (min nbRx toRecv) ++
        wire.drop (wire.take (min nbRx toRecv)).length = wire := by
      rw [List.length_take]
      rcases Nat.le_total (min nbRx toRecv) wire.length with hle | hge
      · rw [Nat.min_eq_left hle]
        exact List.take_append_drop _ wire
      · rw [Nat.min_eq_right hge, List.take_of_length_le hge, List.drop_length, List.append_nil]
    simp only [recvLoop]
    split
    · exact hsplit
    · rw [List.append_assoc, ih]
      exact hsplit

theorem collect_wire (p : RxPoll) (wire : List Pkt) :
    (collect info p wire).1 ++ (collect info p wire).2.2.1 = wire := by
  have hfirst := recvLoop_wire info.burstCount.toNat p.inTime wire
  have hsecond := recvLoop_wire (recvLoop info.burstCount.toNat p.inTime wire).2.1 p.extraTime
    (recvLoop info.burstCount.toNat p.inTime wire).2.2
  simp only [collect]
  split
  · exact hfirst
  · rw [List.append_assoc, hsecond]
    exact hfirst

/-- Windows of probes: `rx_id` moves on by their length, and there is an error
just when it was not the number of the first one. -/
theorem processPackets_spec (currNs : UInt64) {ts : Pkt} (hts : Numbered ts) (totalRx : UInt16) :
    let r := processPackets info lcore currNs ts totalRx
    r.1.txId = lcore.txId ∧ r.1.rxId = lcore.rxId + totalRx ∧
      r.1.stats.idError = lcore.stats.idError + (if r.2.2 then 1 else 0) ∧
      (r.2.2 = true ↔ r.2.1 = true ∧ lcore.rxId ≠ ts.id) := by
  simp only [processPackets]
  by_cases hskip : lcore.skipCnt ≠ 0
  · simp [hskip]
  · by_cases herror : lcore.rxId = ts.id <;> simp [hskip, hts.1, herror, updateRtt]

theorem countExtraTime_spec (inTime : Bool) :
    (countExtraTime lcore inTime).txId = lcore.txId ∧
      (countExtraTime lcore inTime).rxId = lcore.rxId ∧
      (countExtraTime lcore inTime).stats.idError = lcore.stats.idError := by
  cases inTime <;> exact ⟨rfl, rfl, rfl⟩

/-- What a receive call can do: it processes nothing, and leaves the wire as it
is unless the tool stops, or it processes a window from the front of the wire. -/
theorem rxTimestamping_cases (p : RxPoll) (hwire : ∀ q ∈ wire, Numbered q) :
    let r := rxTimestamping info lcore p wire
    r.1.txId = lcore.txId ∧
      ((r.2.2 = none ∧ r.1.rxId = lcore.rxId ∧ r.1.stats.idError = lcore.stats.idError ∧
          ∃ got, got ++ r.2.1 = wire ∧ (p.running → got = [])) ∨
        ∃ ts rest counted error,
          r.2.2 = some { pkts := ts :: rest, counted := counted, error := error } ∧
            ts :: rest ++ r.2.1 = wire ∧
            r.1.rxId = lcore.rxId + UInt16.ofNat (rest.length + 1) ∧
            r.1.stats.idError = lcore.stats.idError + (if error then 1 else 0) ∧
            (error = true ↔ counted = true ∧ lcore.rxId ≠ ts.id)) := by
  have hcollect := collect_wire info p wire
  obtain ⟨htx, hrx, hid⟩ := countExtraTime_spec lcore (collect info p wire).2.2.2
  simp only [rxTimestamping]
  cases hpkts : (collect info p wire).1 with
  | nil =>
    rw [hpkts] at hcollect
    exact ⟨htx, .inl ⟨rfl, hrx, hid, [], hcollect, fun _ => rfl⟩⟩
  | cons ts rest =>
    rw [hpkts] at hcollect
    have hts : Numbered ts := hwire ts (by rw [← hcollect]; simp)
    by_cases hproc : (collect info p wire).2.1 = 0 ∨ p.running = true
    · obtain ⟨htx', hrx', hid', herror⟩ := processPackets_spec info
        (countExtraTime lcore (collect info p wire).2.2.2) p.currNs hts
        (UInt16.ofNat (rest.length + 1))
      rw [htx] at htx'
      rw [hrx] at hrx' herror
      rw [hid] at hid'
      simp only [if_pos hproc]
      exact ⟨htx', .inr ⟨ts, rest, _, _, rfl, hcollect, hrx', hid', herror⟩⟩
    · simp only [if_neg hproc]
      refine ⟨htx, .inl ⟨trivial, hrx, hid, ts :: rest, hcollect, fun hrunning => ?_⟩⟩
      exact absurd (.inr hrunning) hproc

end turn

/-! ## Runs -/

section runs

variable {info : Info} {r r' : Run} {c : Cycle}

/-- `tx_id` counts the packets sent and `rx_id` the packets received. -/
structure Inv (r : Run) : Prop where
  txId : r.lcore.txId = UInt16.ofNat r.sent
  rxId : r.lcore.rxId = UInt16.ofNat (stream r.windows).length
  wire : ∀ p ∈ r.wire, Numbered p
  judged : Judged 0 r.windows

theorem inv_start (info : Info) (s : Stats) : Inv (start info s) :=
  ⟨rfl, rfl, by simp [start], trivial⟩

/-- What is on the wire when a turn receives. -/
def wireOf (info : Info) (r : Run) (c : Cycle) : List Pkt :=
  r.wire ++ survivors c.back (burstPkts c.currNs r.lcore.txId r.sent info.burstCount.toNat)

theorem Inv.wireOf (h : Inv r) (c : Cycle) : ∀ p ∈ wireOf info r c, Numbered p := by
  intro p hp
  rcases List.mem_append.mp hp with hp | hp
  · exact h.wire p hp
  · exact burstPkts_numbered _ _ _ _ h.txId p ((survivors_sublist _ _).mem hp)

theorem stream_append (ws vs : List Window) : stream (ws ++ vs) = stream ws ++ stream vs :=
  List.flatMap_append

/-- What a turn of the loop can do. -/
theorem step_cases (h : Inv r) (hstep : step info r c = some r') :
    r'.sent = r.sent + info.burstCount.toNat ∧
      r'.lcore.txId = r.lcore.txId + info.burstCount ∧
      ((r'.windows = r.windows ∧ r'.lcore.rxId = r.lcore.rxId ∧
          r'.lcore.stats.idError = r.lcore.stats.idError ∧
          ∃ got, got ++ r'.wire = wireOf info r c ∧ (c.rx.running → got = [])) ∨
        ∃ ts rest counted error,
          r'.windows = r.windows ++ [{ pkts := ts :: rest, counted := counted, error := error }] ∧
            ts :: rest ++ r'.wire = wireOf info r c ∧
            r'.lcore.rxId = r.lcore.rxId + UInt16.ofNat (rest.length + 1) ∧
            r'.lcore.stats.idError = r.lcore.stats.idError + (if error then 1 else 0) ∧
            (error = true ↔ counted = true ∧ r.lcore.rxId ≠ ts.id)) := by
  cases hm : c.mbufs with
  | false => simp [step, txTimestamping, hm] at hstep
  | true =>
    simp only [step, txTimestamping, hm, if_true, Option.map_some, Option.some.injEq] at hstep
    subst hstep
    refine ⟨rfl, ?_⟩
    obtain ⟨htx, hnone | ⟨ts, rest, counted, error, hw, hrest⟩⟩ := rxTimestamping_cases info
      { r.lcore with
        txId := r.lcore.txId + info.burstCount
        stats := { r.lcore.stats with
          totalTx := r.lcore.stats.totalTx + info.burstCount.toUInt64 } } c.rx (h.wireOf c)
    · obtain ⟨hw, hrx, hid, hgot⟩ := hnone
      refine ⟨htx, .inl ⟨?_, hrx, hid, hgot⟩⟩
      exact (congrArg (fun w => r.windows ++ Option.toList w) hw).trans (List.append_nil _)
    · refine ⟨htx, .inr ⟨ts, rest, counted, error, ?_, hrest⟩⟩
      exact congrArg (fun w => r.windows ++ Option.toList w) hw

theorem ofNat_eq_iff (a b : Nat) : UInt16.ofNat a = UInt16.ofNat b ↔ a ≡ b [MOD 2 ^ 16] := by
  rw [← UInt16.toNat_inj, UInt16.toNat_ofNat', UInt16.toNat_ofNat']
  exact Iff.rfl

theorem Inv.step (h : Inv r) (hstep : step info r c = some r') : Inv r' := by
  have hnumbered : ∀ p ∈ Ratt.wireOf info r c, Numbered p := h.wireOf c
  obtain ⟨hsent, htx, hcases⟩ := step_cases h hstep
  have htxId : r'.lcore.txId = UInt16.ofNat r'.sent := by
    rw [htx, hsent, h.txId, UInt16.ofNat_add, UInt16.ofNat_toNat]
  rcases hcases with ⟨hw, hrx, -, got, hwire, -⟩ | ⟨ts, rest, counted, error, hw, hwire, hrx, -, herror⟩
  · refine ⟨htxId, by rw [hrx, hw, h.rxId], ?_, hw ▸ h.judged⟩
    intro p hp
    exact hnumbered p (by rw [← hwire]; exact List.mem_append_right _ hp)
  · refine ⟨htxId, ?_, ?_, ?_⟩
    · rw [hrx, hw, h.rxId, stream_append, List.length_append, UInt16.ofNat_add]
      simp [stream]
    · intro p hp
      exact hnumbered p (by rw [← hwire]; exact List.mem_append_right _ hp)
    · rw [hw]
      refine judged_append 0 r.windows _ h.judged ⟨⟨⟨ts.serial, rfl⟩, ?_⟩, trivial⟩
      intro n hn
      have hts : ts.id = UInt16.ofNat ts.serial :=
        (hnumbered ts (by rw [← hwire]; simp)).2
      have hn' : ts.serial = n := by simpa [Window.Starts] using hn
      rw [herror, h.rxId, hts, hn', Nat.zero_add, ne_comm, ne_eq, ofNat_eq_iff]

theorem Inv.run (h : Inv r) (cs : List Cycle) : Inv (run info r cs) := by
  induction cs generalizing r with
  | nil => exact h
  | cons c cs ih =>
    rw [Ratt.run]
    cases hstep : Ratt.step info r c with
    | none => exact h
    | some r' =>
      simp only
      split
      · exact ih (h.step hstep)
      · exact h.step hstep

/-- `id_error` counts the windows with an error. -/
theorem run_idError (h : Inv r) (base : UInt64)
    (hid : r.lcore.stats.idError = base + UInt64.ofNat (errors r.windows)) (cs : List Cycle) :
    (run info r cs).lcore.stats.idError =
      base + UInt64.ofNat (errors (run info r cs).windows) := by
  induction cs generalizing r with
  | nil => exact hid
  | cons c cs ih =>
    rw [Ratt.run]
    cases hstep : Ratt.step info r c with
    | none => exact hid
    | some r' =>
      have hid' : r'.lcore.stats.idError = base + UInt64.ofNat (errors r'.windows) := by
        obtain ⟨-, -, ⟨hw, -, hsame, -⟩ | ⟨ts, rest, counted, error, hw, -, -, hadd, -⟩⟩ :=
          step_cases h hstep
        · rw [hsame, hw, hid]
        · rw [hadd, hw, hid, errors, errors, List.countP_append, UInt64.ofNat_add,
            UInt64.add_assoc]
          cases error <;> rfl
      simp only
      split
      · exact ih (h.step hstep) hid'
      · exact hid'

end runs

/-! ## Runs without a loss -/

section lossless

variable {info : Info} {r r' : Run} {c : Cycle}

def Kept (info : Info) (c : Cycle) : Prop :=
  c.back = List.replicate info.burstCount.toNat true

def Lossless (info : Info) (cs : List Cycle) : Prop := ∀ c ∈ cs, Kept info c

/-- Everything sent so far has been received or is on the wire, in order. -/
def Full (r : Run) : Prop := (stream r.windows ++ r.wire).map Pkt.serial = List.range r.sent

theorem full_start (info : Info) (s : Stats) : Full (start info s) := rfl

theorem burstPkts_serial (currNs : UInt64) (txId : UInt16) (serial n : Nat) :
    (burstPkts currNs txId serial n).map Pkt.serial = List.range' serial n := by
  induction n generalizing txId serial with
  | zero => rfl
  | succ n ih => simp [burstPkts, ih, List.range'_succ]

theorem survivors_all (ps : List Pkt) : survivors (List.replicate ps.length true) ps = ps := by
  induction ps with
  | nil => rfl
  | cons p ps ih => simp [survivors, List.replicate_succ, ih]

theorem wireOf_kept (hc : Kept info c) (hr : Full r) :
    (stream r.windows ++ wireOf info r c).map Pkt.serial =
      List.range (r.sent + info.burstCount.toNat) := by
  have hlength : info.burstCount.toNat =
      (burstPkts c.currNs r.lcore.txId r.sent info.burstCount.toNat).length := by
    have h := congrArg List.length
      (burstPkts_serial c.currNs r.lcore.txId r.sent info.burstCount.toNat)
    rw [List.length_map, List.length_range'] at h
    exact h.symm
  have hburst : survivors c.back
      (burstPkts c.currNs r.lcore.txId r.sent info.burstCount.toNat) =
        burstPkts c.currNs r.lcore.txId r.sent info.burstCount.toNat := by
    rw [hc]
    nth_rewrite 1 [hlength]
    exact survivors_all _
  rw [wireOf, hburst, ← List.append_assoc, List.map_append, hr, burstPkts_serial,
    List.range_eq_range', List.range_eq_range']
  have happend : List.range' 0 r.sent ++ List.range' (0 + r.sent) info.burstCount.toNat = _ :=
    List.range'_append_1
  rw [Nat.zero_add] at happend
  exact happend

theorem Full.windows (h : Full r) :
    (stream r.windows).map Pkt.serial = List.range (stream r.windows).length := by
  have htake := congrArg (List.take (stream r.windows).length) h
  have hle : (stream r.windows).length ≤ r.sent := by
    have hlength := congrArg List.length h
    simp only [List.length_map, List.length_append, List.length_range] at hlength
    omega
  rw [List.map_append, List.take_range, Nat.min_eq_left hle,
    List.take_left' (List.length_map _)] at htake
  exact htake

/-- A turn without a loss: unless the tool stops, everything is still there. -/
theorem Full.step (h : Full r) (hinv : Inv r) (hc : Kept info c)
    (hstep : step info r c = some r') :
    (c.rx.running → Full r') ∧ (Full r' ∨ r'.windows = r.windows) := by
  have hwireOf := wireOf_kept hc h
  obtain ⟨hsent, -, ⟨hw, -, -, got, hwire, hgot⟩ | ⟨ts, rest, counted, error, hw, hwire, -⟩⟩ :=
    step_cases hinv hstep
  · refine ⟨?_, .inr hw⟩
    intro hrunning
    have hsame : r'.wire = wireOf info r c := by
      rw [← hwire, hgot hrunning, List.nil_append]
    rw [Full, hw, hsame, hwireOf, hsent]
  · have hfull : Full r' := by
      rw [Full, hsent, ← hwireOf, ← hwire, hw, stream_append, List.append_assoc]
      simp [stream]
    exact ⟨fun _ => hfull, .inl hfull⟩

/-- Without a loss the windows have everything from the first packet on. -/
theorem lossless_stream (h : Full r) (hinv : Inv r) (cs : List Cycle) (hcs : Lossless info cs) :
    (stream (run info r cs).windows).map Pkt.serial =
      List.range (stream (run info r cs).windows).length := by
  induction cs generalizing r with
  | nil => exact h.windows
  | cons c cs ih =>
    rw [Ratt.run]
    cases hstep : Ratt.step info r c with
    | none => exact h.windows
    | some r' =>
      obtain ⟨hrunning, hlast⟩ := h.step hinv (hcs c List.mem_cons_self) hstep
      simp only
      split
      · rename_i hr
        exact ih (hrunning hr) (hinv.step hstep) fun d hd => hcs d (List.mem_cons_of_mem c hd)
      · rcases hlast with hfull | hsame
        · exact hfull.windows
        · rw [hsame]
          exact h.windows

/-- Windows that have every packet are without errors. -/
theorem no_errors (received : Nat) (ws : List Window) (h : Judged received ws)
    (hall : (stream ws).map Pkt.serial = List.range' received (stream ws).length) :
    errors ws = 0 := by
  induction ws generalizing received with
  | nil => rfl
  | cons w ws ih =>
    obtain ⟨⟨⟨n, hn⟩, hw⟩, hws⟩ := h
    rw [stream, List.flatMap_cons, ← stream, List.map_append, List.length_append,
      ← List.range'_append_1] at hall
    obtain ⟨hhead, htail⟩ := List.append_inj hall (by simp)
    have hnoerror : w.error = false := by
      cases hp : w.pkts with
      | nil => simp [Window.Starts, hp] at hn
      | cons p ps =>
        have hserial : n = received := by
          rw [hp, List.map_cons, List.length_cons, List.range'_succ] at hhead
          have hstart : p.serial = n := by simpa [Window.Starts, hp] using hn
          exact hstart.symm.trans (List.cons.inj hhead).1
        subst hserial
        exact Bool.eq_false_iff.mpr fun herror => ((hw n hn).mp herror).2 rfl
    have hrest := ih _ hws htail
    rw [errors] at hrest ⊢
    rw [List.countP_cons, hrest, hnoerror]
    rfl

end lossless

/-- `id_error` counts the windows with an error. The accounting is right just
when every counted window that directly follows the one before comes after a
loss of a multiple of 2^16 packets. Without a loss there are no errors. -/
theorem accounting_iff (info : Info) (s : Stats) (cs : List Cycle) :
    (run info (start info s) cs).lcore.stats.idError =
        s.idError + UInt64.ofNat (errors (run info (start info s) cs).windows) ∧
      (Accounted (run info (start info s) cs).windows ↔
        FullTurns 0 0 (run info (start info s) cs).windows) ∧
      (Lossless info cs → errors (run info (start info s) cs).windows = 0) := by
  have hinv : Inv (run info (start info s) cs) := (inv_start info s).run cs
  refine ⟨run_idError (inv_start info s) s.idError (UInt64.add_zero _).symm cs,
    accounted_iff _ hinv.judged, ?_⟩
  intro hcs
  refine no_errors 0 _ hinv.judged ?_
  rw [← List.range_eq_range']
  exact lossless_stream (full_start info s) (inv_start info s) cs hcs

def singlePacket : Info := { cycleTimeNs := 250000, burstCount := 1, pktSkipCnt := 0 }

def freshStats : Stats :=
  { totalRx := 0, totalTx := 0, noMbufs := 0, noTimestamp := 0, idError := 0, rxTryExtraTime := 0
    rtt := cleared 1000000, spike := cleared 1000000, snapshot := cleared 1000000 }

/-- A turn whose packet comes back in the same cycle, or not at all. -/
def singleCycle (back : Bool) : Cycle :=
  { mbufs := true, currNs := 100, back := [back]
    rx := { inTime := [1], extraTime := [], running := true, currNs := 400 } }

theorem three_back_no_errors :
    errors (run singlePacket (start singlePacket freshStats)
      [singleCycle true, singleCycle true, singleCycle true]).windows = 0 :=
  (accounting_iff singlePacket freshStats
    [singleCycle true, singleCycle true, singleCycle true]).2.2 (by simp [Lossless, Kept]; rfl)

/-- The second of four packets is lost. Packet 2 and packet 3 are both counted as
errors, though packet 3 directly follows packet 2. -/
theorem one_loss_two_errors :
    let ws := (run singlePacket (start singlePacket freshStats)
      [singleCycle true, singleCycle false, singleCycle true, singleCycle true]).windows
    (stream ws).map Pkt.serial = [0, 2, 3] ∧ losses 0 (stream ws) = 1 ∧ errors ws = 2 ∧
      ¬ Accounted ws := by
  intro ws
  have hlosses : losses 0 (stream ws) = 1 := by decide
  have herrors : errors ws = 2 := by decide
  refine ⟨by decide, hlosses, herrors, ?_⟩
  intro h
  have hle := h.errors_le
  omega

end Rtdk.Ratt
