import Mathlib.Data.UInt
import Rtdk.Grid

/-! The transmit side of the patched igc driver.

A queue is a ring of descriptors with one software entry each. A packet with a
transmit time gets a context descriptor with its launch time; the first packet
for the next Qbv cycle is marked, and a dummy packet is sent before it if the
queue has sent nothing in the current cycle. -/

namespace Rtdk.Igc

def NSEC_PER_SEC : UInt64 := 1000000000

/-- `struct igc_tx_entry`, for a ring with `n` entries. -/
structure IgcTxEntry (n : Nat) where
  mbuf : Option Nat
  nextId : Fin n
  lastId : Fin n
  deriving DecidableEq, Repr

/-- What is written into a descriptor. -/
inductive TxDesc
  | context (idx : UInt32) (frst : Bool) (launchTime : UInt32)
  | dummy
  | data (segment : Nat)
  deriving DecidableEq, Repr

/-- `struct igc_tx_queue`: `txr` lists what was written into the descriptor
ring, in order. The entries of `sw_ring` are linked to a cycle. -/
structure IgcTxQueue (n : Nat) where
  swRing : Fin n → IgcTxEntry n
  linked : ∀ i, (swRing i).nextId.val = (i.val + 1) % n
  txr : List (Fin n × TxDesc)
  ctxCurr : UInt32
  lastFrstFlag : UInt64
  lastPacketCycle : UInt64

structure IgcAdapter where
  baseTime : UInt64
  cycleTime : UInt64
  deriving DecidableEq, Repr

/-- The registers SYSTIML and SYSTIMH. -/
structure Systim where
  nsec : UInt32
  sec : UInt32
  deriving DecidableEq, Repr

def Systim.systime (r : Systim) : UInt64 := r.sec.toUInt64 * NSEC_PER_SEC + r.nsec.toUInt64

variable {n : Nat}

namespace IgcTxQueue

def setPacketCycle (q : IgcTxQueue n) (cycle : UInt64) : IgcTxQueue n :=
  { q with lastPacketCycle := cycle }

def setFrstFlag (q : IgcTxQueue n) (cycle : UInt64) : IgcTxQueue n := { q with lastFrstFlag := cycle }

variable (q : IgcTxQueue n) (cycle : UInt64)

@[simp] theorem setPacketCycle_lastPacketCycle :
    (q.setPacketCycle cycle).lastPacketCycle = cycle := rfl

@[simp] theorem setPacketCycle_lastFrstFlag :
    (q.setPacketCycle cycle).lastFrstFlag = q.lastFrstFlag := rfl

@[simp] theorem setPacketCycle_txr : (q.setPacketCycle cycle).txr = q.txr := rfl

@[simp] theorem setFrstFlag_lastFrstFlag : (q.setFrstFlag cycle).lastFrstFlag = cycle := rfl

@[simp] theorem setFrstFlag_txr : (q.setFrstFlag cycle).txr = q.txr := rfl

end IgcTxQueue

/-- The result of `igc_tx_launchtime` with the two flags it sets. -/
structure Launch (n : Nat) where
  queue : IgcTxQueue n
  launchtime : UInt32
  needDummyPkt : Bool
  needFrstFlag : Bool

def currentCycleEnd (ad : IgcAdapter) (systime : UInt64) : UInt64 :=
  let cyclesElapsed := (systime - ad.baseTime) / ad.cycleTime
  (cyclesElapsed + 1) * ad.cycleTime + ad.baseTime

/-- The launch time of a packet at `systime` in the cycle that ends at `cycleEnd`. It is 0
if it has expired or is beyond the horizon. -/
def launchAt (ad : IgcAdapter) (txq : IgcTxQueue n) (systime cycleEnd txtime : UInt64) : Launch n :=
  if txtime ≤ systime ∨ txtime ≥ cycleEnd + ad.cycleTime then
    ⟨txq.setPacketCycle cycleEnd, 0, false, false⟩
  else
    let launchtime := ((txtime - ad.baseTime) % ad.cycleTime).toUInt32
    if txtime ≥ cycleEnd then
      if txq.lastFrstFlag ≠ cycleEnd then
        ⟨(txq.setFrstFlag cycleEnd).setPacketCycle (cycleEnd + ad.cycleTime), launchtime,
          decide (txq.lastPacketCycle < cycleEnd), true⟩
      else
        ⟨txq.setPacketCycle (cycleEnd + ad.cycleTime), launchtime, false, false⟩
    else
      ⟨txq.setPacketCycle cycleEnd, launchtime, false, false⟩

def igcTxLaunchtime (ad : IgcAdapter) (txq : IgcTxQueue n) (r : Systim) (txtime : UInt64) :
    Launch n :=
  launchAt ad txq r.systime (currentCycleEnd ad r.systime) txtime

/-- The four ways through `igc_tx_launchtime`. -/
theorem launchAt_cases (ad : IgcAdapter) (q : IgcTxQueue n) (sys e t : UInt64) :
    ((t ≤ sys ∨ t ≥ e + ad.cycleTime) ∧
      launchAt ad q sys e t = ⟨q.setPacketCycle e, 0, false, false⟩) ∨
    ((sys < t ∧ t < e ∧ t < e + ad.cycleTime) ∧ launchAt ad q sys e t =
      ⟨q.setPacketCycle e, ((t - ad.baseTime) % ad.cycleTime).toUInt32, false, false⟩) ∨
    ((sys < t ∧ e ≤ t ∧ t < e + ad.cycleTime) ∧ q.lastFrstFlag = e ∧ launchAt ad q sys e t =
      ⟨q.setPacketCycle (e + ad.cycleTime), ((t - ad.baseTime) % ad.cycleTime).toUInt32,
        false, false⟩) ∨
    ((sys < t ∧ e ≤ t ∧ t < e + ad.cycleTime) ∧ q.lastFrstFlag ≠ e ∧ launchAt ad q sys e t =
      ⟨(q.setFrstFlag e).setPacketCycle (e + ad.cycleTime),
        ((t - ad.baseTime) % ad.cycleTime).toUInt32, decide (q.lastPacketCycle < e), true⟩) := by
  unfold launchAt
  extract_lets launchtime
  by_cases hout : t ≤ sys ∨ t ≥ e + ad.cycleTime
  · rw [if_pos hout]
    exact Or.inl ⟨hout, rfl⟩
  · rw [if_neg hout]
    obtain ⟨hpast, hnear⟩ := not_or.mp hout
    have hsys : sys < t := UInt64.not_le.mp hpast
    have hhor : t < e + ad.cycleTime := UInt64.not_le.mp hnear
    by_cases hnext : t ≥ e
    · rw [if_pos hnext]
      by_cases hfrst : q.lastFrstFlag = e
      · rw [if_neg (not_not.mpr hfrst)]
        exact Or.inr (Or.inr (Or.inl ⟨⟨hsys, hnext, hhor⟩, hfrst, rfl⟩))
      · rw [if_pos hfrst]
        exact Or.inr (Or.inr (Or.inr ⟨⟨hsys, hnext, hhor⟩, hfrst, rfl⟩))
    · rw [if_neg hnext]
      exact Or.inr (Or.inl ⟨⟨hsys, UInt64.not_le.mp hnext, hhor⟩, rfl⟩)

theorem launchAt_needDummyPkt (ad : IgcAdapter) (q : IgcTxQueue n) (sys e t : UInt64) :
    (launchAt ad q sys e t).needDummyPkt = true ↔
      (sys < t ∧ e ≤ t ∧ t < e + ad.cycleTime) ∧ q.lastFrstFlag ≠ e ∧ q.lastPacketCycle < e := by
  obtain ⟨hout, heq⟩ | ⟨⟨-, hcur, -⟩, heq⟩ | ⟨-, hfrst, heq⟩ | ⟨hnext, hfrst, heq⟩ :=
    launchAt_cases ad q sys e t
  · have hnot : ¬(sys < t ∧ e ≤ t ∧ t < e + ad.cycleTime) := by
      rintro ⟨hsys, -, hhor⟩
      rcases hout with hpast | hfar
      · exact UInt64.not_le.mpr hsys hpast
      · exact UInt64.not_le.mpr hhor hfar
    simp [heq, hnot]
  · simp [heq, UInt64.not_le.mpr hcur]
  · simp [heq, hfrst]
  · simp [heq, hnext, hfrst]

/-! ## The ring -/

namespace IgcTxQueue

/-- Changes an entry but not its link. -/
def setEntry (q : IgcTxQueue n) (i : Fin n) (mbuf : Option Nat) (lastId : Fin n) : IgcTxQueue n :=
  { q with
    swRing := Function.update q.swRing i { mbuf, nextId := (q.swRing i).nextId, lastId }
    linked := by
      intro j
      by_cases hj : j = i
      · subst hj
        simpa using q.linked j
      · simpa [Function.update_of_ne hj] using q.linked j }

def write (q : IgcTxQueue n) (i : Fin n) (d : TxDesc) : IgcTxQueue n :=
  { q with txr := q.txr ++ [(i, d)] }

def nextId (q : IgcTxQueue n) (i : Fin n) : Fin n := (q.swRing i).nextId

def freeMbuf (q : IgcTxQueue n) (i : Fin n) : IgcTxQueue n := q.setEntry i none (q.swRing i).lastId

def setLast (q : IgcTxQueue n) (i last : Fin n) : IgcTxQueue n := q.setEntry i (q.swRing i).mbuf last

end IgcTxQueue

/-- Sends the dummy packet from `txId` on, with a context and a data descriptor; the result
is the id after it, the one of the packet itself. -/
def igcInsertDummyPacket (txq : IgcTxQueue n) (txId : Fin n) : IgcTxQueue n × Fin n :=
  let txq := txq.write txId (.context txq.ctxCurr false 0)
  let dataId := txq.nextId txId
  let txq := txq.setLast txId dataId
  let txq := txq.freeMbuf dataId
  let txq := txq.write dataId .dummy
  let txq := txq.setLast dataId dataId
  let txId := txq.nextId dataId
  let txq := txq.freeMbuf txId
  ({ txq with ctxCurr := txq.ctxCurr ^^^ 1 }, txId)

/-- Writes the context descriptor of a packet at `txId`, after a dummy packet if
it needs one. -/
def writeContext (l : Launch n) (txId txLast : Fin n) : IgcTxQueue n × Fin n :=
  let (txq, txId) := if l.needDummyPkt then igcInsertDummyPacket l.queue txId else (l.queue, txId)
  let txq := txq.write txId (.context txq.ctxCurr l.needFrstFlag l.launchtime)
  (txq.setLast txId txLast, txq.nextId txId)

/-- The context of a packet: without a transmit time its launch time is 0. -/
def igcSetXmitCtx (ad : IgcAdapter) (txq : IgcTxQueue n) (r : Systim) (txId : Fin n)
    (txtime : UInt64) (txLast : Fin n) : IgcTxQueue n × Fin n :=
  let txq := { txq with ctxCurr := txq.ctxCurr ^^^ 1 }
  if txtime = 0 then writeContext ⟨txq, 0, false, false⟩ txId txLast
  else writeContext (igcTxLaunchtime ad txq r txtime) txId txLast

/-- The data descriptors of a packet, one for each segment. -/
def xmitSegments (txq : IgcTxQueue n) (txId txLast : Fin n) : List Nat → IgcTxQueue n × Fin n
  | [] => (txq, txId)
  | m :: segs =>
    let txq := (txq.write txId (.data m)).setEntry txId (some m) txLast
    xmitSegments txq (txq.nextId txId) txLast segs

/-- The last descriptor of a packet that starts at `tail` with a context
descriptor, as `igc_xmit_pkts` has it before it thinks of a dummy packet. -/
def txLast (tail : Fin n) (segs : List Nat) : Fin n :=
  ⟨(tail.val + segs.length) % n, Nat.mod_lt _ tail.pos⟩

/-- The entry of `sw_ring` that `igc_xmit_pkts` looks at to see whether the
packet finds enough free descriptors: an index of type `int`. -/
def reservedEntry (last : Fin n) : Nat := last.val + 2

/-- What `igc_xmit_pkts` writes for a packet with a context descriptor. -/
def igcXmitPkt (ad : IgcAdapter) (txq : IgcTxQueue n) (r : Systim) (tail : Fin n)
    (txtime : UInt64) (segs : List Nat) : IgcTxQueue n × Fin n :=
  let txq := txq.freeMbuf tail
  let (txq, txId) := igcSetXmitCtx ad txq r tail txtime (txLast tail segs)
  xmitSegments txq txId (txLast tail segs) segs

/-! ## Which descriptors a packet takes -/

/-- The entry `k` places after `i`. -/
def after (i : Fin n) (k : Nat) : Fin n := ⟨(i.val + k) % n, Nat.mod_lt _ i.pos⟩

@[simp] theorem after_zero (i : Fin n) : after i 0 = i := by
  apply Fin.ext
  simp [after, Nat.mod_eq_of_lt i.isLt]

theorem after_after (i : Fin n) (j k : Nat) : after (after i j) k = after i (j + k) := by
  apply Fin.ext
  simp [after, Nat.add_assoc]

@[simp] theorem nextId_eq (q : IgcTxQueue n) (i : Fin n) : q.nextId i = after i 1 :=
  Fin.ext (q.linked i)

@[simp] theorem txr_write (q : IgcTxQueue n) (i : Fin n) (d : TxDesc) :
    (q.write i d).txr = q.txr ++ [(i, d)] := rfl

@[simp] theorem txr_setEntry (q : IgcTxQueue n) (i last : Fin n) (m : Option Nat) :
    (q.setEntry i m last).txr = q.txr := rfl

@[simp] theorem txr_freeMbuf (q : IgcTxQueue n) (i : Fin n) : (q.freeMbuf i).txr = q.txr := rfl

@[simp] theorem txr_setLast (q : IgcTxQueue n) (i last : Fin n) :
    (q.setLast i last).txr = q.txr := rfl

theorem launchAt_txr (ad : IgcAdapter) (q : IgcTxQueue n) (sys e t : UInt64) :
    (launchAt ad q sys e t).queue.txr = q.txr := by
  obtain ⟨-, heq⟩ | ⟨-, heq⟩ | ⟨-, -, heq⟩ | ⟨-, -, heq⟩ := launchAt_cases ad q sys e t <;>
    simp [heq]

/-- The `k` descriptors from `i` on. -/
def places (i : Fin n) (k : Nat) : List (Fin n) := (List.range k).map (after i)

theorem places_succ (i : Fin n) (k : Nat) : places i (k + 1) = i :: places (after i 1) k := by
  have htail : (after i ∘ Nat.succ) = after (after i 1) := by
    funext k
    rw [after_after, Nat.add_comm]
    rfl
  rw [places, List.range_succ_eq_map, List.map_cons, List.map_map, htail, after_zero]
  rfl

theorem places_add (i : Fin n) (j k : Nat) :
    places i (j + k) = places i j ++ places (after i j) k := by
  induction j generalizing i with
  | zero => simp [places]
  | succ j ih =>
    rw [Nat.add_right_comm, places_succ, places_succ, ih, after_after, List.cons_append,
      Nat.add_comm 1 j]

theorem places_getLast (i : Fin n) (k : Nat) : (places i (k + 1)).getLast? = some (after i k) := by
  simp [places, List.range_succ]

/-- The operation writes the next `k` descriptors from `i` on. -/
def Takes (q : IgcTxQueue n) (i : Fin n) (k : Nat) (res : IgcTxQueue n × Fin n) : Prop :=
  res.1.txr.map Prod.fst = q.txr.map Prod.fst ++ places i k ∧ res.2 = after i k

theorem Takes.trans {q : IgcTxQueue n} {i : Fin n} {j k : Nat} {res res' : IgcTxQueue n × Fin n}
    (h : Takes q i j res) (h' : Takes res.1 res.2 k res') : Takes q i (j + k) res' := by
  obtain ⟨hw, hid⟩ := h
  obtain ⟨hw', hid'⟩ := h'
  constructor
  · rw [hw', hw, hid, places_add, List.append_assoc]
  · rw [hid', hid, after_after]

theorem igcInsertDummyPacket_takes (q : IgcTxQueue n) (i : Fin n) :
    Takes q i 2 (igcInsertDummyPacket q i) := by
  constructor
  · simp [igcInsertDummyPacket, places, List.range_succ, List.map_append]
  · simp [igcInsertDummyPacket, after_after]

/-- The context takes one descriptor, and two more if a dummy packet goes first. -/
theorem writeContext_takes (l : Launch n) (i last : Fin n) :
    Takes l.queue i (if l.needDummyPkt then 2 + 1 else 1) (writeContext l i last) := by
  have hcontext (q : IgcTxQueue n) (j : Fin n) (d : TxDesc) :
      Takes q j 1 ((q.write j d).setLast j last, (q.write j d).nextId j) := by
    constructor
    · simp [places]
    · exact nextId_eq ..
  unfold writeContext
  split
  · exact (igcInsertDummyPacket_takes l.queue i).trans (hcontext _ _ _)
  · exact hcontext _ _ _

theorem igcSetXmitCtx_takes (ad : IgcAdapter) (q : IgcTxQueue n) (r : Systim) (i last : Fin n)
    (t : UInt64) (hdummy : (igcTxLaunchtime ad q r t).needDummyPkt = true) :
    Takes q i (2 + 1) (igcSetXmitCtx ad q r i t last) := by
  have hstate := (launchAt_needDummyPkt ad q r.systime (currentCycleEnd ad r.systime) t).mp hdummy
  have ht : t ≠ 0 := by
    rintro rfl
    exact UInt64.not_lt_zero hstate.1.1
  have hdummy' := (launchAt_needDummyPkt ad { q with ctxCurr := q.ctxCurr ^^^ 1 } r.systime
    (currentCycleEnd ad r.systime) t).mpr hstate
  have htakes := writeContext_takes (igcTxLaunchtime ad { q with ctxCurr := q.ctxCurr ^^^ 1 } r t)
    i last
  rw [igcSetXmitCtx, if_neg ht]
  rw [igcTxLaunchtime] at htakes ⊢
  rw [if_pos hdummy'] at htakes
  rwa [Takes, launchAt_txr] at htakes

theorem xmitSegments_takes (q : IgcTxQueue n) (i last : Fin n) (segs : List Nat) :
    Takes q i segs.length (xmitSegments q i last segs) := by
  induction segs generalizing q i with
  | nil => exact ⟨by simp [xmitSegments, places], by simp [xmitSegments]⟩
  | cons m segs ih =>
    have hone : Takes q i 1 ((q.write i (.data m)).setEntry i (some m) last, after i 1) := by
      constructor
      · simp [places]
      · rfl
    have hrest := hone.trans (ih _ _)
    rw [xmitSegments, List.length_cons, Nat.add_comm]
    simpa using hrest

/-- The entry that is looked at is in the ring, and is the last descriptor of a
packet with a dummy packet before it, unless the packet ends at one of the last
two places of the ring. -/
theorem reservedEntry_iff (ad : IgcAdapter) (q : IgcTxQueue n) (r : Systim)
    (tail : Fin n) (txtime : UInt64) (segs : List Nat)
    (hdummy : (igcTxLaunchtime ad q r txtime).needDummyPkt = true) :
    ∃ last : Fin n,
      ((igcXmitPkt ad q r tail txtime segs).1.txr.map Prod.fst).getLast? = some last ∧
      last.val = ((txLast tail segs).val + 2) % n ∧
      ((reservedEntry (txLast tail segs) < n ∧ reservedEntry (txLast tail segs) = last.val) ↔
        (txLast tail segs).val + 2 < n) := by
  have hdummy' : (igcTxLaunchtime ad (q.freeMbuf tail) r txtime).needDummyPkt = true :=
    (launchAt_needDummyPkt ..).mpr ((launchAt_needDummyPkt ad q ..).mp hdummy)
  have htakes : Takes (q.freeMbuf tail) tail (2 + 1 + segs.length)
      (igcXmitPkt ad q r tail txtime segs) :=
    (igcSetXmitCtx_takes ad (q.freeMbuf tail) r tail _ txtime hdummy').trans
      (xmitSegments_takes _ _ _ segs)
  have hlast : (after tail (2 + segs.length)).val = ((txLast tail segs).val + 2) % n := by
    simp only [after, txLast, Nat.mod_add_mod]
    rw [Nat.add_assoc, Nat.add_comm 2]
  refine ⟨after tail (2 + segs.length), ?_, hlast, ?_⟩
  · rw [htakes.1, Nat.add_right_comm, List.getLast?_append, places_getLast]
    rfl
  · constructor
    · exact fun h => h.1
    · intro h
      exact ⟨h, by rw [hlast, Nat.mod_eq_of_lt h]; rfl⟩

/-- A queue of four descriptors that was just set up. -/
def emptyRing : IgcTxQueue 4 where
  swRing i := { mbuf := none, nextId := i + 1, lastId := i }
  linked := by decide
  txr := []
  ctxCurr := 0
  lastFrstFlag := 0
  lastPacketCycle := 0

theorem reservedEntry_iff_emptyRing :
    ∃ last : Fin 4,
      ((igcXmitPkt ⟨0, 1000⟩ emptyRing ⟨500, 0⟩ 0 1500 [7]).1.txr.map Prod.fst).getLast? =
        some last ∧
      last.val = ((txLast (0 : Fin 4) [7]).val + 2) % 4 ∧
      ((reservedEntry (txLast (0 : Fin 4) [7]) < 4 ∧
          reservedEntry (txLast (0 : Fin 4) [7]) = last.val) ↔
        (txLast (0 : Fin 4) [7]).val + 2 < 4) :=
  reservedEntry_iff ⟨0, 1000⟩ emptyRing ⟨500, 0⟩ 0 1500 [7] (by decide +kernel)

/-- One place further on, the packet still fits with its dummy packet, but the
entry looked at is the one after the end of the ring. -/
theorem reservedEntry_outside :
    ¬ ∀ (n : Nat), 4 ≤ n → ∀ (ad : IgcAdapter) (q : IgcTxQueue n) (r : Systim) (tail : Fin n)
      (txtime : UInt64) (segs : List Nat), segs ≠ [] →
      (igcTxLaunchtime ad q r txtime).needDummyPkt = true →
      ∃ last : Fin n,
        ((igcXmitPkt ad q r tail txtime segs).1.txr.map Prod.fst).getLast? = some last ∧
        reservedEntry (txLast tail segs) < n ∧ reservedEntry (txLast tail segs) = last.val := by
  intro h
  obtain ⟨last, -, hvalid, -⟩ := h 4 (by decide) ⟨0, 1000⟩ emptyRing ⟨500, 0⟩ 1 1500 [7]
    (by decide) (by decide +kernel)
  exact absurd hvalid (by decide)

end Rtdk.Igc
