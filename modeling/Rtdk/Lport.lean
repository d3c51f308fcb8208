import Rtdk.NetDef

/-! Packet buffers and the software transmit buffer (`lport-priv.h`, `lport.c`).

Each traffic class owns one transmit buffer of `TX_BUFFER_SIZE` entries. Frames
are added one by one; the buffer is flushed to the device when it is full and
at the end of every transmit cycle. The device is a parameter that takes any
prefix of the burst it is offered. After 100 refusals in a row the rest of the
burst is freed. -/

namespace Rtdk.Lport
open Rtdk.Memory Rtdk.Endian Rtdk.NetDef

/-- `struct rte_mbuf`, one segment: `id` is its address, `data` the buffer from
`rte_pktmbuf_mtod` on. -/
structure Mbuf where
  id : Nat
  data : Mem UInt8
  dataLen : UInt16
  pktLen : UInt32

/-- The length the receive handlers test. -/
def Mbuf.len (m : Mbuf) : UInt64 := m.pktLen.toUInt64

/-- The bytes a device puts on the wire. -/
def Mbuf.wire (m : Mbuf) : List UInt8 := slice m.data 0 m.dataLen.toNat

/-- Whether the frame carries a VLAN tag. Only the first EtherType decides. -/
def Mbuf.tagged (m : Mbuf) : Bool := decide (read16 m.data 12 = ethP8021Q)

/-- The EtherType of the payload. -/
def Mbuf.proto (m : Mbuf) : UInt16 := if m.tagged then read16 m.data 16 else read16 m.data 12

theorem Mbuf.len_toNat (m : Mbuf) : m.len.toNat = m.pktLen.toNat := by
  simp [Mbuf.len]

/-- `rte_eth_tx_burst`: the number of packets taken off the front of the burst. -/
structure TxDevice (D : Type) where
  txBurst : D → List Mbuf → Nat × D
  txBurst_le : ∀ d pkts, (txBurst d pkts).1 ≤ pkts.length

/-- A transmit buffer with the device behind it. The last three fields are
history, in order: what was added, what the device took, what a flush freed. -/
structure TxQueue (D : Type) where
  pkts : List Mbuf
  dev : D
  added : List Mbuf
  sent : List Mbuf
  unsent : List Mbuf

variable {D : Type}

/-! ## Flushing -/

/-- The loop of `lport_tx_buffer_flush`: what was sent, what is left, and the
device. `flushLoop_fuel` shows that the fuel `lportTxBufferFlush` gives never
ends the loop. -/
def flushLoop (dev : TxDevice D) : Nat → Nat → D → List Mbuf → List Mbuf × List Mbuf × D
  | 0, _, d, pkts => ([], pkts, d)
  | fuel + 1, retries, d, pkts =>
    if pkts.isEmpty then ([], [], d) else
    let (n, d) := dev.txBurst d pkts
    if n = 0 then
      if retries + 1 ≥ 100 then ([], pkts, d) else flushLoop dev fuel (retries + 1) d pkts
    else
      let (sent, left, d) := flushLoop dev fuel 0 d (pkts.drop n)
      (pkts.take n ++ sent, left, d)

def lportTxBufferFlush (dev : TxDevice D) (q : TxQueue D) : TxQueue D :=
  let (sent, left, d) := flushLoop dev (100 * (q.pkts.length + 1) + 1) 0 q.dev q.pkts
  { q with pkts := [], dev := d, sent := q.sent ++ sent, unsent := q.unsent ++ left }

def lportTxBufferAdd (dev : TxDevice D) (q : TxQueue D) (m : Mbuf) : TxQueue D :=
  let q := { q with pkts := q.pkts ++ [m], added := q.added ++ [m] }
  if q.pkts.length < txBufferSize then q else lportTxBufferFlush dev q

def lportSend (dev : TxDevice D) (q : TxQueue D) : TxQueue D := lportTxBufferFlush dev q

/-- The loop splits the burst in two, in order. -/
theorem flushLoop_append (dev : TxDevice D) (fuel retries : Nat) (d : D) (pkts : List Mbuf) :
    (flushLoop dev fuel retries d pkts).1 ++ (flushLoop dev fuel retries d pkts).2.1 = pkts := by
  induction fuel generalizing retries d pkts with
  | zero => rfl
  | succ fuel ih =>
    rw [flushLoop]
    cases hp : pkts.isEmpty with
    | true => simpa using (List.isEmpty_iff.mp hp).symm
    | false =>
      simp only [Bool.false_eq_true, if_false]
      by_cases hn : (dev.txBurst d pkts).1 = 0
      · simp only [hn, if_true]
        by_cases hr : retries + 1 ≥ 100
        · simp only [if_pos hr, List.nil_append]
        · simp only [if_neg hr]
          exact ih _ _ _
      · simp only [hn, if_false, List.append_assoc]
        rw [ih]
        exact List.take_append_drop _ _

/-- The loop ends by itself: at most 99 refusals before each accepted packet
and 100 at the end. -/
theorem flushLoop_fuel (dev : TxDevice D) (fuel extra retries : Nat) (d : D) (pkts : List Mbuf)
    (hr : retries < 100) (h : 100 * pkts.length + (100 - retries) < fuel) :
    flushLoop dev (fuel + extra) retries d pkts = flushLoop dev fuel retries d pkts := by
  induction fuel generalizing retries d pkts with
  | zero => omega
  | succ fuel ih =>
    rw [Nat.add_right_comm, flushLoop, flushLoop]
    cases hp : pkts.isEmpty with
    | true => rfl
    | false =>
      simp only [Bool.false_eq_true, if_false]
      by_cases hn : (dev.txBurst d pkts).1 = 0
      · simp only [hn, if_true]
        by_cases hlast : retries + 1 ≥ 100
        · simp only [if_pos hlast]
        · simp only [if_neg hlast]
          exact ih _ _ _ (by omega) (by omega)
      · have hle := dev.txBurst_le d pkts
        have hdrop : (pkts.drop (dev.txBurst d pkts).1).length < pkts.length := by
          rw [List.length_drop]
          omega
        have hf : 100 * (pkts.drop (dev.txBurst d pkts).1).length + (100 - 0) < fuel := by omega
        simp only [hn, if_false]
        rw [ih 0 _ _ (by decide) hf]

/-! ## Conservation -/

/-- While the device refuses nothing, what was added is what was sent followed
by what is still buffered. -/
def TxQueue.Conserved (q : TxQueue D) : Prop := q.unsent = [] → q.added = q.sent ++ q.pkts

@[simp] theorem lportTxBufferFlush_added (dev : TxDevice D) (q : TxQueue D) :
    (lportTxBufferFlush dev q).added = q.added := rfl

@[simp] theorem lportTxBufferFlush_pkts (dev : TxDevice D) (q : TxQueue D) :
    (lportTxBufferFlush dev q).pkts = [] := rfl

theorem lportTxBufferFlush_conserved (dev : TxDevice D) (q : TxQueue D) (hq : q.Conserved) :
    (lportTxBufferFlush dev q).Conserved := by
  intro h
  have ha := flushLoop_append dev (100 * (q.pkts.length + 1) + 1) 0 q.dev q.pkts
  simp only [lportTxBufferFlush, List.append_eq_nil_iff] at h
  rw [h.2, List.append_nil] at ha
  simp only [lportTxBufferFlush, List.append_nil, ha]
  exact hq h.1

@[simp] theorem lportTxBufferAdd_added (dev : TxDevice D) (q : TxQueue D) (m : Mbuf) :
    (lportTxBufferAdd dev q m).added = q.added ++ [m] := by
  simp only [lportTxBufferAdd]
  split <;> simp

theorem lportTxBufferAdd_conserved (dev : TxDevice D) (q : TxQueue D) (m : Mbuf)
    (hq : q.Conserved) : (lportTxBufferAdd dev q m).Conserved := by
  have hpush : TxQueue.Conserved { q with pkts := q.pkts ++ [m], added := q.added ++ [m] } := by
    intro h
    simp only [← List.append_assoc, hq h]
  simp only [lportTxBufferAdd]
  split
  · exact hpush
  · exact lportTxBufferFlush_conserved dev _ hpush

/-- Whatever was sent or is buffered was added. -/
def TxQueue.Within (q : TxQueue D) : Prop := ∀ f, f ∈ q.sent ∨ f ∈ q.pkts → f ∈ q.added

theorem lportTxBufferFlush_within (dev : TxDevice D) (q : TxQueue D) (hq : q.Within) :
    (lportTxBufferFlush dev q).Within := by
  intro f hf
  have ha := flushLoop_append dev (100 * (q.pkts.length + 1) + 1) 0 q.dev q.pkts
  rcases hf with hf | hf
  · rcases List.mem_append.mp hf with h | h
    · exact hq f (Or.inl h)
    · apply hq f
      right
      rw [← ha]
      exact List.mem_append.mpr (Or.inl h)
  · cases hf

theorem lportTxBufferAdd_within (dev : TxDevice D) (q : TxQueue D) (m : Mbuf) (hq : q.Within) :
    (lportTxBufferAdd dev q m).Within := by
  have hpush : TxQueue.Within { q with pkts := q.pkts ++ [m], added := q.added ++ [m] } := by
    intro f hf
    apply List.mem_append.mpr
    rcases hf with hf | hf
    · exact Or.inl (hq f (Or.inl hf))
    · rcases List.mem_append.mp hf with h | h
      · exact Or.inl (hq f (Or.inr h))
      · exact Or.inr h
  simp only [lportTxBufferAdd]
  split
  · exact hpush
  · exact lportTxBufferFlush_within dev _ hpush

/-- Frames are sent in the order they were added. -/
def TxQueue.Ordered (q : TxQueue D) : Prop := (q.sent ++ q.pkts).Sublist q.added

theorem lportTxBufferFlush_ordered (dev : TxDevice D) (q : TxQueue D) (hq : q.Ordered) :
    (lportTxBufferFlush dev q).Ordered := by
  have ha := flushLoop_append dev (100 * (q.pkts.length + 1) + 1) 0 q.dev q.pkts
  unfold TxQueue.Ordered at hq ⊢
  rw [← ha, ← List.append_assoc] at hq
  simp only [lportTxBufferFlush, List.append_nil]
  exact (List.sublist_append_left _ _).trans hq

theorem lportTxBufferAdd_ordered (dev : TxDevice D) (q : TxQueue D) (m : Mbuf) (hq : q.Ordered) :
    (lportTxBufferAdd dev q m).Ordered := by
  have hpush : TxQueue.Ordered { q with pkts := q.pkts ++ [m], added := q.added ++ [m] } := by
    unfold TxQueue.Ordered at hq ⊢
    simp only [← List.append_assoc]
    exact hq.append_right [m]
  simp only [lportTxBufferAdd]
  split
  · exact hpush
  · exact lportTxBufferFlush_ordered dev _ hpush

theorem lportTxBufferFlush_sent (dev : TxDevice D) (q : TxQueue D) :
    q.sent.Sublist (lportTxBufferFlush dev q).sent := List.sublist_append_left _ _

theorem lportTxBufferAdd_sent (dev : TxDevice D) (q : TxQueue D) (m : Mbuf) :
    q.sent.Sublist (lportTxBufferAdd dev q m).sent := by
  simp only [lportTxBufferAdd]
  split
  · exact List.Sublist.refl _
  · exact lportTxBufferFlush_sent dev { q with pkts := q.pkts ++ [m], added := q.added ++ [m] }

/-- A device that takes whatever it is offered before the retries run out. -/
def TxDevice.Reliable (dev : TxDevice D) : Prop :=
  ∀ q : TxQueue D, q.unsent = [] → (lportTxBufferFlush dev q).unsent = []

theorem lportTxBufferAdd_unsent {dev : TxDevice D} (hr : dev.Reliable) (q : TxQueue D) (m : Mbuf)
    (hq : q.unsent = []) : (lportTxBufferAdd dev q m).unsent = [] := by
  simp only [lportTxBufferAdd]
  split
  · exact hq
  · exact hr _ hq

end Rtdk.Lport
