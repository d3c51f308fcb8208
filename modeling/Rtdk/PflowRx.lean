import Rtdk.Ledger
import Rtdk.Lport
import Mathlib.Algebra.Order.BigOperators.Group.List
import Mathlib.Algebra.Order.Group.Nat
import Mathlib.Tactic.Abel

/-! The receive side of the pflow driver (`0001-add-pflow-for-TSN-Testbench.patch`).

All queues of a pflow port are fed from one queue of a physical port. A call of
`pflow_rx` for queue 0 polls it and distributes the packets to the rings of the
queues; every call then takes packets off its own ring. Both count the packet as
received. Calls for different queues interleave, packet by packet. -/

namespace Rtdk.PflowRx
open Rtdk.Ledger
open Rtdk.Lport (Mbuf)

/-! ## The driver -/

def pflowMaxQueues : Nat := 256

/-- A pflow port with `n` receive queues set up: the entries of a ring, and
`RTE_ETHDEV_QUEUE_STAT_CNTRS`. -/
structure Config (n : Nat) where
  capacity : Nat
  queueStatCntrs : Nat
  queue_pos : 0 < n
  cntrs_pos : 0 < queueStatCntrs

structure QueueStats where
  ipackets : Nat
  ierrors : Nat
deriving DecidableEq, Repr

/-- The rings and statistics of the queues. The other fields are history, in
order: the packets polled, those put on each ring and taken off it again, those
freed, and those handed to a ring that does not exist. -/
structure State (n : Nat) where
  rings : Fin n → List Mbuf
  stats : Fin n → QueueStats
  polled : List Mbuf
  enqueued : Fin n → List Mbuf
  delivered : Fin n → List Mbuf
  freed : List Mbuf
  strayed : List Mbuf

variable {n : Nat}

def Config.queue0 (cfg : Config n) : Fin n := ⟨0, cfg.queue_pos⟩

def State.countPackets (s : State n) (i : Fin n) (k : Nat) : State n :=
  let stats := { s.stats i with ipackets := (s.stats i).ipackets + k }
  { s with stats := Function.update s.stats i stats }

def State.countError (s : State n) (i : Fin n) : State n :=
  let stats := { s.stats i with ierrors := (s.stats i).ierrors + 1 }
  { s with stats := Function.update s.stats i stats }

/-- `rte_ring_enqueue`, when there is room. -/
def State.enqueue (s : State n) (i : Fin n) (m : Mbuf) : State n :=
  { s with
    rings := Function.update s.rings i (s.rings i ++ [m])
    enqueued := Function.update s.enqueued i (s.enqueued i ++ [m]) }

def State.free (s : State n) (m : Mbuf) : State n := { s with freed := s.freed ++ [m] }

/-- One packet that queue 0 has polled. What is counted is counted for queue 0. A packet
strays if there is no ring `rx_queues[qid].rng`. -/
def distribute (cfg : Config n) (get : Mbuf → UInt16) (s : State n) (m : Mbuf) : State n :=
  let s := { s with polled := s.polled ++ [m] }
  let qid := (get m).toNat
  if qid ≥ pflowMaxQueues then (s.free m).countError cfg.queue0
  else if h : qid < n then
    if (s.rings ⟨qid, h⟩).length < cfg.capacity then
      (s.enqueue ⟨qid, h⟩ m).countPackets cfg.queue0 1
    else (s.free m).countError cfg.queue0
  else { s with strayed := s.strayed ++ [m] }

/-- The end of `pflow_rx`: what a queue takes off its ring. -/
def deliver (s : State n) (q : Fin n) (nbBufs : Nat) : State n × List Mbuf :=
  let bufs := (s.rings q).take nbBufs
  let s := { s with
    rings := Function.update s.rings q ((s.rings q).drop nbBufs)
    delivered := Function.update s.delivered q (s.delivered q ++ bufs) }
  (s.countPackets q bufs.length, bufs)

/-- `arrived` is what `rte_eth_rx_burst` returns. -/
def pflowRx (cfg : Config n) (get : Mbuf → UInt16) (s : State n) (q : Fin n) (arrived : List Mbuf)
    (nbBufs : Nat) : State n × List Mbuf :=
  let s := if q = cfg.queue0 then arrived.foldl (distribute cfg get) s else s
  deliver s q nbBufs

/-- `pflow_stats_get`, the receive side. -/
def pflowStatsGet (cfg : Config n) (s : State n) : QueueStats :=
  let counted := (List.finRange n).filter fun i => i.val < cfg.queueStatCntrs
  { ipackets := (counted.map fun i => (s.stats i).ipackets).sum
    ierrors := (counted.map fun i => (s.stats i).ierrors).sum }

/-- The packets `pflow_rx` has returned so far. -/
def State.returned (s : State n) : Nat :=
  ((List.finRange n).map fun i => (s.delivered i).length).sum

/-! ## Interleavings -/

inductive Action (n : Nat)
  | distribute (m : Mbuf)
  | deliver (q : Fin n) (nbBufs : Nat)

def step (cfg : Config n) (get : Mbuf → UInt16) (s : State n) : Action n → State n
  | .distribute m => distribute cfg get s m
  | .deliver q nbBufs => (deliver s q nbBufs).1

def run (cfg : Config n) (get : Mbuf → UInt16) (s : State n) (as : List (Action n)) : State n :=
  as.foldl (step cfg get) s

def start (n : Nat) : State n where
  rings := fun _ => []
  stats := fun _ => { ipackets := 0, ierrors := 0 }
  polled := []
  enqueued := fun _ => []
  delivered := fun _ => []
  freed := []
  strayed := []

/-- The actions of one call. -/
def rxActions (cfg : Config n) (q : Fin n) (arrived : List Mbuf) (nbBufs : Nat) :
    List (Action n) :=
  (if q = cfg.queue0 then arrived.map .distribute else []) ++ [.deliver q nbBufs]

theorem pflowRx_eq_run (cfg : Config n) (get : Mbuf → UInt16) (s : State n) (q : Fin n)
    (arrived : List Mbuf) (nbBufs : Nat) :
    (pflowRx cfg get s q arrived nbBufs).1 = run cfg get s (rxActions cfg q arrived nbBufs) := by
  rw [pflowRx, run, rxActions, List.foldl_append]
  split
  · rw [List.foldl_map]
    rfl
  · rfl

/-! ## What holds in every run -/

section invariant

variable {cfg : Config n} {get : Mbuf → UInt16} {s : State n}

/-- Everything polled is on one ring, or was freed, or strayed; and each ring
passes on what it gets in the order of arrival. -/
structure Inv (s : State n) : Prop where
  disposed : (s.polled : Multiset Mbuf) =
    total (fun i => (s.enqueued i : Multiset Mbuf)) + s.freed + s.strayed
  order : ∀ i, s.enqueued i = s.delivered i ++ s.rings i
  arrival : ∀ i, (s.enqueued i).Sublist s.polled

theorem inv_start : Inv (start n) where
  disposed := by simp [start, total]
  order := by simp [start]
  arrival := by simp [start]

/-- The statistics play no part. -/
theorem Inv.withStats (h : Inv s) (stats : Fin n → QueueStats) : Inv { s with stats := stats } :=
  ⟨h.disposed, h.order, h.arrival⟩

theorem Inv.free (h : Inv s) (m : Mbuf) :
    Inv ({ s with polled := s.polled ++ [m] }.free m) where
  disposed := by
    simp only [State.free, ← Multiset.coe_add, h.disposed]
    abel
  order := h.order
  arrival i := (h.arrival i).trans (List.sublist_append_left _ _)

theorem total_enqueue (s : State n) (i : Fin n) (m : Mbuf) :
    total (fun j => ((s.enqueue i m).enqueued j : Multiset Mbuf)) =
      total (fun j => (s.enqueued j : Multiset Mbuf)) + {m} := by
  rw [← total_add (fun j => (s.enqueued j : Multiset Mbuf)) i {m}]
  congr 1
  funext j
  by_cases hj : j = i
  · subst hj
    simp only [State.enqueue, Function.update_self, ← Multiset.coe_add, Multiset.coe_singleton]
  · simp [State.enqueue, Function.update_of_ne hj]

theorem Inv.enqueue (h : Inv s) (i : Fin n) (m : Mbuf) :
    Inv ({ s with polled := s.polled ++ [m] }.enqueue i m) where
  disposed := by
    have htotal := total_enqueue { s with polled := s.polled ++ [m] } i m
    rw [htotal]
    simp only [State.enqueue, ← Multiset.coe_add, h.disposed, Multiset.coe_singleton]
    abel
  order := by
    intro j
    by_cases hj : j = i
    · subst hj
      simp [State.enqueue, h.order j]
    · simp [State.enqueue, Function.update_of_ne hj, h.order j]
  arrival := by
    intro j
    by_cases hj : j = i
    · subst hj
      simpa [State.enqueue] using (h.arrival j).append (List.Sublist.refl [m])
    · simpa [State.enqueue, Function.update_of_ne hj] using
        (h.arrival j).trans (List.sublist_append_left _ _)

theorem Inv.distribute (h : Inv s) (m : Mbuf) : Inv (distribute cfg get s m) := by
  unfold PflowRx.distribute
  simp only
  split
  · exact (h.free m).withStats _
  · split
    · split
      · exact (h.enqueue _ m).withStats _
      · exact (h.free m).withStats _
    · constructor
      · simp only [← Multiset.coe_add, h.disposed]
        abel
      · exact h.order
      · exact fun i => (h.arrival i).trans (List.sublist_append_left _ _)

theorem Inv.deliver (h : Inv s) (q : Fin n) (nbBufs : Nat) : Inv (deliver s q nbBufs).1 where
  disposed := h.disposed
  order := by
    intro j
    by_cases hj : j = q
    · subst hj
      simp [PflowRx.deliver, State.countPackets, h.order j]
    · simp [PflowRx.deliver, State.countPackets, Function.update_of_ne hj, h.order j]
  arrival := h.arrival

/-- In every interleaving. -/
theorem Inv.run (h : Inv s) (as : List (Action n)) : Inv (run cfg get s as) := by
  induction as generalizing s with
  | nil => exact h
  | cons a as ih =>
    cases a with
    | distribute m => exact ih (h.distribute m)
    | deliver q nbBufs => exact ih (h.deliver q nbBufs)

end invariant

/-! ## Conservation and the packets reported -/

/-- Each packet polled is on exactly one ring or was freed once, each ring keeps
the order of arrival, and the packets reported are the packets returned. -/
structure Conserved (cfg : Config n) (s : State n) : Prop where
  disposed : (s.polled : Multiset Mbuf) =
    total (fun i => (s.enqueued i : Multiset Mbuf)) + s.freed
  order : ∀ i, s.enqueued i = s.delivered i ++ s.rings i
  arrival : ∀ i, (s.enqueued i).Sublist s.polled
  reported : (pflowStatsGet cfg s).ipackets = s.returned

/-- The packet is freed: its queue id is out of bounds, or its ring has no room
for anything. -/
def Refused (cfg : Config n) (get : Mbuf → UInt16) (m : Mbuf) : Prop :=
  pflowMaxQueues ≤ (get m).toNat ∨ (get m).toNat < n ∧ cfg.capacity = 0

/-- Nothing has been put on a ring, and nothing strayed. -/
structure Idle (s : State n) : Prop where
  rings : ∀ i, s.rings i = []
  delivered : ∀ i, s.delivered i = []
  strayed : s.strayed = []
  ipackets : ∀ i, (s.stats i).ipackets = 0

section conserved

variable {cfg : Config n} {get : Mbuf → UInt16} {s : State n} {m : Mbuf}

theorem idle_start : Idle (start n) :=
  ⟨fun _ => rfl, fun _ => rfl, rfl, fun _ => rfl⟩

theorem countPackets_ipackets (s : State n) (i j : Fin n) (k : Nat) :
    ((s.countPackets i k).stats j).ipackets = (s.stats j).ipackets + if j = i then k else 0 := by
  by_cases hj : j = i
  · subst hj
    simp [State.countPackets]
  · simp [State.countPackets, hj]

theorem countError_ipackets (s : State n) (i j : Fin n) :
    ((s.countError i).stats j).ipackets = (s.stats j).ipackets := by
  by_cases hj : j = i
  · subst hj
    simp [State.countError]
  · simp [State.countError, Function.update_of_ne hj]

theorem Idle.returned (h : Idle s) : s.returned = 0 := by
  simp [State.returned, h.delivered]

theorem Idle.conserved (h : Idle s) (hinv : Inv s) : Conserved cfg s where
  disposed := by simpa [h.strayed] using hinv.disposed
  order := hinv.order
  arrival := hinv.arrival
  reported := by simp [pflowStatsGet, h.ipackets, h.returned]

theorem distribute_refused (cfg : Config n) (s : State n) (hm : Refused cfg get m) :
    distribute cfg get s m =
      ({ s with polled := s.polled ++ [m] }.free m).countError cfg.queue0 := by
  rcases hm with hbound | ⟨hlt, hzero⟩
  · simp only [distribute, ge_iff_le, if_pos hbound]
  · simp only [distribute, dif_pos hlt, hzero, Nat.not_lt_zero, if_false, ite_self]

theorem Idle.distribute (h : Idle s) (hm : Refused cfg get m) :
    Idle (distribute cfg get s m) := by
  rw [distribute_refused cfg s hm]
  refine ⟨h.rings, h.delivered, h.strayed, ?_⟩
  intro i
  rw [countError_ipackets]
  exact h.ipackets i

theorem Idle.deliver (h : Idle s) (q : Fin n) (nbBufs : Nat) : Idle (deliver s q nbBufs).1 := by
  have hrings : Function.update s.rings q ((s.rings q).drop nbBufs) = s.rings := by
    rw [h.rings q, List.drop_nil, ← h.rings q, Function.update_eq_self]
  have hdelivered : Function.update s.delivered q (s.delivered q ++ (s.rings q).take nbBufs) =
      s.delivered := by
    rw [h.rings q, List.take_nil, List.append_nil, Function.update_eq_self]
  simp only [PflowRx.deliver, hrings, hdelivered]
  refine ⟨h.rings, h.delivered, h.strayed, ?_⟩
  intro i
  rw [countPackets_ipackets, h.rings q]
  simp [h.ipackets i]

/-- The first packet that is not freed spoils the account: it is counted before
it is returned, or its ring does not exist. -/
theorem Idle.spoiled (h : Idle s) (hinv : Inv s) (hm : ¬ Refused cfg get m) :
    ¬ Conserved cfg (PflowRx.distribute cfg get s m) := by
  intro hc
  have hbound : ¬ (get m).toNat ≥ pflowMaxQueues := fun hge => hm (.inl hge)
  by_cases hlt : (get m).toNat < n
  · have hcap : 0 < cfg.capacity := by
      rcases Nat.eq_zero_or_pos cfg.capacity with hzero | hpos
      · exact absurd (.inr ⟨hlt, hzero⟩) hm
      · exact hpos
    have hroom : (s.rings ⟨(get m).toNat, hlt⟩).length < cfg.capacity := by
      rw [h.rings]
      exact hcap
    have hdist : PflowRx.distribute cfg get s m =
        ({ s with polled := s.polled ++ [m] }.enqueue ⟨(get m).toNat, hlt⟩ m).countPackets
          cfg.queue0 1 := by
      simp only [PflowRx.distribute, if_neg hbound, dif_pos hlt, if_pos hroom]
    have hreturned : (PflowRx.distribute cfg get s m).returned = 0 := by
      rw [hdist]
      exact h.returned
    have hone : 1 ≤ (pflowStatsGet cfg (PflowRx.distribute cfg get s m)).ipackets := by
      have hcount : ((PflowRx.distribute cfg get s m).stats cfg.queue0).ipackets = 1 := by
        rw [hdist, countPackets_ipackets, if_pos rfl]
        simp [State.enqueue, h.ipackets]
      rw [← hcount]
      refine List.single_le_sum (fun x _ => Nat.zero_le x) _ (List.mem_map_of_mem ?_)
      simp [Config.queue0, cfg.cntrs_pos]
    rw [hc.reported, hreturned] at hone
    omega
  · have hstray : (PflowRx.distribute cfg get s m).strayed = [m] := by
      simp [PflowRx.distribute, if_neg hbound, dif_neg hlt, h.strayed]
    have hboth := (hinv.distribute m).disposed.symm.trans hc.disposed
    rw [hstray] at hboth
    simp at hboth

theorem Idle.run (h : Idle s) (as : List (Action n))
    (has : ∀ m, .distribute m ∈ as → Refused cfg get m) : Idle (run cfg get s as) := by
  induction as generalizing s with
  | nil => exact h
  | cons a as ih =>
    have htail : ∀ m, .distribute m ∈ as → Refused cfg get m :=
      fun m hm => has m (List.mem_cons_of_mem a hm)
    cases a with
    | distribute m => exact ih (h.distribute (has m List.mem_cons_self)) htail
    | deliver q nbBufs => exact ih (h.deliver q nbBufs) htail

theorem Idle.refused (h : Idle s) (hinv : Inv s) (as : List (Action n))
    (has : ∀ bs, bs <+: as → Conserved cfg (PflowRx.run cfg get s bs)) :
    ∀ m, .distribute m ∈ as → Refused cfg get m := by
  induction as generalizing s with
  | nil => simp
  | cons a as ih =>
    have htail : ∀ bs, bs <+: as → Conserved cfg (PflowRx.run cfg get (step cfg get s a) bs) :=
      fun bs hbs => has (a :: bs) (List.cons_prefix_cons.mpr ⟨rfl, hbs⟩)
    intro m hm
    cases a with
    | distribute m' =>
      have hfirst : Refused cfg get m' := by
        by_contra hnot
        exact h.spoiled hinv hnot (has [.distribute m'] (List.prefix_append _ as))
      rcases List.mem_cons.mp hm with heq | hm
      · cases heq
        exact hfirst
      · exact ih (h.distribute hfirst) (hinv.distribute m') htail m hm
    | deliver q nbBufs =>
      rcases List.mem_cons.mp hm with heq | hm
      · cases heq
      · exact ih (h.deliver q nbBufs) (hinv.deliver q nbBufs) htail m hm

end conserved

/-- In every interleaving: the packets are conserved and reported as returned at
every moment, just when every packet polled is freed. -/
theorem conserved_iff (cfg : Config n) (get : Mbuf → UInt16) (as : List (Action n)) :
    (∀ bs, bs <+: as → Conserved cfg (run cfg get (start n) bs)) ↔
      ∀ m, .distribute m ∈ as → Refused cfg get m := by
  constructor
  · exact idle_start.refused inv_start as
  · intro has bs hbs
    have hbs' : ∀ m, .distribute m ∈ bs → Refused cfg get m :=
      fun m hm => has m (hbs.subset hm)
    exact (idle_start.run bs hbs').conserved (inv_start.run bs)

/-- Two queues with rings of 1023 entries. A packet for queue 1 that queue 0 polls
and queue 1 takes is reported twice. -/
theorem one_packet_reported_twice :
    let cfg : Config 2 := ⟨1023, 16, by omega, by omega⟩
    let m : Mbuf := { id := 7, data := fun _ => 0, dataLen := 60, pktLen := 60 }
    let s := run cfg (fun _ => 1) (start 2)
      (rxActions cfg 0 [m] 32 ++ rxActions cfg 1 [] 32)
    (pflowStatsGet cfg s).ipackets = 2 ∧ s.returned = 1 ∧ ¬ Conserved cfg s := by
  refine ⟨rfl, rfl, ?_⟩
  intro h
  exact absurd h.reported (by decide)

end Rtdk.PflowRx
