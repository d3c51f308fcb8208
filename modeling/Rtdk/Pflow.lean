import Mathlib.Data.List.Nodup
import Rtdk.Lport

/-! The pflow driver behind the transmit buffers (`0001-add-pflow-for-TSN-Testbench.patch`).

All queues put their mbufs on one ring, and the queue of the physical port takes
them off. A call of `pflow_tx` that finds too little room on the ring puts a
front part of the burst there, frees the rest, and returns 0: for
`lport_tx_buffer_flush` the device took nothing, so it offers the same mbufs
again. The calls of the queues interleave, one call of `rte_ring` at a time.
`ownership` says which runs keep the mbufs apart. -/

namespace Rtdk.Pflow
open Rtdk.NetDef Rtdk.Lport

/-! ## The driver -/

/-- The transmit ring of a pflow port: the mbufs on it, and, as history, those
put on it, those taken off it and those the application side freed. -/
structure Ring where
  slots : List Nat
  enqueued : List Nat
  drained : List Nat
  freed : List Nat

def ids (pkts : List Mbuf) : List Nat := pkts.map Mbuf.id

/-- `rte_ring_enqueue_burst` takes as many mbufs as there is room for. -/
def roomFor (capacity : Nat) (r : Ring) (pkts : List Mbuf) : Nat :=
  min pkts.length (capacity - r.slots.length)

def Ring.put (r : Ring) (is : List Nat) : Ring :=
  { r with slots := r.slots ++ is, enqueued := r.enqueued ++ is }

/-- `rte_pktmbuf_free_bulk`. -/
def Ring.free (r : Ring) (is : List Nat) : Ring := { r with freed := r.freed ++ is }

/-- The enqueuing part of `pflow_tx`, with its return value. -/
def pflowTx (capacity : Nat) (r : Ring) (bufs : List Mbuf) : Nat × Ring :=
  let nbPkts := roomFor capacity r bufs
  if nbPkts = bufs.length then (bufs.length, r.put (ids bufs))
  else (0, (r.put (ids (bufs.take nbPkts))).free (ids (bufs.drop nbPkts)))

/-- The pflow port as the device of a transmit buffer. -/
def pflowDevice (capacity : Nat) : TxDevice Ring where
  txBurst := pflowTx capacity
  txBurst_le r bufs := by
    unfold pflowTx
    simp only
    split
    · exact Nat.le_refl _
    · exact Nat.zero_le _

/-! ## One pass of the flush loop -/

/-- The loop of `lport_tx_buffer_flush` either goes on with the rest of the
burst, or gives up and frees it. -/
inductive Flush
  | again (pkts : List Mbuf) (retries : Nat)
  | giveUp (pkts : List Mbuf)

def flushStep {D : Type} (dev : TxDevice D) (retries : Nat) (d : D) (pkts : List Mbuf) : Flush × D :=
  let (n, d) := dev.txBurst d pkts
  if n = 0 then
    if retries + 1 ≥ 100 then (.giveUp pkts, d) else (.again pkts (retries + 1), d)
  else (.again (pkts.drop n) 0, d)

/-- The whole loop repeats the pass. -/
theorem flushLoop_step {D : Type} (dev : TxDevice D) (fuel retries : Nat) (d : D)
    {pkts : List Mbuf} (h : pkts ≠ []) :
    (flushLoop dev (fuel + 1) retries d pkts).2 =
      match flushStep dev retries d pkts with
      | (.giveUp left, d) => (left, d)
      | (.again left r, d) => (flushLoop dev fuel r d left).2 := by
  have hne : pkts.isEmpty = false := by simpa using h
  rw [flushLoop, flushStep]
  simp only [hne, Bool.false_eq_true, if_false]
  by_cases hn : (dev.txBurst d pkts).1 = 0
  · by_cases hr : retries + 1 ≥ 100
    · simp only [hn, if_true, if_pos hr]
    · simp only [hn, if_true, if_neg hr]
  · simp only [hn, if_false]

/-! ## Queues -/

/-- What a queue is doing: collecting in its buffer; in the loop of a flush; or,
the queue of the physical port, emptying the ring inside `pflow_tx`. -/
inductive Queue
  | collecting (buffer : List Mbuf)
  | flushing (pkts : List Mbuf) (retries : Nat)
  | draining (rest : List Mbuf)

/-- The mbufs the queue still believes to own. -/
def Queue.held : Queue → List Nat
  | .collecting buffer => ids buffer
  | .flushing pkts _ => ids pkts
  | .draining rest => ids rest

structure Config where
  capacity : Nat
  phyQid : Nat
  burstCnt : Nat

/-- `added` is history: the mbufs handed to `lport_tx_buffer_add`. -/
structure State where
  ring : Ring
  queues : Nat → Queue
  added : List Nat

inductive Action
  | add (q : Nat) (m : Mbuf)
  | flush (q : Nat)
  | burst (q : Nat)
  | drain

def State.set (s : State) (q : Nat) (x : Queue) : State :=
  { s with queues := Function.update s.queues q x }

/-- The mbuf is on its way, or was before. -/
def State.used (s : State) (i : Nat) : Prop :=
  i ∈ s.added ∨ i ∈ s.ring.slots ∨ i ∈ s.ring.drained

instance (s : State) (i : Nat) : Decidable (s.used i) :=
  inferInstanceAs (Decidable (_ ∨ _ ∨ _))

/-- `rte_ring_dequeue_burst`, and the physical port takes what it gives. -/
def Ring.drain (r : Ring) (n : Nat) : Ring :=
  { r with slots := r.slots.drop n, drained := r.drained ++ r.slots.take n }

/-- One action of one queue. A queue acts only where its thread can be, and it
hands over mbufs of its own. The queue of the physical port also drains outside
a flush, when it is polled with an empty burst. -/
def step (cfg : Config) (s : State) : Action → Option State
  | .add q m =>
    match s.queues q with
    | .collecting buffer =>
      if s.used m.id then none else
      let s := { s with added := s.added ++ [m.id] }
      let buffer := buffer ++ [m]
      some (s.set q (if buffer.length < txBufferSize then .collecting buffer else .flushing buffer 0))
    | _ => none
  | .flush q =>
    match s.queues q with
    | .collecting buffer => some (s.set q (.flushing buffer 0))
    | _ => none
  | .burst q =>
    match s.queues q with
    | .flushing pkts retries =>
      if pkts.isEmpty then some (s.set q (.collecting [])) else
      match flushStep (pflowDevice cfg.capacity) retries s.ring pkts with
      | (.giveUp left, ring) => some ({ s with ring := ring.free (ids left) }.set q (.collecting []))
      | (.again left 0, ring) =>
        some ({ s with ring := ring }.set q
          (if q = cfg.phyQid then .draining left else .flushing left 0))
      | (.again left r, ring) => some ({ s with ring := ring }.set q (.flushing left r))
    | _ => none
  | .drain =>
    match s.queues cfg.phyQid with
    | .collecting _ => some { s with ring := s.ring.drain cfg.burstCnt }
    | .draining rest =>
      if min cfg.burstCnt s.ring.slots.length = 0 then some (s.set cfg.phyQid (.flushing rest 0))
      else some { s with ring := s.ring.drain cfg.burstCnt }
    | .flushing _ _ => none

def run (cfg : Config) : State → List Action → Option State
  | s, [] => some s
  | s, a :: as =>
    match step cfg s a with
    | some s' => run cfg s' as
    | none => none

/-- Any mbufs on the ring, and all buffers empty. -/
def start (slots : List Nat) : State where
  ring := ⟨slots, [], [], []⟩
  queues := fun _ => .collecting []
  added := []

/-! ## What an action does -/

/-- The action is a call of `pflow_tx` that does not find room for its burst. -/
def Lacks (cfg : Config) (s : State) (a : Action) : Prop :=
  ∃ q pkts retries, a = .burst q ∧ s.queues q = .flushing pkts retries ∧ pkts ≠ [] ∧
    cfg.capacity < s.ring.slots.length + pkts.length

theorem roomFor_lt {capacity : Nat} {r : Ring} {pkts : List Mbuf}
    (h : capacity < r.slots.length + pkts.length) (hne : pkts ≠ []) :
    roomFor capacity r pkts ≠ pkts.length := by
  have hpos := List.length_pos_iff.mpr hne
  unfold roomFor
  omega

theorem roomFor_eq {capacity : Nat} {r : Ring} {pkts : List Mbuf}
    (h : r.slots.length + pkts.length ≤ capacity) : roomFor capacity r pkts = pkts.length := by
  unfold roomFor
  omega

theorem pflowTx_room {capacity : Nat} {r : Ring} {pkts : List Mbuf}
    (h : r.slots.length + pkts.length ≤ capacity) :
    pflowTx capacity r pkts = (pkts.length, r.put (ids pkts)) := by
  unfold pflowTx
  simp only [roomFor_eq h, if_true]

theorem pflowTx_lacks {capacity : Nat} {r : Ring} {pkts : List Mbuf} (hne : pkts ≠ [])
    (h : capacity < r.slots.length + pkts.length) :
    pflowTx capacity r pkts =
      (0, (r.put (ids (pkts.take (roomFor capacity r pkts)))).free
        (ids (pkts.drop (roomFor capacity r pkts)))) := by
  unfold pflowTx
  simp only [roomFor_lt h hne, if_false]

theorem set_held (s : State) (q q' : Nat) (x : Queue) :
    ((s.set q x).queues q').held = if q' = q then x.held else (s.queues q').held := by
  by_cases h : q' = q
  · subst h
    simp [State.set]
  · simp [State.set, h]

/-- The effect of an action that finds room. -/
inductive Orderly (s s' : State) : Prop
  | add (q i : Nat) (hnew : ¬ s.used i) (hring : s'.ring = s.ring)
      (hadded : s'.added = s.added ++ [i])
      (hheld : ∀ q', (s'.queues q').held =
        if q' = q then (s.queues q).held ++ [i] else (s.queues q').held)
  | put (q : Nat) (hring : s'.ring = s.ring.put (s.queues q).held) (hadded : s'.added = s.added)
      (hheld : ∀ q', (s'.queues q').held = if q' = q then [] else (s.queues q').held)
  | quiet (n : Nat) (hring : s'.ring = s.ring.drain n) (hadded : s'.added = s.added)
      (hheld : ∀ q', (s'.queues q').held = (s.queues q').held)

theorem Ring.drain_zero (r : Ring) : r.drain 0 = r := by
  simp [Ring.drain]

theorem set_same {s : State} {q : Nat} {x : Queue} (h : x.held = (s.queues q).held) (q' : Nat) :
    ((s.set q x).queues q').held = (s.queues q').held := by
  rw [set_held]
  split
  · rename_i hq
    rw [h, hq]
  · rfl

theorem step_orderly {cfg : Config} {s s' : State} {a : Action} (h : step cfg s a = some s')
    (hroom : ¬ Lacks cfg s a) : Orderly s s' := by
  cases a with
  | add q m =>
    simp only [step] at h
    split at h
    · rename_i buffer hq
      split at h
      · cases h
      · rename_i hnew
        cases h
        refine .add q m.id hnew rfl rfl fun q' => ?_
        rw [set_held, hq]
        have hheld : ∀ x : Queue, x = .collecting (buffer ++ [m]) ∨ x = .flushing (buffer ++ [m]) 0 →
            x.held = ids buffer ++ [m.id] := by
          rintro x (rfl | rfl) <;> simp [Queue.held, ids]
        split
        · apply hheld
          split
          · exact Or.inl rfl
          · exact Or.inr rfl
        · rfl
    · cases h
  | flush q =>
    simp only [step] at h
    split at h
    · rename_i buffer hq
      cases h
      refine .quiet 0 (Ring.drain_zero _).symm rfl fun q' => ?_
      exact set_same (by rw [hq]; rfl) q'
    · cases h
  | burst q =>
    simp only [step] at h
    split at h
    · rename_i pkts retries hq
      split at h
      · rename_i hempty
        cases h
        refine .quiet 0 (Ring.drain_zero _).symm rfl fun q' => ?_
        exact set_same (by rw [hq, List.isEmpty_iff.mp hempty]; rfl) q'
      · rename_i hempty
        have hne : pkts ≠ [] := by simpa using hempty
        have hfits : s.ring.slots.length + pkts.length ≤ cfg.capacity := by
          by_contra hlt
          exact hroom ⟨q, pkts, retries, rfl, hq, hne, by omega⟩
        have hstep : flushStep (pflowDevice cfg.capacity) retries s.ring pkts =
            (.again [] 0, s.ring.put (ids pkts)) := by
          have hlen : pkts.length ≠ 0 := by simpa using hne
          simp only [flushStep, pflowDevice, pflowTx_room hfits, hlen, if_false, List.drop_length]
        rw [hstep] at h
        cases h
        refine .put q (by rw [hq]; rfl) rfl fun q' => ?_
        rw [set_held]
        split
        · split <;> rfl
        · rfl
    · cases h
  | drain =>
    simp only [step] at h
    split at h
    · cases h
      exact .quiet cfg.burstCnt rfl rfl fun q' => rfl
    · rename_i rest hq
      split at h
      · cases h
        refine .quiet 0 (Ring.drain_zero _).symm rfl fun q' => ?_
        exact set_same (by rw [hq]; rfl) q'
      · cases h
        exact .quiet cfg.burstCnt rfl rfl fun q' => rfl
    · cases h

/-! ## Runs with room -/

/-- Every mbuf handed over is in one place: with one queue, or it was put on the
ring once. Nothing was freed. -/
structure Inv (s : State) : Prop where
  freed : s.ring.freed = []
  enqueued : s.ring.enqueued.Nodup
  held : ∀ q, (s.queues q).held.Nodup
  apart : ∀ q q', q ≠ q' → ∀ i ∈ (s.queues q).held, i ∉ (s.queues q').held
  pending : ∀ q, ∀ i ∈ (s.queues q).held, i ∈ s.added ∧ i ∉ s.ring.enqueued
  own : ∀ i ∈ s.ring.enqueued, i ∈ s.added
  placed : ∀ i ∈ s.added, i ∈ s.ring.enqueued ∨ ∃ q, i ∈ (s.queues q).held

theorem start_inv (slots : List Nat) : Inv (start slots) where
  freed := rfl
  enqueued := List.nodup_nil
  held := fun _ => List.nodup_nil
  apart := fun _ _ _ i h => by cases h
  pending := fun _ i h => by cases h
  own := fun i h => by cases h
  placed := fun i h => by cases h

theorem add_inv {s s' : State} {q i : Nat} (hi : Inv s) (hnew : ¬ s.used i)
    (hring : s'.ring = s.ring) (hadded : s'.added = s.added ++ [i])
    (hheld : ∀ q', (s'.queues q').held =
      if q' = q then (s.queues q).held ++ [i] else (s.queues q').held) : Inv s' := by
  have hfresh : i ∉ s.added := fun h => hnew (Or.inl h)
  have hnot : ∀ q', i ∉ (s.queues q').held := fun q' h => hfresh (hi.pending q' i h).1
  refine ⟨?_, ?_, ?_, ?_, ?_, ?_, ?_⟩
  · rw [hring]
    exact hi.freed
  · rw [hring]
    exact hi.enqueued
  · intro q'
    rw [hheld]
    split
    · refine List.nodup_append.mpr ⟨hi.held q, by simp, ?_⟩
      intro a ha b hb hab
      rw [List.mem_singleton.mp hb] at hab
      exact hnot q (hab ▸ ha)
    · exact hi.held q'
  · intro q1 q2 hne j hj hj'
    rw [hheld] at hj hj'
    split at hj
    · rename_i h1
      rw [if_neg (fun h2 => hne (h1.trans h2.symm))] at hj'
      rcases List.mem_append.mp hj with h | h
      · exact hi.apart q q2 (h1 ▸ hne) j h hj'
      · rw [List.mem_singleton.mp h] at hj'
        exact hnot q2 hj'
    · rename_i h1
      split at hj'
      · rcases List.mem_append.mp hj' with h | h
        · exact hi.apart q1 q h1 j hj h
        · rw [List.mem_singleton.mp h] at hj
          exact hnot q1 hj
      · exact hi.apart q1 q2 hne j hj hj'
  · intro q' j hj
    rw [hadded, hring]
    rw [hheld] at hj
    split at hj
    · rcases List.mem_append.mp hj with h | h
      · exact ⟨List.mem_append_left _ (hi.pending q j h).1, (hi.pending q j h).2⟩
      · refine ⟨List.mem_append_right _ h, fun henq => ?_⟩
        rw [List.mem_singleton.mp h] at henq
        exact hfresh (hi.own i henq)
    · exact ⟨List.mem_append_left _ (hi.pending q' j hj).1, (hi.pending q' j hj).2⟩
  · intro j hj
    rw [hring] at hj
    rw [hadded]
    exact List.mem_append_left _ (hi.own j hj)
  · intro j hj
    rw [hring]
    rw [hadded] at hj
    rcases List.mem_append.mp hj with h | h
    · rcases hi.placed j h with henq | ⟨q', hq'⟩
      · exact Or.inl henq
      · refine Or.inr ⟨q', ?_⟩
        rw [hheld]
        split
        · rename_i hq
          exact List.mem_append_left _ (hq ▸ hq')
        · exact hq'
    · refine Or.inr ⟨q, ?_⟩
      rw [hheld, if_pos rfl]
      exact List.mem_append_right _ h

theorem put_inv {s s' : State} {q : Nat} (hi : Inv s) (hring : s'.ring = s.ring.put (s.queues q).held)
    (hadded : s'.added = s.added)
    (hheld : ∀ q', (s'.queues q').held = if q' = q then [] else (s.queues q').held) : Inv s' := by
  have henq : s'.ring.enqueued = s.ring.enqueued ++ (s.queues q).held := by
    rw [hring]
    rfl
  have hsub : ∀ q' j, j ∈ (s'.queues q').held → q' ≠ q ∧ j ∈ (s.queues q').held := by
    intro q' j hj
    rw [hheld] at hj
    split at hj
    · cases hj
    · exact ⟨by assumption, hj⟩
  refine ⟨?_, ?_, ?_, ?_, ?_, ?_, ?_⟩
  · rw [hring]
    exact hi.freed
  · rw [henq]
    refine List.nodup_append.mpr ⟨hi.enqueued, hi.held q, ?_⟩
    intro a ha b hb hab
    exact (hi.pending q b hb).2 (hab ▸ ha)
  · intro q'
    rw [hheld]
    split
    · exact List.nodup_nil
    · exact hi.held q'
  · intro q1 q2 hne j hj hj'
    exact hi.apart q1 q2 hne j (hsub q1 j hj).2 (hsub q2 j hj').2
  · intro q' j hj
    obtain ⟨hne, hj⟩ := hsub q' j hj
    rw [hadded, henq]
    refine ⟨(hi.pending q' j hj).1, fun h => ?_⟩
    rcases List.mem_append.mp h with h | h
    · exact (hi.pending q' j hj).2 h
    · exact hi.apart q' q hne j hj h
  · intro j hj
    rw [hadded]
    rw [henq] at hj
    rcases List.mem_append.mp hj with h | h
    · exact hi.own j h
    · exact (hi.pending q j h).1
  · intro j hj
    rw [hadded] at hj
    rw [henq]
    rcases hi.placed j hj with h | ⟨q', h⟩
    · exact Or.inl (List.mem_append_left _ h)
    · by_cases hq : q' = q
      · exact Or.inl (List.mem_append_right _ (hq ▸ h))
      · refine Or.inr ⟨q', ?_⟩
        rw [hheld, if_neg hq]
        exact h

/-- **One action.**  An action that finds room keeps every mbuf in one place. -/
theorem step_inv {s s' : State} (h : Orderly s s') (hi : Inv s) : Inv s' := by
  cases h with
  | add q i hnew hring hadded hheld => exact add_inv hi hnew hring hadded hheld
  | put q hring hadded hheld => exact put_inv hi hring hadded hheld
  | quiet n hring hadded hheld =>
    have henq : s'.ring.enqueued = s.ring.enqueued := by
      rw [hring]
      rfl
    refine ⟨?_, ?_, ?_, ?_, ?_, ?_, ?_⟩
    · rw [hring]
      exact hi.freed
    · rw [henq]
      exact hi.enqueued
    · intro q
      rw [hheld]
      exact hi.held q
    · intro q q'
      rw [hheld, hheld]
      exact hi.apart q q'
    · intro q
      rw [hheld, hadded, henq]
      exact hi.pending q
    · rw [hadded, henq]
      exact hi.own
    · simp only [hadded, henq, hheld]
      exact hi.placed

/-! ## Runs without room -/

/-- How often the mbuf was put on the ring or freed. -/
def State.disposed (s : State) (i : Nat) : Nat :=
  s.ring.enqueued.count i + s.ring.freed.count i

/-- An mbuf was disposed of twice, or was disposed of and is still offered by a
flush, which will do it again. -/
def Tainted (s : State) : Prop :=
  ∃ i, 2 ≤ s.disposed i ∨
    1 ≤ s.disposed i ∧ ∃ q pkts retries, s.queues q = .flushing pkts retries ∧ i ∈ ids pkts

theorem count_split (i n : Nat) (pkts : List Mbuf) :
    (ids (pkts.take n)).count i + (ids (pkts.drop n)).count i = (ids pkts).count i := by
  rw [← List.count_append, ids, ids, ← List.map_append, List.take_append_drop]
  rfl

/-- A pass of the flush loop disposes of every mbuf of the burst, room or not;
without room the flush goes on with the same burst, or frees it again. -/
theorem burst_disposes {cfg : Config} {s s' : State} {q : Nat} {pkts : List Mbuf} {retries : Nat}
    (h : step cfg s (.burst q) = some s') (hq : s.queues q = .flushing pkts retries)
    (hne : pkts ≠ []) (i : Nat) :
    s.disposed i + (ids pkts).count i ≤ s'.disposed i ∧
      (cfg.capacity < s.ring.slots.length + pkts.length →
        s.disposed i + 2 * (ids pkts).count i ≤ s'.disposed i ∨
          ∃ r, s'.queues q = .flushing pkts r) := by
  have hempty : pkts.isEmpty = false := by simpa using hne
  simp only [step, hq, hempty, Bool.false_eq_true, if_false] at h
  by_cases hfits : s.ring.slots.length + pkts.length ≤ cfg.capacity
  · have hlen : pkts.length ≠ 0 := by simpa using hne
    simp only [flushStep, pflowDevice, pflowTx_room hfits, hlen, if_false, List.drop_length] at h
    cases h
    refine ⟨?_, fun hlt => by omega⟩
    simp only [State.disposed, State.set, Ring.put, List.count_append]
    omega
  · have hlt : cfg.capacity < s.ring.slots.length + pkts.length := by omega
    have hsplit := count_split i (roomFor cfg.capacity s.ring pkts) pkts
    simp only [flushStep, pflowDevice, pflowTx_lacks hne hlt, if_true] at h
    by_cases hr : retries + 1 ≥ 100
    · simp only [if_pos hr] at h
      cases h
      simp only [State.disposed, State.set, Ring.put, Ring.free, List.count_append]
      refine ⟨by omega, fun _ => Or.inl (by omega)⟩
    · simp only [if_neg hr] at h
      cases h
      simp only [State.disposed, State.set, Ring.put, Ring.free, List.count_append]
      refine ⟨by omega, fun _ => Or.inr ⟨retries + 1, by simp⟩⟩

/-- What was disposed of stays so. -/
theorem step_mono {cfg : Config} {s s' : State} {a : Action} (h : step cfg s a = some s')
    (i : Nat) : s.disposed i ≤ s'.disposed i := by
  by_cases hlacks : Lacks cfg s a
  · obtain ⟨q, pkts, retries, rfl, hq, hne, -⟩ := hlacks
    have hburst := (burst_disposes h hq hne i).1
    omega
  · unfold State.disposed
    cases step_orderly h hlacks with
    | add q j hnew hring hadded hheld => rw [hring]
    | put q hring hadded hheld =>
      rw [hring]
      simp only [Ring.put, List.count_append]
      omega
    | quiet n hring hadded hheld =>
      rw [hring]
      exact Nat.le_refl _

/-- Only its own passes change a flush. -/
theorem step_flushing {cfg : Config} {s s' : State} {a : Action} (h : step cfg s a = some s')
    {q : Nat} {pkts : List Mbuf} {retries : Nat} (hq : s.queues q = .flushing pkts retries)
    (ha : a ≠ .burst q) : s'.queues q = .flushing pkts retries := by
  have hset : ∀ (t : State) (q' : Nat) (x : Queue), t.queues = s.queues → q' ≠ q →
      (t.set q' x).queues q = .flushing pkts retries := by
    intro t q' x ht hne
    rw [← hq, ← ht]
    exact Function.update_of_ne (Ne.symm hne) _ _
  cases a with
  | add q' m =>
    simp only [step] at h
    split at h
    · rename_i buffer hcol
      split at h
      · cases h
      · cases h
        refine hset _ _ _ rfl ?_
        rintro rfl
        rw [hq] at hcol
        cases hcol
    · cases h
  | flush q' =>
    simp only [step] at h
    split at h
    · rename_i buffer hcol
      cases h
      refine hset _ _ _ rfl ?_
      rintro rfl
      rw [hq] at hcol
      cases hcol
    · cases h
  | burst q' =>
    have hne : q' ≠ q := fun he => ha (by rw [he])
    simp only [step] at h
    split at h
    · split at h
      · cases h
        exact hset _ _ _ rfl hne
      · split at h
        · cases h
          exact hset _ _ _ rfl hne
        · cases h
          exact hset _ _ _ rfl hne
        · cases h
          exact hset _ _ _ rfl hne
    · cases h
  | drain =>
    simp only [step] at h
    split at h
    · cases h
      exact hq
    · rename_i rest hdrain
      split at h
      · cases h
        refine hset _ _ _ rfl ?_
        intro hphy
        rw [hphy, hq] at hdrain
        cases hdrain
      · cases h
        exact hq
    · cases h

/-- A call that lacks room taints the state. -/
theorem lacks_tainted {cfg : Config} {s s' : State} {a : Action} (h : step cfg s a = some s')
    (hlacks : Lacks cfg s a) : Tainted s' := by
  obtain ⟨q, pkts, retries, rfl, hq, hne, hlt⟩ := hlacks
  obtain ⟨m, hm⟩ := List.exists_mem_of_ne_nil pkts hne
  have hmem : m.id ∈ ids pkts := List.mem_map_of_mem hm
  have hcount : 0 < (ids pkts).count m.id := List.count_pos_iff.mpr hmem
  obtain ⟨hone, htwo⟩ := burst_disposes h hq hne m.id
  refine ⟨m.id, ?_⟩
  rcases htwo hlt with h2 | ⟨r, hr⟩
  · exact Or.inl (by omega)
  · exact Or.inr ⟨by omega, q, pkts, r, hr, hmem⟩

/-- Once tainted, always tainted. -/
theorem step_tainted {cfg : Config} {s s' : State} {a : Action} (h : step cfg s a = some s')
    (ht : Tainted s) : Tainted s' := by
  obtain ⟨i, htwice | ⟨honce, q, pkts, retries, hq, hmem⟩⟩ := ht
  · exact ⟨i, Or.inl (Nat.le_trans htwice (step_mono h i))⟩
  · by_cases ha : a = .burst q
    · subst ha
      have hcount : 0 < (ids pkts).count i := List.count_pos_iff.mpr hmem
      have hne : pkts ≠ [] := by
        rintro rfl
        cases hmem
      have hburst := (burst_disposes h hq hne i).1
      exact ⟨i, Or.inl (by omega)⟩
    · have hmono := step_mono h i
      exact ⟨i, Or.inr ⟨by omega, q, pkts, retries, step_flushing h hq ha, hmem⟩⟩

/-! ## Ownership -/

/-- Every call of `pflow_tx` in the run finds room for its burst. -/
def Roomy (cfg : Config) (s : State) (as : List Action) : Prop :=
  ∀ before a after s1, as = before ++ a :: after → run cfg s before = some s1 → ¬ Lacks cfg s1 a

/-- No mbuf was put on the ring twice, freed twice, or both; none was freed
while on the ring; and every mbuf handed over, and no other, is still with a
queue, was put on the ring, or was freed. -/
structure Once (s : State) : Prop where
  once : ∀ i, s.ring.enqueued.count i + s.ring.freed.count i ≤ 1
  ring : ∀ i ∈ s.ring.freed, i ∉ s.ring.slots
  own : ∀ i, i ∈ s.ring.enqueued ∨ i ∈ s.ring.freed → i ∈ s.added
  placed : ∀ i ∈ s.added,
    i ∈ s.ring.enqueued ∨ i ∈ s.ring.freed ∨ ∃ q, i ∈ (s.queues q).held

/-- No flush is going on. -/
def Idle (s : State) : Prop := ∀ q, ∃ buffer, s.queues q = .collecting buffer

theorem Inv.once {s : State} (hi : Inv s) : Once s := by
  refine ⟨fun i => ?_, fun i h => ?_, fun i h => ?_, fun i h => ?_⟩
  · rw [hi.freed]
    exact List.nodup_iff_count_le_one.mp hi.enqueued i
  · rw [hi.freed] at h
    cases h
  · rcases h with h | h
    · exact hi.own i h
    · rw [hi.freed] at h
      cases h
  · rcases hi.placed i h with h | h
    · exact Or.inl h
    · exact Or.inr (Or.inr h)

theorem run_cons {cfg : Config} {s s' : State} {a : Action} {as : List Action}
    (h : run cfg s (a :: as) = some s') :
    ∃ s1, step cfg s a = some s1 ∧ run cfg s1 as = some s' := by
  rw [run] at h
  split at h
  · rename_i s1 hstep
    exact ⟨s1, hstep, h⟩
  · cases h

theorem Roomy.tail {cfg : Config} {s s1 : State} {a : Action} {as : List Action}
    (h : Roomy cfg s (a :: as)) (hstep : step cfg s a = some s1) : Roomy cfg s1 as := by
  intro before b after s2 has hrun
  refine h (a :: before) b after s2 (by rw [has]; rfl) ?_
  rw [run, hstep]
  exact hrun

theorem run_inv {cfg : Config} {as : List Action} {s s' : State} (h : run cfg s as = some s')
    (hroom : Roomy cfg s as) (hi : Inv s) : Inv s' := by
  induction as generalizing s with
  | nil =>
    cases h
    exact hi
  | cons a as ih =>
    obtain ⟨s1, hstep, hrest⟩ := run_cons h
    have horderly := step_orderly hstep (hroom [] a as s rfl rfl)
    exact ih hrest (hroom.tail hstep) (step_inv horderly hi)

theorem run_tainted {cfg : Config} {as : List Action} {s s' : State} (h : run cfg s as = some s')
    (ht : Tainted s) : Tainted s' := by
  induction as generalizing s with
  | nil =>
    cases h
    exact ht
  | cons a as ih =>
    obtain ⟨s1, hstep, hrest⟩ := run_cons h
    exact ih hrest (step_tainted hstep ht)

/-- A run in which some call lacks room ends tainted. -/
theorem run_lacks {cfg : Config} {as : List Action} {s s' : State} (h : run cfg s as = some s')
    (hnot : ¬ Roomy cfg s as) : Tainted s' := by
  induction as generalizing s with
  | nil =>
    refine absurd ?_ hnot
    intro before a after s1 has
    simp at has
  | cons a as ih =>
    obtain ⟨s1, hstep, hrest⟩ := run_cons h
    by_cases hlacks : Lacks cfg s a
    · exact run_tainted hrest (lacks_tainted hstep hlacks)
    · refine ih hrest ?_
      intro hroom
      apply hnot
      intro before b after s2 has hrun
      cases before with
      | nil =>
        cases has
        cases hrun
        exact hlacks
      | cons a' before =>
        cases has
        obtain ⟨s1', hstep', hrun'⟩ := run_cons hrun
        cases hstep.symm.trans hstep'
        exact hroom before b after s2 rfl hrun'

theorem tainted_not_once {s : State} (hidle : Idle s) (ht : Tainted s) : ¬ Once s := by
  intro h
  obtain ⟨i, htwice | ⟨-, q, pkts, retries, hq, -⟩⟩ := ht
  · have := h.once i
    unfold State.disposed at htwice
    omega
  · obtain ⟨buffer, hcol⟩ := hidle q
    rw [hq] at hcol
    cases hcol

/-- **Ownership on the transmit path.**  Whatever is on the ring at the start
and however the queues interleave: if every call of `pflow_tx` finds room for
its burst, every mbuf has one owner in every state of the run; and a run that
ends with no flush going on has kept to this only if every call found room. -/
theorem ownership (cfg : Config) (slots : List Nat) (as : List Action) {s : State}
    (h : run cfg (start slots) as = some s) :
    (Roomy cfg (start slots) as → Once s) ∧ (Idle s → Once s → Roomy cfg (start slots) as) := by
  constructor
  · intro hroom
    exact (run_inv h hroom (start_inv slots)).once
  · intro hidle honce
    by_contra hnot
    exact tainted_not_once hidle (run_lacks h hnot) honce

/-! A ring of four entries (`tx-ring-size=4`), and a flush of two mbufs by queue 1. -/

def smallPflow : Config := ⟨3, 0, 32⟩

def pflowMbuf (id : Nat) : Mbuf := ⟨id, fun _ => 0, 64, 64⟩

def twoMbufs : List Action :=
  [.add 1 (pflowMbuf 10), .add 1 (pflowMbuf 11), .flush 1, .burst 1, .burst 1]

theorem ownership_empty_ring :
    ∃ s, run smallPflow (start []) twoMbufs = some s ∧ Once s ∧ s.ring.slots = [10, 11] := by
  refine ⟨_, rfl, ?_, rfl⟩
  refine (ownership smallPflow [] twoMbufs rfl).1 ?_
  rintro before a after s1 has hrun ⟨q, pkts, retries, rfl, hq, hne, hlt⟩
  match before with
  | [] => cases has
  | [_] => cases has
  | [_, _] => cases has
  | [_, _, _] =>
    cases has
    cases hrun
    cases hq
    exact absurd hlt (by decide)
  | [_, _, _, _] =>
    cases has
    cases hrun
    cases hq
    exact hne rfl
  | _ :: _ :: _ :: _ :: _ :: rest =>
    cases rest <;> cases has

/-- Two mbufs are on the ring already: of the two new ones the second is freed
twice, and the first is freed while it is on the ring. -/
theorem freed_twice :
    ∃ s, run smallPflow (start [0, 1]) twoMbufs = some s ∧ ¬ Once s := by
  refine ⟨_, rfl, ?_⟩
  intro h
  exact absurd (h.once 11) (by decide)

end Rtdk.Pflow
