import Mathlib.Tactic.Abel
import Mathlib.Tactic.DeriveFintype
import Rtdk.Ledger
import Rtdk.Stat

/-! The message pools of the log and of the MQTT thread (`log.c`, `logviamqtt.c`).

Each of the two has a pool of buffers and a ring. A call takes a buffer, fills it
and enqueues it; the thread of the ring dequeues bursts and gives the buffers
back. A call of `log_message` that finds the ring full gives its buffer back, too; a
call of `log_via_mqtt_stats` does not. -/

namespace Rtdk.MessagePool
open Rtdk.Stat Rtdk.Ledger

def LOG_RING_SIZE : Nat := 8 * 1024
def LOG_MEMPOOL_BUFFER_COUNT : Nat := 16 * 1024
def LOG_BURST_COUNT : Nat := 128
def LOG_MQTT_RING_SIZE : Nat := 1024
def LOG_MQTT_MEMPOOL_BUFFER_COUNT : Nat := 8 * 1024
def LOG_MQTT_BUFFER_COUNT : Nat := 128

/-- A ring made by `rte_ring_create` holds one entry less than its size. -/
def ringCapacity (size : Nat) : Nat := size - 1

/-- What a thread is doing in a call: nothing, filling the buffer it took, or
about to give it back. -/
inductive Producer (n : Nat)
  | idle
  | filling (b : Fin n)
  | returning (b : Fin n)
  deriving DecidableEq, Repr

/-- A pool of `n` buffers with its ring, the calls of the threads in `T`, and the
burst its own thread has dequeued. -/
structure Pool (T : Type) (n : Nat) where
  free : Multiset (Fin n)
  ring : List (Fin n)
  producer : T → Producer n
  draining : List (Fin n)

variable {T : Type} [DecidableEq T] {n : Nat}

namespace Pool

def setProducer (p : Pool T n) (t : T) (s : Producer n) : Pool T n :=
  { p with producer := Function.update p.producer t s }

theorem setProducer_self (p : Pool T n) (t : T) (s : Producer n) :
    (p.setProducer t s).producer t = s := by
  simp [setProducer]

/-- `rte_mempool_get`: some free buffer, or `none` if it fails. -/
def get (p : Pool T n) (t : T) : Option (Fin n) → Option (Pool T n)
  | none => some p
  | some b =>
    if p.producer t = .idle ∧ b ∈ p.free then
      some ({ p with free := p.free.erase b }.setProducer t (.filling b))
    else none

/-- `rte_ring_enqueue` of the buffer the thread has filled; `failed` says what
the thread does next if there is no room. -/
def enqueue (size : Nat) (failed : Fin n → Producer n) (p : Pool T n) (t : T) : Option (Pool T n) :=
  match p.producer t with
  | .filling b =>
    if p.ring.length < ringCapacity size then
      some ({ p with ring := p.ring ++ [b] }.setProducer t .idle)
    else some (p.setProducer t (failed b))
  | _ => none

/-- `rte_mempool_put`. -/
def put (p : Pool T n) (t : T) : Option (Pool T n) :=
  match p.producer t with
  | .returning b => some ({ p with free := b ::ₘ p.free }.setProducer t .idle)
  | _ => none

/-- `rte_ring_dequeue_burst` in the thread of the ring. -/
def dequeueBurst (count : Nat) (p : Pool T n) : Option (Pool T n) :=
  if p.draining = [] then
    some { p with draining := p.ring.take count, ring := p.ring.drop count }
  else none

/-- `rte_mempool_put_bulk` in the thread of the ring. -/
def putBulk (p : Pool T n) : Pool T n := { p with free := p.free + p.draining, draining := [] }

/-- All buffers free, as `rte_mempool_create` makes the pool. -/
def fresh (T : Type) (n : Nat) : Pool T n where
  free := Finset.univ.val
  ring := []
  producer _ := .idle
  draining := []

end Pool

/-- The steps of the threads at one of the pools. A call of level `level` takes the
free buffer `b`, or none if the pool is empty for it. -/
inductive Event (T : Type) (n : Nat)
  | call (t : T) (level : LogLevel) (b : Option (Fin n))
  | enqueue (t : T)
  | put (t : T)
  | dequeueBurst
  | putBulk

def LogLevel.toNat : LogLevel → Nat
  | .error => 1
  | .warning => 2
  | .info => 3
  | .debug => 4

/-- `log_message` and the drain of `log_thread_routine`. -/
def logStep (currentLevel : LogLevel) (p : Pool T LOG_MEMPOOL_BUFFER_COUNT) :
    Event T LOG_MEMPOOL_BUFFER_COUNT → Option (Pool T LOG_MEMPOOL_BUFFER_COUNT)
  | .call t level b =>
    if LogLevel.toNat level > LogLevel.toNat currentLevel then some p else p.get t b
  | .enqueue t => p.enqueue LOG_RING_SIZE .returning t
  | .put t => p.put t
  | .dequeueBurst => p.dequeueBurst LOG_BURST_COUNT
  | .putBulk => some p.putBulk

/-- `log_via_mqtt_stats` and the drain of `log_via_mqtt_thread_routine`: a call
has no level, and after a failed enqueue it only writes to `stderr`. -/
def mqttStep (logViaMqtt : Bool) (p : Pool T LOG_MQTT_MEMPOOL_BUFFER_COUNT) :
    Event T LOG_MQTT_MEMPOOL_BUFFER_COUNT → Option (Pool T LOG_MQTT_MEMPOOL_BUFFER_COUNT)
  | .call t _ b => if logViaMqtt then p.get t b else some p
  | .enqueue t => p.enqueue LOG_MQTT_RING_SIZE (fun _ => .idle) t
  | .put _ => none
  | .dequeueBurst => p.dequeueBurst LOG_MQTT_BUFFER_COUNT
  | .putBulk => some p.putBulk

/-- Both pools. -/
structure Pools (T : Type) where
  log : Pool T LOG_MEMPOOL_BUFFER_COUNT
  mqtt : Pool T LOG_MQTT_MEMPOOL_BUFFER_COUNT

inductive PoolsEvent (T : Type)
  | log (e : Event T LOG_MEMPOOL_BUFFER_COUNT)
  | mqtt (e : Event T LOG_MQTT_MEMPOOL_BUFFER_COUNT)

/-- The two settings the calls look at. -/
structure PoolConfig where
  currentLevel : LogLevel
  logViaMqtt : Bool

def step (cfg : PoolConfig) (p : Pools T) : PoolsEvent T → Option (Pools T)
  | .log e => (logStep cfg.currentLevel p.log e).map fun log => { p with log }
  | .mqtt e => (mqttStep cfg.logViaMqtt p.mqtt e).map fun mqtt => { p with mqtt }

def run (cfg : PoolConfig) : Pools T → List (PoolsEvent T) → Option (Pools T)
  | p, [] => some p
  | p, e :: es => (step cfg p e).bind fun p' => run cfg p' es

/-! ## Where the buffers are -/

inductive Place (T : Type)
  | free
  | ring
  | draining
  | thread (t : T)
  deriving DecidableEq, Fintype

def Producer.held : Producer n → Multiset (Fin n)
  | .idle => 0
  | .filling b => {b}
  | .returning b => {b}

namespace Pool

def ledger (p : Pool T n) : Place T → Multiset (Fin n)
  | .free => p.free
  | .ring => p.ring
  | .draining => p.draining
  | .thread t => (p.producer t).held

/-- A thread moves on: only its own place changes. -/
theorem ledger_setProducer (p : Pool T n) (t : T) (s : Producer n) :
    (p.setProducer t s).ledger = Function.update p.ledger (.thread t) s.held := by
  funext x
  cases x with
  | thread u =>
    by_cases hu : u = t
    · subst hu
      simp [setProducer, ledger]
    · have hne : Place.thread u ≠ Place.thread t := fun h => hu (Place.thread.inj h)
      simp [setProducer, ledger, Function.update_of_ne hu, Function.update_of_ne hne]
  | _ => rfl

variable [Fintype T] {p p' : Pool T n} {t : T}

/-- The buffers that are somewhere. -/
def owned (p : Pool T n) : Multiset (Fin n) := total p.ledger

/-- A call moves its buffer from the free ones to the thread. -/
theorem owned_get {o : Option (Fin n)} (h : p.get t o = some p') : p'.owned = p.owned := by
  cases o with
  | none => rw [Option.some.inj h]
  | some b =>
    simp only [get] at h
    split at h
    · rename_i hb
      obtain ⟨hidle, hfree⟩ := hb
      have hmove : p'.ledger = move .free (.thread t) {b} p.ledger := by
        have hthread : p.ledger (.thread t) = 0 := by simp [ledger, hidle, Producer.held]
        rw [← Option.some.inj h, ledger_setProducer, move, hthread, zero_add]
        congr 1
        funext x
        cases x with
        | free => simp [ledger, Multiset.sub_singleton]
        | _ => simp [ledger]
      rw [owned, hmove]
      exact total_move (by simp) (Multiset.singleton_le.mpr hfree)
    · cases h

/-- An enqueue moves the buffer to the ring; without room it stays with the
thread, or is gone. -/
theorem owned_enqueue {size : Nat} {failed : Fin n → Producer n}
    (h : p.enqueue size failed t = some p') :
    ∃ b, p.producer t = .filling b ∧
      (p.ring.length < ringCapacity size ∧ p'.owned = p.owned ∨
        ¬p.ring.length < ringCapacity size ∧ p'.owned + {b} = p.owned + (failed b).held) := by
  unfold enqueue at h
  split at h
  · rename_i b hb
    refine ⟨b, hb, ?_⟩
    have hthread : p.ledger (.thread t) = {b} := by simp [ledger, hb, Producer.held]
    split at h
    · rename_i hroom
      left
      refine ⟨hroom, ?_⟩
      have hmove : p'.ledger = move (.thread t) .ring {b} p.ledger := by
        rw [← hthread, move_all, hthread, ← Option.some.inj h, ledger_setProducer,
          Function.update_comm (by simp)]
        congr 1
        funext x
        cases x with
        | ring => simpa [ledger] using (Multiset.coe_add p.ring [b]).symm
        | _ => simp [ledger]
      rw [owned, hmove]
      exact total_move (by simp) hthread.symm.le
    · rename_i hfull
      right
      refine ⟨hfull, ?_⟩
      rw [← Option.some.inj h, owned, ledger_setProducer, owned, total_update,
        total_split p.ledger (.thread t), hthread]
      abel
  · cases h

theorem owned_put (h : p.put t = some p') : p'.owned = p.owned := by
  unfold put at h
  split at h
  · rename_i b hb
    have hthread : p.ledger (.thread t) = {b} := by simp [ledger, hb, Producer.held]
    have hmove : p'.ledger = move (.thread t) .free {b} p.ledger := by
      rw [← hthread, move_all, hthread, ← Option.some.inj h, ledger_setProducer,
        Function.update_comm (by simp)]
      congr 1
      funext x
      cases x with
      | free =>
        have hcons : b ::ₘ p.free = p.free + {b} := by rw [← Multiset.singleton_add, add_comm]
        simpa [ledger] using hcons
      | _ => simp [ledger]
    rw [owned, hmove]
    exact total_move (by simp) hthread.symm.le
  · cases h

theorem owned_dequeueBurst {count : Nat} (h : p.dequeueBurst count = some p') :
    p'.owned = p.owned := by
  unfold dequeueBurst at h
  split at h
  · rename_i hnone
    have hsplit : p.ledger .ring =
        (p.ring.take count : Multiset (Fin n)) + p.ring.drop count := by
      rw [Multiset.coe_add, List.take_append_drop]
      rfl
    have hmove : p'.ledger = move .ring .draining (p.ring.take count) p.ledger := by
      rw [← Option.some.inj h, move, hsplit, add_tsub_cancel_left]
      funext x
      cases x <;> simp [ledger, hnone]
    rw [owned, hmove]
    refine total_move (by simp) ?_
    rw [hsplit]
    exact Multiset.le_add_right _ _
  · cases h

theorem owned_putBulk (p : Pool T n) : p.putBulk.owned = p.owned := by
  have hmove : p.putBulk.ledger = move .draining .free (p.ledger .draining) p.ledger := by
    rw [move_all]
    funext x
    cases x <;> simp [putBulk, ledger]
  rw [owned, hmove]
  exact total_move (by simp) le_rfl

theorem owned_fresh (T : Type) [DecidableEq T] [Fintype T] (n : Nat) :
    (fresh T n).owned = Finset.univ.val := by
  have hothers : ∑ x ∈ Finset.univ.erase Place.free, (fresh T n).ledger x = 0 := by
    apply Finset.sum_eq_zero
    intro x hx
    cases x with
    | free => exact absurd rfl (Finset.ne_of_mem_erase hx)
    | _ => rfl
  rw [owned, total_split _ .free, hothers, add_zero]
  rfl

/-- The free buffers, those in the ring and those held make up the pool, and no
buffer is in two places. -/
def Balanced (p : Pool T n) : Prop :=
  p.free.card + p.ring.length + (p.draining.length + ∑ t, (p.producer t).held.card) = n ∧
    p.owned.Nodup

def placeEquiv (T : Type) : Place T ≃ Option (Option (Option T)) where
  toFun
    | .free => none
    | .ring => some none
    | .draining => some (some none)
    | .thread t => some (some (some t))
  invFun
    | none => .free
    | some none => .ring
    | some (some none) => .draining
    | some (some (some t)) => .thread t
  left_inv x := by cases x <;> rfl
  right_inv x := by rcases x with _ | _ | _ | t <;> rfl

omit [DecidableEq T] in
theorem card_owned (p : Pool T n) : p.owned.card =
    p.free.card + p.ring.length + (p.draining.length + ∑ t, (p.producer t).held.card) := by
  have hsum : p.owned = p.free + (p.ring + (p.draining + ∑ t, (p.producer t).held)) := by
    rw [owned, total, ← (placeEquiv T).symm.sum_comp, Fintype.sum_option, Fintype.sum_option,
      Fintype.sum_option]
    rfl
  rw [hsum]
  simp [Nat.add_assoc]

omit [DecidableEq T] in
theorem balanced_iff_of_le (hle : p.owned ≤ Finset.univ.val) :
    p.Balanced ↔ p.owned = Finset.univ.val := by
  rw [Balanced, ← card_owned]
  constructor
  · rintro ⟨hcard, -⟩
    exact Multiset.eq_of_le_of_card_le hle (by simp [hcard])
  · intro heq
    rw [heq]
    exact ⟨by simp, Finset.univ.nodup⟩

end Pool

/-! ## Runs -/

section run
variable [Fintype T] {cfg : PoolConfig} {p p' : Pools T}

/-- The call is about to enqueue a record in the MQTT ring, which is full. -/
def EnqueueFails (p : Pools T) : PoolsEvent T → Prop
  | .mqtt (.enqueue _) => ¬p.mqtt.ring.length < ringCapacity LOG_MQTT_RING_SIZE
  | _ => False

/-- No such call in a run. -/
def NeverFull (cfg : PoolConfig) : Pools T → List (PoolsEvent T) → Prop
  | _, [] => True
  | p, e :: es => ¬EnqueueFails p e ∧ ∀ p', step cfg p e = some p' → NeverFull cfg p' es

theorem logStep_owned {level : LogLevel} {q q' : Pool T LOG_MEMPOOL_BUFFER_COUNT}
    {e : Event T LOG_MEMPOOL_BUFFER_COUNT} (h : logStep level q e = some q') :
    q'.owned = q.owned := by
  cases e with
  | call t l b =>
    simp only [logStep] at h
    split at h
    · rw [Option.some.inj h]
    · exact Pool.owned_get h
  | enqueue t =>
    obtain ⟨b, -, ⟨-, heq⟩ | ⟨-, heq⟩⟩ := Pool.owned_enqueue h
    · exact heq
    · exact add_right_cancel heq
  | put t => exact Pool.owned_put h
  | dequeueBurst => exact Pool.owned_dequeueBurst h
  | putBulk =>
    rw [← Option.some.inj h]
    exact Pool.owned_putBulk q

/-- A step at the MQTT pool keeps the buffers, unless its enqueue fails: then
one is gone. -/
theorem mqttStep_owned {logViaMqtt : Bool} {q q' : Pool T LOG_MQTT_MEMPOOL_BUFFER_COUNT}
    {e : Event T LOG_MQTT_MEMPOOL_BUFFER_COUNT} (h : mqttStep logViaMqtt q e = some q') :
    ((∀ t, e = .enqueue t → q.ring.length < ringCapacity LOG_MQTT_RING_SIZE) ∧
      q'.owned = q.owned) ∨
    ((∃ t, e = .enqueue t) ∧ ¬q.ring.length < ringCapacity LOG_MQTT_RING_SIZE ∧
      ∃ b, q'.owned + {b} = q.owned) := by
  cases e with
  | call t l b =>
    refine Or.inl ⟨fun _ h => (nomatch h), ?_⟩
    simp only [mqttStep] at h
    split at h
    · exact Pool.owned_get h
    · rw [Option.some.inj h]
  | enqueue t =>
    obtain ⟨b, -, ⟨hroom, heq⟩ | ⟨hfull, heq⟩⟩ := Pool.owned_enqueue h
    · exact Or.inl ⟨fun _ _ => hroom, heq⟩
    · exact Or.inr ⟨⟨t, rfl⟩, hfull, b, by simpa [Producer.held] using heq⟩
  | put t => cases h
  | dequeueBurst => exact Or.inl ⟨fun _ h => (nomatch h), Pool.owned_dequeueBurst h⟩
  | putBulk =>
    rw [← Option.some.inj h]
    exact Or.inl ⟨fun _ h => (nomatch h), Pool.owned_putBulk q⟩

/-- What one step does to the two pools. -/
theorem step_owned {e : PoolsEvent T} (h : step cfg p e = some p') :
    p'.log.owned = p.log.owned ∧
      ((¬EnqueueFails p e ∧ p'.mqtt.owned = p.mqtt.owned) ∨
        (EnqueueFails p e ∧ ∃ b, p'.mqtt.owned + {b} = p.mqtt.owned)) := by
  cases e with
  | log e =>
    obtain ⟨q, hq, rfl⟩ := Option.map_eq_some_iff.mp h
    exact ⟨logStep_owned hq, Or.inl ⟨id, rfl⟩⟩
  | mqtt e =>
    obtain ⟨q, hq, rfl⟩ := Option.map_eq_some_iff.mp h
    refine ⟨rfl, ?_⟩
    obtain ⟨hroom, heq⟩ | ⟨⟨t, rfl⟩, hfull, hlost⟩ := mqttStep_owned hq
    · refine Or.inl ⟨?_, heq⟩
      intro hfails
      cases e with
      | enqueue t => exact hfails (hroom t rfl)
      | _ => exact hfails
    · exact Or.inr ⟨hfull, hlost⟩

/-- The log pool loses nothing in a run; the MQTT pool loses nothing exactly if
no enqueue fails. -/
theorem run_owned {es : List (PoolsEvent T)} (h : run cfg p es = some p') :
    p'.log.owned = p.log.owned ∧ p'.mqtt.owned ≤ p.mqtt.owned ∧
      (p'.mqtt.owned = p.mqtt.owned ↔ NeverFull cfg p es) := by
  induction es generalizing p with
  | nil =>
    cases h
    exact ⟨rfl, le_rfl, iff_of_true rfl trivial⟩
  | cons e es ih =>
    obtain ⟨q, hq, hrest⟩ := Option.bind_eq_some_iff.mp h
    obtain ⟨hlog, hle, hiff⟩ := ih hrest
    obtain ⟨hlog', ⟨hok, heq⟩ | ⟨hfails, b, hlost⟩⟩ := step_owned hq
    · refine ⟨hlog.trans hlog', heq ▸ hle, ?_⟩
      rw [← heq, hiff]
      constructor
      · intro hnever
        refine ⟨hok, ?_⟩
        intro q' hq'
        rwa [← Option.some.inj (hq.symm.trans hq')]
      · intro hnever
        exact hnever.2 q hq
    · have hlt : q.mqtt.owned < p.mqtt.owned := by
        rw [← hlost, add_comm, Multiset.singleton_add]
        exact Multiset.lt_cons_self _ _
      refine ⟨hlog.trans hlog', hle.trans hlt.le, iff_of_false ?_ fun h => h.1 hfails⟩
      exact fun heq => absurd hlt (by rw [← heq]; exact not_lt_of_ge hle)

/-- Both pools as they are set up. -/
def Pools.fresh (T : Type) : Pools T := ⟨.fresh T _, .fresh T _⟩

/-- In any run of calls and drains, with any failures, all buffers of both pools
stay accounted for exactly if no call of `log_via_mqtt_stats` finds its ring
full. -/
theorem pools_balanced_iff (cfg : PoolConfig) (es : List (PoolsEvent T)) (p : Pools T)
    (h : run cfg (.fresh T) es = some p) :
    (p.log.Balanced ∧ p.mqtt.Balanced) ↔ NeverFull cfg (.fresh T) es := by
  obtain ⟨hlog, hle, hiff⟩ := run_owned h
  have hlogOwned : p.log.owned = Finset.univ.val := hlog.trans (Pool.owned_fresh T _)
  have hmqttOwned : (Pools.fresh T).mqtt.owned = Finset.univ.val := Pool.owned_fresh T _
  rw [hmqttOwned] at hle hiff
  rw [Pool.balanced_iff_of_le hlogOwned.le, Pool.balanced_iff_of_le hle, hiff]
  exact and_iff_right hlogOwned

omit [Fintype T] in
theorem run_append (cfg : PoolConfig) (p : Pools T) (es fs : List (PoolsEvent T)) :
    run cfg p (es ++ fs) = (run cfg p es).bind fun p' => run cfg p' fs := by
  induction es generalizing p with
  | nil => rfl
  | cons e es ih =>
    rw [List.cons_append, run, run, Option.bind_assoc]
    exact Option.bind_congr fun q _ => ih q

end run

/-! ## A ring that nobody drains -/

/-- A call of `log_via_mqtt_stats` takes the buffer `k`. -/
def statsGet (k : Nat) : PoolsEvent Unit :=
  .mqtt (.call () .info (some ⟨k % LOG_MQTT_MEMPOOL_BUFFER_COUNT, Nat.mod_lt _ (by decide)⟩))

def statsCall (k : Nat) : List (PoolsEvent Unit) := [statsGet k, .mqtt (.enqueue ())]

def statsCalls : Nat → List (PoolsEvent Unit)
  | 0 => []
  | k + 1 => statsCalls k ++ statsCall k

/-- After `k` calls there are `k` buffers in the ring, and the others are free. -/
structure Filled (k : Nat) (p : Pools Unit) : Prop where
  ring : p.mqtt.ring.length = k
  idle : p.mqtt.producer () = .idle
  free : ∀ b, k ≤ b.val → b ∈ p.mqtt.free

/-- The state in which the buffer `k` is being filled. -/
theorem Filled.call {k : Nat} {p : Pools Unit} (h : Filled k p)
    (hk : k < LOG_MQTT_MEMPOOL_BUFFER_COUNT) :
    ∃ q, step ⟨.info, true⟩ p (statsGet k) = some q ∧
      q.mqtt.ring.length = k ∧ q.mqtt.producer () = .filling ⟨k, hk⟩ ∧
      ∀ b, k + 1 ≤ b.val → b ∈ q.mqtt.free := by
  have hb : (⟨k % LOG_MQTT_MEMPOOL_BUFFER_COUNT, Nat.mod_lt _ (by decide)⟩ :
      Fin LOG_MQTT_MEMPOOL_BUFFER_COUNT) = ⟨k, hk⟩ := Fin.ext (Nat.mod_eq_of_lt hk)
  rw [statsGet, hb]
  let taken : Pool Unit LOG_MQTT_MEMPOOL_BUFFER_COUNT :=
    { p.mqtt with free := p.mqtt.free.erase ⟨k, hk⟩ }
  refine ⟨⟨p.log, taken.setProducer () (.filling ⟨k, hk⟩)⟩, ?_, h.ring, ?_, ?_⟩
  · simp [step, mqttStep, Pool.get, h.idle, h.free ⟨k, hk⟩ le_rfl, taken]
  · exact Pool.setProducer_self ..
  · intro b hle
    have hne : b ≠ ⟨k, hk⟩ := fun heq => by
      rw [heq] at hle
      exact absurd hle (Nat.not_succ_le_self k)
    exact (Multiset.mem_erase_of_ne hne).mpr (h.free b (Nat.le_of_succ_le hle))

theorem Filled.statsCall {k : Nat} {p : Pools Unit} (h : Filled k p)
    (hk : k < ringCapacity LOG_MQTT_RING_SIZE) :
    ∃ q, run ⟨.info, true⟩ p (statsCall k) = some q ∧ Filled (k + 1) q := by
  have hbound : ringCapacity LOG_MQTT_RING_SIZE < LOG_MQTT_MEMPOOL_BUFFER_COUNT := by decide
  obtain ⟨q, hstep, hring, hfilling, hfree⟩ := h.call (hk.trans hbound)
  let filled : Pool Unit LOG_MQTT_MEMPOOL_BUFFER_COUNT :=
    { q.mqtt with ring := q.mqtt.ring ++ [⟨k, hk.trans hbound⟩] }
  have henqueue : step ⟨.info, true⟩ q (.mqtt (.enqueue ())) =
      some ⟨q.log, filled.setProducer () .idle⟩ := by
    simp [step, mqttStep, Pool.enqueue, hfilling, hring, hk, filled]
  refine ⟨_, by rw [MessagePool.statsCall, run, hstep, Option.bind_some, run, henqueue]; rfl, ?_⟩
  exact ⟨by simp [Pool.setProducer, hring, filled], Pool.setProducer_self .., hfree⟩

theorem statsCalls_filled {k : Nat} (hk : k ≤ ringCapacity LOG_MQTT_RING_SIZE) :
    ∃ p, run ⟨.info, true⟩ (.fresh Unit) (statsCalls k) = some p ∧ Filled k p := by
  induction k with
  | zero => exact ⟨_, rfl, rfl, rfl, fun b _ => Finset.mem_univ b⟩
  | succ k ih =>
    obtain ⟨p, hrun, hfilled⟩ := ih (Nat.le_of_succ_le hk)
    obtain ⟨q, hcall, hnext⟩ := hfilled.statsCall hk
    refine ⟨q, ?_, hnext⟩
    rw [statsCalls, run_append, hrun]
    exact hcall

theorem pools_balanced_iff_three :
    ∃ p, run ⟨.info, true⟩ (.fresh Unit) (statsCalls 3) = some p ∧
      ((p.log.Balanced ∧ p.mqtt.Balanced) ↔
        NeverFull ⟨.info, true⟩ (.fresh Unit) (statsCalls 3)) := by
  obtain ⟨p, hrun, -⟩ := statsCalls_filled (by decide : 3 ≤ ringCapacity LOG_MQTT_RING_SIZE)
  exact ⟨p, hrun, pools_balanced_iff ⟨.info, true⟩ (statsCalls 3) p hrun⟩

/-- The 1024th call without a drain loses its buffer. -/
theorem pools_not_balanced :
    ¬ ∀ (T : Type) [Fintype T] [DecidableEq T] (cfg : PoolConfig) (es : List (PoolsEvent T))
      (p : Pools T), run cfg (.fresh T) es = some p → p.log.Balanced ∧ p.mqtt.Balanced := by
  intro h
  obtain ⟨p, hrun, hfilled⟩ := statsCalls_filled le_rfl
  obtain ⟨q, hcall, hring, hfilling, -⟩ := hfilled.call (by decide)
  have henqueue : step ⟨.info, true⟩ q (.mqtt (.enqueue ())) =
      some ⟨q.log, q.mqtt.setProducer () .idle⟩ := by
    simp [step, mqttStep, Pool.enqueue, hfilling, hring]
  obtain ⟨-, ⟨hok, -⟩ | ⟨-, b, hlost⟩⟩ := step_owned henqueue
  · exact hok (by simp [EnqueueFails, hring])
  · have hall : run ⟨.info, true⟩ (.fresh Unit) (statsCalls (ringCapacity LOG_MQTT_RING_SIZE) ++
        statsCall (ringCapacity LOG_MQTT_RING_SIZE)) =
          some ⟨q.log, q.mqtt.setProducer () .idle⟩ := by
      rw [run_append, hrun, Option.bind_some, statsCall, run, hcall, Option.bind_some, run, henqueue]
      rfl
    have hkept : q.mqtt.owned = p.mqtt.owned := by
      obtain ⟨-, ⟨-, hsame⟩ | ⟨hfails, -⟩⟩ := step_owned hcall
      · exact hsame
      · exact hfails.elim
    have hle := Multiset.card_le_card (run_owned hrun).2.1
    rw [← hkept] at hle
    have hcard := (h Unit _ _ _ hall).2.1
    rw [← Pool.card_owned] at hcard
    rw [← hlost, Multiset.card_add, hcard] at hle
    have hfresh : (Pools.fresh Unit).mqtt.owned.card = LOG_MQTT_MEMPOOL_BUFFER_COUNT := by
      rw [show (Pools.fresh Unit).mqtt.owned = Finset.univ.val from Pool.owned_fresh Unit _]
      simp
    rw [hfresh, Multiset.card_singleton] at hle
    exact Nat.not_succ_le_self _ hle

end Rtdk.MessagePool
