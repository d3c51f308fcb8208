import Mathlib.Data.List.FinRange
import Rtdk.Runs
import Rtdk.StatsMessage

/-! The statistics pools of RATT and LTTT (`mqtt_stats` and `mqtt_add_stats` in
`ratt/mqtt.c` and `launch-time/mqtt.c`).

`mqtt_stats` takes a buffer of the pool and puts it into the ring; `mqtt_add_stats` takes a
batch from the ring, publishes it, and gives it back. Two errors lose buffers for good: an
enqueue that fails, and a publish that fails, which loses its whole batch
(`pools_whole_iff`). -/

namespace Rtdk.StatsPool
open Rtdk.Memory Rtdk.CString Rtdk.MqttMessage Rtdk.StatsMessage Rtdk.Runs

abbrev Buffer := Fin LOG_MQTT_BUFFER_COUNT

/-- An application with the records `mqtt_stats` turns away. -/
structure Tool (S : Type) where
  app : App S
  skips : S → Bool

def Ratt.tool : Tool StatsMessage.Ratt.Stats :=
  ⟨StatsMessage.Ratt.app, fun stats => stats.snapshot.maxNs == 0⟩

def Lttt.tool : Tool StatsMessage.Lttt.Stats := ⟨StatsMessage.Lttt.app, fun _ => false⟩

/-- `mqtt_info` with the pool and the ring: the free buffers, those in the ring, oldest
first, what is in them, the message buffer, and what has been given to
`mosquitto_publish` so far. -/
structure MqttInfo (S : Type) where
  free : List Buffer
  ring : List Buffer
  content : Buffer → MqttStatistics S
  message : Mem UInt8
  published : List CStr

/-- A call with what it meets. `ready` is the check at its start. `got` is the buffer that
`rte_mempool_get` finds; one that is not free stands for a failure. `ringFull` and
`accepted` are the answers of `rte_ring_enqueue` and of the `i`-th `mosquitto_publish`. -/
inductive Call (S : Type)
  | stats (ready : Bool) (record : MqttStatistics S) (got : Option Buffer) (ringFull : Bool)
  | addStats (ready : Bool) (accepted : Nat → Bool)

section model
variable {S : Type} (tool : Tool S)

/-- `rte_mempool_get`. -/
def mempoolGet (free : List Buffer) (got : Option Buffer) : Option Buffer :=
  got.filter fun b => b ∈ free

/-- `mqtt_stats`; the record has the time of the call. -/
def mqttStats (s : MqttInfo S) (ready : Bool) (record : MqttStatistics S) (got : Option Buffer)
    (ringFull : Bool) : MqttInfo S :=
  if tool.skips record.stats then s
  else if !ready then s
  else
    match mempoolGet s.free got with
    | none => s
    | some b =>
      let s := { s with
        free := s.free.erase b
        content := Function.update s.content b record }
      if ringFull then s else { s with ring := s.ring ++ [b] }

/-- The loop of `mqtt_add_stats` from the `i`-th buffer on, and whether it gets to its
end. -/
def publishAll (accepted : Nat → Bool) (s : MqttInfo S) (i : Nat) :
    List Buffer → MqttInfo S × Bool
  | [] => (s, true)
  | b :: buffs =>
    let message := statsMessage tool.app s.message (s.content b)
    let s := { s with message := message, published := s.published ++ [published message] }
    if accepted i then publishAll accepted s (i + 1) buffs else (s, false)

/-- `mqtt_add_stats` and its result. -/
def mqttAddStats (s : MqttInfo S) (ready : Bool) (accepted : Nat → Bool) : MqttInfo S × Int32 :=
  if !ready then (s, 0)
  else
    let buffs := s.ring.take LOG_MQTT_BUFFER_COUNT
    let s := { s with ring := s.ring.drop LOG_MQTT_BUFFER_COUNT }
    if buffs = [] then (s, 0)
    else
      match publishAll tool accepted s 0 buffs with
      | (s, false) => (s, -1)
      | (s, true) => ({ s with free := s.free ++ buffs }, 0)

def step (s : MqttInfo S) : Call S → MqttInfo S
  | .stats ready record got ringFull => mqttStats tool s ready record got ringFull
  | .addStats ready accepted => (mqttAddStats tool s ready accepted).1

/-- The states in front of, between and behind calls. -/
def states (s : MqttInfo S) (calls : List (Call S)) : List (MqttInfo S) :=
  calls.scanl (step tool) s

variable {tool}

/-- All buffers free, as `mqtt_init` leaves the pool. -/
def start (content : Buffer → MqttStatistics S) (message : Mem UInt8) : MqttInfo S :=
  ⟨List.finRange _, [], content, message, []⟩

/-- Buffers that are free or in the ring. -/
def MqttInfo.buffers (s : MqttInfo S) : Nat := s.free.length + s.ring.length

def MqttInfo.Whole (s : MqttInfo S) : Prop := s.buffers = LOG_MQTT_BUFFER_COUNT

/-- The calls that meet an error behind which buffers are not given back: a full ring with a
buffer in hand, or a refusal in the batch. -/
def Loses (tool : Tool S) (s : MqttInfo S) : Call S → Prop
  | .stats ready record got ringFull =>
    tool.skips record.stats = false ∧ ready = true ∧ (∃ b ∈ s.free, got = some b) ∧
      ringFull = true
  | .addStats ready accepted =>
    ready = true ∧ ∃ i < min LOG_MQTT_BUFFER_COUNT s.ring.length, accepted i = false

/-! ## One call -/

theorem mempoolGet_eq_some {free : List Buffer} {got : Option Buffer} {b : Buffer} :
    mempoolGet free got = some b ↔ got = some b ∧ b ∈ free := by
  rw [mempoolGet, Option.filter_eq_some_iff, decide_eq_true_iff]

theorem length_erase_add_one {free : List Buffer} {b : Buffer} (h : b ∈ free) :
    (free.erase b).length + 1 = free.length := by
  have hpos := List.length_pos_of_mem h
  rw [List.length_erase_of_mem h]
  omega

variable (tool) in
/-- What `mqtt_stats` can do. -/
theorem mqttStats_cases (s : MqttInfo S) (ready : Bool) (record : MqttStatistics S)
    (got : Option Buffer) (ringFull : Bool) :
    (mqttStats tool s ready record got ringFull = s ∧
        ¬ Loses tool s (.stats ready record got ringFull)) ∨
      ∃ b ∈ s.free, (mqttStats tool s ready record got ringFull).free = s.free.erase b ∧
        ((ringFull = false ∧ (mqttStats tool s ready record got ringFull).ring = s.ring ++ [b]) ∨
          (Loses tool s (.stats ready record got ringFull) ∧
            (mqttStats tool s ready record got ringFull).ring = s.ring)) := by
  rw [mqttStats]
  split
  · rename_i hskip
    refine .inl ⟨rfl, fun h => ?_⟩
    have hskips := h.1
    rw [hskip] at hskips
    cases hskips
  · rename_i hskip
    split
    · rename_i hready
      refine .inl ⟨rfl, fun h => ?_⟩
      have hyes := h.2.1
      rw [hyes] at hready
      cases hready
    · rename_i hready
      cases hget : mempoolGet s.free got with
      | none =>
        refine .inl ⟨rfl, ?_⟩
        rintro ⟨-, -, ⟨b, hb, hgot⟩, -⟩
        rw [mempoolGet_eq_some.mpr ⟨hgot, hb⟩] at hget
        cases hget
      | some b =>
        obtain ⟨hgot, hb⟩ := mempoolGet_eq_some.mp hget
        refine .inr ⟨b, hb, ?_⟩
        cases ringFull with
        | false => exact ⟨rfl, .inl ⟨rfl, rfl⟩⟩
        | true =>
          exact ⟨rfl, .inr ⟨⟨by simpa using hskip, by simpa using hready, ⟨b, hb, hgot⟩, rfl⟩, rfl⟩⟩

variable (tool) in
/-- Publishing moves no buffers, and gets to the end if nothing is refused. -/
theorem publishAll_spec (accepted : Nat → Bool) (s : MqttInfo S) (i : Nat) (buffs : List Buffer) :
    (publishAll tool accepted s i buffs).1.free = s.free ∧
      (publishAll tool accepted s i buffs).1.ring = s.ring ∧
      ((publishAll tool accepted s i buffs).2 = true ↔ ∀ j < buffs.length, accepted (i + j) = true) := by
  induction buffs generalizing s i with
  | nil => exact ⟨rfl, rfl, by simp [publishAll]⟩
  | cons b buffs ih =>
    rw [publishAll]
    cases hi : accepted i with
    | false =>
      refine ⟨rfl, rfl, ?_⟩
      constructor
      · intro h
        cases h
      · intro h
        have hfirst := h 0 (Nat.succ_pos _)
        rw [Nat.add_zero, hi] at hfirst
        cases hfirst
    | true =>
      obtain ⟨hfree, hring, hall⟩ := ih { s with
        message := statsMessage tool.app s.message (s.content b)
        published := s.published ++
          [published (statsMessage tool.app s.message (s.content b))] } (i + 1)
      refine ⟨hfree, hring, hall.trans ?_⟩
      constructor
      · rintro h (- | j) hj
        · exact hi
        · rw [Nat.add_comm j 1, ← Nat.add_assoc]
          exact h j (Nat.lt_of_succ_lt_succ hj)
      · intro h j hj
        rw [Nat.add_assoc, Nat.add_comm 1 j]
        exact h (j + 1) (Nat.succ_lt_succ hj)

/-- What is published are the texts of the batch, up to the first refusal. -/
theorem publishAll_published (accepted : Nat → Bool) (s : MqttInfo S) (i : Nat)
    (buffs : List Buffer) :
    ∃ k ≤ buffs.length, ((publishAll tool accepted s i buffs).2 = true → k = buffs.length) ∧
      (publishAll tool accepted s i buffs).1.published =
        s.published ++ (buffs.take k).map fun b => tool.app.message (s.content b) := by
  induction buffs generalizing s i with
  | nil => exact ⟨0, Nat.le_refl _, fun _ => rfl, (List.append_nil _).symm⟩
  | cons b buffs ih =>
    rw [publishAll]
    cases hi : accepted i with
    | false =>
      refine ⟨1, Nat.le_add_left 1 _, nofun, ?_⟩
      rw [published_stats]
      rfl
    | true =>
      obtain ⟨k, hk, hall, htexts⟩ := ih { s with
        message := statsMessage tool.app s.message (s.content b)
        published := s.published ++
          [published (statsMessage tool.app s.message (s.content b))] } (i + 1)
      refine ⟨k + 1, Nat.succ_le_succ hk, fun h => congrArg (· + 1) (hall h), ?_⟩
      rw [published_stats, List.append_assoc] at htexts
      rw [if_pos rfl, published_stats, List.take_succ_cons, List.map_cons]
      exact htexts

theorem buffers_mqttStats (s : MqttInfo S) (ready : Bool) (record : MqttStatistics S)
    (got : Option Buffer) (ringFull : Bool) :
    (¬ Loses tool s (.stats ready record got ringFull) →
        (mqttStats tool s ready record got ringFull).buffers = s.buffers) ∧
      (Loses tool s (.stats ready record got ringFull) →
        (mqttStats tool s ready record got ringFull).buffers < s.buffers) := by
  rcases mqttStats_cases tool s ready record got ringFull with
    ⟨heq, hno⟩ | ⟨b, hb, hfree, ⟨hroom, hring⟩ | ⟨hloses, hring⟩⟩
  · rw [heq]
    exact ⟨fun _ => rfl, fun h => absurd h hno⟩
  · have herase := length_erase_add_one hb
    refine ⟨fun _ => ?_, fun h => ?_⟩
    · rw [MqttInfo.buffers, MqttInfo.buffers, hfree, hring, List.length_append,
        List.length_singleton]
      omega
    · rw [hroom] at h
      cases h.2.2.2
  · have herase := length_erase_add_one hb
    refine ⟨fun h => absurd hloses h, fun _ => ?_⟩
    rw [MqttInfo.buffers, MqttInfo.buffers, hfree, hring]
    omega

theorem buffers_mqttAddStats (s : MqttInfo S) (ready : Bool) (accepted : Nat → Bool) :
    (¬ Loses tool s (.addStats ready accepted) →
        (mqttAddStats tool s ready accepted).1.buffers = s.buffers) ∧
      (Loses tool s (.addStats ready accepted) →
        (mqttAddStats tool s ready accepted).1.buffers < s.buffers) := by
  have hcount : (s.ring.take LOG_MQTT_BUFFER_COUNT).length =
      min LOG_MQTT_BUFFER_COUNT s.ring.length := List.length_take
  have hdrop : (s.ring.drop LOG_MQTT_BUFFER_COUNT).length =
      s.ring.length - LOG_MQTT_BUFFER_COUNT := List.length_drop
  cases ready with
  | false => exact ⟨fun _ => rfl, fun h => nomatch h.1⟩
  | true =>
    simp only [mqttAddStats, Bool.not_true, Bool.false_eq_true, if_false]
    split
    · rename_i hnone
      rw [hnone, List.length_nil] at hcount
      refine ⟨fun _ => ?_, ?_⟩
      · show s.free.length + (s.ring.drop LOG_MQTT_BUFFER_COUNT).length = s.buffers
        rw [MqttInfo.buffers, hdrop]
        omega
      · rintro ⟨-, i, hi, -⟩
        omega
    · rename_i hsome
      have hpos := List.length_pos_iff.mpr hsome
      obtain ⟨hfree, hring, hall⟩ := publishAll_spec tool accepted
        { s with ring := s.ring.drop LOG_MQTT_BUFFER_COUNT } 0
        (s.ring.take LOG_MQTT_BUFFER_COUNT)
      generalize publishAll tool accepted { s with ring := s.ring.drop LOG_MQTT_BUFFER_COUNT } 0
        (s.ring.take LOG_MQTT_BUFFER_COUNT) = r at hfree hring hall
      obtain ⟨t, done⟩ := r
      change t.free = s.free at hfree
      change t.ring = s.ring.drop LOG_MQTT_BUFFER_COUNT at hring
      change done = true ↔ _ at hall
      have hloses : Loses tool s (.addStats true accepted) ↔ done = false := by
        rw [← Bool.not_eq_true, hall, hcount, Loses]
        simp [and_assoc]
      have hbuffers : t.buffers + (s.ring.take LOG_MQTT_BUFFER_COUNT).length = s.buffers := by
        rw [MqttInfo.buffers, MqttInfo.buffers, hfree, hring, hdrop]
        omega
      rw [hloses]
      cases done with
      | false =>
        refine ⟨fun h => absurd rfl h, fun _ => ?_⟩
        show t.buffers < s.buffers
        omega
      | true =>
        refine ⟨fun _ => ?_, fun h => nomatch h⟩
        show (t.free ++ s.ring.take LOG_MQTT_BUFFER_COUNT).length + t.ring.length = s.buffers
        rw [List.length_append, ← hbuffers, MqttInfo.buffers]
        omega

theorem buffers_step (s : MqttInfo S) (c : Call S) :
    (¬ Loses tool s c → (step tool s c).buffers = s.buffers) ∧
      (Loses tool s c → (step tool s c).buffers < s.buffers) := by
  cases c with
  | stats ready record got ringFull => exact buffers_mqttStats s ready record got ringFull
  | addStats ready accepted => exact buffers_mqttAddStats s ready accepted

/-! ## Runs -/

theorem whole_start (content : Buffer → MqttStatistics S) (message : Mem UInt8) :
    (start content message).Whole := by
  rw [MqttInfo.Whole, MqttInfo.buffers, start, List.length_finRange, List.length_nil, Nat.add_zero]

/-- **A pool.**  In every run from a full pool, nothing is missing in any state just if no
call meets one of the two errors. -/
theorem states_whole_iff (tool : Tool S) (content : Buffer → MqttStatistics S)
    (message : Mem UInt8) (calls : List (Call S)) :
    (∀ s ∈ states tool (start content message) calls, s.Whole) ↔
      ∀ p ∈ (states tool (start content message) calls).zip calls, ¬ Loses tool p.1 p.2 := by
  have hfull : (start content message).buffers = LOG_MQTT_BUFFER_COUNT := whole_start content message
  have hkept := scanl_kept_iff (g := step tool) (fun s c => (buffers_step s c).1)
    (fun s c => (buffers_step s c).2) (start content message) calls
  rw [hfull] at hkept
  exact hkept

/-- The rings of both applications have room for all buffers of their pools. -/
theorem ring_length_le (tool : Tool S) (content : Buffer → MqttStatistics S)
    (message : Mem UInt8) (calls : List (Call S)) :
    ∀ s ∈ states tool (start content message) calls, s.ring.length ≤ LOG_MQTT_BUFFER_COUNT := by
  have hfull : (start content message).buffers = LOG_MQTT_BUFFER_COUNT := whole_start content message
  have hstep (s : MqttInfo S) (c : Call S) : (step tool s c).buffers ≤ s.buffers := by
    by_cases hloses : Loses tool s c
    · exact Nat.le_of_lt ((buffers_step s c).2 hloses)
    · exact Nat.le_of_eq ((buffers_step s c).1 hloses)
  intro s hs
  have hle := scanl_le hstep (start content message) calls s hs
  rw [hfull, MqttInfo.buffers] at hle
  exact Nat.le_trans (Nat.le_add_left _ _) hle

end model

/-- **Both pools.** -/
theorem pools_whole_iff (message : Mem UInt8)
    (content : Buffer → MqttStatistics StatsMessage.Ratt.Stats)
    (calls : List (Call StatsMessage.Ratt.Stats))
    (content' : Buffer → MqttStatistics StatsMessage.Lttt.Stats)
    (calls' : List (Call StatsMessage.Lttt.Stats)) :
    ((∀ s ∈ states Ratt.tool (start content message) calls, s.Whole) ↔
        ∀ p ∈ (states Ratt.tool (start content message) calls).zip calls,
          ¬ Loses Ratt.tool p.1 p.2) ∧
      ((∀ s ∈ states Lttt.tool (start content' message) calls', s.Whole) ↔
        ∀ p ∈ (states Lttt.tool (start content' message) calls').zip calls',
          ¬ Loses Lttt.tool p.1 p.2) :=
  ⟨states_whole_iff Ratt.tool content message calls,
    states_whole_iff Lttt.tool content' message calls'⟩

/-! One record, which the broker refuses. -/

def oneRecord : MqttStatistics StatsMessage.Ratt.Stats :=
  ⟨1746903329812009200,
    { (default : StatsMessage.Ratt.Stats) with snapshot := ⟨1, 1, 1, 1, 1⟩ }, default⟩

def refusedCalls : List (Call StatsMessage.Ratt.Stats) :=
  [.stats true oneRecord (some ⟨0, by decide⟩) false, .addStats true fun _ => false]

def recordQueued : MqttInfo StatsMessage.Ratt.Stats :=
  step Ratt.tool (start (fun _ => oneRecord) fun _ => 0)
    (.stats true oneRecord (some ⟨0, by decide⟩) false)

theorem recordQueued_ring : recordQueued.ring.length = 1 := by
  have hget : mempoolGet (List.finRange LOG_MQTT_BUFFER_COUNT) (some ⟨0, by decide⟩) =
      some ⟨0, by decide⟩ := mempoolGet_eq_some.mpr ⟨rfl, List.mem_finRange _⟩
  have hskip : Ratt.tool.skips oneRecord.stats = false := rfl
  simp [recordQueued, step, mqttStats, start, hskip, hget]

theorem refused_record_lost :
    ∃ s ∈ states Ratt.tool (start (fun _ => oneRecord) fun _ => 0) refusedCalls, ¬ s.Whole := by
  by_contra hno
  have hwhole : ∀ s ∈ states Ratt.tool (start (fun _ => oneRecord) fun _ => 0) refusedCalls,
      s.Whole := fun s hs => by_contra fun h => hno ⟨s, hs, h⟩
  have hkept := (states_whole_iff Ratt.tool _ _ refusedCalls).mp hwhole
  have hring : 0 < min LOG_MQTT_BUFFER_COUNT recordQueued.ring.length := by
    rw [recordQueued_ring]
    decide
  exact hkept (recordQueued, .addStats true fun _ => false)
    (List.mem_cons_of_mem _ List.mem_cons_self) ⟨rfl, 0, hring, rfl⟩

end Rtdk.StatsPool
