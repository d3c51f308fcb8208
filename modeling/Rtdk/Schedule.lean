import Rtdk.Ratt
import Rtdk.Lttt

/-! The send schedules of the round-trip tool and of the launch-time tool.

Both add one period to a deadline whenever they send, and never set it from the
clock again. For the round-trip tool the loop of `Rtdk.Ratt` is run here on the
readings of a clock, which say what there is time for; readings for statistics
about the tool itself are left out, the others are in the order in which they
are taken. -/

namespace Rtdk.Schedule
open Rtdk.Ratt

/-! ## The reference loop and the clock -/

/-- A reading of the clock, and what the tool finds right before it: the answer
of a poll of the device, whether there are mbufs, which packets of a burst will
come back, and whether it is still running. -/
structure Tick where
  now : UInt64
  nbRx : Nat
  mbufs : Bool
  back : List Bool
  running : Bool
  deriving DecidableEq, Repr

def Nondecreasing (ticks : List Tick) : Prop := ticks.Pairwise fun t t' => t.now ≤ t'.now

/-- What a loop that polls the device leaves behind: how many packets are still
wanted, the wire, the answers of its polls, its readings of the clock, and what
comes next. -/
structure Polled where
  toRecv : Nat
  wire : List Pkt
  polls : List Nat
  readings : List UInt64
  rest : List Tick
  deriving DecidableEq, Repr

/-- `do { ... } while (clock_get_ns() < end_ns)`. A complete burst leaves it by
`goto process_packets`, without another look at the clock. -/
def pollUntil (endNs : UInt64) : Nat → List Pkt → List Tick → Polled
  | toRecv, wire, [] => ⟨toRecv, wire, [], [], []⟩
  | toRecv, wire, t :: ts =>
    let nbRx := (wire.take (min t.nbRx toRecv)).length
    let toRecv := toRecv - nbRx
    let wire := wire.drop nbRx
    if nbRx ≠ 0 ∧ toRecv = 0 then ⟨0, wire, [t.nbRx], [], t :: ts⟩
    else if t.now < endNs then
      let more := pollUntil endNs toRecv wire ts
      { more with polls := t.nbRx :: more.polls, readings := t.now :: more.readings }
    else ⟨toRecv, wire, [t.nbRx], [t.now], ts⟩

/-- The polling of one `rx_timestamping`: what it finds, the readings of its two
loops, and what comes next. -/
structure Received where
  rx : RxPoll
  inTime : List UInt64
  extraTime : List UInt64
  rest : List Tick

def rxPolls (info : Info) (endCycleNs : UInt64) (wire : List Pkt) (ticks : List Tick) : Received :=
  let first := pollUntil endCycleNs info.burstCount.toNat wire ticks
  let second :=
    if first.toRecv = 0 then ⟨0, first.wire, [], [], first.rest⟩
    else pollUntil (endCycleNs + info.cycleTimeNs / 4) first.toRecv first.wire first.rest
  let running := (second.rest.head?.map Tick.running).getD false
  let processes := second.toRecv = 0 ∨ (running ∧ second.toRecv ≠ info.burstCount.toNat)
  { rx :=
      { inTime := first.polls
        extraTime := second.polls
        running := running
        currNs := (second.rest.head?.map Tick.now).getD 0 }
    inTime := first.readings
    extraTime := second.readings
    rest := if processes then second.rest.drop 1 else second.rest }

/-- A burst: the reading that found it due, the next deadline, and the readings
of the two loops that then waited for it. -/
structure Burst where
  readNs : UInt64
  endCycleNs : UInt64
  inTime : List UInt64
  extraTime : List UInt64
  deriving DecidableEq, Repr

/-- The tool, with `lcore->end_cycle_ns` and the readings still to come. -/
structure Clocked where
  run : Run
  endCycleNs : UInt64
  bursts : List Burst
  ticks : List Tick
  exited : Bool

/-- A turn of the loop of `reference_routine`. Readings that end before the burst
is stamped leave the turn out. -/
def turn (info : Info) (s : Clocked) : Clocked :=
  if s.exited then s
  else
    match s.ticks with
    | [] => s
    | t :: ts =>
      if !t.running then { s with exited := true }
      else if t.now ≥ s.endCycleNs then
        match ts with
        | [] => { s with ticks := [] }
        | t1 :: ts =>
          let endCycleNs := s.endCycleNs + info.cycleTimeNs
          let burst := burstPkts t1.now s.run.lcore.txId s.run.sent info.burstCount.toNat
          let got := rxPolls info endCycleNs (s.run.wire ++ survivors t1.back burst) ts
          match step info s.run ⟨t1.mbufs, t1.now, t1.back, got.rx⟩ with
          | none => { s with endCycleNs, ticks := ts, exited := true }
          | some run =>
            { run, endCycleNs
              bursts := s.bursts ++ [⟨t.now, endCycleNs, got.inTime, got.extraTime⟩]
              ticks := got.rest
              exited := false }
      else { s with ticks := ts }

/-- The tool after `n` turns, from the reading `startNs` at which it entered the loop. -/
def referenceRoutine (info : Info) (stats : Stats) (startNs : UInt64) (ticks : List Tick) :
    Nat → Clocked
  | 0 => ⟨start info stats, startNs, [], ticks, false⟩
  | n + 1 => turn info (referenceRoutine info stats startNs ticks n)

/-! ## One reception -/

/-- What a polling loop reads: the clock, in order, and nothing more once a
reading has reached the end. -/
structure Polls (endNs : UInt64) (ticks : List Tick) (r : Polled) : Prop where
  split : ∃ used, ticks = used ++ r.rest ∧ r.readings = used.map Tick.now
  stops : ∀ x ∈ r.readings.dropLast, x < endNs

theorem pollUntil_polls (endNs : UInt64) (toRecv : Nat) (wire : List Pkt) (ticks : List Tick) :
    Polls endNs ticks (pollUntil endNs toRecv wire ticks) := by
  induction ticks generalizing toRecv wire with
  | nil => exact ⟨⟨[], rfl, rfl⟩, fun x hx => (nomatch hx)⟩
  | cons t ts ih =>
    rw [pollUntil]
    simp only
    split
    · exact ⟨⟨[], rfl, rfl⟩, fun x hx => (nomatch hx)⟩
    · split
      · rename_i hlt
        obtain ⟨⟨used, hsplit, hread⟩, hstops⟩ :=
          ih (toRecv - (wire.take (min t.nbRx toRecv)).length)
            (wire.drop (wire.take (min t.nbRx toRecv)).length)
        refine ⟨⟨t :: used, by rw [List.cons_append, ← hsplit], by rw [List.map_cons, ← hread]⟩, ?_⟩
        intro x hx
        cases hmore : (pollUntil endNs (toRecv - (wire.take (min t.nbRx toRecv)).length)
            (wire.drop (wire.take (min t.nbRx toRecv)).length) ts).readings with
        | nil =>
          simp only [hmore, List.dropLast_singleton] at hx
          cases hx
        | cons y ys =>
          rw [hmore] at hstops
          simp only [hmore, List.dropLast_cons_cons] at hx
          rcases List.mem_cons.mp hx with rfl | hx
          · exact hlt
          · exact hstops x hx
      · exact ⟨⟨[t], rfl, rfl⟩, fun x hx => (nomatch hx)⟩

/-- The two loops after a burst: the first reads up to the deadline, the second up
to a quarter of a cycle later. -/
structure Waits (info : Info) (endCycleNs : UInt64) (inTime extraTime : List UInt64) : Prop where
  waits : ∀ x ∈ inTime.dropLast, x < endCycleNs
  retries : ∀ x ∈ extraTime.dropLast, x < endCycleNs + info.cycleTimeNs / 4
  sorted : (inTime ++ extraTime).Pairwise (· ≤ ·)

theorem rxPolls_waits (info : Info) (endCycleNs : UInt64) (wire : List Pkt) {ticks : List Tick}
    (h : Nondecreasing ticks) :
    Waits info endCycleNs (rxPolls info endCycleNs wire ticks).inTime
        (rxPolls info endCycleNs wire ticks).extraTime ∧
      ∃ used, ticks = used ++ (rxPolls info endCycleNs wire ticks).rest := by
  obtain ⟨⟨used, hsplit, hread⟩, hstops⟩ :=
    pollUntil_polls endCycleNs info.burstCount.toNat wire ticks
  have hsecond : ∀ first : Polled, ∃ second : Polled,
      (second = if first.toRecv = 0 then ⟨0, first.wire, [], [], first.rest⟩
        else pollUntil (endCycleNs + info.cycleTimeNs / 4) first.toRecv first.wire first.rest) ∧
      Polls (endCycleNs + info.cycleTimeNs / 4) first.rest second := by
    intro first
    refine ⟨_, rfl, ?_⟩
    split
    · exact ⟨⟨[], rfl, rfl⟩, fun x hx => (nomatch hx)⟩
    · exact pollUntil_polls _ _ _ _
  obtain ⟨second, hdef, ⟨used', hsplit', hread'⟩, hstops'⟩ :=
    hsecond (pollUntil endCycleNs info.burstCount.toNat wire ticks)
  simp only [rxPolls, ← hdef]
  refine ⟨⟨hstops, hstops', ?_⟩, ?_⟩
  · rw [hread, hread', ← List.map_append, List.pairwise_map]
    rw [hsplit, hsplit', ← List.append_assoc] at h
    exact (List.pairwise_append.mp h).1
  · split
    · refine ⟨used ++ used' ++ second.rest.take 1, ?_⟩
      rw [List.append_assoc, List.take_append_drop, List.append_assoc, ← hsplit', ← hsplit]
    · exact ⟨used ++ used', by rw [List.append_assoc, ← hsplit', ← hsplit]⟩

/-- Once a reading has reached the end of both loops, there is at most one more,
and only if that reading ended the first loop. -/
theorem Waits.stops {info : Info} {endCycleNs : UInt64} {inTime extraTime : List UInt64}
    (h : Waits info endCycleNs inTime extraTime)
    (hquarter : endCycleNs ≤ endCycleNs + info.cycleTimeNs / 4) {i : Nat} {r : UInt64}
    (hi : (inTime ++ extraTime)[i]? = some r) (hr : endCycleNs + info.cycleTimeNs / 4 ≤ r) :
    (inTime ++ extraTime).length = i + 1 ∨
      (inTime.length = i + 1 ∧ (inTime ++ extraTime).length = i + 2) := by
  have hlt : i < (inTime ++ extraTime).length := (List.getElem?_eq_some_iff.mp hi).1
  rw [List.length_append] at hlt ⊢
  by_cases hfirst : i < inTime.length
  · rw [List.getElem?_append_left hfirst] at hi
    by_cases hlast : i + 1 = inTime.length
    · have hextra : extraTime.dropLast = [] := by
        apply List.eq_nil_iff_forall_not_mem.mpr
        intro x hx
        have hmem : r ∈ inTime := List.mem_of_getElem? hi
        have hle := (List.pairwise_append.mp h.sorted).2.2 r hmem x (List.mem_of_mem_dropLast hx)
        exact UInt64.not_le.mpr (h.retries x hx) (UInt64.le_trans hr hle)
      have hlen := congrArg List.length hextra
      rw [List.length_dropLast, List.length_nil] at hlen
      omega
    · have hdrop : inTime.dropLast[i]? = some r := by
        rw [List.getElem?_dropLast, if_pos (by omega)]
        exact hi
      exact absurd (UInt64.le_trans hquarter hr)
        (UInt64.not_le.mpr (h.waits r (List.mem_of_getElem? hdrop)))
  · rw [List.getElem?_append_right (by omega)] at hi
    by_cases hlast : i - inTime.length + 1 = extraTime.length
    · omega
    · have hdrop : extraTime.dropLast[i - inTime.length]? = some r := by
        rw [List.getElem?_dropLast, if_pos (by omega)]
        exact hi
      exact absurd hr (UInt64.not_le.mpr (h.retries r (List.mem_of_getElem? hdrop)))

/-! ## The run -/

/-- Where the deadlines are, modulo `2^64`: the `k`-th burst went out at or behind
the `k`-th deadline, and the next one is a cycle later. -/
structure OnGrid (info : Info) (s : UInt64) (st : Clocked) : Prop where
  deadline : st.exited = false →
    st.endCycleNs = s + UInt64.ofNat st.bursts.length * info.cycleTimeNs
  bursts : ∀ (k : Nat) (b : Burst), st.bursts[k]? = some b →
    s + UInt64.ofNat k * info.cycleTimeNs ≤ b.readNs ∧
      b.endCycleNs = s + UInt64.ofNat (k + 1) * info.cycleTimeNs ∧
      Waits info b.endCycleNs b.inTime b.extraTime
  sorted : Nondecreasing st.ticks

theorem next_deadline (s c : UInt64) (k : Nat) :
    s + UInt64.ofNat k * c + c = s + UInt64.ofNat (k + 1) * c := by
  rw [UInt64.ofNat_add, UInt64.add_mul, UInt64.add_assoc]
  congr 2
  exact (UInt64.one_mul c).symm

/-- **One turn.** -/
theorem OnGrid.turn {info : Info} {s : UInt64} {st : Clocked} (h : OnGrid info s st) :
    OnGrid info s (turn info st) := by
  unfold Schedule.turn
  cases hexit : st.exited with
  | true =>
    simp only [if_true]
    exact h
  | false =>
    simp only [Bool.false_eq_true, if_false]
    have hsorted := h.sorted
    cases hticks : st.ticks with
    | nil => exact h
    | cons t ts =>
      rw [hticks] at hsorted
      have hrest : Nondecreasing ts := (List.pairwise_cons.mp hsorted).2
      simp only
      split
      · exact ⟨fun hx => (nomatch hx), h.bursts, hsorted⟩
      · split
        · rename_i hdue
          cases ts with
          | nil => exact ⟨fun _ => h.deadline hexit, h.bursts, List.Pairwise.nil⟩
          | cons t1 ts =>
            have hrest1 : Nondecreasing ts := (List.pairwise_cons.mp hrest).2
            simp only
            split
            · exact ⟨fun hx => (nomatch hx), h.bursts, hrest1⟩
            · obtain ⟨hwaits, used, hused⟩ := rxPolls_waits info (st.endCycleNs + info.cycleTimeNs)
                (st.run.wire ++ survivors t1.back
                  (burstPkts t1.now st.run.lcore.txId st.run.sent info.burstCount.toNat)) hrest1
              have hgrid := h.deadline hexit
              refine ⟨fun _ => ?_, fun k b hb => ?_, ?_⟩
              · rw [List.length_append, List.length_singleton, hgrid]
                exact next_deadline _ _ _
              · rcases Nat.lt_trichotomy k st.bursts.length with hk | hk | hk
                · rw [List.getElem?_append_left hk] at hb
                  exact h.bursts k b hb
                · subst hk
                  rw [List.getElem?_append_right (Nat.le_refl _), Nat.sub_self] at hb
                  cases hb
                  exact ⟨by rw [← hgrid]; exact hdue, by rw [hgrid]; exact next_deadline _ _ _,
                    hwaits⟩
                · rw [List.getElem?_eq_none (by simp; omega)] at hb
                  cases hb
              · rw [hused] at hrest1
                exact (List.pairwise_append.mp hrest1).2.1
        · exact ⟨fun _ => h.deadline hexit, h.bursts, hrest⟩

/-- **A run of any number of turns.** -/
theorem referenceRoutine_onGrid (info : Info) (stats : Stats) (startNs : UInt64)
    {ticks : List Tick} (h : Nondecreasing ticks) (n : Nat) :
    OnGrid info startNs (referenceRoutine info stats startNs ticks n) := by
  induction n with
  | zero =>
    refine ⟨fun _ => ?_, fun k b hb => (nomatch hb), h⟩
    show startNs = startNs + UInt64.ofNat 0 * info.cycleTimeNs
    simp
  | succ n ih => exact ih.turn

theorem toNat_grid {s c : UInt64} {k : Nat} (h : s.toNat + k * c.toNat < 2 ^ 64) :
    (s + UInt64.ofNat k * c).toNat = s.toNat + k * c.toNat := by
  rw [UInt64.toNat_add, UInt64.toNat_mul, UInt64.toNat_ofNat', Nat.add_mod_mod, Nat.add_mod,
    Nat.mod_mul_mod, ← Nat.add_mod, Nat.mod_eq_of_lt h]

/-- The schedule of the round-trip tool, with cycles of `c` from `s` on. -/
structure OnTime (info : Info) (s : Nat) (st : Clocked) : Prop where
  /-- Burst `k` is sent at or after its deadline, whatever the ones before it took. -/
  bursts : ∀ (k : Nat) (b : Burst), st.bursts[k]? = some b →
    s + k * info.cycleTimeNs.toNat ≤ b.readNs.toNat ∧
      b.endCycleNs.toNat = s + (k + 1) * info.cycleTimeNs.toNat
  /-- Once a reading has reached the next deadline and a quarter of a cycle, the
  device is polled at most once more. -/
  waits : ∀ (k : Nat) (b : Burst), st.bursts[k]? = some b →
    ∀ (i : Nat) (r : UInt64), (b.inTime ++ b.extraTime)[i]? = some r →
      s + (k + 1) * info.cycleTimeNs.toNat + info.cycleTimeNs.toNat / 4 ≤ r.toNat →
      (b.inTime ++ b.extraTime).length = i + 1 ∨
        (b.inTime.length = i + 1 ∧ (b.inTime ++ b.extraTime).length = i + 2)
  deadline : st.exited = false →
    st.endCycleNs.toNat = s + st.bursts.length * info.cycleTimeNs.toNat
  /-- The next turn sends just when its reading has reached the next deadline. -/
  prompt : ∀ (t t1 : Tick) (ts : List Tick), st.exited = false → st.ticks = t :: t1 :: ts →
    t.running = true → t1.mbufs = true →
    ((turn info st).bursts.length = st.bursts.length + 1 ↔
      s + st.bursts.length * info.cycleTimeNs.toNat ≤ t.now.toNat)

theorem turn_sends_iff {info : Info} {st : Clocked} {t t1 : Tick} {ts : List Tick}
    (hexit : st.exited = false) (hticks : st.ticks = t :: t1 :: ts) (hrun : t.running = true)
    (hmbufs : t1.mbufs = true) :
    (turn info st).bursts.length = st.bursts.length + 1 ↔ st.endCycleNs ≤ t.now := by
  unfold turn
  simp only [hexit, hticks, hrun, Bool.false_eq_true, if_false, Bool.not_true]
  by_cases hdue : t.now ≥ st.endCycleNs
  · simp only [if_pos hdue, step, txTimestamping, hmbufs, if_true, Option.map_some,
      List.length_append, List.length_singleton, true_iff]
    exact hdue
  · rw [if_neg hdue]
    exact ⟨fun h => absurd h (by simp), fun h => absurd h hdue⟩

theorem OnGrid.onTime {info : Info} {s : UInt64} {st : Clocked} (h : OnGrid info s st)
    (hsum : s.toNat + st.bursts.length * info.cycleTimeNs.toNat + info.cycleTimeNs.toNat / 4 <
      2 ^ 64) : OnTime info s.toNat st := by
  have hgrid {k : Nat} (hk : k ≤ st.bursts.length) :
      (s + UInt64.ofNat k * info.cycleTimeNs).toNat = s.toNat + k * info.cycleTimeNs.toNat ∧
        s.toNat + k * info.cycleTimeNs.toNat + info.cycleTimeNs.toNat / 4 < 2 ^ 64 := by
    have hmul := Nat.mul_le_mul_right info.cycleTimeNs.toNat hk
    exact ⟨toNat_grid (by omega), by omega⟩
  have hlen {k : Nat} {b : Burst} (hb : st.bursts[k]? = some b) : k < st.bursts.length :=
    (List.getElem?_eq_some_iff.mp hb).1
  have hdeadline (hexit : st.exited = false) := congrArg UInt64.toNat (h.deadline hexit)
  rw [(hgrid (Nat.le_refl _)).1] at hdeadline
  refine ⟨fun k b hb => ?_, fun k b hb i r hi hr => ?_, hdeadline, ?_⟩
  · obtain ⟨hread, hend, -⟩ := h.bursts k b hb
    rw [UInt64.le_iff_toNat_le, (hgrid (Nat.le_of_lt (hlen hb))).1] at hread
    exact ⟨hread, by rw [hend, (hgrid (hlen hb)).1]⟩
  · obtain ⟨-, hend, hwaits⟩ := h.bursts k b hb
    have hquarter : (b.endCycleNs + info.cycleTimeNs / 4).toNat =
        s.toNat + (k + 1) * info.cycleTimeNs.toNat + info.cycleTimeNs.toNat / 4 := by
      rw [UInt64.toNat_add, UInt64.toNat_div, hend, (hgrid (hlen hb)).1]
      exact Nat.mod_eq_of_lt (hgrid (hlen hb)).2
    refine hwaits.stops ?_ hi (by rw [UInt64.le_iff_toNat_le, hquarter]; exact hr)
    rw [UInt64.le_iff_toNat_le, hquarter, hend, (hgrid (hlen hb)).1]
    exact Nat.le_add_right _ _
  · intro t t1 ts hexit hticks hrun hmbufs
    rw [turn_sends_iff hexit hticks hrun hmbufs, UInt64.le_iff_toNat_le, hdeadline hexit]

/-! ## The launch-time loop -/

section lttt
variable {m : Nat}

/-- The schedule of the launch-time tool: bursts an interval apart, each sent up to
the offset ahead of its time. -/
structure Launches (info : Lttt.Info) (ad : Igc.IgcAdapter) (s : Nat) (st : Lttt.Lcore m) : Prop where
  threshold : st.exited = false →
    (st.txBeginNs - info.txBurstOffsetNs.toUInt64).toNat =
      s + (st.bursts.length + 1) * info.launchIntervalNs.toNat - info.txBurstOffsetNs.toNat
  /-- A round sends one burst or none, and never one ahead of its threshold. -/
  once : ∀ p : Lttt.Poll, (Lttt.round info ad st p).bursts = st.bursts ∨
    (s + (st.bursts.length + 1) * info.launchIntervalNs.toNat - info.txBurstOffsetNs.toNat ≤
        p.clockNs.toNat ∧
      ∃ b, (Lttt.round info ad st p).bursts = st.bursts ++ [b])
  prompt : ∀ p : Lttt.Poll, st.exited = false → p.mbufs = true →
    ((Lttt.round info ad st p).bursts.length = st.bursts.length + 1 ↔
      s + (st.bursts.length + 1) * info.launchIntervalNs.toNat - info.txBurstOffsetNs.toNat ≤
        p.clockNs.toNat)

/-- What a round of the loop does, by its reading of the clock. -/
theorem round_outcome (info : Lttt.Info) (ad : Igc.IgcAdapter) {st : Lttt.Lcore m} (p : Lttt.Poll)
    (hexit : st.exited = false) :
    if Lttt.due info st.txBeginNs p then
      (Lttt.round info ad st p).txBeginNs = st.txBeginNs + info.launchIntervalNs ∧
        if p.mbufs then
          (Lttt.round info ad st p).exited = false ∧
            ∃ b, (Lttt.round info ad st p).bursts = st.bursts ++ [b]
        else
          (Lttt.round info ad st p).exited = true ∧ (Lttt.round info ad st p).bursts = st.bursts
    else Lttt.round info ad st p = st := by
  unfold Lttt.round
  rw [hexit]
  simp only [Bool.false_eq_true, if_false]
  split
  · cases hmbufs : p.mbufs with
    | false => simp [Lttt.txTimestamping, hmbufs]
    | true => simp [Lttt.txTimestamping, Lttt.sendPackets, hmbufs]
  · rfl

/-- The threshold, modulo `2^64`. -/
def OnPace (info : Lttt.Info) (s : UInt64) (st : Lttt.Lcore m) : Prop :=
  st.exited = false →
    st.txBeginNs = s + UInt64.ofNat (st.bursts.length + 1) * info.launchIntervalNs

theorem OnPace.round {info : Lttt.Info} {s : UInt64} {st : Lttt.Lcore m} (h : OnPace info s st)
    (ad : Igc.IgcAdapter) (p : Lttt.Poll) : OnPace info s (Lttt.round info ad st p) := by
  cases hexit : st.exited with
  | true =>
    have hround : Lttt.round info ad st p = st := if_pos hexit
    rw [hround]
    exact h
  | false =>
    have hout := round_outcome info ad p hexit
    intro hrun
    split at hout
    · obtain ⟨hbegin, hsent⟩ := hout
      split at hsent
      · obtain ⟨-, b, hbursts⟩ := hsent
        rw [hbegin, hbursts, List.length_append, List.length_singleton, h hexit]
        exact next_deadline _ _ _
      · rw [hsent.1] at hrun
        cases hrun
    · rw [hout]
      exact h hexit

theorem rxtxRoutine_onPace (info : Lttt.Info) (ad : Igc.IgcAdapter) (q : Igc.IgcTxQueue m)
    (startNs : UInt64) (polls : List Lttt.Poll) :
    OnPace info startNs (Lttt.rxtxRoutine info ad q startNs polls) := by
  have hrun : ∀ st : Lttt.Lcore m, OnPace info startNs st →
      OnPace info startNs (polls.foldl (Lttt.round info ad) st) := by
    induction polls with
    | nil => exact fun st h => h
    | cons p polls ih => exact fun st h => ih _ (h.round ad p)
  refine hrun _ fun _ => ?_
  show startNs + info.launchIntervalNs = startNs + UInt64.ofNat 1 * info.launchIntervalNs
  rw [UInt64.ofNat_one, UInt64.one_mul]

theorem OnPace.launches {info : Lttt.Info} {s : UInt64} {st : Lttt.Lcore m} (h : OnPace info s st)
    (ad : Igc.IgcAdapter)
    (hoffset : info.txBurstOffsetNs.toNat ≤ s.toNat + info.launchIntervalNs.toNat)
    (hsum : s.toNat + (st.bursts.length + 1) * info.launchIntervalNs.toNat < 2 ^ 64) :
    Launches info ad s.toNat st := by
  have hthreshold : st.exited = false →
      (st.txBeginNs - info.txBurstOffsetNs.toUInt64).toNat =
        s.toNat + (st.bursts.length + 1) * info.launchIntervalNs.toNat -
          info.txBurstOffsetNs.toNat := by
    intro hexit
    have hgrid := toNat_grid hsum
    have hmul : info.launchIntervalNs.toNat ≤
        (st.bursts.length + 1) * info.launchIntervalNs.toNat :=
      Nat.le_mul_of_pos_left _ (Nat.succ_pos _)
    rw [h hexit, UInt64.toNat_sub_of_le, hgrid, UInt32.toNat_toUInt64]
    rw [UInt64.le_iff_toNat_le, hgrid, UInt32.toNat_toUInt64]
    omega
  have hdue (p : Lttt.Poll) (hexit : st.exited = false) : Lttt.due info st.txBeginNs p = true ↔
      s.toNat + (st.bursts.length + 1) * info.launchIntervalNs.toNat -
        info.txBurstOffsetNs.toNat ≤ p.clockNs.toNat := by
    rw [Lttt.due, decide_eq_true_eq, ge_iff_le, UInt64.le_iff_toNat_le, hthreshold hexit]
  refine ⟨hthreshold, fun p => ?_, fun p hexit hmbufs => ?_⟩
  · cases hexit : st.exited with
    | true =>
      have hround : Lttt.round info ad st p = st := if_pos hexit
      exact Or.inl (by rw [hround])
    | false =>
      have hout := round_outcome info ad p hexit
      split at hout
      · rename_i hd
        obtain ⟨-, hsent⟩ := hout
        split at hsent
        · exact Or.inr ⟨(hdue p hexit).mp hd, hsent.2⟩
        · exact Or.inl hsent.2
      · exact Or.inl (by rw [hout])
  · have hout := round_outcome info ad p hexit
    rw [hmbufs, if_pos rfl] at hout
    rw [← hdue p hexit]
    split at hout
    · rename_i hd
      obtain ⟨-, -, b, hbursts⟩ := hout
      rw [hbursts, List.length_append, List.length_singleton]
      exact ⟨fun _ => hd, fun _ => rfl⟩
    · rename_i hd
      rw [hout]
      exact ⟨fun hlen => absurd hlen (by omega), fun hd' => absurd hd' hd⟩

end lttt

/-! ## Both -/

/-- Neither schedule drifts, over any number of turns or rounds. -/
theorem schedules_keep {m : Nat} (info : Info) (stats : Stats) (startNs : UInt64)
    (ticks : List Tick) (hclock : Nondecreasing ticks) (turns : Nat)
    (hsum : startNs.toNat +
      (referenceRoutine info stats startNs ticks turns).bursts.length * info.cycleTimeNs.toNat +
        info.cycleTimeNs.toNat / 4 < 2 ^ 64)
    (launch : Lttt.Info) (ad : Igc.IgcAdapter) (q : Igc.IgcTxQueue m) (startNs' : UInt64)
    (polls : List Lttt.Poll)
    (hoffset : launch.txBurstOffsetNs.toNat ≤ startNs'.toNat + launch.launchIntervalNs.toNat)
    (hsum' : startNs'.toNat +
      ((Lttt.rxtxRoutine launch ad q startNs' polls).bursts.length + 1) *
        launch.launchIntervalNs.toNat < 2 ^ 64) :
    OnTime info startNs.toNat (referenceRoutine info stats startNs ticks turns) ∧
      Launches launch ad startNs'.toNat (Lttt.rxtxRoutine launch ad q startNs' polls) :=
  ⟨(referenceRoutine_onGrid info stats startNs hclock turns).onTime hsum,
    (rxtxRoutine_onPace launch ad q startNs' polls).launches ad hoffset hsum'⟩

/-- One packet each microsecond. -/
def everyUs : Info where
  cycleTimeNs := 1000
  burstCount := 1
  pktSkipCnt := 0

/-- A packet gets lost, and the clock is read two cycles after it was sent. -/
def overrun : List Tick :=
  [⟨5000, 0, true, [], true⟩, ⟨5000, 0, true, [false], true⟩, ⟨7000, 0, true, [], true⟩,
    ⟨7001, 0, true, [], true⟩, ⟨7002, 0, true, [], true⟩, ⟨7003, 0, true, [false], true⟩,
    ⟨7300, 0, true, [], true⟩, ⟨7301, 0, true, [], true⟩, ⟨7302, 0, true, [], true⟩]

def noStats : Stats :=
  ⟨0, 0, 0, 0, 0, 0, ⟨UInt64.ofNat (2 ^ 64 - 1), 0, 0, 0⟩, ⟨UInt64.ofNat (2 ^ 64 - 1), 0, 0, 0⟩,
    ⟨UInt64.ofNat (2 ^ 64 - 1), 0, 0, 0⟩⟩

theorem overrun_nondecreasing : Nondecreasing overrun := by
  unfold Nondecreasing
  decide +kernel

/-- The second burst makes up for the overrun of the first. -/
theorem schedules_keep_overrun :
    OnTime everyUs 5000 (referenceRoutine everyUs noStats 5000 overrun 2) ∧
      Launches Lttt.everyMs ⟨0, 1000000⟩ 0 (Lttt.rxtxRoutine Lttt.everyMs ⟨0, 1000000⟩ Igc.emptyRing 0
        [⟨985000, true, none, ⟨985600, 0⟩⟩, ⟨3000000, true, none, ⟨3000500, 0⟩⟩]) :=
  schedules_keep everyUs noStats 5000 overrun overrun_nondecreasing 2 (by decide +kernel)
    Lttt.everyMs ⟨0, 1000000⟩ Igc.emptyRing 0
    [⟨985000, true, none, ⟨985600, 0⟩⟩, ⟨3000000, true, none, ⟨3000500, 0⟩⟩]
    (by decide +kernel) (by decide +kernel)

/-- The reading 7000 ends the first loop. It is past 6250, where the second loop
is to end, and the device is polled again all the same. -/
theorem rxTimestamping_polls_again :
    ¬ ∀ (info : Info) (stats : Stats) (startNs : UInt64) (ticks : List Tick) (turns : Nat),
      Nondecreasing ticks →
      startNs.toNat +
        (referenceRoutine info stats startNs ticks turns).bursts.length * info.cycleTimeNs.toNat +
          info.cycleTimeNs.toNat / 4 < 2 ^ 64 →
      ∀ (k : Nat) (b : Burst), (referenceRoutine info stats startNs ticks turns).bursts[k]? = some b →
        ∀ (i : Nat) (r : UInt64), (b.inTime ++ b.extraTime)[i]? = some r →
          startNs.toNat + (k + 1) * info.cycleTimeNs.toNat + info.cycleTimeNs.toNat / 4 ≤ r.toNat →
          (b.inTime ++ b.extraTime).length = i + 1 := by
  intro h
  have hbursts : (referenceRoutine everyUs noStats 5000 overrun 1).bursts =
      [⟨5000, 6000, [7000], [7001]⟩] := by
    decide +kernel
  have hlen := h everyUs noStats 5000 overrun 1 overrun_nondecreasing (by decide +kernel) 0
    ⟨5000, 6000, [7000], [7001]⟩ (by rw [hbursts]; rfl) 0 7000 rfl (by decide +kernel)
  exact absurd hlen (by decide)

end Rtdk.Schedule
