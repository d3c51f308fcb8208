import Rtdk.Qbv

/-! The send loop of the launch-time tool, down to the driver.

`rxtx_routine` polls the system clock; when a burst is due, `tx_timestamping`
takes the time of the device and asks the driver to send the burst at that time.
The driver reads the same clock a little later, so the time has passed. -/

namespace Rtdk.Lttt
open Rtdk.Igc

variable {n : Nat}

/-- The settings of the tool, as `parse_args` lets them through. -/
structure Info where
  launchTime : Bool
  launchIntervalNs : UInt64
  txBurstOffsetNs : UInt32
  burstCount : UInt16
  interval_pos : 0 < launchIntervalNs.toNat
  burst_pos : 0 < burstCount.toNat

/-- What one round of the loop finds: the system clock, whether there are mbufs
for a burst, what `rte_eth_read_clock` returns, and the device clock when the
driver handles the first packet. -/
structure Poll where
  clockNs : UInt64
  mbufs : Bool
  deviceClock : Option Systim
  xmitClock : Systim
  deriving DecidableEq, Repr

/-- A submitted burst: the time stamp of each packet that has one, the device
clock when the driver handled the first packet, and its launch time. -/
structure Burst where
  stamps : List (Option UInt64)
  systim : Systim
  launchtime : UInt32
  deriving DecidableEq, Repr

def Burst.txtime (b : Burst) : Option UInt64 := b.stamps.head?.join

structure Lcore (n : Nat) where
  txBeginNs : UInt64
  queue : IgcTxQueue n
  bursts : List Burst
  exited : Bool

/-- The clock of the port, with `eth_igc_read_clock` on the SYSTIM registers. -/
def portClockGetNs : Option Systim → UInt64
  | none => 0
  | some r => r.systime

/-- The time stamps of a burst, or nothing if there are no mbufs. -/
def txTimestamping (info : Info) (p : Poll) : Option (List (Option UInt64)) :=
  if p.mbufs then
    let portNs := if info.launchTime then portClockGetNs p.deviceClock else 0
    some ((List.range info.burstCount.toNat).map fun i =>
      if info.launchTime && i == 0 then some portNs else none)
  else none

/-- The launch time the driver gives to a packet. -/
def xmitLaunchtime (ad : IgcAdapter) (q : IgcTxQueue n) (r : Systim) :
    Option UInt64 → IgcTxQueue n × UInt32
  | none => (q, 0)
  | some txtime =>
    if txtime = 0 then (q, 0)
    else ((igcTxLaunchtime ad q r txtime).queue, (igcTxLaunchtime ad q r txtime).launchtime)

/-- `send_packets`: only the first packet of a burst has a time stamp. -/
def sendPackets (ad : IgcAdapter) (s : Lcore n) (r : Systim) (stamps : List (Option UInt64)) :
    Lcore n :=
  let (queue, launchtime) := xmitLaunchtime ad s.queue r stamps.head?.join
  { s with queue, bursts := s.bursts ++ [⟨stamps, r, launchtime⟩] }

/-- The system clock has reached the time of the next burst. -/
def due (info : Info) (txBeginNs : UInt64) (p : Poll) : Bool :=
  decide (p.clockNs ≥ txBeginNs - info.txBurstOffsetNs.toUInt64)

/-- One round of the loop. A burst without mbufs ends the program. -/
def round (info : Info) (ad : IgcAdapter) (s : Lcore n) (p : Poll) : Lcore n :=
  if s.exited then s
  else if due info s.txBeginNs p then
    let s := { s with txBeginNs := s.txBeginNs + info.launchIntervalNs }
    match txTimestamping info p with
    | none => { s with exited := true }
    | some stamps => sendPackets ad s p.xmitClock stamps
  else s

/-- The loop over what its rounds find, from the first reading of the clock. -/
def rxtxRoutine (info : Info) (ad : IgcAdapter) (q : IgcTxQueue n) (startNs : UInt64)
    (polls : List Poll) : Lcore n :=
  polls.foldl (round info ad) ⟨startNs + info.launchIntervalNs, q, [], false⟩

/-- The readings of the device clock in a round, in the order they are taken. -/
def Poll.readings (p : Poll) : List Systim := p.deviceClock.toList ++ [p.xmitClock]

/-- The device clock does not run backwards. -/
def Advancing (polls : List Poll) : Prop :=
  (polls.flatMap Poll.readings).Pairwise fun r r' => r.systime ≤ r'.systime

/-- Each burst is still to come when the driver handles it, and they are one
interval apart. -/
def TakesEffect (info : Info) (bursts : List Burst) : Prop :=
  (∀ b ∈ bursts, ∃ t, b.txtime = some t ∧ b.systim.systime < t) ∧
    bursts.IsChain fun b b' => ∃ t t', b.txtime = some t ∧ b'.txtime = some t' ∧
      t'.toNat = t.toNat + info.launchIntervalNs.toNat

/-- Each burst is sent before the time its cycle begins. -/
def Prompt (info : Info) : UInt64 → List Poll → Prop
  | _, [] => True
  | txBeginNs, p :: polls =>
    if due info txBeginNs p then
      p.clockNs < txBeginNs ∧ Prompt info (txBeginNs + info.launchIntervalNs) polls
    else Prompt info txBeginNs polls

/-! ## Every burst is late -/

section late
variable {info : Info} {ad : IgcAdapter} {s : Lcore n} {p : Poll}

theorem txTimestamping_head (hlt : info.launchTime = true) (hmbufs : p.mbufs = true) :
    ∃ stamps, txTimestamping info p = some stamps ∧
      stamps.head?.join = some (portClockGetNs p.deviceClock) := by
  obtain ⟨k, hk⟩ := Nat.exists_eq_succ_of_ne_zero (Nat.pos_iff_ne_zero.mp info.burst_pos)
  refine ⟨_, by rw [txTimestamping, if_pos hmbufs], ?_⟩
  simp [hk, hlt, List.range_succ_eq_map]

/-- A burst carries a time that the driver finds in the past. -/
def Late (b : Burst) : Prop := ∃ t, b.txtime = some t ∧ t ≤ b.systim.systime

theorem portClockGetNs_le (h : p.readings.Pairwise fun r r' => r.systime ≤ r'.systime) :
    portClockGetNs p.deviceClock ≤ p.xmitClock.systime := by
  cases hread : p.deviceClock with
  | none => exact UInt64.zero_le
  | some r =>
    rw [Poll.readings, hread] at h
    exact (List.pairwise_cons.mp h).1 _ List.mem_cons_self

theorem sendPackets_bursts (ad : IgcAdapter) (s : Lcore n) (r : Systim) (stamps : List (Option UInt64)) :
    ∃ l, (sendPackets ad s r stamps).bursts = s.bursts ++ [⟨stamps, r, l⟩] :=
  ⟨_, rfl⟩

/-- A round adds a late burst or none. -/
theorem round_bursts (ad : IgcAdapter) (s : Lcore n) (hlt : info.launchTime = true)
    (h : p.readings.Pairwise fun r r' => r.systime ≤ r'.systime) :
    (round info ad s p).bursts = s.bursts ∨
      ∃ b, Late b ∧ (round info ad s p).bursts = s.bursts ++ [b] := by
  unfold round
  split
  · exact Or.inl rfl
  · split
    · cases hmbufs : p.mbufs with
      | false => exact Or.inl (by simp [txTimestamping, hmbufs])
      | true =>
        obtain ⟨stamps, hstamps, hhead⟩ := txTimestamping_head hlt hmbufs
        rw [hstamps]
        obtain ⟨l, hbursts⟩ := sendPackets_bursts ad
          { s with txBeginNs := s.txBeginNs + info.launchIntervalNs } p.xmitClock stamps
        exact Or.inr ⟨⟨stamps, p.xmitClock, l⟩, ⟨_, hhead, portClockGetNs_le h⟩, hbursts⟩
    · exact Or.inl rfl

theorem foldl_bursts (ad : IgcAdapter) (hlt : info.launchTime = true) {polls : List Poll}
    (h : Advancing polls) (s : Lcore n) : ∃ bs, (polls.foldl (round info ad) s).bursts = s.bursts ++ bs ∧
      ∀ b ∈ bs, Late b := by
  induction polls generalizing s with
  | nil => exact ⟨[], by simp⟩
  | cons p polls ih =>
    rw [Advancing, List.flatMap_cons, List.pairwise_append] at h
    obtain ⟨bs, hbs, hlate⟩ := ih h.2.1 (round info ad s p)
    rw [List.foldl_cons]
    rcases round_bursts ad s hlt h.1 with heq | ⟨b, hb, heq⟩
    · exact ⟨bs, by rw [hbs, heq], hlate⟩
    · refine ⟨b :: bs, by rw [hbs, heq, List.append_assoc]; rfl, ?_⟩
      intro x hx
      rcases List.mem_cons.mp hx with rfl | hx
      · exact hb
      · exact hlate x hx

theorem foldl_exited (polls : List Poll) (hexit : s.exited = true) :
    polls.foldl (round info ad) s = s := by
  induction polls with
  | nil => rfl
  | cons p polls ih =>
    have hround : round info ad s p = s := if_pos hexit
    rw [List.foldl_cons, hround, ih]

/-- No burst is sent as long as none is due, and none if there are no mbufs for
the first one. -/
theorem foldl_bursts_eq_nil (ad : IgcAdapter) (hlt : info.launchTime = true) {polls : List Poll}
    (h : Advancing polls) (hexit : s.exited = false) (hnil : s.bursts = []) :
    (polls.foldl (round info ad) s).bursts = [] ↔
      ∀ p, polls.find? (due info s.txBeginNs) = some p → p.mbufs = false := by
  induction polls with
  | nil => simp [hnil]
  | cons p polls ih =>
    have hrest := h
    rw [Advancing, List.flatMap_cons, List.pairwise_append] at hrest
    rw [List.foldl_cons]
    cases hdue : due info s.txBeginNs p with
    | false =>
      have hround : round info ad s p = s := by simp [round, hexit, hdue]
      rw [hround, ih hrest.2.1, List.find?_cons_of_neg (by simp [hdue])]
    | true =>
      rw [List.find?_cons_of_pos hdue]
      cases hmbufs : p.mbufs with
      | false =>
        have hround : round info ad s p =
            { s with txBeginNs := s.txBeginNs + info.launchIntervalNs, exited := true } := by
          simp [round, hexit, hdue, txTimestamping, hmbufs]
        rw [hround, foldl_exited polls rfl]
        simp [hnil, hmbufs]
      | true =>
        obtain ⟨stamps, hstamps, -⟩ := txTimestamping_head hlt hmbufs
        obtain ⟨bs, hbs, -⟩ := foldl_bursts ad hlt hrest.2.1 (round info ad s p)
        have hround : round info ad s p =
            sendPackets ad { s with txBeginNs := s.txBeginNs + info.launchIntervalNs }
              p.xmitClock stamps := by
          simp [round, hexit, hdue, hstamps]
        obtain ⟨l, hbursts⟩ := sendPackets_bursts ad
          { s with txBeginNs := s.txBeginNs + info.launchIntervalNs } p.xmitClock stamps
        rw [hbs, hround, hbursts]
        simp [hmbufs]

end late

/-- The launch times take effect in a run only if the run sends no burst: no
round reads a clock at which the first burst is due, or there are no mbufs
for that burst. -/
theorem takesEffect_iff (info : Info) (hlt : info.launchTime = true) (ad : IgcAdapter)
    (q : IgcTxQueue n) (startNs : UInt64) (polls : List Poll) (h : Advancing polls) :
    TakesEffect info (rxtxRoutine info ad q startNs polls).bursts ↔
      ∀ p, polls.find? (due info (startNs + info.launchIntervalNs)) = some p → p.mbufs = false := by
  have hnone := foldl_bursts_eq_nil ad
    (s := ⟨startNs + info.launchIntervalNs, q, [], false⟩) hlt h rfl rfl
  obtain ⟨bs, hbs, hlate⟩ := foldl_bursts ad hlt h
    ⟨startNs + info.launchIntervalNs, q, [], false⟩
  rw [List.nil_append] at hbs
  rw [← hnone, rxtxRoutine, hbs]
  constructor
  · rintro ⟨hfuture, -⟩
    apply List.eq_nil_iff_forall_not_mem.mpr
    intro b hb
    obtain ⟨t, ht, hlt⟩ := hfuture b hb
    obtain ⟨t', ht', hle⟩ := hlate b hb
    rw [ht] at ht'
    cases ht'
    exact UInt64.not_le.mpr hlt hle
  · rintro rfl
    exact ⟨fun b hb => absurd hb List.not_mem_nil, .nil⟩

/-- One packet each millisecond, sent at most 20 µs ahead. -/
def everyMs : Info where
  launchTime := true
  launchIntervalNs := 1000000
  txBurstOffsetNs := 20000
  burstCount := 1
  interval_pos := by decide
  burst_pos := by decide

theorem takesEffect_iff_early :
    TakesEffect everyMs
      (rxtxRoutine everyMs ⟨0, 1000000⟩ emptyRing 0 [⟨500000, true, none, ⟨500100, 0⟩⟩]).bursts :=
  (takesEffect_iff everyMs rfl ⟨0, 1000000⟩ emptyRing 0 [⟨500000, true, none, ⟨500100, 0⟩⟩]
    (List.pairwise_singleton _ _)).mpr (by
      have hnone : [Poll.mk 500000 true none ⟨500100, 0⟩].find?
          (due everyMs (0 + everyMs.launchIntervalNs)) = none := by
        decide +kernel
      rw [hnone]
      exact fun p hp => nomatch hp)

/-- A burst that is sent 15 µs before its cycle has a time stamp 500 ns old when
the driver handles it, so it is sent at once. -/
theorem takesEffect_not_prompt :
    ¬ ∀ (n : Nat) (info : Info) (ad : IgcAdapter) (q : IgcTxQueue n) (startNs : UInt64)
      (polls : List Poll), info.launchTime = true → Advancing polls →
      Prompt info (startNs + info.launchIntervalNs) polls →
      TakesEffect info (rxtxRoutine info ad q startNs polls).bursts := by
  intro h
  have hrun : (rxtxRoutine everyMs ⟨0, 1000000⟩ emptyRing 0
      [⟨985000, true, some ⟨985100, 0⟩, ⟨985600, 0⟩⟩]).bursts =
        [⟨[some 985100], ⟨985600, 0⟩, 0⟩] := by
    decide +kernel
  have heffect := h 4 everyMs ⟨0, 1000000⟩ emptyRing 0
    [⟨985000, true, some ⟨985100, 0⟩, ⟨985600, 0⟩⟩] rfl
    (by unfold Advancing; decide +kernel) ⟨by decide +kernel, trivial⟩
  rw [hrun] at heffect
  obtain ⟨t, ht, hlt⟩ := heffect.1 _ List.mem_cons_self
  cases ht
  exact absurd hlt (by decide +kernel)

end Rtdk.Lttt
