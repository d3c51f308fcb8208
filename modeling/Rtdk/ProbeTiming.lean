import Rtdk.Cnp

/-! Round trips measured by the client of the network probe.

The client notes the time of its last send in the timer `sw_rtt`, and every
probe carries the time of its own send. A sample is taken from the first. The
network may lose and delay probes as it likes; what comes back carries what was
sent. -/

namespace Rtdk.ProbeTiming
open Rtdk.Memory Rtdk.Endian Rtdk.Accumulator Rtdk.Cnp
open Rtdk.Lport (Mbuf)

/-! ## Runs of the client -/

/-- The probe that was sent as number `probe`, counted from 0, comes back. -/
structure Delivery where
  probe : Nat
  arrival : Arrival

inductive Event
  | tx (p : TxPoll)
  | rx (burst : List Delivery)

/-- A sample added to `sw_rtt`: the probe it was taken for, when that was
received, and what was added. -/
structure Sample where
  probe : Nat
  now : UInt64
  delta : UInt64
deriving DecidableEq, Repr

/-- The port, with the probes sent and the samples taken so far. -/
structure Run where
  lport : Lport
  sent : List Mbuf
  samples : List Sample

/-- What a packet adds to `sw_rtt`. -/
def sampleOf (info : Info) (lport : Lport) (d : Delivery) : List Sample :=
  let startNs := lport.otherStats.swRtt.startNs
  if verdict info lport d.arrival.frame = .accepted ∧ startNs ≠ 0 then
    [{ probe := d.probe, now := d.arrival.now, delta := d.arrival.now - startNs }]
  else []

def rxSamples (info : Info) : Lport → List Delivery → List Sample
  | _, [] => []
  | lport, d :: ds => sampleOf info lport d ++ rxSamples info (rxPacket info lport d.arrival) ds

def arrivals (burst : List Delivery) : List Arrival := burst.map Delivery.arrival

def step (info : Info) (r : Run) : Event → Run
  | .tx p =>
    let (lport, m) := txTimestamping info r.lport p
    { r with lport := lport, sent := r.sent ++ m.toList }
  | .rx burst =>
    { r with
      lport := (rxTimestamping info r.lport (arrivals burst)).lport
      samples := r.samples ++ rxSamples info (countMany r.lport (arrivals burst)) burst }

def run (info : Info) (r : Run) (es : List Event) : Run := es.foldl (step info) r

/-- The client before its first call. -/
def start (srcMac dstMac : List UInt8) : Run :=
  { lport := startPort srcMac dstMac, sent := [], samples := [] }

/-! ## The network -/

/-- The frame that comes back has the EtherType and the probe of the one sent. -/
structure Carries (m frame : Mbuf) : Prop where
  len : ¬ frame.pktLen < probeLen
  bytes : ∀ i, 12 ≤ i → i < 32 → frame.data i = m.data i

def Delivers (sent : List Mbuf) (d : Delivery) : Prop :=
  ∃ m, sent[d.probe]? = some m ∧ Carries m d.arrival.frame

/-- Only what was sent before comes back. -/
def Network (info : Info) : Run → List Event → Prop
  | _, [] => True
  | r, .tx p :: es => Network info (step info r (.tx p)) es
  | r, .rx burst :: es =>
    (∀ d ∈ burst, Delivers r.sent d) ∧ Network info (step info r (.rx burst)) es

/-- The probes that come back, in order. -/
def delivered : List Event → List Nat
  | [] => []
  | .tx _ :: es => delivered es
  | .rx burst :: es => burst.map Delivery.probe ++ delivered es

/-! ## What a sample should be, and when it is -/

/-- The time of reception minus the T1 written into that same probe. -/
def Measures (sent : List Mbuf) (x : Sample) : Prop :=
  ∃ m, sent[x.probe]? = some m ∧ x.delta = x.now - t1 m

structure Sound (r : Run) : Prop where
  measures : ∀ x ∈ r.samples, Measures r.sent x
  once : (r.samples.map Sample.probe).Nodup

/-- The T1 of the last probe sent, 0 when there is none. -/
def lastT1 (sent : List Mbuf) : UInt64 := (sent.getLast?.map t1).getD 0

/-- No probe with another T1 has been sent after this one. (With 0, the reading
of a clock that fails, no sample is taken.) -/
def Prompt (sent : List Mbuf) (d : Delivery) : Prop :=
  lastT1 sent = 0 ∨ ∃ m, sent[d.probe]? = some m ∧ t1 m = lastT1 sent

/-- Of the packets of a burst, those with the number that is expected are prompt. -/
def BurstPrompt (info : Info) (sent : List Mbuf) : Lport → List Delivery → Prop
  | _, [] => True
  | lport, d :: ds =>
    (sequenceNumber d.arrival.frame = lport.rxSequence → Prompt sent d) ∧
      BurstPrompt info sent (rxPacket info lport d.arrival) ds

def AllPrompt (info : Info) : Run → List Event → Prop
  | _, [] => True
  | r, .tx p :: es => AllPrompt info (step info r (.tx p)) es
  | r, .rx burst :: es =>
    BurstPrompt info r.sent (countMany r.lport (arrivals burst)) burst ∧
      AllPrompt info (step info r (.rx burst)) es

/-! ## The timer and the probes sent -/

section tx

variable (info : Info) (lport : Lport) {p : TxPoll}

theorem txHwTimestamp_swRtt (s : Stats) : (txHwTimestamp s p).1.swRtt = s.swRtt := by
  unfold txHwTimestamp
  cases p.txTimestamp with
  | none => rfl
  | some t =>
    simp only
    split <;> rfl

/-- Without an mbuf nothing is sent, and the timer keeps its start. -/
theorem txTimestamping_none (hm : p.mbuf = none) :
    (txTimestamping info lport p).2 = none ∧
      (txTimestamping info lport p).1.otherStats.swRtt = lport.otherStats.swRtt := by
  simp [txTimestamping, hm]

/-- A probe that is sent carries the start of the timer. -/
theorem txTimestamping_some (hsw : info.swTimestamp) {m : Mbuf} (hm : p.mbuf = some m) :
    ∃ f, (txTimestamping info lport p).2 = some f ∧
      t1 f = p.now ∧ read16 f.data 12 = rteEtherType1588 ∧ read16 f.data 16 = theMagic ∧
      (txTimestamping info lport p).1.otherStats.swRtt =
        startStatsTimer lport.otherStats.swRtt p.now := by
  have htype : ∀ data : Mem UInt8, read16 (writeProbe (write (write data 12
      (be16 rteEtherType1588)) 14 [0x0, 0x02]) lport.txSequence p.now) 12 = rteEtherType1588 := by
    intro data
    rw [read16_congr fun i hi => writeProbe_below _ _ _ (12 + i) (by omega),
      read16_write_disjoint _ _ _ _ (.inr (by omega)), read16_write_same]
  cases hhw : info.hwTimestamp with
  | false =>
    simp only [txTimestamping, hm, hsw, if_true, hhw]
    exact ⟨_, rfl, writeProbe_t1 _ _ _, htype _, writeProbe_magic _ _ _, rfl⟩
  | true =>
    simp only [txTimestamping, hm, hsw, if_true, hhw]
    exact ⟨_, rfl, writeProbe_t1 _ _ _, htype _, writeProbe_magic _ _ _, txHwTimestamp_swRtt _⟩

end tx

section rx

variable {info : Info} {lport : Lport}

theorem endStatsTimer_startNs (timer : StatsTimer) (now : UInt64) :
    (endStatsTimer timer now).startNs = timer.startNs := by
  unfold endStatsTimer
  split <;> rfl

/-- No packet starts the timer anew. -/
theorem rxPacket_startNs (a : Arrival) :
    (rxPacket info lport a).otherStats.swRtt.startNs = lport.otherStats.swRtt.startNs := by
  unfold rxPacket
  cases verdict info lport a.frame with
  | accepted =>
    simp only
    split
    · simp only [rxHwTimestamp_swRtt, endStatsTimer_startNs]
    · simp only [rxHwTimestamp_swRtt]
  | _ => rfl

theorem rxLoop_startNs (as : List Arrival) :
    (rxLoop info lport as).1.otherStats.swRtt.startNs = lport.otherStats.swRtt.startNs := by
  induction as generalizing lport with
  | nil => rfl
  | cons a as ih =>
    have hrest : (rxLoop info (rxPacket info lport a) as).1.otherStats.swRtt.startNs = _ := ih
    rw [rxPacket_startNs] at hrest
    exact hrest

theorem rxTimestamping_startNs (burst : List Arrival) :
    (rxTimestamping info lport burst).lport.otherStats.swRtt.startNs =
      lport.otherStats.swRtt.startNs := by
  have hloop : (rxLoop info (countMany lport burst) burst).1.otherStats.swRtt.startNs = _ :=
    rxLoop_startNs burst
  rw [countMany_swRtt] at hloop
  exact hloop

end rx

/-- The timer was started by the last send, and what was sent are probes. -/
structure Inv (r : Run) : Prop where
  timer : r.lport.otherStats.swRtt.startNs = lastT1 r.sent
  probes : ∀ m ∈ r.sent, read16 m.data 12 = rteEtherType1588 ∧ read16 m.data 16 = theMagic

theorem inv_start (srcMac dstMac : List UInt8) : Inv (start srcMac dstMac) :=
  ⟨rfl, by simp [start]⟩

theorem Inv.step {info : Info} {r : Run} (hsw : info.swTimestamp) (h : Inv r) (e : Event) :
    Inv (step info r e) := by
  cases e with
  | tx p =>
    cases hm : p.mbuf with
    | none =>
      obtain ⟨hsent, htimer⟩ := txTimestamping_none info r.lport hm
      constructor
      · simp only [ProbeTiming.step, hsent, htimer, Option.toList_none, List.append_nil, h.timer]
      · simp only [ProbeTiming.step, hsent, Option.toList_none, List.append_nil]
        exact h.probes
    | some m =>
      obtain ⟨f, hsent, ht1, htype, hmagic, htimer⟩ :=
        txTimestamping_some info r.lport hsw hm
      constructor
      · simp [ProbeTiming.step, hsent, htimer, startStatsTimer, lastT1, ht1]
      · intro x hx
        simp only [ProbeTiming.step, hsent, Option.toList_some, List.mem_append,
          List.mem_singleton] at hx
        rcases hx with hx | rfl
        · exact h.probes x hx
        · exact ⟨htype, hmagic⟩
  | rx burst =>
    constructor
    · simp only [ProbeTiming.step, rxTimestamping_startNs, h.timer]
    · exact h.probes

/-! ## One packet -/

section packet

variable {info : Info} {lport : Lport} {sent final : List Mbuf} {d : Delivery}

theorem valid_of_delivers (hd : Delivers sent d)
    (hprobes : ∀ m ∈ sent, read16 m.data 12 = rteEtherType1588 ∧ read16 m.data 16 = theMagic) :
    ValidProbe d.arrival.frame := by
  obtain ⟨m, hm, hcarries⟩ := hd
  obtain ⟨htype, hmagic⟩ := hprobes m (List.mem_of_getElem? hm)
  refine ⟨hcarries.len, ?_, ?_⟩
  · rw [← htype]
    exact read16_congr fun i hi => hcarries.bytes (12 + i) (by omega) (by omega)
  · rw [← hmagic]
    exact read16_congr fun i hi => hcarries.bytes (16 + i) (by omega) (by omega)

theorem verdict_accepted_iff (lport : Lport) (hsw : info.swTimestamp) (hv : ValidProbe d.arrival.frame) :
    verdict info lport d.arrival.frame = .accepted ↔
      sequenceNumber d.arrival.frame = lport.rxSequence := by
  rw [verdict_probe hsw hv]
  by_cases hs : sequenceNumber d.arrival.frame = lport.rxSequence <;> simp [hs, verdictOf]

theorem getElem?_of_prefix (hpre : sent <+: final) {k : Nat} {m : Mbuf}
    (hm : sent[k]? = some m) : final[k]? = some m := by
  obtain ⟨later, rfl⟩ := hpre
  obtain ⟨hk, -⟩ := List.getElem?_eq_some_iff.mp hm
  rw [List.getElem?_append_left hk]
  exact hm

/-- A packet that is timed measures its own probe just when that is prompt. -/
theorem measures_sampleOf_iff (hsw : info.swTimestamp) (hd : Delivers sent d)
    (hprobes : ∀ m ∈ sent, read16 m.data 12 = rteEtherType1588 ∧ read16 m.data 16 = theMagic)
    (htimer : lport.otherStats.swRtt.startNs = lastT1 sent) (hpre : sent <+: final) :
    (∀ x ∈ sampleOf info lport d, Measures final x) ↔
      (sequenceNumber d.arrival.frame = lport.rxSequence → Prompt sent d) := by
  have haccepted := verdict_accepted_iff lport hsw (valid_of_delivers hd hprobes)
  obtain ⟨m, hm, -⟩ := hd
  have hfinal := getElem?_of_prefix hpre hm
  simp only [sampleOf, haccepted, htimer]
  by_cases hs : sequenceNumber d.arrival.frame = lport.rxSequence
  · by_cases hzero : lastT1 sent = 0
    · simp [hs, hzero, Prompt]
    · have hmeasures : Measures final
          { probe := d.probe, now := d.arrival.now, delta := d.arrival.now - lastT1 sent } ↔
            t1 m = lastT1 sent := by
        simp only [Measures, hfinal, Option.some.injEq, exists_eq_left', UInt64.sub_right_inj]
        exact eq_comm
      simp [hs, hzero, Prompt, hm, hmeasures]
  · simp [hs]

end packet

/-! ## Bursts and runs -/

section runs

variable {info : Info} {sent final : List Mbuf}

theorem measures_rxSamples_iff (hsw : info.swTimestamp)
    (hprobes : ∀ m ∈ sent, read16 m.data 12 = rteEtherType1588 ∧ read16 m.data 16 = theMagic)
    (hpre : sent <+: final) (lport : Lport) (ds : List Delivery)
    (htimer : lport.otherStats.swRtt.startNs = lastT1 sent) (hd : ∀ d ∈ ds, Delivers sent d) :
    (∀ x ∈ rxSamples info lport ds, Measures final x) ↔ BurstPrompt info sent lport ds := by
  induction ds generalizing lport with
  | nil => simp [rxSamples, BurstPrompt]
  | cons d ds ih =>
    have hhead := measures_sampleOf_iff hsw (hd d List.mem_cons_self) hprobes htimer hpre
    have htail := ih (rxPacket info lport d.arrival) (by rw [rxPacket_startNs, htimer])
      fun b hb => hd b (List.mem_cons_of_mem d hb)
    rw [rxSamples, BurstPrompt, List.forall_mem_append, hhead, htail]

theorem sent_step (r : Run) (e : Event) : r.sent <+: (step info r e).sent := by
  cases e with
  | tx p => exact List.prefix_append _ _
  | rx burst => exact List.prefix_refl _

theorem sent_run (r : Run) (es : List Event) : r.sent <+: (run info r es).sent := by
  induction es generalizing r with
  | nil => exact List.prefix_refl _
  | cons e es ih => exact (sent_step r e).trans (ih (step info r e))

/-- All samples of a run measure their probes just when all packets that are
timed are prompt. -/
theorem measures_run_iff (hsw : info.swTimestamp) (r : Run) (es : List Event) (hinv : Inv r)
    (hnet : Network info r es) :
    (∀ x ∈ (run info r es).samples, Measures (run info r es).sent x) ↔
      (∀ x ∈ r.samples, Measures (run info r es).sent x) ∧ AllPrompt info r es := by
  induction es generalizing r with
  | nil => simp [run, AllPrompt]
  | cons e es ih =>
    rw [run, List.foldl_cons, ← run]
    cases e with
    | tx p => exact ih (step info r (.tx p)) (hinv.step hsw _) hnet
    | rx burst =>
      obtain ⟨hd, hrest⟩ := hnet
      have hpre : r.sent <+: (run info (step info r (.rx burst)) es).sent :=
        (sent_step r (.rx burst)).trans (sent_run _ es)
      have hburst := measures_rxSamples_iff hsw hinv.probes hpre
        (countMany r.lport (arrivals burst)) burst (by rw [countMany_swRtt, hinv.timer]) hd
      have hsamples : (step info r (.rx burst)).samples =
        r.samples ++ rxSamples info (countMany r.lport (arrivals burst)) burst := rfl
      rw [ih (step info r (.rx burst)) (hinv.step hsw _) hrest, hsamples, List.forall_mem_append,
        hburst, AllPrompt, and_assoc]

/-! A probe that comes back once is timed at most once. -/

theorem sampleOf_probes (lport : Lport) (d : Delivery) :
    ((sampleOf info lport d).map Sample.probe).Sublist [d.probe] := by
  simp only [sampleOf]
  split <;> simp

theorem rxSamples_probes (lport : Lport) (ds : List Delivery) :
    ((rxSamples info lport ds).map Sample.probe).Sublist (ds.map Delivery.probe) := by
  induction ds generalizing lport with
  | nil => exact List.Sublist.refl _
  | cons d ds ih =>
    rw [rxSamples, List.map_append]
    exact (sampleOf_probes lport d).append (ih (rxPacket info lport d.arrival))

theorem run_probes (r : Run) (es : List Event) :
    ((run info r es).samples.map Sample.probe).Sublist
      (r.samples.map Sample.probe ++ delivered es) := by
  induction es generalizing r with
  | nil => simp [run, delivered]
  | cons e es ih =>
    rw [run, List.foldl_cons, ← run]
    cases e with
    | tx p => exact ih (step info r (.tx p))
    | rx burst =>
      refine (ih (step info r (.rx burst))).trans ?_
      rw [step, List.map_append, delivered, List.append_assoc]
      exact (List.Sublist.refl _).append
        ((rxSamples_probes (countMany r.lport (arrivals burst)) burst).append
          (List.Sublist.refl _))

/-! The samples are what `sw_rtt` is made of. -/

def accumulate (mma : MinAvgMax) (xs : List Sample) : MinAvgMax :=
  (xs.map Sample.delta).foldl minAvgMaxUpdate mma

theorem accumulate_append (mma : MinAvgMax) (xs ys : List Sample) :
    accumulate mma (xs ++ ys) = accumulate (accumulate mma xs) ys := by
  simp [accumulate]

theorem rxPacket_accumulate (hsw : info.swTimestamp) (lport : Lport) (d : Delivery) :
    (rxPacket info lport d.arrival).otherStats.swRtt.toMinAvgMax =
      accumulate lport.otherStats.swRtt.toMinAvgMax (sampleOf info lport d) := by
  simp only [rxPacket, sampleOf]
  cases verdict info lport d.arrival.frame with
  | accepted =>
    simp only [hsw, if_true, rxHwTimestamp_swRtt, endStatsTimer, true_and]
    by_cases hzero : lport.otherStats.swRtt.startNs = 0
    · simp [hzero, accumulate]
    · simp [hzero, accumulate]
  | _ => rfl

theorem rxLoop_accumulate (hsw : info.swTimestamp) (lport : Lport) (ds : List Delivery) :
    (rxLoop info lport (arrivals ds)).1.otherStats.swRtt.toMinAvgMax =
      accumulate lport.otherStats.swRtt.toMinAvgMax (rxSamples info lport ds) := by
  induction ds generalizing lport with
  | nil => rfl
  | cons d ds ih =>
    have htail := ih (rxPacket info lport d.arrival)
    rw [rxPacket_accumulate hsw] at htail
    rw [rxSamples, accumulate_append]
    exact htail

theorem step_accumulate (hsw : info.swTimestamp) (r : Run) (e : Event) {mma : MinAvgMax}
    (h : r.lport.otherStats.swRtt.toMinAvgMax = accumulate mma r.samples) :
    (step info r e).lport.otherStats.swRtt.toMinAvgMax =
      accumulate mma (step info r e).samples := by
  cases e with
  | tx p =>
    rw [step, ← h]
    cases hm : p.mbuf with
    | none => rw [(txTimestamping_none info r.lport hm).2]
    | some m =>
      obtain ⟨f, -, -, -, -, htimer⟩ := txTimestamping_some info r.lport hsw hm
      rw [htimer]
      rfl
  | rx burst =>
    rw [step, accumulate_append, ← h]
    have hloop := rxLoop_accumulate hsw (countMany r.lport (arrivals burst)) burst
    rw [countMany_swRtt] at hloop
    exact hloop

theorem run_accumulate (hsw : info.swTimestamp) (r : Run) (es : List Event) {mma : MinAvgMax}
    (h : r.lport.otherStats.swRtt.toMinAvgMax = accumulate mma r.samples) :
    (run info r es).lport.otherStats.swRtt.toMinAvgMax =
      accumulate mma (run info r es).samples := by
  induction es generalizing r with
  | nil => exact h
  | cons e es ih => exact ih (step info r e) (step_accumulate hsw r e h)

end runs

/-- In every interleaving of sends and receptions, with any loss and delay,
`sw_rtt` is made of samples that each measure their own probe, and no probe
twice, just when every packet that is timed is prompt. -/
theorem samples_sound_iff (info : Info) (hsw : info.swTimestamp) (srcMac dstMac : List UInt8)
    (es : List Event) (hnet : Network info (start srcMac dstMac) es) (honce : (delivered es).Nodup) :
    (run info (start srcMac dstMac) es).lport.otherStats.swRtt.toMinAvgMax =
        accumulate (cleared 1000000) (run info (start srcMac dstMac) es).samples ∧
      (Sound (run info (start srcMac dstMac) es) ↔
        AllPrompt info (start srcMac dstMac) es) := by
  have hmeasures := measures_run_iff hsw (start srcMac dstMac) es (inv_start srcMac dstMac) hnet
  have hnone : ∀ x ∈ (start srcMac dstMac).samples,
      Measures (run info (start srcMac dstMac) es).sent x := by
    simp [start]
  refine ⟨run_accumulate hsw _ es rfl, ?_⟩
  constructor
  · intro h
    exact (hmeasures.mp h.measures).2
  · intro h
    exact ⟨hmeasures.mpr ⟨hnone, h⟩, (run_probes (start srcMac dstMac) es).nodup honce⟩

/-- A client of probes of 60 bytes, without hardware time stamps. -/
def plainClient : Info := ⟨60, true, true, false⟩

def send (now : UInt64) : Event :=
  .tx { mbuf := some { id := 0, data := fun _ => 0, dataLen := 0, pktLen := 0 }
        now := now, pollStart := 0, txTimestamp := none, pollEnd := 0 }

/-- Probe `k`, sent at `t`, comes back at `now`. -/
def receive (k : Nat) (t now : UInt64) : Event :=
  .rx [{ probe := k
         arrival := { frame := probeFrame (UInt32.ofNat k) t, now := now, rxTimestamp := none } }]

theorem probeFrame_carries (s : UInt32) (t : UInt64) :
    Carries (probeFrame s t) (probeFrame s t) :=
  ⟨(probeFrame_valid s t).len, fun _ _ _ => rfl⟩

/-- One probe at a time: 250 ns for the first, 50 ns for the second. -/
theorem one_at_a_time_sound :
    Sound (run plainClient (start [] [])
      [send 100, receive 0 100 350, send 400, receive 1 400 450]) := by
  refine ((samples_sound_iff plainClient rfl [] []
    [send 100, receive 0 100 350, send 400, receive 1 400 450] ?_ (by decide)).2).mpr ?_
  · refine ⟨?_, ?_, trivial⟩
    · simp only [List.mem_singleton, forall_eq]
      exact ⟨probeFrame 0 100, rfl, probeFrame_carries 0 100⟩
    · simp only [List.mem_singleton, forall_eq]
      exact ⟨probeFrame 1 400, rfl, probeFrame_carries 1 400⟩
  · exact ⟨⟨fun _ => .inr ⟨probeFrame 0 100, rfl, rfl⟩, trivial⟩,
      ⟨fun _ => .inr ⟨probeFrame 1 400, rfl, rfl⟩, trivial⟩, trivial⟩

/-- Two probes in flight: the first one comes back after 250 ns, and 150 ns are
added to `sw_rtt`, the time since the second one was sent. -/
theorem two_in_flight_unsound :
    (run plainClient (start [] []) [send 100, send 200, receive 0 100 350]).samples =
        [{ probe := 0, now := 350, delta := 150 }] ∧
      ¬ Sound (run plainClient (start [] []) [send 100, send 200, receive 0 100 350]) := by
  have hsamples : (run plainClient (start [] []) [send 100, send 200, receive 0 100 350]).samples =
      [{ probe := 0, now := 350, delta := 150 }] := by decide +kernel
  refine ⟨hsamples, ?_⟩
  intro h
  obtain ⟨m, hm, hdelta⟩ := h.measures { probe := 0, now := 350, delta := 150 } (by simp [hsamples])
  have hfirst : m = probeFrame 0 100 := Option.some.inj (hm.symm.trans rfl)
  have ht : t1 m = 100 := hfirst ▸ writeProbe_t1 _ 0 100
  rw [ht] at hdelta
  exact absurd hdelta (by decide)

end Rtdk.ProbeTiming
