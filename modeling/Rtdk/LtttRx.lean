import Mathlib.Data.UInt
import Rtdk.Accumulator
import Rtdk.Blocks

/-! Reception by the launch-time tool (`launch-time/rxtx.c`).

Each round of `rxtx_routine` polls the device once for a burst. Only a poll that
returns the whole burst is counted and measured; what a shorter poll returned is
freed. So the result depends on where the device splits what arrives, and is the
one that is wanted only if it never splits a burst (`splitting_iff`). -/

namespace Rtdk.LtttRx
open Rtdk.Accumulator Rtdk.Blocks

/-! ## Polling -/

structure Info where
  burstCount : UInt16
  rxTimestampFlag : UInt64

/-- `ol_flags` and the time stamp field of a received mbuf. -/
structure RxMbuf where
  olFlags : UInt64
  rxTimestamp : UInt64
deriving DecidableEq, Repr

/-- What `rte_eth_rx_burst` returns in a round, and the clock in that round. -/
structure Poll where
  mbufs : List RxMbuf
  clockNs : UInt64

/-- `prev_rx` and the two statistics. `samples` is history: the arguments of the
calls of `min_avg_max_update` so far. -/
structure State where
  prevRx : UInt64
  totalRx : UInt64
  launchTime : MinAvgMax
  samples : List UInt64
deriving DecidableEq, Repr

/-- `reset_stats`, which calls `reset_rx_timestamp`. -/
def resetStats : State := ⟨0, 0, cleared Lttt.bigNum, []⟩

def timestampOf (info : Info) (p : Poll) : UInt64 :=
  match p.mbufs with
  | [] => p.clockNs
  | m :: _ => if m.olFlags &&& info.rxTimestampFlag ≠ 0 then m.rxTimestamp else p.clockNs

/-- The packets of less than a burst are freed and forgotten. -/
def rxTimestamping (info : Info) (s : State) (p : Poll) : State :=
  let nbRx := UInt16.ofNat p.mbufs.length
  if nbRx > 0 then
    let toRecv := info.burstCount - nbRx
    let totalRx := nbRx
    if toRecv = 0 then
      let s := { s with totalRx := s.totalRx + totalRx.toUInt64 }
      let currNs := timestampOf info p
      if s.prevRx = 0 then { s with prevRx := currNs }
      else
        { s with
          launchTime := minAvgMaxUpdate s.launchTime (currNs - s.prevRx)
          prevRx := currNs
          samples := s.samples ++ [currNs - s.prevRx] }
    else s
  else s

def run (info : Info) (s : State) (polls : List Poll) : State :=
  polls.foldl (rxTimestamping info) s

/-! ## What is wanted -/

/-- The packets, in the order of their arrival. -/
def arrived (polls : List Poll) : List RxMbuf := (polls.map Poll.mbufs).flatten

/-- The device keeps to the burst size, and stamps what it receives. -/
structure Stamped (info : Info) (polls : List Poll) : Prop where
  bound : ∀ p ∈ polls, p.mbufs.length ≤ info.burstCount.toNat
  stamps : ∀ m ∈ arrived polls, m.olFlags &&& info.rxTimestampFlag ≠ 0

/-- The differences between the stamps of the packets that lead a burst. -/
def wanted (info : Info) (s : State) (ms : List RxMbuf) : List UInt64 :=
  gaps (before s.prevRx ++ (leaders info.burstCount.toNat ms).map RxMbuf.rxTimestamp)

/-- Everything is counted, and the samples depend on what arrived only. -/
structure Independent (info : Info) (s : State) (polls : List Poll) : Prop where
  totalRx : (run info s polls).totalRx.toNat = s.totalRx.toNat + (arrived polls).length
  samples : (run info s polls).samples = s.samples ++ wanted info s (arrived polls)
  launchTime : (run info s polls).launchTime =
    (wanted info s (arrived polls)).foldl minAvgMaxUpdate s.launchTime

/-- No burst is split, the counter does not wrap, and only the last burst may be
stamped zero. -/
structure Unsplit (info : Info) (s : State) (polls : List Poll) : Prop where
  full : ∀ p ∈ polls, p.mbufs ≠ [] → p.mbufs.length = info.burstCount.toNat
  fits : s.totalRx.toNat + (arrived polls).length < 2 ^ 64
  stamped : ∀ t ∈ ((leaders info.burstCount.toNat (arrived polls)).map
    RxMbuf.rxTimestamp).dropLast, t ≠ 0

/-! ## One poll -/

/-- A poll that is processed. -/
def Poll.Full (info : Info) (p : Poll) : Prop :=
  p.mbufs ≠ [] ∧ p.mbufs.length = info.burstCount.toNat

instance (info : Info) (p : Poll) : Decidable (p.Full info) := by
  unfold Poll.Full
  infer_instance

/-- The measurement in a processed poll. -/
def State.measure (s : State) (currNs : UInt64) : State :=
  { s with
    prevRx := currNs
    launchTime := (gapsAfter s.prevRx [currNs]).foldl minAvgMaxUpdate s.launchTime
    samples := s.samples ++ gapsAfter s.prevRx [currNs] }

/-- **What a poll does.** -/
theorem rxTimestamping_eq {info : Info} (s : State) {p : Poll}
    (hb : p.mbufs.length ≤ info.burstCount.toNat) :
    rxTimestamping info s p =
      if p.Full info then
        { s.measure (timestampOf info p) with totalRx := s.totalRx + info.burstCount.toUInt64 }
      else s := by
  have hlt := info.burstCount.toNat_lt
  have hnb : (UInt16.ofNat p.mbufs.length).toNat = p.mbufs.length := by
    rw [UInt16.toNat_ofNat']
    omega
  have hpos : UInt16.ofNat p.mbufs.length > 0 ↔ p.mbufs ≠ [] := by
    rw [gt_iff_lt, UInt16.lt_iff_toNat_lt, hnb, ← List.length_pos_iff]
    rfl
  have hall : info.burstCount - UInt16.ofNat p.mbufs.length = 0 ↔
      p.mbufs.length = info.burstCount.toNat := by
    have hle : UInt16.ofNat p.mbufs.length ≤ info.burstCount := by
      rwa [UInt16.le_iff_toNat_le, hnb]
    rw [← UInt16.toNat_inj, UInt16.toNat_sub_of_le _ _ hle, hnb,
      show (0 : UInt16).toNat = 0 from rfl]
    omega
  unfold rxTimestamping
  simp only [hpos, hall]
  by_cases hfull : p.Full info
  · have hcount : UInt16.ofNat p.mbufs.length = info.burstCount := by
      rw [← UInt16.toNat_inj, hnb, hfull.2]
    rw [if_pos hfull, if_pos hfull.1, if_pos hfull.2, hcount]
    by_cases hprev : s.prevRx = 0
    · simp [hprev, State.measure, gapsAfter]
    · simp [hprev, State.measure, gapsAfter]
  · rw [if_neg hfull]
    split
    · rename_i hne
      rw [if_neg fun hlen => hfull ⟨hne, hlen⟩]
    · rfl

/-! ## All polls -/

/-- The stamps of the processed polls. -/
def stamps (info : Info) (polls : List Poll) : List UInt64 :=
  (polls.filter (·.Full info)).map (timestampOf info)

theorem gapsAfter_cons_append (prev x : UInt64) (xs : List UInt64) :
    gapsAfter prev (x :: xs) = gapsAfter prev [x] ++ gapsAfter x xs := by
  simp only [gapsAfter]
  split <;> rfl

theorem run_samples {info : Info} {polls : List Poll} (s : State)
    (hb : ∀ p ∈ polls, p.mbufs.length ≤ info.burstCount.toNat) :
    (run info s polls).samples = s.samples ++ gapsAfter s.prevRx (stamps info polls) ∧
      (run info s polls).launchTime =
        (gapsAfter s.prevRx (stamps info polls)).foldl minAvgMaxUpdate s.launchTime := by
  induction polls generalizing s with
  | nil => simp [run, stamps, gapsAfter]
  | cons p polls ih =>
    rw [List.forall_mem_cons] at hb
    obtain ⟨hsamples, hlaunch⟩ := ih (rxTimestamping info s p) hb.2
    rw [run, List.foldl_cons, ← run, hsamples, hlaunch, rxTimestamping_eq s hb.1]
    by_cases hfull : p.Full info
    · have hstamps : stamps info (p :: polls) = timestampOf info p :: stamps info polls := by
        simp [stamps, hfull]
      rw [if_pos hfull, hstamps, gapsAfter_cons_append]
      simp only [State.measure, List.append_assoc, List.foldl_append, and_self]
    · have hstamps : stamps info (p :: polls) = stamps info polls := by simp [stamps, hfull]
      rw [if_neg hfull, hstamps]
      exact ⟨rfl, rfl⟩

theorem run_totalRx {info : Info} {polls : List Poll} (s : State)
    (hb : ∀ p ∈ polls, p.mbufs.length ≤ info.burstCount.toNat) :
    (run info s polls).totalRx.toNat =
      (s.totalRx.toNat + counted info.burstCount.toNat (polls.map Poll.mbufs)) % 2 ^ 64 := by
  induction polls generalizing s with
  | nil => exact (Nat.mod_eq_of_lt s.totalRx.toNat_lt).symm
  | cons p polls ih =>
    rw [List.forall_mem_cons] at hb
    rw [run, List.foldl_cons, ← run, ih _ hb.2, rxTimestamping_eq s hb.1, List.map_cons,
      counted_cons]
    by_cases hfull : p.Full info
    · rw [if_pos hfull, if_pos hfull.2]
      simp only [UInt64.toNat_add, UInt16.toNat_toUInt64]
      omega
    · rw [if_neg hfull]
      by_cases hlen : p.mbufs.length = info.burstCount.toNat
      · have hnil : p.mbufs = [] := Classical.byContradiction fun hne => hfull ⟨hne, hlen⟩
        rw [if_pos hlen, ← hlen, hnil, List.length_nil, Nat.zero_add]
      · rw [if_neg hlen, Nat.zero_add]

section stamped
variable {info : Info} {polls : List Poll}

/-- The leaders of what arrived are the first packets of full polls. -/
theorem stamps_eq (hs : Stamped info polls)
    (hfull : ∀ p ∈ polls, p.mbufs ≠ [] → p.mbufs.length = info.burstCount.toNat) :
    stamps info polls =
      (leaders info.burstCount.toNat (arrived polls)).map RxMbuf.rxTimestamp := by
  rw [arrived, leaders_flatten (by simpa using hfull)]
  obtain ⟨-, hstamps⟩ := hs
  induction polls with
  | nil => rfl
  | cons p polls ih =>
    rw [List.forall_mem_cons] at hfull
    have hrest := ih hfull.2 fun m hm => hstamps m (List.mem_append_right _ hm)
    have hall := hfull.1
    obtain ⟨mbufs, clockNs⟩ := p
    cases mbufs with
    | nil =>
      have hnot : ¬ Poll.Full info ⟨[], clockNs⟩ := fun h => h.1 rfl
      rw [← show stamps info (⟨[], clockNs⟩ :: polls) = stamps info polls by simp [stamps, hnot]]
        at hrest
      exact hrest
    | cons m ms =>
      have hyes : Poll.Full info ⟨m :: ms, clockNs⟩ := ⟨List.cons_ne_nil m ms, hall (by simp)⟩
      have hflag := hstamps m (List.mem_append_left _ (List.mem_cons_self ..))
      rw [show stamps info (⟨m :: ms, clockNs⟩ :: polls) =
        timestampOf info ⟨m :: ms, clockNs⟩ :: stamps info polls by simp [stamps, hyes], hrest]
      simp [timestampOf, hflag]

/-- **Counting.**  Nothing is missing just if every poll that returns packets returns
a burst. -/
theorem totalRx_iff (s : State) (hs : Stamped info polls) :
    (run info s polls).totalRx.toNat = s.totalRx.toNat + (arrived polls).length ↔
      (∀ p ∈ polls, p.mbufs ≠ [] → p.mbufs.length = info.burstCount.toNat) ∧
        s.totalRx.toNat + (arrived polls).length < 2 ^ 64 := by
  have hle := counted_le info.burstCount.toNat (polls.map Poll.mbufs)
  have hiff := counted_eq_iff info.burstCount.toNat (polls.map Poll.mbufs)
  rw [List.forall_mem_map] at hiff
  rw [run_totalRx s hs.bound, arrived, ← hiff]
  constructor
  · intro heq
    have hlt := Nat.mod_lt (s.totalRx.toNat +
      counted info.burstCount.toNat (polls.map Poll.mbufs)) (show 0 < 2 ^ 64 by decide)
    rw [heq] at hlt
    rw [Nat.mod_eq_of_lt (by omega)] at heq
    exact ⟨by omega, hlt⟩
  · rintro ⟨heq, hlt⟩
    rw [heq, Nat.mod_eq_of_lt hlt]

/-- **Splitting.**  From any state, for any arrivals and any way they are split. -/
theorem splitting_iff (s : State) (hs : Stamped info polls) :
    Independent info s polls ↔ Unsplit info s polls := by
  obtain ⟨hsamples, hlaunch⟩ := run_samples s hs.bound
  have hcount := totalRx_iff s hs
  constructor
  · intro h
    obtain ⟨hfull, hfits⟩ := hcount.mp h.totalRx
    refine ⟨hfull, hfits, ?_⟩
    have heq := h.samples
    rw [hsamples, List.append_cancel_left_eq, stamps_eq hs hfull] at heq
    exact (gapsAfter_eq_iff _ _).mp heq
  · intro h
    have heq := (gapsAfter_eq_iff s.prevRx _).mpr h.stamped
    rw [← stamps_eq hs h.full] at heq
    refine ⟨hcount.mpr ⟨h.full, h.fits⟩, ?_, ?_⟩
    · rw [hsamples, heq, stamps_eq hs h.full]
      rfl
    · rw [hlaunch, heq, stamps_eq hs h.full]
      rfl

end stamped

/-- Bursts of two packets, stamped when the hardware received them. -/
def pairs : Info := ⟨2, 1⟩

/-- A poll that returns packets with these stamps. -/
def returning (ts : List UInt64) : Poll := ⟨ts.map fun ns => ⟨1, ns⟩, 0⟩

theorem splitting_whole :
    Independent pairs resetStats [returning [100, 101], returning [], returning [160, 161]] :=
  (splitting_iff resetStats ⟨by decide, by decide⟩).mpr ⟨by decide, by decide,
    show ∀ t ∈ ([100] : List UInt64), t ≠ 0 from List.forall_mem_singleton.mpr (by decide)⟩

/-- The same packets, but the last one is not there yet when its burst is polled for. -/
theorem splitting_late_packet :
    let whole := [returning [100, 101], returning [160, 161]]
    let split := [returning [100, 101], returning [160], returning [161]]
    arrived split = arrived whole ∧
      (run pairs resetStats whole).totalRx = 4 ∧ (run pairs resetStats whole).samples = [60] ∧
      (run pairs resetStats split).totalRx = 2 ∧ (run pairs resetStats split).samples = [] ∧
      ¬ Independent pairs resetStats split := by
  refine ⟨by decide, by decide, by decide, by decide, by decide, fun h => ?_⟩
  exact absurd h.totalRx (by decide)

end Rtdk.LtttRx
