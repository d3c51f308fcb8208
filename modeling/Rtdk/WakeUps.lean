import Rtdk.Fuel
import Rtdk.LogRecord

/-! Times to wake up at (`utils.c`, `thread_timer.h`, and the headers of the tools).

The threads that log and publish wake up once in a period: `increment_period` adds the period
to the last wake-up, whatever the time is by then (`wakeUps_exact`). The threads of the
classes start at a time that all nodes can agree on: `wait_sync_time` waits for a multiple of
sixteen seconds (`waitSyncTime_together`). -/

namespace Rtdk.WakeUps
open Rtdk.Fuel
open Rtdk.LogRecord (Timespec)

def nsecPerSec : Int64 := 1000000000

/-! ## Periods -/

/-- A pass of the loop in `increment_period`. -/
def carry (time : Timespec) : Timespec × Bool :=
  if time.nsec ≥ nsecPerSec then (⟨time.sec + 1, time.nsec - nsecPerSec⟩, true) else (time, false)

def incrementPeriod (fuel : Nat) (time : Timespec) (periodNs : Int64) : Option Timespec :=
  DoWhile.run carry fuel { time with nsec := time.nsec + periodNs }

/-- The times at which a thread wakes up in `n` turns of its loop. -/
def wakeUps (periodNs : Int64) (fuel : Nat) : Nat → Timespec → Option (List Timespec)
  | 0, _ => some []
  | n + 1, time =>
    incrementPeriod fuel time periodNs >>= fun time =>
      (wakeUps periodNs fuel n time).map fun rest => time :: rest

/-- Nanoseconds. -/
def total (time : Timespec) : Int := time.sec.toInt * 10 ^ 9 + time.nsec.toInt

/-- A time `clock_nanosleep` takes. -/
structure Valid (time : Timespec) : Prop where
  nonneg : 0 ≤ time.nsec.toInt
  less : time.nsec.toInt < 10 ^ 9

theorem toInt_add_of_fits {a b : Int64} (hle : -2 ^ 63 ≤ a.toInt + b.toInt)
    (hlt : a.toInt + b.toInt < 2 ^ 63) : (a + b).toInt = a.toInt + b.toInt := by
  rw [Int64.toInt_add]
  exact Int.bmod_eq_of_le (by omega) (by omega)

theorem toInt_nsecPerSec : nsecPerSec.toInt = 10 ^ 9 := by decide

/-- Whole seconds are carried over. -/
theorem carry_ends {time : Timespec} (hnsec : 0 ≤ time.nsec.toInt)
    (hfits : total time < (2 ^ 63 - 1) * 10 ^ 9) :
    ∃ time', DoWhile.Ends carry time time' ∧ Valid time' ∧ total time' = total time := by
  have hnext (s s' : Timespec) (hs : 0 ≤ s.nsec.toInt ∧ total s = total time)
      (hpass : carry s = (s', true)) :
      (0 ≤ s'.nsec.toInt ∧ total s' = total time) ∧ s'.nsec.toInt.toNat < s.nsec.toInt.toNat := by
    obtain ⟨hnonneg, htotal⟩ := hs
    unfold carry at hpass
    split at hpass
    · rename_i hge
      cases hpass
      have hsec := s.sec.le_toInt
      have hgeI : 10 ^ 9 ≤ s.nsec.toInt := by
        rw [← toInt_nsecPerSec]
        exact Int64.le_iff_toInt_le.mp hge
      have hone : (1 : Int64).toInt = 1 := by decide
      have hsub : (s.nsec - nsecPerSec).toInt = s.nsec.toInt - 10 ^ 9 := by
        rw [← toInt_nsecPerSec]
        exact Int64.toInt_sub_of_le _ _ (by decide) hge
      unfold total at htotal hfits
      have hadd : (s.sec + 1).toInt = s.sec.toInt + 1 := by
        rw [toInt_add_of_fits, hone] <;> rw [hone] <;> omega
      refine ⟨⟨?_, ?_⟩, ?_⟩
      · show 0 ≤ (s.nsec - nsecPerSec).toInt
        omega
      · show (s.sec + 1).toInt * 10 ^ 9 + (s.nsec - nsecPerSec).toInt = total time
        unfold total
        omega
      · show (s.nsec - nsecPerSec).toInt.toNat < _
        omega
    · cases hpass
  have hlast (s s' : Timespec) (hs : 0 ≤ s.nsec.toInt ∧ total s = total time)
      (hpass : carry s = (s', false)) : Valid s' ∧ total s' = total time := by
    unfold carry at hpass
    split at hpass
    · cases hpass
    · rename_i hless
      cases hpass
      rw [ge_iff_le, Int64.le_iff_toInt_le, toInt_nsecPerSec] at hless
      exact ⟨⟨hs.1, by omega⟩, hs.2⟩
  exact DoWhile.ends_of_variant carry hnext hlast ⟨hnsec, rfl⟩

/-- The period is added. -/
theorem incrementPeriod_yields {time : Timespec} {periodNs : Int64} (htime : Valid time)
    (hperiod : 0 ≤ periodNs.toInt) (hsmall : periodNs.toInt ≤ 2 ^ 63 - 10 ^ 9)
    (hfits : total time + periodNs.toInt < (2 ^ 63 - 1) * 10 ^ 9) :
    ∃ time', Yields (fun fuel => incrementPeriod fuel time periodNs) time' ∧ Valid time' ∧
      total time' = total time + periodNs.toInt := by
  obtain ⟨hnonneg, hless⟩ := htime
  have hadd : (time.nsec + periodNs).toInt = time.nsec.toInt + periodNs.toInt :=
    toInt_add_of_fits (by omega) (by omega)
  have htotal : total { time with nsec := time.nsec + periodNs } =
      total time + periodNs.toInt := by
    show time.sec.toInt * 10 ^ 9 + (time.nsec + periodNs).toInt = _
    unfold total
    omega
  obtain ⟨time', hend, hvalid, hsame⟩ :=
    @carry_ends { time with nsec := time.nsec + periodNs } (by rw [hadd]; omega) (htotal ▸ hfits)
  exact ⟨time', yields_of_ends hend, hvalid, hsame.trans htotal⟩

/-- **Wake-ups.** The `k`-th one is `k` periods after the start, exactly, and each is a time
that can be waited for. -/
theorem wakeUps_exact (periodNs : Int64) (n : Nat) (start : Timespec) (hstart : Valid start)
    (hperiod : 0 ≤ periodNs.toInt) (hsmall : periodNs.toInt ≤ 2 ^ 63 - 10 ^ 9)
    (hfits : total start + n * periodNs.toInt < (2 ^ 63 - 1) * 10 ^ 9) :
    ∃ times, Yields (fun fuel => wakeUps periodNs fuel n start) times ∧ times.length = n ∧
      ∀ (k : Nat) (time : Timespec), times[k]? = some time →
        Valid time ∧ total time = total start + (k + 1) * periodNs.toInt := by
  induction n generalizing start with
  | zero => exact ⟨[], yields_some [], rfl, fun k time h => by cases h⟩
  | succ n ih =>
    have hsucc : ((n + 1 : Nat) : Int) * periodNs.toInt =
        n * periodNs.toInt + periodNs.toInt := by
      rw [Int.natCast_add, Int.add_mul, Int.natCast_one, Int.one_mul]
    have hmore : 0 ≤ (n : Int) * periodNs.toInt := Int.mul_nonneg (Int.natCast_nonneg n) hperiod
    obtain ⟨first, hfirst, hvalid, htotal⟩ :=
      incrementPeriod_yields hstart hperiod hsmall (by omega)
    obtain ⟨rest, hrest, hlength, hall⟩ := ih first hvalid (by omega)
    refine ⟨first :: rest, hfirst.bind (hrest.map _), by rw [List.length_cons, hlength], ?_⟩
    intro k time hk
    cases k with
    | zero =>
      cases hk
      exact ⟨hvalid, by rw [htotal]; omega⟩
    | succ k =>
      obtain ⟨hv, ht⟩ := hall k time hk
      have hnext : ((k : Int) + 1 + 1) * periodNs.toInt =
          (k + 1) * periodNs.toInt + periodNs.toInt := by
        rw [Int.add_mul ((k : Int) + 1) 1, Int.one_mul]
      refine ⟨hv, ?_⟩
      rw [ht, htotal, Int.natCast_add, Int.natCast_one, hnext]
      omega

theorem second_zero_valid : Valid ⟨100, 0⟩ := ⟨by decide, by decide⟩

theorem wakeUps_exact_three :
    ∃ times, Yields (fun fuel => wakeUps 700000000 fuel 3 ⟨100, 0⟩) times ∧ times.length = 3 ∧
      ∀ (k : Nat) (time : Timespec), times[k]? = some time →
        Valid time ∧ total time = total ⟨100, 0⟩ + (k + 1) * (700000000 : Int64).toInt :=
  wakeUps_exact 700000000 3 ⟨100, 0⟩ second_zero_valid (by decide) (by decide) (by decide)

/-! ## A common start -/

def MIN_WAIT_TIME : UInt32 := 16

def WAIT_TIME_MASK : Int64 := ~~~(16 - 1)

section
variable (rteAlign : UInt32 → UInt32 → UInt32)

/-- The time `wait_sync_time` waits for, if it waits; `now` is what the clock shows. -/
def waitSyncTime (requested : UInt32) (now : Timespec) : Option Timespec :=
  if requested > 0 then
    let sec := rteAlign requested MIN_WAIT_TIME
    some ⟨(now.sec &&& WAIT_TIME_MASK) + Int64.ofNat sec.toNat, 0⟩
  else none

/-- `RTE_ALIGN` of a number that leaves room: the next multiple. -/
structure Aligns (align : UInt32) : Prop where
  multiple : ∀ val : UInt32, val.toNat + align.toNat ≤ 2 ^ 32 →
    align.toNat ∣ (rteAlign val align).toNat
  notBelow : ∀ val : UInt32, val.toNat + align.toNat ≤ 2 ^ 32 →
    val.toNat ≤ (rteAlign val align).toNat
  next : ∀ val : UInt32, val.toNat + align.toNat ≤ 2 ^ 32 →
    (rteAlign val align).toNat < val.toNat + align.toNat

end

/-- The high bits of a number. -/
theorem and_high {n : Nat} (w k : Nat) (h : n < 2 ^ (w + k)) :
    n &&& (2 ^ w - 1) * 2 ^ k = n / 2 ^ k * 2 ^ k := by
  rw [← Nat.shiftLeft_eq, ← Nat.shiftLeft_eq, ← Nat.shiftRight_eq_div_pow]
  apply Nat.eq_of_testBit_eq
  intro i
  rw [Nat.testBit_and, Nat.testBit_shiftLeft, Nat.testBit_shiftLeft, Nat.testBit_two_pow_sub_one,
    Nat.testBit_shiftRight]
  by_cases hk : k ≤ i
  · rw [Nat.add_sub_cancel' hk]
    by_cases hw : i - k < w
    · simp [hk, hw]
    · have hzero : n.testBit i = false :=
        Nat.testBit_lt_two_pow (Nat.lt_of_lt_of_le h (Nat.pow_le_pow_right (by decide) (by omega)))
      simp [hzero]
  · simp [hk]

/-- The start of the sixteen seconds that `sec` is in. -/
theorem and_mask {sec : Int64} (hsec : 0 ≤ sec.toInt) :
    (sec &&& WAIT_TIME_MASK).toInt = sec.toInt / 16 * 16 := by
  have hsmall := sec.toInt_lt
  have hnat : (sec.toBitVec.toNat : Int) = sec.toInt := by
    have hcond := BitVec.toInt_eq_toNat_cond sec.toBitVec
    have hlt := sec.toBitVec.isLt
    have hto : sec.toBitVec.toInt = sec.toInt := rfl
    split at hcond <;> omega
  have hmask : WAIT_TIME_MASK.toBitVec.toNat = (2 ^ 60 - 1) * 2 ^ 4 := by decide
  have hand : (sec &&& WAIT_TIME_MASK).toBitVec.toNat = sec.toBitVec.toNat / 16 * 16 := by
    rw [Int64.toBitVec_and, BitVec.toNat_and, hmask]
    exact and_high 60 4 sec.toBitVec.isLt
  have hcond := BitVec.toInt_eq_toNat_cond (sec &&& WAIT_TIME_MASK).toBitVec
  have hto : (sec &&& WAIT_TIME_MASK).toBitVec.toInt = (sec &&& WAIT_TIME_MASK).toInt := rfl
  rw [hand] at hcond
  split at hcond <;> omega

/-- A clock that `waitSyncTime` can add to. -/
structure Clock (now : Timespec) : Prop where
  valid : Valid now
  sec : 0 ≤ now.sec.toInt
  early : now.sec.toInt < 2 ^ 62

theorem waitSyncTime_some (rteAlign : UInt32 → UInt32 → UInt32) {requested : UInt32}
    (hrequested : 0 < requested) {now : Timespec} (hnow : Clock now) :
    ∃ wake, waitSyncTime rteAlign requested now = some wake ∧ wake.nsec = 0 ∧
      wake.sec.toInt = now.sec.toInt / 16 * 16 + (rteAlign requested MIN_WAIT_TIME).toNat := by
  refine ⟨_, if_pos hrequested, rfl, ?_⟩
  have hlt := (rteAlign requested MIN_WAIT_TIME).toNat_lt
  have hsec := hnow.sec
  have hearly := hnow.early
  have hnat : (Int64.ofNat (rteAlign requested MIN_WAIT_TIME).toNat).toInt =
      (rteAlign requested MIN_WAIT_TIME).toNat :=
    Int64.toInt_ofNat_of_lt (by omega)
  have hmask := and_mask hsec
  show ((now.sec &&& WAIT_TIME_MASK) + Int64.ofNat _).toInt = _
  rw [toInt_add_of_fits, hmask, hnat] <;> rw [hmask, hnat] <;> omega

/-- **A common start.** A node starts at a multiple of sixteen seconds that lies ahead of it,
by the time that was requested to within sixteen seconds, and two nodes start together if
and only if their clocks are in the same sixteen seconds. -/
theorem waitSyncTime_together (rteAlign : UInt32 → UInt32 → UInt32)
    (halign : Aligns rteAlign MIN_WAIT_TIME) (requested : UInt32) (hrequested : 0 < requested)
    (hroom : requested.toNat + 16 ≤ 2 ^ 32) (now other : Timespec) (hnow : Clock now)
    (hother : Clock other) :
    ∃ wake wake', waitSyncTime rteAlign requested now = some wake ∧
      waitSyncTime rteAlign requested other = some wake' ∧
      (Valid wake ∧ 16 ∣ wake.sec.toInt ∧ total now < total wake ∧
        total now + requested.toNat * 10 ^ 9 < total wake + 16 * 10 ^ 9 ∧
        total wake < total now + (requested.toNat + 16) * 10 ^ 9) ∧
      (wake = wake' ↔ now.sec.toInt / 16 = other.sec.toInt / 16) := by
  obtain ⟨wake, hwake, hnsec, hsec⟩ := waitSyncTime_some rteAlign hrequested hnow
  obtain ⟨wake', hwake', hnsec', hsec'⟩ := waitSyncTime_some rteAlign hrequested hother
  have hmultiple := halign.multiple requested hroom
  have hnotBelow := halign.notBelow requested hroom
  have hnext := halign.next requested hroom
  have hsixteen : MIN_WAIT_TIME.toNat = 16 := rfl
  rw [hsixteen] at hmultiple hnext
  have hpos : 0 < requested.toNat := UInt32.lt_iff_toNat_lt.mp hrequested
  have hclock := hnow.valid
  obtain ⟨hnonneg, hless⟩ := hclock
  have hzero : (0 : Int64).toInt = 0 := by decide
  refine ⟨wake, wake', hwake, hwake', ⟨⟨?_, ?_⟩, ?_, ?_, ?_, ?_⟩, ?_⟩
  · rw [hnsec, hzero]
  · rw [hnsec, hzero]
    decide
  · omega
  · unfold total
    rw [hnsec, hzero]
    omega
  · unfold total
    rw [hnsec, hzero]
    omega
  · unfold total
    rw [hnsec, hzero]
    omega
  · constructor
    · intro hsame
      rw [hsame] at hsec
      omega
    · intro hsame
      rw [hsame] at hsec
      have hequal : wake.sec = wake'.sec := Int64.toInt_inj.mp (hsec.trans hsec'.symm)
      obtain ⟨sec, nsec⟩ := wake
      obtain ⟨sec', nsec'⟩ := wake'
      cases hequal
      cases hnsec
      cases hnsec'
      rfl

/-- An `RTE_ALIGN` by masks. -/
def maskAlign (val align : UInt32) : UInt32 := (val + (align - 1)) &&& ~~~(align - 1)

theorem maskAlign_aligns : Aligns maskAlign MIN_WAIT_TIME := by
  have hmask : (~~~(MIN_WAIT_TIME - 1) : UInt32).toNat = (2 ^ 28 - 1) * 2 ^ 4 := by decide
  have hlow : (MIN_WAIT_TIME - 1 : UInt32).toNat = 15 := by decide
  have hsixteen : MIN_WAIT_TIME.toNat = 16 := rfl
  have hval (val : UInt32) (hroom : val.toNat + MIN_WAIT_TIME.toNat ≤ 2 ^ 32) :
      (maskAlign val MIN_WAIT_TIME).toNat = (val.toNat + 15) / 16 * 16 := by
    rw [maskAlign, UInt32.toNat_and, hmask, UInt32.toNat_add, hlow,
      Nat.mod_eq_of_lt (by omega)]
    exact and_high 28 4 (by omega)
  constructor
  · intro val hroom
    rw [hval val hroom, hsixteen]
    exact Nat.dvd_mul_left 16 _
  · intro val hroom
    rw [hval val hroom]
    omega
  · intro val hroom
    rw [hval val hroom]
    omega

theorem clock_early {sec nsec : Int64} (hsec : 0 ≤ sec.toInt ∧ sec.toInt < 2 ^ 62)
    (hnsec : 0 ≤ nsec.toInt ∧ nsec.toInt < 10 ^ 9) : Clock ⟨sec, nsec⟩ :=
  ⟨⟨hnsec.1, hnsec.2⟩, hsec.1, hsec.2⟩

theorem waitSyncTime_together_thirty :
    ∃ wake wake', waitSyncTime maskAlign 30 ⟨100, 5⟩ = some wake ∧
      waitSyncTime maskAlign 30 ⟨112, 7⟩ = some wake' ∧
      (Valid wake ∧ 16 ∣ wake.sec.toInt ∧ total ⟨100, 5⟩ < total wake ∧
        total ⟨100, 5⟩ + (30 : UInt32).toNat * 10 ^ 9 < total wake + 16 * 10 ^ 9 ∧
        total wake < total ⟨100, 5⟩ + ((30 : UInt32).toNat + 16) * 10 ^ 9) ∧
      (wake = wake' ↔ (100 : Int64).toInt / 16 = (112 : Int64).toInt / 16) :=
  waitSyncTime_together maskAlign maskAlign_aligns 30 (by decide) (by decide) ⟨100, 5⟩ ⟨112, 7⟩
    (clock_early (by decide) (by decide)) (clock_early (by decide) (by decide))

end Rtdk.WakeUps
