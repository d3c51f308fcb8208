import Rtdk.Burst

/-! How long a receive call waits (`lport_rx` and the nine receive routines).

The time-out of a call is the distance from the receive to the transmit offset of
the cycle, or a quarter of it. Both offsets are configured on their own, and the
distance is unsigned: where the transmit offset comes first it is almost `2^64`, a
deadline in the past if all of it is added to the clock, and one more than a
hundred years away if it is a quarter. -/

namespace Rtdk.RxDeadline
open Rtdk.Memory Rtdk.NetDef Rtdk.Lport Rtdk.Config Rtdk.ConfigFile Rtdk.CString Rtdk.Sane
open Rtdk.Burst

/-- The divisor of the class's routine. -/
def divisor : FrameType → UInt64
  | .tsnHigh | .tsnLow | .rtc | .rta => 4
  | .dcp | .lldp | .udpHigh | .udpLow | .l2 => 1

/-- `timo` of the class's `*_rx_thread_routine`. -/
def timo (cfg : AppConfig) (ty : FrameType) : UInt64 :=
  (cfg.applicationTxBaseOffsetNs - cfg.applicationRxBaseOffsetNs) / divisor ty

/-- `timo_ns` of `lport_rx` behind its first line. -/
def deadline (timoNs now : UInt64) : UInt64 := timoNs + now

/-- The receive call of a class, from the reading `now` of the clock on. -/
def lportRxAt (cfg : AppConfig) (ty : FrameType) (mbufs : Mem (Option Mbuf)) (now : UInt64)
    (polls : List Poll) : RxLocals :=
  lportRx mbufs (burstSz (cfg.cls ty)) (deadline (timo cfg ty) now) polls

/-! ## The loop and its deadline -/

/-- An empty poll behind the deadline is the last one. -/
theorem rxLoop_returns {timoNs : UInt64} {p : Poll} (hempty : p.waiting = [])
    (hlate : timoNs < p.now) (before after : List Poll) (s : RxLocals) :
    rxLoop timoNs s (before ++ p :: after) = rxLoop timoNs s (before ++ [p]) := by
  induction before generalizing s with
  | nil =>
    simp only [List.nil_append, rxLoop, hempty, List.take_nil, ne_eq, not_true_eq_false, if_false,
      gt_iff_lt, hlate, if_true]
  | cons q before ih =>
    rw [List.cons_append, List.cons_append, rxLoop, rxLoop]
    simp only [ih]

/-- What is promised of a receive call that starts at `now`. -/
structure InCycle (cfg : AppConfig) (ty : FrameType) (now : UInt64) : Prop where
  notBefore : now ≤ deadline (timo cfg ty) now
  notAfter : (deadline (timo cfg ty) now).toNat ≤
    now.toNat + cfg.applicationBaseCycleTimeNs.toNat
  /-- The call does not poll again once an empty poll finds the cycle over. -/
  returns : ∀ (mbufs : Mem (Option Mbuf)) (before : List Poll) (p : Poll) (after : List Poll),
    p.waiting = [] → now.toNat + cfg.applicationBaseCycleTimeNs.toNat < p.now.toNat →
    lportRxAt cfg ty mbufs now (before ++ p :: after) = lportRxAt cfg ty mbufs now (before ++ [p])

/-- The distance between the offsets, as the code computes it. -/
def distance (cfg : AppConfig) : Nat :=
  if cfg.applicationRxBaseOffsetNs ≤ cfg.applicationTxBaseOffsetNs then
    cfg.applicationTxBaseOffsetNs.toNat - cfg.applicationRxBaseOffsetNs.toNat
  else 2 ^ 64 - (cfg.applicationRxBaseOffsetNs.toNat - cfg.applicationTxBaseOffsetNs.toNat)

theorem timo_toNat (cfg : AppConfig) (ty : FrameType) :
    (timo cfg ty).toNat = distance cfg / (divisor ty).toNat := by
  have htx := cfg.applicationTxBaseOffsetNs.toNat_lt
  have hrx := cfg.applicationRxBaseOffsetNs.toNat_lt
  have hsub : (cfg.applicationTxBaseOffsetNs - cfg.applicationRxBaseOffsetNs).toNat =
      distance cfg := by
    rw [UInt64.toNat_sub, distance]
    split
    · rename_i hle
      rw [UInt64.le_iff_toNat_le] at hle
      omega
    · rename_i hle
      rw [UInt64.le_iff_toNat_le] at hle
      omega
  rw [timo, UInt64.toNat_div, hsub]

/-- **The deadline.**  It lies in the cycle that begins with the call just if the
time-out is not longer than a cycle and its end does not wrap around. -/
theorem inCycle_iff (cfg : AppConfig) (ty : FrameType) (now : UInt64) :
    InCycle cfg ty now ↔
      distance cfg / (divisor ty).toNat ≤ cfg.applicationBaseCycleTimeNs.toNat ∧
        now.toNat + distance cfg / (divisor ty).toNat < 2 ^ 64 := by
  have hlt := now.toNat_lt
  have htimo := (timo cfg ty).toNat_lt
  have hdeadline : (deadline (timo cfg ty) now).toNat =
      ((timo cfg ty).toNat + now.toNat) % 2 ^ 64 := UInt64.toNat_add _ _
  rw [← timo_toNat]
  constructor
  · rintro ⟨hbefore, hafter, -⟩
    rw [UInt64.le_iff_toNat_le, hdeadline] at hbefore
    rw [hdeadline] at hafter
    omega
  · rintro ⟨hshort, hwrap⟩
    rw [Nat.mod_eq_of_lt (by omega)] at hdeadline
    refine ⟨?_, by omega, fun mbufs before p after hempty hover => ?_⟩
    · rw [UInt64.le_iff_toNat_le, hdeadline]
      omega
    · apply rxLoop_returns hempty
      rw [UInt64.lt_iff_toNat_lt, hdeadline]
      omega

/-- With the transmit offset 10 µs before the receive offset. -/
def swappedFile : File := ⟨true, entry "ApplicationRxBaseOffsetNS" "110000" ++ [.streamEnd]⟩

/-- Then an RTC frame is waited for until the clock has gone on by 2^62 ns, and a
DCP frame not at all. -/
theorem swapped_offsets :
    ¬ ∀ (fopen : CStr → Option File) (path : Option CStr) (app : Loaded) (ty : FrameType)
      (now : UInt64), configInit fopen path = .ok app → InCycle (appConfig app.values) ty now := by
  intro h
  obtain ⟨app, happ, hcfg⟩ := exists_loaded swappedFile (lit "swapped.yaml") (by decide +kernel)
  have hrtc := (h _ _ app .rtc 1000000 happ).notAfter
  rw [hcfg] at hrtc
  exact absurd hrtc (by decide +kernel)

end Rtdk.RxDeadline
