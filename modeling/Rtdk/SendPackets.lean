import Mathlib.Data.List.Nodup
import Rtdk.DoWhile
import Rtdk.Handover

/-! `send_packets` of the three tools (`ratt/ratt.h`, `launch-time/launch-time.h`,
`cnp/cnp-tuning.h`).

The packets are offered to the device again and again until it has taken all of them
or the application stops; what is left then is freed. The tools count in different
widths, and update the pointer and look at the count in different orders. -/

namespace Rtdk.SendPackets
open Rtdk.DoWhile Rtdk.Handover

/-- `rte_eth_tx_burst`: how many packets the device takes off the front. -/
structure Device (D M : Type) where
  txBurst : D → List M → UInt16 × D
  txBurst_le : ∀ d mbufs, (txBurst d mbufs).1.toNat ≤ mbufs.length

/-- The locals of a call, `mbufs` being the array from the pointer on. `asked` counts
the calls of `is_running`, `sent` is what the device has taken. -/
structure Sending (D M N : Type) where
  device : D
  mbufs : List M
  numMbufs : N
  txRingFull : UInt64
  asked : Nat
  sent : List M

/-- What a call leaves behind. -/
structure Sent (D M : Type) where
  device : D
  txRingFull : UInt64
  asked : Nat
  sent : List M
  freed : List M

section model
variable {D M : Type} (dev : Device D M) (running : Nat → Bool)

/-- A pass of the loop of RATT and LTTT. `full` is what a tool counts when the device
has left something. -/
def retryPass (full : UInt64 → UInt64) (s : Sending D M UInt16) : Sending D M UInt16 × Bool :=
  let (nbTx, d) := dev.txBurst s.device (s.mbufs.take s.numMbufs.toNat)
  let numMbufs := s.numMbufs - nbTx
  let sent := s.sent ++ s.mbufs.take nbTx.toNat
  if numMbufs = 0 then ({ s with device := d, numMbufs := numMbufs, sent := sent }, false)
  else
    ({ s with
        device := d
        mbufs := s.mbufs.drop nbTx.toNat
        numMbufs := numMbufs
        txRingFull := full s.txRingFull
        asked := s.asked + 1
        sent := sent }, running s.asked)

def Ratt.sendPass : Sending D M UInt16 → Sending D M UInt16 × Bool :=
  retryPass dev running (· + 1)

def Lttt.sendPass : Sending D M UInt16 → Sending D M UInt16 × Bool :=
  retryPass dev running id

/-- A pass of CNP. The device is asked for the count cut to 16 bits. -/
def Cnp.sendPass (s : Sending D M UInt32) : Sending D M UInt32 × Bool :=
  let (nbTx, d) := dev.txBurst s.device (s.mbufs.take s.numMbufs.toUInt16.toNat)
  let s := { s with
    device := d
    numMbufs := s.numMbufs - nbTx.toUInt32
    mbufs := s.mbufs.drop nbTx.toNat
    sent := s.sent ++ s.mbufs.take nbTx.toNat }
  if s.numMbufs = 0 then (s, false) else ({ s with asked := s.asked + 1 }, running s.asked)

variable {dev running}

/-- `rte_pktmbuf_free_bulk` behind the loop. -/
def Sending.finish {N : Type} (toNat : N → Nat) (s : Sending D M N) : Sent D M :=
  ⟨s.device, s.txRingFull, s.asked, s.sent,
    if toNat s.numMbufs > 0 then s.mbufs.take (toNat s.numMbufs) else []⟩

/-- `send_packets` of RATT, from `tx_ring_full` on. -/
def Ratt.sendPackets (dev : Device D M) (running : Nat → Bool) (fuel : Nat) (d : D)
    (txRingFull : UInt64) (mbufs : List M) (numMbufs : UInt16) : Option (Sent D M) :=
  (run (Ratt.sendPass dev running) fuel ⟨d, mbufs, numMbufs, txRingFull, 0, []⟩).map
    (Sending.finish UInt16.toNat)

def Lttt.sendPackets (dev : Device D M) (running : Nat → Bool) (fuel : Nat) (d : D)
    (mbufs : List M) (numMbufs : UInt16) : Option (Sent D M) :=
  (run (Lttt.sendPass dev running) fuel ⟨d, mbufs, numMbufs, 0, 0, []⟩).map
    (Sending.finish UInt16.toNat)

def Cnp.sendPackets (dev : Device D M) (running : Nat → Bool) (fuel : Nat) (d : D)
    (mbufs : List M) (numMbufs : UInt32) : Option (Sent D M) :=
  (run (Cnp.sendPass dev running) fuel ⟨d, mbufs, numMbufs, 0, 0, []⟩).map
    (Sending.finish UInt32.toNat)

end model

/-! ## What is wanted -/

/-- The answers of a device as numbers. -/
def Device.burst {D M : Type} (dev : Device D M) (d : D) (mbufs : List M) : Nat × D :=
  ((dev.txBurst d mbufs).1.toNat, (dev.txBurst d mbufs).2)

/-- What CNP offers of the packets that are left; the other tools offer them all. -/
def offerCut {M : Type} (left : List M) : List M := left.take (left.length % 65536)

/-- Each packet has one owner: the device has a first part of the array, which it took
in calls with what was left each time, and the rest, if any, is freed after `is_running`
has said no. -/
structure Partitioned {D M : Type} (dev : Device D M) (offer : List M → List M)
    (running : Nat → Bool) (d : D) (mbufs : List M) (r : Sent D M) : Prop where
  device : ∃ calls, Drains dev.burst offer d mbufs calls r.sent r.freed r.device ∧
    r.asked ≤ calls ∧ calls ≤ r.asked + 1
  inOrder : r.sent ++ r.freed = mbufs
  oneOwner : mbufs.Nodup → r.sent.Disjoint r.freed
  stopped : r.freed ≠ [] → ∃ k < r.asked, running k = false

/-- The call returns, and what it leaves behind has the property. -/
def Returns {D M : Type} (call : Nat → Option (Sent D M)) (P : Sent D M → Prop) : Prop :=
  ∃ r, (∃ enough, ∀ fuel, enough ≤ fuel → call fuel = some r) ∧ P r

/-! ## The loops -/

section loops
variable {D M N : Type} {dev : Device D M} {offer : List M → List M} {toNat : N → Nat}
  {running : Nat → Bool} {d : D} {input : List M} {stop : Nat}

/-- What holds before each pass: each pass so far was a call of the device and a
question, and the application has not yet been asked at `stop`. -/
structure Going (dev : Device D M) (offer : List M → List M) (toNat : N → Nat) (d : D)
    (input : List M) (stop : Nat) (s : Sending D M N) : Prop where
  device : Drains dev.burst offer d input s.asked s.sent s.mbufs s.device
  count : toNat s.numMbufs = s.mbufs.length
  asked : s.asked ≤ stop

/-- What holds behind the loop. -/
structure Gone (dev : Device D M) (offer : List M → List M) (toNat : N → Nat)
    (running : Nat → Bool) (d : D) (input : List M) (s : Sending D M N) : Prop where
  device : ∃ calls, Drains dev.burst offer d input calls s.sent
    (s.mbufs.take (toNat s.numMbufs)) s.device ∧ s.asked ≤ calls ∧ calls ≤ s.asked + 1
  stopped : toNat s.numMbufs ≠ 0 → ∃ k < s.asked, running k = false

/-- A pass, as a relation: the device is called once; the loop ends when nothing is
left or `is_running` says no. With nothing left the pointer may stay behind. -/
structure Passed (dev : Device D M) (offer : List M → List M) (toNat : N → Nat)
    (running : Nat → Bool) (s s' : Sending D M N) (goes : Bool) : Prop where
  device : s'.device = (dev.burst s.device (offer s.mbufs)).2
  sent : s'.sent = s.sent ++ s.mbufs.take (dev.burst s.device (offer s.mbufs)).1
  count : toNat s'.numMbufs = (s.mbufs.drop (dev.burst s.device (offer s.mbufs)).1).length
  some : toNat s'.numMbufs ≠ 0 → s'.mbufs = s.mbufs.drop (dev.burst s.device (offer s.mbufs)).1 ∧
    s'.asked = s.asked + 1 ∧ goes = running s.asked
  none : toNat s'.numMbufs = 0 → goes = false ∧ s'.asked = s.asked

theorem Passed.call {s s' : Sending D M N} {goes : Bool}
    (hpass : Passed dev offer toNat running s s' goes) {calls : Nat}
    (h : Drains dev.burst offer d input calls s.sent s.mbufs s.device) :
    Drains dev.burst offer d input (calls + 1) s'.sent
      (s.mbufs.drop (dev.burst s.device (offer s.mbufs)).1) s'.device := by
  rw [hpass.sent, hpass.device]
  exact .call h

/-- A pass that goes on. -/
theorem Going.next {s s' : Sending D M N} (h : Going dev offer toNat d input stop s)
    (hpass : Passed dev offer toNat running s s' true) (hstop : running stop = false) :
    Going dev offer toNat d input stop s' ∧ stop - s'.asked < stop - s.asked := by
  have hleft : toNat s'.numMbufs ≠ 0 := by
    intro hzero
    cases (hpass.none hzero).1
  obtain ⟨hmbufs, hasked, hrunning⟩ := hpass.some hleft
  have hne : s.asked ≠ stop := by
    rintro heq
    rw [heq, hstop] at hrunning
    cases hrunning
  have hle := h.asked
  have hcall := hpass.call h.device
  rw [← hmbufs, ← hasked] at hcall
  have hcount := hpass.count
  rw [← hmbufs] at hcount
  exact ⟨⟨hcall, hcount, by omega⟩, by omega⟩

/-- The last pass. -/
theorem Going.last {s s' : Sending D M N} (h : Going dev offer toNat d input stop s)
    (hpass : Passed dev offer toNat running s s' false) :
    Gone dev offer toNat running d input s' := by
  have hcall := hpass.call h.device
  by_cases hzero : toNat s'.numMbufs = 0
  · obtain ⟨-, hasked⟩ := hpass.none hzero
    have hnone : s.mbufs.drop (dev.burst s.device (offer s.mbufs)).1 = [] :=
      List.eq_nil_of_length_eq_zero (hpass.count.symm.trans hzero)
    rw [hnone] at hcall
    refine ⟨⟨_, ?_, ?_, Nat.le_of_eq (congrArg (· + 1) hasked.symm)⟩, fun hne => absurd hzero hne⟩
    · rw [hzero, List.take_zero]
      exact hcall
    · omega
  · obtain ⟨hmbufs, hasked, hrunning⟩ := hpass.some hzero
    rw [← hmbufs, ← hasked] at hcall
    have hcount := hpass.count
    rw [← hmbufs] at hcount
    refine ⟨⟨_, ?_, Nat.le_refl _, Nat.le_succ _⟩, fun _ => ⟨s.asked, by omega, hrunning.symm⟩⟩
    rw [hcount, List.take_length]
    exact hcall

theorem finish_freed (toNat : N → Nat) (s : Sending D M N) :
    (s.finish toNat).freed = s.mbufs.take (toNat s.numMbufs) := by
  by_cases hzero : toNat s.numMbufs = 0
  · rw [Sending.finish, if_neg (by omega), hzero, List.take_zero]
  · rw [Sending.finish, if_pos (by omega)]

/-- What is left behind the loop is freed. -/
theorem Gone.partitioned {s : Sending D M N} (h : Gone dev offer toNat running d input s) :
    Partitioned dev offer running d input (s.finish toNat) := by
  obtain ⟨calls, hdrains, hbounds⟩ := h.device
  rw [← finish_freed] at hdrains
  refine ⟨⟨calls, hdrains, hbounds⟩, hdrains.parts, fun hnodup => ?_, fun hfreed => ?_⟩
  · rw [← hdrains.parts] at hnodup
    exact List.disjoint_of_nodup_append hnodup
  · refine h.stopped fun hzero => hfreed ?_
    rw [finish_freed, hzero, List.take_zero]

/-- **A tool whose passes take packets off the front.** -/
theorem partitions {pass : Sending D M N → Sending D M N × Bool}
    (hpass : ∀ s s' goes, toNat s.numMbufs = s.mbufs.length → pass s = (s', goes) →
      Passed dev offer toNat running s s' goes)
    (hstop : ∃ k, running k = false) {s : Sending D M N} (hsent : s.sent = [])
    (hcount : toNat s.numMbufs = s.mbufs.length) (hasked : s.asked = 0) :
    Returns (fun fuel => (run pass fuel s).map (Sending.finish toNat))
      (Partitioned dev offer running s.device s.mbufs) := by
  obtain ⟨stop, hno⟩ := hstop
  have hstart : Going dev offer toNat s.device s.mbufs stop s := by
    refine ⟨?_, hcount, by omega⟩
    rw [hsent, hasked]
    exact .start
  obtain ⟨s', ⟨enough, hend⟩, hgone⟩ := ends_of_variant pass
    (fun a b ha hab => ha.next (hpass a b true ha.count hab) hno)
    (fun a b ha hab => ha.last (hpass a b false ha.count hab)) hstart
  refine ⟨s'.finish toNat, ⟨enough, fun fuel hfuel => ?_⟩, hgone.partitioned⟩
  exact congrArg (Option.map (Sending.finish toNat)) (hend fuel hfuel)

end loops

/-! ## The passes -/

section passes
variable {D M : Type} {dev : Device D M} {running : Nat → Bool}

/-- The device takes at most what there is. -/
theorem txBurst_le_length (dev : Device D M) (d : D) (mbufs : List M) (n : Nat) :
    (dev.txBurst d (mbufs.take n)).1.toNat ≤ mbufs.length :=
  Nat.le_trans (dev.txBurst_le d (mbufs.take n)) (List.length_take_le' n mbufs)

theorem sub_toNat {a b : UInt16} {n : Nat} (ha : a.toNat = n) (hb : b.toNat ≤ n) :
    (a - b).toNat = n - b.toNat := by
  rw [UInt16.toNat_sub_of_le a b (UInt16.le_iff_toNat_le.mpr (by omega)), ha]

theorem retryPass_passed (full : UInt64 → UInt64) (s s' : Sending D M UInt16) (goes : Bool)
    (hcount : s.numMbufs.toNat = s.mbufs.length)
    (h : retryPass dev running full s = (s', goes)) :
    Passed dev offerAll UInt16.toNat running s s' goes := by
  have hle := txBurst_le_length dev s.device s.mbufs s.numMbufs.toNat
  have hsub := sub_toNat hcount hle
  have hall : s.mbufs.take s.numMbufs.toNat = offerAll s.mbufs := by
    rw [hcount]
    exact List.take_length
  simp only [retryPass, hall] at h
  rw [hall, ← List.length_drop] at hsub
  split at h
  · rename_i hzero
    cases h
    rw [hzero] at hsub
    refine ⟨rfl, rfl, ?_, fun hne => ?_, fun _ => ⟨rfl, rfl⟩⟩
    · rw [hzero]
      exact hsub
    · rw [hzero] at hne
      exact absurd rfl hne
  · rename_i hne
    cases h
    exact ⟨rfl, rfl, hsub, fun _ => ⟨rfl, rfl, rfl⟩, fun hz => absurd (UInt16.toNat_inj.mp hz) hne⟩

theorem cnpPass_passed (s s' : Sending D M UInt32) (goes : Bool)
    (hcount : s.numMbufs.toNat = s.mbufs.length) (h : Cnp.sendPass dev running s = (s', goes)) :
    Passed dev offerCut UInt32.toNat running s s' goes := by
  have hle := txBurst_le_length dev s.device s.mbufs s.numMbufs.toUInt16.toNat
  have hsub := UInt32.toNat_sub_of_le s.numMbufs
    (dev.txBurst s.device (s.mbufs.take s.numMbufs.toUInt16.toNat)).1.toUInt32
    (UInt32.le_iff_toNat_le.mpr (by
      rw [UInt16.toNat_toUInt32, hcount]
      exact hle))
  have hcut : s.mbufs.take s.numMbufs.toUInt16.toNat = offerCut s.mbufs := by
    rw [UInt32.toNat_toUInt16, hcount]
    rfl
  rw [hcount, UInt16.toNat_toUInt32, hcut, ← List.length_drop] at hsub
  simp only [Cnp.sendPass, hcut] at h
  split at h
  · rename_i hzero
    cases h
    refine ⟨rfl, rfl, hsub, fun hne => ?_, fun _ => ⟨rfl, rfl⟩⟩
    rw [hzero] at hne
    exact absurd rfl hne
  · rename_i hne
    cases h
    exact ⟨rfl, rfl, hsub, fun _ => ⟨rfl, rfl, rfl⟩, fun hz => absurd (UInt32.toNat_inj.mp hz) hne⟩

/-- **The three tools.** -/
theorem sendPackets_partition (dev : Device D M) (running : Nat → Bool)
    (hstop : ∃ k, running k = false) (d : D) (txRingFull : UInt64) (mbufs : List M) :
    (∀ numMbufs : UInt16, numMbufs.toNat = mbufs.length →
      Returns (fun fuel => Ratt.sendPackets dev running fuel d txRingFull mbufs numMbufs)
        (Partitioned dev offerAll running d mbufs)) ∧
      (∀ numMbufs : UInt16, numMbufs.toNat = mbufs.length →
        Returns (fun fuel => Lttt.sendPackets dev running fuel d mbufs numMbufs)
          (Partitioned dev offerAll running d mbufs)) ∧
      ∀ numMbufs : UInt32, numMbufs.toNat = mbufs.length →
        Returns (fun fuel => Cnp.sendPackets dev running fuel d mbufs numMbufs)
          (Partitioned dev offerCut running d mbufs) := by
  refine ⟨fun numMbufs hcount => ?_, fun numMbufs hcount => ?_, fun numMbufs hcount => ?_⟩
  · exact partitions (retryPass_passed _) hstop rfl hcount rfl
  · exact partitions (retryPass_passed _) hstop rfl hcount rfl
  · exact partitions cnpPass_passed hstop rfl hcount rfl

end passes

/-- A device that takes two packets at a time. -/
def pairs : Device Unit Nat where
  txBurst _ mbufs := (UInt16.ofNat (min 2 mbufs.length), ())
  txBurst_le _ mbufs := by
    rw [UInt16.toNat_ofNat']
    exact Nat.le_trans (Nat.mod_le _ _) (Nat.min_le_right 2 mbufs.length)

theorem sendPackets_partition_pairs :
    let running := fun k => decide (k < 1)
    Returns (fun fuel => Ratt.sendPackets pairs running fuel () 0 [1, 2, 3, 4, 5] 5)
        (Partitioned pairs offerAll running () [1, 2, 3, 4, 5]) ∧
      (Ratt.sendPackets pairs running 9 () 0 [1, 2, 3, 4, 5] 5).map (fun r => (r.sent, r.freed)) =
        some ([1, 2, 3, 4], [5]) :=
  ⟨(sendPackets_partition pairs (fun k => decide (k < 1)) ⟨1, rfl⟩ () 0 [1, 2, 3, 4, 5]).1 5 rfl,
    rfl⟩

end Rtdk.SendPackets
