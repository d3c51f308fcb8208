import Mathlib.Data.List.Count
import Mathlib.Data.UInt
import Rtdk.Tally
import Rtdk.GlobalStats
import Rtdk.Rtt
import Rtdk.ConfigFile

/-! The histograms of round-trip times (`hist.c`).

Every frame type has one counter for each microsecond between the configured
bounds, one for what is above and one for what is below. The counters are an
array from `rte_calloc_socket`; an access outside of it is `none`. Counters are
64 bits wide, so they hold numbers of updates modulo `2^64`. -/

namespace Rtdk.Hist
open Rtdk.Tally Rtdk.NetDef Rtdk.Config Rtdk.ConfigFile Rtdk.Thread Rtdk.StatRun Rtdk.GlobalStats
open Rtdk.Rtt
open Rtdk.Stat hiding Histogram histogramUpdate

/-! ## The histograms -/

/-- `struct histogram`. No memory for `data` is an empty list. -/
structure Histogram where
  data : List UInt64
  min : UInt64
  max : UInt64
  underflow : UInt64
  overflow : UInt64
  deriving DecidableEq, Repr

/-- A histogram before `histogram_init`. -/
def Histogram.unset : Histogram := ⟨[], 0, 0, 0, 0⟩

abbrev Histograms := FrameType → Histogram

/-- `for (i = 0; i < NUM_FRAME_TYPES; i++)`. -/
def frameTypes : List FrameType :=
  [.tsnHigh, .tsnLow, .rtc, .rta, .dcp, .lldp, .udpHigh, .udpLow, .l2]

theorem mem_frameTypes (ty : FrameType) : ty ∈ frameTypes := by
  cases ty <;> decide

def enomem : Int32 := 12

/-- Zeroed memory for `num` elements. DPDK returns `NULL` for none, and when
there is no memory left. -/
def rteCallocSocket {α : Type} (granted : Bool) (zero : α) (num : UInt64) : Option (List α) :=
  if granted && num != 0 then some (List.replicate num.toNat zero) else none

/-- The loop of `histogram_init` over the frame types that are left. -/
def initFrom (granted : FrameType → Bool) (minNs maxNs : UInt64) :
    List FrameType → Histograms → Int32 × Histograms
  | [], hists => (0, hists)
  | ty :: tys, hists =>
    let hist := { hists ty with min := minNs / 1000, max := maxNs / 1000 }
    match rteCallocSocket (granted ty) (0 : UInt64) (hist.max - hist.min) with
    | none => (-enomem, Function.update hists ty { hist with data := [] })
    | some data => initFrom granted minNs maxNs tys (Function.update hists ty { hist with data })

def histogramInit (cfg : AppConfig) (mirrorMode : Bool) (granted : FrameType → Bool) :
    Int32 × Histograms :=
  if !cfg.statsHistogramEnabled || mirrorMode then (0, fun _ => .unset)
  else initFrom granted cfg.statsHistogramMinimumNs cfg.statsHistogramMaximumNs frameTypes
    fun _ => .unset

def histogramUpdate (hists : Histograms) (ty : FrameType) (rtt : UInt64) : Option Histograms :=
  let hist := hists ty
  let sample := rtt - hist.min
  if rtt ≥ hist.max then
    some (Function.update hists ty { hist with overflow := hist.overflow + 1 })
  else if rtt < hist.min then
    some (Function.update hists ty { hist with underflow := hist.underflow + 1 })
  else if sample.toNat < hist.data.length then
    some (Function.update hists ty { hist with data := hist.data.modify sample.toNat (· + 1) })
  else none

/-- A sequence of calls. -/
def updates (hists : Histograms) (us : List (FrameType × UInt64)) : Option Histograms :=
  us.foldlM (fun hists u => histogramUpdate hists u.1 u.2) hists

/-! ## The file -/

/-- `"%08" PRIu64`. -/
def pad8 (v : UInt64) : String :=
  let digits := toString v.toNat
  "".pushn '0' (8 - digits.length) ++ digits

/-- `hist->data[rtt - hist->min]`. -/
def Histogram.entry (hist : Histogram) (rtt : UInt64) : Option UInt64 :=
  hist.data[(rtt - hist.min).toNat]?

/-- Whether a type has a sample of this value. The loop stops at the first one. -/
def hasSample (hists : Histograms) (rtt : UInt64) : List FrameType → Option Bool
  | [] => some false
  | ty :: tys => do
    let n ← (hists ty).entry rtt
    if n ≠ 0 then some true else hasSample hists rtt tys

/-- One counter of each type, each followed by two blanks. -/
def columns (ns : List UInt64) : String := String.join (ns.map fun n => pad8 n ++ "  ")

def row (rtt : UInt64) (ns : List UInt64) : String := pad8 rtt ++ ": " ++ columns ns ++ "\n"

/-- The lines for the values from `rtt` on. -/
def writeRows (hists : Histograms) (max rtt : UInt64) : Option (List String) :=
  if rtt < max then do
    let print ← hasSample hists rtt frameTypes
    let lines ← if print then do
        let ns ← frameTypes.mapM fun ty => (hists ty).entry rtt
        some [row rtt ns]
      else some []
    let rest ← writeRows hists max (rtt + 1)
    some (lines ++ rest)
  else some []
termination_by max.toNat - rtt.toNat
decreasing_by
  rename_i h
  have hlt := UInt64.lt_iff_toNat_lt.mp h
  have hmax := max.toNat_lt
  rw [UInt64.toNat_add, UInt64.toNat_one, Nat.mod_eq_of_lt (by omega)]
  omega

def header : String :=
  "Testbench RTT Histogram: " ++ String.intercalate " " (frameTypes.map FrameType.name) ++ "\n"

/-- What a call of `histogram_write` returns, complains about and leaves in the
file, if it opens one. -/
structure Written where
  ret : Int32
  complaints : List Complaint
  file : Option (List String)
  deriving DecidableEq, Repr

/-- `fopen` opens the file or fails with the text of an error. -/
def histogramWrite (enabled : Bool) (path : List UInt8) (fopen : Except String Unit)
    (hists : Histograms) : Option Written :=
  if !enabled then some ⟨0, [], none⟩
  else
    match fopen with
    | .error text =>
      some ⟨-einval, [("Failed to open file '%s': %s!\n", [.bytes path, .str text])], none⟩
    | .ok () => do
      let rows ← writeRows hists (hists .tsnHigh).max (hists .tsnHigh).min
      let overflow := "Overflow: " ++ columns (frameTypes.map fun ty => (hists ty).overflow) ++ "\n"
      let underflow :=
        "Underflow: " ++ columns (frameTypes.map fun ty => (hists ty).underflow) ++ "\n"
      some ⟨0, [], some (header :: (rows ++ [overflow, underflow]))⟩

/-! ## What the counters hold -/

/-- The samples of a type, in the order of the calls. -/
def samplesOf (ty : FrameType) (us : List (FrameType × UInt64)) : List UInt64 :=
  (us.filter fun u => decide (u.1 = ty)).map Prod.snd

/-- The samples at a distance from the minimum. -/
def countAt (min : UInt64) (xs : List UInt64) (i : Nat) : Nat :=
  (xs.map UInt64.toNat).count (min.toNat + i)

/-- The invariant: each counter of a histogram holds the number of its samples. -/
structure Holds (min max : UInt64) (hist : Histogram) (xs : List UInt64) : Prop where
  min_eq : hist.min = min
  max_eq : hist.max = max
  data : Counts hist.data (max.toNat - min.toNat) (countAt min xs)
  overflow : hist.overflow = UInt64.ofNat (xs.countP (fun x => decide (x ≥ max)))
  underflow : hist.underflow = UInt64.ofNat (xs.countP (fun x => decide (x < min)))

def HoldsAll (min max : UInt64) (hists : Histograms) (us : List (FrameType × UInt64)) : Prop :=
  ∀ ty, Holds min max (hists ty) (samplesOf ty us)

/-- All counters of a histogram together. -/
def Histogram.total (hist : Histogram) : UInt64 := hist.data.sum + hist.overflow + hist.underflow

section counters
variable {min max : UInt64} {hist : Histogram} {hists : Histograms} {xs : List UInt64}
variable {us : List (FrameType × UInt64)}

theorem samplesOf_append (ty : FrameType) (us us' : List (FrameType × UInt64)) :
    samplesOf ty (us ++ us') = samplesOf ty us ++ samplesOf ty us' := by
  rw [samplesOf, List.filter_append, List.map_append, ← samplesOf, ← samplesOf]

theorem samplesOf_same (ty : FrameType) (rtt : UInt64) : samplesOf ty [(ty, rtt)] = [rtt] := by
  simp [samplesOf]

theorem samplesOf_other {ty ty' : FrameType} (h : ty ≠ ty') (rtt : UInt64) :
    samplesOf ty' [(ty, rtt)] = [] := by
  simp [samplesOf, h]

theorem countAt_snoc (min : UInt64) (xs : List UInt64) (x : UInt64) (i : Nat) :
    countAt min (xs ++ [x]) i = countAt min xs i + if x.toNat = min.toNat + i then 1 else 0 := by
  simp [countAt, List.count_append, List.count_singleton]

theorem countP_snoc (p : UInt64 → Bool) (xs : List UInt64) (x : UInt64) :
    UInt64.ofNat ((xs ++ [x]).countP p) =
      UInt64.ofNat (xs.countP p) + if p x = true then 1 else 0 := by
  rw [List.countP_append, List.countP_singleton, UInt64.ofNat_add]
  split <;> rfl

/-- The difference is taken before the bounds are tested, but used only behind
the tests. -/
theorem toNat_sample {rtt : UInt64} (h : ¬ rtt < min) : (rtt - min).toNat = rtt.toNat - min.toNat :=
  UInt64.toNat_sub_of_le _ _ (UInt64.not_lt.mp h)

/-- **One call.**  It finds its counter, and each counter holds one sample more or
as many as before. -/
theorem HoldsAll.update (h : HoldsAll min max hists us) (hlt : min < max) (ty : FrameType)
    (rtt : UInt64) :
    ∃ hists', histogramUpdate hists ty rtt = some hists' ∧
      HoldsAll min max hists' (us ++ [(ty, rtt)]) := by
  have hnat := UInt64.lt_iff_toNat_lt.mp hlt
  have hothers (hist : Histogram) (hist_ok : Holds min max hist (samplesOf ty us ++ [rtt])) :
      HoldsAll min max (Function.update hists ty hist) (us ++ [(ty, rtt)]) := by
    intro ty'
    rw [samplesOf_append]
    by_cases hty : ty = ty'
    · subst hty
      rw [Function.update_self, samplesOf_same]
      exact hist_ok
    · rw [Function.update_of_ne (Ne.symm hty), samplesOf_other hty, List.append_nil]
      exact h ty'
  obtain ⟨hmin, hmax, hdata, hover, hunder⟩ := h ty
  unfold histogramUpdate
  simp only [hmin, hmax]
  by_cases habove : rtt ≥ max
  · rw [if_pos habove]
    have hge := UInt64.le_iff_toNat_le.mp habove
    have hnotbelow : ¬ rtt < min := by
      rw [UInt64.lt_iff_toNat_lt]
      omega
    refine ⟨_, rfl, hothers _ ⟨rfl, rfl, ?_, ?_, ?_⟩⟩
    · refine hdata.congr fun i hi => ?_
      rw [countAt_snoc, if_neg (by omega), Nat.add_zero]
    · rw [countP_snoc, if_pos (by simpa using habove), ← hover]
    · rw [countP_snoc, if_neg (by simpa using hnotbelow), UInt64.add_zero, ← hunder]
  · rw [if_neg habove]
    have hnotabove := habove
    rw [ge_iff_le, UInt64.le_iff_toNat_le] at hnotabove
    by_cases hbelow : rtt < min
    · rw [if_pos hbelow]
      have hb := UInt64.lt_iff_toNat_lt.mp hbelow
      refine ⟨_, rfl, hothers _ ⟨rfl, rfl, ?_, ?_, ?_⟩⟩
      · refine hdata.congr fun i hi => ?_
        rw [countAt_snoc, if_neg (by omega), Nat.add_zero]
      · rw [countP_snoc, if_neg (by simpa using habove), UInt64.add_zero, ← hover]
      · rw [countP_snoc, if_pos (by simpa using hbelow), ← hunder]
    · have hb := hbelow
      rw [UInt64.lt_iff_toNat_lt] at hb
      rw [if_neg hbelow, if_pos (by rw [toNat_sample hbelow, hdata.length]; omega)]
      refine ⟨_, rfl, hothers _ ⟨rfl, rfl, ?_, ?_, ?_⟩⟩
      · refine (hdata.bump _).congr fun i hi => ?_
        rw [countAt_snoc, toNat_sample hbelow]
        congr 1
        exact if_congr (by omega) rfl rfl
      · rw [countP_snoc, if_neg (by simpa using habove), UInt64.add_zero, ← hover]
      · rw [countP_snoc, if_neg (by simpa using hbelow), UInt64.add_zero, ← hunder]

/-- **A sequence of calls.** -/
theorem HoldsAll.updates (h : HoldsAll min max hists us) (hlt : min < max)
    (us' : List (FrameType × UInt64)) :
    ∃ hists', updates hists us' = some hists' ∧ HoldsAll min max hists' (us ++ us') := by
  induction us' generalizing hists us with
  | nil => exact ⟨hists, rfl, by rwa [List.append_nil]⟩
  | cons u us' ih =>
    obtain ⟨hists1, hstep, h1⟩ := h.update hlt u.1 u.2
    obtain ⟨hists', hrest, h'⟩ := ih h1
    refine ⟨hists', ?_, by rwa [List.append_assoc] at h'⟩
    rw [Hist.updates, List.foldlM_cons, hstep]
    exact hrest

/-- Every sample is below the bounds, above them, or at one distance from the
minimum. -/
theorem length_eq_counts (hlt : min < max) (xs : List UInt64) :
    xs.length = xs.countP (fun x => decide (x < min)) + xs.countP (fun x => decide (x ≥ max)) +
      ((List.range (max.toNat - min.toNat)).map (countAt min xs)).sum := by
  have hnat := UInt64.lt_iff_toNat_lt.mp hlt
  have hparts := length_eq_parts min.toNat (max.toNat - min.toNat) (xs.map UInt64.toNat)
  rw [List.length_map, List.countP_map, List.countP_map,
    show min.toNat + (max.toNat - min.toNat) = max.toNat by omega] at hparts
  have hunder : xs.countP (fun x => decide (x < min)) =
      xs.countP ((fun n => decide (n < min.toNat)) ∘ UInt64.toNat) :=
    List.countP_congr fun x _ => by simp [UInt64.lt_iff_toNat_lt]
  have hover : xs.countP (fun x => decide (x ≥ max)) =
      xs.countP ((fun n => decide (max.toNat ≤ n)) ∘ UInt64.toNat) :=
    List.countP_congr fun x _ => by simp [UInt64.le_iff_toNat_le]
  rw [hunder, hover]
  exact hparts

/-- **Conservation.**  The counters add up to the number of updates. -/
theorem Holds.total (h : Holds min max hist xs) (hlt : min < max) :
    hist.total = UInt64.ofNat xs.length := by
  rw [Histogram.total, h.data.sum, h.overflow, h.underflow, ← UInt64.ofNat_add,
    ← UInt64.ofNat_add, length_eq_counts hlt]
  congr 1
  omega

theorem Holds.entry (h : Holds min max hist xs) {v : UInt64} (hmin : min ≤ v) (hmax : v < max) :
    hist.entry v = some (UInt64.ofNat (xs.count v)) := by
  have hlo := UInt64.le_iff_toNat_le.mp hmin
  have hhi := UInt64.lt_iff_toNat_lt.mp hmax
  have hsub : (v - min).toNat = v.toNat - min.toNat := UInt64.toNat_sub_of_le _ _ hmin
  rw [Histogram.entry, h.min_eq, hsub, h.data.entry _ (by omega), countAt,
    Nat.add_sub_cancel' hlo,
    List.count_map_of_injective xs UInt64.toNat (fun _ _ => UInt64.toNat_inj.mp)]

end counters

/-! ## What the file says -/

/-- The values from `lo` up to, not including, `hi`. -/
def values (lo hi : UInt64) : List UInt64 :=
  (List.range' lo.toNat (hi.toNat - lo.toNat)).map UInt64.ofNat

theorem mem_values {lo hi v : UInt64} : v ∈ values lo hi ↔ lo ≤ v ∧ v < hi := by
  have hhi := hi.toNat_lt
  simp only [values, List.mem_map, List.mem_range'_1, UInt64.le_iff_toNat_le,
    UInt64.lt_iff_toNat_lt]
  constructor
  · rintro ⟨n, hn, rfl⟩
    have hn64 : n < 2 ^ 64 := by omega
    rw [UInt64.toNat_ofNat_of_lt' hn64]
    omega
  · rintro ⟨hlo, hlt⟩
    exact ⟨v.toNat, by omega, UInt64.ofNat_toNat⟩

theorem values_increasing (lo hi : UInt64) : (values lo hi).Pairwise (· < ·) := by
  have hhi := hi.toNat_lt
  rw [values, List.pairwise_map]
  refine List.Pairwise.imp_of_mem ?_ List.pairwise_lt_range'
  intro a b ha hb hab
  rw [List.mem_range'_1] at ha hb
  have ha64 : a < 2 ^ 64 := by omega
  have hb64 : b < 2 ^ 64 := by omega
  rw [UInt64.lt_iff_toNat_lt, UInt64.toNat_ofNat_of_lt' ha64, UInt64.toNat_ofNat_of_lt' hb64]
  exact hab

theorem values_cons {lo hi : UInt64} (h : lo < hi) : values lo hi = lo :: values (lo + 1) hi := by
  have hlt := UInt64.lt_iff_toNat_lt.mp h
  have hhi := hi.toNat_lt
  have hsucc : (lo + 1).toNat = lo.toNat + 1 := by
    rw [UInt64.toNat_add, UInt64.toNat_one, Nat.mod_eq_of_lt (by omega)]
  rw [values, values, hsucc, show hi.toNat - lo.toNat = hi.toNat - (lo.toNat + 1) + 1 by omega,
    List.range'_succ, List.map_cons, UInt64.ofNat_toNat]

theorem values_nil {lo hi : UInt64} (h : ¬ lo < hi) : values lo hi = [] := by
  rw [UInt64.lt_iff_toNat_lt] at h
  rw [values, Nat.sub_eq_zero_of_le (by omega)]
  rfl

section file
variable {hists : Histograms} {n : FrameType → UInt64 → UInt64} {lo hi v : UInt64}

theorem hasSample_eq (hn : ∀ ty, (hists ty).entry v = some (n ty v)) (tys : List FrameType) :
    hasSample hists v tys = some (tys.any fun ty => n ty v != 0) := by
  induction tys with
  | nil => rfl
  | cons ty tys ih =>
    rw [hasSample, hn, List.any_cons]
    by_cases hzero : n ty v = 0
    · simp [hzero, ih]
    · simp [hzero]

theorem entries_eq (hn : ∀ ty, (hists ty).entry v = some (n ty v)) (tys : List FrameType) :
    (tys.mapM fun ty => (hists ty).entry v) = some (tys.map fun ty => n ty v) := by
  induction tys with
  | nil => rfl
  | cons ty tys ih =>
    rw [List.mapM_cons, hn, ih]
    rfl

/-- **The loop.**  It writes one line for each value that has a sample. -/
theorem writeRows_eq (hn : ∀ ty v, lo ≤ v → v < hi → (hists ty).entry v = some (n ty v)) :
    writeRows hists hi lo =
      some (((values lo hi).filter fun v => frameTypes.any fun ty => n ty v != 0).map fun v =>
        row v (frameTypes.map fun ty => n ty v)) := by
  induction hd : hi.toNat - lo.toNat generalizing lo with
  | zero =>
    have hge : ¬ lo < hi := by
      rw [UInt64.lt_iff_toNat_lt]
      omega
    rw [writeRows, if_neg hge, values_nil hge]
    rfl
  | succ d ih =>
    have hlt : lo < hi := by
      rw [UInt64.lt_iff_toNat_lt]
      omega
    have hhi := hi.toNat_lt
    have hsucc : (lo + 1).toNat = lo.toNat + 1 := by
      rw [UInt64.toNat_add, UInt64.toNat_one, Nat.mod_eq_of_lt (by omega)]
    have hnext : ∀ ty v, lo + 1 ≤ v → v < hi → (hists ty).entry v = some (n ty v) := by
      intro ty v hv hv'
      refine hn ty v ?_ hv'
      rw [UInt64.le_iff_toNat_le] at hv ⊢
      omega
    have hrest := ih hnext (by omega)
    have hhere : ∀ ty, (hists ty).entry lo = some (n ty lo) := fun ty =>
      hn ty lo (UInt64.le_refl _) hlt
    rw [writeRows, if_pos hlt, hasSample_eq hhere, hrest, values_cons hlt, List.filter_cons]
    cases hany : frameTypes.any fun ty => n ty lo != 0 with
    | true => simp [entries_eq hhere]
    | false => simp

end file

/-! ## Reports -/

/-- The file with lines for the values `vs`. -/
def report (min max : UInt64) (us : List (FrameType × UInt64)) (vs : List UInt64) : List String :=
  let count := fun ty v => UInt64.ofNat ((samplesOf ty us).count v)
  let above := fun ty => UInt64.ofNat ((samplesOf ty us).countP fun x => decide (x ≥ max))
  let below := fun ty => UInt64.ofNat ((samplesOf ty us).countP fun x => decide (x < min))
  header :: (vs.map (fun v => row v (frameTypes.map fun ty => count ty v)) ++
    ["Overflow: " ++ columns (frameTypes.map above) ++ "\n",
      "Underflow: " ++ columns (frameTypes.map below) ++ "\n"])

/-- What the histograms and the file say after the updates `us`. Every number is
reported through `w`: as it is, or cut to the width of a counter. -/
structure Reported (w : Nat → Nat) (min max : UInt64) (us : List (FrameType × UInt64))
    (hists : Histograms) (file : List String) : Prop where
  bucket : ∀ ty v, min ≤ v → v < max →
    ((hists ty).entry v).map UInt64.toNat = some (w ((samplesOf ty us).count v))
  overflow : ∀ ty,
    (hists ty).overflow.toNat = w ((samplesOf ty us).countP fun x => decide (x ≥ max))
  underflow : ∀ ty,
    (hists ty).underflow.toNat = w ((samplesOf ty us).countP fun x => decide (x < min))
  total : ∀ ty, w (((hists ty).data.map UInt64.toNat).sum + (hists ty).overflow.toNat +
    (hists ty).underflow.toNat) = w (samplesOf ty us).length
  /-- One line for each value that has a sample, in increasing order. -/
  lines : ∃ vs : List UInt64, vs.Pairwise (· < ·) ∧
    (∀ v, v ∈ vs ↔ min ≤ v ∧ v < max ∧ ∃ ty, w ((samplesOf ty us).count v) ≠ 0) ∧
    file = report min max us vs

section reports
variable {min max : UInt64} {hists : Histograms} {us : List (FrameType × UInt64)}

theorem sum_toNat (ns : List UInt64) :
    (ns.map UInt64.toNat).sum % 2 ^ 64 = ns.sum.toNat := by
  induction ns with
  | nil => rfl
  | cons n ns ih =>
    rw [List.map_cons, List.sum_cons, List.sum_cons, UInt64.toNat_add, ← ih, Nat.add_mod_mod]

/-- The file of `histogram_write`. -/
theorem HoldsAll.write (h : HoldsAll min max hists us) (path : List UInt8) :
    histogramWrite true path (.ok ()) hists =
      some ⟨0, [], some (report min max us ((values min max).filter fun v =>
        frameTypes.any fun ty => UInt64.ofNat ((samplesOf ty us).count v) != 0))⟩ := by
  have hentry : ∀ ty v, min ≤ v → v < max →
      (hists ty).entry v = some (UInt64.ofNat ((samplesOf ty us).count v)) :=
    fun ty v hmin hmax => (h ty).entry hmin hmax
  have hrows := writeRows_eq hentry
  have hover : (fun ty => (hists ty).overflow) = fun ty =>
      UInt64.ofNat ((samplesOf ty us).countP fun x => decide (x ≥ max)) :=
    funext fun ty => (h ty).overflow
  have hunder : (fun ty => (hists ty).underflow) = fun ty =>
      UInt64.ofNat ((samplesOf ty us).countP fun x => decide (x < min)) :=
    funext fun ty => (h ty).underflow
  simp only [histogramWrite, Bool.not_true, Bool.false_eq_true, if_false, (h .tsnHigh).min_eq,
    (h .tsnHigh).max_eq, hrows, hover, hunder]
  rfl

/-- **What is reported.**  All numbers of updates, modulo `2^64`. -/
theorem HoldsAll.reported (h : HoldsAll min max hists us) (hlt : min < max) (path : List UInt8) :
    ∃ file, histogramWrite true path (.ok ()) hists = some ⟨0, [], some file⟩ ∧
      Reported (· % 2 ^ 64) min max us hists file := by
  refine ⟨_, h.write path, ?_, ?_, ?_, ?_, _, (values_increasing min max).filter _, ?_, rfl⟩
  · intro ty v hmin hmax
    rw [(h ty).entry hmin hmax, Option.map_some, UInt64.toNat_ofNat']
  · intro ty
    rw [(h ty).overflow, UInt64.toNat_ofNat']
  · intro ty
    rw [(h ty).underflow, UInt64.toNat_ofNat']
  · intro ty
    have htotal := congrArg UInt64.toNat ((h ty).total hlt)
    rw [Histogram.total, UInt64.toNat_add, UInt64.toNat_add, ← sum_toNat, Nat.mod_add_mod,
      Nat.add_assoc, Nat.mod_add_mod, ← Nat.add_assoc, UInt64.toNat_ofNat'] at htotal
    exact htotal
  · intro v
    rw [List.mem_filter, mem_values, List.any_eq_true, and_assoc]
    refine and_congr_right fun _ => and_congr_right fun _ => ?_
    simp only [bne_iff_ne, ne_eq, ← UInt64.toNat_inj, UInt64.toNat_ofNat', UInt64.toNat_zero]
    exact ⟨fun ⟨ty, _, hty⟩ => ⟨ty, hty⟩, fun ⟨ty, hty⟩ => ⟨ty, mem_frameTypes ty, hty⟩⟩

/-- As long as no type has `2^64` updates, the numbers are reported as they are. -/
theorem HoldsAll.exact (h : HoldsAll min max hists us) (hlt : min < max)
    (hfew : ∀ ty, (samplesOf ty us).length < 2 ^ 64) {file : List String}
    (hr : Reported (· % 2 ^ 64) min max us hists file) :
    Reported (fun n => n) min max us hists file := by
  have hcount (ty : FrameType) (v : UInt64) :
      (samplesOf ty us).count v % 2 ^ 64 = (samplesOf ty us).count v :=
    Nat.mod_eq_of_lt (Nat.lt_of_le_of_lt List.count_le_length (hfew ty))
  have hcountP (ty : FrameType) (p : UInt64 → Bool) :
      (samplesOf ty us).countP p % 2 ^ 64 = (samplesOf ty us).countP p :=
    Nat.mod_eq_of_lt (Nat.lt_of_le_of_lt List.countP_le_length (hfew ty))
  obtain ⟨vs, hsorted, hmem, hfile⟩ := hr.lines
  refine ⟨?_, ?_, ?_, ?_, vs, hsorted, ?_, hfile⟩
  · intro ty v hmin hmax
    rw [hr.bucket ty v hmin hmax, hcount]
  · intro ty
    rw [hr.overflow ty, hcountP]
  · intro ty
    rw [hr.underflow ty, hcountP]
  · intro ty
    have hdata : (hists ty).data.map UInt64.toNat =
        (List.range (max.toNat - min.toNat)).map (countAt min (samplesOf ty us)) := by
      rw [(h ty).data.eq_map, List.map_map]
      refine List.map_congr_left fun i _ => ?_
      have hle : countAt min (samplesOf ty us) i ≤ (samplesOf ty us).length := by
        have hlen := List.count_le_length (a := min.toNat + i)
          (l := (samplesOf ty us).map UInt64.toNat)
        rwa [List.length_map] at hlen
      exact UInt64.toNat_ofNat_of_lt' (Nat.lt_of_le_of_lt hle (hfew ty))
    have hparts := length_eq_counts hlt (samplesOf ty us)
    rw [hdata, hr.overflow ty, hr.underflow ty, hcountP, hcountP]
    omega
  · intro v
    simp only [hmem, hcount]

end reports

/-! ## From the configuration to the file -/

/-- The histogram of a type after a successful start. -/
def Histogram.cleared (min max : UInt64) : Histogram :=
  ⟨List.replicate (max - min).toNat 0, min, max, 0, 0⟩

theorem initFrom_ok {granted : FrameType → Bool} (hgranted : ∀ ty, granted ty = true)
    {minNs maxNs : UInt64} (hlt : minNs / 1000 < maxNs / 1000) (tys : List FrameType)
    (hists : Histograms) (hunset : ∀ ty, hists ty = .unset ∨
      hists ty = .cleared (minNs / 1000) (maxNs / 1000)) :
    ∃ hists', initFrom granted minNs maxNs tys hists = (0, hists') ∧
      ∀ ty, hists' ty = if ty ∈ tys then .cleared (minNs / 1000) (maxNs / 1000) else hists ty := by
  induction tys generalizing hists with
  | nil => exact ⟨hists, rfl, fun ty => by rw [if_neg List.not_mem_nil]⟩
  | cons ty tys ih =>
    have hne : maxNs / 1000 - minNs / 1000 ≠ 0 := by
      intro hzero
      have hle := UInt64.le_of_lt hlt
      have hsub := congrArg UInt64.toNat hzero
      rw [UInt64.toNat_sub_of_le _ _ hle, UInt64.toNat_zero] at hsub
      have := UInt64.lt_iff_toNat_lt.mp hlt
      omega
    have hcalloc : rteCallocSocket (granted ty) (0 : UInt64) (maxNs / 1000 - minNs / 1000) =
        some (List.replicate (maxNs / 1000 - minNs / 1000).toNat 0) := by
      rw [rteCallocSocket, hgranted ty, if_pos (by simpa using hne)]
    have hclear : ({ hists ty with
        data := List.replicate (maxNs / 1000 - minNs / 1000).toNat 0
        min := minNs / 1000
        max := maxNs / 1000 } : Histogram) = .cleared (minNs / 1000) (maxNs / 1000) := by
      rcases hunset ty with h | h <;> rw [h] <;> rfl
    obtain ⟨hists', hinit, hrest⟩ := ih
      (Function.update hists ty (.cleared (minNs / 1000) (maxNs / 1000))) (fun ty' => by
        by_cases hty : ty' = ty
        · subst hty
          rw [Function.update_self]
          exact .inr rfl
        · rw [Function.update_of_ne hty]
          exact hunset ty')
    refine ⟨hists', ?_, fun ty' => ?_⟩
    · simp only [initFrom, hcalloc, hclear]
      exact hinit
    · rw [hrest ty']
      by_cases hty : ty' = ty
      · subst hty
        simp
      · simp [hty]

/-- `histogram_init` of a reference with memory: an empty histogram for each type. -/
theorem histogramInit_holds {cfg : AppConfig} (hen : cfg.statsHistogramEnabled = true)
    {granted : FrameType → Bool} (hgranted : ∀ ty, granted ty = true)
    (hlt : cfg.statsHistogramMinimumNs / 1000 < cfg.statsHistogramMaximumNs / 1000) :
    ∃ hists, histogramInit cfg false granted = (0, hists) ∧
      HoldsAll (cfg.statsHistogramMinimumNs / 1000) (cfg.statsHistogramMaximumNs / 1000) hists [] := by
  obtain ⟨hists, hinit, hall⟩ := initFrom_ok hgranted hlt frameTypes (fun _ => .unset)
    fun _ => .inl rfl
  refine ⟨hists, by simp only [histogramInit, hen]; exact hinit, fun ty => ?_⟩
  rw [hall ty, if_pos (mem_frameTypes ty)]
  refine ⟨rfl, rfl, ?_, rfl, rfl⟩
  have hzero := counts_zero ((cfg.statsHistogramMaximumNs / 1000).toNat -
    (cfg.statsHistogramMinimumNs / 1000).toNat)
  rw [← UInt64.toNat_sub_of_le _ _ (UInt64.le_of_lt hlt)] at hzero ⊢
  exact hzero

/-! ## Runs of the statistics -/

/-- The samples the received frames of a run take. -/
def roundTrips (cfg : StatConfig) : StatPrivate → List Event → List (FrameType × UInt64)
  | _, [] => []
  | s, e :: es =>
    (match e with
      | .sent _ _ _ => []
      | .received ty k _ _ _ _ now => [(ty, (roundTripSample cfg s ty k now).rtTime)]) ++
      roundTrips cfg (e.call cfg s).stat es

/-- The histogram of the statistics is the one with the array. -/
structure Agrees (hist : Histogram) (h : Stat.Histogram) : Prop where
  min_eq : hist.min = h.min
  max_eq : hist.max = h.max
  overflow : hist.overflow = h.overflow
  underflow : hist.underflow = h.underflow
  data : ∀ i n, hist.data[i]? = some n → h.data i = n

theorem Agrees.update {hists hists' : Histograms} {ty : FrameType} {h : Stat.Histogram}
    (ha : Agrees (hists ty) h) {rtt : UInt64} (hstep : histogramUpdate hists ty rtt = some hists') :
    Agrees (hists' ty) (Stat.histogramUpdate h rtt) ∧ ∀ t, t ≠ ty → hists' t = hists t := by
  have hmin := ha.min_eq
  have hmax := ha.max_eq
  unfold histogramUpdate at hstep
  unfold Stat.histogramUpdate
  simp only [hmin, hmax] at hstep ⊢
  split at hstep
  · cases hstep
    rename_i habove
    rw [if_pos habove, Function.update_self]
    exact ⟨⟨rfl, rfl, by simp [ha.overflow], ha.underflow, ha.data⟩,
      fun t ht => Function.update_of_ne ht _ _⟩
  · rename_i habove
    rw [if_neg habove]
    split at hstep
    · cases hstep
      rename_i hbelow
      rw [if_pos hbelow, Function.update_self]
      exact ⟨⟨rfl, rfl, ha.overflow, by simp [ha.underflow], ha.data⟩,
        fun t ht => Function.update_of_ne ht _ _⟩
    · rename_i hbelow
      rw [if_neg hbelow]
      split at hstep
      · cases hstep
        rw [Function.update_self]
        exact ⟨⟨rfl, rfl, ha.overflow, ha.underflow, modify_agrees ha.data _⟩,
          fun t ht => Function.update_of_ne ht _ _⟩
      · cases hstep

section run
variable {cfg : StatConfig} {s s' : StatPrivate} {hists : Histograms}

/-- A sent frame is not sampled. -/
theorem sent_unsampled {ty : FrameType} {k t : UInt64}
    (h : (statFrameSent cfg s ty k t).halt = none) (t' : FrameType) :
    (statFrameSent cfg s ty k t).stat.histograms t' = s.histograms t' ∧
      ((statFrameSent cfg s ty k t).stat.globalStatistics t').roundTripCount =
        (s.globalStatistics t').roundTripCount := by
  constructor
  · unfold statFrameSent at h ⊢
    simp only at h ⊢
    split at h
    · cases h
    · rename_i hz
      simp only [if_neg hz, statFrameSentPerPeriod]
      cases cfg.mirrorMode <;> cases cfg.withMqtt <;> rfl
  · rw [sent_global h, setAt]
    split
    · rename_i heq
      subst heq
      rfl
    · rfl

/-- Nor is a frame of another type. -/
theorem received_unsampled {ty t' : FrameType} {k : UInt64} {o p f : Bool} {tx now : UInt64}
    (hne : t' ≠ ty) (h : (statFrameReceived cfg s ty k o p f tx now).halt = none) :
    (statFrameReceived cfg s ty k o p f tx now).stat.histograms t' = s.histograms t' ∧
      ((statFrameReceived cfg s ty k o p f tx now).stat.globalStatistics t').roundTripCount =
        (s.globalStatistics t').roundTripCount := by
  refine ⟨?_, by rw [received_global_other hne h]⟩
  have hrt : (roundTrip cfg s ty k now).stat.histograms t' = s.histograms t' := by
    unfold roundTrip
    split
    · rfl
    · exact if_neg hne
  have how : (oneway cfg (roundTrip cfg s ty k now) ty o p f tx now).histograms =
      (roundTrip cfg s ty k now).stat.histograms := perPeriod_histograms _ _ _ _ _ _ _ _ _
  unfold statFrameReceived at h ⊢
  simp only at h ⊢
  split at h
  · cases h
  · rename_i hz
    rw [if_neg hz]
    split <;> simp only [how, hrt]

theorem received_backlogLen (href : cfg.mirrorMode = false) {ty : FrameType} {k : UInt64}
    {o p f : Bool} {tx now : UInt64} (h : (statFrameReceived cfg s ty k o p f tx now).halt = none) :
    (s.roundTripContexts ty).backlogLen ≠ 0 := by
  intro h0
  simp [statFrameReceived, href, h0] at h

/-- **A run.**  The histograms see the samples that the statistics count. -/
theorem play_agrees (href : cfg.mirrorMode = false) (hen : cfg.statsHistogramEnabled = true)
    {min max : UInt64} (hlt : min < max) {es : List Event} (h : play cfg s es = .ok s')
    {us : List (FrameType × UInt64)} (hall : HoldsAll min max hists us)
    (ha : ∀ t, Agrees (hists t) (s.histograms t)) :
    ∃ hists', updates hists (roundTrips cfg s es) = some hists' ∧
      (∀ t, Agrees (hists' t) (s'.histograms t)) ∧
      ∀ t, (s'.globalStatistics t).roundTripCount = (s.globalStatistics t).roundTripCount +
        UInt64.ofNat (samplesOf t (roundTrips cfg s es)).length := by
  induction es generalizing s hists us with
  | nil =>
    cases h
    exact ⟨hists, rfl, ha, fun t => (UInt64.add_zero _).symm⟩
  | cons e es ih =>
    obtain ⟨hhalt, hrest⟩ := play_cons_ok h
    cases e with
    | sent ty k t =>
      have hun := sent_unsampled hhalt
      obtain ⟨hists', hups, ha', hcount⟩ := ih hrest hall fun t' => by
        show Agrees (hists t') ((statFrameSent cfg s ty k t).stat.histograms t')
        rw [(hun t').1]
        exact ha t'
      refine ⟨hists', hups, ha', fun t' => ?_⟩
      rw [hcount t']
      exact congrArg (· + _) (hun t').2
    | received ty k o p f tx now =>
      have hsampled := received_sampled href (received_backlogLen href hhalt) k o p f tx now
      obtain ⟨hists1, hstep, hall1⟩ := hall.update hlt ty (roundTripSample cfg s ty k now).rtTime
      obtain ⟨hagree, hothers⟩ := (ha ty).update hstep
      obtain ⟨hists', hups, ha', hcount⟩ := ih hrest hall1 fun t' => by
        show Agrees (hists1 t') ((statFrameReceived cfg s ty k o p f tx now).stat.histograms t')
        by_cases ht : t' = ty
        · subst ht
          rw [hsampled.histogram, if_pos hen]
          exact hagree
        · rw [hothers t' ht, (received_unsampled ht hhalt).1]
          exact ha t'
      refine ⟨hists', ?_, ha', fun t' => ?_⟩
      · rw [roundTrips, updates, List.singleton_append, List.foldlM_cons, hstep]
        exact hups
      · rw [hcount t', roundTrips, samplesOf_append, List.length_append, UInt64.ofNat_add,
          ← UInt64.add_assoc]
        congr 1
        by_cases ht : t' = ty
        · subst ht
          rw [samplesOf_same]
          exact hsampled.count
        · rw [samplesOf_other (Ne.symm ht)]
          exact (received_unsampled ht hhalt).2.trans (UInt64.add_zero _).symm

end run

/-- Round trips from 2 to 10 µs. -/
def histApp : AppConfig :=
  { AppConfig.small .none 100 1 [] with
    statsHistogramEnabled := true
    statsHistogramMinimumNs := 2000
    statsHistogramMaximumNs := 10000 }

/-- One type, seen below, twice in, and above the range. -/
def histSamples : List (FrameType × UInt64) := [(.rtc, 1), (.rtc, 5), (.rtc, 5), (.rtc, 10)]

end Rtdk.Hist
