import Rtdk.Extremes
import Rtdk.Hist

/-! The script that plots the histograms (`scripts/plot_histogram.pl`).

The script reads the file of `histogram_write` line by line, with regular expressions: what
starts with digits and a colon is data, everything else is skipped. `plot_of_histogram` says
what it plots. -/

namespace Rtdk.HistogramPlot
open Rtdk.NetDef Rtdk.Config Rtdk.Thread Rtdk.Extremes Rtdk.Hist

/-! ## The script -/

def consFirst (c : Char) : List (List Char) → List (List Char)
  | [] => [[c]]
  | line :: lines => (c :: line) :: lines

/-- `while ($line = <$fh>)`: the lines of a file, each with its newline. -/
def readLines : List Char → List (List Char)
  | [] => []
  | c :: cs => if c = '\n' then [c] :: readLines cs else consFirst c (readLines cs)

/-- `\s`. -/
def isSpace (c : Char) : Bool :=
  c = ' ' ∨ c = '\t' ∨ c = '\n' ∨ c = '\x0b' ∨ c = '\x0c' ∨ c = '\r'

/-- What `(\d+)` captures at the start of a text, as a number, and what is behind it. Perl
backtracks into fewer digits only where more characters have to match. -/
def captureDigits (s : List Char) : Option (Nat × List Char) :=
  if s.takeWhile Char.isDigit = [] then none
  else some (Nat.ofDigitChars 10 (s.takeWhile Char.isDigit) 0, s.dropWhile Char.isDigit)

/-- `^(\d+):`. -/
def matchRtt (line : List Char) : Option (Nat × List Char) :=
  (captureDigits line).bind fun (rtt, rest) =>
    if rest.head? = some ':' then some (rtt, rest.tail) else none

/-- `\s+(\d+)`, so many times. -/
def matchCounts : Nat → List Char → Option (List Nat)
  | 0, _ => some []
  | n + 1, s =>
    if s.takeWhile isSpace = [] then none
    else (captureDigits (s.dropWhile isSpace)).bind fun (count, rest) =>
      (matchCounts n rest).map fun counts => count :: counts

/-- The variables of `write_data_file`: `@lines`, `$min`, `$max`, and whether a class is to be
plotted. -/
structure Scan where
  lines : List (List Char)
  min : Nat
  max : Nat
  classes : List Bool
deriving DecidableEq, Repr

def scanLine (scan : Scan) (line : List Char) : Scan :=
  match matchRtt line with
  | none => scan
  | some (rtt, rest) =>
    { lines := scan.lines ++ [line]
      min := if rtt < scan.min then rtt else scan.min
      max := if rtt > scan.max then rtt else scan.max
      classes := ((matchCounts 9 rest).map fun counts =>
        List.zipWith (fun shown count => shown || count != 0) scan.classes counts).getD
          scan.classes }

def writeDataFile (text : List Char) : Scan :=
  (readLines text).foldl scanLine ⟨[], 1000000000, 0, List.replicate 9 false⟩

def titles : List String :=
  ["TsnHigh", "TsnLow", "Rtc", "Rta", "Dcp", "Lldp", "UdpHigh", "UdpLow", "L2"]

/-- What gnuplot is told: the data, the range of the latencies, and the curves, each with its
column of the data. -/
structure Plot where
  data : List (List Char)
  xmin : Int
  xmax : Int
  curves : List (Nat × String)
deriving DecidableEq, Repr

def plot (scan : Scan) : Plot where
  data := scan.lines
  xmin := scan.min - 100
  xmax := scan.max + 100
  curves := (((titles.zipIdx 2).zip scan.classes).filter Prod.snd).map fun c => (c.1.2, c.1.1)

def plotHistogram (text : List Char) : Plot := plot (writeDataFile text)

/-! ## Lines -/

theorem readLines_line {line rest : List Char} (h : '\n' ∉ line) :
    readLines (line ++ '\n' :: rest) = (line ++ ['\n']) :: readLines rest := by
  induction line with
  | nil => rfl
  | cons c line ih =>
    obtain ⟨hc, hline⟩ := not_or.mp (List.mem_cons.not.mp h)
    rw [List.cons_append, readLines, if_neg (fun hnl => hc hnl.symm), ih hline]
    rfl

/-- A file of lines is read line by line. -/
theorem readLines_flatMap {lines : List (List Char)} (h : ∀ line ∈ lines, '\n' ∉ line) :
    readLines (lines.flatMap fun line => line ++ ['\n']) =
      lines.map fun line => line ++ ['\n'] := by
  induction lines with
  | nil => rfl
  | cons line lines ih =>
    rw [List.flatMap_cons, List.append_assoc, List.singleton_append,
      readLines_line (h line List.mem_cons_self), ih fun l hl => h l (List.mem_cons_of_mem _ hl),
      List.map_cons]

/-! ## Numbers -/

/-- A number printed with eight digits or more, and read back. -/
structure Numeral (n : Nat) (ds : List Char) : Prop where
  digits : ∀ c ∈ ds, c.isDigit = true
  nonempty : ds ≠ []
  value : Nat.ofDigitChars 10 ds 0 = n

theorem toList_pushn (n : Nat) (s : String) (c : Char) :
    (s.pushn c n).toList = s.toList ++ List.replicate n c := by
  rw [String.pushn_eq_repeat_push]
  induction n with
  | zero => simp [Nat.repeat]
  | succ n ih =>
    rw [Nat.repeat, String.toList_push, ih, List.replicate_succ', List.append_assoc]

theorem pad8_numeral (v : UInt64) : Numeral v.toNat (pad8 v).toList := by
  have hlist : (pad8 v).toList =
      List.replicate (8 - (toString v.toNat).length) '0' ++ Nat.toDigits 10 v.toNat := by
    rw [pad8, String.toList_append, toList_pushn]
    simp
  rw [hlist]
  refine ⟨fun c hc => ?_, ?_, ?_⟩
  · rcases List.mem_append.mp hc with hc | hc
    · rw [List.eq_of_mem_replicate hc]
      rfl
    · exact Nat.isDigit_of_mem_toDigits (by decide) (by decide) hc
  · exact fun h => Nat.toDigits_ne_nil (List.append_eq_nil_iff.mp h).2
  · rw [Nat.ofDigitChars_append, Nat.ofDigitChars_replicate_zero, Nat.mul_zero,
      Nat.ofDigitChars_ten_toDigits]

theorem takeWhile_append {p : Char → Bool} {ds rest : List Char} (hds : ∀ c ∈ ds, p c = true)
    (hrest : ∀ c ∈ rest.head?, p c = false) : (ds ++ rest).takeWhile p = ds := by
  rw [List.takeWhile_append_of_pos hds]
  cases rest with
  | nil => rw [List.takeWhile_nil, List.append_nil]
  | cons c rest => rw [List.takeWhile_cons_of_neg (by simp [hrest c rfl]), List.append_nil]

theorem dropWhile_append {p : Char → Bool} {ds rest : List Char} (hds : ∀ c ∈ ds, p c = true)
    (hrest : ∀ c ∈ rest.head?, p c = false) : (ds ++ rest).dropWhile p = rest := by
  rw [List.dropWhile_append_of_pos hds]
  cases rest with
  | nil => rfl
  | cons c rest => rw [List.dropWhile_cons_of_neg (by simp [hrest c rfl])]

theorem forall_head {p : Char → Bool} {c : Char} (h : p c = false) (rest : List Char) :
    ∀ d ∈ (c :: rest).head?, p d = false := by
  intro d hd
  cases hd
  exact h

theorem captureDigits_numeral {n : Nat} {ds rest : List Char} (h : Numeral n ds)
    (hrest : ∀ c ∈ rest.head?, c.isDigit = false) :
    captureDigits (ds ++ rest) = some (n, rest) := by
  rw [captureDigits, takeWhile_append h.digits hrest, dropWhile_append h.digits hrest,
    if_neg h.nonempty, h.value]

theorem not_space_of_digit {c : Char} (h : c.isDigit = true) : isSpace c = false := by
  rw [isSpace, decide_eq_false_iff_not]
  rintro (rfl | rfl | rfl | rfl | rfl | rfl) <;> exact absurd h (by decide)

theorem Numeral.head {n : Nat} {ds : List Char} (h : Numeral n ds) (rest : List Char) :
    ∀ c ∈ (ds ++ rest).head?, isSpace c = false := by
  obtain ⟨c, cs, rfl⟩ := List.exists_cons_of_ne_nil h.nonempty
  exact forall_head (not_space_of_digit (h.digits c List.mem_cons_self)) _

/-! ## Rows -/

theorem columns_cons (n : UInt64) (ns : List UInt64) :
    (columns (n :: ns)).toList = (pad8 n).toList ++ (' ' :: ' ' :: (columns ns).toList) := by
  rw [columns, List.map_cons, String.join_cons, String.toList_append, String.toList_append,
    List.append_assoc]
  rfl

/-- The counters of a line are read back. -/
theorem matchCounts_columns (ns : List UInt64) (rest : List Char) {gap : List Char}
    (hgap : gap ≠ []) (hspace : ∀ c ∈ gap, isSpace c = true) :
    matchCounts ns.length (gap ++ ((columns ns).toList ++ rest)) =
      some (ns.map UInt64.toNat) := by
  induction ns generalizing gap with
  | nil => rfl
  | cons n ns ih =>
    have hn := pad8_numeral n
    rw [columns_cons, List.length_cons, matchCounts, List.append_assoc, List.cons_append,
      List.cons_append, takeWhile_append hspace (hn.head _), dropWhile_append hspace (hn.head _),
      if_neg hgap, captureDigits_numeral hn (forall_head (by decide) _), Option.bind_some]
    have hrest := @ih [' ', ' '] (List.cons_ne_nil _ _)
      (List.forall_mem_cons.mpr ⟨by decide, List.forall_mem_singleton.mpr (by decide)⟩)
    simp only [List.cons_append, List.nil_append] at hrest ⊢
    rw [hrest, Option.map_some, List.map_cons]

theorem toList_row (rtt : UInt64) (ns : List UInt64) :
    (row rtt ns).toList = (pad8 rtt).toList ++ ':' :: ' ' :: ((columns ns).toList ++ ['\n']) := by
  rw [row, String.toList_append, String.toList_append, String.toList_append, List.append_assoc,
    List.append_assoc]
  rfl

theorem matchRtt_row (rtt : UInt64) (ns : List UInt64) :
    matchRtt (row rtt ns).toList = some (rtt.toNat, ' ' :: ((columns ns).toList ++ ['\n'])) := by
  rw [toList_row, matchRtt, captureDigits_numeral (pad8_numeral rtt) (forall_head (by decide) _),
    Option.bind_some]
  rfl

/-- A line that does not start with a digit is skipped. -/
theorem scanLine_skip (scan : Scan) {line : List Char} (h : ∀ c ∈ line.head?, c.isDigit = false) :
    scanLine scan line = scan := by
  have htake : line.takeWhile Char.isDigit = [] := @takeWhile_append Char.isDigit [] line nofun h
  rw [scanLine, matchRtt, captureDigits, if_pos htake, Option.bind_none]

/-- A line of data. -/
theorem scanLine_row (scan : Scan) (rtt : UInt64) (count : FrameType → UInt64)
    (shown : FrameType → Bool) (hclasses : scan.classes = frameTypes.map shown) :
    scanLine scan (row rtt (frameTypes.map count)).toList =
      { lines := scan.lines ++ [(row rtt (frameTypes.map count)).toList]
        min := min scan.min rtt.toNat
        max := max scan.max rtt.toNat
        classes := frameTypes.map fun ty => shown ty || count ty != 0 } := by
  have hcounts : matchCounts 9 (' ' :: ((columns (frameTypes.map count)).toList ++ ['\n'])) =
      some ((frameTypes.map count).map UInt64.toNat) := by
    have hread := matchCounts_columns (frameTypes.map count) ['\n'] (List.cons_ne_nil ' ' [])
      (List.forall_mem_singleton.mpr (by decide))
    have hlength : frameTypes.length = 9 := rfl
    rw [List.length_map, hlength, List.singleton_append] at hread
    exact hread
  have hmin : (if rtt.toNat < scan.min then rtt.toNat else scan.min) = min scan.min rtt.toNat := by
    split <;> omega
  have hmax : (if rtt.toNat > scan.max then rtt.toNat else scan.max) = max scan.max rtt.toNat := by
    split <;> omega
  rw [scanLine, matchRtt_row]
  simp only [hcounts, hmin, hmax, Option.map_some, Option.getD_some, hclasses, List.map_map,
    List.zipWith_map, List.zipWith_self, Function.comp_def]
  have hzero (ty : FrameType) : ((count ty).toNat != 0) = (count ty != 0) := by
    rw [Bool.eq_iff_iff, bne_iff_ne, bne_iff_ne, ne_eq, ne_eq, ← UInt64.toNat_inj,
      UInt64.toNat_zero]
  simp only [hzero]

/-- The lines of data of a file. -/
theorem scan_rows (count : FrameType → UInt64 → UInt64) (vs : List UInt64) (scan : Scan)
    (shown : FrameType → Bool) (hclasses : scan.classes = frameTypes.map shown) :
    (vs.map fun v => (row v (frameTypes.map fun ty => count ty v)).toList).foldl scanLine scan =
      { lines := scan.lines ++ vs.map fun v => (row v (frameTypes.map fun ty => count ty v)).toList
        min := runMin scan.min (vs.map UInt64.toNat)
        max := runMax scan.max (vs.map UInt64.toNat)
        classes := frameTypes.map fun ty => shown ty || vs.any fun v => count ty v != 0 } := by
  induction vs generalizing scan shown with
  | nil =>
    simp only [List.map_nil, List.foldl_nil, List.append_nil, runMin_nil, runMax_nil, List.any_nil,
      Bool.or_false, ← hclasses]
  | cons v vs ih =>
    rw [List.map_cons, List.foldl_cons, scanLine_row scan v (fun ty => count ty v) shown hclasses,
      ih _ (fun ty => shown ty || count ty v != 0) rfl]
    simp only [List.append_assoc, List.singleton_append, List.map_cons, List.any_cons,
      Bool.or_assoc]
    rfl

/-- The curves of the classes that are plotted. -/
theorem curves_eq (tys : List FrameType) (shown : FrameType → Bool) (k : Nat) :
    ((((tys.map FrameType.name).zipIdx k).zip (tys.map shown)).filter Prod.snd).map
        (fun c => (c.1.2, c.1.1)) =
      ((tys.zipIdx k).filter fun c => shown c.1).map fun c => (c.2, c.1.name) := by
  induction tys generalizing k with
  | nil => rfl
  | cons ty tys ih =>
    simp only [List.map_cons, List.zipIdx_cons, List.zip_cons_cons, List.filter_cons]
    cases shown ty with
    | true => simp only [if_true, List.map_cons, ih]
    | false => simp only [Bool.false_eq_true, if_false, ih]

/-! ## Files of `histogram_write` -/

def textOf (file : List String) : List Char := (String.join file).toList

def headerText : String :=
  "Testbench RTT Histogram: " ++ String.intercalate " " (frameTypes.map FrameType.name)

theorem no_newline_of_digits {n : Nat} {ds : List Char} (h : Numeral n ds) : '\n' ∉ ds :=
  fun hnl => absurd (h.digits _ hnl) (by decide)

theorem no_newline_columns (ns : List UInt64) : '\n' ∉ (columns ns).toList := by
  induction ns with
  | nil => simp [columns]
  | cons n ns ih =>
    rw [columns_cons]
    simp [no_newline_of_digits (pad8_numeral n), ih]

theorem readLines_textOf {file : List String} {bodies : List (List Char)}
    (hfile : file.map String.toList = bodies.map fun line => line ++ ['\n'])
    (hbodies : ∀ line ∈ bodies, '\n' ∉ line) :
    readLines (textOf file) = file.map String.toList := by
  have htext : textOf file = bodies.flatMap fun line => line ++ ['\n'] := by
    rw [textOf, String.toList_join, List.flatMap, hfile, List.flatMap]
  rw [htext, readLines_flatMap hbodies, hfile]

theorem toList_newline (s : String) : (s ++ "\n").toList = s.toList ++ ['\n'] :=
  String.toList_append

theorem no_newline_append {s t : String} (hs : '\n' ∉ s.toList) (ht : '\n' ∉ t.toList) :
    '\n' ∉ (s ++ t).toList := by
  rw [String.toList_append]
  exact List.not_mem_append hs ht

/-- A row without its newline. -/
def rowText (v : UInt64) (ns : List UInt64) : String := pad8 v ++ ": " ++ columns ns

theorem no_newline_row (v : UInt64) (ns : List UInt64) : '\n' ∉ (rowText v ns).toList :=
  no_newline_append (no_newline_append (no_newline_of_digits (pad8_numeral v)) (by decide))
    (no_newline_columns ns)

/-- The lines of a report without their newlines. -/
def reportLines (counts : UInt64 → List UInt64) (above below : List UInt64) (vs : List UInt64) :
    List String :=
  headerText :: (vs.map (fun v => rowText v (counts v)) ++
    ["Overflow: " ++ columns above, "Underflow: " ++ columns below])

theorem no_newline_reportLines (counts : UInt64 → List UInt64) (above below vs : List UInt64) :
    ∀ line ∈ reportLines counts above below vs, '\n' ∉ line.toList := by
  intro line hline
  rcases List.mem_cons.mp hline with rfl | hline
  · exact fun hnl => absurd hnl (by decide)
  · rcases List.mem_append.mp hline with hline | hline
    · obtain ⟨v, -, rfl⟩ := List.mem_map.mp hline
      exact no_newline_row v _
    · rcases List.mem_pair.mp hline with rfl | rfl
      · exact no_newline_append (by decide) (no_newline_columns _)
      · exact no_newline_append (by decide) (no_newline_columns _)

/-- What the report of the updates `us` says about a value. -/
def countsAt (us : List (FrameType × UInt64)) (v : UInt64) : List UInt64 :=
  frameTypes.map fun ty => UInt64.ofNat ((samplesOf ty us).count v)

theorem report_eq (lo hi : UInt64) (us : List (FrameType × UInt64)) (vs : List UInt64) :
    ∃ above below, report lo hi us vs =
      (reportLines (countsAt us) above below vs).map fun line => line ++ "\n" := by
  refine ⟨frameTypes.map fun ty => UInt64.ofNat ((samplesOf ty us).countP fun x => decide (x ≥ hi)),
    frameTypes.map fun ty => UInt64.ofNat ((samplesOf ty us).countP fun x => decide (x < lo)), ?_⟩
  rw [report, reportLines, List.map_cons, List.map_append, List.map_map]
  rfl

/-- A report is read line by line. -/
theorem readLines_report (lo hi : UInt64) (us : List (FrameType × UInt64)) (vs : List UInt64) :
    readLines (textOf (report lo hi us vs)) = (report lo hi us vs).map String.toList := by
  obtain ⟨above, below, hreport⟩ := report_eq lo hi us vs
  refine @readLines_textOf _ ((reportLines (countsAt us) above below vs).map String.toList) ?_ ?_
  · rw [hreport, List.map_map, List.map_map]
    exact List.map_congr_left fun line _ => toList_newline line
  · intro line hline
    obtain ⟨body, hbody, rfl⟩ := List.mem_map.mp hline
    exact no_newline_reportLines _ _ _ _ body hbody

/-- Neither is a line that starts with a word. -/
theorem scanLine_word (scan : Scan) {word : String} (ns : List UInt64) {c : Char}
    {cs : List Char} (hword : word.toList = c :: cs) (hc : c.isDigit = false) :
    scanLine scan (word ++ columns ns ++ "\n").toList = scan := by
  rw [String.toList_append, String.toList_append, hword]
  exact scanLine_skip scan (forall_head hc _)

/-- **The data.** What the script has read of a report. -/
theorem writeDataFile_report (lo hi : UInt64) (us : List (FrameType × UInt64)) (vs : List UInt64) :
    writeDataFile (textOf (report lo hi us vs)) =
      { lines := vs.map fun v => (row v (countsAt us v)).toList
        min := runMin 1000000000 (vs.map UInt64.toNat)
        max := runMax 0 (vs.map UInt64.toNat)
        classes := frameTypes.map fun ty =>
          vs.any fun v => UInt64.ofNat ((samplesOf ty us).count v) != 0 } := by
  have hrows := scan_rows (fun ty v => UInt64.ofNat ((samplesOf ty us).count v)) vs
    ⟨[], 1000000000, 0, List.replicate 9 false⟩ (fun _ => false) rfl
  rw [writeDataFile, readLines_report, report]
  simp only [List.map_cons, List.map_append, List.map_map, List.map_nil, List.foldl_cons,
    List.foldl_append, List.foldl_nil, Function.comp_def]
  have hheader (scan : Scan) : scanLine scan header.toList = scan :=
    scanLine_skip scan (forall_head (c := 'T') rfl _)
  have hover (scan : Scan) (ns : List UInt64) :
      scanLine scan ("Overflow: " ++ columns ns ++ "\n").toList = scan :=
    scanLine_word scan ns rfl rfl
  have hunder (scan : Scan) (ns : List UInt64) :
      scanLine scan ("Underflow: " ++ columns ns ++ "\n").toList = scan :=
    scanLine_word scan ns rfl rfl
  rw [hheader, hrows, hover, hunder]
  simp only [List.nil_append, Bool.false_or]
  rfl

/-! ## The plot -/

/-- How often a type was sampled at a value, as far as a counter tells. -/
def counted (us : List (FrameType × UInt64)) (ty : FrameType) (v : UInt64) : Nat :=
  (samplesOf ty us).count v % 2 ^ 64

/-- A value within the bounds that was sampled. -/
def Seen (lo hi : UInt64) (us : List (FrameType × UInt64)) (v : UInt64) : Prop :=
  lo ≤ v ∧ v < hi ∧ ∃ ty, counted us ty v ≠ 0

/-- What is plotted after the updates `us`. -/
structure Plots (lo hi : UInt64) (us : List (FrameType × UInt64)) (p : Plot) : Prop where
  data : ∃ vs : List UInt64, vs.Pairwise (· < ·) ∧ (∀ v, v ∈ vs ↔ Seen lo hi us v) ∧
    p.data = vs.map fun v => (row v (countsAt us v)).toList
  /-- A class has a curve if it was sampled, and the curve has the class's column. -/
  curves : ∃ shown : FrameType → Bool,
    (∀ ty, shown ty = true ↔ ∃ v, lo ≤ v ∧ v < hi ∧ counted us ty v ≠ 0) ∧
    p.curves = ((frameTypes.zipIdx 2).filter fun c => shown c.1).map fun c => (c.2, c.1.name)
  range : ∀ v, Seen lo hi us v → p.xmin + 100 ≤ v.toNat ∧ v.toNat + 100 ≤ p.xmax
  tight : (∃ v, Seen lo hi us v ∧ v.toNat ≤ 10 ^ 9) →
    (∃ v, Seen lo hi us v ∧ p.xmin + 100 = v.toNat) ∧ ∃ v, Seen lo hi us v ∧ v.toNat + 100 = p.xmax

theorem plots_report {lo hi : UInt64} {us : List (FrameType × UInt64)} {vs : List UInt64}
    (hincreasing : vs.Pairwise (· < ·)) (hseen : ∀ v, v ∈ vs ↔ Seen lo hi us v) :
    Plots lo hi us (plotHistogram (textOf (report lo hi us vs))) := by
  have hcount (ty : FrameType) (v : UInt64) :
      (UInt64.ofNat ((samplesOf ty us).count v) != 0) = true ↔ counted us ty v ≠ 0 := by
    rw [bne_iff_ne, ne_eq, ← UInt64.toNat_inj, UInt64.toNat_ofNat', UInt64.toNat_zero, counted]
  rw [plotHistogram, writeDataFile_report]
  let shown (ty : FrameType) : Bool :=
    vs.any fun v => UInt64.ofNat ((samplesOf ty us).count v) != 0
  refine ⟨⟨vs, hincreasing, hseen, rfl⟩, ⟨shown, fun ty => ?_, curves_eq frameTypes shown 2⟩,
    fun v hv => ?_, ?_⟩
  · rw [List.any_eq_true]
    constructor
    · rintro ⟨v, hv, hne⟩
      obtain ⟨hlo, hhi, -⟩ := (hseen v).mp hv
      exact ⟨v, hlo, hhi, (hcount ty v).mp hne⟩
    · rintro ⟨v, hlo, hhi, hne⟩
      exact ⟨v, (hseen v).mpr ⟨hlo, hhi, ty, hne⟩, (hcount ty v).mpr hne⟩
  · have hmem : v.toNat ∈ vs.map UInt64.toNat := List.mem_map_of_mem ((hseen v).mpr hv)
    have hmin : runMin 1000000000 (vs.map UInt64.toNat) ≤ v.toNat := runMin_le_of_mem hmem
    have hmax : v.toNat ≤ runMax 0 (vs.map UInt64.toNat) :=
      (isGreatest_runMax_iff.mpr ⟨v.toNat, hmem, Nat.zero_le _⟩).2 hmem
    show ((runMin 1000000000 (vs.map UInt64.toNat) : Nat) : Int) - 100 + 100 ≤ _ ∧
      _ ≤ ((runMax 0 (vs.map UInt64.toNat) : Nat) : Int) + 100
    omega
  · rintro ⟨v, hv, hle⟩
    have hmem : v.toNat ∈ vs.map UInt64.toNat := List.mem_map_of_mem ((hseen v).mpr hv)
    obtain ⟨hmin, -⟩ := isLeast_runMin_iff.mpr ⟨v.toNat, hmem, hle⟩
    obtain ⟨hmax, -⟩ := isGreatest_runMax_iff.mpr ⟨v.toNat, hmem, Nat.zero_le _⟩
    obtain ⟨u, hu, hmin⟩ := List.mem_map.mp hmin
    obtain ⟨u', hu', hmax⟩ := List.mem_map.mp hmax
    refine ⟨⟨u, (hseen u).mp hu, ?_⟩, u', (hseen u').mp hu', ?_⟩
    · rw [hmin]
      exact Int.sub_add_cancel _ _
    · rw [hmax]
      rfl

/-- **What is plotted.** From the updates of the histograms through the file: the script
passes on one line for each value with a count within the bounds, in increasing order, and
plots the classes with a count there, each from its own column. Its range has the values
with 100 µs on both sides, and no more if one of them is at most 10⁹ µs. Counts are modulo
2⁶⁴. -/
theorem plot_of_histogram (app : AppConfig) (hen : app.statsHistogramEnabled = true)
    (granted : FrameType → Bool) (hgranted : ∀ ty, granted ty = true)
    (hlt : app.statsHistogramMinimumNs / 1000 < app.statsHistogramMaximumNs / 1000)
    (us : List (FrameType × UInt64)) (path : List UInt8) :
    ∃ hists0 hists file, histogramInit app false granted = (0, hists0) ∧
      updates hists0 us = some hists ∧
      histogramWrite true path (.ok ()) hists = some ⟨0, [], some file⟩ ∧
      Plots (app.statsHistogramMinimumNs / 1000) (app.statsHistogramMaximumNs / 1000) us
        (plotHistogram (textOf file)) := by
  obtain ⟨hists0, hinit, hholds⟩ := histogramInit_holds hen hgranted hlt
  obtain ⟨hists, hups, hall⟩ := hholds.updates hlt us
  obtain ⟨file, hwrite, hreported⟩ := hall.reported hlt path
  obtain ⟨vs, hincreasing, hseen, hfile⟩ := hreported.lines
  refine ⟨hists0, hists, file, hinit, hups, hwrite, ?_⟩
  rw [hfile]
  exact plots_report hincreasing hseen

theorem plot_of_histogram_rtc :
    ∃ hists0 hists file, histogramInit histApp false (fun _ => true) = (0, hists0) ∧
      updates hists0 histSamples = some hists ∧
      histogramWrite true [] (.ok ()) hists = some ⟨0, [], some file⟩ ∧
      Plots (histApp.statsHistogramMinimumNs / 1000) (histApp.statsHistogramMaximumNs / 1000)
        histSamples (plotHistogram (textOf file)) :=
  plot_of_histogram histApp rfl (fun _ => true) (fun _ => rfl) (by decide) histSamples []

end Rtdk.HistogramPlot
