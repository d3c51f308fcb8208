import Rtdk.Numerals
import Rtdk.RattArgs

/-! The run duration of both tools (`ratt/parse-args.c`, `launch-time/parse-args.c`).

`process_duration` reads hours, minutes and seconds with `sscanf`. The colons decide
which of six formats it takes; each field is whatever `%u` makes of it, and nobody
looks at what stands behind the last one. -/

namespace Rtdk.Duration
open Rtdk.CString Rtdk.Numerals Rtdk.RattArgs

/-- `process_duration` of the launch-time tool, the same function. -/
def Lttt.processDuration (s : CStr) : Option (UInt32 × CStr) := RattArgs.processDuration s

/-! ## Texts of a duration -/

/-- A row of decimal digits. -/
structure Decimal (s : CStr) (n : Nat) : Prop where
  nonempty : s ≠ []
  digits : ∀ c ∈ s, isDigit 10 c = true
  value : digitsValue 10 s = n

/-- A field that can be left out. -/
inductive Leading (field : CStr → Nat → Prop) : CStr → Nat → Prop
  | empty : Leading field [] 0
  | field {s : CStr} {n : Nat} (h : field s n) : Leading field s n

/-- `[[H]:[M]:]S`, `[M]:S` or `S`. Whether minutes can be left out behind hours is `gaps`. -/
inductive Form (gaps : Bool) (field last : CStr → Nat → Prop) : CStr → Nat → Nat → Nat → Prop
  | seconds {s : CStr} {sec : Nat} (hs : last s sec) : Form gaps field last s 0 0 sec
  | minutes {m s : CStr} {min sec : Nat} (hm : Leading field m min) (hs : last s sec) :
    Form gaps field last (m ++ 58 :: s) 0 min sec
  | hours {h m s : CStr} {hour min sec : Nat} (hh : Leading field h hour)
      (hm : Leading field m min) (hgap : m = [] → h = [] ∨ gaps = true) (hs : last s sec) :
    Form gaps field last (h ++ 58 :: (m ++ 58 :: s)) hour min sec

/-- The durations in plain decimal digits. -/
def Grammar (gaps : Bool) : CStr → Nat → Nat → Nat → Prop := Form gaps Decimal Decimal

structure InRange (hour min sec : Nat) : Prop where
  hour : hour ≤ 99999
  min : min ≤ 59
  sec : sec ≤ 59

/-- Just the durations of the grammar are accepted, each with its seconds. -/
def Exact (gaps : Bool) (processDuration : CStr → Option (UInt32 × CStr)) (s : CStr) : Prop :=
  ∀ n : UInt32, (∃ str, processDuration s = some (n, str)) ↔
    ∃ hour min sec, Grammar gaps s hour min sec ∧ InRange hour min sec ∧
      n.toNat = 3600 * hour + 60 * min + sec

/-! ## What `sscanf` reads -/

/-- What `%u` makes of a number: an `unsigned long`, negated after a minus, cut to 32 bits. -/
def reduced (neg : Bool) (n : Nat) : Nat :=
  if 2 ^ 64 ≤ n then 2 ^ 32 - 1 else if neg then (2 ^ 64 - n) % 2 ^ 32 else n % 2 ^ 32

/-- White space, a sign and digits. -/
inductive Scanned : CStr → Nat → Prop
  | intro {spaces sign digits : CStr} {n : Nat} (hspaces : ∀ c ∈ spaces, isspace c = true)
      (hsign : sign = [] ∨ sign = lit "+" ∨ sign = lit "-") (hdigits : Decimal digits n) :
    Scanned (spaces ++ (sign ++ digits)) (reduced (decide (sign = lit "-")) n)

/-- The text does not go on with a digit. -/
def Stops (s : CStr) : Prop := ∀ c ∈ s.head?, isDigit 10 c = false

/-- The last field, with anything behind it but a colon. -/
inductive ScannedLast : CStr → Nat → Prop
  | intro {s rest : CStr} {n : Nat} (h : Scanned s n) (hstops : Stops rest) (hcolon : 58 ∉ rest) :
    ScannedLast (s ++ rest) n

/-- The durations as `sscanf` reads them. -/
def Read : CStr → Nat → Nat → Nat → Prop := Form false Scanned ScannedLast

theorem Decimal.stops_append {ds rest : CStr} {n : Nat} (h : Decimal ds n) (hrest : Stops rest) :
    (ds ++ rest).takeWhile (isDigit 10) = ds ∧ (ds ++ rest).dropWhile (isDigit 10) = rest := by
  rw [List.takeWhile_append_of_pos h.digits, List.dropWhile_append_of_pos h.digits]
  cases rest with
  | nil => exact ⟨List.append_nil ds, rfl⟩
  | cons c rest =>
    have hc : isDigit 10 c = false := hrest c rfl
    rw [List.takeWhile_cons, List.dropWhile_cons, hc]
    exact ⟨List.append_nil ds, rfl⟩

theorem stops_dropWhile (s : CStr) : Stops (s.dropWhile (isDigit 10)) := by
  intro c hc
  have h := List.head?_dropWhile_not (isDigit 10) s
  rw [hc] at h
  exact (Bool.not_eq_true' _).mp (by simpa using h)

/-- The start of a text that is a number. -/
theorem scanNumber_iff {s rest : CStr} {neg : Bool} {n : Nat} :
    scanNumber 10 s = some (neg, n, rest) ↔ ∃ spaces sign digits : CStr,
      s = spaces ++ (sign ++ (digits ++ rest)) ∧ (∀ c ∈ spaces, isspace c = true) ∧
        (sign = [] ∨ sign = lit "+" ∨ sign = lit "-") ∧ neg = decide (sign = lit "-") ∧
        Decimal digits n ∧ Stops rest := by
  have hmark (t : CStr) : afterMark 10 t = t := rfl
  rw [scanNumber_eq]
  simp only [hmark]
  constructor
  · intro h
    obtain ⟨sign, hsplit, hsign, hneg⟩ := scanSign_split (s.dropWhile isspace)
    generalize scanSign (s.dropWhile isspace) = r at h hsplit hneg
    split at h
    · cases h
    · rename_i hne
      simp only [Option.some.injEq, Prod.mk.injEq] at h
      obtain ⟨rfl, rfl, rfl⟩ := h
      refine ⟨s.takeWhile isspace, sign, r.2.takeWhile (isDigit 10), ?_,
        fun c hc => List.mem_takeWhile_imp hc, hsign, ?_,
        ⟨hne, fun c hc => List.mem_takeWhile_imp hc, rfl⟩, stops_dropWhile _⟩
      · rw [List.takeWhile_append_dropWhile, ← hsplit, List.takeWhile_append_dropWhile]
      · rw [Bool.eq_iff_iff, hneg, decide_eq_true_iff]
  · rintro ⟨spaces, sign, digits, rfl, hspaces, hsign, rfl, hdigits, hrest⟩
    obtain ⟨htake, hdrop⟩ := hdigits.stops_append hrest
    have hscan : scanSign ((spaces ++ (sign ++ (digits ++ rest))).dropWhile isspace) =
        (decide (sign = lit "-"), digits ++ rest) := by
      have hplus : lit "+" = [43] := by decide
      have hminus : lit "-" = [45] := by decide
      rw [List.dropWhile_append_of_pos hspaces]
      rcases hsign with rfl | rfl | rfl
      · obtain ⟨c, ds, rfl⟩ := List.exists_cons_of_ne_nil hdigits.nonempty
        have hc := hdigits.digits c List.mem_cons_self
        rw [List.nil_append, List.cons_append, List.dropWhile_cons, isDigit_not_space hc,
          if_neg Bool.false_ne_true, scanSign_of_digit hc]
        rfl
      · rw [hplus]
        rfl
      · rw [hminus]
        rfl
    rw [hscan]
    simp only
    rw [htake, hdrop, if_neg hdigits.nonempty, hdigits.value]

/-- The `unsigned int` of a number. -/
theorem toUInt32_reduced (neg : Bool) (n : Nat) :
    (if 2 ^ 64 ≤ n then UInt64.ofNat (2 ^ 64 - 1)
      else if neg then -UInt64.ofNat n else UInt64.ofNat n).toUInt32.toNat = reduced neg n := by
  have hsize : UInt64.size = 2 ^ 64 := rfl
  rw [reduced, UInt64.toNat_toUInt32]
  split
  · rfl
  · rename_i hsmall
    have hn : (UInt64.ofNat n).toNat = n := UInt64.toNat_ofNat_of_lt' (by omega)
    cases neg with
    | true =>
      rw [if_pos rfl, if_pos rfl, UInt64.toNat_neg, hn, hsize]
      omega
    | false => rw [if_neg Bool.false_ne_true, if_neg Bool.false_ne_true, hn]

theorem scanDecimal_eq (s : CStr) : scanDecimal s = (scanNumber 10 s).map fun r =>
    (if 2 ^ 64 ≤ r.2.1 then UInt64.ofNat (2 ^ 64 - 1)
      else if r.1 then -UInt64.ofNat r.2.1 else UInt64.ofNat r.2.1, r.2.2) := by
  rw [scanDecimal, strtoul, strtoull]
  cases scanNumber 10 s with
  | none => rfl
  | some r =>
    obtain ⟨neg, n, rest⟩ := r
    simp only [Option.map_some]
    split
    · rfl
    · rfl

theorem scanDecimal_iff {s rest : CStr} {n : Nat} :
    (∃ x, scanDecimal s = some (x, rest) ∧ x.toUInt32.toNat = n) ↔
      ∃ t, s = t ++ rest ∧ Scanned t n ∧ Stops rest := by
  constructor
  · rintro ⟨x, hx, rfl⟩
    rw [scanDecimal_eq, Option.map_eq_some_iff] at hx
    obtain ⟨⟨neg, n, rest'⟩, hscan, hx⟩ := hx
    cases hx
    obtain ⟨spaces, sign, digits, rfl, hspaces, hsign, rfl, hdigits, hrest⟩ :=
      scanNumber_iff.mp hscan
    refine ⟨spaces ++ (sign ++ digits), ?_, ?_, hrest⟩
    · rw [List.append_assoc, List.append_assoc]
    · rw [toUInt32_reduced]
      exact .intro hspaces hsign hdigits
  · rintro ⟨t, rfl, ⟨hspaces, hsign, hdigits⟩, hrest⟩
    rw [scanDecimal_eq, List.append_assoc, List.append_assoc,
      scanNumber_iff.mpr ⟨_, _, _, rfl, hspaces, hsign, rfl, hdigits, hrest⟩]
    exact ⟨_, rfl, toUInt32_reduced _ _⟩

/-- A field in plain digits is read as its number, unless that is too large. -/
theorem Decimal.scanned {s : CStr} {n : Nat} (h : Decimal s n) (hn : n < 2 ^ 32) : Scanned s n := by
  have hread : Scanned ([] ++ ([] ++ s)) _ := .intro nofun (.inl rfl) h
  rw [reduced, if_neg (by omega), if_neg (by decide), Nat.mod_eq_of_lt hn] at hread
  exact hread

theorem Scanned.ne_nil {s : CStr} {n : Nat} (h : Scanned s n) : s ≠ [] := by
  obtain ⟨hspaces, hsign, hdigits⟩ := h
  intro hnil
  exact hdigits.nonempty (List.append_eq_nil_iff.mp (List.append_eq_nil_iff.mp hnil).2).2

theorem Scanned.no_colon {s : CStr} {n : Nat} (h : Scanned s n) : 58 ∉ s := by
  obtain ⟨hspaces, hsign, hdigits⟩ := h
  intro hmem
  rcases List.mem_append.mp hmem with hin | hin
  · exact absurd (hspaces _ hin) (by decide)
  · rcases List.mem_append.mp hin with hin | hin
    · rcases hsign with rfl | rfl | rfl
      · cases hin
      · revert hin
        decide
      · revert hin
        decide
    · exact absurd (hdigits.digits _ hin) (by decide)

theorem ScannedLast.no_colon {s : CStr} {n : Nat} (h : ScannedLast s n) : 58 ∉ s := by
  obtain ⟨h, hstops, hcolon⟩ := h
  rw [List.mem_append, not_or]
  exact ⟨h.no_colon, hcolon⟩

/-! ## The formats -/

theorem length_scanDecimals {k : Nat} {s : CStr} {vs : List UInt32}
    (h : scanDecimals k s = some vs) : vs.length = k := by
  induction k, s using scanDecimals.induct generalizing vs with
  | case1 s =>
    cases h
    rfl
  | case2 s =>
    obtain ⟨r, -, rfl⟩ := Option.map_eq_some_iff.mp h
    rfl
  | case3 s k x rest hscan ih =>
    rw [scanDecimals, hscan] at h
    obtain ⟨ws, hws, rfl⟩ := Option.map_eq_some_iff.mp h
    rw [List.length_cons, ih hws]
  | case4 s k hscan =>
    rw [scanDecimals] at h
    split at h
    · rename_i x rest hx
      exact absurd hx (hscan x rest)
    · cases h

theorem scanDecimals_last {s : CStr} (hcolon : 58 ∉ s) {v : UInt32} :
    scanDecimals 1 s = some [v] ↔ ScannedLast s v.toNat := by
  rw [scanDecimals, Option.map_eq_some_iff]
  constructor
  · rintro ⟨⟨x, rest⟩, hscan, hv⟩
    cases hv
    obtain ⟨t, rfl, ht, hstops⟩ := scanDecimal_iff.mp ⟨x, hscan, rfl⟩
    exact .intro ht hstops fun h => hcolon (List.mem_append_right t h)
  · rintro ⟨ht, hstops, -⟩
    obtain ⟨x, hscan, hx⟩ := scanDecimal_iff.mpr ⟨_, rfl, ht, hstops⟩
    exact ⟨_, hscan, by rw [UInt32.toNat_inj.mp hx]⟩

theorem scanDecimals_next {k : Nat} {s : CStr} {v : UInt32} {vs : List UInt32} :
    scanDecimals (k + 2) s = some (v :: vs) ↔
      ∃ t u, s = t ++ 58 :: u ∧ Scanned t v.toNat ∧ scanDecimals (k + 1) u = some vs := by
  rw [scanDecimals]
  constructor
  · intro h
    split at h
    · rename_i x u hscan
      obtain ⟨ws, hws, heq⟩ := Option.map_eq_some_iff.mp h
      cases heq
      obtain ⟨t, rfl, ht, -⟩ := scanDecimal_iff.mp ⟨x, hscan, rfl⟩
      exact ⟨t, u, rfl, ht, hws⟩
    · cases h
  · rintro ⟨t, u, rfl, ht, hu⟩
    have hstops : Stops (58 :: u) := by
      intro c hc
      cases hc
      rfl
    obtain ⟨x, hscan, hx⟩ := scanDecimal_iff.mpr ⟨t, rfl, ht, hstops⟩
    rw [hscan]
    simp only [hu, Option.map_some, UInt32.toNat_inj.mp hx]

/-- The fields of a text by its number of colons and its first characters. -/
def fieldsOf (s : CStr) : Option (List UInt32) :=
  match countChr s 58 with
  | 0 => scanDecimals 1 s
  | 1 => if s.head? = some 58 then scanDecimals 1 s.tail else scanDecimals 2 s
  | 2 =>
    if s.take 2 = [58, 58] then scanDecimals 1 (s.drop 2)
    else if s.head? = some 58 then scanDecimals 2 s.tail
    else scanDecimals 3 s
  | _ => none

theorem scanDuration_eq_some {s : CStr} {hour min sec : UInt32} :
    scanDuration s = some (hour, min, sec) ↔
      (hour = 0 ∧ min = 0 ∧ fieldsOf s = some [sec]) ∨
        (hour = 0 ∧ fieldsOf s = some [min, sec]) ∨ fieldsOf s = some [hour, min, sec] := by
  rw [scanDuration]
  split
  · rename_i sec' hone
    have hfields : fieldsOf s = some [sec'] := hone
    rw [hfields]
    constructor
    · intro h
      cases h
      exact .inl ⟨rfl, rfl, rfl⟩
    · rintro (⟨rfl, rfl, h⟩ | ⟨-, h⟩ | h) <;> cases h
      rfl
  · rename_i min' sec' htwo
    have hfields : fieldsOf s = some [min', sec'] := htwo
    rw [hfields]
    constructor
    · intro h
      cases h
      exact .inr (.inl ⟨rfl, rfl⟩)
    · rintro (⟨-, -, h⟩ | ⟨rfl, h⟩ | h) <;> cases h
      rfl
  · rename_i hour' min' sec' hthree
    have hfields : fieldsOf s = some [hour', min', sec'] := hthree
    rw [hfields]
    constructor
    · intro h
      cases h
      exact .inr (.inr rfl)
    · rintro (⟨-, -, h⟩ | ⟨-, h⟩ | h) <;> cases h
      rfl
  · rename_i hone htwo hthree
    constructor
    · intro h
      cases h
    · rintro (⟨-, -, h⟩ | ⟨-, h⟩ | h)
      · exact absurd h (hone sec)
      · exact absurd h (htwo min sec)
      · exact absurd h (hthree hour min sec)

/-- The formats differ by the colons the text starts with. -/
theorem fieldsOf_colons {k : Nat} {t : CStr} (ht : t.head? ≠ some 58)
    (hk : k + t.count 58 ≤ 2) :
    fieldsOf (List.replicate k 58 ++ t) = scanDecimals (t.count 58 + 1) t := by
  have hcount : countChr (List.replicate k 58 ++ t) 58 = k + t.count 58 := by
    rw [countChr, List.count_append, List.count_replicate_self]
  rw [fieldsOf, hcount]
  obtain ⟨n, hn⟩ : ∃ n, n = t.count 58 := ⟨_, rfl⟩
  rw [← hn] at hk ⊢
  match k, n, hk with
  | 0, 0, _ => rfl
  | 0, 1, _ => exact if_neg ht
  | 0, 2, _ =>
    have htake : t.take 2 ≠ [58, 58] := by
      intro h
      have hhead := congrArg List.head? h
      rw [List.head?_take] at hhead
      exact ht hhead
    exact (if_neg htake).trans (if_neg ht)
  | 1, 0, _ => rfl
  | 1, 1, _ =>
    have htake : (List.replicate 1 58 ++ t).take 2 ≠ [58, 58] := by
      cases t with
      | nil => nofun
      | cons c t =>
        intro h
        cases h
        exact ht rfl
    exact if_neg htake
  | 2, 0, _ => rfl
  | 0, n + 3, hk | 1, n + 2, hk | 2, n + 1, hk | k + 3, n, hk => omega

theorem fieldsOf_three {t : CStr} (ht : t.head? ≠ some 58) (hcount : t.count 58 = 2) :
    fieldsOf t = scanDecimals 3 t := by
  have hfields := fieldsOf_colons (k := 0) ht (by omega)
  rw [hcount] at hfields
  exact hfields

theorem exists_colons (s : CStr) :
    ∃ k t, s = List.replicate k 58 ++ t ∧ t.head? ≠ some 58 := by
  induction s with
  | nil => exact ⟨0, [], rfl, nofun⟩
  | cons c s ih =>
    by_cases hc : c = 58
    · obtain ⟨k, t, rfl, ht⟩ := ih
      exact ⟨k + 1, t, by rw [hc]; rfl, ht⟩
    · refine ⟨0, c :: s, rfl, ?_⟩
      intro h
      exact hc (Option.some.inj h)

theorem count_le_two {s : CStr} {vs : List UInt32} (h : fieldsOf s = some vs) :
    s.count 58 ≤ 2 := by
  rw [fieldsOf] at h
  split at h
  · rename_i hcount
    exact Nat.le_of_eq hcount |>.trans (Nat.zero_le 2)
  · rename_i hcount
    exact Nat.le_of_eq hcount |>.trans (Nat.le_succ 1)
  · rename_i hcount
    exact Nat.le_of_eq hcount
  · cases h

/-! ## The readings -/

theorem read_of_scanDuration {s : CStr} {hour min sec : UInt32}
    (h : scanDuration s = some (hour, min, sec)) : Read s hour.toNat min.toNat sec.toNat := by
  have hzero : (0 : UInt32).toNat = 0 := rfl
  obtain ⟨k, t, rfl, ht⟩ := exists_colons s
  have hfields (vs : List UInt32) (hvs : fieldsOf (List.replicate k 58 ++ t) = some vs) :
      k + t.count 58 ≤ 2 ∧ scanDecimals (t.count 58 + 1) t = some vs ∧
        vs.length = t.count 58 + 1 := by
    have hk := count_le_two hvs
    rw [List.count_append, List.count_replicate_self] at hk
    rw [fieldsOf_colons ht hk] at hvs
    exact ⟨hk, hvs, length_scanDecimals hvs⟩
  rcases scanDuration_eq_some.mp h with ⟨rfl, rfl, hsome⟩ | ⟨rfl, hsome⟩ | hsome
  · obtain ⟨hk, hscan, hlength⟩ := hfields _ hsome
    have hnone : t.count 58 = 0 := Nat.succ.inj hlength.symm
    rw [hnone] at hk hscan
    have hlast := (scanDecimals_last (List.count_eq_zero.mp hnone)).mp hscan
    match k, hk with
    | 0, _ => exact .seconds hlast
    | 1, _ => exact .minutes .empty hlast
    | 2, _ => exact .hours .empty .empty (fun _ => .inl rfl) hlast
  · obtain ⟨hk, hscan, hlength⟩ := hfields _ hsome
    have hone : t.count 58 = 1 := Nat.succ.inj hlength.symm
    rw [hone] at hk hscan
    obtain ⟨m, u, rfl, hm, hu⟩ := scanDecimals_next.mp hscan
    have hcolon : 58 ∉ u := by
      rw [List.count_append, List.count_cons_self] at hone
      exact List.count_eq_zero.mp (by omega)
    have hlast := (scanDecimals_last hcolon).mp hu
    match k, hk with
    | 0, _ => exact .minutes (.field hm) hlast
    | 1, _ => exact .hours .empty (.field hm) (fun _ => .inl rfl) hlast
  · obtain ⟨hk, hscan, hlength⟩ := hfields _ hsome
    have htwo : t.count 58 = 2 := Nat.succ.inj hlength.symm
    rw [htwo] at hk hscan
    obtain ⟨a, u, rfl, ha, hu⟩ := scanDecimals_next.mp hscan
    obtain ⟨m, v, rfl, hm, hv⟩ := scanDecimals_next.mp hu
    have hcolon : 58 ∉ v := by
      rw [List.count_append, List.count_cons_self, List.count_append, List.count_cons_self] at htwo
      exact List.count_eq_zero.mp (by omega)
    have hlast := (scanDecimals_last hcolon).mp hv
    match k, hk with
    | 0, _ => exact .hours (.field ha) (.field hm) (fun h => absurd h hm.ne_nil) hlast

theorem head_ne_colon {t u : CStr} (hne : t ≠ []) (h : 58 ∉ t) : (t ++ u).head? ≠ some 58 := by
  cases t with
  | nil => exact absurd rfl hne
  | cons c t =>
    intro hc
    cases hc
    exact h List.mem_cons_self

theorem ScannedLast.ne_nil {s : CStr} {n : Nat} (h : ScannedLast s n) : s ≠ [] := by
  obtain ⟨h, -, -⟩ := h
  intro hnil
  exact h.ne_nil (List.append_eq_nil_iff.mp hnil).1

theorem ScannedLast.head {s : CStr} {n : Nat} (h : ScannedLast s n) : s.head? ≠ some 58 := by
  have hhead := head_ne_colon (u := []) h.ne_nil h.no_colon
  rw [List.append_nil] at hhead
  exact hhead

theorem scanDuration_seconds {k : Nat} {s : CStr} {sec : UInt32} (hk : k ≤ 2)
    (hs : ScannedLast s sec.toNat) :
    scanDuration (List.replicate k 58 ++ s) = some (0, 0, sec) := by
  have hcount : s.count 58 = 0 := List.count_eq_zero.mpr hs.no_colon
  refine scanDuration_eq_some.mpr (.inl ⟨rfl, rfl, ?_⟩)
  rw [fieldsOf_colons hs.head (by omega), hcount]
  exact (scanDecimals_last hs.no_colon).mpr hs

theorem scanDuration_minutes {k : Nat} {m s : CStr} {min sec : UInt32} (hk : k ≤ 1)
    (hm : Scanned m min.toNat) (hs : ScannedLast s sec.toNat) :
    scanDuration (List.replicate k 58 ++ (m ++ 58 :: s)) = some (0, min, sec) := by
  have hcount : (m ++ 58 :: s).count 58 = 1 := by
    rw [List.count_append, List.count_cons_self, List.count_eq_zero.mpr hs.no_colon,
      List.count_eq_zero.mpr hm.no_colon]
  refine scanDuration_eq_some.mpr (.inr (.inl ⟨rfl, ?_⟩))
  rw [fieldsOf_colons (head_ne_colon hm.ne_nil hm.no_colon) (by omega), hcount]
  exact scanDecimals_next.mpr ⟨m, s, rfl, hm, (scanDecimals_last hs.no_colon).mpr hs⟩

theorem scanDuration_hours {h m s : CStr} {hour min sec : UInt32} (hh : Scanned h hour.toNat)
    (hm : Scanned m min.toNat) (hs : ScannedLast s sec.toNat) :
    scanDuration (h ++ 58 :: (m ++ 58 :: s)) = some (hour, min, sec) := by
  have hcount : (h ++ 58 :: (m ++ 58 :: s)).count 58 = 2 := by
    rw [List.count_append, List.count_cons_self, List.count_append, List.count_cons_self,
      List.count_eq_zero.mpr hs.no_colon, List.count_eq_zero.mpr hm.no_colon,
      List.count_eq_zero.mpr hh.no_colon]
  have hfields := fieldsOf_three (head_ne_colon hh.ne_nil hh.no_colon) hcount
  refine scanDuration_eq_some.mpr (.inr (.inr (hfields.trans ?_)))
  exact scanDecimals_next.mpr ⟨h, _, rfl, hh, scanDecimals_next.mpr
    ⟨m, s, rfl, hm, (scanDecimals_last hs.no_colon).mpr hs⟩⟩

theorem scanDuration_of_read {s : CStr} {hour min sec : UInt32}
    (h : Read s hour.toNat min.toNat sec.toNat) : scanDuration s = some (hour, min, sec) := by
  have hzero {v : UInt32} (hv : 0 = v.toNat) : v = 0 := UInt32.toNat_inj.mp hv.symm
  generalize ha : hour.toNat = a at h
  generalize hb : min.toNat = b at h
  generalize hc : sec.toNat = c at h
  cases h with
  | seconds hs =>
    rw [hzero ha.symm, hzero hb.symm]
    exact scanDuration_seconds (k := 0) (Nat.zero_le 2) (hc ▸ hs)
  | minutes hm hs =>
    rw [hzero ha.symm]
    cases hm with
    | empty =>
      rw [hzero hb.symm]
      exact scanDuration_seconds (k := 1) (Nat.le_succ 1) (hc ▸ hs)
    | field hm => exact scanDuration_minutes (k := 0) (Nat.zero_le 1) (hb ▸ hm) (hc ▸ hs)
  | hours hh hm hgap hs =>
    cases hm with
    | empty =>
      cases hh with
      | empty =>
        rw [hzero ha.symm, hzero hb.symm]
        exact scanDuration_seconds (k := 2) (Nat.le_refl 2) (hc ▸ hs)
      | field hh =>
        rcases hgap rfl with hnil | hno
        · exact absurd hnil hh.ne_nil
        · cases hno
    | field hm =>
      cases hh with
      | empty =>
        rw [hzero ha.symm]
        exact scanDuration_minutes (k := 1) (Nat.le_refl 1) (hb ▸ hm) (hc ▸ hs)
      | field hh => exact scanDuration_hours (ha ▸ hh) (hb ▸ hm) (hc ▸ hs)

theorem toNat_seconds {hour min sec : UInt32}
    (h : InRange hour.toNat min.toNat sec.toNat) :
    (hour * 3600 + min * 60 + sec).toNat = 3600 * hour.toNat + 60 * min.toNat + sec.toNat := by
  obtain ⟨hhour, hmin, hsec⟩ := h
  have hhours : (3600 : UInt32).toNat = 3600 := rfl
  have hminutes : (60 : UInt32).toNat = 60 := rfl
  rw [UInt32.toNat_add, UInt32.toNat_add, UInt32.toNat_mul, UInt32.toNat_mul, hhours, hminutes]
  omega

/-- What `process_duration` accepts. -/
theorem processDuration_iff {s : CStr} {n : UInt32} :
    (∃ str, processDuration s = some (n, str)) ↔
      ∃ hour min sec, Read s hour min sec ∧ InRange hour min sec ∧
        n.toNat = 3600 * hour + 60 * min + sec := by
  have hrange (hour min sec : UInt32) :
      ¬ (hour > 99999 ∨ min > 59 ∨ sec > 59) ↔ InRange hour.toNat min.toNat sec.toNat := by
    have hmost : (99999 : UInt32).toNat = 99999 := rfl
    have hless : (59 : UInt32).toNat = 59 := rfl
    simp only [not_or, UInt32.not_lt, gt_iff_lt, UInt32.le_iff_toNat_le, hmost, hless]
    exact ⟨fun ⟨hhour, hmin, hsec⟩ => ⟨hhour, hmin, hsec⟩,
      fun ⟨hhour, hmin, hsec⟩ => ⟨hhour, hmin, hsec⟩⟩
  constructor
  · rintro ⟨str, h⟩
    obtain ⟨⟨hour, min, sec⟩, hscan, hset⟩ := Option.bind_eq_some_iff.mp h
    simp only at hset
    split at hset
    · cases hset
    · rename_i hno
      have hin := (hrange hour min sec).mp hno
      have hn : hour * 3600 + min * 60 + sec = n := congrArg Prod.fst (Option.some.inj hset)
      refine ⟨_, _, _, read_of_scanDuration hscan, hin, ?_⟩
      rw [← hn, toNat_seconds hin]
  · rintro ⟨hour, min, sec, hread, hin, hn⟩
    have hfits {v : Nat} (hv : v ≤ 99999) : ∃ w : UInt32, w.toNat = v :=
      ⟨UInt32.ofNat v, UInt32.toNat_ofNat_of_lt' (Nat.lt_of_le_of_lt hv (by decide))⟩
    obtain ⟨hour, rfl⟩ := hfits hin.hour
    obtain ⟨min, rfl⟩ := hfits (hin.min.trans (by decide))
    obtain ⟨sec, rfl⟩ := hfits (hin.sec.trans (by decide))
    rw [processDuration, scanDuration_of_read hread, Option.bind_some]
    rw [← toNat_seconds hin, UInt32.toNat_inj] at hn
    rw [hn]
    exact ⟨_, if_neg ((hrange _ _ _).mpr hin)⟩

/-! ## Agreement with the grammar -/

theorem Leading.scanned {s : CStr} {n : Nat} (h : Leading Decimal s n) (hn : n < 2 ^ 32) :
    Leading Scanned s n := by
  cases h with
  | empty => exact .empty
  | field h => exact .field (h.scanned hn)

theorem Decimal.scannedLast {s : CStr} {n : Nat} (h : Decimal s n) (hn : n < 2 ^ 32) :
    ScannedLast s n := by
  have hlast : ScannedLast (s ++ []) n := .intro (h.scanned hn) nofun List.not_mem_nil
  rw [List.append_nil] at hlast
  exact hlast

/-- `sscanf` reads a duration in range as what it is. -/
theorem Grammar.read {s : CStr} {hour min sec : Nat} (h : Grammar false s hour min sec)
    (hin : InRange hour min sec) : Read s hour min sec := by
  obtain ⟨hhour, hmin, hsec⟩ := hin
  cases h with
  | seconds hs => exact .seconds (hs.scannedLast (by omega))
  | minutes hm hs => exact .minutes (hm.scanned (by omega)) (hs.scannedLast (by omega))
  | hours hh hm hgap hs =>
    exact .hours (hh.scanned (by omega)) (hm.scanned (by omega)) hgap (hs.scannedLast (by omega))

theorem Grammar.weaken {gaps : Bool} {s : CStr} {hour min sec : Nat}
    (h : Grammar false s hour min sec) : Grammar gaps s hour min sec := by
  cases h with
  | seconds hs => exact .seconds hs
  | minutes hm hs => exact .minutes hm hs
  | hours hh hm hgap hs =>
    refine .hours hh hm (fun hnil => .inl ?_) hs
    rcases hgap hnil with hempty | hno
    · exact hempty
    · cases hno

/-- Hours without minutes are not read. -/
theorem scanDuration_gap {h s : CStr} {hour sec : Nat} (hh : Scanned h hour) (hs : Decimal s sec) :
    scanDuration (h ++ 58 :: 58 :: s) = none := by
  have hcount : (h ++ 58 :: 58 :: s).count 58 = 2 := by
    have hcolon : 58 ∉ s := fun hmem => absurd (hs.digits _ hmem) (by decide)
    rw [List.count_append, List.count_cons_self, List.count_cons_self,
      List.count_eq_zero.mpr hcolon, List.count_eq_zero.mpr hh.no_colon]
  have hfields := fieldsOf_three (head_ne_colon hh.ne_nil hh.no_colon) hcount
  have hstops : Stops (58 :: 58 :: s) := by
    intro c hc
    cases hc
    rfl
  have hsecond : scanDecimals 2 (58 :: s) = none := rfl
  obtain ⟨x, hfirst, -⟩ := scanDecimal_iff.mpr ⟨h, rfl, hh, hstops⟩
  rw [scanDecimals, hfirst] at hfields
  simp only [hsecond, Option.map_none] at hfields
  cases hscan : scanDuration (h ++ 58 :: 58 :: s) with
  | none => rfl
  | some r =>
    obtain ⟨x, y, z⟩ := r
    rcases scanDuration_eq_some.mp hscan with ⟨-, -, hsome⟩ | ⟨-, hsome⟩ | hsome <;>
      · rw [hfields] at hsome
        cases hsome

/-- A text of the grammar that is accepted has no minutes missing behind hours. -/
theorem Grammar.strict {gaps : Bool} {s : CStr} {hour min sec : Nat}
    (h : Grammar gaps s hour min sec) (hin : InRange hour min sec)
    {n : UInt32} {str : CStr} (hread : processDuration s = some (n, str)) :
    Grammar false s hour min sec := by
  cases h with
  | seconds hs => exact .seconds hs
  | minutes hm hs => exact .minutes hm hs
  | hours hh hm hgap hs =>
    cases hm with
    | field hm => exact .hours hh (.field hm) (fun hnil => absurd hnil hm.nonempty) hs
    | empty =>
      cases hh with
      | empty => exact .hours .empty .empty (fun _ => .inl rfl) hs
      | field hh =>
        have hhour := hin.hour
        rw [processDuration, List.nil_append, scanDuration_gap (hh.scanned (by omega)) hs] at hread
        cases hread

/-- The texts that are durations in range, with no minutes missing behind hours, or that
neither the grammar nor `sscanf` takes for a duration in range. -/
def Met (gaps : Bool) (s : CStr) : Prop :=
  (∃ hour min sec, Grammar false s hour min sec ∧ InRange hour min sec) ∨
    ((¬ ∃ hour min sec, Grammar gaps s hour min sec ∧ InRange hour min sec) ∧
      ¬ ∃ hour min sec, Read s hour min sec ∧ InRange hour min sec)

theorem processDuration_exact_iff (gaps : Bool) (s : CStr) :
    Exact gaps RattArgs.processDuration s ↔ Met gaps s := by
  have hseconds {hour min sec : Nat} (hin : InRange hour min sec) :
      (UInt32.ofNat (3600 * hour + 60 * min + sec)).toNat = 3600 * hour + 60 * min + sec := by
    obtain ⟨hhour, hmin, hsec⟩ := hin
    refine UInt32.toNat_ofNat_of_lt' ?_
    show _ < 2 ^ 32
    omega
  constructor
  · intro h
    by_cases hread : ∃ hour min sec, Read s hour min sec ∧ InRange hour min sec
    · obtain ⟨hour, min, sec, hread, hin⟩ := hread
      obtain ⟨str, hstr⟩ := processDuration_iff.mpr ⟨_, _, _, hread, hin, hseconds hin⟩
      obtain ⟨a, b, c, hgrammar, hin', -⟩ := (h _).mp ⟨str, hstr⟩
      exact .inl ⟨a, b, c, hgrammar.strict hin' hstr, hin'⟩
    · refine .inr ⟨?_, hread⟩
      rintro ⟨hour, min, sec, hgrammar, hin⟩
      obtain ⟨str, hstr⟩ := (h _).mpr ⟨_, _, _, hgrammar, hin, hseconds hin⟩
      obtain ⟨a, b, c, hread', hin', -⟩ := processDuration_iff.mp ⟨str, hstr⟩
      exact hread ⟨a, b, c, hread', hin'⟩
  · rintro (⟨hour, min, sec, hgrammar, hin⟩ | ⟨hnone, hread⟩) n
    · obtain ⟨str, hstr⟩ := processDuration_iff.mpr
        ⟨_, _, _, hgrammar.read hin, hin, hseconds hin⟩
      constructor
      · rintro ⟨str', hstr'⟩
        rw [hstr] at hstr'
        cases hstr'
        exact ⟨hour, min, sec, hgrammar.weaken, hin, hseconds hin⟩
      · rintro ⟨a, b, c, hgrammar', hin', hn⟩
        exact processDuration_iff.mpr
          ⟨a, b, c, (Grammar.strict hgrammar' hin' hstr).read hin', hin', hn⟩
    · constructor
      · intro h
        obtain ⟨a, b, c, hread', hin', -⟩ := processDuration_iff.mp h
        exact absurd ⟨a, b, c, hread', hin'⟩ hread
      · rintro ⟨a, b, c, hgrammar, hin, -⟩
        exact absurd ⟨a, b, c, hgrammar, hin⟩ hnone

/-- **Durations.** Exactly on these texts `process_duration` of either tool accepts what the
grammar accepts, with the seconds it denotes. -/
theorem durations_exact_iff (gaps : Bool) (s : CStr) :
    (Exact gaps RattArgs.processDuration s ↔ Met gaps s) ∧
      (Exact gaps Lttt.processDuration s ↔ Met gaps s) :=
  ⟨processDuration_exact_iff gaps s, processDuration_exact_iff gaps s⟩

theorem Grammar.chars {gaps : Bool} {s : CStr} {hour min sec : Nat}
    (h : Grammar gaps s hour min sec) : ∀ c ∈ s, isDigit 10 c = true ∨ c = 58 := by
  have hleading {t : CStr} {n : Nat} (ht : Leading Decimal t n) :
      ∀ c ∈ t, isDigit 10 c = true ∨ c = 58 := by
    cases ht with
    | empty => nofun
    | field ht => exact fun c hc => .inl (ht.digits c hc)
  cases h with
  | seconds hs => exact fun c hc => .inl (hs.digits c hc)
  | minutes hm hs =>
    rw [List.forall_mem_append, List.forall_mem_cons]
    exact ⟨hleading hm, .inr rfl, fun c hc => .inl (hs.digits c hc)⟩
  | hours hh hm hgap hs =>
    rw [List.forall_mem_append, List.forall_mem_cons, List.forall_mem_append, List.forall_mem_cons]
    exact ⟨hleading hh, .inr rfl, hleading hm, .inr rfl, fun c hc => .inl (hs.digits c hc)⟩

/-- `5m`, which somebody may take for five minutes, is a duration of five seconds. -/
theorem trailing_text_accepted :
    (processDuration (lit "5m")).map Prod.fst = some 5 ∧
      ¬ Exact true RattArgs.processDuration (lit "5m") ∧
      ¬ Exact false RattArgs.processDuration (lit "5m") ∧
      ¬ Exact true Lttt.processDuration (lit "5m") ∧
      ¬ Exact false Lttt.processDuration (lit "5m") := by
  have hscan : scanDuration (lit "5m") = some (0, 0, 5) := by decide
  obtain ⟨str, hread⟩ : ∃ str, processDuration (lit "5m") = some (5, str) := by
    rw [processDuration, hscan]
    exact ⟨_, rfl⟩
  have hno (gaps : Bool) : ¬ Exact gaps RattArgs.processDuration (lit "5m") := by
    intro h
    obtain ⟨hour, min, sec, hgrammar, -⟩ := (h 5).mp ⟨str, hread⟩
    have hlast := hgrammar.chars 109 (by decide)
    revert hlast
    decide
  exact ⟨congrArg (Option.map Prod.fst) hread, hno true, hno false, hno true, hno false⟩

end Rtdk.Duration
