import Rtdk.CString
import Mathlib.Data.List.TakeWhile

/-! What whole strings denote as numbers, and which of them the library calls
convert.

A numeral is spaces, a sign, for base 16 a mark `0x`, and digits. `strtol` takes
those whose integer a `long` holds. `strtoull` takes those whose magnitude it
holds, and negates that modulo `2^64` after a minus. -/

namespace Rtdk.Numerals
open Rtdk.CString

/-- The whole string is a numeral for `z`. -/
structure Denotes (base : Nat) (s : CStr) (z : Int) : Prop where
  parts : ∃ spaces sign mark digits : CStr,
    s = spaces ++ (sign ++ (mark ++ digits)) ∧ (∀ c ∈ spaces, isspace c = true) ∧
      (sign = [] ∨ sign = lit "+" ∨ sign = lit "-") ∧
      (mark = [] ∨ base = 16 ∧ (mark = lit "0x" ∨ mark = lit "0X")) ∧
      digits ≠ [] ∧ (∀ c ∈ digits, isDigit base c = true) ∧
      z = if sign = lit "-" then -(digitsValue base digits : Int) else digitsValue base digits

def signed (neg : Bool) (n : Nat) : Int := if neg then -(n : Int) else n

/-! ## The scanner -/

theorem isDigit_cases {base : Nat} {c : UInt8} (h : isDigit base c = true) :
    (48 ≤ c.toNat ∧ c.toNat ≤ 57) ∨ (65 ≤ c.toNat ∧ c.toNat ≤ 90) ∨
      (97 ≤ c.toNat ∧ c.toNat ≤ 122) := by
  unfold isDigit digitValue at h
  split at h
  · rename_i d hd
    split at hd
    · rename_i hr
      rw [UInt8.le_iff_toNat_le, UInt8.le_iff_toNat_le] at hr
      exact Or.inl hr
    · split at hd
      · rename_i hr
        unfold tolower at hr
        split at hr
        · rename_i hup
          rw [UInt8.le_iff_toNat_le, UInt8.le_iff_toNat_le] at hup
          exact Or.inr (Or.inl hup)
        · rw [UInt8.le_iff_toNat_le, UInt8.le_iff_toNat_le] at hr
          exact Or.inr (Or.inr hr)
      · cases hd
  · cases h

theorem isspace_cases {c : UInt8} (h : isspace c = true) :
    c.toNat = 32 ∨ (9 ≤ c.toNat ∧ c.toNat ≤ 13) := by
  simp only [isspace, Bool.or_eq_true, beq_iff_eq, Bool.and_eq_true, decide_eq_true_eq] at h
  rcases h with rfl | ⟨hlo, hhi⟩
  · exact Or.inl rfl
  · rw [UInt8.le_iff_toNat_le] at hlo hhi
    exact Or.inr ⟨hlo, hhi⟩

theorem isDigit_not_space {base : Nat} {c : UInt8} (h : isDigit base c = true) :
    isspace c = false := by
  cases hs : isspace c with
  | false => rfl
  | true =>
    have hd := isDigit_cases h
    have hc := isspace_cases hs
    omega

theorem scanSign_of_digit {base : Nat} {c : UInt8} {s : CStr} (h : isDigit base c = true) :
    scanSign (c :: s) = (false, c :: s) := by
  have hd := isDigit_cases h
  unfold scanSign
  split
  · rename_i heq
    cases heq
    exact absurd hd (by decide)
  · rename_i heq
    cases heq
    exact absurd hd (by decide)
  · rfl

/-- Digits of base 16 do not start with a mark. -/
theorem hasHexMark_digits {base : Nat} (hbase : base = 16) {ds : CStr}
    (h : ∀ c ∈ ds, isDigit base c = true) : hasHexMark ds = false := by
  subst hbase
  unfold hasHexMark
  split
  · rename_i c s
    cases hx : tolower c == 120 with
    | false => rfl
    | true =>
      have hd := h c (by simp)
      have hx := eq_of_beq hx
      unfold isDigit digitValue at hd
      rw [hx] at hd
      split at hd
      · rename_i d hval
        split at hval
        · rename_i hr
          unfold tolower at hx
          rw [UInt8.le_iff_toNat_le, UInt8.le_iff_toNat_le] at hr
          split at hx
          · rename_i hup
            rw [UInt8.le_iff_toNat_le, UInt8.le_iff_toNat_le] at hup
            have h48 : c.toNat ≤ 57 := hr.2
            have h65 : 65 ≤ c.toNat := hup.1
            omega
          · rw [hx] at hr
            exact absurd hr (by decide)
        · rw [if_pos (by decide)] at hval
          cases hval
          exact absurd hd (by decide)
      · cases hd
  · rfl

/-- What follows the mark, if there is one. -/
def afterMark (base : Nat) (s : CStr) : CStr :=
  if base == 16 && hasHexMark s && ((s.drop 2).head?.any (isDigit base)) then s.drop 2 else s

theorem scanNumber_eq (base : Nat) (s : CStr) : scanNumber base s =
    let digits := afterMark base (scanSign (s.dropWhile isspace)).2
    if digits.takeWhile (isDigit base) = [] then none
    else some ((scanSign (s.dropWhile isspace)).1,
      digitsValue base (digits.takeWhile (isDigit base)), digits.dropWhile (isDigit base)) :=
  rfl

theorem afterMark_digits {base : Nat} {mark ds : CStr}
    (hmark : mark = [] ∨ base = 16 ∧ (mark = lit "0x" ∨ mark = lit "0X")) (hne : ds ≠ [])
    (hds : ∀ c ∈ ds, isDigit base c = true) : afterMark base (mark ++ ds) = ds := by
  obtain ⟨d, ds, rfl⟩ := List.exists_cons_of_ne_nil hne
  have hfirst : isDigit base d = true := hds d List.mem_cons_self
  unfold afterMark
  rcases hmark with rfl | ⟨rfl, rfl | rfl⟩
  · apply if_neg
    intro h
    simp only [Bool.and_eq_true, beq_iff_eq] at h
    rw [List.nil_append, hasHexMark_digits h.1.1 hds] at h
    exact Bool.false_ne_true h.1.2
  · have hm : lit "0x" = [48, 120] := by decide
    rw [hm]
    apply if_pos
    simp only [List.cons_append, List.nil_append, List.drop_succ_cons, List.drop_zero,
      List.head?_cons, Option.any_some, hfirst, Bool.and_true]
    rfl
  · have hm : lit "0X" = [48, 88] := by decide
    rw [hm]
    apply if_pos
    simp only [List.cons_append, List.nil_append, List.drop_succ_cons, List.drop_zero,
      List.head?_cons, Option.any_some, hfirst, Bool.and_true]
    rfl

theorem scanSign_split (s : CStr) : ∃ sign, s = sign ++ (scanSign s).2 ∧
    (sign = [] ∨ sign = lit "+" ∨ sign = lit "-") ∧ ((scanSign s).1 = true ↔ sign = lit "-") := by
  have hminus : lit "-" = [45] := by decide
  have hplus : lit "+" = [43] := by decide
  unfold scanSign
  split
  · exact ⟨lit "-", by rw [hminus]; rfl, Or.inr (Or.inr rfl), iff_of_true rfl rfl⟩
  · exact ⟨lit "+", by rw [hplus]; rfl, Or.inr (Or.inl rfl),
      iff_of_false Bool.false_ne_true (by decide)⟩
  · exact ⟨[], rfl, Or.inl rfl, iff_of_false Bool.false_ne_true (by decide)⟩

theorem hasHexMark_split {s : CStr} (h : hasHexMark s = true) :
    ∃ mark, s = mark ++ s.drop 2 ∧ (mark = lit "0x" ∨ mark = lit "0X") := by
  unfold hasHexMark at h
  split at h
  · rename_i c s
    have hx : lit "0x" = [48, 120] := by decide
    have hX : lit "0X" = [48, 88] := by decide
    have hc := eq_of_beq h
    refine ⟨[48, c], rfl, ?_⟩
    unfold tolower at hc
    split at hc
    · rename_i hup
      have hval : c = 88 := by
        have hsub := congrArg (· - 32) hc
        simpa using hsub
      rw [hval, hX]
      exact Or.inr rfl
    · rw [hc, hx]
      exact Or.inl rfl
  · cases h

theorem afterMark_split (base : Nat) (s : CStr) : ∃ mark, s = mark ++ afterMark base s ∧
    (mark = [] ∨ base = 16 ∧ (mark = lit "0x" ∨ mark = lit "0X")) := by
  unfold afterMark
  split
  · rename_i h
    simp only [Bool.and_eq_true, beq_iff_eq] at h
    obtain ⟨mark, hmark, hx⟩ := hasHexMark_split h.1.2
    exact ⟨mark, hmark, Or.inr ⟨h.1.1, hx⟩⟩
  · exact ⟨[], rfl, Or.inl rfl⟩

/-- The scanner gets to the end of a string just if the string is a numeral. -/
theorem denotes_iff {base : Nat} {s : CStr} {z : Int} :
    Denotes base s z ↔ ∃ neg n, scanNumber base s = some (neg, n, []) ∧ z = signed neg n := by
  have hminus : lit "-" = [45] := by decide
  have hplus : lit "+" = [43] := by decide
  constructor
  · rintro ⟨spaces, sign, mark, ds, rfl, hspaces, hsign, hmark, hne, hds, rfl⟩
    obtain ⟨c, t, hct, hc⟩ : ∃ c t, mark ++ ds = c :: t ∧ isDigit base c = true := by
      rcases hmark with rfl | ⟨rfl, rfl | rfl⟩
      · obtain ⟨d, ds, rfl⟩ := List.exists_cons_of_ne_nil hne
        exact ⟨d, ds, rfl, hds d List.mem_cons_self⟩
      · exact ⟨48, 120 :: ds, by rw [show lit "0x" = [48, 120] by decide]; rfl, by decide⟩
      · exact ⟨48, 88 :: ds, by rw [show lit "0X" = [48, 88] by decide]; rfl, by decide⟩
    have hscan : scanSign ((spaces ++ (sign ++ (mark ++ ds))).dropWhile isspace) =
        (decide (sign = lit "-"), mark ++ ds) := by
      rw [List.dropWhile_append_of_pos hspaces]
      rcases hsign with rfl | rfl | rfl
      · rw [List.nil_append, hct, List.dropWhile_cons, isDigit_not_space hc, if_neg Bool.false_ne_true,
          scanSign_of_digit hc]
        rfl
      · rw [hplus, List.cons_append, List.nil_append, List.dropWhile_cons,
          if_neg (by decide), scanSign]
        rfl
      · rw [hminus, List.cons_append, List.nil_append, List.dropWhile_cons,
          if_neg (by decide), scanSign]
        rfl
    have htake : ds.takeWhile (isDigit base) = ds := List.takeWhile_eq_self_iff.mpr hds
    have hdrop : ds.dropWhile (isDigit base) = [] := List.dropWhile_eq_nil_iff.mpr hds
    refine ⟨decide (sign = lit "-"), digitsValue base ds, ?_, ?_⟩
    · simp only [scanNumber_eq, hscan, afterMark_digits hmark hne hds, htake, hdrop, if_neg hne]
    unfold signed
    by_cases hs : sign = lit "-"
    · rw [if_pos hs, if_pos (by simp [hs])]
    · rw [if_neg hs, if_neg (by simp [hs])]
  · rintro ⟨neg, n, hscan, rfl⟩
    obtain ⟨sign, hsplit, hsign, hneg⟩ := scanSign_split (s.dropWhile isspace)
    obtain ⟨mark, hdigits, hmark⟩ := afterMark_split base (scanSign (s.dropWhile isspace)).2
    rw [scanNumber_eq] at hscan
    generalize hds : afterMark base (scanSign (s.dropWhile isspace)).2 = ds at hscan hdigits
    simp only at hscan
    split at hscan
    · cases hscan
    · rename_i hne
      injection hscan with hscan
      injection hscan with hsigned hscan
      injection hscan with hvalue hend
      have hall := List.dropWhile_eq_nil_iff.mp hend
      rw [List.takeWhile_eq_self_iff.mpr hall] at hne hvalue
      refine ⟨s.takeWhile isspace, sign, mark, ds, ?_, fun c hc => List.mem_takeWhile_imp hc, hsign,
        hmark, hne, hall, ?_⟩
      · rw [← hdigits, ← hsplit, List.takeWhile_append_dropWhile]
      · rw [signed, ← hsigned, hvalue]
        by_cases hs : sign = lit "-"
        · rw [if_pos hs, if_pos (hneg.mpr hs)]
        · rw [if_neg hs, if_neg (fun h => hs (hneg.mp h))]

theorem Denotes.unique {base : Nat} {s : CStr} {z z' : Int} (h : Denotes base s z)
    (h' : Denotes base s z') : z = z' := by
  obtain ⟨neg, n, hscan, rfl⟩ := denotes_iff.mp h
  obtain ⟨neg', n', hscan', rfl⟩ := denotes_iff.mp h'
  rw [hscan] at hscan'
  cases hscan'
  rfl

/-! ## The conversions -/

/-- The integers a `long` holds. -/
def InLong (z : Int) : Prop := -2 ^ 63 ≤ z ∧ z < 2 ^ 63

/-- The integers whose magnitude an `unsigned long` holds. -/
def InUlong (z : Int) : Prop := -2 ^ 64 < z ∧ z < 2 ^ 64

theorem strtol_converts {base : Nat} {s : CStr} {z : Int} (h : Denotes base s z) (hz : InLong z) :
    (strtol base s).whole = true ∧ (strtol base s).value.toInt = z := by
  obtain ⟨neg, n, hscan, rfl⟩ := denotes_iff.mp h
  obtain ⟨hlo, hhi⟩ := hz
  unfold strtol
  rw [hscan]
  cases neg with
  | true =>
    simp only [signed, if_true] at hlo hhi ⊢
    rw [if_neg (by omega)]
    refine ⟨rfl, ?_⟩
    rw [← Int64.ofInt_eq_ofNat, ← Int64.ofInt_neg]
    exact Int64.toInt_ofInt_of_le (by omega) (by omega)
  | false =>
    simp only [signed, Bool.false_eq_true, if_false] at hlo hhi ⊢
    rw [if_neg (by omega)]
    refine ⟨rfl, ?_⟩
    rw [← Int64.ofInt_eq_ofNat]
    exact Int64.toInt_ofInt_of_le (by omega) (by omega)

theorem strtol_ok_iff {base : Nat} {s : CStr} :
    (strtol base s).whole = true ↔ ∃ z, Denotes base s z ∧ InLong z := by
  constructor
  · intro h
    unfold strtol at h
    cases hscan : scanNumber base s with
    | none =>
      rw [hscan] at h
      cases h
    | some r =>
      obtain ⟨neg, n, rest⟩ := r
      rw [hscan] at h
      cases neg with
      | true =>
        simp only at h
        split at h
        · cases h
        · rename_i hsmall
          have hrest : rest = [] := by simpa [Strto.whole] using h
          rw [hrest] at hscan
          exact ⟨-(n : Int), denotes_iff.mpr ⟨true, n, hscan, rfl⟩, by omega, by omega⟩
      | false =>
        simp only at h
        split at h
        · cases h
        · rename_i hsmall
          have hrest : rest = [] := by simpa [Strto.whole] using h
          rw [hrest] at hscan
          exact ⟨n, denotes_iff.mpr ⟨false, n, hscan, rfl⟩, by omega, by omega⟩
  · rintro ⟨z, hdenotes, hz⟩
    exact (strtol_converts hdenotes hz).1

/-- The magnitude is converted, and then negated modulo `2^64`. -/
theorem strtoull_converts {base : Nat} {s : CStr} {z : Int} (h : Denotes base s z)
    (hz : InUlong z) :
    (strtoull base s).whole = true ∧ ((strtoull base s).value.toNat : Int) = z % 2 ^ 64 := by
  obtain ⟨neg, n, hscan, rfl⟩ := denotes_iff.mp h
  obtain ⟨hlo, hhi⟩ := hz
  have hsmall : n < 2 ^ 64 := by
    cases neg
    · simp only [signed, Bool.false_eq_true, if_false] at hhi
      omega
    · simp only [signed, if_true] at hlo
      omega
  have hn : (UInt64.ofNat n).toNat = n := UInt64.toNat_ofNat_of_lt' hsmall
  have hsize : UInt64.size = 2 ^ 64 := rfl
  unfold strtoull
  rw [hscan]
  simp only
  rw [if_neg (Nat.not_le.mpr hsmall)]
  refine ⟨rfl, ?_⟩
  unfold signed
  split
  · rw [UInt64.toNat_neg, hn, hsize]
    omega
  · rw [hn]
    omega

theorem strtoull_ok_iff {base : Nat} {s : CStr} :
    (strtoull base s).whole = true ↔ ∃ z, Denotes base s z ∧ InUlong z := by
  constructor
  · intro h
    unfold strtoull at h
    cases hscan : scanNumber base s with
    | none =>
      rw [hscan] at h
      cases h
    | some r =>
      obtain ⟨neg, n, rest⟩ := r
      rw [hscan] at h
      simp only at h
      split at h
      · cases h
      · rename_i hsmall
        have hrest : rest = [] := by simpa [Strto.whole] using h
        rw [hrest] at hscan
        refine ⟨signed neg n, denotes_iff.mpr ⟨neg, n, hscan, rfl⟩, ?_⟩
        unfold InUlong signed
        split <;> omega
  · rintro ⟨z, hdenotes, hz⟩
    exact (strtoull_converts hdenotes hz).1

end Rtdk.Numerals
