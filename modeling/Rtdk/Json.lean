import Rtdk.Numerals
import Rtdk.Snprintf
import Mathlib.Data.List.TakeWhile

/-! JSON texts with whole numbers and plain strings.

`Reads s v rest`: the text `s` starts with the value `v`, and goes on with `rest`. A
text is read in one way only (`Reads.unique`), and what comes behind the end of an
object makes no difference to it (`Reads.append`). There are no fractions, exponents,
escapes or literals here; what is read by these rules is JSON. -/

namespace Rtdk.Json
open Rtdk.CString Rtdk.Snprintf

inductive Value
  | string (s : CStr)
  | number (n : Nat)
  | array (vs : List Value)
  | object (ms : List (CStr × Value))

/-- Space, tabulator, line feed and carriage return. -/
def isWhite (c : UInt8) : Bool := c == 32 || c == 9 || c == 10 || c == 13

def skipWhite (s : CStr) : CStr := s.dropWhile isWhite

/-- A character that stands for itself in a string. -/
def isPlain (c : UInt8) : Bool := 32 ≤ c && c != 34 && c != 92

/-- The digits of a whole number: no zero in front of others. -/
structure Numeral (ds : CStr) : Prop where
  nonempty : ds ≠ []
  digits : ∀ c ∈ ds, isDigit 10 c = true
  noZero : ds.head? = some 48 → ds = [48]

/-- The text does not go on with a digit. -/
def NoDigit (s : CStr) : Prop := ∀ c ∈ s.head?, isDigit 10 c = false

mutual

inductive Reads : CStr → Value → CStr → Prop
  | string {s rest : CStr} (hs : ∀ c ∈ s, isPlain c = true) :
    Reads (34 :: (s ++ 34 :: rest)) (.string s) rest
  | number {ds rest : CStr} (hds : Numeral ds) (hrest : NoDigit rest) :
    Reads (ds ++ rest) (.number (digitsValue 10 ds)) rest
  | noElements {s rest : CStr} (hs : skipWhite s = 93 :: rest) : Reads (91 :: s) (.array []) rest
  | array {s rest : CStr} {vs : List Value} (h : Elements s vs rest) :
    Reads (91 :: s) (.array vs) rest
  | noMembers {s rest : CStr} (hs : skipWhite s = 125 :: rest) : Reads (123 :: s) (.object []) rest
  | object {s rest : CStr} {ms : List (CStr × Value)} (h : Members s ms rest) :
    Reads (123 :: s) (.object ms) rest

/-- Values with commas between them, and the bracket behind the last one. -/
inductive Elements : CStr → List Value → CStr → Prop
  | last {s t rest : CStr} {v : Value} (hv : Reads (skipWhite s) v t)
      (ht : skipWhite t = 93 :: rest) : Elements s [v] rest
  | next {s t u rest : CStr} {v : Value} {vs : List Value} (hv : Reads (skipWhite s) v t)
      (ht : skipWhite t = 44 :: u) (h : Elements u vs rest) : Elements s (v :: vs) rest

/-- Names and values, likewise. -/
inductive Members : CStr → List (CStr × Value) → CStr → Prop
  | last {s k a b t rest : CStr} {v : Value} (hk : Reads (skipWhite s) (.string k) a)
      (ha : skipWhite a = 58 :: b) (hv : Reads (skipWhite b) v t)
      (ht : skipWhite t = 125 :: rest) : Members s [(k, v)] rest
  | next {s k a b t u rest : CStr} {v : Value} {ms : List (CStr × Value)}
      (hk : Reads (skipWhite s) (.string k) a) (ha : skipWhite a = 58 :: b)
      (hv : Reads (skipWhite b) v t) (ht : skipWhite t = 44 :: u) (h : Members u ms rest) :
      Members s ((k, v) :: ms) rest

end

/-- The whole text is a value. -/
def Document (s : CStr) (v : Value) : Prop :=
  ∃ rest, Reads (skipWhite s) v rest ∧ skipWhite rest = []

theorem all_white {w : CStr} (h : w.all isWhite = true) : ∀ c ∈ w, isWhite c = true :=
  List.all_eq_true.mp h

theorem all_plain {k : CStr} (h : k.all isPlain = true) : ∀ c ∈ k, isPlain c = true :=
  List.all_eq_true.mp h

/-! ## One reading -/

/-- A part that ends where the text stops to have a property. -/
theorem span_unique {p : UInt8 → Bool} {s s' rest rest' : CStr} (hs : ∀ c ∈ s, p c = true)
    (hs' : ∀ c ∈ s', p c = true) (hrest : ∀ c ∈ rest.head?, p c = false)
    (hrest' : ∀ c ∈ rest'.head?, p c = false) (h : s ++ rest = s' ++ rest') :
    s = s' ∧ rest = rest' := by
  induction s generalizing s' with
  | nil =>
    cases s' with
    | nil => exact ⟨rfl, h⟩
    | cons c s' =>
      rw [List.nil_append, List.cons_append] at h
      have hno := hrest c (by rw [h]; rfl)
      rw [hs' c List.mem_cons_self] at hno
      cases hno
  | cons c s ih =>
    cases s' with
    | nil =>
      rw [List.nil_append, List.cons_append] at h
      have hno := hrest' c (by rw [← h]; rfl)
      rw [hs c List.mem_cons_self] at hno
      cases hno
    | cons c' s' =>
      rw [List.cons_append, List.cons_append, List.cons.injEq] at h
      obtain ⟨rfl, htail⟩ := h
      rw [List.forall_mem_cons] at hs hs'
      obtain ⟨rfl, hr⟩ := ih hs.2 hs'.2 htail
      exact ⟨rfl, hr⟩

theorem string_unique {s s' rest rest' : CStr} (hs : ∀ c ∈ s, isPlain c = true)
    (hs' : ∀ c ∈ s', isPlain c = true) (h : s ++ 34 :: rest = s' ++ 34 :: rest') :
    s = s' ∧ rest = rest' := by
  have hquote (r : CStr) : ∀ c ∈ (34 :: r : CStr).head?, isPlain c = false := by
    rintro c hc
    cases hc
    rfl
  obtain ⟨hss, hrest⟩ := span_unique hs hs' (hquote rest) (hquote rest') h
  exact ⟨hss, List.tail_eq_of_cons_eq hrest⟩

theorem not_white_of_digit {c : UInt8} (h : isDigit 10 c = true) : isWhite c = false := by
  have hspace := Numerals.isDigit_not_space h
  simp only [isWhite, isspace, Bool.or_eq_false_iff, beq_eq_false_iff_ne] at hspace ⊢
  obtain ⟨hblank, hcontrol⟩ := hspace
  refine ⟨⟨⟨hblank, ?_⟩, ?_⟩, ?_⟩ <;>
    · rintro rfl
      cases hcontrol

/-- A number starts with a digit. -/
theorem Numeral.head {ds : CStr} (h : Numeral ds) (rest : CStr) :
    ∃ c t, ds ++ rest = c :: t ∧ isDigit 10 c = true := by
  cases ds with
  | nil => exact absurd rfl h.nonempty
  | cons c ds => exact ⟨c, ds ++ rest, rfl, h.digits c List.mem_cons_self⟩

/-- No other value starts like a number. -/
theorem Numeral.ne {ds rest s : CStr} {c : UInt8} (h : Numeral ds) (hc : isDigit 10 c = false) :
    ds ++ rest ≠ c :: s := by
  intro heq
  obtain ⟨d, t, hd, hdigit⟩ := h.head rest
  rw [heq, List.cons.injEq] at hd
  rw [← hd.1, hc] at hdigit
  cases hdigit

/-- What a value starts with. -/
theorem Reads.head {s rest : CStr} {v : Value} (h : Reads s v rest) :
    ∃ c t, s = c :: t ∧ isWhite c = false ∧ c ≠ 93 ∧ c ≠ 125 := by
  cases h with
  | string hs => exact ⟨_, _, rfl, by decide⟩
  | number hds hrest =>
    obtain ⟨c, t, hc, hdigit⟩ := hds.head rest
    refine ⟨c, t, hc, not_white_of_digit hdigit, ?_, ?_⟩ <;>
      · rintro rfl
        cases hdigit
  | noElements hs => exact ⟨_, _, rfl, by decide⟩
  | array h => exact ⟨_, _, rfl, by decide⟩
  | noMembers hs => exact ⟨_, _, rfl, by decide⟩
  | object h => exact ⟨_, _, rfl, by decide⟩

theorem Elements.ne_close {s rest t : CStr} {vs : List Value} (h : Elements s vs rest) :
    skipWhite s ≠ 93 :: t := by
  intro heq
  cases h with
  | last hv ht =>
    obtain ⟨c, u, hc, -, hne, -⟩ := hv.head
    rw [heq, List.cons.injEq] at hc
    exact hne hc.1.symm
  | next hv ht h =>
    obtain ⟨c, u, hc, -, hne, -⟩ := hv.head
    rw [heq, List.cons.injEq] at hc
    exact hne hc.1.symm

theorem Members.ne_close {s rest t : CStr} {ms : List (CStr × Value)} (h : Members s ms rest) :
    skipWhite s ≠ 125 :: t := by
  intro heq
  cases h with
  | last hk ha hv ht =>
    obtain ⟨c, u, hc, -, -, hne⟩ := hk.head
    rw [heq, List.cons.injEq] at hc
    exact hne hc.1.symm
  | next hk ha hv ht h =>
    obtain ⟨c, u, hc, -, -, hne⟩ := hk.head
    rw [heq, List.cons.injEq] at hc
    exact hne hc.1.symm

mutual

theorem Reads.unique {s rest rest' : CStr} {v v' : Value} (h : Reads s v rest)
    (h' : Reads s v' rest') : v = v' ∧ rest = rest' := by
  match h with
  | .string hs =>
    generalize hx : (34 :: (_ ++ 34 :: rest) : CStr) = x at h'
    cases h' with
    | string hs' =>
      obtain ⟨rfl, rfl⟩ := string_unique hs hs' (List.tail_eq_of_cons_eq hx)
      exact ⟨rfl, rfl⟩
    | number hds' hrest' => exact absurd hx.symm (hds'.ne (by decide))
    | _ => cases hx
  | .number hds hrest =>
    generalize hx : (_ ++ rest : CStr) = x at h'
    cases h' with
    | number hds' hrest' =>
      obtain ⟨rfl, rfl⟩ := span_unique hds.digits hds'.digits hrest hrest' hx
      exact ⟨rfl, rfl⟩
    | _ => exact absurd hx (hds.ne (by decide))
  | .noElements hs =>
    generalize hx : (91 :: _ : CStr) = x at h'
    cases h' with
    | number hds' hrest' => exact absurd hx.symm (hds'.ne (by decide))
    | noElements hs' =>
      cases hx
      rw [hs] at hs'
      exact ⟨rfl, List.tail_eq_of_cons_eq hs'⟩
    | array he =>
      cases hx
      exact absurd hs he.ne_close
    | _ => cases hx
  | .array he =>
    generalize hx : (91 :: _ : CStr) = x at h'
    cases h' with
    | number hds' hrest' => exact absurd hx.symm (hds'.ne (by decide))
    | noElements hs' =>
      cases hx
      exact absurd hs' he.ne_close
    | array he' =>
      cases hx
      obtain ⟨rfl, rfl⟩ := he.unique he'
      exact ⟨rfl, rfl⟩
    | _ => cases hx
  | .noMembers hs =>
    generalize hx : (123 :: _ : CStr) = x at h'
    cases h' with
    | number hds' hrest' => exact absurd hx.symm (hds'.ne (by decide))
    | noMembers hs' =>
      cases hx
      rw [hs] at hs'
      exact ⟨rfl, List.tail_eq_of_cons_eq hs'⟩
    | object hm =>
      cases hx
      exact absurd hs hm.ne_close
    | _ => cases hx
  | .object hm =>
    generalize hx : (123 :: _ : CStr) = x at h'
    cases h' with
    | number hds' hrest' => exact absurd hx.symm (hds'.ne (by decide))
    | noMembers hs' =>
      cases hx
      exact absurd hs' hm.ne_close
    | object hm' =>
      cases hx
      obtain ⟨rfl, rfl⟩ := hm.unique hm'
      exact ⟨rfl, rfl⟩
    | _ => cases hx

theorem Elements.unique {s rest rest' : CStr} {vs vs' : List Value} (h : Elements s vs rest)
    (h' : Elements s vs' rest') : vs = vs' ∧ rest = rest' := by
  match h with
  | .last hv ht =>
    cases h' with
    | last hv' ht' =>
      obtain ⟨rfl, rfl⟩ := hv.unique hv'
      rw [ht] at ht'
      exact ⟨rfl, List.tail_eq_of_cons_eq ht'⟩
    | next hv' ht' he' =>
      obtain ⟨rfl, rfl⟩ := hv.unique hv'
      rw [ht] at ht'
      cases ht'
  | .next hv ht he =>
    cases h' with
    | last hv' ht' =>
      obtain ⟨rfl, rfl⟩ := hv.unique hv'
      rw [ht] at ht'
      cases ht'
    | next hv' ht' he' =>
      obtain ⟨rfl, rfl⟩ := hv.unique hv'
      rw [ht] at ht'
      cases ht'
      obtain ⟨rfl, rfl⟩ := he.unique he'
      exact ⟨rfl, rfl⟩

theorem Members.unique {s rest rest' : CStr} {ms ms' : List (CStr × Value)}
    (h : Members s ms rest) (h' : Members s ms' rest') : ms = ms' ∧ rest = rest' := by
  match h with
  | .last hk ha hv ht =>
    cases h' with
    | last hk' ha' hv' ht' =>
      obtain ⟨hkk, rfl⟩ := hk.unique hk'
      cases hkk
      rw [ha] at ha'
      cases ha'
      obtain ⟨rfl, rfl⟩ := hv.unique hv'
      rw [ht] at ht'
      exact ⟨rfl, List.tail_eq_of_cons_eq ht'⟩
    | next hk' ha' hv' ht' hm' =>
      obtain ⟨hkk, rfl⟩ := hk.unique hk'
      rw [ha] at ha'
      cases ha'
      obtain ⟨rfl, rfl⟩ := hv.unique hv'
      rw [ht] at ht'
      cases ht'
  | .next hk ha hv ht hm =>
    cases h' with
    | last hk' ha' hv' ht' =>
      obtain ⟨hkk, rfl⟩ := hk.unique hk'
      rw [ha] at ha'
      cases ha'
      obtain ⟨rfl, rfl⟩ := hv.unique hv'
      rw [ht] at ht'
      cases ht'
    | next hk' ha' hv' ht' hm' =>
      obtain ⟨hkk, rfl⟩ := hk.unique hk'
      cases hkk
      rw [ha] at ha'
      cases ha'
      obtain ⟨rfl, rfl⟩ := hv.unique hv'
      rw [ht] at ht'
      cases ht'
      obtain ⟨rfl, rfl⟩ := hm.unique hm'
      exact ⟨rfl, rfl⟩

end

theorem Document.unique {s : CStr} {v v' : Value} (h : Document s v) (h' : Document s v') :
    v = v' := by
  obtain ⟨rest, hv, -⟩ := h
  obtain ⟨rest', hv', -⟩ := h'
  exact (hv.unique hv').1

/-! ## What comes behind -/

theorem skipWhite_append {w s : CStr} (hw : ∀ c ∈ w, isWhite c = true) :
    skipWhite (w ++ s) = skipWhite s := by
  induction w with
  | nil => rfl
  | cons c w ih =>
    rw [List.forall_mem_cons] at hw
    rw [List.cons_append, skipWhite, List.dropWhile_cons_of_pos hw.1]
    exact ih hw.2

/-- Space ends where something else comes. -/
theorem skipWhite_append_of_cons {s t x : CStr} {c : UInt8} (h : skipWhite s = c :: t) :
    skipWhite (s ++ x) = c :: (t ++ x) := by
  induction s with
  | nil => cases h
  | cons d s ih =>
    rw [skipWhite, List.dropWhile_cons] at h
    rw [List.cons_append, skipWhite, List.dropWhile_cons]
    split at h
    · rename_i hd
      rw [if_pos hd]
      exact ih h
    · rename_i hd
      rw [if_neg hd]
      cases h
      rfl

/-- A value stands at its first character. -/
theorem Reads.skipWhite {s rest : CStr} {v : Value} (h : Reads s v rest) :
    Json.skipWhite s = s := by
  obtain ⟨c, t, rfl, hc, -⟩ := h.head
  rw [Json.skipWhite, List.dropWhile_cons_of_neg (by rw [hc]; decide)]

theorem noDigit_of_skipWhite {s t : CStr} {c : UInt8} (h : Json.skipWhite s = c :: t)
    (hc : isDigit 10 c = false) : NoDigit s := by
  intro d hd
  cases s with
  | nil => cases h
  | cons e s =>
    cases hd
    rw [Json.skipWhite, List.dropWhile_cons] at h
    split at h
    · rename_i he
      cases hdigit : isDigit 10 d with
      | false => rfl
      | true =>
        rw [not_white_of_digit hdigit] at he
        cases he
    · cases h
      exact hc

theorem Reads.skipWhite_append {s rest x : CStr} {v : Value}
    (h : Reads (Json.skipWhite s) v rest) : Json.skipWhite (s ++ x) = Json.skipWhite s ++ x := by
  obtain ⟨c, t, hc, -⟩ := h.head
  rw [hc, skipWhite_append_of_cons hc, List.cons_append]

mutual

/-- **Locality.** -/
theorem Reads.append {s rest : CStr} {v : Value} (x : CStr) (h : Reads s v rest)
    (hx : ∀ n, v = .number n → NoDigit (rest ++ x)) : Reads (s ++ x) v (rest ++ x) := by
  match h with
  | .string (s := s) hs =>
    have heq : (34 :: (s ++ 34 :: rest) : CStr) ++ x = 34 :: (s ++ 34 :: (rest ++ x)) := by
      rw [List.cons_append, List.append_assoc, List.cons_append]
    rw [heq]
    exact .string hs
  | .number hds hrest =>
    rw [List.append_assoc]
    exact .number hds (hx _ rfl)
  | .noElements hs => exact .noElements (skipWhite_append_of_cons hs)
  | .array he => exact .array (he.append x)
  | .noMembers hs => exact .noMembers (skipWhite_append_of_cons hs)
  | .object hm => exact .object (hm.append x)

theorem Elements.append {s rest : CStr} {vs : List Value} (x : CStr) (h : Elements s vs rest) :
    Elements (s ++ x) vs (rest ++ x) := by
  match h with
  | .last hv ht =>
    have hv' := hv.append x fun _ _ => noDigit_of_skipWhite (skipWhite_append_of_cons ht) rfl
    rw [← hv.skipWhite_append] at hv'
    exact .last hv' (skipWhite_append_of_cons ht)
  | .next hv ht he =>
    have hv' := hv.append x fun _ _ => noDigit_of_skipWhite (skipWhite_append_of_cons ht) rfl
    rw [← hv.skipWhite_append] at hv'
    exact .next hv' (skipWhite_append_of_cons ht) (he.append x)

theorem Members.append {s rest : CStr} {ms : List (CStr × Value)} (x : CStr)
    (h : Members s ms rest) : Members (s ++ x) ms (rest ++ x) := by
  match h with
  | .last hk ha hv ht =>
    have hk' := hk.append x nofun
    have hv' := hv.append x fun _ _ => noDigit_of_skipWhite (skipWhite_append_of_cons ht) rfl
    rw [← hk.skipWhite_append] at hk'
    rw [← hv.skipWhite_append] at hv'
    exact .last hk' (skipWhite_append_of_cons ha) hv' (skipWhite_append_of_cons ht)
  | .next hk ha hv ht hm =>
    have hk' := hk.append x nofun
    have hv' := hv.append x fun _ _ => noDigit_of_skipWhite (skipWhite_append_of_cons ht) rfl
    rw [← hk.skipWhite_append] at hk'
    rw [← hv.skipWhite_append] at hv'
    exact .next hk' (skipWhite_append_of_cons ha) hv' (skipWhite_append_of_cons ht) (hm.append x)

end

/-- An object is no number. -/
theorem Reads.not_number {s rest : CStr} {v : Value} (h : Reads (123 :: s) v rest) (n : Nat) :
    v ≠ .number n := by
  rintro rfl
  generalize hs : (123 :: s : CStr) = y at h
  cases h with
  | number hds hrest => exact absurd hs.symm (hds.ne (by decide))

/-- What is cut off a text that starts with an object lies behind the object, if a
document is left. -/
theorem Reads.cut {s x t : CStr} {v v' : Value} (h : Reads (123 :: s ++ x) v t)
    (hcut : Document (123 :: s) v') : ∃ rest, t = rest ++ x := by
  obtain ⟨rest, hv', -⟩ := hcut
  have hstart : Json.skipWhite (123 :: s) = 123 :: s := rfl
  rw [hstart] at hv'
  exact ⟨rest, (h.unique (hv'.append x fun n hn => absurd hn (hv'.not_number n))).2⟩

theorem skipWhite_eq_nil {s : CStr} (h : ∀ c ∈ s, isWhite c = true) : Json.skipWhite s = [] := by
  rw [← List.append_nil s, Json.skipWhite_append h]
  rfl

theorem Reads.document {s rest x : CStr} {v : Value} (h : Reads s v rest) (hv : ∀ n, v ≠ .number n)
    (hx : ∀ c ∈ rest ++ x, isWhite c = true) : Document (s ++ x) v := by
  have hsx := h.append x fun n hn => absurd hn (hv n)
  exact ⟨rest ++ x, hsx.skipWhite.symm ▸ hsx, skipWhite_eq_nil hx⟩

/-- **Cut texts.**  The first part of an object and of the space behind it is a document
just if it has the whole object. -/
theorem document_take_iff {s x : CStr} {v : Value} (h : Reads (123 :: s) v [])
    (hx : ∀ c ∈ x, isWhite c = true) {n : Nat} (hn : 0 < n) :
    (∃ v', Document ((123 :: s ++ x).take n) v') ↔ (123 :: s).length ≤ n := by
  constructor
  · rintro ⟨v', hv'⟩
    obtain ⟨k, rfl⟩ := Nat.exists_eq_add_of_le' hn
    have hsplit : 123 :: (s ++ x).take k ++ (s ++ x).drop k = 123 :: s ++ x := by
      rw [List.cons_append, List.take_append_drop, List.cons_append]
    have hreads := h.append x fun m hm => absurd hm (h.not_number m)
    rw [← hsplit] at hreads
    obtain ⟨rest, hrest⟩ := hreads.cut hv'
    have hlen := congrArg List.length hrest
    rw [List.nil_append, List.length_append, List.length_drop, List.length_append] at hlen
    rw [List.length_cons]
    omega
  · intro hle
    rw [List.take_append, List.take_of_length_le hle]
    refine ⟨v, h.document h.not_number fun c hc => ?_⟩
    rw [List.nil_append] at hc
    exact hx c (List.mem_of_mem_take hc)

/-! ## Writing -/

section writing
variable {w k s t u rest : CStr} {v : Value} {vs : List Value} {ms : List (CStr × Value)}

theorem Elements.last_at (hw : ∀ c ∈ w, isWhite c = true) (hv : Reads s v t)
    (ht : Json.skipWhite t = 93 :: rest) : Elements (w ++ s) [v] rest := by
  refine .last ?_ ht
  rwa [Json.skipWhite_append hw, hv.skipWhite]

theorem Elements.next_at (hw : ∀ c ∈ w, isWhite c = true) (hv : Reads s v t)
    (ht : Json.skipWhite t = 44 :: u) (h : Elements u vs rest) : Elements (w ++ s) (v :: vs) rest := by
  refine .next ?_ ht h
  rwa [Json.skipWhite_append hw, hv.skipWhite]

/-- A name in its quotes, a colon and what comes then. -/
def named (w k colon s : CStr) : CStr := w ++ 34 :: (k ++ 34 :: (colon ++ s))

/-- A colon, and space around it. -/
def IsColon (colon : CStr) : Prop :=
  ∃ b, Json.skipWhite colon = 58 :: b ∧ ∀ c ∈ b, isWhite c = true

theorem reads_named {colon : CStr} (hw : ∀ c ∈ w, isWhite c = true)
    (hk : ∀ c ∈ k, isPlain c = true) (hcolon : IsColon colon) (hv : Reads s v t) :
    ∃ a b, Reads (Json.skipWhite (named w k colon s)) (.string k) a ∧
      Json.skipWhite a = 58 :: b ∧ Reads (Json.skipWhite b) v t := by
  obtain ⟨b, hcolon, hb⟩ := hcolon
  refine ⟨colon ++ s, b ++ s, ?_, skipWhite_append_of_cons hcolon, ?_⟩
  · rw [named, Json.skipWhite_append hw, (Reads.string hk).skipWhite]
    exact .string hk
  · rwa [Json.skipWhite_append hb, hv.skipWhite]

theorem Members.last_at {colon : CStr} (hw : ∀ c ∈ w, isWhite c = true)
    (hk : ∀ c ∈ k, isPlain c = true) (hcolon : IsColon colon) (hv : Reads s v t)
    (ht : Json.skipWhite t = 125 :: rest) : Members (named w k colon s) [(k, v)] rest := by
  obtain ⟨a, b, hka, ha, hvb⟩ := reads_named hw hk hcolon hv
  exact .last hka ha hvb ht

theorem Members.next_at {colon : CStr} (hw : ∀ c ∈ w, isWhite c = true)
    (hk : ∀ c ∈ k, isPlain c = true) (hcolon : IsColon colon) (hv : Reads s v t)
    (ht : Json.skipWhite t = 44 :: u) (h : Members u ms rest) :
    Members (named w k colon s) ((k, v) :: ms) rest := by
  obtain ⟨a, b, hka, ha, hvb⟩ := reads_named hw hk hcolon hv
  exact .next hka ha hvb ht h

end writing

/-! ## Decimal numbers -/

theorem decimal_of_lt {n : Nat} (h : n < 10) : decimal n = [UInt8.ofNat (48 + n)] := by
  have hdigits : ∀ n < 10, UInt8.ofNat n.digitChar.toNat = UInt8.ofNat (48 + n) := by decide
  rw [decimal, Nat.toDigits_of_lt_base h, List.map_singleton, hdigits n h]

theorem decimal_of_ge {n : Nat} (h : 10 ≤ n) :
    decimal n = decimal (n / 10) ++ decimal (n % 10) := by
  rw [decimal, Nat.toDigits_of_base_le (by decide) h, List.map_append, decimal, decimal,
    Nat.toDigits_of_lt_base (Nat.mod_lt n (by decide))]

theorem digit_spec {n : Nat} (h : n < 10) :
    isDigit 10 (UInt8.ofNat (48 + n)) = true ∧ digitsValue 10 [UInt8.ofNat (48 + n)] = n := by
  have hdigits : ∀ n < 10, isDigit 10 (UInt8.ofNat (48 + n)) = true ∧
      digitsValue 10 [UInt8.ofNat (48 + n)] = n := by decide
  exact hdigits n h

theorem digitsValue_snoc (ds : CStr) (c : UInt8) :
    digitsValue 10 (ds ++ [c]) = digitsValue 10 ds * 10 + digitsValue 10 [c] := by
  simp [digitsValue, List.foldl_append]

/-- **Decimal numbers.** -/
theorem decimal_spec (n : Nat) : Numeral (decimal n) ∧ digitsValue 10 (decimal n) = n ∧
    (n ≠ 0 → (decimal n).head? ≠ some 48) := by
  induction n using Nat.strongRecOn with
  | ind n ih =>
    by_cases hsmall : n < 10
    · obtain ⟨hdigit, hvalue⟩ := digit_spec hsmall
      rw [decimal_of_lt hsmall]
      refine ⟨⟨List.cons_ne_nil _ _, fun c hc => ?_, fun h => ?_⟩, hvalue, fun hne h => ?_⟩
      · rw [List.mem_singleton] at hc
        rw [hc, hdigit]
      · rw [List.head?_cons, Option.some.injEq] at h
        rw [h]
      · rw [List.head?_cons, Option.some.injEq] at h
        rw [h] at hvalue
        exact hne hvalue.symm
    · have hge : 10 ≤ n := Nat.not_lt.mp hsmall
      have hmod : n % 10 < 10 := Nat.mod_lt n (by decide)
      obtain ⟨hnum, hvalue, hhead⟩ := ih (n / 10) (Nat.div_lt_self (by omega) (by decide))
      obtain ⟨hdigit, hlast⟩ := digit_spec hmod
      have hne : (decimal n).head? ≠ some 48 := by
        rw [decimal_of_ge hge, List.head?_append_of_ne_nil _ hnum.nonempty]
        exact hhead (by omega)
      refine ⟨⟨?_, ?_, fun h => absurd h hne⟩, ?_, fun _ => hne⟩
      · rw [decimal_of_ge hge]
        exact List.append_ne_nil_of_left_ne_nil hnum.nonempty _
      · intro c hc
        rw [decimal_of_ge hge, decimal_of_lt hmod, List.mem_append, List.mem_singleton] at hc
        rcases hc with hc | rfl
        · exact hnum.digits c hc
        · exact hdigit
      · rw [decimal_of_ge hge, decimal_of_lt hmod, digitsValue_snoc, hvalue, hlast]
        omega

theorem reads_decimal (n : Nat) {rest : CStr} (h : NoDigit rest) :
    Reads (decimal n ++ rest) (.number n) rest := by
  obtain ⟨hnum, hvalue, -⟩ := decimal_spec n
  have hreads := Reads.number hnum h
  rwa [hvalue] at hreads

end Rtdk.Json
