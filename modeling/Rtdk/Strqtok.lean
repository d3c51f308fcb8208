import Rtdk.CString
import Rtdk.Escapes
import Rtdk.Memory
import Rtdk.Runs

/-! Taking a string apart with quotes (`strqtok` in `ratt/parse-args.c`, `m_strqtok` in
`testbench/m_strings.h`).

The string lies in a block of its own, with nothing behind its NUL. Pointers are
offsets in the block; an access outside of it is a fault, and so is a store behind
the last entry of `argv`. -/

namespace Rtdk.Strqtok
open Rtdk.CString Rtdk.Memory Rtdk.Runs

inductive Fault
  | read (i : Nat)
  | write (i : Nat)
  | store (i : Nat)
deriving DecidableEq, Repr

inductive Mode
  | init
  | word
  | stringQuote
  | stringTick
  | stringBracket
deriving DecidableEq, Repr

/-- What the loop changes besides `p`: the string, the entries of `argv` up to `argc`, and
its other variables. -/
structure Scan where
  mem : Mem UInt8
  argv : List (Option Nat)
  state : Mode
  startOfWord : Nat

/-- The result, the entries written to `argv` and the string as it is left. -/
structure Result where
  argc : Int
  argv : List (Option Nat)
  mem : Mem UInt8

/-- The block of a string. -/
def block (str : CStr) : Mem UInt8 := fun i => str.getD i 0

section model
variable (size : Nat)

def read (mem : Mem UInt8) (i : Nat) : Except Fault UInt8 :=
  if i < size then .ok (mem i) else .error (.read i)

def put (mem : Mem UInt8) (i : Nat) (c : UInt8) : Except Fault (Mem UInt8) :=
  if i < size then .ok (Function.update mem i c) else .error (.write i)

/-! ## `strtrim` -/

/-- `while (isspace(*str)) str++`. -/
def trimFront (mem : Mem UInt8) (str : Nat) : Except Fault Nat :=
  if _h : str < size then
    if isspace (mem str) then trimFront mem (str + 1) else .ok str
  else .error (.read str)
termination_by size - str

def strlen (mem : Mem UInt8) (str : Nat) : Except Fault Nat :=
  if _h : str < size then
    if mem str = 0 then .ok 0 else (strlen mem (str + 1)).map (· + 1)
  else .error (.read str)
termination_by size - str

/-- `while ((p >= str) && isspace(*p)) p--`, for the place behind `p`. -/
def trimBack (mem : Mem UInt8) (str : Nat) : Nat → Except Fault Nat
  | 0 => .ok 0
  | p + 1 =>
    if str ≤ p then do
      let c ← read size mem p
      if isspace c then trimBack mem str p else .ok (p + 1)
    else .ok (p + 1)

/-- `strtrim` of the string at the start of the block: the block and the place it returns. -/
def strtrim (mem : Mem UInt8) : Except Fault (Mem UInt8 × Nat) := do
  let c ← read size mem 0
  if c = 0 then .ok (mem, 0)
  else
    let str ← trimFront size mem 0
    let c ← read size mem str
    if c = 0 then .ok (mem, str)
    else
      let length ← strlen size mem str
      let p ← trimBack size mem str (str + length)
      let mem ← put size mem p 0
      .ok (mem, str)

/-! ## The scanner -/

variable (delim : CStr) (maxtokens : Nat)

/-- A store to the next of the `maxtokens + 1` entries of `argv`. -/
def store (argv : List (Option Nat)) (x : Option Nat) : Except Fault (List (Option Nat)) :=
  if argv.length < maxtokens + 1 then .ok (argv ++ [x]) else .error (.store argv.length)

/-- The end of a token at `p`. -/
def close (p : Nat) (v : Scan) : Except Fault Scan := do
  let mem ← put size v.mem p 0
  let argv ← store maxtokens v.argv (some v.startOfWord)
  return { v with mem := mem, argv := argv, state := .init }

/-- The `switch`. -/
def switch (p : Nat) (c : UInt8) (v : Scan) : Except Fault Scan :=
  match v.state with
  | .init =>
    if c = 34 then .ok { v with state := .stringQuote, startOfWord := p + 1 }
    else if c = 39 then .ok { v with state := .stringTick, startOfWord := p + 1 }
    else if c = 123 then .ok { v with state := .stringBracket, startOfWord := p + 1 }
    else if c ∉ delim then .ok { v with state := .word, startOfWord := p }
    else .ok v
  | .stringQuote => if c = 34 then close size maxtokens p v else .ok v
  | .stringTick => if c = 39 then close size maxtokens p v else .ok v
  | .stringBracket => if c = 125 then close size maxtokens p v else .ok v
  | .word =>
    if c ∈ delim then do
      let v ← close size maxtokens p v
      return { v with startOfWord := p + 1 }
    else .ok v

/-- The loop over the string. A backslash is `start_of_word = ++p; continue;`, and the
`p++` of the loop. -/
def scan (p : Nat) (v : Scan) : Except Fault (Nat × Scan) :=
  if v.argv.length < maxtokens then
    if _h : p < size then
      let c := v.mem p
      if c = 0 then .ok (p, v)
      else if c = 92 then scan (p + 2) { v with startOfWord := p + 1 }
      else do
        let v ← switch size delim maxtokens p c v
        scan (p + 1) v
    else .error (.read p)
  else .ok (p, v)
termination_by size - p

def storeIf (P : Prop) [Decidable P] (argv : List (Option Nat)) (t : Nat) :
    Except Fault (List (Option Nat)) :=
  if P then store maxtokens argv (some t) else .ok argv

/-- What follows the loop. -/
def finish (p : Nat) (v : Scan) : Except Fault Result := do
  let argv ← storeIf maxtokens (v.state ≠ .init ∧ v.argv.length < maxtokens) v.argv v.startOfWord
  let argv ← storeIf maxtokens (argv.length = 0 ∧ p ≠ 0) argv 0
  let entries ← store maxtokens argv none
  return { argc := argv.length, argv := entries, mem := v.mem }

end model

/-- The body of both functions, for pointers that are not `NULL`. -/
def tokenize (str delim : CStr) (maxtokens : Nat) : Except Fault Result :=
  if maxtokens = 0 then .ok { argc := -1, argv := [], mem := block str }
  else do
    let size := str.length + 1
    let (mem, s) ← strtrim size (block str)
    let (p, v) ← scan size delim maxtokens s
      { mem := mem, argv := [], state := .word, startOfWord := s }
    finish maxtokens p v

/-- `strqtok` of the round-trip tool. -/
def strqtok (str delim : CStr) (maxtokens : Nat) : Except Fault Result :=
  tokenize str delim maxtokens

/-- `m_strqtok` of the testbench. -/
def mStrqtok (str delim : CStr) (maxtokens : Nat) : Except Fault Result :=
  tokenize str delim maxtokens

/-! ## What a scan should be -/

/-- The string at `t`, up to a NUL inside of the block of `str`, and a piece of `str`. -/
structure Token (str : CStr) (mem : Mem UInt8) (t : Nat) (w : CStr) : Prop where
  text : slice mem t w.length = w
  terminated : mem (t + w.length) = 0
  inside : t + w.length ≤ str.length
  piece : w <:+: str

/-- No access is outside; at most `maxtokens` tokens and a `NULL` are stored, and every token
is a string of its own. -/
def Safe (str : CStr) (maxtokens : Nat) (r : Except Fault Result) : Prop :=
  ∃ (tokens : List Nat) (mem : Mem UInt8),
    r = .ok { argc := tokens.length, argv := tokens.map some ++ [none], mem := mem } ∧
      tokens.length ≤ maxtokens ∧ ∀ t ∈ tokens, ∃ w, Token str mem t w

/-- Whether a character ends a token. -/
def Mode.ends (delim : CStr) : Mode → UInt8 → Bool
  | .init, _ => false
  | .word, c => decide (c ∈ delim)
  | .stringQuote, c => c == 34
  | .stringTick, c => c == 39
  | .stringBracket, c => c == 125

def Mode.next (delim : CStr) (m : Mode) (c : UInt8) : Mode :=
  if m.ends delim c then .init
  else if m ≠ .init then m
  else if c = 34 then .stringQuote
  else if c = 39 then .stringTick
  else if c = 123 then .stringBracket
  else if c ∈ delim then .init
  else .word

/-- The tokens that end in a text without escapes. -/
def completeTokens (delim : CStr) : Mode → CStr → Nat
  | _, [] => 0
  | m, c :: w => (if m.ends delim c then 1 else 0) + completeTokens delim (m.next delim c) w

/-- The string ends in an odd number of backslashes, and the tokens before them do not fill
`argv`. -/
def Overshoots (str delim : CStr) (maxtokens : Nat) : Prop :=
  Odd (str.rtakeWhile (· == 92)).length ∧
    completeTokens delim .word (Escapes.letters 92 (str.dropWhile isspace)) < maxtokens

/-! ## Trimming -/

/-- The memory from `p` on. -/
def Ahead (mem : Mem UInt8) (p : Nat) (rest : CStr) : Prop := ∀ i, mem (p + i) = rest.getD i 0

theorem Ahead.nil {mem : Mem UInt8} {p : Nat} (h : Ahead mem p []) : mem p = 0 := h 0

theorem Ahead.head {mem : Mem UInt8} {p : Nat} {c : UInt8} {w : CStr} (h : Ahead mem p (c :: w)) :
    mem p = c := h 0

theorem Ahead.tail {mem : Mem UInt8} {p : Nat} {c : UInt8} {w : CStr} (h : Ahead mem p (c :: w)) :
    Ahead mem (p + 1) w := by
  intro i
  rw [Nat.add_assoc, Nat.add_comm 1 i]
  exact h (i + 1)

theorem ahead_block (str : CStr) (p : Nat) : Ahead (block str) p (str.drop p) := by
  intro i
  rw [block, List.getD_eq_getElem?_getD, List.getD_eq_getElem?_getD, List.getElem?_drop]

theorem trimFront_spec {size s : Nat} {mem : Mem UInt8} {rest : CStr} (h : Ahead mem s rest)
    (hsize : s + rest.length < size) :
    trimFront size mem s = .ok (s + (rest.takeWhile isspace).length) := by
  induction rest generalizing s with
  | nil =>
    change s < size at hsize
    rw [trimFront, dif_pos hsize, h.nil]
    rfl
  | cons c rest ih =>
    rw [List.length_cons] at hsize
    rw [trimFront, dif_pos (by omega), h.head, List.takeWhile_cons]
    cases isspace c with
    | true =>
      rw [if_pos rfl, if_pos rfl, ih h.tail (by omega), List.length_cons, Nat.add_assoc,
        Nat.add_comm 1]
    | false => rfl

theorem strlen_spec {size s : Nat} {mem : Mem UInt8} {rest : CStr} (h : Ahead mem s rest)
    (hsize : s + rest.length < size) (hno : 0 ∉ rest) : strlen size mem s = .ok rest.length := by
  induction rest generalizing s with
  | nil =>
    change s < size at hsize
    rw [strlen, dif_pos hsize, h.nil, if_pos rfl]
    rfl
  | cons c rest ih =>
    rw [List.length_cons] at hsize
    rw [List.mem_cons, not_or] at hno
    rw [strlen, dif_pos (by omega), h.head, if_neg (Ne.symm hno.1), ih h.tail (by omega) hno.2]
    rfl

/-- Nothing is cut off behind a character that is no white space. -/
theorem trimBack_spec {size q : Nat} (mem : Mem UInt8) (s : Nat) (hq : q ≤ size) :
    ∃ e ≤ q, trimBack size mem s q = .ok e ∧
      (s < q → isspace (mem (q - 1)) = false → e = q) := by
  induction q with
  | zero => exact ⟨0, Nat.le_refl 0, rfl, fun _ _ => rfl⟩
  | succ p ih =>
    obtain ⟨e, he, hback, -⟩ := ih (Nat.le_of_succ_le hq)
    rw [trimBack, read, if_pos (Nat.lt_of_succ_le hq)]
    split
    · cases hspace : isspace (mem p) with
      | true =>
        refine ⟨e, Nat.le_succ_of_le he, ?_, ?_⟩
        · show (if isspace (mem p) = true then trimBack size mem s p else .ok (p + 1)) = .ok e
          rw [hspace, if_pos rfl, hback]
        · intro _ hno
          rw [Nat.add_sub_cancel, hspace] at hno
          cases hno
      | false =>
        refine ⟨p + 1, Nat.le_refl _, ?_, fun _ _ => rfl⟩
        show (if isspace (mem p) = true then trimBack size mem s p else .ok (p + 1)) = .ok (p + 1)
        rw [hspace, if_neg Bool.false_ne_true]
    · exact ⟨p + 1, Nat.le_refl _, rfl, fun _ _ => rfl⟩

/-- The string as it was, but for some NULs. -/
def Shadow (str : CStr) (mem : Mem UInt8) : Prop := ∀ i, mem i = block str i ∨ mem i = 0

theorem Shadow.update {str : CStr} {mem : Mem UInt8} (h : Shadow str mem) (p : Nat) :
    Shadow str (Function.update mem p 0) := by
  intro i
  by_cases hi : i = p
  · rw [hi, Function.update_self]
    exact .inr rfl
  · rw [Function.update_of_ne hi]
    exact h i

theorem block_length (str : CStr) : block str str.length = 0 := by
  rw [block, List.getD_eq_getElem?_getD, List.getElem?_eq_none (Nat.le_refl _), Option.getD_none]

theorem strtrim_spec {str : CStr} (hstr : 0 ∉ str) :
    ∃ mem, strtrim (str.length + 1) (block str) = .ok (mem, (str.takeWhile isspace).length) ∧
      Shadow str mem ∧
      ((∀ c ∈ str.getLast?, isspace c = false) → mem = block str) := by
  have hsame : Shadow str (block str) := fun i => .inl rfl
  have hread (p : Nat) (hp : p ≤ str.length) :
      read (str.length + 1) (block str) p = .ok (block str p) := if_pos (Nat.lt_succ_of_le hp)
  have hsplit := List.takeWhile_append_dropWhile (p := isspace) (l := str)
  have hlength := congrArg List.length hsplit
  rw [List.length_append] at hlength
  have hfront : trimFront (str.length + 1) (block str) 0 = _ :=
    trimFront_spec (ahead_block str 0) (by simp)
  rw [List.drop_zero, Nat.zero_add] at hfront
  generalize str.takeWhile isspace = spaces at hsplit hlength hfront ⊢
  generalize str.dropWhile isspace = rest at hsplit hlength
  have hrest : Ahead (block str) spaces.length rest := by
    have hdrop : str.drop spaces.length = rest := by rw [← hsplit, List.drop_left]
    rw [← hdrop]
    exact ahead_block str spaces.length
  rw [strtrim]
  by_cases hempty : str = []
  · subst hempty
    have hspaces : spaces = [] := (List.append_eq_nil_iff.mp hsplit).1
    rw [hspaces]
    exact ⟨_, bind_ok_iff.mpr ⟨_, hread 0 (Nat.zero_le _), if_pos rfl⟩, hsame, fun _ => rfl⟩
  have hfirst : block str 0 ≠ 0 := by
    obtain ⟨c, w, rfl⟩ := List.exists_cons_of_ne_nil hempty
    intro h
    exact hstr (h ▸ List.mem_cons_self)
  cases rest with
  | nil =>
    refine ⟨_, bind_ok_iff.mpr ⟨_, hread 0 (Nat.zero_le _), (if_neg hfirst).trans ?_⟩, hsame,
      fun _ => rfl⟩
    exact bind_ok_iff.mpr ⟨_, hfront, bind_ok_iff.mpr ⟨_, hread _ (by omega), if_pos hrest.nil⟩⟩
  | cons d w =>
    have hmem : ∀ c ∈ d :: w, c ≠ 0 := by
      rintro c hc rfl
      exact hstr (hsplit ▸ List.mem_append_right spaces hc)
    have hlen : strlen (str.length + 1) (block str) spaces.length = _ :=
      strlen_spec hrest (by omega) fun h => hmem 0 h rfl
    have hend : spaces.length + (d :: w).length ≤ str.length + 1 := by omega
    obtain ⟨e, he, hback, hlast⟩ := trimBack_spec (block str) spaces.length hend
    refine ⟨Function.update (block str) e 0,
      bind_ok_iff.mpr ⟨_, hread 0 (Nat.zero_le _), (if_neg hfirst).trans ?_⟩, hsame.update e, ?_⟩
    · refine bind_ok_iff.mpr ⟨_, hfront, bind_ok_iff.mpr ⟨_, hread _ (by omega), ?_⟩⟩
      rw [hrest.head, if_neg (hmem d List.mem_cons_self)]
      exact bind_ok_iff.mpr ⟨_, hlen, bind_ok_iff.mpr ⟨_, hback, bind_ok_iff.mpr
        ⟨_, if_pos (by omega), rfl⟩⟩⟩
    · intro hno
      have hpos : str.length - 1 < str.length := by
        rw [List.length_cons] at hlength
        omega
      have hend : str.getLast? = some str[str.length - 1] := by
        rw [List.getLast?_eq_getElem?, List.getElem?_eq_getElem hpos]
      have hspace := hno _ hend
      have hcell : block str (str.length - 1) = str[str.length - 1] := by
        rw [block, List.getD_eq_getElem?_getD, List.getElem?_eq_getElem hpos, Option.getD_some]
      rw [hlength, hcell] at hlast
      rw [hlast (by rw [← hlength, List.length_cons]; omega) hspace, Function.update_eq_self_iff,
        block_length]

/-! ## One character -/

/-- What holds in front of every turn of the loop. -/
structure Inv (str : CStr) (maxtokens : Nat) (v : Scan) : Prop where
  shadow : Shadow str v.mem
  count : v.argv.length ≤ maxtokens
  start : v.startOfWord ≤ str.length
  tokens : ∀ x ∈ v.argv, ∃ t ≤ str.length, x = some t

section turns
variable {str delim : CStr} {maxtokens p : Nat} {v : Scan} {c : UInt8}

/-- What one turn of the loop leaves behind. -/
structure Turned (str delim : CStr) (maxtokens p : Nat) (c : UInt8) (v w : Scan) : Prop where
  inv : Inv str maxtokens w
  state : w.state = v.state.next delim c
  count : w.argv.length = v.argv.length + if v.state.ends delim c then 1 else 0
  ahead : ∀ i, p < i → w.mem i = v.mem i

theorem close_spec (hp : p ≤ str.length)
    (hroom : v.argv.length < maxtokens) :
    close (str.length + 1) maxtokens p v = .ok { v with
      mem := Function.update v.mem p 0
      argv := v.argv ++ [some v.startOfWord]
      state := .init } := by
  rw [close, put, if_pos (Nat.lt_succ_of_le hp), store, if_pos (Nat.lt_succ_of_lt hroom)]
  rfl

theorem Inv.closed (h : Inv str maxtokens v) (hroom : v.argv.length < maxtokens) (m : Mode)
    {q : Nat} (hq : q ≤ str.length) :
    Inv str maxtokens { v with
      mem := Function.update v.mem p 0
      argv := v.argv ++ [some v.startOfWord]
      state := m
      startOfWord := q } := by
  refine ⟨h.shadow.update p, ?_, hq, ?_⟩
  · rw [List.length_append, List.length_singleton]
    exact hroom
  · rw [List.forall_mem_append, List.forall_mem_singleton]
    exact ⟨h.tokens, _, h.start, rfl⟩

theorem Turned.of_close (h : Inv str maxtokens v) (hroom : v.argv.length < maxtokens)
    (hends : v.state.ends delim c = true) {q : Nat} (hq : q ≤ str.length) :
    Turned str delim maxtokens p c v { v with
      mem := Function.update v.mem p 0
      argv := v.argv ++ [some v.startOfWord]
      state := .init
      startOfWord := q } := by
  refine ⟨h.closed hroom .init hq, ?_, ?_, ?_⟩
  · rw [Mode.next, if_pos hends]
  · rw [hends, if_pos rfl, List.length_append, List.length_singleton]
  · intro i hi
    exact Function.update_of_ne (Nat.ne_of_gt hi) _ _

theorem Turned.of_quiet (h : Inv str maxtokens v) (hends : v.state.ends delim c = false) {m : Mode}
    (hnext : v.state.next delim c = m) {q : Nat} (hq : q ≤ str.length) :
    Turned str delim maxtokens p c v { v with state := m, startOfWord := q } := by
  refine ⟨⟨h.shadow, h.count, hq, h.tokens⟩, hnext.symm, ?_, fun _ _ => rfl⟩
  rw [hends, if_neg Bool.false_ne_true, Nat.add_zero]

/-- A token in quotes or braces goes on up to the character that closes it. -/
theorem quoted_spec {q : UInt8} (h : Inv str maxtokens v) (hp : p < str.length)
    (hroom : v.argv.length < maxtokens) (hquoted : v.state ≠ .init)
    (hends : v.state.ends delim c = (c == q)) :
    ∃ w, (if c = q then close (str.length + 1) maxtokens p v else .ok v) = .ok w ∧
      Turned str delim maxtokens p c v w := by
  by_cases hc : c = q
  · rw [if_pos hc]
    rw [hc, beq_self_eq_true, ← hc] at hends
    exact ⟨_, close_spec (Nat.le_of_lt hp) hroom, .of_close h hroom hends h.start⟩
  · rw [if_neg hc]
    rw [beq_false_of_ne hc] at hends
    refine ⟨v, rfl, .of_quiet h hends ?_ h.start⟩
    rw [Mode.next, hends, if_neg Bool.false_ne_true, if_pos hquoted]

theorem word_spec (h : Inv str maxtokens v) (hp : p < str.length)
    (hroom : v.argv.length < maxtokens) (hword : v.state = .word) :
    ∃ w, (if c ∈ delim then do
        let v ← close (str.length + 1) maxtokens p v
        return { v with startOfWord := p + 1 }
      else .ok v) = .ok w ∧ Turned str delim maxtokens p c v w := by
  have hends : v.state.ends delim c = decide (c ∈ delim) := by rw [hword, Mode.ends]
  by_cases hc : c ∈ delim
  · rw [if_pos hc, close_spec (Nat.le_of_lt hp) hroom]
    rw [decide_eq_true hc] at hends
    exact ⟨_, rfl, .of_close h hroom hends hp⟩
  · rw [if_neg hc]
    rw [decide_eq_false hc] at hends
    refine ⟨v, rfl, .of_quiet h hends ?_ h.start⟩
    rw [Mode.next, hends, if_neg Bool.false_ne_true, if_pos (by rw [hword]; decide)]

theorem init_spec (h : Inv str maxtokens v) (hp : p < str.length) (hinit : v.state = .init) :
    ∃ w, (if c = 34 then .ok { v with state := .stringQuote, startOfWord := p + 1 }
      else if c = 39 then .ok { v with state := .stringTick, startOfWord := p + 1 }
      else if c = 123 then .ok { v with state := .stringBracket, startOfWord := p + 1 }
      else if c ∉ delim then .ok { v with state := .word, startOfWord := p }
      else .ok v : Except Fault Scan) = .ok w ∧ Turned str delim maxtokens p c v w := by
  have hends : v.state.ends delim c = false := by rw [hinit, Mode.ends]
  have hnext : v.state.next delim c = if c = 34 then .stringQuote else if c = 39 then .stringTick
      else if c = 123 then .stringBracket else if c ∈ delim then .init else .word := by
    rw [Mode.next, hends, hinit]
    rfl
  split
  · rename_i hc
    exact ⟨_, rfl, .of_quiet h hends (hnext.trans (if_pos hc)) hp⟩
  rename_i hquote
  rw [if_neg hquote] at hnext
  split
  · rename_i hc
    exact ⟨_, rfl, .of_quiet h hends (hnext.trans (if_pos hc)) hp⟩
  rename_i htick
  rw [if_neg htick] at hnext
  split
  · rename_i hc
    exact ⟨_, rfl, .of_quiet h hends (hnext.trans (if_pos hc)) hp⟩
  rename_i hbracket
  rw [if_neg hbracket] at hnext
  split
  · rename_i hc
    exact ⟨_, rfl, .of_quiet h hends (hnext.trans (if_neg hc)) (Nat.le_of_lt hp)⟩
  · rename_i hc
    exact ⟨v, rfl, .of_quiet h hends
      ((hnext.trans (if_pos (Decidable.not_not.mp hc))).trans hinit.symm) h.start⟩

variable (delim c) in
theorem switch_spec (h : Inv str maxtokens v) (hp : p < str.length)
    (hroom : v.argv.length < maxtokens) :
    ∃ w, switch (str.length + 1) delim maxtokens p c v = .ok w ∧
      Turned str delim maxtokens p c v w := by
  cases hstate : v.state with
  | init =>
    simp only [switch, hstate]
    exact init_spec h hp hstate
  | word =>
    simp only [switch, hstate]
    exact word_spec h hp hroom hstate
  | stringQuote =>
    simp only [switch, hstate]
    exact quoted_spec h hp hroom (by rw [hstate]; decide) (by rw [hstate, Mode.ends])
  | stringTick =>
    simp only [switch, hstate]
    exact quoted_spec h hp hroom (by rw [hstate]; decide) (by rw [hstate, Mode.ends])
  | stringBracket =>
    simp only [switch, hstate]
    exact quoted_spec h hp hroom (by rw [hstate]; decide) (by rw [hstate, Mode.ends])

/-! ## The loop -/

theorem Shadow.inside {mem : Mem UInt8} (h : Shadow str mem) (hp : mem p ≠ 0) :
    ∃ hlt : p < str.length, mem p = str[p] := by
  rcases h p with hsame | hnul
  · by_cases hlt : p < str.length
    · refine ⟨hlt, hsame.trans ?_⟩
      rw [block, List.getD_eq_getElem?_getD, List.getElem?_eq_getElem hlt, Option.getD_some]
    · refine absurd ?_ hp
      rw [hsame, block, List.getD_eq_getElem?_getD, List.getElem?_eq_none (Nat.le_of_not_lt hlt),
        Option.getD_none]
  · exact absurd hnul hp

theorem Inv.skip (h : Inv str maxtokens v) {q : Nat} (hq : q ≤ str.length) :
    Inv str maxtokens { v with startOfWord := q } :=
  ⟨h.shadow, h.count, hq, h.tokens⟩

/-- The loop gets to its end, but for `P`. -/
def Ends (str : CStr) (maxtokens : Nat) (P : Prop) (r : Except Fault (Nat × Scan)) : Prop :=
  (P ∧ ∃ f, r = .error f) ∨ (¬ P ∧ ∃ q w, r = .ok (q, w) ∧ Inv str maxtokens w)

/-- Only a backslash at the end takes the loop out of the string. -/
theorem scan_of_last (hlast : str.getLast? ≠ some 92) (h : Inv str maxtokens v)
    (hp : p ≤ str.length) :
    ∃ q w, scan (str.length + 1) delim maxtokens p v = .ok (q, w) ∧ Inv str maxtokens w := by
  induction hk : str.length - p using Nat.strong_induction_on generalizing p v with
  | _ k ih =>
    rw [scan]
    split
    · rename_i hroom
      rw [dif_pos (Nat.lt_succ_of_le hp)]
      simp only
      split
      · exact ⟨p, v, rfl, h⟩
      · rename_i hnul
        obtain ⟨hlt, hcell⟩ := h.shadow.inside hnul
        split
        · rename_i hbackslash
          have hnext : p + 1 ≠ str.length := by
            intro hend
            refine hlast ?_
            rw [List.getLast?_eq_getElem?, ← hend, Nat.add_sub_cancel,
              List.getElem?_eq_getElem hlt, ← hcell, hbackslash]
          exact ih (str.length - (p + 2)) (by omega) (h.skip (q := p + 1) hlt) (by omega) rfl
        · obtain ⟨w, hswitch, hturned⟩ := switch_spec delim (v.mem p) h hlt hroom
          rw [hswitch]
          exact ih (str.length - (p + 1)) (by omega) hturned.inv hlt rfl
    · exact ⟨p, v, rfl, h⟩

theorem Ahead.turned {rest : CStr} {w : Scan} (h : Ahead v.mem (p + 1) rest)
    (hturned : Turned str delim maxtokens p c v w) : Ahead w.mem (p + 1) rest := by
  intro i
  rw [hturned.ahead _ (by omega)]
  exact h i

theorem scan_full (h : Inv str maxtokens v) (hfull : ¬ v.argv.length < maxtokens) (p n : Nat)
    (P : Prop) :
    Ends str maxtokens (P ∧ v.argv.length + n < maxtokens)
      (scan (str.length + 1) delim maxtokens p v) := by
  refine .inr ⟨fun hover => hfull (by omega), p, v, ?_, h⟩
  rw [scan, if_neg hfull]

/-- Where the rest of the string is as it was, the loop leaves it just if the rest ends in an
escape and `argv` is not full by then. -/
theorem scan_ends {rest : CStr} (hrest : 0 ∉ rest) (hahead : Ahead v.mem p rest)
    (hp : p + rest.length = str.length) (h : Inv str maxtokens v) :
    Ends str maxtokens (Escapes.pending 92 rest = true ∧
        v.argv.length + completeTokens delim v.state (Escapes.letters 92 rest) < maxtokens)
      (scan (str.length + 1) delim maxtokens p v) := by
  by_cases hroom : v.argv.length < maxtokens
  swap
  · exact scan_full h hroom p _ _
  induction rest using Escapes.induction_on (e := (92 : UInt8)) generalizing p v with
  | nil =>
    change p = str.length at hp
    refine .inr ⟨by simp, p, v, ?_, h⟩
    rw [scan, if_pos hroom, dif_pos (by omega)]
    simp only [hahead.nil, if_true]
  | last =>
    change p + 1 = str.length at hp
    rw [Escapes.pending_last, Escapes.letters_last, completeTokens]
    refine .inl ⟨⟨rfl, hroom⟩, .read (p + 2), ?_⟩
    rw [scan, if_pos hroom, dif_pos (by omega)]
    simp only [hahead.head]
    rw [if_neg (by decide), if_true, scan, if_pos hroom, dif_neg (by omega)]
  | pair c rest ih =>
    simp only [List.length_cons] at hp
    simp only [List.mem_cons, not_or] at hrest
    rw [Escapes.pending_pair, Escapes.letters_pair, scan, if_pos hroom, dif_pos (by omega)]
    simp only [hahead.head]
    rw [if_neg (by decide), if_true]
    exact ih hrest.2.2 (p := p + 2) (v := { v with startOfWord := p + 1 }) hahead.tail.tail
      (by omega) (h.skip (by omega)) hroom
  | other c rest hc ih =>
    simp only [List.length_cons] at hp
    simp only [List.mem_cons, not_or] at hrest
    obtain ⟨w, hswitch, hturned⟩ := switch_spec (p := p) delim c h (by omega) hroom
    have hcount := hturned.count
    have hstep : scan (str.length + 1) delim maxtokens p v =
        scan (str.length + 1) delim maxtokens (p + 1) w := by
      rw [scan, if_pos hroom, dif_pos (by omega)]
      simp only [hahead.head]
      rw [if_neg (Ne.symm hrest.1), if_neg hc, hswitch]
      rfl
    rw [Escapes.pending_other 92 hc, Escapes.letters_other 92 hc, completeTokens, ← Nat.add_assoc,
      ← hcount, ← hturned.state, hstep]
    by_cases hleft : w.argv.length < maxtokens
    · exact ih hrest.2 (hahead.tail.turned hturned) (by omega) hturned.inv hleft
    · exact scan_full hturned.inv hleft _ _ _

/-! ## The tokens -/

/-- What the entries of `argv` are up to the `NULL`. -/
structure Entries (str : CStr) (maxtokens : Nat) (argv : List (Option Nat)) : Prop where
  count : argv.length ≤ maxtokens
  tokens : ∀ x ∈ argv, ∃ t ≤ str.length, x = some t

theorem Entries.stored {argv : List (Option Nat)} {P : Prop} [Decidable P] {t : Nat}
    (h : Entries str maxtokens argv) (hroom : P → argv.length < maxtokens) (ht : t ≤ str.length) :
    ∃ entries, storeIf maxtokens P argv t = .ok entries ∧ Entries str maxtokens entries := by
  by_cases hP : P
  · have hlt := hroom hP
    refine ⟨argv ++ [some t], ?_, ?_, ?_⟩
    · rw [storeIf, if_pos hP, store, if_pos (Nat.lt_succ_of_lt hlt)]
    · rw [List.length_append, List.length_singleton]
      exact hlt
    · rw [List.forall_mem_append, List.forall_mem_singleton]
      exact ⟨h.tokens, t, ht, rfl⟩
  · exact ⟨argv, if_neg hP, h⟩

theorem Entries.exists_tokens {argv : List (Option Nat)} (h : Entries str maxtokens argv) :
    ∃ tokens : List Nat, argv = tokens.map some ∧ ∀ t ∈ tokens, t ≤ str.length := by
  obtain ⟨-, h⟩ := h
  induction argv with
  | nil => exact ⟨[], rfl, nofun⟩
  | cons x argv ih =>
    rw [List.forall_mem_cons] at h
    obtain ⟨⟨t, ht, rfl⟩, h⟩ := h
    obtain ⟨tokens, rfl, hall⟩ := ih h
    exact ⟨t :: tokens, rfl, List.forall_mem_cons.mpr ⟨ht, hall⟩⟩

theorem finish_spec (h : Inv str maxtokens v) (hmax : 1 ≤ maxtokens) (p : Nat) :
    ∃ tokens : List Nat, finish maxtokens p v =
        .ok { argc := tokens.length, argv := tokens.map some ++ [none], mem := v.mem } ∧
      tokens.length ≤ maxtokens ∧ ∀ t ∈ tokens, t ≤ str.length := by
  obtain ⟨argv, hword, hargv⟩ := Entries.stored (P := v.state ≠ .init ∧ v.argv.length < maxtokens)
    ⟨h.count, h.tokens⟩ (fun hP => hP.2) h.start
  obtain ⟨entries, hstr, hentries⟩ := hargv.stored (P := argv.length = 0 ∧ p ≠ 0)
    (fun hP => by omega) (Nat.zero_le _)
  obtain ⟨tokens, rfl, hall⟩ := hentries.exists_tokens
  have hcount := hentries.count
  have hnull : store maxtokens (tokens.map some) none = .ok (tokens.map some ++ [none]) :=
    if_pos (Nat.lt_succ_of_le hcount)
  rw [List.length_map] at hcount
  refine ⟨tokens, ?_, hcount, hall⟩
  refine bind_ok_iff.mpr ⟨argv, hword, bind_ok_iff.mpr ⟨_, hstr, bind_ok_iff.mpr ⟨_, hnull, ?_⟩⟩⟩
  rw [List.length_map]
  rfl

/-- Every place in the string starts a token. -/
theorem exists_token {mem : Mem UInt8} (h : Shadow str mem) {t : Nat} (ht : t ≤ str.length) :
    ∃ w, slice mem t w.length = w ∧ mem (t + w.length) = 0 ∧ w <+: str.drop t := by
  induction hk : str.length - t generalizing t with
  | zero =>
    refine ⟨[], rfl, ?_, List.nil_prefix⟩
    have hend : t = str.length := by omega
    rw [hend]
    rcases h str.length with hsame | hnul
    · rw [← block_length str]
      exact hsame
    · exact hnul
  | succ k ih =>
    by_cases hnul : mem t = 0
    · exact ⟨[], rfl, hnul, List.nil_prefix⟩
    · obtain ⟨hlt, hcell⟩ := h.inside hnul
      obtain ⟨w, hslice, hend, hprefix⟩ := ih hlt (by omega)
      refine ⟨mem t :: w, ?_, ?_, ?_⟩
      · rw [List.length_cons, Nat.add_comm, slice_add, hslice]
        rfl
      · rw [List.length_cons, Nat.add_comm w.length, ← Nat.add_assoc]
        exact hend
      · rw [List.drop_eq_getElem_cons hlt, hcell, List.cons_prefix_cons]
        exact ⟨rfl, hprefix⟩

theorem token_of_place {mem : Mem UInt8} (h : Shadow str mem) {t : Nat} (ht : t ≤ str.length) :
    ∃ w, Token str mem t w := by
  obtain ⟨w, hslice, hend, hprefix⟩ := exists_token h ht
  have hlength := hprefix.length_le
  rw [List.length_drop] at hlength
  exact ⟨w, hslice, hend, by omega, hprefix.isInfix.trans (List.drop_suffix t str).isInfix⟩

/-! ## Both functions -/

theorem drop_takeWhile (p : UInt8 → Bool) (s : CStr) :
    s.drop (s.takeWhile p).length = s.dropWhile p := by
  have hdrop : (s.takeWhile p ++ s.dropWhile p).drop (s.takeWhile p).length = s.dropWhile p :=
    List.drop_left
  rw [List.takeWhile_append_dropWhile] at hdrop
  exact hdrop

theorem odd_backslashes_iff :
    Odd (str.rtakeWhile (· == 92)).length ↔
      Escapes.pending 92 (str.dropWhile isspace) = true := by
  have hspaces : ∀ c ∈ str.takeWhile isspace, c ≠ 92 := by
    rintro c hc rfl
    exact absurd (List.mem_takeWhile_imp hc) (by decide)
  have hpending := Escapes.pending_append_of_forall 92 hspaces (str.dropWhile isspace)
  rw [List.takeWhile_append_dropWhile] at hpending
  rw [← hpending, Escapes.pending_iff_odd]

theorem tokenize_safe_iff (hstr : 0 ∉ str) (hmax : 1 ≤ maxtokens) :
    Safe str maxtokens (tokenize str delim maxtokens) ↔ ¬ Overshoots str delim maxtokens := by
  obtain ⟨mem, htrim, hshadow, hkept⟩ := strtrim_spec hstr
  have hle : (str.takeWhile isspace).length ≤ str.length := (List.takeWhile_prefix _).length_le
  have hstart : Inv str maxtokens
      { mem := mem, argv := [], state := .word, startOfWord := (str.takeWhile isspace).length } :=
    ⟨hshadow, Nat.zero_le _, hle, nofun⟩
  have hends : Ends str maxtokens (Overshoots str delim maxtokens)
      (scan (str.length + 1) delim maxtokens (str.takeWhile isspace).length
        { mem := mem, argv := [], state := .word,
          startOfWord := (str.takeWhile isspace).length }) := by
    by_cases hlast : str.getLast? = some 92
    · have hblock : mem = block str := by
        refine hkept ?_
        rw [hlast]
        rintro c hc
        cases hc
        rfl
      subst hblock
      have hahead := ahead_block str (str.takeWhile isspace).length
      rw [drop_takeWhile] at hahead
      have hlength := congrArg List.length
        (List.takeWhile_append_dropWhile (p := isspace) (l := str))
      rw [List.length_append] at hlength
      have hno : 0 ∉ str.dropWhile isspace := fun h => hstr (List.dropWhile_subset _ h)
      rw [Overshoots, odd_backslashes_iff, ← Nat.zero_add (completeTokens _ _ _)]
      exact scan_ends hno hahead hlength hstart
    · have hover : ¬ Overshoots str delim maxtokens := fun h =>
        hlast (Escapes.getLast?_of_pending 92 ((Escapes.pending_iff_odd 92 str).mpr h.1))
      exact .inr ⟨hover, scan_of_last hlast hstart hle⟩
  rw [tokenize, if_neg (by omega)]
  rcases hends with ⟨hover, f, hscan⟩ | ⟨hover, p, w, hscan, hinv⟩
  · refine iff_of_false ?_ (not_not.mpr hover)
    rintro ⟨tokens, mem', hok, -⟩
    obtain ⟨r, hr, hok⟩ := bind_ok_iff.mp hok
    rw [htrim] at hr
    cases hr
    obtain ⟨r, hr, -⟩ := bind_ok_iff.mp hok
    rw [hscan] at hr
    cases hr
  · obtain ⟨tokens, hfinish, hcount, hall⟩ := finish_spec hinv hmax p
    refine iff_of_true ⟨tokens, w.mem, ?_, hcount, fun t ht => ?_⟩ hover
    · exact bind_ok_iff.mpr ⟨_, htrim, bind_ok_iff.mpr ⟨_, hscan, hfinish⟩⟩
    · exact token_of_place hinv.shadow (hall t ht)

/-! ## A single token -/

theorem Token.unique {mem : Mem UInt8} {t : Nat} {u w : CStr} (hstr : 0 ∉ str)
    (hu : Token str mem t u) (hw : Token str mem t w) : u = w := by
  have hshort {u w : CStr} (hu : Token str mem t u) (hw : Token str mem t w) :
      w.length ≤ u.length := by
    by_contra hlt
    rw [Nat.not_le] at hlt
    have hcell : (slice mem t w.length)[u.length]? = some (mem (t + u.length)) := by
      rw [slice, List.getElem?_map, List.getElem?_range hlt, Option.map_some]
    rw [hw.text, hu.terminated] at hcell
    exact hstr (hw.piece.subset (List.mem_of_getElem? hcell))
  have hlength := Nat.le_antisymm (hshort hw hu) (hshort hu hw)
  rw [← hu.text, ← hw.text, hlength]

/-- Inside of a word the loop goes on to the end. -/
theorem scan_word {rest : CStr} (hrest : ∀ c ∈ rest, c ∉ delim ∧ c ≠ 92 ∧ c ≠ 0)
    (hahead : Ahead v.mem p rest) (hp : p + rest.length = str.length) (hword : v.state = .word)
    (hroom : v.argv.length < maxtokens) :
    scan (str.length + 1) delim maxtokens p v = .ok (str.length, v) := by
  induction rest generalizing p with
  | nil =>
    change p = str.length at hp
    rw [scan, if_pos hroom, dif_pos (by omega)]
    simp only [hahead.nil, if_true]
    rw [hp]
  | cons c rest ih =>
    rw [List.length_cons] at hp
    rw [List.forall_mem_cons] at hrest
    obtain ⟨⟨hdelim, hescape, hnul⟩, hrest⟩ := hrest
    have hswitch : switch (str.length + 1) delim maxtokens p c v = .ok v := by
      simp only [switch, hword]
      exact if_neg hdelim
    rw [scan, if_pos hroom, dif_pos (by omega)]
    simp only [hahead.head]
    rw [if_neg hnul, if_neg hescape, hswitch]
    exact ih hrest hahead.tail (by omega)

/-- A string without white space, delimiters and backslashes is its only token. -/
theorem tokenize_word (hstr : ∀ c ∈ str, isspace c = false ∧ c ∉ delim ∧ c ≠ 92 ∧ c ≠ 0)
    (hmax : 1 ≤ maxtokens) :
    ∃ mem, tokenize str delim maxtokens = .ok { argc := 1, argv := [some 0, none], mem := mem } ∧
      Token str mem 0 str := by
  have hnul : 0 ∉ str := fun h => (hstr 0 h).2.2.2 rfl
  have hspaces : str.takeWhile isspace = [] := by
    cases str with
    | nil => rfl
    | cons c s => rw [List.takeWhile_cons, (hstr c List.mem_cons_self).1, if_neg Bool.false_ne_true]
  obtain ⟨mem, htrim, -, hkept⟩ := strtrim_spec hnul
  obtain rfl := hkept fun c hc => (hstr c (List.mem_of_getLast? hc)).1
  rw [hspaces, List.length_nil] at htrim
  have hahead := ahead_block str 0
  rw [List.drop_zero] at hahead
  have hscan : scan (str.length + 1) delim maxtokens 0
      { mem := block str, argv := [], state := .word, startOfWord := 0 } = .ok (str.length, _) :=
    scan_word (fun c hc => (hstr c hc).2) hahead (Nat.zero_add _) rfl hmax
  refine ⟨block str, ?_, ?_, ?_, Nat.le_of_eq (Nat.zero_add _), List.infix_rfl⟩
  · have hstored : storeIf maxtokens (Mode.word ≠ .init ∧ 0 < maxtokens) [] 0 = .ok [some 0] :=
      (if_pos ⟨by decide, hmax⟩).trans (if_pos (Nat.succ_pos _))
    have hkeep : storeIf maxtokens ([some 0].length = 0 ∧ str.length ≠ 0) [some 0] 0 =
        .ok [some 0] := if_neg fun h => Nat.succ_ne_zero 0 h.1
    have hnull : store maxtokens [some 0] none = .ok [some 0, none] :=
      if_pos (Nat.lt_succ_of_le hmax)
    rw [tokenize, if_neg (by omega)]
    refine bind_ok_iff.mpr ⟨_, htrim, bind_ok_iff.mpr ⟨_, hscan, ?_⟩⟩
    exact bind_ok_iff.mpr ⟨_, hstored, bind_ok_iff.mpr ⟨_, hkeep, bind_ok_iff.mpr ⟨_, hnull, rfl⟩⟩⟩
  · refine List.ext_getElem (slice_length _ _ _) fun i hi hi' => ?_
    rw [slice_getElem, Nat.zero_add, block, List.getD_eq_getElem?_getD,
      List.getElem?_eq_getElem hi', Option.getD_some]
  · rw [Nat.zero_add, block_length]

end turns

/-- **Bounds.** `strqtok` and `m_strqtok` keep to the string and to `argv`, and return pieces of
the string, just if the string does not end in an odd number of backslashes that `argv` has
room for. -/
theorem strqtok_safe_iff (str delim : CStr) (maxtokens : Nat) (hstr : 0 ∉ str)
    (hmax : 1 ≤ maxtokens) :
    (Safe str maxtokens (strqtok str delim maxtokens) ↔ ¬ Overshoots str delim maxtokens) ∧
      (Safe str maxtokens (mStrqtok str delim maxtokens) ↔ ¬ Overshoots str delim maxtokens) :=
  ⟨tokenize_safe_iff hstr hmax, tokenize_safe_iff hstr hmax⟩

theorem words_safe :
    Safe (lit "one two") 4 (strqtok (lit "one two") (lit " ") 4) ∧
      Safe (lit "one two") 4 (mStrqtok (lit "one two") (lit " ") 4) := by
  have hover : ¬ Overshoots (lit "one two") (lit " ") 4 := fun h => absurd h.1 (by decide)
  obtain ⟨hsafe, hsafe'⟩ := strqtok_safe_iff (lit "one two") (lit " ") 4 (by decide) (by decide)
  exact ⟨hsafe.mpr hover, hsafe'.mpr hover⟩

/-- A single backslash: the scanner steps over the NUL and reads what is behind it. -/
theorem backslash_overshoots :
    strqtok [92] (lit " \r\n") 1024 = .error (.read 2) ∧
      mStrqtok [92] (lit " \r\n") 1024 = .error (.read 2) ∧
      ¬ Safe [92] 1024 (strqtok [92] (lit " \r\n") 1024) ∧
      ¬ Safe [92] 1024 (mStrqtok [92] (lit " \r\n") 1024) := by
  have hfault : tokenize [92] (lit " \r\n") 1024 = .error (.read 2) := by
    obtain ⟨mem, htrim, -, hkept⟩ := strtrim_spec (show 0 ∉ ([92] : CStr) by decide)
    have hmem : mem = block [92] := by
      refine hkept fun c hc => ?_
      cases hc
      rfl
    have hscan (v : Scan) (hv : v.argv = []) (hcell : v.mem 0 = 92) :
        scan 2 (lit " \r\n") 1024 0 v = .error (.read 2) := by
      rw [scan, hv, if_pos (by decide), dif_pos (by decide)]
      simp only [hcell]
      rw [if_neg (by decide), if_true, scan]
      exact (if_pos (Nat.succ_pos 1023)).trans (dif_neg (by decide))
    rw [tokenize, if_neg (by decide)]
    simp only [List.length_singleton] at htrim ⊢
    rw [htrim, hmem]
    have hloop := hscan { mem := block [92], argv := [], state := .word, startOfWord := 0 } rfl rfl
    exact congrArg (· >>= fun r => finish 1024 r.1 r.2) hloop
  have hunsafe : ¬ Safe [92] 1024 (tokenize [92] (lit " \r\n") 1024) := by
    rintro ⟨tokens, mem, hok, -⟩
    rw [hfault] at hok
    cases hok
  exact ⟨hfault, hfault, hunsafe, hunsafe⟩

end Rtdk.Strqtok
