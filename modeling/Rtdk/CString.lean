import Mathlib.Data.Nat.ModEq

/-! C strings and the library calls that turn them into numbers, in the C locale
on a platform whose `long` has 64 bits.

A C string is the bytes before its terminating NUL. `strtol`, `strtoul` and
`strtoull` report a value, whether it was out of range, and where they stopped;
`scanMac` is `sscanf` with the format `%x:%x:%x:%x:%x:%x`. -/

namespace Rtdk.CString

abbrev CStr := List UInt8

/-- The bytes of a string literal. -/
def lit (s : String) : CStr := s.toUTF8.data.toList

/-- The C string that starts a buffer of bytes. -/
def ofBytes (bytes : List UInt8) : CStr := bytes.takeWhile (· != 0)

def tolower (c : UInt8) : UInt8 := if 65 ≤ c ∧ c ≤ 90 then c + 32 else c

/-- `!strcasecmp(a, b)`. -/
def strcaseeq (a b : CStr) : Bool := a.map tolower == b.map tolower

def isspace (c : UInt8) : Bool := c == 32 || (9 ≤ c && c ≤ 13)

/-! ## Digits -/

/-- The value of a digit, letters counting on from ten. -/
def digitValue (c : UInt8) : Option Nat :=
  if 48 ≤ c ∧ c ≤ 57 then some (c.toNat - 48)
  else if 97 ≤ tolower c ∧ tolower c ≤ 122 then some ((tolower c).toNat - 87)
  else none

def isDigit (base : Nat) (c : UInt8) : Bool :=
  match digitValue c with
  | some d => decide (d < base)
  | none => false

/-- The number a string of digits denotes. -/
def digitsValue (base : Nat) (ds : CStr) : Nat :=
  ds.foldl (fun n c => n * base + (digitValue c).getD 0) 0

/-- An optional sign: whether it was a minus, and what follows. -/
def scanSign : CStr → Bool × CStr
  | 45 :: s => (true, s)
  | 43 :: s => (false, s)
  | s => (false, s)

/-- `0x` or `0X` at the start of a hexadecimal number. -/
def hasHexMark : CStr → Bool
  | 48 :: c :: _ => tolower c == 120
  | _ => false

/-- The number a string starts with: sign, magnitude and the rest of the string.
A `0x` that no digit follows is the number `0` followed by an `x`. -/
def scanNumber (base : Nat) (s : CStr) : Option (Bool × Nat × CStr) :=
  let (neg, s) := scanSign (s.dropWhile isspace)
  let marked := base == 16 && hasHexMark s && ((s.drop 2).head?.any (isDigit base))
  let s := if marked then s.drop 2 else s
  let ds := s.takeWhile (isDigit base)
  if ds = [] then none else some (neg, digitsValue base ds, s.dropWhile (isDigit base))

/-! ## `strtol` and its relatives -/

/-- What a conversion leaves behind: its value, whether it set `errno` to
`ERANGE`, and the string `endptr` points at (`none` if nothing was converted). -/
structure Strto (α : Type) where
  value : α
  erange : Bool
  rest : Option CStr
  deriving DecidableEq, Repr

def strtoull (base : Nat) (s : CStr) : Strto UInt64 :=
  match scanNumber base s with
  | none => ⟨0, false, none⟩
  | some (neg, n, rest) =>
    if 2 ^ 64 ≤ n then ⟨UInt64.ofNat (2 ^ 64 - 1), true, some rest⟩
    else ⟨if neg then -UInt64.ofNat n else UInt64.ofNat n, false, some rest⟩

/-- `unsigned long` and `unsigned long long` are the same 64 bits. -/
def strtoul (base : Nat) (s : CStr) : Strto UInt64 := strtoull base s

def strtol (base : Nat) (s : CStr) : Strto Int64 :=
  match scanNumber base s with
  | none => ⟨0, false, none⟩
  | some (true, n, rest) =>
    if 2 ^ 63 < n then ⟨Int64.minValue, true, some rest⟩ else ⟨-Int64.ofNat n, false, some rest⟩
  | some (false, n, rest) =>
    if 2 ^ 63 ≤ n then ⟨Int64.maxValue, true, some rest⟩ else ⟨Int64.ofNat n, false, some rest⟩

/-- `errno == 0 && endptr != value && *endptr == '\0'`. -/
def Strto.whole {α : Type} (r : Strto α) : Bool := !r.erange && r.rest == some []

/-! ## `sscanf` -/

/-- One `%x`: as `strtoul` to base 16, cut to an `unsigned int`; a `0x` that no
digit follows does not match. -/
def scanHex (s : CStr) : Option (UInt32 × CStr) :=
  let digits := (scanSign (s.dropWhile isspace)).2
  if hasHexMark digits && !((digits.drop 2).head?.any (isDigit 16)) then none
  else
    let r := strtoul 16 s
    r.rest.map fun rest => (r.value.toUInt32, rest)

/-- `n` conversions with colons between them. -/
def scanHexList : Nat → CStr → Option (List UInt32)
  | 0, _ => some []
  | 1, s => (scanHex s).map fun r => [r.1]
  | n + 2, s =>
    match scanHex s with
    | some (x, 58 :: s) => (scanHexList (n + 1) s).map (x :: ·)
    | _ => none

def scanMac (s : CStr) : Option (List UInt32) := scanHexList 6 s

example : (strtoull 10 (lit " +200")).whole = true ∧ (strtoull 10 (lit " +200")).value = 200 := by
  decide

example : (strtol 10 (lit "-1")).value = -1 ∧ (strtoull 10 (lit "12 ")).whole = false := by decide

example : scanMac (lit "a8:a1:59:2c:a8:db") = some [0xa8, 0xa1, 0x59, 0x2c, 0xa8, 0xdb] := by decide

end Rtdk.CString
