import Rtdk.MessagePool
import Rtdk.Snprintf
import Rtdk.Thread

/-! Records of the log (`log.c`).

`log_message` formats a line into a buffer of the pool, the length in front, and the
thread of the log writes as many bytes of the buffer to the file. The second call of
`snprintf` ends the line with a NUL in the last byte of a full buffer, which is
written like any other byte, and a negative result is added to the length
(`records_exact_iff`). -/

namespace Rtdk.LogRecord
open Rtdk.Memory Rtdk.Endian Rtdk.CString Rtdk.Snprintf Rtdk.NetDef Rtdk.Stat Rtdk.Config
open Rtdk.MessagePool

def LOG_MEMPOOL_BUFFER_SIZE : Nat := 6 * 1024

/-- Bytes of a buffer behind its length. -/
def maxLen : Nat := LOG_MEMPOOL_BUFFER_SIZE - 2

/-! ## Formatting -/

/-- A place to format to, and the room there. -/
structure Cursor where
  data : Mem UInt8
  p : Nat
  length : Nat

def logAdvanceBuffer (b : Cursor) (written : Int32) : Cursor :=
  if written < 0 then b
  else
    let w := if sizeT written ≥ b.length then b.length else sizeT written
    { b with p := b.p + w, length := b.length - w }

/-- `snprintf` and `log_advance_buffer`, as most callers combine them. -/
def Cursor.print (b : Cursor) (f : Formatted) : Cursor :=
  logAdvanceBuffer { b with data := snprintf b.data b.p b.length f } f.ret

def logLevelToString : LogLevel → CStr
  | .debug => lit "DEBUG"
  | .info => lit "INFO"
  | .warning => lit "WARNING"
  | .error => lit "ERROR"

structure Timespec where
  sec : Int64
  nsec : Int64

/-- A call of `log_message`. `time` is what `clock_gettime` stores, if it does not
fail, and `message` what becomes of the format. -/
structure Call where
  level : LogLevel
  time : Option Timespec
  message : Formatted

/-- `"[%8ld.%9ld]: [%s]: "`. -/
def prefixText (time : Timespec) (level : LogLevel) : CStr :=
  lit "[" ++ padded 8 (signed time.sec.toInt) ++ lit "." ++ padded 9 (signed time.nsec.toInt) ++
    lit "]: [" ++ logLevelToString level ++ lit "]: "

theorem prefixText_length (time : Timespec) (level : LogLevel) :
    1 ≤ (prefixText time level).length ∧ (prefixText time level).length ≤ 100 := by
  have hsec := signed_length time.sec
  have hnsec := signed_length time.nsec
  have hlevel : (logLevelToString level).length ≤ 7 := by cases level <;> decide
  have hopen : (lit "[").length = 1 := by decide
  have hdot : (lit ".").length = 1 := by decide
  have hmid : (lit "]: [").length = 4 := by decide
  have hclose : (lit "]: ").length = 3 := by decide
  simp only [prefixText, List.length_append, padded_length, hopen, hdot, hmid, hclose]
  omega

def Call.head (c : Call) : CStr := prefixText (c.time.getD ⟨0, 0⟩) c.level

theorem Call.head_fits (c : Call) : c.head.length < 2 ^ 31 :=
  Nat.lt_of_le_of_lt (prefixText_length _ _).2 (by decide)

/-- What `log_message` leaves in a buffer that it enqueues. `written` is clamped to the
capacity of the buffer. -/
def logMessage (buffer : Mem UInt8) (c : Call) : Mem UInt8 :=
  let head := Formatted.text c.head c.head_fits
  let b := Cursor.print ⟨buffer, 2, maxLen⟩ head
  let data := snprintf b.data b.p b.length c.message
  let written := head.ret + c.message.ret
  let written := if sizeT written > maxLen then Int32.ofNat maxLen else written
  write data 0 (leBytes 2 (written.toInt % 2 ^ 16).toNat)

/-- The length in front of a record. -/
def storedLength (buffer : Mem UInt8) : Nat := leValue (slice buffer 0 2)

/-- What the log thread writes for a record. -/
def fwriteRecord (buffer : Mem UInt8) : List UInt8 := slice buffer 2 (storedLength buffer)

/-! ## What is wanted -/

/-- Time stamp, level and message; a failed format has no text. -/
def Call.line (c : Call) : List UInt8 := c.head ++ c.message.bytes

/-- The longest prefix of the line that fits. -/
def Call.wanted (c : Call) : List UInt8 := c.line.take maxLen

/-- The format succeeds, and the line leaves room for a NUL or has one in its place. -/
structure Call.Clean (c : Call) : Prop where
  formatted : ∃ bs h, c.message = .text bs h
  room : c.line.length < maxLen ∨ c.line[maxLen - 1]? = some 0

/-! ## A cursor and the text behind it -/

/-- `text` has been printed from `start` on, where there was room for `cap` bytes. -/
structure Holds (start cap : Nat) (text : List UInt8) (b : Cursor) : Prop where
  p : b.p = start + min text.length cap
  length : b.length = cap - min text.length cap
  bytes : slice b.data start (min text.length (cap - 1)) = text.take (cap - 1)
  nul : text ≠ [] → b.data (start + min text.length (cap - 1)) = 0

theorem holds_nil (data : Mem UInt8) (start cap : Nat) : Holds start cap [] ⟨data, start, cap⟩ := by
  refine ⟨by simp, by simp, ?_, fun h => absurd rfl h⟩
  simp [slice]

section cursor
variable {start cap : Nat} {text bs : List UInt8} {b : Cursor}

/-- A text is stored behind the text that is there. -/
theorem Holds.stored (h : Holds start cap text b) (hcap : 0 < cap) (hbs : bs.length < 2 ^ 31) :
    slice (snprintf b.data b.p b.length (.text bs hbs)) start
        (min (text ++ bs).length (cap - 1)) = (text ++ bs).take (cap - 1) ∧
      (text ++ bs ≠ [] → snprintf b.data b.p b.length (.text bs hbs)
        (start + min (text ++ bs).length (cap - 1)) = 0) := by
  have hp := h.p
  have hlen := h.length
  have hbytes := h.bytes
  rw [List.length_append, List.take_append]
  by_cases hroom : text.length < cap
  · rw [Nat.min_eq_left (Nat.le_of_lt hroom)] at hp hlen
    rw [Nat.min_eq_left (by omega), List.take_of_length_le (by omega)] at hbytes
    obtain ⟨hstored, hnul⟩ := @snprintf_text b.data b.p b.length bs hbs (by omega)
    have hsplit : min (text.length + bs.length) (cap - 1) =
        text.length + min bs.length (b.length - 1) := by omega
    have hkept : slice (snprintf b.data b.p b.length (.text bs hbs)) start text.length =
        slice b.data start text.length :=
      slice_congr fun i hi => snprintf_outside _ _ _ _ _ (Or.inl (by omega))
    rw [hsplit, slice_add, hkept, hbytes, List.take_of_length_le (by omega), ← hp,
      ← Nat.add_assoc, ← hp, hstored, show cap - 1 - text.length = b.length - 1 by omega]
    exact ⟨rfl, fun _ => hnul⟩
  · have hfull : b.length = 0 := by omega
    have hne : text ≠ [] := by
      rintro rfl
      exact hroom hcap
    have hdata : snprintf b.data b.p b.length (.text bs hbs) = b.data := if_pos hfull
    rw [hdata, Nat.min_eq_right (by omega), show cap - 1 - text.length = 0 by omega, List.take_zero,
      List.append_nil, ← hbytes, Nat.min_eq_right (by omega)]
    refine ⟨rfl, fun _ => ?_⟩
    have hnul := h.nul hne
    rwa [Nat.min_eq_right (by omega)] at hnul

/-- **Printing.** -/
theorem Holds.print (h : Holds start cap text b) (hcap : 0 < cap) (hbs : bs.length < 2 ^ 31) :
    Holds start cap (text ++ bs) (b.print (.text bs hbs)) := by
  obtain ⟨hbytes, hnul⟩ := h.stored hcap hbs
  have hret := Formatted.ret_text hbs
  have hpos : ¬ (Formatted.text bs hbs).ret < 0 := by
    rw [Int32.lt_iff_toInt_lt, hret, Int32.toInt_zero]
    omega
  have hp := h.p
  have hlen := h.length
  rw [Cursor.print, logAdvanceBuffer, if_neg hpos, sizeT_of_nonneg hret]
  refine ⟨?_, ?_, hbytes, hnul⟩
  · simp only [List.length_append]
    split <;> omega
  · simp only [List.length_append]
    split <;> omega

end cursor

/-! ## One record -/

/-- A length is stored and read back. -/
theorem storedLength_write (data : Mem UInt8) (n : Int) :
    storedLength (write data 0 (leBytes 2 (n % 2 ^ 16).toNat)) = (n % 2 ^ 16).toNat := by
  rw [storedLength, slice_write_eq data 0 (leBytes_length 2 _), leValue_leBytes]
  omega

theorem clamp_toInt (n : Int32) :
    (if sizeT n > maxLen then Int32.ofNat maxLen else n).toInt % 2 ^ 16 =
      if 0 ≤ n.toInt ∧ n.toInt ≤ maxLen then n.toInt else maxLen := by
  have hmax : (Int32.ofNat maxLen).toInt = maxLen := Int32.toInt_ofNat_of_lt (by decide)
  have hval : maxLen = 6142 := rfl
  by_cases hneg : n.toInt < 0
  · have hbig := sizeT_of_neg hneg
    rw [if_pos (by omega), hmax, if_neg (by omega)]
    omega
  · obtain ⟨k, hk⟩ := Int.eq_ofNat_of_zero_le (Int.not_lt.mp hneg)
    rw [sizeT_of_nonneg hk]
    split
    · rw [hmax, if_neg (by omega)]
      omega
    · rw [if_pos (by omega)]
      omega

/-- **The stored length.**  The sum of the two results, or the capacity if that is
out of range. -/
theorem storedLength_logMessage (buffer : Mem UInt8) (c : Call) :
    let sum := ((c.head.length : Int) + c.message.ret.toInt).bmod (2 ^ 32)
    storedLength (logMessage buffer c) =
      if 0 ≤ sum ∧ sum ≤ maxLen then sum.toNat else maxLen := by
  intro sum
  unfold logMessage
  simp only
  rw [storedLength_write, clamp_toInt, Int32.toInt_add, Formatted.ret_text c.head_fits]
  show (if 0 ≤ sum ∧ sum ≤ maxLen then sum else (maxLen : Int)).toNat = _
  split <;> rfl

theorem storedLength_le (buffer : Mem UInt8) (c : Call) :
    storedLength (logMessage buffer c) ≤ maxLen := by
  rw [storedLength_logMessage]
  split <;> omega

/-- A text is written up to the NUL that `vsnprintf` puts behind it, or over its end. -/
theorem fwriteRecord_text (buffer : Mem UInt8) {c : Call} {bs : List UInt8}
    {hbs : bs.length < 2 ^ 31} (hm : c.message = .text bs hbs) :
    fwriteRecord (logMessage buffer c) =
      if c.line.length < maxLen then c.line else c.line.take (maxLen - 1) ++ [0] := by
  have hval : maxLen = 6142 := rfl
  obtain ⟨hpos, hshort⟩ := prefixText_length (c.time.getD ⟨0, 0⟩) c.level
  change 1 ≤ c.head.length at hpos
  change c.head.length ≤ 100 at hshort
  have hline : c.line = c.head ++ bs := by rw [Call.line, hm]; rfl
  have hlen : c.line.length = c.head.length + bs.length := by rw [hline, List.length_append]
  have hne : c.line ≠ [] := List.ne_nil_of_length_pos (by omega)
  have hstored : storedLength (logMessage buffer c) = min c.line.length maxLen := by
    rw [storedLength_logMessage, hm, Formatted.ret_text]
    have hsum : ((c.head.length : Int) + bs.length).bmod (2 ^ 32) =
        if c.head.length + bs.length < 2 ^ 31 then ((c.head.length + bs.length : Nat) : Int)
        else ((c.head.length + bs.length : Nat) : Int) - 2 ^ 32 := by
      rw [Int.bmod_def]
      split <;> split <;> omega
    rw [hsum]
    split <;> split <;> omega
  obtain ⟨b, hb⟩ : ∃ b, b = Cursor.print ⟨buffer, 2, maxLen⟩ (.text c.head c.head_fits) := ⟨_, rfl⟩
  have hhead : Holds 2 maxLen c.head b := by
    rw [hb]
    exact (holds_nil buffer 2 maxLen).print (by decide) c.head_fits
  have hsame (n : Nat) : slice (logMessage buffer c) 2 n =
      slice (snprintf b.data b.p b.length (.text bs hbs)) 2 n := by
    unfold logMessage
    rw [hm, hb]
    exact slice_write_disjoint _ _ _ _ _ (Or.inl (by rw [leBytes_length]))
  obtain ⟨hbytes, hnul⟩ := hhead.stored (by decide) hbs
  rw [← hline] at hbytes hnul
  rw [fwriteRecord, hstored, hsame]
  split
  · rw [Nat.min_eq_left (by omega)]
    rw [Nat.min_eq_left (by omega), List.take_of_length_le (by omega)] at hbytes
    exact hbytes
  · have hcell := hnul hne
    have hsplit := slice_add (snprintf b.data b.p b.length (.text bs hbs)) 2 (maxLen - 1) 1
    rw [Nat.min_eq_right (by omega)] at hbytes hcell
    rw [show maxLen - 1 + 1 = maxLen from rfl, hbytes] at hsplit
    rw [Nat.min_eq_right (by omega), hsplit]
    simp [slice, hcell]

/-- After a failed format the length is wrong. -/
theorem fwriteRecord_failed (buffer : Mem UInt8) {c : Call} {ret : Int32} {negative : ret < 0}
    {stored : List UInt8} (hm : c.message = .failed ret negative stored) :
    fwriteRecord (logMessage buffer c) ≠ c.wanted := by
  have hval : maxLen = 6142 := rfl
  have hshort : c.head.length ≤ 100 := (prefixText_length _ _).2
  have hneg := Int32.lt_iff_toInt_lt.mp negative
  rw [Int32.toInt_zero] at hneg
  have hlow := ret.le_toInt
  have hwanted : c.wanted.length = c.head.length := by
    rw [Call.wanted, Call.line, hm, Formatted.bytes, List.append_nil, List.length_take]
    omega
  intro heq
  have hlen := congrArg List.length heq
  rw [fwriteRecord, slice_length, hwanted, storedLength_logMessage, hm, Formatted.ret,
    Int.bmod_eq_of_le (by omega) (by omega)] at hlen
  split at hlen <;> omega

/-- **One record.**  Exactly the wanted bytes, whatever was in the buffer before. -/
theorem fwriteRecord_iff (buffer : Mem UInt8) (c : Call) :
    fwriteRecord (logMessage buffer c) = c.wanted ↔ c.Clean := by
  cases hm : c.message with
  | failed ret negative stored =>
    refine iff_of_false (fwriteRecord_failed buffer hm) ?_
    rintro ⟨⟨bs, h, htext⟩, -⟩
    rw [hm] at htext
    cases htext
  | text bs hbs =>
    have hclean : c.Clean ↔ c.line.length < maxLen ∨ c.line[maxLen - 1]? = some 0 :=
      ⟨Call.Clean.room, fun h => ⟨⟨bs, hbs, hm⟩, h⟩⟩
    rw [fwriteRecord_text buffer hm, hclean, Call.wanted]
    split
    · rename_i hshort
      rw [List.take_of_length_le (Nat.le_of_lt hshort)]
      exact iff_of_true rfl (Or.inl hshort)
    · rename_i hlong
      have hlast : maxLen - 1 < c.line.length := by
        have hval : maxLen = 6142 := rfl
        omega
      rw [or_iff_right hlong, show c.line.take maxLen = c.line.take (maxLen - 1 + 1) from rfl,
        List.take_succ_eq_append_getElem hlast, List.append_cancel_left_eq,
        List.getElem?_eq_getElem hlast, Option.some.injEq, List.cons.injEq, and_iff_left rfl]
      exact eq_comm

/-! ## The statistics line -/

/-- What numbers are formatted to. -/
structure Text where
  bytes : List UInt8
  fits : bytes.length < 2 ^ 31
  noNul : 0 ∉ bytes

def Text.formatted (t : Text) : Formatted := .text t.bytes t.fits

/-- The parts of a class's statistics: frames and times, outliers, errors, next times,
and timers. -/
structure ClassTexts where
  times : Text
  outliers : Text
  errors : Text
  nextTimes : Text
  timers : Text

def logAddTrafficClass (ty : FrameType) (t : ClassTexts) (b : Cursor) : Cursor :=
  let b := b.print t.times.formatted
  let b := if ty.isRealTime then b.print t.outliers.formatted else b
  let b := b.print t.errors.formatted
  let b := b.print t.nextTimes.formatted
  b.print t.timers.formatted

def dropsText (messagesDropped : UInt64) : CStr :=
  lit "LogDrops=" ++ decimal messagesDropped.toNat ++ lit " | "

theorem dropsText_length (messagesDropped : UInt64) :
    1 ≤ (dropsText messagesDropped).length ∧ (dropsText messagesDropped).length ≤ 32 := by
  have hdec : (decimal messagesDropped.toNat).length ≤ 20 :=
    decimal_length (by decide) (Nat.lt_of_lt_of_le messagesDropped.toNat_lt (by decide))
  have hopen : (lit "LogDrops=").length = 9 := by decide
  have hclose : (lit " | ").length = 3 := by decide
  simp only [dropsText, List.length_append, hopen, hclose]
  omega

theorem dropsText_fits (messagesDropped : UInt64) :
    (dropsText messagesDropped).length < 2 ^ 31 :=
  Nat.lt_of_le_of_lt (dropsText_length messagesDropped).2 (by decide)

def logAddLoggingStats (messagesDropped : UInt64) (b : Cursor) : Cursor :=
  b.print (.text (dropsText messagesDropped) (dropsText_fits messagesDropped))

/-- The order in which `log_thread_routine` asks for the classes. -/
def statClasses : List FrameType :=
  [.tsnHigh, .tsnLow, .rtc, .rta, .dcp, .lldp, .udpHigh, .udpLow, .l2]

/-- `stat_message` has 8192 bytes, all zero at first, and one is left for a NUL. -/
def statMessage (cfg : AppConfig) (texts : FrameType → ClassTexts) (messagesDropped : UInt64) :
    Cursor :=
  let b := (statClasses.filter cfg.isActive).foldl
    (fun b ty => logAddTrafficClass ty (texts ty) b) ⟨fun _ => 0, 0, 8192 - 1⟩
  logAddLoggingStats messagesDropped b

/-- The string in `stat_message`, and a line feed. -/
def statLine (cfg : AppConfig) (texts : FrameType → ClassTexts) (messagesDropped : UInt64) : CStr :=
  ofBytes (slice (statMessage cfg texts messagesDropped).data 0 8192) ++ [10]

theorem statLine_fits (cfg : AppConfig) (texts : FrameType → ClassTexts)
    (messagesDropped : UInt64) :
    (statLine cfg texts messagesDropped).length < 2 ^ 31 := by
  have hle : (ofBytes (slice (statMessage cfg texts messagesDropped).data 0 8192)).length ≤
      8192 := by
    refine Nat.le_trans (List.takeWhile_sublist _).length_le ?_
    rw [slice_length]
  rw [statLine, List.length_append, List.length_singleton]
  omega

/-- `log_message(LOG_LEVEL_INFO, "%s\n", stat_message)`, once a period. -/
def statCall (cfg : AppConfig) (texts : FrameType → ClassTexts) (messagesDropped : UInt64)
    (time : Option Timespec) : Call where
  level := .info
  time := time
  message := .text (statLine cfg texts messagesDropped) (statLine_fits cfg texts messagesDropped)

def ClassTexts.bytes (ty : FrameType) (t : ClassTexts) : List UInt8 :=
  t.times.bytes ++ (if ty.isRealTime then t.outliers.bytes else []) ++ t.errors.bytes ++
    t.nextTimes.bytes ++ t.timers.bytes

/-- All parts of the line. -/
def statText (cfg : AppConfig) (texts : FrameType → ClassTexts) (messagesDropped : UInt64) : CStr :=
  (statClasses.filter cfg.isActive).flatMap (fun ty => (texts ty).bytes ty) ++
    dropsText messagesDropped

theorem Holds.trafficClass {start cap : Nat} {text : List UInt8} {b : Cursor}
    (h : Holds start cap text b) (hcap : 0 < cap) (ty : FrameType) (t : ClassTexts) :
    Holds start cap (text ++ t.bytes ty) (logAddTrafficClass ty t b) := by
  have htimes := h.print hcap t.times.fits
  simp only [ClassTexts.bytes, ← List.append_assoc]
  unfold logAddTrafficClass
  cases hrt : ty.isRealTime with
  | true =>
    exact (((htimes.print hcap t.outliers.fits).print hcap t.errors.fits).print hcap
      t.nextTimes.fits).print hcap t.timers.fits
  | false =>
    simp only [Bool.false_eq_true, if_false, List.append_nil]
    exact ((htimes.print hcap t.errors.fits).print hcap t.nextTimes.fits).print hcap t.timers.fits

theorem Holds.trafficClasses {start cap : Nat} (hcap : 0 < cap) (texts : FrameType → ClassTexts)
    (tys : List FrameType) {text : List UInt8} {b : Cursor} (h : Holds start cap text b) :
    Holds start cap (text ++ tys.flatMap fun ty => (texts ty).bytes ty)
      (tys.foldl (fun b ty => logAddTrafficClass ty (texts ty) b) b) := by
  induction tys generalizing text b with
  | nil =>
    rw [List.flatMap_nil, List.append_nil]
    exact h
  | cons ty tys ih =>
    rw [List.flatMap_cons, ← List.append_assoc]
    exact ih (h.trafficClass hcap ty (texts ty))

theorem prefixText_noNul (time : Timespec) (level : LogLevel) : 0 ∉ prefixText time level := by
  have hlevel : 0 ∉ logLevelToString level := by cases level <;> decide
  simp only [prefixText, List.mem_append, not_or]
  exact ⟨⟨⟨⟨⟨⟨by decide, padded_noNul 8 (signed_noNul _)⟩, by decide⟩,
    padded_noNul 9 (signed_noNul _)⟩, by decide⟩, hlevel⟩, by decide⟩

theorem ClassTexts.noNul (ty : FrameType) (t : ClassTexts) : 0 ∉ t.bytes ty := by
  simp only [ClassTexts.bytes, List.mem_append, not_or]
  refine ⟨⟨⟨⟨t.times.noNul, ?_⟩, t.errors.noNul⟩, t.nextTimes.noNul⟩, t.timers.noNul⟩
  split
  · exact t.outliers.noNul
  · exact List.not_mem_nil

section statLine
variable (cfg : AppConfig) (texts : FrameType → ClassTexts) (messagesDropped : UInt64)

theorem statText_noNul : 0 ∉ statText cfg texts messagesDropped := by
  simp only [statText, dropsText, List.mem_append, not_or, List.mem_flatMap, not_exists, not_and]
  exact ⟨fun ty _ => (texts ty).noNul ty, ⟨by decide, decimal_noNul _⟩, by decide⟩

/-- **The line.**  All parts, cut where `stat_message` is full. -/
theorem statLine_eq :
    statLine cfg texts messagesDropped =
      (statText cfg texts messagesDropped).take 8190 ++ [10] := by
  have hclasses := (holds_nil (fun _ => 0) 0 (8192 - 1)).trafficClasses (by decide) texts
    (statClasses.filter cfg.isActive)
  have hall : Holds 0 8191 (statText cfg texts messagesDropped)
      (statMessage cfg texts messagesDropped) :=
    hclasses.print (by decide) (dropsText_fits messagesDropped)
  have hne : statText cfg texts messagesDropped ≠ [] := by
    intro hnil
    have hdrops := (List.append_eq_nil_iff.mp hnil).2
    have hpos := (dropsText_length messagesDropped).1
    rw [hdrops] at hpos
    exact absurd hpos (by decide)
  have hlen : ((statText cfg texts messagesDropped).take 8190).length =
      min (statText cfg texts messagesDropped).length 8190 := by
    rw [List.length_take, Nat.min_comm]
  have hbytes := hall.bytes
  have hnul := hall.nul hne
  rw [show 8191 - 1 = 8190 from rfl, ← hlen] at hbytes hnul
  rw [statLine, ofBytes_slice hbytes hnul
    (fun h => statText_noNul cfg texts messagesDropped (List.mem_of_mem_take h)) (by omega)]

/-- **The statistics in the log.**  Their record is what is wanted only while the whole
line is shorter than a buffer. -/
theorem statCall_clean_iff (time : Option Timespec) :
    (statCall cfg texts messagesDropped time).Clean ↔
      (statCall cfg texts messagesDropped time).head.length +
        (statText cfg texts messagesDropped).length + 1 < maxLen := by
  have hval : maxLen = 6142 := rfl
  have hline : (statCall cfg texts messagesDropped time).line =
      (statCall cfg texts messagesDropped time).head ++
        ((statText cfg texts messagesDropped).take 8190 ++ [10]) := by
    rw [Call.line, ← statLine_eq]
    rfl
  have hno : 0 ∉ (statCall cfg texts messagesDropped time).line := by
    simp only [hline, List.mem_append, not_or]
    refine ⟨prefixText_noNul _ _, fun h => ?_, by decide⟩
    exact statText_noNul cfg texts messagesDropped (List.mem_of_mem_take h)
  have hlen : (statCall cfg texts messagesDropped time).line.length =
      (statCall cfg texts messagesDropped time).head.length +
        (min (statText cfg texts messagesDropped).length 8190 + 1) := by
    rw [hline, List.length_append, List.length_append, List.length_take, List.length_singleton,
      Nat.min_comm]
  constructor
  · rintro ⟨-, hroom | hroom⟩
    · omega
    · exact absurd (List.mem_of_getElem? hroom) hno
  · intro h
    exact ⟨⟨_, _, rfl⟩, Or.inl (by omega)⟩

end statLine

/-! ## The log at work -/

abbrev Buffer := Fin LOG_MEMPOOL_BUFFER_COUNT

structure LogConfig where
  app : AppConfig
  currentLevel : LogLevel
  debugStopTraceOnError : Bool

/-- The pool with the contents of its buffers, and what the threads in `T` are
logging. `file` holds the blocks given to `fwrite` so far, `enqueued` the calls
whose records went into the ring. -/
structure Log (T : Type) where
  pool : Pool T LOG_MEMPOOL_BUFFER_COUNT
  content : Buffer → Mem UInt8
  calling : T → Option Call
  messagesDropped : UInt64
  tracingOn : List UInt8
  file : List (List UInt8)
  enqueued : List Call

/-- The steps of the threads. The log thread logs its statistics in `period`. `putBulk`
ends one of its bursts: it has written the records it dequeued, and gives the buffers
back. -/
inductive LogEvent (T : Type)
  | message (t : T) (c : Call) (b : Option Buffer)
  | period (t : T) (texts : FrameType → ClassTexts) (time : Option Timespec) (b : Option Buffer)
  | enqueue (t : T)
  | put (t : T)
  | dequeueBurst
  | putBulk

/-- Tracing is stopped at an error, if that is desired. -/
def stopTrace (cfg : LogConfig) (level : LogLevel) (tracingOn : List UInt8) : List UInt8 :=
  if level = .error ∧ cfg.debugStopTraceOnError then tracingOn ++ lit "0\n" else tracingOn

section log
variable {T : Type}

def LogEvent.pool : LogEvent T → Event T LOG_MEMPOOL_BUFFER_COUNT
  | .message t c b => .call t c.level b
  | .period t _ _ b => .call t .info b
  | .enqueue t => .enqueue t
  | .put t => .put t
  | .dequeueBurst => .dequeueBurst
  | .putBulk => .putBulk

variable [DecidableEq T]

/-- `log_message` up to the enqueue. -/
def Log.say (cfg : LogConfig) (s : Log T) (t : T) (c : Call) (b : Option Buffer) : Log T :=
  let s := { s with tracingOn := stopTrace cfg c.level s.tracingOn }
  if LogLevel.toNat c.level > LogLevel.toNat cfg.currentLevel then s
  else
    match b with
    | none => { s with messagesDropped := s.messagesDropped + 1 }
    | some b =>
      { s with
        content := Function.update s.content b (logMessage (s.content b) c)
        calling := Function.update s.calling t (some c) }

/-- What a step does besides moving buffers. -/
def Log.effect (cfg : LogConfig) (s : Log T) : LogEvent T → Log T
  | .message t c b => s.say cfg t c b
  | .period t texts time b => s.say cfg t (statCall cfg.app texts s.messagesDropped time) b
  | .enqueue t =>
    if s.pool.ring.length < ringCapacity LOG_RING_SIZE then
      { s with enqueued := s.enqueued ++ (s.calling t).toList }
    else s
  | .put _ => s
  | .dequeueBurst => s
  | .putBulk =>
    { s with file := s.file ++ s.pool.draining.map fun b => fwriteRecord (s.content b) }

/-- A step that is not possible in a state is not taken. -/
def Log.step (cfg : LogConfig) (s : Log T) (e : LogEvent T) : Log T :=
  match logStep cfg.currentLevel s.pool e.pool with
  | some pool => { s.effect cfg e with pool := pool }
  | none => s

def Log.run (cfg : LogConfig) (s : Log T) (es : List (LogEvent T)) : Log T :=
  es.foldl (Log.step cfg) s

/-- The log after `log_init`, whatever the memory of the pool holds. -/
def Log.start (content : Buffer → Mem UInt8) : Log T :=
  ⟨.fresh T _, content, fun _ => none, 0, [], [], []⟩

/-! ### What holds in every state -/

/-- The buffers the log thread has taken from the ring and those in the ring, oldest first. -/
def Log.pending (s : Log T) : List Buffer := s.pool.draining ++ s.pool.ring

/-- A block is what the log thread writes for a call. -/
def Written (bytes : List UInt8) (c : Call) : Prop :=
  ∃ stale, bytes = fwriteRecord (logMessage stale c)

/-- A thread that goes on to something else was filling what it is filling now. -/
theorem filling_setProducer {n : Nat} {p : Pool T n} {t u : T} {q : Producer n} {b : Fin n}
    (hq : ∀ b', q ≠ .filling b') (h : (p.setProducer t q).producer u = .filling b) :
    p.producer u = .filling b := by
  by_cases hut : u = t
  · subst hut
    rw [Pool.setProducer_self] at h
    exact absurd h (hq b)
  · simpa [Pool.setProducer, Function.update_of_ne hut] using h

variable [Fintype T]

structure Log.Inv (s : Log T) : Prop where
  nodup : s.pool.owned.Nodup
  filled : ∀ t b, s.pool.producer t = .filling b →
    ∃ c stale, s.calling t = some c ∧ s.content b = logMessage stale c
  fits : ∀ b ∈ s.pending, storedLength (s.content b) ≤ maxLen
  records : List.Forall₂ Written
    (s.file ++ s.pending.map fun b => fwriteRecord (s.content b)) s.enqueued

theorem inv_start (content : Buffer → Mem UInt8) : (Log.start (T := T) content).Inv := by
  refine ⟨?_, fun t b h => ?_, fun b hb => ?_, List.Forall₂.nil⟩
  · rw [Log.start, Pool.owned_fresh]
    exact Finset.univ.nodup
  · cases h
  · cases hb

omit [DecidableEq T] in
/-- Buffers change places, and the log thread may write what it has taken. -/
theorem Log.Inv.moved {s s' : Log T} (h : s.Inv) (howned : s'.pool.owned = s.pool.owned)
    (hfilling : ∀ t b, s'.pool.producer t = .filling b → s.pool.producer t = .filling b)
    (hpending : ∃ gone, s.pending = gone ++ s'.pending ∧
      s'.file = s.file ++ gone.map fun b => fwriteRecord (s.content b))
    (hcontent : s'.content = s.content) (hcalling : s'.calling = s.calling)
    (henqueued : s'.enqueued = s.enqueued) : s'.Inv := by
  obtain ⟨gone, hgone, hfile⟩ := hpending
  refine ⟨howned ▸ h.nodup, fun t b hb => ?_, fun b hb => ?_, ?_⟩
  · rw [hcalling, hcontent]
    exact h.filled t b (hfilling t b hb)
  · rw [hcontent]
    exact h.fits b (hgone ▸ List.mem_append_right gone hb)
  · rw [hfile, hcontent, henqueued, List.append_assoc, ← List.map_append, ← hgone]
    exact h.records

/-- A buffer that is free is nowhere else. -/
theorem Log.Inv.free {s : Log T} (h : s.Inv) {b : Buffer} (hb : b ∈ s.pool.free) :
    b ∉ s.pending ∧ ∀ t, s.pool.producer t ≠ .filling b := by
  have hplace (x : Place T) (hx : Place.free ≠ x) : b ∉ s.pool.ledger x :=
    Multiset.disjoint_left.mp (Ledger.disjoint_of_nodup h.nodup hx) hb
  refine ⟨fun hmem => ?_, fun t ht => ?_⟩
  · rcases List.mem_append.mp hmem with hdrain | hring
    · exact hplace .draining (by simp) hdrain
    · exact hplace .ring (by simp) hring
  · refine hplace (.thread t) (by simp) ?_
    simp [Pool.ledger, ht, Producer.held]

/-- A call formats its line into a free buffer. -/
theorem Log.Inv.filling {s : Log T} (h : s.Inv) {t : T} (c : Call) {b : Buffer}
    {pool : Pool T LOG_MEMPOOL_BUFFER_COUNT} (hget : s.pool.get t (some b) = some pool)
    (tracingOn : List UInt8) :
    Log.Inv { s with
      pool := pool
      content := Function.update s.content b (logMessage (s.content b) c)
      calling := Function.update s.calling t (some c)
      tracingOn := tracingOn } := by
  have howned := Pool.owned_get hget
  simp only [Pool.get] at hget
  split at hget
  · rename_i hfree
    cases hget
    obtain ⟨hpending, hothers⟩ := h.free hfree.2
    have hkept : ∀ b' ∈ s.pending, Function.update s.content b (logMessage (s.content b) c) b' =
        s.content b' := by
      intro b' hb'
      refine Function.update_of_ne ?_ _ _
      rintro rfl
      exact hpending hb'
    refine ⟨howned ▸ h.nodup, fun u b' hu => ?_, fun b' hb' => ?_, ?_⟩
    · by_cases hut : u = t
      · subst hut
        rw [Pool.setProducer_self] at hu
        cases hu
        exact ⟨c, s.content b, Function.update_self .., Function.update_self ..⟩
      · have hold : s.pool.producer u = .filling b' := by
          simpa [Pool.setProducer, Function.update_of_ne hut] using hu
        have hne : b' ≠ b := by
          rintro rfl
          exact hothers u hold
        simp only [Function.update_of_ne hut, Function.update_of_ne hne]
        exact h.filled u b' hold
    · show storedLength (Function.update s.content b _ b') ≤ maxLen
      rw [hkept b' hb']
      exact h.fits b' hb'
    · have hmap : (s.pending.map fun b' =>
          fwriteRecord (Function.update s.content b (logMessage (s.content b) c) b')) =
          s.pending.map fun b' => fwriteRecord (s.content b') :=
        List.map_congr_left fun b' hb' => by rw [hkept b' hb']
      show List.Forall₂ Written (s.file ++ s.pending.map _) s.enqueued
      rw [hmap]
      exact h.records
  · cases hget

omit [DecidableEq T] in
/-- A record goes into the ring. -/
theorem Log.Inv.enqueued {s : Log T} (h : s.Inv) {t : T} {b : Buffer}
    (ht : s.pool.producer t = .filling b) {pool : Pool T LOG_MEMPOOL_BUFFER_COUNT}
    (howned : pool.owned = s.pool.owned) (hring : pool.ring = s.pool.ring ++ [b])
    (hdraining : pool.draining = s.pool.draining)
    (hfilling : ∀ u b', pool.producer u = .filling b' → s.pool.producer u = .filling b') :
    Log.Inv { s with pool := pool, enqueued := s.enqueued ++ (s.calling t).toList } := by
  obtain ⟨c, stale, hcall, hcontent⟩ := h.filled t b ht
  have hpending : Log.pending { s with
      pool := pool, enqueued := s.enqueued ++ (s.calling t).toList } = s.pending ++ [b] := by
    simp only [Log.pending, hring, hdraining, List.append_assoc]
  refine ⟨howned ▸ h.nodup, fun u b' hu => h.filled u b' (hfilling u b' hu), fun b' hb' => ?_, ?_⟩
  · rw [hpending, List.mem_append, List.mem_singleton] at hb'
    rcases hb' with hb' | rfl
    · exact h.fits b' hb'
    · show storedLength (s.content b') ≤ maxLen
      rw [hcontent]
      exact storedLength_le stale c
  · rw [hpending, List.map_append, ← List.append_assoc]
    refine List.rel_append h.records ?_
    rw [hcall]
    exact .cons ⟨stale, congrArg fwriteRecord hcontent⟩ .nil

/-- A call, whatever becomes of it. -/
theorem Log.Inv.say (cfg : LogConfig) {s : Log T} (h : s.Inv) {t : T} {c : Call}
    {b : Option Buffer} {pool : Pool T LOG_MEMPOOL_BUFFER_COUNT}
    (hstep : logStep cfg.currentLevel s.pool (.call t c.level b) = some pool) :
    Log.Inv { s.say cfg t c b with pool := pool } := by
  simp only [logStep] at hstep
  simp only [Log.say]
  split at hstep
  · rename_i hlevel
    cases hstep
    rw [if_pos hlevel]
    exact h.moved rfl (fun _ _ => id) ⟨[], rfl, (List.append_nil _).symm⟩ rfl rfl rfl
  · rename_i hlevel
    rw [if_neg hlevel]
    cases b with
    | none =>
      cases hstep
      exact h.moved rfl (fun _ _ => id) ⟨[], rfl, (List.append_nil _).symm⟩ rfl rfl rfl
    | some b => exact h.filling c hstep _

/-- **A step.** -/
theorem inv_step (cfg : LogConfig) {s : Log T} (h : s.Inv) (e : LogEvent T) :
    (s.step cfg e).Inv := by
  unfold Log.step
  cases hstep : logStep cfg.currentLevel s.pool e.pool with
  | none => exact h
  | some pool =>
    have howned := logStep_owned hstep
    cases e with
    | message t c b => exact h.say cfg hstep
    | period t texts time b =>
      exact h.say cfg (c := statCall cfg.app texts s.messagesDropped time) hstep
    | enqueue t =>
      simp only [LogEvent.pool, logStep, Pool.enqueue] at hstep
      simp only [Log.effect]
      split at hstep
      · rename_i b ht
        split at hstep
        · rename_i hroom
          cases hstep
          rw [if_pos hroom]
          exact h.enqueued ht howned rfl rfl fun u b' hu => filling_setProducer (by simp) hu
        · rename_i hroom
          cases hstep
          rw [if_neg hroom]
          exact h.moved howned (fun u b' hu => filling_setProducer (by simp) hu)
            ⟨[], rfl, (List.append_nil _).symm⟩ rfl rfl rfl
      · cases hstep
    | put t =>
      simp only [LogEvent.pool, logStep, Pool.put] at hstep
      split at hstep
      · cases hstep
        exact h.moved howned (fun u b' hu => filling_setProducer (by simp) hu)
          ⟨[], rfl, (List.append_nil _).symm⟩ rfl rfl rfl
      · cases hstep
    | dequeueBurst =>
      simp only [LogEvent.pool, logStep, Pool.dequeueBurst] at hstep
      split at hstep
      · rename_i hnone
        cases hstep
        refine h.moved howned (fun _ _ => id) ⟨[], ?_, (List.append_nil _).symm⟩ rfl rfl rfl
        simp only [Log.pending, hnone, List.nil_append, List.take_append_drop]
      · cases hstep
    | putBulk =>
      cases hstep
      exact h.moved howned (fun _ _ => id) ⟨s.pool.draining, rfl, rfl⟩ rfl rfl rfl

theorem inv_run (cfg : LogConfig) {s : Log T} (h : s.Inv) (es : List (LogEvent T)) :
    (s.run cfg es).Inv := by
  induction es generalizing s with
  | nil => exact h
  | cons e es ih => exact ih (inv_step cfg h e)

/-- **The log.**  In every run of any threads, from any memory in the pool: no record
is longer than its buffer, the file has the records of the calls that enqueued one, in
order, and each of them is what is wanted just if its call is clean. -/
theorem records_exact_iff (cfg : LogConfig) (content : Buffer → Mem UInt8)
    (es : List (LogEvent T)) :
    let s := Log.run cfg (.start content) es
    (∀ b ∈ s.pending, storedLength (s.content b) ≤ maxLen) ∧
      s.enqueued.length = s.file.length + s.pending.length ∧
      List.Forall₂ (fun bytes c => bytes.length ≤ maxLen ∧ (bytes = c.wanted ↔ c.Clean)) s.file
        (s.enqueued.take s.file.length) := by
  intro s
  have hinv : s.Inv := inv_run cfg (inv_start content) es
  refine ⟨hinv.fits, ?_, ?_⟩
  · have hlen := hinv.records.length_eq
    rw [List.length_append, List.length_map] at hlen
    exact hlen.symm
  · have hdone := List.forall₂_take s.file.length hinv.records
    rw [List.take_left] at hdone
    refine hdone.imp ?_
    rintro bytes c ⟨stale, rfl⟩
    refine ⟨?_, fwriteRecord_iff stale c⟩
    rw [fwriteRecord, slice_length]
    exact storedLength_le stale c

end log

/-! A message of 6200 bytes on an empty log. -/

theorem longText_fits : (List.replicate 6200 (120 : UInt8)).length < 2 ^ 31 := by
  rw [List.length_replicate]
  decide

def longCall : Call := ⟨.info, some ⟨12, 345⟩, .text (List.replicate 6200 120) longText_fits⟩

def debugLog : LogConfig := ⟨Thread.AppConfig.small .none 40 1 [], .debug, false⟩

def longEvents : List (LogEvent Unit) :=
  [.message () longCall (some ⟨0, by decide⟩), .enqueue (), .dequeueBurst, .putBulk]

theorem longCall_not_clean : ¬ longCall.Clean := by
  have hval : maxLen = 6142 := rfl
  have hhead : longCall.head.length ≤ 100 := (prefixText_length _ _).2
  have hbytes : longCall.message.bytes = List.replicate 6200 120 := rfl
  rintro ⟨-, hroom | hroom⟩
  · rw [Call.line, hbytes, List.length_append, List.length_replicate] at hroom
    omega
  · rw [Call.line, hbytes, List.getElem?_append_right (by omega),
      List.getElem?_replicate_of_lt (by omega)] at hroom
    exact absurd hroom (by decide)

theorem longEvents_run :
    let s := Log.run debugLog (.start fun _ _ => 0) longEvents
    s.enqueued = [longCall] ∧ s.file = [fwriteRecord (logMessage (fun _ => 0) longCall)] := by
  have hlevel : longCall.level = .info := rfl
  have hcurrent : debugLog.currentLevel = .debug := rfl
  simp [Log.run, longEvents, Log.step, LogEvent.pool, logStep, Log.start, Pool.fresh, Pool.get,
    Pool.enqueue, Pool.dequeueBurst, Pool.putBulk, Pool.setProducer, Log.effect, Log.say,
    ringCapacity, LOG_RING_SIZE, LogLevel.toNat, hlevel, hcurrent, LOG_BURST_COUNT]

theorem records_nul_at_capacity :
    let s := Log.run debugLog (.start fun _ _ => 0) longEvents
    s.enqueued = [longCall] ∧ ∃ bytes, s.file = [bytes] ∧ bytes ≠ longCall.wanted := by
  obtain ⟨henqueued, hfile⟩ := longEvents_run
  refine ⟨henqueued, _, hfile, fun h => ?_⟩
  exact longCall_not_clean ((fwriteRecord_iff _ longCall).mp h)

end Rtdk.LogRecord
