import Rtdk.LogRecord
import Rtdk.Runs

/-! The log files of RATT and LTTT (`ratt/log.c`, `launch-time/log.c`).

Any thread may log: it looks whether logging is on, takes a buffer of the pool, formats its
line, and enqueues it. The main thread writes the rings out in `log_flush`, which it calls
all the time, may open the file anew, and ends with `log_close`. `log_close` switches logging
off before it calls `log_flush`, which then writes nothing: what is in the rings is lost
(`log_close_loses`). -/

namespace Rtdk.ToolLog
open Rtdk.Memory Rtdk.CString Rtdk.Snprintf Rtdk.MessagePool Rtdk.Runs
open Rtdk.LogRecord (Timespec Text)

def LOG_RING_SIZE : Nat := 2048
def LOG_BUFFER_POOL_COUNT : Nat := 4 * 1024
def LOG_BUFFER_SIZE : Nat := 2048
def LOG_BURST_COUNT : Nat := 256

abbrev Buffer := Fin LOG_BUFFER_POOL_COUNT

/-! ## Lines -/

/-- A call of `log_message`. `time` is what `clock_gettime` stores, if it does not fail,
and `message` what becomes of the format. -/
structure Call where
  time : Option Timespec
  message : Text

/-- `"[%8ld.%9ld]: "`. -/
def prefixText (time : Timespec) : CStr :=
  lit "[" ++ padded 8 (signed time.sec.toInt) ++ lit "." ++ padded 9 (signed time.nsec.toInt) ++
    lit "]: "

theorem prefixText_length (time : Timespec) :
    0 < (prefixText time).length ∧ (prefixText time).length ≤ 100 := by
  have hsec := signed_length time.sec
  have hnsec := signed_length time.nsec
  have hopen : (lit "[").length = 1 := by decide
  have hdot : (lit ".").length = 1 := by decide
  have hclose : (lit "]: ").length = 3 := by decide
  simp only [prefixText, List.length_append, padded_length, hopen, hdot, hclose]
  omega

theorem prefixText_noNul (time : Timespec) : 0 ∉ prefixText time := by
  simp only [prefixText, List.mem_append, not_or]
  exact ⟨⟨⟨⟨by decide, padded_noNul 8 (signed_noNul _)⟩, by decide⟩,
    padded_noNul 9 (signed_noNul _)⟩, by decide⟩

def Call.head (c : Call) : CStr := prefixText (c.time.getD ⟨0, 0⟩)

theorem Call.head_fits (c : Call) : c.head.length < 2 ^ 31 :=
  Nat.lt_of_le_of_lt (prefixText_length _).2 (by decide)

/-- What `log_message` leaves in a buffer that it enqueues. -/
def logMessage (buffer : Mem UInt8) (c : Call) : Mem UInt8 :=
  let len := LOG_BUFFER_SIZE - 1
  let head := Formatted.text c.head c.head_fits
  let data := snprintf (write buffer 0 [0]) 0 len head
  let written := head.ret.toInt
  let (p, len) := if 0 < written ∧ written < len then (written.toNat, len - written.toNat)
    else (0, len)
  snprintf data p len c.message.formatted

/-- What `"%s"` prints of a buffer. -/
def record (buffer : Mem UInt8) : CStr := ofBytes (slice buffer 0 LOG_BUFFER_SIZE)

/-- The line of a call, as far as there is room for it. -/
def Call.line (c : Call) : CStr := (c.head ++ c.message.bytes).take (LOG_BUFFER_SIZE - 2)

theorem Call.line_length_le (c : Call) : c.line.length ≤ LOG_BUFFER_SIZE - 2 := by
  rw [Call.line, List.length_take]
  exact Nat.min_le_left _ _

theorem Call.line_noNul (c : Call) : 0 ∉ c.line := fun h => by
  rcases List.mem_append.mp (List.mem_of_mem_take h) with h | h
  · exact prefixText_noNul _ h
  · exact c.message.noNul h

/-- A buffer holds the line of its call, whatever was in it before. -/
theorem record_logMessage (buffer : Mem UInt8) (c : Call) :
    record (logMessage buffer c) = c.line := by
  obtain ⟨hpos, hshort⟩ : 0 < c.head.length ∧ c.head.length ≤ 100 := prefixText_length _
  have hsize : LOG_BUFFER_SIZE = 2048 := rfl
  have hret : (Formatted.text c.head c.head_fits).ret.toInt = c.head.length :=
    Formatted.ret_text c.head_fits
  generalize hdata : snprintf (write buffer 0 [0]) 0 (LOG_BUFFER_SIZE - 1)
    (.text c.head c.head_fits) = data
  have hmessage : logMessage buffer c = snprintf data c.head.length
      (LOG_BUFFER_SIZE - 1 - c.head.length) c.message.formatted := by
    simp only [logMessage, hret, hdata]
    rw [if_pos (by omega), Int.toNat_natCast]
  have hhead : slice data 0 c.head.length = c.head := by
    have h := (snprintf_text (write buffer 0 [0]) 0 c.head_fits
      (by omega : 0 < LOG_BUFFER_SIZE - 1)).1
    rwa [Nat.min_eq_left (by omega), List.take_of_length_le (by omega), hdata] at h
  obtain ⟨hbytes, hnul⟩ := snprintf_text data c.head.length c.message.fits
    (by omega : 0 < LOG_BUFFER_SIZE - 1 - c.head.length)
  have hroom : LOG_BUFFER_SIZE - 1 - c.head.length - 1 = LOG_BUFFER_SIZE - 2 - c.head.length := by
    omega
  rw [hroom] at hbytes hnul
  have hlength : c.line.length =
      c.head.length + min c.message.bytes.length (LOG_BUFFER_SIZE - 2 - c.head.length) := by
    rw [Call.line, List.length_take, List.length_append]
    omega
  have hkept : slice (logMessage buffer c) 0 c.head.length = c.head := by
    refine Eq.trans ?_ hhead
    rw [hmessage]
    exact slice_congr fun i hi => snprintf_outside _ _ _ _ _ (Or.inl (by omega))
  refine ofBytes_slice ?_ ?_ c.line_noNul ?_
  · rw [hlength, slice_add, hkept, Nat.zero_add, hmessage, Text.formatted, hbytes, Call.line,
      List.take_append, List.take_of_length_le (by omega : c.head.length ≤ LOG_BUFFER_SIZE - 2)]
  · rw [hlength, Nat.zero_add, hmessage]
    exact hnul
  · exact Nat.lt_of_le_of_lt c.line_length_le (by omega)

/-! ## The log at work -/

/-- What differs: RATT may log deltas, and LTTT looks whether the file is open. -/
structure Tool where
  deltasEnabled : Bool
  deltaRingSize : Nat
  checksFd : Bool

def Ratt.tool (deltasEnabled : Bool) (deltaRingSize : Nat) : Tool :=
  ⟨deltasEnabled, deltaRingSize, false⟩

def Lttt.tool : Tool := ⟨false, 0, true⟩

/-- What is written for a record, `"%s\n"`, and for a burst of deltas, `"Deltas(%d):\n"` with
`"\t%" PRIu64 "\n"` for each. -/
inductive Block
  | line (text : CStr)
  | deltas (ds : List UInt64)

def Block.lines : Block → List CStr
  | .line text => [text]
  | .deltas _ => []

def Block.values : Block → List UInt64
  | .line _ => []
  | .deltas ds => ds

/-- The call of a thread that has found logging on. -/
inductive Calling
  | idle
  | message (c : Call)
  | delta (d : UInt64)

def Calling.calls : Calling → List Call
  | .message c => [c]
  | .idle | .delta _ => []

/-- Who has called `log_flush`. -/
inductive Caller
  | keyboardLoop
  | logClose
  deriving DecidableEq

/-- Where the main thread is: in the loop of the keyboard, in one of the two loops of
`log_flush`, in `log_close` behind its call of `log_flush`, or behind `log_close`. -/
inductive Main
  | polling
  | logs (caller : Caller)
  | deltas (caller : Caller)
  | freeing
  | closed
  deriving DecidableEq

/-- Where `log_flush` returns to. -/
def Caller.back : Caller → Main
  | .keyboardLoop => .polling
  | .logClose => .freeing

/-- `log_info` and `log_enabled`, with the contents of the buffers and the calls of the
threads in `T`. `file` is what the open file holds, and `old` what has been written to files
opened before. `taken` are the lines taken from the ring, each with whether it was written;
`enqueued` and `deltas` are what went into the rings. -/
structure LogInfo (T : Type) where
  logEnabled : Bool
  pool : Pool T LOG_BUFFER_POOL_COUNT
  content : Buffer → Mem UInt8
  calling : T → Calling
  deltaRing : List UInt64
  main : Main
  file : Option (List Block)
  old : List Block
  taken : List (CStr × Bool)
  enqueued : List Call
  deltas : List UInt64

/-- The steps of the threads: `message` and `delta` begin a call, `get`, `enqueue`, `put` and
`enqueueDelta` go on with it. Those from `flush` on are steps of the main thread: `flush` and
`close` begin calls, a `turn` is one of a loop of `log_flush`, and `free` ends `log_close`. -/
inductive LogEvent (T : Type)
  | message (t : T) (c : Call)
  | get (t : T) (b : Option Buffer)
  | enqueue (t : T)
  | put (t : T)
  | delta (t : T) (d : UInt64)
  | enqueueDelta (t : T)
  | flush
  | turn
  | reopen (opened : Bool)
  | close
  | free

/-- A ring or a pool is used behind its end, or a file that is not open. -/
inductive Fault
  | freed
  | noFile
  deriving DecidableEq

section model
variable {T : Type} [DecidableEq T] (tool : Tool)

def LogInfo.setCalling (s : LogInfo T) (t : T) (x : Calling) : LogInfo T :=
  { s with calling := Function.update s.calling t x }

/-- `log_message` up to the look at `log_enabled`. -/
def message (s : LogInfo T) (t : T) (c : Call) : LogInfo T :=
  match s.calling t with
  | .idle => if s.logEnabled then s.setCalling t (.message c) else s
  | .message _ | .delta _ => s

/-- `rte_mempool_get` of `log_message`, and the line: some free buffer, or none if it fails. -/
def get (s : LogInfo T) (t : T) (b : Option Buffer) : Except Fault (LogInfo T) :=
  match s.calling t, s.pool.producer t with
  | .message c, .idle =>
    if s.main = .closed then .error .freed
    else
      match b with
      | none => .ok (s.setCalling t .idle)
      | some b =>
        match s.pool.get t (some b) with
        | none => .ok s
        | some pool =>
          .ok { s with
            pool := pool
            content := Function.update s.content b (logMessage (s.content b) c) }
  | _, _ => .ok s

/-- The enqueue of `log_message`. -/
def enqueue (s : LogInfo T) (t : T) : Except Fault (LogInfo T) :=
  match s.pool.enqueue LOG_RING_SIZE .returning t with
  | none => .ok s
  | some pool =>
    if s.main = .closed then .error .freed
    else if s.pool.ring.length < ringCapacity LOG_RING_SIZE then
      .ok ({ s with pool := pool, enqueued := s.enqueued ++ (s.calling t).calls }.setCalling t
        .idle)
    else .ok { s with pool := pool }

/-- The end of `log_message` with a full ring. -/
def put (s : LogInfo T) (t : T) : Except Fault (LogInfo T) :=
  match s.pool.put t with
  | none => .ok s
  | some pool =>
    if s.main = .closed then .error .freed
    else .ok ({ s with pool := pool }.setCalling t .idle)

/-- `log_delta` up to the looks at its two flags. -/
def delta (s : LogInfo T) (t : T) (d : UInt64) : LogInfo T :=
  match s.calling t with
  | .idle => if s.logEnabled && tool.deltasEnabled then s.setCalling t (.delta d) else s
  | .message _ | .delta _ => s

/-- The enqueue of `log_delta`. -/
def enqueueDelta (s : LogInfo T) (t : T) : Except Fault (LogInfo T) :=
  match s.calling t with
  | .delta d =>
    if s.main = .closed then .error .freed
    else if s.deltaRing.length < ringCapacity tool.deltaRingSize then
      .ok ({ s with deltaRing := s.deltaRing ++ [d], deltas := s.deltas ++ [d] }.setCalling t
        .idle)
    else .ok (s.setCalling t .idle)
  | .idle | .message _ => .ok s

def fprintf (s : LogInfo T) (blocks : List Block) : Except Fault (LogInfo T) :=
  match s.file with
  | some file => .ok { s with file := some (file ++ blocks) }
  | none => .error .noFile

/-- The loop of `flush_logs` over a burst, with the look at `fd` where there is one. -/
def printLines (s : LogInfo T) (texts : List CStr) : Except Fault (LogInfo T) :=
  if tool.checksFd && s.file.isNone then
    .ok { s with taken := s.taken ++ texts.map fun text => (text, false) }
  else
    (fprintf s (texts.map .line)).map fun s =>
      { s with taken := s.taken ++ texts.map fun text => (text, true) }

/-- `flush_deltas` up to its loop. -/
def enterDeltas (s : LogInfo T) (caller : Caller) : LogInfo T :=
  { s with main := if s.logEnabled && tool.deltasEnabled then .deltas caller else caller.back }

/-- `log_flush` up to the loop of `flush_logs`. -/
def logFlush (s : LogInfo T) (caller : Caller) : LogInfo T :=
  if s.logEnabled then { s with main := .logs caller } else enterDeltas tool s caller

/-- A turn of the loop in `flush_logs`, which writes a burst or dequeues one. -/
def flushLogs (s : LogInfo T) (caller : Caller) : Except Fault (LogInfo T) :=
  if s.pool.draining ≠ [] then
    (printLines tool s (s.pool.draining.map fun b => record (s.content b))).map fun s =>
      { s with pool := s.pool.putBulk }
  else if s.pool.ring = [] then .ok (enterDeltas tool s caller)
  else .ok { s with pool := (s.pool.dequeueBurst LOG_BURST_COUNT).getD s.pool }

/-- A turn of the loop in `flush_deltas`. -/
def flushDeltas (s : LogInfo T) (caller : Caller) : Except Fault (LogInfo T) :=
  if s.deltaRing = [] then .ok { s with main := caller.back }
  else
    (fprintf s [.deltas (s.deltaRing.take LOG_BURST_COUNT)]).map fun s =>
      { s with deltaRing := s.deltaRing.drop LOG_BURST_COUNT }

def turn (s : LogInfo T) : Except Fault (LogInfo T) :=
  match s.main with
  | .logs caller => flushLogs tool s caller
  | .deltas caller => flushDeltas s caller
  | .polling | .freeing | .closed => .ok s

/-- `log_open` in the loop of the keyboard. -/
def logOpen (s : LogInfo T) (opened : Bool) : LogInfo T :=
  { s with old := s.old ++ s.file.getD [], file := if opened then some [] else none }

/-- `log_close` with its call of `log_flush`. -/
def logClose (s : LogInfo T) : LogInfo T :=
  if s.logEnabled then logFlush tool { s with logEnabled := false } .logClose
  else { s with main := .closed }

/-- The rest of `log_close`, which frees the rings and the pool and closes the file. -/
def logFree (s : LogInfo T) : LogInfo T :=
  { s with main := .closed, old := s.old ++ s.file.getD [], file := none }

/-- A step that is not possible in a state is not taken. -/
def step (s : LogInfo T) : LogEvent T → Except Fault (LogInfo T)
  | .message t c => .ok (message s t c)
  | .get t b => get s t b
  | .enqueue t => enqueue s t
  | .put t => put s t
  | .delta t d => .ok (delta tool s t d)
  | .enqueueDelta t => enqueueDelta tool s t
  | .flush => .ok (if s.main = .polling then logFlush tool s .keyboardLoop else s)
  | .turn => turn tool s
  | .reopen opened => .ok (if s.main = .polling then logOpen s opened else s)
  | .close => .ok (if s.main = .polling then logClose tool s else s)
  | .free => .ok (if s.main = .freeing then logFree s else s)

/-- The log after `log_init`, whatever the memory of the pool holds. -/
def start (content : Buffer → Mem UInt8) : LogInfo T where
  logEnabled := true
  pool := .fresh T _
  content := content
  calling _ := .idle
  deltaRing := []
  main := .polling
  file := some []
  old := []
  taken := []
  enqueued := []
  deltas := []

def run (s : LogInfo T) (es : List (LogEvent T)) : Except Fault (LogInfo T) :=
  es.foldlM (step tool) s

end model

section log
variable {T : Type} {tool : Tool}

/-- All blocks written. -/
def LogInfo.written (s : LogInfo T) : List Block := s.old ++ s.file.getD []

/-- The buffers the main thread has taken from the ring and those in the ring, oldest first. -/
def LogInfo.pending (s : LogInfo T) : List Buffer := s.pool.draining ++ s.pool.ring

/-- The lines and the deltas in the files. -/
def LogInfo.lines (s : LogInfo T) : List CStr := s.written.flatMap Block.lines

def LogInfo.values (s : LogInfo T) : List UInt64 := s.written.flatMap Block.values

/-- The lines that were not yet taken. -/
def LogInfo.waiting (s : LogInfo T) : List CStr := s.pending.map fun b => record (s.content b)

/-- Where the main thread is and what goes with it. -/
structure Phase (s : LogInfo T) : Prop where
  burst : (∀ caller, s.main ≠ .logs caller) → s.pool.draining = []
  enabled : s.logEnabled = true ↔ s.main ≠ .freeing ∧ s.main ≠ .closed
  caller : ∀ caller, s.main = .logs caller ∨ s.main = .deltas caller → caller = .keyboardLoop

/-- What the threads are doing, and the buffers they have. -/
structure Threads (tool : Tool) (producer : T → Producer LOG_BUFFER_POOL_COUNT)
    (content : Buffer → Mem UInt8) (calling : T → Calling) : Prop where
  filled : ∀ t b, producer t = .filling b →
    ∃ c, calling t = .message c ∧ record (content b) = c.line
  resting : ∀ t, (∀ c, calling t ≠ .message c) → producer t = .idle
  off : tool.deltasEnabled = false → ∀ t d, calling t ≠ .delta d

/-- What holds in every state. -/
structure Inv (tool : Tool) [Fintype T] [DecidableEq T] (s : LogInfo T) : Prop where
  owned : s.pool.owned = Finset.univ.val
  threads : Threads tool s.pool.producer s.content s.calling
  lines : s.taken.map Prod.fst ++ s.waiting = s.enqueued.map Call.line
  written : s.lines = (s.taken.filter Prod.snd).map Prod.fst
  checked : tool.checksFd = false → ∀ x ∈ s.taken, x.2 = true
  values : s.values ++ s.deltaRing = s.deltas
  off : tool.deltasEnabled = false → s.deltas = []
  phase : Phase s

theorem lines_map_line (texts : List CStr) :
    (texts.map Block.line).flatMap Block.lines = texts := by
  induction texts with
  | nil => rfl
  | cons text texts ih => exact congrArg (text :: ·) ih

theorem values_map_line (texts : List CStr) :
    (texts.map Block.line).flatMap Block.values = [] := by
  induction texts with
  | nil => rfl
  | cons text texts ih => exact ih

variable [DecidableEq T]

/-! ### Steps of the threads that log -/

/-- What a step of the thread `t` can do. -/
inductive Beside (tool : Tool) (s : LogInfo T) (t : T) : LogInfo T → Prop
  | same : Beside tool s t s
  | begins (x : Calling) (hidle : s.calling t = .idle) (hon : s.logEnabled = true)
      (hdelta : ∀ d, x = .delta d → tool.deltasEnabled = true) :
      Beside tool s t (s.setCalling t x)
  | ends (hopen : s.main ≠ .closed)
      (hidle : s.pool.producer t = .idle ∨ ∃ d, s.calling t = .delta d) :
      Beside tool s t (s.setCalling t .idle)
  | fills (c : Call) (b : Buffer) (pool : Pool T LOG_BUFFER_POOL_COUNT) (hopen : s.main ≠ .closed)
      (hcalling : s.calling t = .message c) (hget : s.pool.get t (some b) = some pool) :
      Beside tool s t { s with
        pool := pool
        content := Function.update s.content b (logMessage (s.content b) c) }
  | enqueues (b : Buffer) (pool : Pool T LOG_BUFFER_POOL_COUNT) (hopen : s.main ≠ .closed)
      (hfilling : s.pool.producer t = .filling b)
      (hroom : s.pool.ring.length < ringCapacity LOG_RING_SIZE)
      (henq : s.pool.enqueue LOG_RING_SIZE .returning t = some pool) :
      Beside tool s t ({ s with
        pool := pool, enqueued := s.enqueued ++ (s.calling t).calls }.setCalling t .idle)
  | full (b : Buffer) (pool : Pool T LOG_BUFFER_POOL_COUNT) (hopen : s.main ≠ .closed)
      (hfilling : s.pool.producer t = .filling b)
      (hfull : ¬ s.pool.ring.length < ringCapacity LOG_RING_SIZE)
      (henq : s.pool.enqueue LOG_RING_SIZE .returning t = some pool) :
      Beside tool s t { s with pool := pool }
  | puts (b : Buffer) (pool : Pool T LOG_BUFFER_POOL_COUNT) (hopen : s.main ≠ .closed)
      (hreturning : s.pool.producer t = .returning b) (hput : s.pool.put t = some pool) :
      Beside tool s t ({ s with pool := pool }.setCalling t .idle)
  | delta (d : UInt64) (hopen : s.main ≠ .closed) (hcalling : s.calling t = .delta d) :
      Beside tool s t ({ s with
        deltaRing := s.deltaRing ++ [d], deltas := s.deltas ++ [d] }.setCalling t .idle)

def LogEvent.isMain : LogEvent T → Bool
  | .message .. | .get .. | .enqueue _ | .put _ | .delta .. | .enqueueDelta _ => false
  | .flush | .turn | .reopen _ | .close | .free => true

section steps
variable {s s' : LogInfo T} {t : T}

theorem message_beside (c : Call) : Beside tool s t (message s t c) := by
  unfold ToolLog.message
  split
  · rename_i hidle
    split
    · rename_i hon
      exact .begins _ hidle hon fun d h => by cases h
    · exact .same
  · exact .same
  · exact .same

theorem get_beside {b : Option Buffer} (h : get s t b = .ok s') : Beside tool s t s' := by
  unfold ToolLog.get at h
  split at h
  · rename_i c hcalling hidle
    split at h
    · cases h
    · rename_i hopen
      split at h
      · cases h
        exact .ends hopen (.inl hidle)
      · split at h
        · cases h
          exact .same
        · rename_i pool hget
          cases h
          exact .fills c _ pool hopen hcalling hget
  · cases h
    exact .same

/-- Who can enqueue has filled a buffer. -/
theorem filling_of_enqueue {pool pool' : Pool T LOG_BUFFER_POOL_COUNT}
    {failed : Buffer → Producer LOG_BUFFER_POOL_COUNT} {size : Nat}
    (h : pool.enqueue size failed t = some pool') : ∃ b, pool.producer t = .filling b := by
  unfold Pool.enqueue at h
  split at h
  · exact ⟨_, ‹_›⟩
  · cases h

/-- Who can put a buffer back has one to return. -/
theorem returning_of_put {pool pool' : Pool T LOG_BUFFER_POOL_COUNT}
    (h : pool.put t = some pool') : ∃ b, pool.producer t = .returning b := by
  unfold Pool.put at h
  split at h
  · exact ⟨_, ‹_›⟩
  · cases h

theorem enqueue_beside (h : enqueue s t = .ok s') : Beside tool s t s' := by
  unfold ToolLog.enqueue at h
  split at h
  · cases h
    exact .same
  · rename_i pool henq
    obtain ⟨b, hfilling⟩ := filling_of_enqueue henq
    split at h
    · cases h
    · rename_i hopen
      split at h
      · rename_i hroom
        cases h
        exact .enqueues b pool hopen hfilling hroom henq
      · rename_i hfull
        cases h
        exact .full b pool hopen hfilling hfull henq

theorem put_beside (h : put s t = .ok s') : Beside tool s t s' := by
  unfold ToolLog.put at h
  split at h
  · cases h
    exact .same
  · rename_i pool hput
    obtain ⟨b, hreturning⟩ := returning_of_put hput
    split at h
    · cases h
    · rename_i hopen
      cases h
      exact .puts b pool hopen hreturning hput

theorem delta_beside (d : UInt64) : Beside tool s t (delta tool s t d) := by
  unfold ToolLog.delta
  split
  · rename_i hidle
    split
    · rename_i hon
      obtain ⟨hlog, hdeltas⟩ := Bool.and_eq_true_iff.mp hon
      exact .begins _ hidle hlog fun _ _ => hdeltas
    · exact .same
  · exact .same
  · exact .same

theorem enqueueDelta_beside (h : enqueueDelta tool s t = .ok s') : Beside tool s t s' := by
  unfold ToolLog.enqueueDelta at h
  split at h
  · rename_i d hcalling
    split at h
    · cases h
    · rename_i hopen
      split at h
      · cases h
        exact .delta d hopen hcalling
      · cases h
        exact .ends hopen (.inr ⟨d, hcalling⟩)
  · cases h
    exact .same
  · cases h
    exact .same

end steps

theorem beside {s s' : LogInfo T} {e : LogEvent T} (he : e.isMain = false)
    (hstep : step tool s e = .ok s') : ∃ t, Beside tool s t s' := by
  cases e with
  | message t c =>
    cases hstep
    exact ⟨t, message_beside c⟩
  | get t b => exact ⟨t, get_beside hstep⟩
  | enqueue t => exact ⟨t, enqueue_beside hstep⟩
  | put t => exact ⟨t, put_beside hstep⟩
  | delta t d =>
    cases hstep
    exact ⟨t, delta_beside d⟩
  | enqueueDelta t => exact ⟨t, enqueueDelta_beside hstep⟩
  | flush => cases he
  | turn => cases he
  | reopen opened => cases he
  | close => cases he
  | free => cases he

/-- What such a step leaves as it is, and what may grow. -/
structure Aside (s s' : LogInfo T) : Prop where
  logEnabled : s'.logEnabled = s.logEnabled
  file : s'.file = s.file
  old : s'.old = s.old
  taken : s'.taken = s.taken
  main : s'.main = s.main
  enqueued : s.enqueued <+: s'.enqueued
  deltas : s.deltas <+: s'.deltas
  draining : s'.pool.draining = s.pool.draining
  deltaRing : s'.deltaRing.length ≤ s.deltaRing.length + 1
  rings : 2 * s'.pool.ring.length + s'.deltaRing.length ≤
    2 * s.pool.ring.length + s.deltaRing.length + 2

omit [DecidableEq T] in
/-- Only buffers outside the ring move. -/
theorem Aside.of_ring (s : LogInfo T) (pool : Pool T LOG_BUFFER_POOL_COUNT)
    (content : Buffer → Mem UInt8) (calling : T → Calling)
    (hdraining : pool.draining = s.pool.draining) (hring : pool.ring = s.pool.ring) :
    Aside s { s with pool := pool, content := content, calling := calling } := by
  refine ⟨rfl, rfl, rfl, rfl, rfl, List.prefix_refl _, List.prefix_refl _, hdraining,
    Nat.le_succ _, ?_⟩
  show 2 * pool.ring.length + s.deltaRing.length ≤ _
  rw [hring]
  exact Nat.le_add_right _ 2

theorem Beside.aside {s s' : LogInfo T} {t : T} (h : Beside tool s t s') : Aside s s' := by
  cases h with
  | same => exact Aside.of_ring s s.pool s.content s.calling rfl rfl
  | begins x => exact Aside.of_ring s s.pool s.content _ rfl rfl
  | ends => exact Aside.of_ring s s.pool s.content _ rfl rfl
  | fills c b pool hopen hcalling hget =>
    simp only [Pool.get] at hget
    split at hget
    · cases hget
      exact Aside.of_ring s _ _ s.calling rfl rfl
    · cases hget
  | enqueues b pool hopen hfilling hroom henq =>
    simp only [Pool.enqueue, hfilling, if_pos hroom] at henq
    cases henq
    refine ⟨rfl, rfl, rfl, rfl, rfl, List.prefix_append _ _, List.prefix_refl _, rfl,
      Nat.le_succ _, ?_⟩
    show 2 * (s.pool.ring ++ [_]).length + s.deltaRing.length ≤ _
    rw [List.length_append, List.length_singleton]
    omega
  | full b pool hopen hfilling hfull henq =>
    simp only [Pool.enqueue, hfilling, if_neg hfull] at henq
    cases henq
    exact Aside.of_ring s _ s.content s.calling rfl rfl
  | puts b pool hopen hreturning hput =>
    simp only [Pool.put, hreturning] at hput
    cases hput
    exact Aside.of_ring s _ s.content _ rfl rfl
  | delta d =>
    have hlength : (s.deltaRing ++ [d]).length = s.deltaRing.length + 1 := List.length_append
    refine ⟨rfl, rfl, rfl, rfl, rfl, List.prefix_refl _, List.prefix_append _ _, rfl,
      Nat.le_of_eq hlength, ?_⟩
    show 2 * s.pool.ring.length + (s.deltaRing ++ [d]).length ≤ _
    omega

omit [DecidableEq T] in
/-- The main thread does not notice. -/
theorem Phase.aside {s s' : LogInfo T} (h : Phase s) (ha : Aside s s') : Phase s' := by
  refine ⟨fun hlogs => ?_, ?_, fun caller hcaller => h.caller caller ?_⟩
  · rw [ha.draining]
    exact h.burst fun caller => ha.main ▸ hlogs caller
  · rw [ha.logEnabled, ha.main]
    exact h.enabled
  · rwa [ha.main] at hcaller

/-- A thread goes on, with no effect on the buffers of the others. -/
theorem Threads.moved {producer producer' : T → Producer LOG_BUFFER_POOL_COUNT}
    {content content' : Buffer → Mem UInt8} {calling calling' : T → Calling}
    (h : Threads tool producer content calling) (t : T)
    (hothers : ∀ u, u ≠ t → producer' u = producer u ∧ calling' u = calling u)
    (hcontent : ∀ u b, u ≠ t → producer u = .filling b → content' b = content b)
    (hfilled : ∀ b, producer' t = .filling b →
      ∃ c, calling' t = .message c ∧ record (content' b) = c.line)
    (hresting : (∀ c, calling' t ≠ .message c) → producer' t = .idle)
    (hoff : tool.deltasEnabled = false → ∀ d, calling' t ≠ .delta d) :
    Threads tool producer' content' calling' := by
  refine ⟨fun u b hu => ?_, fun u hu => ?_, fun hdeltas u d hu => ?_⟩
  · by_cases hut : u = t
    · exact hut ▸ hfilled b (hut ▸ hu)
    · obtain ⟨hproducer, hcalling⟩ := hothers u hut
      rw [hproducer] at hu
      rw [hcalling, hcontent u b hut hu]
      exact h.filled u b hu
  · by_cases hut : u = t
    · exact hut ▸ hresting (hut ▸ hu)
    · obtain ⟨hproducer, hcalling⟩ := hothers u hut
      rw [hproducer]
      exact h.resting u fun c => hcalling ▸ hu c
  · by_cases hut : u = t
    · exact hoff hdeltas d (hut ▸ hu)
    · exact h.off hdeltas u d ((hothers u hut).2 ▸ hu)

/-- A thread without a buffer begins a call or ends one. -/
theorem Threads.called {producer : T → Producer LOG_BUFFER_POOL_COUNT}
    {content : Buffer → Mem UInt8} {calling : T → Calling}
    (h : Threads tool producer content calling) {t : T} (hrest : producer t = .idle) (x : Calling)
    (hoff : tool.deltasEnabled = false → ∀ d, x ≠ .delta d) :
    Threads tool producer content (Function.update calling t x) := by
  refine h.moved t (fun u hu => ⟨rfl, Function.update_of_ne hu ..⟩) (fun _ _ _ _ => rfl)
    (fun b hb => ?_) (fun _ => hrest) fun hdeltas d hd => ?_
  · rw [hrest] at hb
    cases hb
  · rw [Function.update_self] at hd
    exact hoff hdeltas d hd

/-- A thread gives its buffer away, and its call has ended. -/
theorem Threads.ended {producer : T → Producer LOG_BUFFER_POOL_COUNT}
    {content : Buffer → Mem UInt8} {calling : T → Calling}
    (h : Threads tool producer content calling) (t : T) :
    Threads tool (Function.update producer t .idle) content (Function.update calling t .idle) := by
  refine h.moved t (fun u hu => ⟨Function.update_of_ne hu .., Function.update_of_ne hu ..⟩)
    (fun _ _ _ _ => rfl) (fun b hb => ?_) (fun _ => Function.update_self ..) fun _ d hd => ?_
  · rw [Function.update_self] at hb
    cases hb
  · rw [Function.update_self] at hd
    cases hd

variable [Fintype T]

theorem inv_start (tool : Tool) (content : Buffer → Mem UInt8) :
    Inv tool (start content : LogInfo T) := by
  refine ⟨Pool.owned_fresh T _, ⟨fun t b h => ?_, fun _ _ => rfl, fun _ _ _ h => ?_⟩, rfl, rfl,
    fun _ x hx => ?_, rfl, fun _ => rfl, fun _ => rfl, ?_, fun caller h => ?_⟩
  · cases h
  · cases h
  · cases hx
  · exact iff_of_true rfl ⟨Main.noConfusion, Main.noConfusion⟩
  · rcases h with h | h <;> cases h

/-- A buffer that is free is nowhere else. -/
theorem Inv.free {s : LogInfo T} (h : Inv tool s) {b : Buffer} (hb : b ∈ s.pool.free) :
    b ∉ s.pending ∧ ∀ t, s.pool.producer t ≠ .filling b := by
  have hnodup : s.pool.owned.Nodup := h.owned ▸ Finset.univ.nodup
  have hplace (x : Place T) (hx : Place.free ≠ x) : b ∉ s.pool.ledger x :=
    Multiset.disjoint_left.mp (Ledger.disjoint_of_nodup hnodup hx) hb
  refine ⟨fun hmem => ?_, fun t ht => ?_⟩
  · rcases List.mem_append.mp hmem with hdrain | hring
    · exact hplace .draining (by simp) hdrain
    · exact hplace .ring (by simp) hring
  · refine hplace (.thread t) (by simp) ?_
    simp [Pool.ledger, ht, Producer.held]

theorem Inv.beside {s s' : LogInfo T} (h : Inv tool s) {t : T} (hstep : Beside tool s t s') :
    Inv tool s' := by
  have hphase := h.phase.aside hstep.aside
  cases hstep with
  | same => exact h
  | begins x hidle hon hdelta =>
    have hrest : s.pool.producer t = .idle := h.threads.resting t fun c hc => by
      rw [hidle] at hc
      cases hc
    refine ⟨h.owned, h.threads.called hrest x fun hoff d hd => ?_, h.lines, h.written, h.checked,
      h.values, h.off, hphase⟩
    rw [hdelta d hd] at hoff
    cases hoff
  | ends hopen hidle =>
    have hrest : s.pool.producer t = .idle := hidle.elim id fun ⟨d, hd⟩ =>
      h.threads.resting t fun c hc => by
        rw [hd] at hc
        cases hc
    exact ⟨h.owned, h.threads.called hrest .idle fun _ _ => Calling.noConfusion, h.lines,
      h.written, h.checked, h.values, h.off, hphase⟩
  | fills c b pool hopen hcalling hget =>
    have howned := Pool.owned_get hget
    simp only [Pool.get] at hget
    split at hget
    · rename_i hfree
      cases hget
      obtain ⟨hpending, hothers⟩ := h.free hfree.2
      refine ⟨howned.trans h.owned, h.threads.moved t
        (fun u hu => ⟨Function.update_of_ne hu .., rfl⟩) (fun u b' _ hu => ?_) (fun b' hb' => ?_)
        (fun hno => absurd hcalling (hno c)) (fun _ d hd => ?_), ?_, h.written, h.checked,
        h.values, h.off, hphase⟩
      · apply Function.update_of_ne
        rintro rfl
        exact hothers u hu
      · rw [Pool.setProducer_self] at hb'
        cases hb'
        refine ⟨c, hcalling, ?_⟩
        show record (Function.update s.content b _ b) = c.line
        rw [Function.update_self, record_logMessage]
      · rw [hcalling] at hd
        cases hd
      · have hkept : (s.pending.map fun b' =>
            record (Function.update s.content b (logMessage (s.content b) c) b')) = s.waiting := by
          refine List.map_congr_left fun b' hb' => congrArg record (Function.update_of_ne ?_ ..)
          rintro rfl
          exact hpending hb'
        exact (congrArg (s.taken.map Prod.fst ++ ·) hkept).trans h.lines
    · cases hget
  | enqueues b pool hopen hfilling hroom henq =>
    obtain ⟨b', -, hmoved⟩ := Pool.owned_enqueue henq
    have howned := (hmoved.resolve_right fun hfull => hfull.1 hroom).2
    simp only [Pool.enqueue, hfilling, if_pos hroom] at henq
    cases henq
    obtain ⟨c, hcalling, hrecord⟩ := h.threads.filled t b hfilling
    refine ⟨howned.trans h.owned, h.threads.ended t, ?_, h.written, h.checked, h.values, h.off,
      hphase⟩
    have hlines := h.lines
    show s.taken.map Prod.fst ++ (s.pool.draining ++ (s.pool.ring ++ [b])).map
      (fun b => record (s.content b)) = (s.enqueued ++ (s.calling t).calls).map Call.line
    rw [LogInfo.waiting, LogInfo.pending] at hlines
    rw [← List.append_assoc s.pool.draining, List.map_append, ← List.append_assoc, hlines,
      hcalling, List.map_append]
    exact congrArg (fun text => s.enqueued.map Call.line ++ [text]) hrecord
  | full b pool hopen hfilling hfull henq =>
    obtain ⟨b', -, hmoved⟩ := Pool.owned_enqueue henq
    have howned := (hmoved.resolve_left fun hroom => hfull hroom.1).2
    simp only [Pool.enqueue, hfilling, if_neg hfull] at henq
    cases henq
    obtain ⟨c, hcalling, -⟩ := h.threads.filled t b hfilling
    refine ⟨(add_right_cancel howned).trans h.owned, h.threads.moved t
      (fun u hu => ⟨Function.update_of_ne hu .., rfl⟩) (fun _ _ _ _ => rfl) (fun b'' hb'' => ?_)
      (fun hno => absurd hcalling (hno c)) (fun _ d hd => ?_), h.lines, h.written, h.checked,
      h.values, h.off, hphase⟩
    · rw [Pool.setProducer_self] at hb''
      cases hb''
    · rw [hcalling] at hd
      cases hd
  | puts b pool hopen hreturning hput =>
    have howned := Pool.owned_put hput
    simp only [Pool.put, hreturning] at hput
    cases hput
    exact ⟨howned.trans h.owned, h.threads.ended t, h.lines, h.written, h.checked, h.values, h.off,
      hphase⟩
  | delta d hopen hcalling =>
    have hon : tool.deltasEnabled ≠ false := fun hoff => h.threads.off hoff t d hcalling
    have hrest : s.pool.producer t = .idle := h.threads.resting t fun c hc => by
      rw [hcalling] at hc
      cases hc
    refine ⟨h.owned, h.threads.called hrest .idle fun _ _ => Calling.noConfusion, h.lines,
      h.written, h.checked, ?_, fun hoff => absurd hoff hon, hphase⟩
    show s.values ++ (s.deltaRing ++ [d]) = s.deltas ++ [d]
    rw [← List.append_assoc, h.values]

/-! ### Steps of the main thread -/

/-- The burst has been printed: `taken` goes to the lines taken, and `file` is the file
then. Where a file is open, the lines are in it. -/
structure Printed (tool : Tool) (s : LogInfo T) (burst : List CStr) (file : Option (List Block))
    (taken : List (CStr × Bool)) : Prop where
  texts : taken.map Prod.fst = burst
  checked : tool.checksFd = false → ∀ x ∈ taken, x.2 = true
  lines : (s.old ++ file.getD []).flatMap Block.lines =
    s.lines ++ (taken.filter Prod.snd).map Prod.fst
  values : (s.old ++ file.getD []).flatMap Block.values = s.values
  file : ∀ f, s.file = some f → file = some (f ++ burst.map .line) ∧ ∀ x ∈ taken, x.2 = true

omit [DecidableEq T] [Fintype T] in
theorem printLines_spec {s s' : LogInfo T} {texts : List CStr}
    (h : printLines tool s texts = .ok s') :
    ∃ file taken, s' = { s with file := file, taken := s.taken ++ taken } ∧
      Printed tool s texts file taken := by
  have hfst (v : Bool) : (texts.map fun text => (text, v)).map Prod.fst = texts := by
    rw [List.map_map]
    exact List.map_id _
  have hall (v : Bool) : ∀ x ∈ texts.map fun text => (text, v), x.2 = v := by
    intro x hx
    obtain ⟨text, -, rfl⟩ := List.mem_map.mp hx
    rfl
  unfold printLines at h
  split at h
  · rename_i hnone
    obtain ⟨hchecks, hfile⟩ := Bool.and_eq_true_iff.mp hnone
    cases h
    refine ⟨s.file, _, rfl, hfst false, fun hno => ?_, ?_, rfl, fun f hf => ?_⟩
    · rw [hchecks] at hno
      cases hno
    · rw [List.filter_eq_nil_iff.mpr fun x hx => by rw [hall false x hx]; exact Bool.false_ne_true]
      exact (List.append_nil _).symm
    · rw [hf] at hfile
      cases hfile
  · obtain ⟨s₁, hprint, rfl⟩ := map_ok_iff.mp h
    unfold fprintf at hprint
    split at hprint
    · rename_i file hfile
      cases hprint
      have hwritten : s.old ++ (some (file ++ texts.map Block.line)).getD [] =
          s.written ++ texts.map Block.line := by
        simp only [LogInfo.written, hfile, Option.getD_some, List.append_assoc]
      refine ⟨some (file ++ texts.map .line), _, rfl, hfst true, fun _ => hall true, ?_, ?_,
        fun f hf => ?_⟩
      · rw [List.filter_eq_self.mpr (hall true), hfst true, hwritten, List.flatMap_append,
          lines_map_line]
        rfl
      · rw [hwritten, List.flatMap_append, values_map_line, List.append_nil]
        rfl
      · rw [hfile] at hf
        cases hf
        exact ⟨rfl, hall true⟩
    · cases hprint

/-- What a turn in `log_flush` can do. -/
inductive Turned (tool : Tool) (s : LogInfo T) : LogInfo T → Prop
  | outside (h : (∀ caller, s.main ≠ .logs caller) ∧ ∀ caller, s.main ≠ .deltas caller) :
      Turned tool s s
  | wrote (caller : Caller) (file : Option (List Block)) (taken : List (CStr × Bool))
      (h : s.main = .logs caller) (hburst : s.pool.draining ≠ [])
      (hprinted : Printed tool s (s.pool.draining.map fun b => record (s.content b)) file taken) :
      Turned tool s
        { s with file := file, taken := s.taken ++ taken, pool := s.pool.putBulk }
  | empty (caller : Caller) (h : s.main = .logs caller) (hdrained : s.pool.draining = [])
      (hring : s.pool.ring = []) : Turned tool s (enterDeltas tool s caller)
  | burst (caller : Caller) (h : s.main = .logs caller) (hdrained : s.pool.draining = [])
      (hring : s.pool.ring ≠ []) {pool : Pool T LOG_BUFFER_POOL_COUNT}
      (hpool : s.pool.dequeueBurst LOG_BURST_COUNT = some pool) :
      Turned tool s { s with pool := pool }
  | done (caller : Caller) (h : s.main = .deltas caller) (hring : s.deltaRing = []) :
      Turned tool s { s with main := caller.back }
  | wroteDeltas (caller : Caller) (file : List Block) (h : s.main = .deltas caller)
      (hring : s.deltaRing ≠ []) (hfile : s.file = some file) :
      Turned tool s { s with
        file := some (file ++ [.deltas (s.deltaRing.take LOG_BURST_COUNT)])
        deltaRing := s.deltaRing.drop LOG_BURST_COUNT }

omit [DecidableEq T] [Fintype T] in
theorem turned {s s' : LogInfo T} (hstep : turn tool s = .ok s') : Turned tool s s' := by
  unfold turn at hstep
  split at hstep
  · rename_i caller hmain
    unfold flushLogs at hstep
    split at hstep
    · rename_i hburst
      obtain ⟨s₁, hwrite, rfl⟩ := map_ok_iff.mp hstep
      obtain ⟨file, taken, rfl, hprinted⟩ := printLines_spec hwrite
      exact .wrote caller file taken hmain hburst hprinted
    · rename_i hdrained
      rw [ne_eq, not_not] at hdrained
      split at hstep
      · rename_i hring
        cases hstep
        exact .empty caller hmain hdrained hring
      · rename_i hring
        cases hstep
        refine .burst caller hmain hdrained hring ?_
        simp only [Pool.dequeueBurst, if_pos hdrained, Option.getD_some]
  · rename_i caller hmain
    unfold flushDeltas at hstep
    split at hstep
    · rename_i hring
      cases hstep
      exact .done caller hmain hring
    · rename_i hring
      obtain ⟨s₁, hwrite, rfl⟩ := map_ok_iff.mp hstep
      unfold fprintf at hwrite
      split at hwrite
      · rename_i file hfile
        cases hwrite
        exact .wroteDeltas caller file hmain hring hfile
      · cases hwrite
  all_goals
    rename_i hmain
    cases hstep
    refine .outside ⟨fun caller => ?_, fun caller => ?_⟩ <;> rw [hmain] <;> exact Main.noConfusion

/-- What a step can do. -/
inductive Stepped (tool : Tool) (s : LogInfo T) (e : LogEvent T) : LogInfo T → Prop
  | same : Stepped tool s e s
  | beside {s' : LogInfo T} (t : T) (h : Beside tool s t s') : Stepped tool s e s'
  | turned {s' : LogInfo T} (h : Turned tool s s') : Stepped tool s e s'
  | flushed (hmain : s.main = .polling) : Stepped tool s e (logFlush tool s .keyboardLoop)
  | opened (opened : Bool) (he : e = .reopen opened) (hmain : s.main = .polling) :
      Stepped tool s e (logOpen s opened)
  | closed (hmain : s.main = .polling) : Stepped tool s e (logClose tool s)
  | freed (he : e = .free) (hmain : s.main = .freeing) : Stepped tool s e (logFree s)

omit [Fintype T] in
theorem stepped {s s' : LogInfo T} {e : LogEvent T} (hstep : step tool s e = .ok s') :
    Stepped tool s e s' := by
  cases hkind : e.isMain with
  | false =>
    obtain ⟨t, h⟩ := ToolLog.beside hkind hstep
    exact .beside t h
  | true =>
    cases e with
    | flush =>
      cases hstep
      split
      · exact .flushed ‹_›
      · exact .same
    | turn => exact .turned (ToolLog.turned hstep)
    | reopen opened =>
      cases hstep
      split
      · exact .opened opened rfl ‹_›
      · exact .same
    | close =>
      cases hstep
      split
      · exact .closed ‹_›
      · exact .same
    | free =>
      cases hstep
      split
      · exact .freed rfl ‹_›
      · exact .same
    | message t c => cases hkind
    | get t b => cases hkind
    | enqueue t => cases hkind
    | put t => cases hkind
    | delta t d => cases hkind
    | enqueueDelta t => cases hkind

omit [DecidableEq T] [Fintype T] in
/-- `log_flush` behind the loop of `flush_logs`. -/
theorem phase_entered {s : LogInfo T} (hdrained : s.pool.draining = []) (hon : s.logEnabled = true) :
    Phase (enterDeltas tool s .keyboardLoop) := by
  refine ⟨fun _ => hdrained, iff_of_true hon ?_, fun caller hc => ?_⟩
  · simp only [enterDeltas, Caller.back]
    split <;> exact ⟨Main.noConfusion, Main.noConfusion⟩
  · simp only [enterDeltas, Caller.back] at hc
    split at hc
    · rcases hc with hc | hc <;> cases hc
      rfl
    · rcases hc with hc | hc <;> cases hc

/-- Steps that change neither buffers nor files. -/
theorem Inv.goes {s s' : LogInfo T} (h : Inv tool s) (hphase : Phase s')
    (heq : s' = { s with main := s'.main, logEnabled := s'.logEnabled }) : Inv tool s' := by
  rw [heq] at hphase ⊢
  exact ⟨h.owned, h.threads, h.lines, h.written, h.checked, h.values, h.off, hphase⟩

theorem Inv.turned {s s' : LogInfo T} (h : Inv tool s) (hturn : Turned tool s s') :
    Inv tool s' := by
  have hlines := h.lines
  have hvalues := h.values
  have hrunning {caller : Caller} (hmain : s.main = .logs caller ∨ s.main = .deltas caller) :
      s.logEnabled = true ∧ caller = .keyboardLoop := by
    refine ⟨h.phase.enabled.mpr ?_, h.phase.caller caller hmain⟩
    rcases hmain with hmain | hmain <;> rw [hmain] <;> exact ⟨Main.noConfusion, Main.noConfusion⟩
  cases hturn with
  | outside => exact h
  | wrote caller file taken hmain hburst hprinted =>
    refine ⟨(Pool.owned_putBulk _).trans h.owned, h.threads, ?_, ?_, fun hoff x hx => ?_, ?_,
      h.off, fun _ => rfl, h.phase.enabled, h.phase.caller⟩
    · show (s.taken ++ taken).map Prod.fst ++ s.pool.ring.map _ = _
      rw [List.map_append, hprinted.texts, List.append_assoc, ← List.map_append]
      exact hlines
    · refine Eq.trans hprinted.lines ?_
      rw [h.written, List.filter_append, List.map_append]
    · rcases List.mem_append.mp hx with hx | hx
      · exact h.checked hoff x hx
      · exact hprinted.checked hoff x hx
    · exact (congrArg (· ++ s.deltaRing) hprinted.values).trans hvalues
  | empty caller hmain hdrained hring =>
    obtain ⟨hon, rfl⟩ := hrunning (.inl hmain)
    exact h.goes (phase_entered hdrained hon) rfl
  | burst caller hmain hdrained hring hpool =>
    have howned := Pool.owned_dequeueBurst hpool
    simp only [Pool.dequeueBurst, if_pos hdrained, Option.some.injEq] at hpool
    subst hpool
    refine ⟨howned.trans h.owned, h.threads, ?_, h.written, h.checked, hvalues, h.off,
      fun hno => absurd hmain (hno caller), h.phase.enabled, h.phase.caller⟩
    rw [LogInfo.waiting, LogInfo.pending, hdrained] at hlines
    show s.taken.map Prod.fst ++ ((s.pool.ring.take LOG_BURST_COUNT) ++
      s.pool.ring.drop LOG_BURST_COUNT).map (fun b => record (s.content b)) = _
    rwa [List.take_append_drop]
  | done caller hmain hring =>
    obtain ⟨hon, rfl⟩ := hrunning (.inr hmain)
    refine h.goes ⟨fun _ => h.phase.burst fun _ => by rw [hmain]; exact Main.noConfusion,
      iff_of_true hon ⟨Main.noConfusion, Main.noConfusion⟩, fun caller hc => ?_⟩ rfl
    rcases hc with hc | hc <;> cases hc
  | wroteDeltas caller file hmain hring hfile =>
    have hwritten : s.old ++ (some (file ++ [.deltas (s.deltaRing.take LOG_BURST_COUNT)])).getD []
        = s.written ++ [.deltas (s.deltaRing.take LOG_BURST_COUNT)] := by
      simp only [LogInfo.written, hfile, Option.getD_some, List.append_assoc]
    have hblock : [Block.deltas (s.deltaRing.take LOG_BURST_COUNT)].flatMap Block.values =
        s.deltaRing.take LOG_BURST_COUNT := List.append_nil _
    refine ⟨h.owned, h.threads, hlines, ?_, h.checked, ?_, h.off, h.phase.burst, h.phase.enabled,
      h.phase.caller⟩
    · show (s.old ++ (some _).getD []).flatMap Block.lines = _
      rw [hwritten, List.flatMap_append]
      exact (List.append_nil _).trans h.written
    · show (s.old ++ (some _).getD []).flatMap Block.values ++ s.deltaRing.drop LOG_BURST_COUNT = _
      rw [hwritten, List.flatMap_append, hblock, List.append_assoc, List.take_append_drop]
      exact hvalues

omit [DecidableEq T] [Fintype T] in
/-- The call of `log_flush` in the loop of the keyboard. -/
theorem Phase.flushed {s : LogInfo T} (h : Phase s) (hmain : s.main = .polling) :
    Phase (logFlush tool s .keyboardLoop) := by
  have hon : s.logEnabled = true := h.enabled.mpr (by
    rw [hmain]
    exact ⟨Main.noConfusion, Main.noConfusion⟩)
  rw [logFlush, if_pos hon]
  refine ⟨fun hno => absurd rfl (hno _), iff_of_true hon ⟨Main.noConfusion, Main.noConfusion⟩,
    fun caller hc => ?_⟩
  rcases hc with hc | hc <;> cases hc
  rfl

omit [DecidableEq T] [Fintype T] in
/-- `log_close` finds logging on, switches it off, and its `log_flush` comes back at once. -/
theorem logClose_eq {s : LogInfo T} (h : Phase s) (hmain : s.main = .polling) :
    logClose tool s = { s with logEnabled := false, main := .freeing } := by
  have hon : s.logEnabled = true := h.enabled.mpr (by
    rw [hmain]
    exact ⟨Main.noConfusion, Main.noConfusion⟩)
  simp only [logClose, hon, if_true, logFlush, Bool.false_eq_true, if_false, enterDeltas,
    Bool.false_and, Caller.back]

/-- **A step.** -/
theorem Inv.step {s s' : LogInfo T} (h : Inv tool s) {e : LogEvent T}
    (hstep : step tool s e = .ok s') : Inv tool s' := by
  have hquiet (hmain : s.main = .polling ∨ s.main = .freeing) : s.pool.draining = [] :=
    h.phase.burst fun caller hlogs => by
      rw [hlogs] at hmain
      rcases hmain with hmain | hmain <;> cases hmain
  cases stepped hstep with
  | same => exact h
  | beside t hbeside => exact h.beside hbeside
  | turned hturned => exact h.turned hturned
  | flushed hmain =>
    refine h.goes (h.phase.flushed hmain) ?_
    unfold logFlush enterDeltas
    split <;> rfl
  | opened opened he hmain =>
    have hwritten : (logOpen s opened).written = s.written := by
      cases opened <;> exact List.append_nil _
    refine ⟨h.owned, h.threads, h.lines, ?_, h.checked, ?_, h.off, h.phase.burst,
      h.phase.enabled, h.phase.caller⟩
    · rw [LogInfo.lines, hwritten]
      exact h.written
    · rw [LogInfo.values, hwritten]
      exact h.values
  | closed hmain =>
    rw [logClose_eq h.phase hmain]
    refine h.goes ⟨fun _ => hquiet (.inl hmain), iff_of_false Bool.false_ne_true
      (fun hno => hno.1 rfl), fun caller hc => ?_⟩ rfl
    rcases hc with hc | hc <;> cases hc
  | freed he hmain =>
    have hwritten : (logFree s).written = s.written := List.append_nil _
    have hoff : s.logEnabled ≠ true := fun hon => (h.phase.enabled.mp hon).1 hmain
    refine ⟨h.owned, h.threads, h.lines, ?_, h.checked, ?_, h.off,
      fun _ => hquiet (.inr hmain), iff_of_false hoff (fun hno => hno.2 rfl),
      fun caller hc => ?_⟩
    · rw [LogInfo.lines, hwritten]
      exact h.written
    · rw [LogInfo.values, hwritten]
      exact h.values
    · rcases hc with hc | hc <;> cases hc

theorem Inv.run {s s' : LogInfo T} (h : Inv tool s) {es : List (LogEvent T)}
    (hrun : run tool s es = .ok s') : Inv tool s' :=
  foldlM_keeps (fun _ _ _ hs hstep => hs.step hstep) hrun h

/-! ## Logged once -/

/-- The file is open until `log_close` closes it. -/
def Opened (s : LogInfo T) : Prop := s.main ≠ .closed → ∃ f, s.file = some f

omit [Fintype T] in
theorem Opened.step {s s' : LogInfo T} (h : Opened s) {e : LogEvent T} (he : e ≠ .reopen false)
    (hstep : step tool s e = .ok s') : Opened s' := by
  have hsame {s₁ : LogInfo T} (hmain : s.main ≠ .closed) (hfile : s₁.file = s.file) :
      Opened s₁ := fun _ => by
    rw [hfile]
    exact h hmain
  have hlogs {caller : Caller} (hmain : s.main = .logs caller) : s.main ≠ .closed := by
    rw [hmain]
    exact Main.noConfusion
  have hpolling (hmain : s.main = .polling) : s.main ≠ .closed := by
    rw [hmain]
    exact Main.noConfusion
  cases stepped hstep with
  | same => exact h
  | beside t hbeside =>
    have ha := hbeside.aside
    intro hmain
    rw [ha.file]
    exact h (ha.main ▸ hmain)
  | turned hturned =>
    cases hturned with
    | outside => exact h
    | wrote caller file taken hmain hburst hprinted =>
      obtain ⟨f, hf⟩ := h (hlogs hmain)
      exact fun _ => ⟨_, (hprinted.file f hf).1⟩
    | empty caller hmain => exact hsame (hlogs hmain) rfl
    | burst caller hmain => exact hsame (hlogs hmain) rfl
    | done caller hmain => exact hsame (by rw [hmain]; exact Main.noConfusion) rfl
    | wroteDeltas => exact fun _ => ⟨_, rfl⟩
  | flushed hmain =>
    unfold logFlush enterDeltas
    split <;> exact hsame (hpolling hmain) rfl
  | opened opened heq hmain =>
    cases opened with
    | true => exact fun _ => ⟨_, rfl⟩
    | false => exact absurd heq he
  | closed hmain =>
    unfold logClose logFlush enterDeltas
    split
    · split <;> exact hsame (hpolling hmain) rfl
    · exact fun hno => absurd rfl hno
  | freed => exact fun hno => absurd rfl hno

omit [Fintype T] in
/-- Only a turn of `flush_logs` takes lines. -/
theorem taken_step {s s' : LogInfo T} {e : LogEvent T} (hstep : step tool s e = .ok s') :
    s'.taken = s.taken ∨ ∃ caller burst file taken, s.main = .logs caller ∧
      Printed tool s burst file taken ∧ s'.taken = s.taken ++ taken := by
  cases stepped hstep with
  | turned hturned =>
    cases hturned with
    | wrote caller file taken hmain hburst hprinted =>
      exact .inr ⟨caller, _, file, taken, hmain, hprinted, rfl⟩
    | _ => exact .inl rfl
  | beside t hbeside => exact .inl hbeside.aside.taken
  | flushed =>
    unfold logFlush enterDeltas
    split <;> exact .inl rfl
  | closed =>
    unfold logClose logFlush enterDeltas
    split
    · split <;> exact .inl rfl
    · exact .inl rfl
  | _ => exact .inl rfl

omit [Fintype T] in
/-- Where each `log_open` succeeds, no line is dropped. -/
theorem taken_written {content : Buffer → Mem UInt8} {es : List (LogEvent T)} {s : LogInfo T}
    (h : run tool (start content) es = .ok s) (hopen : .reopen false ∉ es) :
    ∀ x ∈ s.taken, x.2 = true := by
  have hstart : Opened (start content : LogInfo T) := fun _ => ⟨[], rfl⟩
  refine (foldlM_keeps_mem (P := fun u => Opened u ∧ ∀ x ∈ u.taken, x.2 = true)
    (fun e he u v hu hstep => ⟨hu.1.step (fun hfailed => hopen (hfailed ▸ he)) hstep, ?_⟩) h
    ⟨hstart, fun x hx => by cases hx⟩).2
  rcases taken_step hstep with hsame | ⟨caller, burst, file, taken, hmain, hprinted, hmore⟩
  · rw [hsame]
    exact hu.2
  · obtain ⟨f, hf⟩ := hu.1 (by rw [hmain]; exact Main.noConfusion)
    rw [hmore]
    intro x hx
    rcases List.mem_append.mp hx with hx | hx
    · exact hu.2 x hx
    · exact (hprinted.file f hf).2 x hx

/-- **The log.** In every run of any threads, from any memory in the pool: no buffer is lost
or in two places, and the lines taken from the ring, those of the burst and those in the ring
are the lines that went into the ring, in order. The lines written are those taken with an
open file: all of them in RATT, and in LTTT if each `log_open` succeeded. So it is with the
deltas, which are never dropped. -/
theorem log_written_once (tool : Tool) (content : Buffer → Mem UInt8) (es : List (LogEvent T))
    (s : LogInfo T) (h : run tool (start content) es = .ok s) :
    s.pool.Balanced ∧
      s.taken.map Prod.fst ++ s.waiting = s.enqueued.map Call.line ∧
      s.lines = (s.taken.filter Prod.snd).map Prod.fst ∧
      (tool.checksFd = false ∨ .reopen false ∉ es →
        s.lines ++ s.waiting = s.enqueued.map Call.line) ∧
      s.values ++ s.deltaRing = s.deltas := by
  have hinv := (inv_start tool content).run h
  refine ⟨?_, hinv.lines, hinv.written, fun hwhole => ?_, hinv.values⟩
  · rw [Pool.balanced_iff_of_le (le_of_eq hinv.owned)]
    exact hinv.owned
  · have hall : ∀ x ∈ s.taken, x.2 = true := hwhole.elim hinv.checked fun hopen =>
      taken_written h hopen
    rw [hinv.written, List.filter_eq_self.mpr hall]
    exact hinv.lines

/-! A thread of RATT logs a line and a delta. -/

def ratt : Tool := Ratt.tool true 16

def blank : Buffer → Mem UInt8 := fun _ _ => 0

def hello : Call := ⟨none, ⟨lit "hello", by decide, by decide⟩⟩

def first : Buffer := ⟨0, by decide⟩

def helloEvents : List (LogEvent Unit) :=
  [.message () hello, .get () (some first), .enqueue (), .delta () 5, .enqueueDelta ()]

def flushTurns : List (LogEvent Unit) := List.replicate 6 .turn

/-- The log when both are in the rings. -/
def helloEnqueued : LogInfo Unit where
  logEnabled := true
  pool := ⟨(Pool.fresh Unit LOG_BUFFER_POOL_COUNT).free.erase first, [first], fun _ => .idle, []⟩
  content := Function.update blank first (logMessage (blank first) hello)
  calling _ := .idle
  deltaRing := [5]
  main := .polling
  file := some []
  old := []
  taken := []
  enqueued := [hello]
  deltas := [5]

omit [Fintype T] in
theorem get_fills {s : LogInfo T} {t : T} {c : Call} {b : Buffer} (hcalling : s.calling t = .message c)
    (hopen : s.main ≠ .closed) (hidle : s.pool.producer t = .idle) (hfree : b ∈ s.pool.free) :
    get s t (some b) = .ok { s with
      pool := { s.pool with free := s.pool.free.erase b }.setProducer t (.filling b)
      content := Function.update s.content b (logMessage (s.content b) c) } := by
  have hget : s.pool.get t (some b) =
      some ({ s.pool with free := s.pool.free.erase b }.setProducer t (.filling b)) := by
    simp only [Pool.get]
    rw [if_pos ⟨hidle, hfree⟩]
  simp only [get, hcalling, hidle, if_neg hopen, hget]

theorem hello_enqueued : run ratt (start blank) helloEvents = .ok helloEnqueued := by
  have hfills := @get_fills Unit _ ((start blank).setCalling () (.message hello)) () hello first
    rfl Main.noConfusion rfl (Finset.mem_univ_val first)
  exact foldlM_cons_ok.mpr ⟨_, rfl, foldlM_cons_ok.mpr ⟨_, hfills, rfl⟩⟩

/-- The line that was logged. -/
def helloText : CStr := record (helloEnqueued.content first)

/-- The log when both have been written. -/
def helloFlushed : LogInfo Unit :=
  { helloEnqueued with
    pool := { helloEnqueued.pool with
      free := helloEnqueued.pool.free + ([first] : List Buffer), ring := [] }
    deltaRing := []
    file := some [.line helloText, .deltas [5]]
    taken := [(helloText, true)] }

theorem hello_flushed : run ratt helloEnqueued (.flush :: flushTurns) = .ok helloFlushed := rfl

theorem log_written_once_hello : helloFlushed.lines = [hello.line] ∧ helloFlushed.values = [5] := by
  have h := log_written_once ratt blank (helloEvents ++ .flush :: flushTurns) helloFlushed
    (foldlM_append_ok.mpr ⟨_, hello_enqueued, hello_flushed⟩)
  exact ⟨(List.append_nil _).symm.trans (h.2.2.2.1 (.inl rfl)), h.2.2.2.2⟩

end log

end Rtdk.ToolLog
