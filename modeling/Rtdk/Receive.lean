import Rtdk.Runs
import Rtdk.Thread

/-! The receive loop shared by the seven `*_rx_frame` functions.

Every handler treats a burst frame by frame: type and length checks, decoding
(with decryption and re-sealing where the class has security), statistics, the
drop decisions, and in mirror mode the hand-over to the transmit buffer.
`RxHandler` holds what differs between classes. Two locals of the C functions
live across the frames of one burst: `expected_frame_length` and the stack
buffer `plaintext`; `RxState` carries them next to the world.

`rxFrames` follows the loop with its array of dropped mbufs. `rxBurst` is the
same without the array, and `rxFrames_eq_rxBurst` connects the two. -/

namespace Rtdk.Receive
open Rtdk.Memory Rtdk.NetDef Rtdk.Security Rtdk.Stat Rtdk.Lport Rtdk.Config Rtdk.Frame Rtdk.Thread
open Rtdk.Runs

variable {C D : Type}

/-- Where the payload of the Ethernet frame starts, and `vlan_tag_missing`. -/
structure Layout where
  off : Nat
  vlanTagMissing : Bool
  deriving DecidableEq, Repr

/-- What decoding a frame gives. `authRet` is the return value of
`security_decrypt`, zero where it is not called; `payload` is what the handler
compares with the configured pattern. -/
structure Received (C D : Type) where
  world : World C D
  mbuf : Mbuf
  plaintext : Mem UInt8
  frameId : UInt16
  sequenceCounter : UInt64
  txTimestamp : UInt64
  authRet : Int
  payload : List UInt8

structure Verdict where
  outOfOrder : Bool
  payloadMismatch : Bool
  frameIdMismatch : Bool
  deriving DecidableEq, Repr

/-- The parts of a receive handler that depend on the class. -/
structure RxHandler (C D : Type) where
  ty : FrameType
  /-- Type and length checks, and `expected_frame_length` after them. -/
  check : UInt64 → Mbuf → UInt64 × Except LogEntry Layout
  decode : World C D → Mem UInt8 → Mbuf → Layout → Except Stop (Received C D)
  expectedPattern : List UInt8
  /-- `none` for classes that do not check the frame id. -/
  expectedFrameId : Option UInt16
  frameIdText : UInt64 → UInt16 → List LogEntry
  outOfOrderText : UInt64 → UInt64 → LogEntry
  payloadText : UInt64 → List UInt8 → Except Halt LogEntry
  /-- Whether an out-of-order frame sets `rx_sequence_counter`. -/
  resync : Bool
  /-- The edits made to a frame before it is mirrored. -/
  forward : World C D → Mbuf → Layout → World C D × Mbuf

/-! ## One frame -/

def RxHandler.verdict (h : RxHandler C D) (r : Received C D) : Verdict where
  outOfOrder := decide (r.sequenceCounter ≠ r.world.thread.rxSequenceCounter)
  payloadMismatch := decide (r.payload ≠ h.expectedPattern)
  frameIdMismatch :=
    match h.expectedFrameId with
    | some fid => decide (r.frameId ≠ fid)
    | none => false

/-- The drop decisions, and the hand-over of what passes them all. The second
component is the mbuf to be dropped. -/
def RxHandler.conclude (env : Env C D) (h : RxHandler C D) (w : World C D) (r : Received C D)
    (v : Verdict) (lay : Layout) : Except Stop (World C D × Option Mbuf) :=
  if v.frameIdMismatch then
    .ok (w.say (h.frameIdText r.sequenceCounter r.frameId), some r.mbuf)
  else if v.outOfOrder then
    let w := w.say [h.outOfOrderText r.sequenceCounter w.thread.rxSequenceCounter]
    .ok (if h.resync then w.setRx (r.sequenceCounter + 1) else w, some r.mbuf)
  else
    let w := w.setRx (w.thread.rxSequenceCounter + 1)
    if v.payloadMismatch then
      match h.payloadText r.sequenceCounter r.payload with
      | .ok entry => .ok (w.say [entry], some r.mbuf)
      | .error reason => .error ⟨reason, w.log⟩
    else if !env.mirrorMode then .ok (w, some r.mbuf)
    else
      let (w, m) := h.forward w r.mbuf lay
      .ok (w.enqueue env m, none)

/-- `stat_frame_received` on a decoded frame. -/
def RxHandler.account (env : Env C D) (h : RxHandler C D) (r : Received C D) (v : Verdict) :
    Except Stop (World C D) :=
  r.world.tick.applyStat
    (statFrameReceived env.statConfig r.world.stat h.ty r.sequenceCounter v.outOfOrder
      v.payloadMismatch v.frameIdMismatch r.txTimestamp (r.world.now env))

/-- State of a handler between two frames of a burst. -/
structure RxState (C D : Type) where
  world : World C D
  expectedFrameLength : UInt64
  plaintext : Mem UInt8

/-- State after a frame, and the mbuf the handler drops, if it does. -/
structure Handled (C D : Type) where
  world : World C D
  plaintext : Mem UInt8
  dropped : Option Mbuf

/-- A frame that passed the type and length checks. -/
def RxHandler.accept (env : Env C D) (h : RxHandler C D) (w : World C D) (plaintext : Mem UInt8)
    (m : Mbuf) (lay : Layout) : Except Stop (Handled C D) := do
  let r ← h.decode w plaintext m lay
  let v := h.verdict r
  let w ← h.account env r v
  let (w, dropped) ← h.conclude env w r v lay
  .ok ⟨w, r.plaintext, dropped⟩

/-- One pass of the loop body. -/
def rxOne (env : Env C D) (h : RxHandler C D) (s : RxState C D) (m : Mbuf) :
    Except Stop (RxState C D × Option Mbuf) :=
  match h.check s.expectedFrameLength m with
  | (expected, .error entry) => .ok (⟨s.world.say [entry], expected, s.plaintext⟩, some m)
  | (expected, .ok lay) => do
    let r ← h.accept env s.world s.plaintext m lay
    .ok (⟨r.world, expected, r.plaintext⟩, r.dropped)

/-! ## One burst -/

/-- Loop state with the array of dropped mbufs and, as history, what was freed. -/
structure RxLoop (C D : Type) where
  state : RxState C D
  dropped : List Mbuf
  freed : List Mbuf

/-- `dropped[drop_count++] = mbuf`, freeing the array when it is full. -/
def RxLoop.drop (l : RxLoop C D) (m : Mbuf) : RxLoop C D :=
  let dropped := l.dropped ++ [m]
  if dropped.length = freePendingSz then { l with dropped := [], freed := l.freed ++ dropped }
  else { l with dropped := dropped }

def rxLoopStep (env : Env C D) (h : RxHandler C D) (l : RxLoop C D) (m : Mbuf) :
    Except Stop (RxLoop C D) := do
  let (s, dropped) ← rxOne env h l.state m
  match dropped with
  | some m => .ok ({ l with state := s }.drop m)
  | none => .ok { l with state := s }

/-- A call of the handler: `frameLength` is the configured length, `stack` what
the uninitialised buffer `plaintext` happens to hold. The second component of
the result lists the freed mbufs. -/
def rxFrames (env : Env C D) (h : RxHandler C D) (frameLength : UInt64) (stack : Mem UInt8)
    (w : World C D) (mbufs : List Mbuf) : Except Stop (World C D × List Mbuf) := do
  let l ← mbufs.foldlM (rxLoopStep env h) ⟨⟨w, frameLength, stack⟩, [], []⟩
  .ok (l.state.world, l.freed ++ l.dropped)

/-- The burst without the array: final state and dropped mbufs in order. -/
def rxBurst (env : Env C D) (h : RxHandler C D) (s : RxState C D) :
    List Mbuf → Except Stop (RxState C D × List Mbuf)
  | [] => .ok (s, [])
  | m :: ms => do
    let (s, dropped) ← rxOne env h s m
    let (s, rest) ← rxBurst env h s ms
    .ok (s, dropped.toList ++ rest)

theorem RxLoop.drop_state (l : RxLoop C D) (m : Mbuf) : (l.drop m).state = l.state := by
  simp only [RxLoop.drop]
  split <;> rfl

theorem RxLoop.drop_pending (l : RxLoop C D) (m : Mbuf) :
    (l.drop m).freed ++ (l.drop m).dropped = l.freed ++ l.dropped ++ [m] := by
  simp only [RxLoop.drop]
  split <;> simp

theorem rxLoop_eq_rxBurst (env : Env C D) (h : RxHandler C D) (ms : List Mbuf) (l : RxLoop C D) :
    (do let l ← ms.foldlM (rxLoopStep env h) l
        .ok (l.state.world, l.freed ++ l.dropped)) =
      (rxBurst env h l.state ms).map fun p => (p.1.world, l.freed ++ l.dropped ++ p.2) := by
  induction ms generalizing l with
  | nil => simp [rxBurst, Except.map, pure, Except.pure, bind, Except.bind]
  | cons m ms ih =>
    simp only [List.foldlM_cons, rxBurst, rxLoopStep, bind_assoc]
    cases hone : rxOne env h l.state m with
    | error e => rfl
    | ok p =>
      obtain ⟨s, dropped⟩ := p
      simp only [bind, Except.bind] at ih ⊢
      cases dropped with
      | none =>
        simp only [Option.toList_none, List.nil_append]
        rw [ih]
        cases rxBurst env h s ms <;> rfl
      | some d =>
        simp only [Option.toList_some]
        rw [ih, RxLoop.drop_state, RxLoop.drop_pending]
        cases rxBurst env h s ms with
        | error e => rfl
        | ok q => simp [Except.map]

/-- **The dropped array does not matter.**  A call frees the dropped mbufs of
the burst in order, each once. -/
theorem rxFrames_eq_rxBurst (env : Env C D) (h : RxHandler C D) (frameLength : UInt64)
    (stack : Mem UInt8) (w : World C D) (ms : List Mbuf) :
    rxFrames env h frameLength stack w ms =
      (rxBurst env h ⟨w, frameLength, stack⟩ ms).map fun p => (p.1.world, p.2) := by
  rw [rxFrames, rxLoop_eq_rxBurst]
  simp

/-- A burst that returns, taken apart at its first frame. -/
theorem rxBurst_cons_ok {env : Env C D} {h : RxHandler C D} {s t : RxState C D} {m : Mbuf}
    {ms fs : List Mbuf} (hb : rxBurst env h s (m :: ms) = .ok (t, fs)) :
    ∃ s' d gs, rxOne env h s m = .ok (s', d) ∧ rxBurst env h s' ms = .ok (t, gs) ∧
      fs = d.toList ++ gs := by
  rw [rxBurst] at hb
  obtain ⟨⟨s', d⟩, hone, hb⟩ := bind_ok_iff.mp hb
  obtain ⟨⟨t', gs⟩, hrest, hb⟩ := bind_ok_iff.mp hb
  cases hb
  exact ⟨s', d, gs, hone, hrest, rfl⟩

theorem rxBurst_append (env : Env C D) (h : RxHandler C D) (s : RxState C D) (xs ys : List Mbuf) :
    rxBurst env h s (xs ++ ys) = (do
      let (s, fs) ← rxBurst env h s xs
      let (s, gs) ← rxBurst env h s ys
      .ok (s, fs ++ gs)) := by
  induction xs generalizing s with
  | nil =>
    simp only [List.nil_append, rxBurst, bind, Except.bind]
    cases rxBurst env h s ys <;> rfl
  | cons x xs ih =>
    simp only [List.cons_append, rxBurst, bind, Except.bind] at ih ⊢
    cases rxOne env h s x with
    | error e => rfl
    | ok p =>
      simp only [ih]
      cases rxBurst env h p.1 xs with
      | error e => rfl
      | ok q =>
        simp only []
        cases rxBurst env h q.1 ys with
        | error e => rfl
        | ok r => simp

end Rtdk.Receive
