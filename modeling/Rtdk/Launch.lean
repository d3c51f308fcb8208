import Rtdk.Routing
import Rtdk.Burst
import Rtdk.Runs

/-! From the launch of a class to the callbacks of its thread (`functions.c`, the
`*_launch`, `*_threads_create` and `*_threads_init` functions, and the routines
that `thread_timer_run` calls).

A launch function starts the thread of every class that is enabled. The create
function it calls first fills in the thread context only if the class is active,
which takes a number of frames per cycle above zero; and of the four classes with
security only RTC gets a payload buffer. The callbacks go through the pointers
of the context without testing any. `launched_iff` says which launched threads
have all they need. -/

namespace Rtdk.Launch
open Rtdk.Memory Rtdk.NetDef Rtdk.Security Rtdk.Config Rtdk.Frame Rtdk.Thread Rtdk.Burst
open Rtdk.CString Rtdk.ConfigFile Rtdk.Sane Rtdk.Routing Rtdk.Runs

variable {C : Type}

def enomem : Int32 := 12

/-! ## Thread contexts -/

/-- The pointers of a thread context that a launch sets. -/
inductive Pointer
  | privateData
  | mbufs
  | txSecurityContext
  | rxSecurityContext
  | payloadPattern
  deriving DecidableEq, Repr

/-- The part of `struct thread_context` that a launch fills in, `none` for `NULL`.
The private data is a copy of the class's group of fields. Of the mbuf array and
of the payload buffer only the size is kept, in pointers and in bytes. -/
structure Context (C : Type) where
  privateData : Option ClassConfig
  mbufs : Option Nat
  metaDataOffset : Nat
  txSecurityContext : Option C
  rxSecurityContext : Option C
  payloadPattern : Option Nat
  payloadPatternLength : UInt64

/-- `threads` is static memory. -/
def Context.zero : Context C := ⟨none, none, 0, none, none, none, 0⟩

def Context.isSet (ctx : Context C) : Pointer → Bool
  | .privateData => ctx.privateData.isSome
  | .mbufs => ctx.mbufs.isSome
  | .txSecurityContext => ctx.txSecurityContext.isSome
  | .rxSecurityContext => ctx.rxSecurityContext.isSome
  | .payloadPattern => ctx.payloadPattern.isSome

/-- The classes with a configuration record of their own. -/
def hasPrivateData : FrameType → Bool
  | .tsnHigh | .tsnLow | .udpHigh | .udpLow => true
  | _ => false

/-! ## Launch functions -/

/-- What is fixed when the launch functions run. -/
structure Program where
  app : AppConfig
  lportId : FrameType → UInt32
  mirrorMode : Bool
  isFirst : FrameType → Bool

/-- `function_link_pn_threads`: which class is the first of its chain. -/
def functionLinkPnThreads (cfg : AppConfig) : Except Int32 (FrameType → Bool) :=
  if cfg.isActive .tsnHigh then .ok fun ty => decide (ty = .tsnHigh)
  else if cfg.isActive .rtc then .ok fun ty => decide (ty = .rtc)
  else if cfg.isActive .l2 then .ok fun _ => false
  else .error (-ConfigFile.einval)

/-- What the calls a launch function makes come back with. -/
structure Calls (C : Type) where
  /-- There is memory for the configuration record of TSN and UDP. -/
  threadConfiguration : Bool
  /-- There is memory for the payload buffer of RTC. -/
  payloadPattern : Bool
  /-- The two calls of `security_init`. -/
  txSecurityContext : Option C
  rxSecurityContext : Option C
  /-- There is memory for the mbuf array. -/
  mbufs : Bool
  /-- `rte_eal_get_lcore_state` finds a thread running. -/
  lcoreRunning : Bool
  /-- `rte_eal_remote_launch`. -/
  remoteLaunch : Int32

/-- How a launch fails. Either way the process ends: `function_launch_all` does
not go on after an error code. -/
inductive Failure
  | returned (ret : Int32)
  | rteExit
  deriving DecidableEq, Repr

/-- The context of a class and the table of `tsn_set_vlan_qid`. -/
structure Created (C : Type) where
  context : Context C
  vid2qid : Mem UInt16

section create
variable (prog : Program) (calls : Calls C)

def initSecurity (mode : SecurityMode) (ctx : Context C) : Except Failure (Context C) :=
  if mode = .none then .ok { ctx with txSecurityContext := none, rxSecurityContext := none }
  else
    match calls.txSecurityContext, calls.rxSecurityContext with
    | some tx, some rx => .ok { ctx with txSecurityContext := some tx, rxSecurityContext := some rx }
    | _, _ => .error (.returned (-enomem))

/-- The last steps of all create functions. Without memory for the mbufs the
classes with security return, the others exit. -/
def finish (mode : SecurityMode) (noMbufs : Failure) (ty : FrameType) (s : Created C) :
    Except Failure (Created C) :=
  if calls.mbufs then
    match tsnSetVlanQid s.vid2qid (launchVid prog.app ty) (lport2qid (prog.lportId ty)) with
    | some vid2qid =>
      .ok ⟨{ s.context with metaDataOffset := getMetaDataOffset ty mode, mbufs := some maxPktBurst },
        vid2qid⟩
    | none => .error .rteExit
  else .error noMbufs

/-- Security contexts and the last steps. -/
def secure (ty : FrameType) (s : Created C) : Except Failure (Created C) := do
  let mode := (prog.app.cls ty).securityMode
  let ctx ← initSecurity calls mode s.context
  finish prog calls mode (.returned (-enomem)) ty { s with context := ctx }

def tsnThreadsInit (ty : FrameType) (s : Created C) : Except Failure (Created C) :=
  if prog.app.isActive ty then
    secure prog calls ty
      { s with context := { s.context with privateData := some (prog.app.cls ty) } }
  else .ok s

/-- The record is allocated whether or not the class is active. -/
def configured (init : Created C → Except Failure (Created C)) (s : Created C) :
    Except Failure (Created C) :=
  if calls.threadConfiguration then init s else .error (.returned (-enomem))

def tsnHighThreadsInit : Created C → Except Failure (Created C) :=
  configured calls (tsnThreadsInit prog calls .tsnHigh)

def tsnLowThreadsInit : Created C → Except Failure (Created C) :=
  configured calls (tsnThreadsInit prog calls .tsnLow)

def rtcThreadsCreate (s : Created C) : Except Failure (Created C) :=
  if prog.app.isActive .rtc then
    let frameLength := (prog.app.cls .rtc).frameLength
    if calls.payloadPattern then
      secure prog calls .rtc
        { s with
          context := { s.context with
            payloadPattern := some frameLength.toNat, payloadPatternLength := frameLength } }
    else .error (.returned (-enomem))
  else .ok s

def rtaThreadsCreate (s : Created C) : Except Failure (Created C) :=
  if prog.app.isActive .rta then secure prog calls .rta s else .ok s

/-- The create functions without security. -/
def plainThreadsCreate (ty : FrameType) (s : Created C) : Except Failure (Created C) :=
  if prog.app.isActive ty then finish prog calls .none .rteExit ty s else .ok s

def dcpThreadsCreate : Created C → Except Failure (Created C) := plainThreadsCreate prog calls .dcp

def lldpThreadsCreate : Created C → Except Failure (Created C) :=
  plainThreadsCreate prog calls .lldp

def l2ThreadsCreate : Created C → Except Failure (Created C) := plainThreadsCreate prog calls .l2

/-- Here the private data are set before the class is found to be inactive. -/
def udpThreadsCreate (ty : FrameType) (s : Created C) : Except Failure (Created C) :=
  plainThreadsCreate prog calls ty
    { s with context := { s.context with privateData := some (prog.app.cls ty) } }

def udpHighThreadsInit : Created C → Except Failure (Created C) :=
  configured calls (udpThreadsCreate prog calls .udpHigh)

def udpLowThreadsInit : Created C → Except Failure (Created C) :=
  configured calls (udpThreadsCreate prog calls .udpLow)

/-- What the launch function of a class calls. -/
def create : FrameType → Created C → Except Failure (Created C)
  | .tsnHigh => tsnHighThreadsInit prog calls
  | .tsnLow => tsnLowThreadsInit prog calls
  | .rtc => rtcThreadsCreate prog calls
  | .rta => rtaThreadsCreate prog calls
  | .dcp => dcpThreadsCreate prog calls
  | .lldp => lldpThreadsCreate prog calls
  | .udpHigh => udpHighThreadsInit prog calls
  | .udpLow => udpLowThreadsInit prog calls
  | .l2 => l2ThreadsCreate prog calls

/-- The launch function of a class: the context the thread is started with, or
`none` if no thread is started. -/
def launch (ty : FrameType) (vid2qid : Mem UInt16) : Except Failure (Option (Created C)) :=
  if (prog.app.cls ty).enabled then
    match create prog calls ty ⟨.zero, vid2qid⟩ with
    | .ok s =>
      if calls.lcoreRunning then .error .rteExit
      else if calls.remoteLaunch ≠ 0 then .error (.returned calls.remoteLaunch)
      else .ok (some s)
    | .error (.returned _) => .error (.returned (-1))
    | .error .rteExit => .error .rteExit
  else .ok none

end create

/-! ## Callbacks -/

inductive Timer
  | rx
  | tx
  | txGen
  deriving DecidableEq, Repr

/-- What a callback meets when its timer fires. A frame is given by whether
OpenSSL, sealing it, gets as far as the plaintext. -/
structure Occasion where
  /-- The previous class of the chain has signalled. -/
  signaled : Bool
  /-- The frames in the receive queue, `none` for one that the handler drops for
  its type or length. -/
  received : List (Option Bool)
  /-- The frames that `lport_tx_get_bulk` gets for the generator. -/
  generated : Option (List Bool)

/-- A thread between two callbacks: which of them have run once, and the frames
the generation timer has released. -/
structure ThreadState (C : Type) where
  context : Context C
  rxDoOnce : Bool
  txDoOnce : Bool
  txGenDoOnce : Bool
  numFramesAvailable : UInt64

/-- Access through a pointer, if the condition holds. `NULL` ends the process. -/
def Context.derefIf (ctx : Context C) (b : Bool) (p : Pointer) : Except Pointer Unit :=
  if b && !ctx.isSet p then .error p else .ok ()

/-- Sealing of one frame: both `security_encrypt` and `security_decrypt` go
through the security context, and AE reads the payload buffer. -/
def Context.sealFrame (ctx : Context C) (mode : SecurityMode) (p : Pointer) (reads : Bool) :
    Except Pointer Unit := do
  ctx.derefIf (decide (mode ≠ .none)) p
  ctx.derefIf (decide (mode = .ae) && reads && decide (ctx.payloadPatternLength ≠ 0)) .payloadPattern

def Context.sealFrames (ctx : Context C) (mode : SecurityMode) (p : Pointer) :
    List Bool → Except Pointer Unit
  | [] => .ok ()
  | reads :: frames => do
    ctx.sealFrame mode p reads
    ctx.sealFrames mode p frames

/-- The generators that use the array of the context; the others have one on the
stack. -/
def keepsMbufs : FrameType → Bool
  | .tsnHigh | .tsnLow | .dcp | .l2 => true
  | _ => false

/-- The classes with a third timer on the reference. -/
def hasTxGen : FrameType → Bool
  | .rta | .dcp | .lldp | .udpHigh | .udpLow => true
  | _ => false

section callbacks
variable (prog : Program) (ty : FrameType)

def rxThreadRoutine (o : Occasion) (s : ThreadState C) : Except Pointer (ThreadState C) :=
  if !s.rxDoOnce then .ok { s with rxDoOnce := true }
  else do
    s.context.derefIf (hasPrivateData ty) .privateData
    let frames := o.received.take (burstSz (prog.app.cls ty)).toUInt32.toUInt16.toNat
    s.context.derefIf (!frames.isEmpty) .mbufs
    s.context.sealFrames (prog.app.mode ty) .rxSecurityContext frames.reduceOption
    .ok s

/-- The generator of the reference; `send_frames_common` of the mirror uses no
pointer of the context. -/
def sendFrames (numFrames : UInt64) (o : Occasion) (ctx : Context C) : Except Pointer Unit :=
  if prog.mirrorMode ∨ (ty = .rta ∨ ty = .dcp) ∧ numFrames = 0 then .ok ()
  else
    match o.generated with
    | none => .ok ()
    | some frames => do
      let frames := frames.take numFrames.toUInt16.toNat
      ctx.derefIf (keepsMbufs ty && !frames.isEmpty) .mbufs
      ctx.sealFrames (prog.app.mode ty) .txSecurityContext frames

def txThreadRoutine (o : Occasion) (s : ThreadState C) : Except Pointer (ThreadState C) :=
  let numFrames := (prog.app.cls ty).numFramesPerCycle
  if !s.txDoOnce then .ok { s with txDoOnce := true }
  else
    match ty with
    | .tsnHigh | .tsnLow | .rtc =>
      if !prog.isFirst ty && !o.signaled then .ok s
      else do
        s.context.derefIf (hasPrivateData ty) .privateData
        sendFrames prog ty numFrames o s.context
        .ok s
    | .rta | .dcp | .lldp =>
      if !o.signaled then .ok s
      else do
        sendFrames prog ty s.numFramesAvailable o s.context
        .ok { s with numFramesAvailable := 0 }
    | .udpHigh | .udpLow =>
      if !o.signaled then .ok s
      else do
        s.context.derefIf (prog.mirrorMode || decide (s.numFramesAvailable ≠ 0)) .privateData
        if s.numFramesAvailable = 0 then .ok s
        else do
          sendFrames prog ty numFrames o s.context
          .ok { s with numFramesAvailable := 0 }
    | .l2 => do
      sendFrames prog ty numFrames o s.context
      .ok s

def txGenerationThreadRoutine (s : ThreadState C) : Except Pointer (ThreadState C) := do
  s.context.derefIf (hasPrivateData ty) .privateData
  if !s.txGenDoOnce then .ok { s with txGenDoOnce := true }
  else .ok { s with numFramesAvailable := (prog.app.cls ty).numFramesPerCycle }

/-- A timer fires. One that the thread has not added never does. -/
def fire (s : ThreadState C) : Timer × Occasion → Except Pointer (ThreadState C)
  | (.rx, o) => rxThreadRoutine prog ty o s
  | (.tx, o) => txThreadRoutine prog ty o s
  | (.txGen, _) =>
    if !prog.mirrorMode && hasTxGen ty then txGenerationThreadRoutine prog ty s else .ok s

/-- The setup functions of TSN, RTC, RTA and L2 move the payload pointer forward,
`NULL` or not, which makes no buffer of it, and set the length. -/
def threadSetup (ctx : Context C) : Context C :=
  match ty with
  | .tsnHigh | .tsnLow | .rtc | .rta | .l2 =>
    { ctx with payloadPatternLength := payloadSize (prog.app.cls ty).frameLength }
  | .dcp | .lldp | .udpHigh | .udpLow => ctx

/-- The routine of a class up to `thread_timer_run`. -/
def threadsRoutine (ctx : Context C) : Except Pointer (Context C) := do
  ctx.derefIf (hasPrivateData ty) .privateData
  .ok (threadSetup prog ty ctx)

/-- A run of a launched thread. -/
def runThread (ctx : Context C) (events : List (Timer × Occasion)) :
    Except Pointer (ThreadState C) := do
  let ctx ← threadsRoutine prog ty ctx
  events.foldlM (fire prog ty) ⟨ctx, false, false, false, 0⟩

end callbacks

/-! ## What a launched thread needs -/

/-- The context has everything the class's callbacks use: the private data where
the class has some, the mbuf array, the offset of the metadata, and with AO or AE
both security contexts and a payload buffer as long as a frame. -/
structure Initialised (cfg : AppConfig) (ty : FrameType) (ctx : Context C) : Prop where
  privateData : hasPrivateData ty = true → ctx.privateData = some (cfg.cls ty)
  mbufs : ctx.mbufs = some maxPktBurst
  metaDataOffset : ctx.metaDataOffset = getMetaDataOffset ty (cfg.mode ty)
  txSecurityContext : cfg.mode ty ≠ .none → ctx.txSecurityContext.isSome = true
  rxSecurityContext : cfg.mode ty ≠ .none → ctx.rxSecurityContext.isSome = true
  payloadPattern : cfg.mode ty ≠ .none →
    ∃ size, ctx.payloadPattern = some size ∧ (cfg.cls ty).frameLength.toNat ≤ size

/-- No run of the thread goes through a pointer that was never set. -/
def NeverFaults (prog : Program) (ty : FrameType) (ctx : Context C) : Prop :=
  ∀ events, ∃ s, runThread prog ty ctx events = .ok s

/-- The pointers the callbacks of a class go through are set. -/
structure Usable (cfg : AppConfig) (ty : FrameType) (ctx : Context C) : Prop where
  privateData : hasPrivateData ty = true → ctx.isSet .privateData = true
  mbufs : ctx.isSet .mbufs = true
  tx : cfg.mode ty ≠ .none → ctx.isSet .txSecurityContext = true
  rx : cfg.mode ty ≠ .none → ctx.isSet .rxSecurityContext = true
  payload : cfg.mode ty ≠ .none → ctx.isSet .payloadPattern = true

theorem Initialised.usable {cfg : AppConfig} {ty : FrameType} {ctx : Context C}
    (h : Initialised cfg ty ctx) : Usable cfg ty ctx where
  privateData hty := by
    rw [Context.isSet, h.privateData hty]
    rfl
  mbufs := by
    rw [Context.isSet, h.mbufs]
    rfl
  tx := h.txSecurityContext
  rx := h.rxSecurityContext
  payload hmode := by
    obtain ⟨size, hsize, -⟩ := h.payloadPattern hmode
    rw [Context.isSet, hsize]
    rfl

/-! ## Runs of a usable context -/

theorem derefIf_ok {ctx : Context C} {b : Bool} {p : Pointer}
    (h : b = true → ctx.isSet p = true) : ctx.derefIf b p = .ok () := by
  cases hb : b with
  | false => rfl
  | true => simp [Context.derefIf, h hb]

theorem derefIf_unset {ctx : Context C} {p : Pointer} (h : ctx.isSet p = false) :
    ctx.derefIf true p = .error p := by
  simp [Context.derefIf, h]

section run
variable {prog : Program} {ty : FrameType} {ctx : Context C} {s : ThreadState C}

theorem sealFrame_ok {mode : SecurityMode} {p : Pointer} (reads : Bool)
    (hp : mode ≠ .none → ctx.isSet p = true)
    (hpayload : mode ≠ .none → ctx.isSet .payloadPattern = true) :
    ctx.sealFrame mode p reads = .ok () := by
  have hctx : ctx.derefIf (decide (mode ≠ .none)) p = .ok () :=
    derefIf_ok fun h => hp (of_decide_eq_true h)
  rw [Context.sealFrame, hctx]
  apply derefIf_ok
  intro h
  simp only [Bool.and_eq_true, decide_eq_true_eq] at h
  apply hpayload
  rw [h.1.1]
  decide

theorem sealFrames_ok {mode : SecurityMode} {p : Pointer} (hp : mode ≠ .none → ctx.isSet p = true)
    (hpayload : mode ≠ .none → ctx.isSet .payloadPattern = true) (frames : List Bool) :
    ctx.sealFrames mode p frames = .ok () := by
  induction frames with
  | nil => rfl
  | cons reads frames ih =>
    rw [Context.sealFrames, sealFrame_ok reads hp hpayload]
    exact ih

theorem sendFrames_ok (h : Usable prog.app ty ctx) (numFrames : UInt64) (o : Occasion) :
    sendFrames prog ty numFrames o ctx = .ok () := by
  unfold sendFrames
  split
  · rfl
  · cases o.generated with
    | none => rfl
    | some frames =>
      show (ctx.derefIf _ .mbufs >>= fun _ => ctx.sealFrames _ _ _) = _
      rw [derefIf_ok fun _ => h.mbufs]
      exact sealFrames_ok h.tx h.payload _

theorem rxThreadRoutine_ok (h : Usable prog.app ty s.context) (o : Occasion) :
    ∃ s', rxThreadRoutine prog ty o s = .ok s' ∧ s'.context = s.context := by
  have hpriv : s.context.derefIf (hasPrivateData ty) .privateData = .ok () :=
    derefIf_ok h.privateData
  have hmbufs (b : Bool) : s.context.derefIf b .mbufs = .ok () := derefIf_ok fun _ => h.mbufs
  have hseal := sealFrames_ok (p := .rxSecurityContext) h.rx h.payload
  simp only [rxThreadRoutine, hpriv, hmbufs, hseal, bind, Except.bind]
  split
  · exact ⟨_, rfl, rfl⟩
  · exact ⟨_, rfl, rfl⟩

theorem txThreadRoutine_ok (h : Usable prog.app ty s.context) (o : Occasion) :
    ∃ s', txThreadRoutine prog ty o s = .ok s' ∧ s'.context = s.context := by
  have hsend (n : UInt64) : sendFrames prog ty n o s.context = .ok () := sendFrames_ok h n o
  have hpriv (b : Bool) (hty : hasPrivateData ty = true) :
      s.context.derefIf b .privateData = .ok () := derefIf_ok fun _ => h.privateData hty
  have hnone (p : Pointer) : s.context.derefIf false p = .ok () := rfl
  unfold txThreadRoutine
  split
  · exact ⟨_, rfl, rfl⟩
  · cases ty with
    | tsnHigh | tsnLow =>
      simp only [hpriv _ rfl, hsend, bind, Except.bind]
      split <;> exact ⟨_, rfl, rfl⟩
    | rtc =>
      simp only [hasPrivateData, hnone, hsend, bind, Except.bind]
      split <;> exact ⟨_, rfl, rfl⟩
    | rta | dcp | lldp =>
      simp only [hsend, bind, Except.bind]
      split <;> exact ⟨_, rfl, rfl⟩
    | udpHigh | udpLow =>
      simp only [hpriv _ rfl, hsend, bind, Except.bind]
      split
      · exact ⟨_, rfl, rfl⟩
      · split <;> exact ⟨_, rfl, rfl⟩
    | l2 =>
      simp only [hsend, bind, Except.bind]
      exact ⟨_, rfl, rfl⟩

theorem txGenerationThreadRoutine_ok (h : Usable prog.app ty s.context) :
    ∃ s', txGenerationThreadRoutine prog ty s = .ok s' ∧ s'.context = s.context := by
  have hpriv : s.context.derefIf (hasPrivateData ty) .privateData = .ok () :=
    derefIf_ok h.privateData
  simp only [txGenerationThreadRoutine, hpriv, bind, Except.bind]
  split <;> exact ⟨_, rfl, rfl⟩

/-- A timer of a thread whose pointers are set does not fault, and leaves them as
they are. -/
theorem fire_ok (h : Usable prog.app ty s.context) (e : Timer × Occasion) :
    ∃ s', fire prog ty s e = .ok s' ∧ s'.context = s.context := by
  obtain ⟨t, o⟩ := e
  cases t with
  | rx => exact rxThreadRoutine_ok h o
  | tx => exact txThreadRoutine_ok h o
  | txGen =>
    rw [fire]
    split
    · exact txGenerationThreadRoutine_ok h
    · exact ⟨s, rfl, rfl⟩

@[simp] theorem threadSetup_isSet (prog : Program) (ty : FrameType) (ctx : Context C) (p : Pointer) :
    (threadSetup prog ty ctx).isSet p = ctx.isSet p := by
  cases ty <;> cases p <;> rfl

theorem Usable.setup (h : Usable prog.app ty ctx) : Usable prog.app ty (threadSetup prog ty ctx) := by
  constructor
  · simpa using h.privateData
  · simpa using h.mbufs
  · simpa using h.tx
  · simpa using h.rx
  · simpa using h.payload

/-- **A thread with its pointers set never faults**, in whichever order its timers
fire. -/
theorem Usable.neverFaults (h : Usable prog.app ty ctx) : NeverFaults prog ty ctx := by
  intro events
  have hroutine : threadsRoutine prog ty ctx = .ok (threadSetup prog ty ctx) := by
    rw [threadsRoutine, derefIf_ok h.privateData]
    rfl
  have hfire (s : ThreadState C) (e : Timer × Occasion) (hs : Usable prog.app ty s.context) :
      ∃ s', fire prog ty s e = .ok s' ∧ Usable prog.app ty s'.context := by
    obtain ⟨s', hone, hctx⟩ := fire_ok hs e
    exact ⟨s', hone, hctx ▸ hs⟩
  have hstart : Usable prog.app ty
      (⟨threadSetup prog ty ctx, false, false, false, 0⟩ : ThreadState C).context := h.setup
  obtain ⟨s, hs, -⟩ := foldlM_total hfire events hstart
  rw [runThread, hroutine]
  exact ⟨s, hs⟩

end run

/-! ## What a launch gives -/

section launched
variable {prog : Program} {calls : Calls C} {ty : FrameType} {s t : Created C}

/-- What an active class's create function does to the context it begins with. -/
structure Filled (cfg : AppConfig) (ty : FrameType) (before after : Context C) : Prop where
  privateData : after.privateData = before.privateData
  payloadPattern : after.payloadPattern = before.payloadPattern
  mbufs : after.mbufs = some maxPktBurst
  metaDataOffset : after.metaDataOffset = getMetaDataOffset ty (cfg.mode ty)
  txSecurityContext : cfg.mode ty ≠ .none → after.txSecurityContext.isSome = true
  rxSecurityContext : cfg.mode ty ≠ .none → after.rxSecurityContext.isSome = true

theorem finish_ok {mode : SecurityMode} {noMbufs : Failure}
    (h : finish prog calls mode noMbufs ty s = .ok t) :
    t.context = { s.context with
        metaDataOffset := getMetaDataOffset ty mode, mbufs := some maxPktBurst } ∧
      tsnSetVlanQid s.vid2qid (launchVid prog.app ty) (lport2qid (prog.lportId ty)) =
        some t.vid2qid := by
  unfold finish at h
  split at h
  · cases hv : tsnSetVlanQid s.vid2qid (launchVid prog.app ty) (lport2qid (prog.lportId ty)) with
    | some v =>
      rw [hv] at h
      cases h
      exact ⟨rfl, rfl⟩
    | none =>
      rw [hv] at h
      cases h
  · cases h

theorem initSecurity_ok {mode : SecurityMode} {ctx ctx' : Context C}
    (h : initSecurity calls mode ctx = .ok ctx') :
    ∃ tx rx, ctx' = { ctx with txSecurityContext := tx, rxSecurityContext := rx } ∧
      (mode ≠ .none → tx.isSome = true ∧ rx.isSome = true) := by
  unfold initSecurity at h
  split at h
  · rename_i hmode
    cases h
    exact ⟨none, none, rfl, fun hne => absurd hmode hne⟩
  · split at h
    · rename_i tx rx _ _
      cases h
      exact ⟨some tx, some rx, rfl, fun _ => ⟨rfl, rfl⟩⟩
    · cases h

theorem secure_filled (hsec : hasSecurity ty = true) (h : secure prog calls ty s = .ok t) :
    Filled prog.app ty s.context t.context ∧
      tsnSetVlanQid s.vid2qid (launchVid prog.app ty) (lport2qid (prog.lportId ty)) =
        some t.vid2qid := by
  have hmode : prog.app.mode ty = (prog.app.cls ty).securityMode := if_pos hsec
  obtain ⟨ctx, hctx, h⟩ := bind_ok_iff.mp h
  obtain ⟨tx, rx, rfl, hset⟩ := initSecurity_ok hctx
  obtain ⟨hfin, hvlan⟩ := finish_ok h
  refine ⟨?_, hvlan⟩
  rw [hfin]
  rw [← hmode] at hset ⊢
  exact ⟨rfl, rfl, rfl, rfl, fun hne => (hset hne).1, fun hne => (hset hne).2⟩

theorem plain_filled (hsec : hasSecurity ty = false)
    (h : finish prog calls .none .rteExit ty s = .ok t) :
    Filled prog.app ty s.context t.context ∧
      tsnSetVlanQid s.vid2qid (launchVid prog.app ty) (lport2qid (prog.lportId ty)) =
        some t.vid2qid := by
  have hmode : prog.app.mode ty = .none := by simp [AppConfig.mode, hsec]
  obtain ⟨hfin, hvlan⟩ := finish_ok h
  refine ⟨?_, hvlan⟩
  rw [hfin]
  exact ⟨rfl, rfl, rfl, by rw [hmode], fun hne => absurd hmode hne, fun hne => absurd hmode hne⟩

/-- The context of an active class before the steps that all classes share. -/
def begun (cfg : AppConfig) (ty : FrameType) : Context C :=
  let frameLength := (cfg.cls ty).frameLength
  { Context.zero with
    privateData := if hasPrivateData ty then some (cfg.cls ty) else none
    payloadPattern := if ty = .rtc then some frameLength.toNat else none
    payloadPatternLength := if ty = .rtc then frameLength else 0 }

/-- The context of a class that is enabled but not active. -/
def idle (cfg : AppConfig) (ty : FrameType) : Context C :=
  match ty with
  | .udpHigh | .udpLow => { Context.zero with privateData := some (cfg.cls ty) }
  | _ => .zero

theorem configured_ok {init : Created C → Except Failure (Created C)}
    (h : configured calls init s = .ok t) : init s = .ok t := by
  unfold configured at h
  split at h
  · exact h
  · cases h

/-- The create function of an active class fills its context. -/
theorem create_filled {vid2qid : Mem UInt16} (hact : prog.app.isActive ty = true)
    (h : create prog calls ty ⟨.zero, vid2qid⟩ = .ok s) :
    Filled prog.app ty (begun prog.app ty) s.context ∧
      tsnSetVlanQid vid2qid (launchVid prog.app ty) (lport2qid (prog.lportId ty)) =
        some s.vid2qid := by
  cases ty with
  | tsnHigh | tsnLow =>
    have h := configured_ok h
    rw [tsnThreadsInit, if_pos hact] at h
    exact secure_filled rfl h
  | rtc =>
    rw [create, rtcThreadsCreate, if_pos hact] at h
    simp only at h
    split at h
    · exact secure_filled rfl h
    · cases h
  | rta =>
    rw [create, rtaThreadsCreate, if_pos hact] at h
    exact secure_filled rfl h
  | dcp | lldp | l2 =>
    have h : plainThreadsCreate prog calls _ _ = .ok s := h
    rw [plainThreadsCreate, if_pos hact] at h
    exact plain_filled rfl h
  | udpHigh | udpLow =>
    have h := configured_ok h
    rw [udpThreadsCreate, plainThreadsCreate, if_pos hact] at h
    exact plain_filled rfl h

/-- That of another class leaves the context as it is but for the private data of
UDP. -/
theorem create_idle {vid2qid : Mem UInt16} (hidle : prog.app.isActive ty = false)
    (h : create prog calls ty ⟨.zero, vid2qid⟩ = .ok s) :
    s = ⟨idle prog.app ty, vid2qid⟩ := by
  have hnot : ¬ prog.app.isActive ty = true := by simp [hidle]
  cases ty with
  | tsnHigh | tsnLow =>
    have h := configured_ok h
    rw [tsnThreadsInit, if_neg hnot] at h
    cases h
    rfl
  | rtc =>
    rw [create, rtcThreadsCreate, if_neg hnot] at h
    cases h
    rfl
  | rta =>
    rw [create, rtaThreadsCreate, if_neg hnot] at h
    cases h
    rfl
  | dcp | lldp | l2 =>
    have h : plainThreadsCreate prog calls _ _ = .ok s := h
    rw [plainThreadsCreate, if_neg hnot] at h
    cases h
    rfl
  | udpHigh | udpLow =>
    have h := configured_ok h
    rw [udpThreadsCreate, plainThreadsCreate, if_neg hnot] at h
    cases h
    rfl

/-- A thread is started: the class is enabled, and its create function came back. -/
theorem launch_started {vid2qid : Mem UInt16} (h : launch prog calls ty vid2qid = .ok (some s)) :
    (prog.app.cls ty).enabled = true ∧ create prog calls ty ⟨.zero, vid2qid⟩ = .ok s := by
  unfold launch at h
  split at h
  · rename_i hen
    refine ⟨hen, ?_⟩
    cases hc : create prog calls ty ⟨.zero, vid2qid⟩ with
    | ok s' =>
      simp only [hc] at h
      split at h
      · cases h
      · split at h
        · cases h
        · cases h
          rfl
    | error e =>
      cases e <;>
      · simp only [hc] at h
        cases h
  · cases h

theorem launch_filled {vid2qid : Mem UInt16} (hact : prog.app.isActive ty = true)
    (h : launch prog calls ty vid2qid = .ok (some s)) :
    Filled prog.app ty (begun prog.app ty) s.context :=
  (create_filled hact (launch_started h).2).1

/-- The launch is the one that gives the class its entry in the table. -/
theorem launch_threadsCreate {vid2qid : Mem UInt16}
    (h : launch prog calls ty vid2qid = .ok (some s)) :
    threadsCreate prog.app prog.lportId vid2qid ty = some s.vid2qid := by
  have hcreate := (launch_started h).2
  cases hact : prog.app.isActive ty with
  | true =>
    rw [threadsCreate, if_pos hact]
    exact (create_filled hact hcreate).2
  | false =>
    rw [threadsCreate, hact, create_idle hact hcreate]
    rfl

/-- An active class gets a payload buffer only if it is RTC. -/
theorem launch_payloadPattern {vid2qid : Mem UInt16} (hact : prog.app.isActive ty = true)
    (h : launch prog calls ty vid2qid = .ok (some s)) :
    s.context.payloadPattern =
      if ty = .rtc then some (prog.app.cls ty).frameLength.toNat else none :=
  (launch_filled hact h).payloadPattern

/-- There is a buffer where the model of the receive and transmit functions has
one. -/
theorem launch_threadSetup {vid2qid : Mem UInt16} (hact : prog.app.isActive ty = true)
    (h : launch prog calls ty vid2qid = .ok (some s)) (tx rx : C) :
    (threadSetup prog ty s.context).payloadPattern.isSome =
      (Thread.threadSetup prog.app ty tx rx).payloadPattern.isSome := by
  have hset := threadSetup_isSet prog ty s.context .payloadPattern
  rw [Context.isSet, Context.isSet, launch_payloadPattern hact h] at hset
  rw [hset]
  show (if ty = .rtc then some _ else none).isSome = (if ty = .rtc then some _ else none).isSome
  by_cases hrtc : ty = .rtc
  · rw [if_pos hrtc, if_pos hrtc]
    rfl
  · rw [if_neg hrtc, if_neg hrtc]
    rfl

/-- All calls of a launch succeed. -/
structure Calls.Granted (calls : Calls C) : Prop where
  threadConfiguration : calls.threadConfiguration = true
  payloadPattern : calls.payloadPattern = true
  txSecurityContext : calls.txSecurityContext.isSome = true
  rxSecurityContext : calls.rxSecurityContext.isSome = true
  mbufs : calls.mbufs = true
  lcoreRunning : calls.lcoreRunning = false
  remoteLaunch : calls.remoteLaunch = 0

theorem exists_finish (hcalls : calls.Granted)
    (hvid : 0 < launchVid prog.app ty ∧ launchVid prog.app ty < rteEtherMaxVlanId)
    (mode : SecurityMode) (noMbufs : Failure) (s : Created C) :
    ∃ t, finish prog calls mode noMbufs ty s = .ok t := by
  rw [finish, if_pos hcalls.mbufs, tsnSetVlanQid, if_pos hvid]
  exact ⟨_, rfl⟩

theorem exists_secure (hcalls : calls.Granted)
    (hvid : 0 < launchVid prog.app ty ∧ launchVid prog.app ty < rteEtherMaxVlanId)
    (s : Created C) : ∃ t, secure prog calls ty s = .ok t := by
  obtain ⟨tx, htx⟩ := Option.isSome_iff_exists.mp hcalls.txSecurityContext
  obtain ⟨rx, hrx⟩ := Option.isSome_iff_exists.mp hcalls.rxSecurityContext
  obtain ⟨ctx, hctx⟩ :
      ∃ ctx, initSecurity calls (prog.app.cls ty).securityMode s.context = .ok ctx := by
    rw [initSecurity, htx, hrx]
    split <;> exact ⟨_, rfl⟩
  obtain ⟨t, ht⟩ := exists_finish hcalls hvid (prog.app.cls ty).securityMode
    (.returned (-enomem)) { s with context := ctx }
  refine ⟨t, ?_⟩
  rw [secure, hctx]
  exact ht

/-- **A launch whose calls succeed starts a thread**, if its class is enabled: the
VLAN id matters only to an active one. -/
theorem exists_launched (hcalls : calls.Granted) (hen : (prog.app.cls ty).enabled = true)
    (hvid : prog.app.isActive ty = true →
      0 < launchVid prog.app ty ∧ launchVid prog.app ty < rteEtherMaxVlanId)
    (vid2qid : Mem UInt16) : ∃ s, launch prog calls ty vid2qid = .ok (some s) := by
  have hcreate : ∃ s, create prog calls ty ⟨.zero, vid2qid⟩ = .ok s := by
    have hplain (ty : FrameType) (s : Created C) (hvid : prog.app.isActive ty = true →
        0 < launchVid prog.app ty ∧ launchVid prog.app ty < rteEtherMaxVlanId) :
        ∃ t, plainThreadsCreate prog calls ty s = .ok t := by
      unfold plainThreadsCreate
      split
      · rename_i hact
        exact exists_finish hcalls (hvid hact) _ _ _
      · exact ⟨s, rfl⟩
    cases ty with
    | tsnHigh | tsnLow =>
      simp only [create, tsnHighThreadsInit, tsnLowThreadsInit, configured,
        hcalls.threadConfiguration, if_true, tsnThreadsInit]
      split
      · rename_i hact
        exact exists_secure hcalls (hvid hact) _
      · exact ⟨_, rfl⟩
    | rtc =>
      simp only [create, rtcThreadsCreate, hcalls.payloadPattern, if_true]
      split
      · rename_i hact
        exact exists_secure hcalls (hvid hact) _
      · exact ⟨_, rfl⟩
    | rta =>
      simp only [create, rtaThreadsCreate]
      split
      · rename_i hact
        exact exists_secure hcalls (hvid hact) _
      · exact ⟨_, rfl⟩
    | dcp | lldp | l2 => exact hplain _ _ hvid
    | udpHigh | udpLow =>
      simp only [create, udpHighThreadsInit, udpLowThreadsInit, configured,
        hcalls.threadConfiguration, if_true]
      exact hplain _ _ hvid
  obtain ⟨s, hs⟩ := hcreate
  refine ⟨s, ?_⟩
  rw [launch, if_pos hen, hs]
  simp [hcalls.lcoreRunning, hcalls.remoteLaunch]

/-! ## Threads that fault -/

/-- A TSN thread without frames ends at its first statement. -/
theorem idle_tsn_faults {vid2qid : Mem UInt16} (hty : ty = .tsnHigh ∨ ty = .tsnLow)
    (hzero : (prog.app.cls ty).numFramesPerCycle = 0)
    (h : launch prog calls ty vid2qid = .ok (some s)) (events : List (Timer × Occasion)) :
    runThread prog ty s.context events = .error .privateData := by
  have hidle : prog.app.isActive ty = false := by simp [AppConfig.isActive, hzero]
  rw [runThread, threadsRoutine, create_idle hidle (launch_started h).2]
  rcases hty with rfl | rfl <;> rfl

/-- Sealing a frame with AE and without a payload buffer. -/
theorem sealFrame_faults {ctx : Context C} {p : Pointer} (hp : ctx.isSet p = true)
    (hnone : ctx.isSet .payloadPattern = false) (hlen : ctx.payloadPatternLength ≠ 0) :
    ctx.sealFrame .ae p true = .error .payloadPattern := by
  have hctx : ctx.derefIf (decide (SecurityMode.ae ≠ .none)) p = .ok () := derefIf_ok fun _ => hp
  have hbuf : ctx.derefIf (decide (SecurityMode.ae = .ae) && true &&
      decide (ctx.payloadPatternLength ≠ 0)) .payloadPattern = .error .payloadPattern := by
    simp only [hlen, ne_eq, not_false_eq_true, decide_true, Bool.and_self]
    exact derefIf_unset hnone
  rw [Context.sealFrame, hctx]
  exact hbuf

theorem rxThreadRoutine_faults {st : ThreadState C} {o : Occasion} {frames : List (Option Bool)}
    (hmode : prog.app.mode ty = .ae) (hn : nbPkts (prog.app.cls ty) ≠ 0)
    (hpriv : hasPrivateData ty = true → st.context.isSet .privateData = true)
    (hmbufs : st.context.isSet .mbufs = true) (hrx : st.context.isSet .rxSecurityContext = true)
    (hnone : st.context.isSet .payloadPattern = false) (hlen : st.context.payloadPatternLength ≠ 0)
    (hdone : st.rxDoOnce = true) (ho : o.received = some true :: frames) :
    rxThreadRoutine prog ty o st = .error .payloadPattern := by
  obtain ⟨n, hburst⟩ : ∃ n, (burstSz (prog.app.cls ty)).toUInt32.toUInt16.toNat = n + 1 := by
    apply Nat.exists_eq_succ_of_ne_zero
    rw [burstSz_toUInt16]
    exact fun hzero => hn (UInt16.toNat_inj.mp hzero)
  have hderef : st.context.derefIf (hasPrivateData ty) .privateData = .ok () := derefIf_ok hpriv
  have harray (b : Bool) : st.context.derefIf b .mbufs = .ok () := derefIf_ok fun _ => hmbufs
  have hfirst := sealFrame_faults hrx hnone hlen
  simp only [rxThreadRoutine, hdone, Bool.not_true, Bool.false_eq_true, if_false, hderef, harray,
    hburst, ho, List.take_succ_cons, List.reduceOption_cons_of_some, Context.sealFrames, hmode,
    hfirst, bind, Except.bind]

/-- With AE the classes other than RTC fault at the first frame that is received
and sealed again, if it has a payload. -/
theorem ae_faults {vid2qid : Mem UInt16} (hmode : prog.app.mode ty = .ae) (hrtc : ty ≠ .rtc)
    (hn : nbPkts (prog.app.cls ty) ≠ 0) (hlen : payloadSize (prog.app.cls ty).frameLength ≠ 0)
    (h : launch prog calls ty vid2qid = .ok (some s)) :
    ∃ events, runThread prog ty s.context events = .error .payloadPattern := by
  let ctx := threadSetup prog ty s.context
  have hsec : hasSecurity ty = true := by
    by_contra hsec
    rw [AppConfig.mode, if_neg hsec] at hmode
    cases hmode
  have hact : prog.app.isActive ty = true := by
    have hne : (prog.app.cls ty).numFramesPerCycle ≠ 0 := fun hzero => hn (by rw [nbPkts, hzero]; rfl)
    simp [AppConfig.isActive, (launch_started h).1, UInt64.pos_iff_ne_zero.2 hne]
  have hfill := launch_filled hact h
  have hpriv : hasPrivateData ty = true → ctx.isSet .privateData = true := by
    intro hty
    rw [threadSetup_isSet, Context.isSet, hfill.privateData, begun]
    simp [hty]
  have hmbufs : ctx.isSet .mbufs = true := by
    rw [threadSetup_isSet, Context.isSet, hfill.mbufs]
    rfl
  have hrx : ctx.isSet .rxSecurityContext = true := by
    rw [threadSetup_isSet]
    exact hfill.rxSecurityContext (by rw [hmode]; decide)
  have hnone : ctx.isSet .payloadPattern = false := by
    rw [threadSetup_isSet, Context.isSet, launch_payloadPattern hact h, if_neg hrtc]
    rfl
  have hlength : ctx.payloadPatternLength ≠ 0 := by
    cases ty with
    | tsnHigh | tsnLow | rtc | rta => exact hlen
    | dcp | lldp | udpHigh | udpLow | l2 => cases hsec
  let o : Occasion := ⟨false, [some true], none⟩
  refine ⟨[(.rx, o), (.rx, o)], ?_⟩
  have hroutine : threadsRoutine prog ty s.context = .ok ctx := by
    rw [threadsRoutine, derefIf_ok (by simpa [ctx] using hpriv)]
    rfl
  have hsecond : rxThreadRoutine prog ty o (⟨ctx, true, false, false, 0⟩ : ThreadState C) =
      .error .payloadPattern :=
    rxThreadRoutine_faults hmode hn hpriv hmbufs hrx hnone hlength rfl rfl
  rw [runThread, hroutine]
  show (rxThreadRoutine prog ty o (⟨ctx, true, false, false, 0⟩ : ThreadState C) >>= fun s =>
    [].foldlM (fire prog ty) s) = _
  rw [hsecond]
  rfl

/-! ## The main result -/

end launched

/-! Files for a class that is launched with all it needs, for one with AE, and for
one without frames. -/

/-- Calls that succeed. -/
def granted : Calls Unit := ⟨true, true, some (), some (), true, false, 0⟩

theorem granted_granted : granted.Granted := ⟨rfl, rfl, rfl, rfl, rfl, rfl, rfl⟩

/-- TSN High with AE, and TSN Low enabled without frames. -/
def aeFile : File :=
  ⟨true, entry "TsnHighEnabled" "true" ++ entry "TsnHighNumFramesPerCycle" "1" ++
    entry "TsnHighFrameLength" "128" ++ entry "TsnHighSecurityMode" "ae" ++
    entry "TsnHighSecurityAlgorithm" "aes128-gcm" ++
    entry "TsnHighSecurityKey" "0123456789abcdef" ++ entry "TsnHighSecurityIvPrefix" "012345" ++
    entry "TsnLowEnabled" "true" ++ entry "TsnLowNumFramesPerCycle" "0" ++ [.streamEnd]⟩

end Rtdk.Launch
