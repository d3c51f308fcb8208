import Rtdk.Handlers

/-! Log calls never influence a receive handler: it reads no log and only
appends to it. `mute` empties the log of a world and `relog l` puts `l` in front
of the log of a result, so each step of a handler on a world `w` is the same
step on `w.mute`, with `w.log` put in front (`decode_relog`, `accept_relog`,
`rxOne_relog`, `rxBurst_relog`). -/

namespace Rtdk.LogOnly
open Rtdk.Memory Rtdk.NetDef Rtdk.Security Rtdk.Stat Rtdk.Lport Rtdk.Config Rtdk.Frame
open Rtdk.Thread Rtdk.Receive Rtdk.Handlers

variable {C D : Type}

def mute (w : World C D) : World C D := { w with log := [] }

/-- The world with `l` in front of its log. -/
def logged (l : List LogEntry) (w : World C D) : World C D := { w with log := l ++ w.log }

/-- Put `l` in front of the log of a result; `f` does so in a result that is no stop. -/
def relog {α : Type} (f : List LogEntry → α → α) (l : List LogEntry) :
    Except Stop α → Except Stop α
  | .ok a => .ok (f l a)
  | .error e => .error ⟨e.reason, l ++ e.log⟩

def Received.logged (l : List LogEntry) (r : Received C D) : Received C D :=
  { r with world := LogOnly.logged l r.world }

def Handled.logged (l : List LogEntry) (r : Handled C D) : Handled C D :=
  { r with world := LogOnly.logged l r.world }

def RxState.logged (l : List LogEntry) (s : RxState C D) : RxState C D :=
  { s with world := LogOnly.logged l s.world }

theorem logged_mute (w : World C D) : logged w.log (mute w) = w := by
  simp [logged, mute]

@[simp] theorem logged_log (l : List LogEntry) (w : World C D) :
    (logged l w).log = l ++ w.log := rfl

/-! ## Decoding -/

theorem aeDecode_relog (env : Env C D) (c : ClassConfig) (text : UInt64 → LogEntry)
    (l : List LogEntry) (w : World C D) (p : Mem UInt8) (m : Mbuf) (off : Nat) (stamp : UInt64) :
    aeDecode env c text (logged l w) p m off stamp =
      relog Received.logged l (aeDecode env c text w p m off stamp) := by
  simp only [aeDecode, logged]
  split
  · simp only [relog, List.append_assoc]
  · simp only [relog, Received.logged, World.sealed, logged, List.append_assoc]

theorem profinetDecode_relog (env : Env C D) (c : ClassConfig) (ao ae : UInt64 → LogEntry)
    (l : List LogEntry) (w : World C D) (p : Mem UInt8) (m : Mbuf) (lay : Layout) :
    profinetDecode env c ao ae (logged l w) p m lay =
      relog Received.logged l (profinetDecode env c ao ae w p m lay) := by
  unfold profinetDecode
  cases c.securityMode with
  | none => rfl
  | ao => simp [relog, Received.logged, aoDecode, logged, World.sealed, World.tick, World.now]
  | ae => exact aeDecode_relog env c ae l w.tick p m lay.off _

theorem decode_relog (env : Env C D) (ty : FrameType) (l : List LogEntry) (w : World C D)
    (p : Mem UInt8) (m : Mbuf) (lay : Layout) :
    (rxHandler env ty).decode (logged l w) p m lay =
      relog Received.logged l ((rxHandler env ty).decode w p m lay) := by
  cases ty with
  | tsnHigh => exact profinetDecode_relog env _ _ _ l w p m lay
  | tsnLow => exact profinetDecode_relog env _ _ _ l w p m lay
  | rtc => exact profinetDecode_relog env _ _ _ l w p m lay
  | rta => exact profinetDecode_relog env _ _ _ l w p m lay
  | dcp => rfl
  | lldp => rfl
  | udpHigh => rfl
  | udpLow => rfl
  | l2 => rfl

theorem forward_logged (env : Env C D) (ty : FrameType) (l : List LogEntry) (w : World C D)
    (m : Mbuf) (lay : Layout) :
    (rxHandler env ty).forward (logged l w) m lay =
      (logged l ((rxHandler env ty).forward w m lay).1, ((rxHandler env ty).forward w m lay).2) := by
  cases ty <;> rfl

/-! ## Frames and bursts -/

theorem account_relog (env : Env C D) (h : RxHandler C D) (l : List LogEntry) (r : Received C D)
    (v : Verdict) :
    h.account env (Received.logged l r) v = relog logged l (h.account env r v) := by
  unfold RxHandler.account World.applyStat
  simp only [Received.logged, logged, World.tick, World.now]
  split
  · simp only [relog, List.append_assoc]
  · simp only [relog, logged, List.append_assoc]

theorem conclude_relog (env : Env C D) (ty : FrameType) (l : List LogEntry) (w : World C D)
    (r : Received C D) (v : Verdict) (lay : Layout) :
    (rxHandler env ty).conclude env (logged l w) (Received.logged l r) v lay =
      relog (fun l p => (logged l p.1, p.2)) l ((rxHandler env ty).conclude env w r v lay) := by
  have hset (x : UInt64) : (logged l w).setRx x = logged l (w.setRx x) := rfl
  have hsay (w : World C D) (es : List LogEntry) : (logged l w).say es = logged l (w.say es) := by
    simp [logged, World.say]
  unfold RxHandler.conclude
  simp only [hset, hsay, forward_logged, Received.logged]
  cases v.frameIdMismatch with
  | true => rfl
  | false =>
    cases v.outOfOrder with
    | true =>
      cases (rxHandler env ty).resync <;> rfl
    | false =>
      cases v.payloadMismatch with
      | true =>
        cases hp : (rxHandler env ty).payloadText r.sequenceCounter r.payload with
        | ok entry => simp [relog, logged]
        | error reason => simp [relog, logged]
      | false => cases env.mirrorMode <;> rfl

theorem verdict_logged (h : RxHandler C D) (l : List LogEntry) (r : Received C D) :
    h.verdict (Received.logged l r) = h.verdict r := rfl

theorem accept_relog (env : Env C D) (ty : FrameType) (l : List LogEntry) (w : World C D)
    (p : Mem UInt8) (m : Mbuf) (lay : Layout) :
    (rxHandler env ty).accept env (logged l w) p m lay =
      relog Handled.logged l ((rxHandler env ty).accept env w p m lay) := by
  unfold RxHandler.accept
  rw [decode_relog]
  cases hd : (rxHandler env ty).decode w p m lay with
  | error e => rfl
  | ok r =>
    simp only [relog, bind, Except.bind, verdict_logged, account_relog]
    cases ha : (rxHandler env ty).account env r ((rxHandler env ty).verdict r) with
    | error e => rfl
    | ok w' =>
      simp only [relog, conclude_relog]
      cases (rxHandler env ty).conclude env w' r ((rxHandler env ty).verdict r) lay <;> rfl

/-- One pass of the loop body on a world is the pass on the muted world. -/
theorem rxOne_relog (env : Env C D) (ty : FrameType) (l : List LogEntry) (s : RxState C D)
    (m : Mbuf) :
    rxOne env (rxHandler env ty) (RxState.logged l s) m =
      relog (fun l p => (RxState.logged l p.1, p.2)) l (rxOne env (rxHandler env ty) s m) := by
  unfold rxOne
  simp only [RxState.logged]
  cases (rxHandler env ty).check s.expectedFrameLength m with
  | mk e checked =>
    cases checked with
    | error entry => simp [relog, logged, World.say]
    | ok lay =>
      simp only [accept_relog]
      cases (rxHandler env ty).accept env s.world s.plaintext m lay <;> rfl

theorem rxBurst_relog (env : Env C D) (ty : FrameType) (l : List LogEntry) (ms : List Mbuf)
    (s : RxState C D) :
    rxBurst env (rxHandler env ty) (RxState.logged l s) ms =
      relog (fun l p => (RxState.logged l p.1, p.2)) l (rxBurst env (rxHandler env ty) s ms) := by
  induction ms generalizing s with
  | nil => rfl
  | cons m ms ih =>
    simp only [rxBurst, rxOne_relog]
    cases rxOne env (rxHandler env ty) s m with
    | error e => rfl
    | ok p =>
      simp only [relog, bind, Except.bind, ih]
      cases rxBurst env (rxHandler env ty) p.1 ms <;> rfl

end Rtdk.LogOnly
