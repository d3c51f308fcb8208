import Mathlib.Logic.Relation
import Rtdk.SecureTx

/-! A reference node and a mirror node of one class.

The reference generates bursts; the mirror handles what arrives from the
reference and sends its transmit buffer; the reference handles what comes back.
The link may lose, delay, reorder and repeat frames: a frame that arrives is
some frame the other side's device once took, unmodified. A run is any sequence
of these steps. -/

namespace Rtdk.Network
open Rtdk.Memory Rtdk.Endian Rtdk.NetDef Rtdk.Security Rtdk.Stat Rtdk.Lport Rtdk.Config Rtdk.Frame
open Rtdk.Thread Rtdk.Receive Rtdk.Handlers Rtdk.Checks Rtdk.Builder Rtdk.Decode Rtdk.Generate
open Rtdk.Sealing Rtdk.Reseal

variable {C D C' D' : Type}

structure Net (C D C' D' : Type) where
  ref : World C D
  mirror : World C' D'

/-- The burst consists of frames the other side sent. -/
def ComesFrom (sent ms : List Mbuf) : Prop := ∀ m ∈ ms, ∃ f ∈ sent, Arrives f.wire m

/-- What a group of results assumes of the states before certain steps. -/
structure Guards (C D C' D' : Type) where
  generate : World C D → Prop
  mirrorRx : World C' D' → List Mbuf → Prop
  refRx : World C D → List Mbuf → Prop

def Guards.any : Guards C D C' D' := ⟨fun _ => True, fun _ _ => True, fun _ _ => True⟩

inductive Step (g : Guards C D C' D') (env : Env C D) (envM : Env C' D') (ty : FrameType) :
    Net C D C' D' → Net C D C' D' → Prop
  | generate {net : Net C D C' D'} {w : World C D} (mbufs : Option (List Mbuf))
      (hg : g.generate net.ref)
      (hlen : ∀ ms, mbufs = some ms → ms.length = (env.app.cls ty).numFramesPerCycle.toUInt16.toNat)
      (h : genAndSendFrames env ty (env.app.cls ty).numFramesPerCycle mbufs net.ref = .ok w) :
      Step g env envM ty net { net with ref := w }
  | mirrorRx {net : Net C D C' D'} {w : World C' D'} {freed : List Mbuf} (stack : Mem UInt8)
      (ms : List Mbuf) (hg : g.mirrorRx net.mirror ms) (hms : ComesFrom net.ref.tx.sent ms)
      (h : rxFrame envM ty stack net.mirror ms = .ok (w, freed)) :
      Step g env envM ty net { net with mirror := w }
  | mirrorTx {net : Net C D C' D'} {w : World C' D'}
      (h : sendFramesCommon envM ty (envM.app.cls ty).numFramesPerCycle net.mirror = .ok w) :
      Step g env envM ty net { net with mirror := w }
  | refRx {net : Net C D C' D'} {w : World C D} {freed : List Mbuf} (stack : Mem UInt8)
      (ms : List Mbuf) (hg : g.refRx net.ref ms) (hms : ComesFrom net.mirror.tx.sent ms)
      (h : rxFrame env ty stack net.ref ms = .ok (w, freed)) :
      Step g env envM ty net { net with ref := w }

def Net.start (env : Env C D) (envM : Env C' D') (ty : FrameType) (ctx : C) (dev : D) (ctxM : C')
    (devM : D') : Net C D C' D' :=
  ⟨World.fresh env ty ctx dev, World.fresh envM ty ctxM devM⟩

/-- Runs of the two nodes. -/
abbrev Run (g : Guards C D C' D') (env : Env C D) (envM : Env C' D') (ty : FrameType) :=
  Relation.ReflTransGen (Step g env envM ty)

/-- One cycle of the reference, of which the mirror gets all frames in one burst. -/
theorem run_cycle {g : Guards C D C' D'} {env : Env C D} {envM : Env C' D'} {ty : FrameType}
    (net : Net C D C' D') {mbufs : List Mbuf} {stack : Mem UInt8} {w : World C D} {w' : World C' D'}
    {freed : List Mbuf} (hg : g.generate net.ref) (hgM : g.mirrorRx net.mirror w.tx.sent)
    (hlen : mbufs.length = (env.app.cls ty).numFramesPerCycle.toUInt16.toNat)
    (hgen : genAndSendFrames env ty (env.app.cls ty).numFramesPerCycle (some mbufs) net.ref = .ok w)
    (hseg : ∀ m ∈ w.tx.sent, m.pktLen = m.dataLen.toUInt32)
    (hrx : rxFrame envM ty stack net.mirror w.tx.sent = .ok (w', freed)) :
    Run g env envM ty net ⟨w, w'⟩ := by
  have hfirst : Step g env envM ty net { net with ref := w } :=
    Step.generate (some mbufs) hg (fun ms h => by rw [← Option.some.inj h]; exact hlen) hgen
  have hsecond : Step g env envM ty { net with ref := w }
      { ({ net with ref := w } : Net C D C' D') with mirror := w' } :=
    Step.mirrorRx stack w.tx.sent hgM (fun m hm => ⟨m, hm, rfl, hseg m hm⟩) hrx
  exact .tail (.single hfirst) hsecond

/-! ## The mirror's transmit side -/

/-- Accounting for buffered frames touches statistics and log only. -/
theorem accountBuffered_ok {env : Env C D} {ty : FrameType} {n t : UInt64} {ms : List Mbuf}
    {w w' : World C D} (h : accountBuffered env ty n t w ms = .ok w') :
    w'.thread = w.thread ∧ w'.tx = w.tx ∧ w'.seals = w.seals ∧ w'.ticks = w.ticks := by
  induction ms generalizing w with
  | nil =>
    cases h
    exact ⟨rfl, rfl, rfl, rfl⟩
  | cons m ms ih =>
    simp only [accountBuffered, bind, Except.bind] at h
    split at h
    · cases h
    · rename_i w1 hstat
      have hw := (World.applyStat_ok hstat).2
      have hrest := ih h
      rw [hw] at hrest
      exact hrest

theorem accountBuffered_total {env : Env C D} {ty : FrameType} (n t : UInt64) (ms : List Mbuf)
    {w : World C D} (hb : HasBacklog env ty w) :
    ∃ w', accountBuffered env ty n t w ms = .ok w' := by
  induction ms generalizing w with
  | nil => exact ⟨w, rfl⟩
  | cons m ms ih =>
    have hs := statFrameSent_spec env.statConfig w.stat ty
      (metaDataToSequenceCounter m.data (env.metaDataOffset ty) n) t hb
    simp only [accountBuffered, World.applyStat, hs.1, bind, Except.bind]
    apply ih
    unfold HasBacklog
    rw [hs.2]
    exact hb

/-- Sending returns, unless there is no backlog to account in. -/
theorem sendFramesCommon_total {env : Env C D} {ty : FrameType} (n : UInt64) {w : World C D}
    (hb : HasBacklog env ty w) : ∃ w', sendFramesCommon env ty n w = .ok w' := by
  obtain ⟨w1, hacc⟩ := accountBuffered_total n (w.now env) w.tx.pkts (w := w.tick) hb
  simp only [sendFramesCommon, hacc, bind, Except.bind]
  exact ⟨_, rfl⟩

/-- Sending flushes the transmit buffer and adds nothing to it. -/
theorem sendFramesCommon_ok {env : Env C D} {ty : FrameType} {n : UInt64} {w w' : World C D}
    (h : sendFramesCommon env ty n w = .ok w') :
    w'.thread = w.thread ∧ w'.seals = w.seals ∧ w'.tx = lportSend env.dev w.tx ∧
      w'.ticks = w.ticks + 1 := by
  simp only [sendFramesCommon, bind, Except.bind] at h
  split at h
  · cases h
  · rename_i w1 hacc
    obtain ⟨hthread, htx, hseals, hticks⟩ := accountBuffered_ok hacc
    cases h
    exact ⟨hthread, hseals, congrArg (lportSend env.dev) htx, hticks⟩

end Rtdk.Network
