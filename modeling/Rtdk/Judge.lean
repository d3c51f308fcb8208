import Rtdk.Lossless
import Rtdk.Mirror
import Rtdk.Conserve

/-! A frame that has only its counter against it.

`accept_judged` says all that a handler does with a frame of its class whose
payload and frame id are right: statistics, report, receive counter, and where
the mbuf goes. It holds for every class, DCP included. -/

namespace Rtdk.Judge
open Rtdk.Memory Rtdk.Endian Rtdk.NetDef Rtdk.Security Rtdk.Stat Rtdk.Lport Rtdk.Config Rtdk.Frame
open Rtdk.Thread Rtdk.Receive Rtdk.Handlers Rtdk.Checks Rtdk.Builder Rtdk.Decode Rtdk.Generate
open Rtdk.Lossless Rtdk.Mirror Rtdk.Conserve

variable {C D : Type}

/-- The log calls of the class that report a frame as out of order. -/
def reports (ty : FrameType) (log : List LogEntry) : List LogEntry :=
  log.filter fun e => e.format == outOfOrderFormat ty

theorem reports_append (ty : FrameType) (l l' : List LogEntry) :
    reports ty (l ++ l') = reports ty l ++ reports ty l' :=
  List.filter_append ..

theorem reports_quiet {ty : FrameType} {l : List LogEntry}
    (h : ∀ e ∈ l, e.format ≠ outOfOrderFormat ty) : reports ty l = [] := by
  apply List.filter_eq_nil_iff.mpr
  intro e he
  simpa using h e he

theorem reports_received (cfg : StatConfig) (s : StatPrivate) (ty : FrameType) (n : UInt64)
    (o p f : Bool) (ts now : UInt64) :
    reports ty (statFrameReceived cfg s ty n o p f ts now).log = [] := by
  apply reports_quiet
  intro e he hfmt
  exact outOfOrderFormat_not_received ty (hfmt ▸ statFrameReceived_formats cfg s ty n o p f ts now e he)

theorem reports_outOfOrder (env : Env C D) (ty : FrameType) (k rx : UInt64) :
    reports ty [(rxHandler env ty).outOfOrderText k rx] =
      [(rxHandler env ty).outOfOrderText k rx] := by
  simp [reports, outOfOrderText_format]

/-- What a frame with counter `k` and the mbuf `id` does; `d` is the mbuf the
handler drops. -/
structure Judged (env : Env C D) (ty : FrameType) (k : UInt64) (id : Nat) (w w' : World C D)
    (d : Option Mbuf) : Prop where
  rx : w'.thread.rxSequenceCounter =
    rxAfter (rxHandler env ty).resync w.thread.rxSequenceCounter k
  errors : (w'.stat.globalStatistics ty).outOfOrderErrors =
    (w.stat.globalStatistics ty).outOfOrderErrors +
      (decide (k ≠ w.thread.rxSequenceCounter)).toUInt64
  received : (w'.stat.globalStatistics ty).framesReceived =
    (w.stat.globalStatistics ty).framesReceived + 1
  backlog : (w'.stat.roundTripContexts ty).backlogLen = (w.stat.roundTripContexts ty).backlogLen
  reported : reports ty w'.log = reports ty w.log ++
    if k = w.thread.rxSequenceCounter then []
    else [(rxHandler env ty).outOfOrderText k w.thread.rxSequenceCounter]
  added : w'.tx.added.map Mbuf.id = w.tx.added.map Mbuf.id ++
    if env.mirrorMode && decide (k = w.thread.rxSequenceCounter) then [id] else []
  dropped : d.toList.map Mbuf.id =
    if env.mirrorMode && decide (k = w.thread.rxSequenceCounter) then [] else [id]

/-- The drop decisions on a frame whose payload and frame id are right. -/
theorem conclude_judged (env : Env C D) (ty : FrameType) (w : World C D) (r : Received C D)
    (lay : Layout) :
    ∃ w' d, (rxHandler env ty).conclude env w r
        ⟨decide (r.sequenceCounter ≠ w.thread.rxSequenceCounter), false, false⟩ lay = .ok (w', d) ∧
      reports ty w'.log = reports ty w.log ++
        (if r.sequenceCounter = w.thread.rxSequenceCounter then []
        else [(rxHandler env ty).outOfOrderText r.sequenceCounter w.thread.rxSequenceCounter]) ∧
      w'.tx.added.map Mbuf.id = w.tx.added.map Mbuf.id ++
        (if env.mirrorMode && decide (r.sequenceCounter = w.thread.rxSequenceCounter)
        then [r.mbuf.id] else []) ∧
      d.toList.map Mbuf.id =
        if env.mirrorMode && decide (r.sequenceCounter = w.thread.rxSequenceCounter)
        then [] else [r.mbuf.id] := by
  unfold RxHandler.conclude
  by_cases hk : r.sequenceCounter = w.thread.rxSequenceCounter
  · simp only [hk, ne_eq, not_true_eq_false, decide_false, decide_true, Bool.false_eq_true, if_false,
      if_true, List.append_nil, Bool.and_true]
    cases env.mirrorMode with
    | false => exact ⟨_, _, rfl, rfl, (List.append_nil _).symm, rfl⟩
    | true =>
      have hfw := forward_world env ty (w.setRx (w.thread.rxSequenceCounter + 1)) r.mbuf lay
      refine ⟨_, _, rfl, ?_, ?_, rfl⟩
      · rw [World.enqueue_log, hfw.2.2.2.1]
        rfl
      · rw [World.enqueue_added, hfw.2.2.1, List.map_append, List.map_singleton, forward_id]
        rfl
  · simp only [hk, ne_eq, not_false_eq_true, decide_true, decide_false, Bool.false_eq_true, if_false,
      if_true, Bool.and_false, List.append_nil]
    refine ⟨_, _, rfl, ?_, ?_, rfl⟩
    · have hlog : reports ty (w.log ++
          [(rxHandler env ty).outOfOrderText r.sequenceCounter w.thread.rxSequenceCounter]) =
          reports ty w.log ++
            [(rxHandler env ty).outOfOrderText r.sequenceCounter w.thread.rxSequenceCounter] := by
        rw [reports_append, reports_outOfOrder]
      split <;> exact hlog
    · split <;> rfl

/-- Decoding found nothing wrong with the frame. -/
structure Sound (env : Env C D) (ty : FrameType) (w : World C D) (m : Mbuf) (r : Received C D) :
    Prop where
  log : r.world.log = w.log
  id : r.mbuf.id = m.id
  payload : r.payload = (env.app.cls ty).payloadPattern
  frameId : ∀ fid, (rxHandler env ty).expectedFrameId = some fid → r.frameId = fid

theorem Sound.verdict {env : Env C D} {ty : FrameType} {w : World C D} {m : Mbuf}
    {r : Received C D} (h : Sound env ty w m r) :
    (rxHandler env ty).verdict r =
      ⟨decide (r.sequenceCounter ≠ r.world.thread.rxSequenceCounter), false, false⟩ := by
  unfold RxHandler.verdict
  rw [handler_pattern, h.payload]
  congr
  · simp
  · split
    · rename_i fid hfid
      simp [h.frameId fid hfid]
    · rfl

/-- **One frame.**  A frame with the right payload and frame id is handled to
the end, unless an outlier ends the process. -/
theorem accept_judged (env : Env C D) (ty : FrameType) {w : World C D} {p : Mem UInt8} {m : Mbuf}
    {lay : Layout} {r : Received C D} (hdec : (rxHandler env ty).decode w p m lay = .ok r)
    (hsound : Sound env ty w m r) (hb : HasBacklog env ty w) :
    Outlier env ((rxHandler env ty).accept env w p m lay) ∨
      ∃ out, (rxHandler env ty).accept env w p m lay = .ok out ∧
        Judged env ty r.sequenceCounter m.id w out.world out.dropped := by
  have hspec := decode_spec env ty hdec
  have hrx : (⟨decide (r.sequenceCounter ≠ r.world.thread.rxSequenceCounter), false, false⟩ :
      Verdict) = ⟨decide (r.sequenceCounter ≠ w.thread.rxSequenceCounter), false, false⟩ := by
    rw [hspec.rx]
  unfold RxHandler.accept
  simp only [hdec, hsound.verdict, bind, Except.bind, RxHandler.account, World.applyStat, handler_ty]
  have hb' : env.statConfig.mirrorMode = true ∨
      (r.world.stat.roundTripContexts ty).backlogLen ≠ 0 := by
    rw [hspec.stat]
    exact hb
  rcases statFrameReceived_halt env.statConfig r.world.stat ty r.sequenceCounter
    (decide (r.sequenceCounter ≠ r.world.thread.rxSequenceCounter)) false false r.txTimestamp
    (r.world.now env) hb' with hh | ⟨hh, hstop⟩
  · right
    have hg := statFrameReceived_global hh
    have hrt := roundTrip_stat env.statConfig r.world.stat ty r.sequenceCounter (r.world.now env)
    have hfmt := reports_received env.statConfig r.world.stat ty r.sequenceCounter
      (decide (r.sequenceCounter ≠ r.world.thread.rxSequenceCounter)) false false r.txTimestamp
      (r.world.now env)
    simp only [hh]
    generalize statFrameReceived env.statConfig r.world.stat ty r.sequenceCounter _ _ _ _ _ = res
      at hg hfmt ⊢
    obtain ⟨w', d, hc, hrep, hadd, hdrop⟩ := conclude_judged env ty
      { r.world.tick with stat := res.stat, log := r.world.tick.log ++ res.log } r lay
    have hafter := conclude_rx env ty (w := { r.world.tick with
      stat := res.stat, log := r.world.tick.log ++ res.log }) rfl hc
    have hthread : ({ r.world.tick with
        stat := res.stat, log := r.world.tick.log ++ res.log } : World C D).thread.rxSequenceCounter =
        w.thread.rxSequenceCounter := hspec.rx
    rw [hthread] at hc hrep hadd hdrop hafter
    simp only [hrx, hc]
    refine ⟨_, rfl, hafter.2, ?_, ?_, ?_, ?_, ?_, ?_⟩
    · rw [hafter.1, hg.1]
      simp only [Statistics.addFrame, Statistics.addOneway]
      rw [hrt.1, hspec.stat, hspec.rx]
    · rw [hafter.1, hg.1]
      simp only [Statistics.addFrame, Statistics.addOneway]
      rw [hrt.2.1, hspec.stat]
    · rw [hafter.1, hg.2, hrt.2.2, hspec.stat]
    · rw [hrep]
      simp only [World.tick_log, reports_append, hfmt, List.append_nil, hsound.log]
    · rw [hadd, hsound.id]
      simp only [World.tick_tx, hspec.tx]
    · rw [hdrop, hsound.id]
  · left
    simp only [hh]
    exact ⟨hstop, _, rfl⟩

end Rtdk.Judge
