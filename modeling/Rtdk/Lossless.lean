import Mathlib.Logic.Relation
import Rtdk.Decode
import Rtdk.Generate
import Rtdk.Sealing

/-! A sender and a receiver of one class on a link that loses nothing.

The sender emits bursts of `n` frames with its 64-bit counter; the frames arrive
unmodified and in order, in bursts of any size. The counter on the wire has a
32-bit cycle number, so as long as the sender's counter stays below `n * 2 ^ 32`
the receiver finds every frame in its place (`rx_counts_frames`). The frame
after that is taken for frame 0. -/

namespace Rtdk.Lossless
open Rtdk.Memory Rtdk.Endian Rtdk.NetDef Rtdk.Security Rtdk.Stat Rtdk.Lport Rtdk.Config Rtdk.Frame
open Rtdk.Thread Rtdk.Receive Rtdk.Handlers Rtdk.Checks Rtdk.Builder Rtdk.Decode Rtdk.Generate
open Rtdk.Sealing

variable {C D C' D' : Type}

/-! ## Frames on the wire -/

/-- Frame number `k` of the class, as bytes on the wire. -/
def IsFrame (cfg : AppConfig) (ty : FrameType) (k : Nat) (bytes : List UInt8) : Prop :=
  ∃ data, Built cfg ty data ∧
    metaDataToSequenceCounter data (getMetaDataOffset ty .none) (cfg.cls ty).numFramesPerCycle =
      wireCounter (UInt64.ofNat k) (cfg.cls ty).numFramesPerCycle ∧
    bytes = slice data 0 (cfg.cls ty).frameLength.toNat

/-- The frames from number `k` on, without a gap. -/
def Consecutive (cfg : AppConfig) (ty : FrameType) : Nat → List (List UInt8) → Prop
  | _, [] => True
  | k, b :: bs => IsFrame cfg ty k b ∧ Consecutive cfg ty (k + 1) bs

theorem consecutive_append (cfg : AppConfig) (ty : FrameType) (k : Nat) (xs ys : List (List UInt8)) :
    Consecutive cfg ty k (xs ++ ys) ↔
      Consecutive cfg ty k xs ∧ Consecutive cfg ty (k + xs.length) ys := by
  induction xs generalizing k with
  | nil => simp [Consecutive]
  | cons x xs ih =>
    simp only [List.cons_append, Consecutive, ih, List.length_cons, and_assoc]
    rw [Nat.add_right_comm, Nat.add_assoc]

/-- What the classes' configuration has to leave room for: the counter lies in
the frame, and the length fits the 16 bits of the mbuf. For the configurations
that pass the sanity check only UDP frames can be too short. -/
structure CounterFits (cfg : AppConfig) (ty : FrameType) : Prop where
  low : getMetaDataOffset ty .none + 8 ≤ (cfg.cls ty).frameLength.toNat
  frameId : isProfinet ty = true → 20 ≤ (cfg.cls ty).frameLength.toNat
  high : (cfg.cls ty).frameLength.toNat < 2 ^ 16

/-! ## The receiver -/

def outOfOrderFormat : FrameType → String
  | .rtc => "RtcRx: frame[%lu] SequenceCounter mismatch: %lu!\n"
  | .rta => "RtaRx: frame[%lu] SequenceCounter mismatch: %lu!\n"
  | .dcp => "DcpRx: frame[%lu] SequenceCounter mismatch: %lu!\n"
  | .l2 => "L2Rx: frame[%lu] SequenceCounter mismatch: %lu!\n"
  | .lldp => "LldpRx: frame[%lu] SequenceCounter mismatch: %lu!\n"
  | .udpHigh | .udpLow => "%sRx: frame[%lu] SequenceCounter mismatch: %lu!\n"
  | .tsnHigh | .tsnLow => "%sRx: Frame[%llu] SequenceCounter expected mismatch: %llu!\n"

theorem outOfOrderText_format (env : Env C D) (ty : FrameType) (s rx : UInt64) :
    ((rxHandler env ty).outOfOrderText s rx).format = outOfOrderFormat ty := by
  cases ty <;> rfl

theorem outOfOrderFormat_not_received (ty : FrameType) :
    outOfOrderFormat ty ∉ receivedFormats := by
  cases ty <;> decide

/-- The text about a wrong payload is another one, and no class but DCP can fail to print it. -/
theorem payloadText_spec (env : Env C D) (ty : FrameType) (hty : ty ≠ .dcp) (s : UInt64)
    (payload : List UInt8) :
    ∃ e, (rxHandler env ty).payloadText s payload = .ok e ∧ e.format ≠ outOfOrderFormat ty := by
  cases ty with
  | dcp => exact absurd rfl hty
  | _ => exact ⟨_, rfl, by simp [warning, outOfOrderFormat]⟩

theorem resync_of_ne_dcp (env : Env C D) (ty : FrameType) (hty : ty ≠ .dcp) :
    (rxHandler env ty).resync = true := by
  cases ty with
  | dcp => exact absurd rfl hty
  | _ => rfl

/-- What a frame with counter `k` does to the receiver. -/
structure Counted (ty : FrameType) (k : UInt64) (w w' : World C D) : Prop where
  rx : w'.thread.rxSequenceCounter = k + 1
  errors : (w'.stat.globalStatistics ty).outOfOrderErrors =
    (w.stat.globalStatistics ty).outOfOrderErrors +
      (decide (k ≠ w.thread.rxSequenceCounter)).toUInt64
  backlog : (w'.stat.roundTripContexts ty).backlogLen = (w.stat.roundTripContexts ty).backlogLen
  quiet : k = w.thread.rxSequenceCounter → (∀ e ∈ w.log, e.format ≠ outOfOrderFormat ty) →
    ∀ e ∈ w'.log, e.format ≠ outOfOrderFormat ty

/-- The process ended because of an outlier, as configured. -/
def Outlier {α : Type} (env : Env C D) (x : Except Stop α) : Prop :=
  env.app.debugStopTraceOnOutlier = true ∧ ∃ l, x = .error ⟨.exit, l⟩

/-- A burst returns if its first frame and the rest of it do. -/
theorem rxBurst_cons_returns {env : Env C D} {h : RxHandler C D} {s : RxState C D} {m : Mbuf}
    {ms : List Mbuf} {P : RxState C D → Prop}
    (hone : Outlier env (rxOne env h s m) ∨ ∃ s' d, rxOne env h s m = .ok (s', d) ∧
      (Outlier env (rxBurst env h s' ms) ∨ ∃ t fs, rxBurst env h s' ms = .ok (t, fs) ∧ P t)) :
    Outlier env (rxBurst env h s (m :: ms)) ∨
      ∃ t fs, rxBurst env h s (m :: ms) = .ok (t, fs) ∧ P t := by
  simp only [rxBurst]
  rcases hone with ⟨hstop, l, he⟩ | ⟨s', d, hok, ⟨hstop, l, he⟩ | ⟨t, fs, hrest, ht⟩⟩
  · left
    simp only [he, bind, Except.bind]
    exact ⟨hstop, l, rfl⟩
  · left
    simp only [hok, he, bind, Except.bind]
    exact ⟨hstop, l, rfl⟩
  · right
    simp only [hok, hrest, bind, Except.bind]
    exact ⟨t, _, rfl, ht⟩

/-- A call returns if its burst does. -/
theorem rxFrame_returns {env : Env C D} {ty : FrameType} {w : World C D} {stack : Mem UInt8}
    {ms : List Mbuf} {P : World C D → Prop}
    (h : Outlier env (rxBurst env (rxHandler env ty) ⟨w, (env.app.cls ty).frameLength, stack⟩ ms) ∨
      ∃ t fs, rxBurst env (rxHandler env ty) ⟨w, (env.app.cls ty).frameLength, stack⟩ ms =
        .ok (t, fs) ∧ P t.world) :
    Outlier env (rxFrame env ty stack w ms) ∨
      ∃ w' freed, rxFrame env ty stack w ms = .ok (w', freed) ∧ P w' := by
  rw [rxFrame, rxFrames_eq_rxBurst]
  rcases h with ⟨hstop, l, he⟩ | ⟨t, fs, hrun, ht⟩
  · left
    rw [he]
    exact ⟨hstop, l, rfl⟩
  · right
    rw [hrun]
    exact ⟨t.world, fs, rfl, ht⟩

/-- The drop decisions on a frame with the right id: they return, and only an
out-of-order frame is reported as one. -/
theorem conclude_total (env : Env C D) (ty : FrameType) (hty : ty ≠ .dcp) (w : World C D)
    (r : Received C D) (v : Verdict) (lay : Layout) (hf : v.frameIdMismatch = false) :
    ∃ w' d, (rxHandler env ty).conclude env w r v lay = .ok (w', d) ∧
      (v.outOfOrder = false → (∀ e ∈ w.log, e.format ≠ outOfOrderFormat ty) →
        ∀ e ∈ w'.log, e.format ≠ outOfOrderFormat ty) := by
  unfold RxHandler.conclude
  simp only [hf, Bool.false_eq_true, if_false]
  cases ho : v.outOfOrder with
  | true => exact ⟨_, _, rfl, fun h => (by cases h)⟩
  | false =>
    simp only [Bool.false_eq_true, if_false]
    cases hp : v.payloadMismatch with
    | true =>
      obtain ⟨entry, he, hne⟩ := payloadText_spec env ty hty r.sequenceCounter r.payload
      simp only [he, if_true]
      refine ⟨_, _, rfl, fun _ hq e hin => ?_⟩
      rcases List.mem_append.mp hin with h | h
      · exact hq e h
      · rw [List.mem_singleton.mp h]
        exact hne
    | false =>
      simp only [Bool.false_eq_true, if_false]
      cases env.mirrorMode with
      | false => exact ⟨_, _, rfl, fun _ hq => hq⟩
      | true =>
        refine ⟨_, _, rfl, fun _ hq => ?_⟩
        have hfw := forward_world env ty (w.setRx (w.thread.rxSequenceCounter + 1)) r.mbuf lay
        rw [World.enqueue_log, hfw.2.2.2.1]
        exact hq

/-- **One frame.**  Handling an own frame with counter `k` returns, unless an
outlier ends the process, and the receiver then expects `k + 1`. -/
theorem accept_counted (env : Env C D) (ty : FrameType) (hty : ty ≠ .dcp)
    (hm : env.app.mode ty = .none) (w : World C D) (p : Mem UInt8) (m : Mbuf) (lay : Layout)
    (hb : HasBacklog env ty w)
    (hid : isProfinet ty = true → read16 m.data lay.off = frameId ty .none) :
    let k := metaDataToSequenceCounter m.data (metaAt env.app ty lay.off)
      (env.app.cls ty).numFramesPerCycle
    Outlier env ((rxHandler env ty).accept env w p m lay) ∨
      ∃ out, (rxHandler env ty).accept env w p m lay = .ok out ∧ Counted ty k w out.world := by
  intro k
  have hd := decode_plain env ty hm w p m lay
  obtain ⟨r, hr⟩ : ∃ r, (rxHandler env ty).decode w p m lay = .ok r := ⟨_, hd⟩
  have hspec := decode_spec env ty hr
  have hlog : r.world.log = w.log := by
    rw [hd] at hr
    cases hr
    cases ty <;> rfl
  have hvo : ((rxHandler env ty).verdict r).outOfOrder =
      decide (k ≠ w.thread.rxSequenceCounter) := by
    simp only [RxHandler.verdict, hspec.sequenceCounter, hspec.rx]
    rfl
  have hvf : ((rxHandler env ty).verdict r).frameIdMismatch = false := by
    have hmode (ty : FrameType) (hs : hasSecurity ty = true) (hm : env.app.mode ty = .none) :
        (env.app.cls ty).securityMode = .none := by
      simpa [AppConfig.mode, hs] using hm
    have hfid := hspec.frameId
    cases ty with
    | tsnHigh | tsnLow | rtc | rta =>
      simp only [RxHandler.verdict, rxHandler, tsnRxFrame, rtcRxFrame, rtaRxFrame, hfid rfl,
        hid rfl, hmode _ rfl hm, ne_eq, not_true_eq_false, decide_false]
    | _ => rfl
  unfold RxHandler.accept
  simp only [hr, bind, Except.bind, RxHandler.account, World.applyStat, handler_ty, hvf]
  have hb' : env.statConfig.mirrorMode = true ∨
      (r.world.stat.roundTripContexts ty).backlogLen ≠ 0 := by
    rw [hspec.stat]
    exact hb
  rcases statFrameReceived_halt env.statConfig r.world.stat ty r.sequenceCounter
    ((rxHandler env ty).verdict r).outOfOrder ((rxHandler env ty).verdict r).payloadMismatch false
    r.txTimestamp (r.world.now env) hb' with hh | ⟨hh, hstop⟩
  · right
    have hg := statFrameReceived_global hh
    have hrt := roundTrip_stat env.statConfig r.world.stat ty r.sequenceCounter (r.world.now env)
    have hfmt := statFrameReceived_formats env.statConfig r.world.stat ty r.sequenceCounter
      ((rxHandler env ty).verdict r).outOfOrder ((rxHandler env ty).verdict r).payloadMismatch
      false r.txTimestamp (r.world.now env)
    simp only [hh]
    generalize statFrameReceived env.statConfig r.world.stat ty r.sequenceCounter _ _ _ _ _ = res
      at hg hh hfmt ⊢
    obtain ⟨w', d, hc, hq⟩ := conclude_total env ty hty
      { r.world.tick with stat := res.stat, log := r.world.tick.log ++ res.log } r
      ((rxHandler env ty).verdict r) lay hvf
    have hrx := conclude_rx env ty (w := { r.world.tick with
      stat := res.stat, log := r.world.tick.log ++ res.log }) rfl hc
    simp only [hc]
    refine ⟨_, rfl, ?_, ?_, ?_, ?_⟩
    · rw [hrx.2, hvf, resync_of_ne_dcp env ty hty]
      simp only [rxAfter, Bool.false_eq_true, if_false, if_true, hspec.sequenceCounter]
      split
      · rename_i hk
        rw [← hk]
      · rfl
    · rw [hrx.1, hg.1]
      simp only [Statistics.addFrame, Statistics.addOneway, hvo]
      rw [hrt.1, hspec.stat]
    · rw [hrx.1, hg.2, hrt.2.2, hspec.stat]
    · intro hk hquiet
      apply hq
      · rw [hvo, hk]
        simp
      · intro e he
        rcases List.mem_append.mp he with he | he
        · rw [World.tick_log, hlog] at he
          exact hquiet e he
        · intro hfe
          exact outOfOrderFormat_not_received ty (hfe ▸ hfmt e he)
  · left
    simp only [hh]
    exact ⟨hstop, _, rfl⟩

theorem rxOne_counted (env : Env C D) (ty : FrameType) (hty : ty ≠ .dcp)
    (hm : env.app.mode ty = .none) (hfits : CounterFits env.app ty)
    (het : EtherTypeFits env.app ty) (s : RxState C D)
    (hs : s.expectedFrameLength = (env.app.cls ty).frameLength) (hb : HasBacklog env ty s.world)
    {k : Nat} {bytes : List UInt8} {m : Mbuf} (hframe : IsFrame env.app ty k bytes)
    (harr : Arrives bytes m) :
    Outlier env (rxOne env (rxHandler env ty) s m) ∨
      ∃ s' d, rxOne env (rxHandler env ty) s m = .ok (s', d) ∧
        s'.expectedFrameLength = (env.app.cls ty).frameLength ∧
        Counted ty (wireCounter (UInt64.ofNat k) (env.app.cls ty).numFramesPerCycle) s.world
          s'.world := by
  obtain ⟨data, hbuilt, hk, rfl⟩ := hframe
  obtain ⟨hcar, hlen⟩ := arrives_carries harr
  have hlow := hfits.low
  have hge : 14 ≤ getMetaDataOffset ty .none := by cases ty <;> decide
  have hcheck := check_own env ty
    (fun hv => (hcar.read16 12 (by omega)).trans (hbuilt.tagged hv))
    (fun hv => (hcar.read16 16 (by have := (metaDataOffset_ge ty .none).1 hv; omega)).trans
      (hbuilt.proto hv)) (UInt64.toNat_inj.mp hlen) (by omega) het
  have hmeta : metaAt env.app ty (ownLayout ty).off = getMetaDataOffset ty .none := by
    rw [metaAt_own, hm]
  have hcounter : metaDataToSequenceCounter m.data (metaAt env.app ty (ownLayout ty).off)
      (env.app.cls ty).numFramesPerCycle =
        wireCounter (UInt64.ofNat k) (env.app.cls ty).numFramesPerCycle := by
    rw [hmeta, ← hk]
    exact sequenceCounter_congr _ fun i hi => hcar _ (by omega)
  have hid : isProfinet ty = true → read16 m.data (ownLayout ty).off = frameId ty .none := by
    intro hp
    have hoff : (ownLayout ty).off = 18 := by cases ty <;> first | rfl | cases hp
    have h20 := hfits.frameId hp
    rw [hoff, hcar.read16 18 (by omega), hbuilt.frameId hp, hm]
  have hacc := accept_counted env ty hty hm s.world s.plaintext m (ownLayout ty) hb hid
  simp only [hcounter] at hacc
  simp only [rxOne, hs, hcheck, bind, Except.bind]
  rcases hacc with ⟨hstop, l, he⟩ | ⟨out, hout, hc⟩
  · left
    rw [he]
    exact ⟨hstop, l, rfl⟩
  · right
    rw [hout]
    exact ⟨_, _, rfl, rfl, hc⟩

/-- What a burst of in-order frames does: nothing but counting them. -/
structure CountedAll (ty : FrameType) (k : Nat) (w w' : World C D) : Prop where
  rx : w'.thread.rxSequenceCounter = UInt64.ofNat k
  errors : (w'.stat.globalStatistics ty).outOfOrderErrors =
    (w.stat.globalStatistics ty).outOfOrderErrors
  backlog : (w'.stat.roundTripContexts ty).backlogLen = (w.stat.roundTripContexts ty).backlogLen
  quiet : (∀ e ∈ w.log, e.format ≠ outOfOrderFormat ty) →
    ∀ e ∈ w'.log, e.format ≠ outOfOrderFormat ty

/-- Frame numbers that survive the wire. -/
def OnWire (cfg : AppConfig) (ty : FrameType) (k : Nat) : Prop :=
  ∀ j, j < k → wireCounter (UInt64.ofNat j) (cfg.cls ty).numFramesPerCycle = UInt64.ofNat j

/-- **A burst in order.**  The receiver counts every frame of it. -/
theorem rxBurst_counted (env : Env C D) (ty : FrameType) (hty : ty ≠ .dcp)
    (hm : env.app.mode ty = .none) (hfits : CounterFits env.app ty)
    (het : EtherTypeFits env.app ty) {taken : List (List UInt8)} {ms : List Mbuf}
    (harr : List.Forall₂ Arrives taken ms) (k : Nat) (s : RxState C D)
    (hs : s.expectedFrameLength = (env.app.cls ty).frameLength) (hb : HasBacklog env ty s.world)
    (hflight : Consecutive env.app ty k taken) (hwire : OnWire env.app ty (k + taken.length))
    (hrx : s.world.thread.rxSequenceCounter = UInt64.ofNat k) :
    Outlier env (rxBurst env (rxHandler env ty) s ms) ∨
      ∃ s' fs, rxBurst env (rxHandler env ty) s ms = .ok (s', fs) ∧
        CountedAll ty (k + taken.length) s.world s'.world := by
  induction harr generalizing k s with
  | nil => exact Or.inr ⟨s, [], rfl, by simpa using hrx, rfl, rfl, id⟩
  | @cons b m bs ms hbm hrest ih =>
    obtain ⟨hframe, hnext⟩ := hflight
    have hk := hwire k (by simp)
    apply rxBurst_cons_returns
    rcases rxOne_counted env ty hty hm hfits het s hs hb hframe hbm with
      hstop | ⟨s', d, hone, hs', hc⟩
    · exact Or.inl hstop
    · refine Or.inr ⟨s', d, hone, ?_⟩
      rw [hk] at hc
      have hb' : HasBacklog env ty s'.world := by
        unfold HasBacklog
        rwa [hc.backlog]
      have hrx' : s'.world.thread.rxSequenceCounter = UInt64.ofNat (k + 1) := by
        rw [hc.rx, UInt64.ofNat_add]
        rfl
      have hsame : (s'.world.stat.globalStatistics ty).outOfOrderErrors =
          (s.world.stat.globalStatistics ty).outOfOrderErrors := by
        rw [hc.errors, hrx]
        simp [Bool.toUInt64]
      have hlen : k + (b :: bs).length = k + 1 + bs.length := by
        rw [List.length_cons]
        omega
      rw [hlen] at hwire ⊢
      rcases ih (k + 1) s' hs' hb' hnext hwire hrx' with hstop | ⟨s'', fs, hrun, hall⟩
      · exact Or.inl hstop
      · refine Or.inr ⟨s'', fs, hrun, hall.rx, ?_, ?_, fun hq => ?_⟩
        · rw [hall.errors, hsame]
        · rw [hall.backlog, hc.backlog]
        · exact hall.quiet (hc.quiet hrx.symm hq)

/-! ## The sender -/

theorem plainFrame_isFrame (env : Env C D) (ty : FrameType) (hm : env.app.mode ty = .none)
    (hfits : CounterFits env.app ty) (k : Nat) (t : UInt64) (m : Mbuf) :
    IsFrame env.app ty k
      (plainFrame env ty (env.app.cls ty).numFramesPerCycle (UInt64.ofNat k) t m).wire := by
  have hbuilt := (initializeFrame_built env.app env.mac ty m).stamp (UInt64.ofNat k)
    (env.app.cls ty).numFramesPerCycle t
  have hlen := (initializeFrame_lengths env.app env.mac ty m).1
  refine ⟨_, hbuilt, ?_, ?_⟩
  · rw [← hm]
    exact stampMetaData_counter _ _ _ _ _
  · unfold Mbuf.wire plainFrame Env.metaDataOffset
    simp only [hlen, UInt64.toNat_toUInt16, Nat.mod_eq_of_lt hfits.high]

theorem plainFrames_consecutive (env : Env C D) (ty : FrameType) (hm : env.app.mode ty = .none)
    (hfits : CounterFits env.app ty) (t : UInt64) (ms : List Mbuf) (k : Nat) :
    Consecutive env.app ty k
      ((plainFrames env ty (env.app.cls ty).numFramesPerCycle t (UInt64.ofNat k) ms).map
        Mbuf.wire) := by
  induction ms generalizing k with
  | nil => trivial
  | cons m ms ih =>
    refine ⟨plainFrame_isFrame env ty hm hfits k t m, ?_⟩
    have hnext := ih (k + 1)
    rwa [UInt64.ofNat_add] at hnext

/-- Between two cycles the transmit buffer is empty and everything added was sent. -/
structure Flushed (q : TxQueue D) : Prop where
  pkts : q.pkts = []
  sent : q.added = q.sent
  unsent : q.unsent = []
  conserved : q.Conserved

/-- Frames per cycle as the receivers use them: at least one, at most a burst. -/
def BurstFits (cfg : AppConfig) (ty : FrameType) : Prop :=
  1 ≤ (cfg.cls ty).numFramesPerCycle.toNat ∧ (cfg.cls ty).numFramesPerCycle.toNat ≤ maxPktBurst

/-- **One cycle of the sender.**  It returns, its counter grows by the burst,
and the buffer receives the next frames in order. -/
theorem generate_spec (env : Env C D) (ty : FrameType) (hm : env.app.mode ty = .none)
    (hn : BurstFits env.app ty) (w : World C D) (hb : HasBacklog env ty w) (ms : List Mbuf) :
    ∃ w', genAndSendFrames env ty (env.app.cls ty).numFramesPerCycle (some ms) w = .ok w' ∧
      w'.thread.txSequenceCounter =
        w.thread.txSequenceCounter + (env.app.cls ty).numFramesPerCycle ∧
      HasBacklog env ty w' ∧
      w'.tx.added = w.tx.added ++ plainFrames env ty (env.app.cls ty).numFramesPerCycle
        (w.now env) w.thread.txSequenceCounter ms ∧
      (w.tx.Conserved → w'.tx.unsent = [] → Flushed w'.tx) ∧
      (env.dev.Reliable → w.tx.unsent = [] → w'.tx.unsent = []) := by
  have hle : (env.app.cls ty).numFramesPerCycle.toNat ≤ 256 := hn.2
  have hd := divisor_eq (c := env.app.cls ty) ty (by omega)
  have hz : ¬ ((ty = .rta ∨ ty = .dcp) ∧ (env.app.cls ty).numFramesPerCycle = 0) := by
    rintro ⟨-, h0⟩
    have h1 := hn.1
    rw [h0] at h1
    exact absurd h1 (by decide)
  obtain ⟨w', hgen, he⟩ := genFrames_plain env ty hm (env.app.cls ty).numFramesPerCycle (w.now env)
    ms w.thread.txSequenceCounter w.tick hb
  simp only [genAndSendFrames, if_neg hz, hd.2, hgen, bind, Except.bind]
  refine ⟨_, rfl, ?_, ?_, ?_, ?_, ?_⟩
  · simp only [he.thread, hd.1, World.tick_thread]
  · unfold HasBacklog
    simp only [he.backlog]
    exact hb
  · exact he.added
  · intro hc hu
    have hq := lportTxBufferFlush_conserved env.dev w'.tx (he.conserved hc)
    refine ⟨rfl, ?_, hu, hq⟩
    have hsent := hq hu
    rwa [lportTxBufferFlush_pkts, List.append_nil] at hsent
  · exact fun hr hu => hr _ (he.unsent hr hu)

/-- What the device takes in a cycle is the burst. -/
theorem generate_sent {env : Env C D} {ty : FrameType} {w w' : World C D} {ms : List Mbuf}
    (hfl : Flushed w.tx) (hfl' : Flushed w'.tx)
    (hadd : w'.tx.added = w.tx.added ++ plainFrames env ty (env.app.cls ty).numFramesPerCycle
      (w.now env) w.thread.txSequenceCounter ms) :
    w'.tx.sent.drop w.tx.sent.length = plainFrames env ty (env.app.cls ty).numFramesPerCycle
      (w.now env) w.thread.txSequenceCounter ms := by
  rw [← hfl'.sent, hadd, ← hfl.sent, List.drop_left]

/-! ## The link -/

structure Link (C D C' D' : Type) where
  tx : World C D
  /-- Frames in flight, oldest first. -/
  wire : List (List UInt8)
  rx : World C' D'
  /-- How many frames were handed to the receiver. -/
  delivered : Nat

/-- A cycle of the sender whose frames the device all takes, or the arrival of
some of the oldest frames in flight. `guard` is what is assumed of the sender
before a cycle. -/
inductive Step (guard : World C D → Prop) (env : Env C D) (envR : Env C' D') (ty : FrameType) :
    Link C D C' D' → Link C D C' D' → Prop
  | generate {l : Link C D C' D'} {w : World C D} (ms : List Mbuf) (hg : guard l.tx)
      (hlen : ms.length = (env.app.cls ty).numFramesPerCycle.toNat)
      (h : genAndSendFrames env ty (env.app.cls ty).numFramesPerCycle (some ms) l.tx = .ok w)
      (hall : w.tx.unsent = []) :
      Step guard env envR ty l
        { l with tx := w,
                 wire := l.wire ++ (w.tx.sent.drop l.tx.tx.sent.length).map Mbuf.wire }
  | deliver {l : Link C D C' D'} {w : World C' D'} {freed : List Mbuf} (stack : Mem UInt8)
      (taken rest : List (List UInt8)) (ms : List Mbuf) (hw : l.wire = taken ++ rest)
      (harr : List.Forall₂ Arrives taken ms)
      (h : rxFrame envR ty stack l.rx ms = .ok (w, freed)) :
      Step guard env envR ty l
        { l with wire := rest, rx := w, delivered := l.delivered + taken.length }

def Link.start (env : Env C D) (envR : Env C' D') (ty : FrameType) (ctx : C) (dev : D) (ctxR : C')
    (devR : D') : Link C D C' D' :=
  ⟨World.fresh env ty ctx dev, [], World.fresh envR ty ctxR devR, 0⟩

/-- The two ends have one configuration, without security, whose frames hold
the counter. -/
structure Setting (env : Env C D) (envR : Env C' D') (ty : FrameType) : Prop where
  same : envR.app = env.app
  class_ne : ty ≠ .dcp
  mode : env.app.mode ty = .none
  burst : BurstFits env.app ty
  fits : CounterFits env.app ty
  etherType : EtherTypeFits env.app ty

structure Inv (env : Env C D) (envR : Env C' D') (ty : FrameType) (l : Link C D C' D') : Prop where
  counter : l.tx.thread.txSequenceCounter = UInt64.ofNat (l.delivered + l.wire.length)
  cycle : (env.app.cls ty).numFramesPerCycle.toNat ∣ l.delivered + l.wire.length
  bound : l.delivered + l.wire.length ≤ (env.app.cls ty).numFramesPerCycle.toNat * 2 ^ 32
  flushed : Flushed l.tx.tx
  backlog : HasBacklog env ty l.tx
  flight : Consecutive env.app ty l.delivered l.wire
  rx : l.rx.thread.rxSequenceCounter = UInt64.ofNat l.delivered
  errors : (l.rx.stat.globalStatistics ty).outOfOrderErrors = 0
  quiet : ∀ e ∈ l.rx.log, e.format ≠ outOfOrderFormat ty
  backlogR : HasBacklog envR ty l.rx

/-- Every frame up to the bound survives the wire. -/
theorem onWire_of_le {cfg : AppConfig} {ty : FrameType} (hn : BurstFits cfg ty) {k : Nat}
    (h : k ≤ (cfg.cls ty).numFramesPerCycle.toNat * 2 ^ 32) : OnWire cfg ty k := by
  intro j hj
  have hle : (cfg.cls ty).numFramesPerCycle.toNat ≤ 256 := hn.2
  exact wireCounter_ofNat (by omega) (by omega)

theorem start_hasBacklog (env : Env C D) (ty : FrameType) (hn : BurstFits env.app ty) (ctx : C)
    (dev : D) : HasBacklog env ty (World.fresh env ty ctx dev) := by
  unfold HasBacklog
  cases hm : env.mirrorMode with
  | true => exact Or.inl rfl
  | false =>
    right
    have hle : (env.app.cls ty).numFramesPerCycle.toNat ≤ 256 := hn.2
    have h1 := hn.1
    simp only [World.fresh, statInit, hm, Bool.false_eq_true, if_false]
    intro h0
    have hz := congrArg UInt64.toNat h0
    rw [UInt64.toNat_mul] at hz
    change 1024 * _ % 2 ^ 64 = 0 at hz
    omega

theorem start_inv {env : Env C D} {envR : Env C' D'} {ty : FrameType} (hset : Setting env envR ty)
    (ctx : C) (dev : D) (ctxR : C') (devR : D') :
    Inv env envR ty (Link.start env envR ty ctx dev ctxR devR) where
  counter := rfl
  cycle := Nat.dvd_zero _
  bound := Nat.zero_le _
  flushed := ⟨rfl, rfl, rfl, fun _ => rfl⟩
  backlog := start_hasBacklog env ty hset.burst ctx dev
  flight := trivial
  rx := rfl
  errors := rfl
  quiet := fun e h => by cases h
  backlogR := start_hasBacklog envR ty (hset.same ▸ hset.burst) ctxR devR

theorem generate_inv {env : Env C D} {envR : Env C' D'} {ty : FrameType}
    (hset : Setting env envR ty) {l : Link C D C' D'} {w : World C D} {ms : List Mbuf}
    (hi : Inv env envR ty l) (hg : BelowWrap env.app ty l.tx)
    (hlen : ms.length = (env.app.cls ty).numFramesPerCycle.toNat)
    (h : genAndSendFrames env ty (env.app.cls ty).numFramesPerCycle (some ms) l.tx = .ok w)
    (hall : w.tx.unsent = []) :
    Inv env envR ty
      { l with tx := w, wire := l.wire ++ (w.tx.sent.drop l.tx.tx.sent.length).map Mbuf.wire } := by
  obtain ⟨w', hw', hcount, hback, hadd, hfl, -⟩ :=
    generate_spec env ty hset.mode hset.burst l.tx hi.backlog ms
  obtain rfl : w' = w := Except.ok.inj (hw'.symm.trans h)
  have hflushed := hfl hi.flushed.conserved hall
  have hdrop := generate_sent hi.flushed hflushed hadd
  rw [hi.counter] at hdrop
  have hburst : ((w'.tx.sent.drop l.tx.tx.sent.length).map Mbuf.wire).length =
      (env.app.cls ty).numFramesPerCycle.toNat := by
    rw [hdrop, List.length_map, plainFrames_length, hlen]
  have hle : (env.app.cls ty).numFramesPerCycle.toNat ≤ 256 := hset.burst.2
  have hbelow : l.delivered + l.wire.length < (env.app.cls ty).numFramesPerCycle.toNat * 2 ^ 32 := by
    have hb := hi.bound
    unfold BelowWrap at hg
    rw [hi.counter, UInt64.toNat_ofNat', Nat.mod_eq_of_lt (by omega)] at hg
    exact hg
  refine ⟨?_, ?_, ?_, hflushed, hback, ?_, hi.rx, hi.errors, hi.quiet, hi.backlogR⟩
  · simp only [List.length_append, hburst]
    rw [hcount, hi.counter, ← Nat.add_assoc, UInt64.ofNat_add _ (UInt64.toNat _)]
    simp
  · simp only [List.length_append, hburst]
    rw [← Nat.add_assoc]
    exact Nat.dvd_add hi.cycle (Nat.dvd_refl _)
  · simp only [List.length_append, hburst]
    obtain ⟨c, hc⟩ := hi.cycle
    rw [hc] at hbelow
    rw [← Nat.add_assoc, hc]
    have hlt : c < 2 ^ 32 := Nat.lt_of_mul_lt_mul_left hbelow
    calc (env.app.cls ty).numFramesPerCycle.toNat * c + (env.app.cls ty).numFramesPerCycle.toNat
        = (env.app.cls ty).numFramesPerCycle.toNat * (c + 1) := by rw [Nat.mul_succ]
      _ ≤ (env.app.cls ty).numFramesPerCycle.toNat * 2 ^ 32 := Nat.mul_le_mul_left _ hlt
  · rw [consecutive_append]
    refine ⟨hi.flight, ?_⟩
    rw [hdrop]
    exact plainFrames_consecutive env ty hset.mode hset.fits _ ms _

/-- The receiver's answer to the next frames in flight. -/
theorem deliver_spec {env : Env C D} {envR : Env C' D'} {ty : FrameType}
    (hset : Setting env envR ty) {l : Link C D C' D'} (hi : Inv env envR ty l)
    {taken rest : List (List UInt8)} {ms : List Mbuf} (hw : l.wire = taken ++ rest)
    (harr : List.Forall₂ Arrives taken ms) (stack : Mem UInt8) :
    Outlier envR (rxFrame envR ty stack l.rx ms) ∨
      ∃ w freed, rxFrame envR ty stack l.rx ms = .ok (w, freed) ∧
        CountedAll ty (l.delivered + taken.length) l.rx w := by
  have hflight := hi.flight
  rw [hw, consecutive_append] at hflight
  have hbound := hi.bound
  rw [hw, List.length_append] at hbound
  have hwire : OnWire envR.app ty (l.delivered + taken.length) := by
    rw [hset.same]
    exact onWire_of_le hset.burst (by omega)
  apply rxFrame_returns
  exact rxBurst_counted envR ty hset.class_ne (hset.same ▸ hset.mode) (hset.same ▸ hset.fits)
    (hset.same ▸ hset.etherType) harr l.delivered ⟨l.rx, (envR.app.cls ty).frameLength, stack⟩ rfl
    hi.backlogR (hset.same ▸ hflight.1) hwire hi.rx

theorem deliver_inv {env : Env C D} {envR : Env C' D'} {ty : FrameType}
    (hset : Setting env envR ty) {l : Link C D C' D'} (hi : Inv env envR ty l)
    {taken rest : List (List UInt8)} {ms freed : List Mbuf} {stack : Mem UInt8} {w : World C' D'}
    (hw : l.wire = taken ++ rest) (harr : List.Forall₂ Arrives taken ms)
    (h : rxFrame envR ty stack l.rx ms = .ok (w, freed)) :
    Inv env envR ty { l with wire := rest, rx := w, delivered := l.delivered + taken.length } := by
  rcases deliver_spec hset hi hw harr stack with ⟨-, log, he⟩ | ⟨w', freed', hok, hc⟩
  · rw [he] at h
    cases h
  · obtain ⟨rfl, rfl⟩ := Prod.mk.inj (Except.ok.inj (hok.symm.trans h))
    have hflight := hi.flight
    rw [hw, consecutive_append] at hflight
    have hsum : l.delivered + taken.length + rest.length = l.delivered + l.wire.length := by
      rw [hw, List.length_append]
      omega
    refine ⟨?_, ?_, ?_, hi.flushed, hi.backlog, hflight.2, hc.rx, ?_, hc.quiet hi.quiet, ?_⟩
    · rw [hsum]
      exact hi.counter
    · rw [hsum]
      exact hi.cycle
    · rw [hsum]
      exact hi.bound
    · rw [hc.errors]
      exact hi.errors
    · unfold HasBacklog
      rw [hc.backlog]
      exact hi.backlogR

theorem run_inv {env : Env C D} {envR : Env C' D'} {ty : FrameType} (hset : Setting env envR ty)
    {ctx : C} {dev : D} {ctxR : C'} {devR : D'} {l : Link C D C' D'}
    (h : Relation.ReflTransGen (Step (BelowWrap env.app ty) env envR ty)
      (Link.start env envR ty ctx dev ctxR devR) l) : Inv env envR ty l := by
  induction h with
  | refl => exact start_inv hset ctx dev ctxR devR
  | tail _ hstep ih =>
    cases hstep with
    | generate ms hg hlen h hall => exact generate_inv hset ih hg hlen h hall
    | deliver stack taken rest ms hw harr h => exact deliver_inv hset ih hw harr h

/-- **A lossless link.**  In every run in which the sender starts each cycle
with a counter below `n * 2 ^ 32`, the receiver has counted exactly the frames
delivered to it, has reported none as out of order, and handles the next ones
the same way. -/
theorem rx_counts_frames {env : Env C D} {envR : Env C' D'} {ty : FrameType}
    (hset : Setting env envR ty) {ctx : C} {dev : D} {ctxR : C'} {devR : D'} {l : Link C D C' D'}
    (h : Relation.ReflTransGen (Step (BelowWrap env.app ty) env envR ty)
      (Link.start env envR ty ctx dev ctxR devR) l) :
    l.rx.thread.rxSequenceCounter.toNat = l.delivered ∧
      (l.rx.stat.globalStatistics ty).outOfOrderErrors = 0 ∧
      (∀ e ∈ l.rx.log, e.format ≠ outOfOrderFormat ty) ∧
      ∀ (taken rest : List (List UInt8)) (ms : List Mbuf) (stack : Mem UInt8),
        l.wire = taken ++ rest → List.Forall₂ Arrives taken ms →
          Outlier envR (rxFrame envR ty stack l.rx ms) ∨
            ∃ w freed, rxFrame envR ty stack l.rx ms = .ok (w, freed) ∧
              w.thread.rxSequenceCounter.toNat = l.delivered + taken.length := by
  have hi := run_inv hset h
  have hle : (env.app.cls ty).numFramesPerCycle.toNat ≤ 256 := hset.burst.2
  have hbound := hi.bound
  refine ⟨?_, hi.errors, hi.quiet, ?_⟩
  · rw [hi.rx, UInt64.toNat_ofNat']
    exact Nat.mod_eq_of_lt (by omega)
  · intro taken rest ms stack hw harr
    rcases deliver_spec hset hi hw harr stack with hstop | ⟨w, freed, hok, hc⟩
    · exact Or.inl hstop
    · refine Or.inr ⟨w, freed, hok, ?_⟩
      rw [hw, List.length_append] at hbound
      rw [hc.rx, UInt64.toNat_ofNat']
      exact Nat.mod_eq_of_lt (by omega)

/-! ## Runs of one frame per cycle

A TSN sender and a mirror for frames of 40 bytes, one per cycle. -/

def smallSender : Env DigestCtx Unit := Env.small (AppConfig.small .none 40 1 []) false
def smallMirror : Env DigestCtx Unit := Env.small (AppConfig.small .none 40 1 []) true

abbrev SmallLink := Link DigestCtx Unit DigestCtx Unit

def smallStart : SmallLink :=
  Link.start smallSender smallMirror .tsnHigh DigestCtx.fresh () DigestCtx.fresh ()

theorem small_setting : Setting smallSender smallMirror .tsnHigh where
  same := rfl
  class_ne := by decide
  mode := rfl
  burst := ⟨by decide, by decide⟩
  fits := ⟨by decide, fun _ => by decide, by decide⟩
  etherType := fun h => by cases h

/-- Frames that can be received exist. -/
theorem exists_arrives {cfg : AppConfig} {ty : FrameType} (hfits : CounterFits cfg ty) {k : Nat}
    {bytes : List UInt8} (h : IsFrame cfg ty k bytes) : ∃ m, Arrives bytes m := by
  obtain ⟨data, -, -, rfl⟩ := h
  refine ⟨⟨0, data, (cfg.cls ty).frameLength.toUInt16,
    (cfg.cls ty).frameLength.toUInt16.toUInt32⟩, ?_, rfl⟩
  simp only [Mbuf.wire, UInt64.toNat_toUInt16, Nat.mod_eq_of_lt hfits.high]

/-- The sender's next cycle, with nothing in flight before it. -/
theorem small_generate (guard : World DigestCtx Unit → Prop) {l : SmallLink}
    (hi : Inv smallSender smallMirror .tsnHigh l) (hg : guard l.tx) (hw : l.wire = []) :
    ∃ l' b, Step guard smallSender smallMirror .tsnHigh l l' ∧ l'.wire = [b] ∧
      IsFrame smallSender.app .tsnHigh l.delivered b ∧ l'.rx = l.rx ∧
      l'.delivered = l.delivered := by
  let m : Mbuf := ⟨0, fun _ => 0, 0, 0⟩
  obtain ⟨w', hgen, -, -, hadd, hfl, hrel⟩ :=
    generate_spec smallSender .tsnHigh rfl small_setting.burst l.tx hi.backlog [m]
  have hun := hrel takeAll_reliable hi.flushed.unsent
  have hsent := generate_sent hi.flushed (hfl hi.flushed.conserved hun) hadd
  rw [hi.counter, hw] at hsent
  refine ⟨_, (plainFrame smallSender .tsnHigh 1 (UInt64.ofNat l.delivered)
    (l.tx.now smallSender) m).wire, Step.generate [m] hg rfl hgen hun, ?_, ?_, rfl, rfl⟩
  · simp only [hsent, hw]
    rfl
  · exact plainFrame_isFrame smallSender .tsnHigh rfl small_setting.fits l.delivered _ m

theorem small_no_outlier {α : Type} {x : Except Stop α} (h : Outlier smallMirror x) : False := by
  have := h.1
  cases this

/-- Any number of frames up to the bound can be sent and delivered one by one. -/
theorem small_run (k : Nat) (hk : k ≤ 2 ^ 32) :
    ∃ l, Relation.ReflTransGen (Step (BelowWrap smallSender.app .tsnHigh) smallSender smallMirror
        .tsnHigh) smallStart l ∧ l.delivered = k ∧ l.wire = [] := by
  induction k with
  | zero => exact ⟨smallStart, .refl, rfl, rfl⟩
  | succ k ih =>
    obtain ⟨l, hrun, hdel, hwire⟩ := ih (by omega)
    have hi := run_inv small_setting hrun
    have hbelow : BelowWrap smallSender.app .tsnHigh l.tx := by
      unfold BelowWrap
      rw [hi.counter, hwire, hdel, UInt64.toNat_ofNat']
      change (k + 0) % 2 ^ 64 < 1 * 2 ^ 32
      omega
    obtain ⟨l', b, hstep, hw', hframe, -, hdel'⟩ := small_generate (BelowWrap smallSender.app .tsnHigh) hi hbelow hwire
    obtain ⟨m, harr⟩ := exists_arrives small_setting.fits hframe
    have hrun' := hrun.tail hstep
    have hsplit : l'.wire = [b] ++ [] := hw'
    rcases deliver_spec small_setting (run_inv small_setting hrun') hsplit
        (List.Forall₂.cons harr .nil) (fun _ => 0) with hstop | ⟨w, freed, hok, -⟩
    · exact (small_no_outlier hstop).elim
    · refine ⟨_, hrun'.tail (Step.deliver (fun _ => 0) [b] [] [m] hw' (.cons harr .nil) hok), ?_, rfl⟩
      simp [hdel', hdel]

theorem rx_counts_frames_three :
    ∃ l : SmallLink, l.delivered = 3 ∧ l.rx.thread.rxSequenceCounter.toNat = 3 ∧
      (l.rx.stat.globalStatistics .tsnHigh).outOfOrderErrors = 0 := by
  obtain ⟨l, hrun, hdel, -⟩ := small_run 3 (by decide)
  have h := rx_counts_frames small_setting hrun
  exact ⟨l, hdel, by rw [h.1, hdel], h.2.1⟩

/-- After `2 ^ 32` frames in order the next one, unmodified and in order, is
reported as out of order, and the receiver goes on counting from 1. -/
theorem out_of_order_after_wrap :
    ∃ l : SmallLink, Relation.ReflTransGen (Step (fun _ => True) smallSender smallMirror .tsnHigh)
        smallStart l ∧
      l.delivered = 2 ^ 32 + 1 ∧ l.rx.thread.rxSequenceCounter = 1 ∧
      (l.rx.stat.globalStatistics .tsnHigh).outOfOrderErrors = 1 := by
  obtain ⟨l, hrun, hdel, hwire⟩ := small_run (2 ^ 32) (Nat.le_refl _)
  have hi := run_inv small_setting hrun
  obtain ⟨l', b, hstep, hw', hframe, hrx', hdel'⟩ :=
    small_generate (fun _ => True) hi trivial hwire
  obtain ⟨m, harr⟩ := exists_arrives small_setting.fits hframe
  have hfree : Relation.ReflTransGen (Step (fun _ => True) smallSender smallMirror .tsnHigh)
      smallStart l := by
    refine Relation.ReflTransGen.mono (fun a c hac => ?_) _ _ hrun
    cases hac with
    | generate ms hg hlen h hall => exact .generate ms trivial hlen h hall
    | deliver stack taken rest ms hw harr h => exact .deliver stack taken rest ms hw harr h
  have hone := rxOne_counted smallMirror .tsnHigh (by decide) rfl small_setting.fits
    small_setting.etherType ⟨l'.rx, 40, fun _ => 0⟩ rfl (Or.inl rfl) hframe harr
  rcases hone with hstop | ⟨s', d, hone, -, hc⟩
  · exact (small_no_outlier hstop).elim
  · have hrx : rxFrame smallMirror .tsnHigh (fun _ => 0) l'.rx [m] = .ok (s'.world, d.toList) := by
      rw [rxFrame, rxFrames_eq_rxBurst, rxBurst]
      have hlen : (smallMirror.app.cls .tsnHigh).frameLength = 40 := rfl
      simp [hlen, hone, rxBurst, bind, Except.bind, Except.map]
    have hzero : wireCounter (UInt64.ofNat l.delivered)
        (smallMirror.app.cls .tsnHigh).numFramesPerCycle = 0 := by
      rw [hdel]
      decide
    rw [hzero] at hc
    refine ⟨_, (hfree.tail hstep).tail (.deliver (fun _ => 0) [b] [] [m] hw' (.cons harr .nil) hrx),
      ?_, ?_, ?_⟩
    · simp [hdel', hdel]
    · exact hc.rx
    · have herr := hc.errors
      simp only [hrx', hi.rx, hi.errors, hdel] at herr
      exact herr

end Rtdk.Lossless
