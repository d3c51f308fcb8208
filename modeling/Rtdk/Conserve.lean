import Rtdk.Decode
import Rtdk.Handover
import Rtdk.Runs

/-! Where received mbufs go.

Two layers batch mbufs: a handler's array of dropped mbufs, freed when it is
full and at the end of the call, and the transmit buffer, flushed when it is
full and at the end of a cycle. `mbufs_conserved` follows the mbufs through both
in any run of the calls a thread makes, over any device. -/

namespace Rtdk.Conserve
open Rtdk.Memory Rtdk.NetDef Rtdk.Security Rtdk.Stat Rtdk.Lport Rtdk.Config Rtdk.Frame
open Rtdk.Thread Rtdk.Receive Rtdk.Handlers Rtdk.Checks Rtdk.Builder Rtdk.Decode Rtdk.Runs
open Rtdk.Handover

variable {C D : Type}

/-! ## The transmit buffer -/

/-- The added mbufs in order, in the batches of the flushes: of each batch the device,
found as `d`, took a front part in its calls, and the flush freed the rest. -/
def Batched (dev : TxDevice D) (d : D) (q : TxQueue D) : Prop :=
  ∃ flushed, Batches dev.txBurst offerAll d flushed q.sent q.unsent q.dev ∧
    q.added = flushed ++ q.pkts

/-- The loop of a flush calls the device with all that is left, and takes its answers. -/
theorem flushLoop_drains (dev : TxDevice D) (fuel retries : Nat) (d : D) (pkts : List Mbuf) :
    ∃ calls, Drains dev.txBurst offerAll d pkts calls (flushLoop dev fuel retries d pkts).1
      (flushLoop dev fuel retries d pkts).2.1 (flushLoop dev fuel retries d pkts).2.2 := by
  induction fuel generalizing retries d pkts with
  | zero => exact ⟨0, .start⟩
  | succ fuel ih =>
    rw [flushLoop]
    cases hp : pkts.isEmpty with
    | true =>
      rw [List.isEmpty_iff.mp hp]
      exact ⟨0, .start⟩
    | false =>
      simp only [Bool.false_eq_true, if_false]
      have hfirst {calls : Nat} {taken left : List Mbuf} {d' : D}
          (h : Drains dev.txBurst offerAll (dev.txBurst d pkts).2
            (pkts.drop (dev.txBurst d pkts).1) calls taken left d') :
          Drains dev.txBurst offerAll d pkts (calls + 1)
            (pkts.take (dev.txBurst d pkts).1 ++ taken) left d' := h.first
      by_cases hn : (dev.txBurst d pkts).1 = 0
      · simp only [hn, if_true]
        simp only [hn, List.drop_zero, List.take_zero, List.nil_append] at hfirst
        by_cases hr : retries + 1 ≥ 100
        · simp only [if_pos hr]
          exact ⟨1, hfirst .start⟩
        · simp only [if_neg hr]
          obtain ⟨calls, h⟩ := ih (retries + 1) (dev.txBurst d pkts).2 pkts
          exact ⟨calls + 1, hfirst h⟩
      · simp only [hn, if_false]
        obtain ⟨calls, h⟩ := ih 0 (dev.txBurst d pkts).2 (pkts.drop (dev.txBurst d pkts).1)
        exact ⟨calls + 1, hfirst h⟩

/-- What the loop leaves, the device has refused 100 times in a row; `retries` is how often
it has refused the packets so far. -/
theorem flushLoop_refused (dev : TxDevice D) (fuel retries : Nat) (d₀ d : D) (pkts : List Mbuf)
    (hr : retries < 100) (hfuel : 100 * pkts.length + (100 - retries) < fuel)
    (hbefore : Drains dev.txBurst offerAll d₀ pkts retries [] pkts d)
    (hleft : (flushLoop dev fuel retries d pkts).2.1 ≠ []) :
    ∃ d₁, Drains dev.txBurst offerAll d₁ (flushLoop dev fuel retries d pkts).2.1 100 []
      (flushLoop dev fuel retries d pkts).2.1 (flushLoop dev fuel retries d pkts).2.2 := by
  induction fuel generalizing retries d₀ d pkts with
  | zero => omega
  | succ fuel ih =>
    rw [flushLoop] at hleft ⊢
    cases hp : pkts.isEmpty with
    | true => simp [hp] at hleft
    | false =>
      simp only [hp, Bool.false_eq_true, if_false] at hleft ⊢
      by_cases hn : (dev.txBurst d pkts).1 = 0
      · have hcall : Drains dev.txBurst offerAll d₀ pkts (retries + 1)
            ([] ++ pkts.take (dev.txBurst d pkts).1) (pkts.drop (dev.txBurst d pkts).1)
            (dev.txBurst d pkts).2 := hbefore.call
        rw [hn, List.take_zero, List.drop_zero] at hcall
        simp only [hn, if_true] at hleft ⊢
        by_cases hlast : retries + 1 ≥ 100
        · have hhundred : retries + 1 = 100 := by omega
          rw [if_pos hlast]
          rw [hhundred] at hcall
          exact ⟨d₀, hcall⟩
        · rw [if_neg hlast] at hleft ⊢
          exact ih (retries + 1) d₀ _ pkts (by omega) (by omega) hcall hleft
      · have hle := dev.txBurst_le d pkts
        have hdrop : (pkts.drop (dev.txBurst d pkts).1).length < pkts.length := by
          rw [List.length_drop]
          omega
        simp only [hn, if_false] at hleft ⊢
        exact ih 0 (dev.txBurst d pkts).2 _ (pkts.drop (dev.txBurst d pkts).1) (by decide) (by omega)
          .start hleft

/-- A flush sends what the device takes of the buffer, a front part, and frees the rest,
which the device has refused 100 times in a row. -/
structure Flushed (dev : TxDevice D) (q q' : TxQueue D) (sent left : List Mbuf) : Prop where
  taken : ∃ calls, Drains dev.txBurst offerAll q.dev q.pkts calls sent left q'.dev
  parts : q.pkts = sent ++ left
  pkts : q'.pkts = []
  sent : q'.sent = q.sent ++ sent
  unsent : q'.unsent = q.unsent ++ left
  refused : left ≠ [] → ∃ d, Drains dev.txBurst offerAll d left 100 [] left q'.dev

theorem lportTxBufferFlush_flushed (dev : TxDevice D) (q : TxQueue D) :
    ∃ sent left, Flushed dev q (lportTxBufferFlush dev q) sent left :=
  ⟨_, _, flushLoop_drains dev (100 * (q.pkts.length + 1) + 1) 0 q.dev q.pkts,
    (flushLoop_append dev (100 * (q.pkts.length + 1) + 1) 0 q.dev q.pkts).symm, rfl, rfl, rfl,
    flushLoop_refused dev _ 0 q.dev q.dev q.pkts (by decide) (by omega) .start⟩

theorem lportTxBufferFlush_batched (dev : TxDevice D) {d : D} {q : TxQueue D}
    (h : Batched dev d q) : Batched dev d (lportTxBufferFlush dev q) := by
  obtain ⟨flushed, hbatches, hadded⟩ := h
  obtain ⟨sent, left, hflush⟩ := lportTxBufferFlush_flushed dev q
  obtain ⟨calls, htaken⟩ := hflush.taken
  refine ⟨flushed ++ q.pkts, ?_, ?_⟩
  · rw [hflush.sent, hflush.unsent]
    exact hbatches.next htaken
  · rw [lportTxBufferFlush_added, hadded, hflush.pkts, List.append_nil]

theorem push_batched {dev : TxDevice D} {d : D} {q : TxQueue D} (h : Batched dev d q) (m : Mbuf) :
    Batched dev d { q with pkts := q.pkts ++ [m], added := q.added ++ [m] } := by
  obtain ⟨flushed, hbatches, hadded⟩ := h
  refine ⟨flushed, hbatches, ?_⟩
  show q.added ++ [m] = flushed ++ (q.pkts ++ [m])
  rw [hadded, List.append_assoc]

theorem lportTxBufferAdd_batched (dev : TxDevice D) {d : D} {q : TxQueue D} (h : Batched dev d q)
    (m : Mbuf) : Batched dev d (lportTxBufferAdd dev q m) := by
  simp only [lportTxBufferAdd]
  split
  · exact push_batched h m
  · exact lportTxBufferFlush_batched dev (push_batched h m)

/-- Between calls there is room for one more mbuf. -/
def Room (q : TxQueue D) : Prop := q.pkts.length < txBufferSize

theorem lportTxBufferFlush_room (dev : TxDevice D) (q : TxQueue D) :
    Room (lportTxBufferFlush dev q) := by
  show 0 < txBufferSize
  decide

theorem lportTxBufferAdd_room (dev : TxDevice D) (q : TxQueue D) (m : Mbuf) :
    Room (lportTxBufferAdd dev q m) := by
  simp only [lportTxBufferAdd]
  split
  · assumption
  · exact lportTxBufferFlush_room dev _

/-! ## One frame and one burst -/

theorem profinetDecode_id (env : Env C D) (c : ClassConfig) (ao ae : UInt64 → LogEntry)
    {w : World C D} {p : Mem UInt8} {m : Mbuf} {lay : Layout} {r : Received C D}
    (h : profinetDecode env c ao ae w p m lay = .ok r) : r.mbuf.id = m.id := by
  unfold profinetDecode at h
  cases hm : c.securityMode with
  | none =>
    simp only [hm] at h
    cases h
    rfl
  | ao =>
    simp only [hm] at h
    cases h
    rfl
  | ae =>
    simp only [hm, aeDecode] at h
    split at h
    · cases h
    · cases h
      rfl

/-- Decoding edits the mbuf in place. -/
theorem decode_id (env : Env C D) (ty : FrameType) {w : World C D} {p : Mem UInt8} {m : Mbuf}
    {lay : Layout} {r : Received C D} (h : (rxHandler env ty).decode w p m lay = .ok r) :
    r.mbuf.id = m.id := by
  cases ty with
  | tsnHigh | tsnLow | rtc | rta => exact profinetDecode_id env _ _ _ h
  | dcp | lldp | udpHigh | udpLow | l2 =>
    cases h
    rfl

theorem forward_id (env : Env C D) (ty : FrameType) (w : World C D) (m : Mbuf) (lay : Layout) :
    ((rxHandler env ty).forward w m lay).2.id = m.id := by
  cases ty <;> rfl

/-- **One frame.**  Whatever it holds, its mbuf is dropped or handed to the transmit buffer. -/
theorem rxOne_fate (env : Env C D) (ty : FrameType) {s s' : RxState C D} {m : Mbuf}
    {d : Option Mbuf} (h : rxOne env (rxHandler env ty) s m = .ok (s', d)) :
    (∃ x, d = some x ∧ x.id = m.id ∧ s'.world.tx = s.world.tx) ∨
      ∃ q, d = none ∧ q.id = m.id ∧ s'.world.tx = lportTxBufferAdd env.dev s.world.tx q := by
  unfold rxOne at h
  cases hc : (rxHandler env ty).check s.expectedFrameLength m with
  | mk expected res =>
    rw [hc] at h
    cases res with
    | error entry =>
      cases h
      exact Or.inl ⟨m, rfl, rfl, rfl⟩
    | ok lay =>
      obtain ⟨out, hacc, h⟩ := bind_ok_iff.mp h
      cases h
      obtain ⟨r, w1, hdec, haccount, hcon, -⟩ := accept_ok hacc
      have htx := account_tx hdec haccount
      have hid := decode_id env ty hdec
      rcases conclude_fate env ty hcon with ⟨hd, x, l, hw⟩ | ⟨hd, -, -, hw⟩
      · left
        refine ⟨r.mbuf, hd, hid, ?_⟩
        rw [hw]
        exact htx
      · right
        have hfw := forward_world env ty (w1.setRx (w1.thread.rxSequenceCounter + 1)) r.mbuf lay
        have hforward := forward_id env ty (w1.setRx (w1.thread.rxSequenceCounter + 1)) r.mbuf lay
        refine ⟨_, hd, hforward.trans hid, ?_⟩
        rw [hw, World.enqueue, hfw.2.2.1, World.setRx_tx, htx]

/-- **One burst.**  The freed and the queued mbufs, both in the order of the
burst, make up the burst. -/
theorem rxBurst_fate (env : Env C D) (ty : FrameType) (ms : List Mbuf) {s s' : RxState C D}
    {fs : List Mbuf} (h : rxBurst env (rxHandler env ty) s ms = .ok (s', fs)) :
    ∃ qs : List Mbuf, s'.world.tx = qs.foldl (lportTxBufferAdd env.dev) s.world.tx ∧
      (fs.map Mbuf.id ++ qs.map Mbuf.id).Perm (ms.map Mbuf.id) ∧
      (fs.map Mbuf.id).Sublist (ms.map Mbuf.id) ∧ (qs.map Mbuf.id).Sublist (ms.map Mbuf.id) := by
  induction ms generalizing s fs with
  | nil =>
    cases h
    exact ⟨[], rfl, .refl _, .refl _, .refl _⟩
  | cons m ms ih =>
    obtain ⟨s1, d, gs, hone, hrest, rfl⟩ := rxBurst_cons_ok h
    obtain ⟨qs, htx, hperm, hfree, hqueue⟩ := ih hrest
    rcases rxOne_fate env ty hone with ⟨x, rfl, hid, hsame⟩ | ⟨q, rfl, hid, hadd⟩
    · refine ⟨qs, ?_, ?_, ?_, hqueue.cons _⟩
      · rw [htx, hsame]
      · simpa [hid] using hperm.cons m.id
      · simpa [hid] using hfree.cons_cons m.id
    · refine ⟨q :: qs, ?_, ?_, hfree.cons _, ?_⟩
      · rw [htx, hadd]
        rfl
      · simp only [Option.toList_none, List.nil_append, List.map_cons, hid]
        exact List.perm_middle.trans (hperm.cons m.id)
      · simpa [hid] using hqueue.cons_cons m.id

/-- A property of the transmit buffer that adding keeps is kept by a burst. -/
theorem foldl_add {P : TxQueue D → Prop} {dev : TxDevice D}
    (hadd : ∀ q m, P q → P (lportTxBufferAdd dev q m)) (qs : List Mbuf) {q : TxQueue D} (h : P q) :
    P (qs.foldl (lportTxBufferAdd dev) q) := by
  induction qs generalizing q with
  | nil => exact h
  | cons m qs ih => exact ih (hadd q m h)

theorem foldl_added (dev : TxDevice D) (qs : List Mbuf) (q : TxQueue D) :
    (qs.foldl (lportTxBufferAdd dev) q).added = q.added ++ qs := by
  induction qs generalizing q with
  | nil => simp
  | cons m qs ih => simp [ih]

/-! ## The array of dropped mbufs -/

theorem RxLoop.drop_lt {l : RxLoop C D} (h : l.dropped.length < freePendingSz) (m : Mbuf) :
    (l.drop m).dropped.length < freePendingSz := by
  unfold RxLoop.drop
  simp only
  split
  · show 0 < freePendingSz
    decide
  · rename_i hne
    simp only [List.length_append, List.length_singleton] at hne ⊢
    omega

theorem rxLoopStep_dropped_lt {env : Env C D} {h : RxHandler C D} {l l' : RxLoop C D} {m : Mbuf}
    (hl : l.dropped.length < freePendingSz) (hstep : rxLoopStep env h l m = .ok l') :
    l'.dropped.length < freePendingSz := by
  obtain ⟨⟨s, d⟩, -, hdrop⟩ := bind_ok_iff.mp hstep
  cases d with
  | none =>
    cases hdrop
    exact hl
  | some x =>
    cases hdrop
    exact RxLoop.drop_lt (l := { l with state := s }) hl x

/-- The index for the next dropped mbuf is in range, after any part of a burst. -/
theorem dropped_in_range (env : Env C D) (h : RxHandler C D) (ms : List Mbuf) {l l' : RxLoop C D}
    (hl : l.dropped.length < freePendingSz) (hrun : ms.foldlM (rxLoopStep env h) l = .ok l') :
    l'.dropped.length < freePendingSz :=
  foldlM_keeps (P := fun l : RxLoop C D => l.dropped.length < freePendingSz)
    (fun _ _ _ hl hstep => rxLoopStep_dropped_lt hl hstep) hrun hl

/-! ## Runs -/

/-- What a thread does with its transmit buffer: it handles a burst, adds a
frame of its own, or flushes. -/
inductive Call
  | receive (stack : Mem UInt8) (mbufs : List Mbuf)
  | add (m : Mbuf)
  | flush

def Call.run (env : Env C D) (ty : FrameType) (w : World C D) : Call → Except Stop (World C D)
  | .receive stack ms => (rxFrame env ty stack w ms).map Prod.fst
  | .add m => .ok (w.enqueue env m)
  | .flush => .ok { w with tx := lportTxBufferFlush env.dev w.tx }

/-- A received burst, taken apart: what was freed and what was queued. -/
theorem rxFrame_fate {env : Env C D} {ty : FrameType} {stack : Mem UInt8} {w w' : World C D}
    {ms freed : List Mbuf} (h : rxFrame env ty stack w ms = .ok (w', freed)) :
    ∃ qs : List Mbuf, w'.tx = qs.foldl (lportTxBufferAdd env.dev) w.tx ∧
      (freed.map Mbuf.id ++ qs.map Mbuf.id).Perm (ms.map Mbuf.id) ∧
      (freed.map Mbuf.id).Sublist (ms.map Mbuf.id) ∧
      (qs.map Mbuf.id).Sublist (ms.map Mbuf.id) := by
  rw [rxFrame, rxFrames_eq_rxBurst] at h
  obtain ⟨t, hb, ht⟩ := map_ok_iff.mp h
  cases ht
  exact rxBurst_fate env ty ms hb

/-- What adding and flushing keep, every call keeps. -/
theorem Call.run_tx {P : TxQueue D → Prop} {env : Env C D} {ty : FrameType}
    (hadd : ∀ q m, P q → P (lportTxBufferAdd env.dev q m))
    (hflush : ∀ q, P q → P (lportTxBufferFlush env.dev q)) {w w' : World C D} {c : Call}
    (h : c.run env ty w = .ok w') (hw : P w.tx) : P w'.tx := by
  cases c with
  | receive stack ms =>
    obtain ⟨p, hrx, rfl⟩ := map_ok_iff.mp h
    obtain ⟨qs, htx, -⟩ := rxFrame_fate hrx
    rw [htx]
    exact foldl_add hadd qs hw
  | add m =>
    cases h
    exact hadd _ _ hw
  | flush =>
    cases h
    exact hflush _ hw

theorem calls_tx {P : TxQueue D → Prop} {env : Env C D} {ty : FrameType}
    (hadd : ∀ q m, P q → P (lportTxBufferAdd env.dev q m))
    (hflush : ∀ q, P q → P (lportTxBufferFlush env.dev q)) (cs : List Call) {w w' : World C D}
    (h : cs.foldlM (Call.run env ty) w = .ok w') (hw : P w.tx) : P w'.tx := by
  refine foldlM_keeps (P := fun w : World C D => P w.tx) (fun w c w1 hw hc => ?_) h hw
  exact Call.run_tx hadd hflush hc hw

/-- The transmit buffer of a thread in a run that found the device as `d`: it has room,
its history is in order, and a flush hands it to the device, empties it and ends by
itself. -/
structure Healthy (dev : TxDevice D) (d : D) (q : TxQueue D) : Prop where
  room : q.pkts.length < txBufferSize
  order : Batched dev d q
  flush : ∃ sent left, Flushed dev q (lportTxBufferFlush dev q) sent left
  ends : ∀ extra, flushLoop dev (100 * (q.pkts.length + 1) + 1 + extra) 0 q.dev q.pkts =
    flushLoop dev (100 * (q.pkts.length + 1) + 1) 0 q.dev q.pkts

/-- **Mbufs are conserved.**  In every run of a thread over any device, the
transmit buffer is healthy; and the handler, on any burst, never indexes past
its array of dropped mbufs, and frees or queues each mbuf of the burst once and
in order. -/
theorem mbufs_conserved (env : Env C D) (ty : FrameType) (ctx : C) (dev : D) (cs : List Call)
    {w : World C D} (hrun : cs.foldlM (Call.run env ty) (World.fresh env ty ctx dev) = .ok w) :
    Healthy env.dev dev w.tx ∧
      ∀ (stack : Mem UInt8) (ms : List Mbuf),
        (∀ (done rest : List Mbuf) (l : RxLoop C D), ms = done ++ rest →
          done.foldlM (rxLoopStep env (rxHandler env ty))
            ⟨⟨w, (env.app.cls ty).frameLength, stack⟩, [], []⟩ = .ok l →
          l.dropped.length < freePendingSz) ∧
        ∀ (w' : World C D) (freed : List Mbuf), rxFrame env ty stack w ms = .ok (w', freed) →
          ∃ queued : List Mbuf, w'.tx.added = w.tx.added ++ queued ∧
            (freed.map Mbuf.id ++ queued.map Mbuf.id).Perm (ms.map Mbuf.id) ∧
            (queued.map Mbuf.id).Sublist (ms.map Mbuf.id) := by
  constructor
  · have hbatched : Batched env.dev dev w.tx := by
      refine calls_tx (P := Batched env.dev dev)
        (fun q m hq => lportTxBufferAdd_batched env.dev hq m)
        (fun q hq => lportTxBufferFlush_batched env.dev hq) cs hrun ?_
      exact ⟨[], .start, rfl⟩
    have hroom : Room w.tx := by
      refine calls_tx (P := Room) (fun q m _ => lportTxBufferAdd_room env.dev q m)
        (fun q _ => lportTxBufferFlush_room env.dev q) cs hrun ?_
      show 0 < txBufferSize
      decide
    refine ⟨hroom, hbatched, lportTxBufferFlush_flushed env.dev w.tx, ?_⟩
    intro extra
    exact flushLoop_fuel env.dev _ extra 0 _ _ (by decide) (by omega)
  · intro stack ms
    constructor
    · intro done rest l _ hl
      refine dropped_in_range env _ done ?_ hl
      show 0 < freePendingSz
      decide
    · intro w' freed hrx
      obtain ⟨qs, htx, hperm, -, hsub⟩ := rxFrame_fate hrx
      refine ⟨qs, ?_, hperm, hsub⟩
      rw [htx, foldl_added]

/-! A mirror that receives two frames, one of them too short, and flushes. -/

def smallEnv : Env DigestCtx Unit := Env.small (AppConfig.small .none 40 1 []) true

def smallCalls : List Call :=
  [.receive (fun _ => 0) [⟨0, fun _ => 0, 10, 10⟩, ⟨1, fun _ => 0, 40, 40⟩], .flush]

theorem mbufs_conserved_small :
    ∃ w, smallCalls.foldlM (Call.run smallEnv .udpHigh)
        (World.fresh smallEnv .udpHigh DigestCtx.fresh ()) = .ok w ∧
      Healthy smallEnv.dev () w.tx ∧ w.tx.sent.map Mbuf.id = [1] := by
  refine ⟨_, rfl, ?_, rfl⟩
  exact (mbufs_conserved smallEnv .udpHigh DigestCtx.fresh () smallCalls rfl).1

end Rtdk.Conserve
