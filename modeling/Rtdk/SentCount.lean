import Rtdk.Conserve
import Rtdk.Generate
import Rtdk.GlobalStats

/-! Accounting of sent frames.

`stat_frame_sent` is called before a frame is flushed to the device: by a
generator before it adds the frame to the transmit buffer, by a mirror for all
that is buffered when its transmit cycle comes. A flush may free frames instead,
and a mirror's handler may flush a full buffer before anything was counted.
`sent_accounting_iff` says what the device has to do in each step of a run for the
count, and the backlog of a reference, to be those of the accepted frames. -/

namespace Rtdk.SentCount
open Rtdk.Memory Rtdk.NetDef Rtdk.Security Rtdk.Stat Rtdk.Lport Rtdk.Config Rtdk.Frame
open Rtdk.Thread Rtdk.Receive Rtdk.Handlers Rtdk.Decode Rtdk.Generate Rtdk.StatRun Rtdk.Conserve
open Rtdk.GlobalStats Rtdk.Runs

variable {C D : Type}

/-! ## What a device does with a burst -/

/-- The device takes all packets before it has refused 100 bursts in a row. -/
inductive TakesAll (dev : TxDevice D) : Nat → D → List Mbuf → Prop
  | done (retries : Nat) (d : D) : TakesAll dev retries d []
  | refused {retries : Nat} {d : D} {pkts : List Mbuf} (hn : (dev.txBurst d pkts).1 = 0)
      (hr : retries + 1 < 100) (rest : TakesAll dev (retries + 1) (dev.txBurst d pkts).2 pkts) :
      TakesAll dev retries d pkts
  | taken {retries : Nat} {d : D} {pkts : List Mbuf} (hn : (dev.txBurst d pkts).1 ≠ 0)
      (rest : TakesAll dev 0 (dev.txBurst d pkts).2 (pkts.drop (dev.txBurst d pkts).1)) :
      TakesAll dev retries d pkts

/-- The device refuses the packets 100 times in a row. -/
inductive RefusesAll (dev : TxDevice D) : Nat → D → List Mbuf → Prop
  | gaveUp {retries : Nat} {d : D} {pkts : List Mbuf} (hn : (dev.txBurst d pkts).1 = 0)
      (hr : 100 ≤ retries + 1) : RefusesAll dev retries d pkts
  | refused {retries : Nat} {d : D} {pkts : List Mbuf} (hn : (dev.txBurst d pkts).1 = 0)
      (hr : retries + 1 < 100) (rest : RefusesAll dev (retries + 1) (dev.txBurst d pkts).2 pkts) :
      RefusesAll dev retries d pkts

/-- The flush frees nothing just when the device takes all. -/
theorem flushLoop_left_iff (dev : TxDevice D) (fuel retries : Nat) (d : D) (pkts : List Mbuf)
    (hr : retries < 100) (h : 100 * pkts.length + (100 - retries) < fuel) :
    (flushLoop dev fuel retries d pkts).2.1 = [] ↔ TakesAll dev retries d pkts := by
  induction fuel generalizing retries d pkts with
  | zero => omega
  | succ fuel ih =>
    rw [flushLoop]
    cases hp : pkts with
    | nil => exact ⟨fun _ => .done retries d, fun _ => rfl⟩
    | cons m ms =>
      rw [← hp]
      have hne : pkts ≠ [] := by
        rw [hp]
        exact List.cons_ne_nil m ms
      have hemp : pkts.isEmpty = false := by simp [hne]
      simp only [hemp, Bool.false_eq_true, if_false]
      by_cases hn : (dev.txBurst d pkts).1 = 0
      · simp only [hn, if_true]
        by_cases hlast : retries + 1 ≥ 100
        · simp only [if_pos hlast, hne, false_iff]
          intro ht
          cases ht with
          | done => exact hne rfl
          | refused _ hr' _ => omega
          | taken hn' _ => exact hn' hn
        · simp only [if_neg hlast]
          rw [ih _ _ _ (by omega) (by omega)]
          constructor
          · exact fun ht => .refused hn (by omega) ht
          · intro ht
            cases ht with
            | done => exact absurd rfl hne
            | refused _ _ rest => exact rest
            | taken hn' _ => exact absurd hn hn'
      · have hle := dev.txBurst_le d pkts
        have hdrop : (pkts.drop (dev.txBurst d pkts).1).length < pkts.length := by
          rw [List.length_drop]
          omega
        have hfuel : 100 * (pkts.drop (dev.txBurst d pkts).1).length + (100 - 0) < fuel := by omega
        simp only [hn, if_false]
        rw [ih 0 _ _ (by decide) hfuel]
        constructor
        · exact fun ht => .taken hn ht
        · intro ht
          cases ht with
          | done => exact absurd rfl hne
          | refused hn' _ _ => exact absurd hn' hn
          | taken _ rest => exact rest

/-- The flush sends nothing just when the device refuses all. -/
theorem flushLoop_sent_iff (dev : TxDevice D) (fuel retries : Nat) (d : D) {pkts : List Mbuf}
    (hne : pkts ≠ []) (hr : retries < 100) (h : 100 - retries < fuel) :
    (flushLoop dev fuel retries d pkts).1 = [] ↔ RefusesAll dev retries d pkts := by
  have hemp : pkts.isEmpty = false := by simp [hne]
  induction fuel generalizing retries d with
  | zero => omega
  | succ fuel ih =>
    rw [flushLoop]
    simp only [hemp, Bool.false_eq_true, if_false]
    by_cases hn : (dev.txBurst d pkts).1 = 0
    · simp only [hn, if_true]
      by_cases hlast : retries + 1 ≥ 100
      · simp only [if_pos hlast, true_iff]
        exact .gaveUp hn hlast
      · simp only [if_neg hlast]
        have hagain := ih (retries + 1) (dev.txBurst d pkts).2 (by omega) (by omega)
        refine hagain.trans ?_
        constructor
        · exact fun ht => .refused hn (by omega) ht
        · intro ht
          cases ht with
          | gaveUp _ hr' => omega
          | refused _ _ rest => exact rest
    · have htake : pkts.take (dev.txBurst d pkts).1 ≠ [] := by
        rw [Ne, List.take_eq_nil_iff]
        exact not_or.mpr ⟨hn, hne⟩
      simp only [hn, if_false, List.append_eq_nil_iff, htake, false_and, false_iff]
      intro ht
      cases ht with
      | gaveUp hn' _ => exact hn hn'
      | refused hn' _ _ => exact hn hn'

/-! ## The flushes of a step -/

/-- Add frames one by one. -/
def addAll (dev : TxDevice D) (q : TxQueue D) (fs : List Mbuf) : TxQueue D :=
  fs.foldl (lportTxBufferAdd dev) q

/-- Where adding the frames flushes: the device and the burst it is offered. -/
def flushPoints (dev : TxDevice D) : TxQueue D → List Mbuf → List (D × List Mbuf)
  | _, [] => []
  | q, f :: fs =>
    (if q.pkts.length + 1 < txBufferSize then [] else [(q.dev, q.pkts ++ [f])]) ++
      flushPoints dev (lportTxBufferAdd dev q f) fs

/-- From one transmit buffer to another, with what the device took (`ss`) and what
was freed (`us`); `points` are the flushes on the way, and `fs` what was added. -/
structure Moves (dev : TxDevice D) (q q' : TxQueue D) (fs : List Mbuf)
    (points : List (D × List Mbuf)) (ss us : List Mbuf) : Prop where
  sent : q'.sent = q.sent ++ ss
  unsent : q'.unsent = q.unsent ++ us
  perm : (ss ++ us ++ q'.pkts).Perm (q.pkts ++ fs)
  freed_iff : us = [] ↔ ∀ p ∈ points, TakesAll dev 0 p.1 p.2
  sent_iff : ss = [] ↔ ∀ p ∈ points, p.2 = [] ∨ RefusesAll dev 0 p.1 p.2

theorem Moves.refl (dev : TxDevice D) (q : TxQueue D) : Moves dev q q [] [] [] [] where
  sent := (List.append_nil _).symm
  unsent := (List.append_nil _).symm
  perm := by simp
  freed_iff := by simp
  sent_iff := by simp

theorem Moves.trans {dev : TxDevice D} {q q1 q2 : TxQueue D} {fs fs' : List Mbuf}
    {ps ps' : List (D × List Mbuf)} {ss ss' us us' : List Mbuf} (h : Moves dev q q1 fs ps ss us)
    (h' : Moves dev q1 q2 fs' ps' ss' us') :
    Moves dev q q2 (fs ++ fs') (ps ++ ps') (ss ++ ss') (us ++ us') where
  sent := by rw [h'.sent, h.sent, List.append_assoc]
  unsent := by rw [h'.unsent, h.unsent, List.append_assoc]
  perm := by
    have hswap : (ss ++ ss' ++ (us ++ us') ++ q2.pkts).Perm (ss ++ us ++ (ss' ++ us' ++ q2.pkts)) := by
      classical
      rw [List.perm_iff_count]
      intro a
      simp only [List.count_append]
      omega
    refine hswap.trans ((h'.perm.append_left _).trans ?_)
    rw [← List.append_assoc, ← List.append_assoc]
    exact h.perm.append_right _
  freed_iff := by
    rw [List.append_eq_nil_iff, h.freed_iff, h'.freed_iff]
    exact List.forall_mem_append.symm
  sent_iff := by
    rw [List.append_eq_nil_iff, h.sent_iff, h'.sent_iff]
    exact List.forall_mem_append.symm

theorem flush_moves (dev : TxDevice D) (q : TxQueue D) :
    ∃ ss us, Moves dev q (lportTxBufferFlush dev q) [] [(q.dev, q.pkts)] ss us := by
  refine ⟨(flushLoop dev (100 * (q.pkts.length + 1) + 1) 0 q.dev q.pkts).1,
    (flushLoop dev (100 * (q.pkts.length + 1) + 1) 0 q.dev q.pkts).2.1, rfl, rfl, ?_, ?_, ?_⟩
  · rw [flushLoop_append, lportTxBufferFlush_pkts]
  · rw [flushLoop_left_iff dev _ 0 _ _ (by decide) (by omega), List.forall_mem_singleton]
  · rw [List.forall_mem_singleton]
    by_cases hne : q.pkts = []
    · rw [hne]
      simp [flushLoop]
    · rw [flushLoop_sent_iff dev _ 0 _ hne (by decide) (by omega)]
      simp [hne]

theorem push_moves (dev : TxDevice D) (q : TxQueue D) (f : Mbuf) :
    Moves dev q { q with pkts := q.pkts ++ [f], added := q.added ++ [f] } [f] [] [] [] where
  sent := (List.append_nil _).symm
  unsent := (List.append_nil _).symm
  perm := .refl _
  freed_iff := by simp
  sent_iff := by simp

theorem add_moves (dev : TxDevice D) (q : TxQueue D) (f : Mbuf) :
    ∃ ss us, Moves dev q (lportTxBufferAdd dev q f) [f]
      (if q.pkts.length + 1 < txBufferSize then [] else [(q.dev, q.pkts ++ [f])]) ss us := by
  have hpush := push_moves dev q f
  simp only [lportTxBufferAdd, List.length_append, List.length_singleton]
  split
  · exact ⟨_, _, hpush⟩
  · obtain ⟨ss, us, hflush⟩ := flush_moves dev { q with pkts := q.pkts ++ [f], added := q.added ++ [f] }
    exact ⟨_, _, hpush.trans hflush⟩

theorem addAll_moves (dev : TxDevice D) (q : TxQueue D) (fs : List Mbuf) :
    ∃ ss us, Moves dev q (addAll dev q fs) fs (flushPoints dev q fs) ss us := by
  induction fs generalizing q with
  | nil => exact ⟨_, _, Moves.refl dev q⟩
  | cons f fs ih =>
    obtain ⟨ss, us, hone⟩ := add_moves dev q f
    obtain ⟨ss', us', hrest⟩ := ih (lportTxBufferAdd dev q f)
    exact ⟨_, _, hone.trans hrest⟩

/-- All flushes of a transmit step: those of the frames it adds, and the last one. -/
def allFlushes (dev : TxDevice D) (q : TxQueue D) (fs : List Mbuf) : List (D × List Mbuf) :=
  flushPoints dev q fs ++ [((addAll dev q fs).dev, (addAll dev q fs).pkts)]

theorem send_moves (dev : TxDevice D) (q : TxQueue D) (fs : List Mbuf) :
    ∃ ss us, Moves dev q (lportSend dev (addAll dev q fs)) fs (allFlushes dev q fs) ss us := by
  obtain ⟨ss, us, hadd⟩ := addAll_moves dev q fs
  obtain ⟨ss', us', hflush⟩ := flush_moves dev (addAll dev q fs)
  have hboth := hadd.trans hflush
  rw [List.append_nil] at hboth
  exact ⟨_, _, hboth⟩

/-! ## What the steps do -/

/-- The calls of `stat_frame_sent` for frames with counters from `seq` on. -/
def sentEvents (ty : FrameType) (t : UInt64) : UInt64 → Nat → List Event
  | _, 0 => []
  | seq, n + 1 => .sent ty seq t :: sentEvents ty t (seq + 1) n

/-- Transmission of one cycle. -/
def transmit (env : Env C D) (ty : FrameType) (numFrames : UInt64) (mbufs : Option (List Mbuf))
    (w : World C D) : Except Stop (World C D) :=
  if env.mirrorMode then sendFramesCommon env ty numFrames w
  else genAndSendFrames env ty numFrames mbufs w

theorem play_of_sent {cfg : StatConfig} {s : StatPrivate} {ty : FrameType} {k t : UInt64}
    (h : (statFrameSent cfg s ty k t).halt = none) (es : List Event) :
    play cfg s (.sent ty k t :: es) = play cfg (statFrameSent cfg s ty k t).stat es := by
  rw [play]
  simp only [Event.call, h]

theorem genFrame_moved {env : Env C D} {ty : FrameType} {n seq txTime : UInt64} {w w' : World C D}
    {m : Mbuf} (h : genFrame env ty n seq txTime w m = .ok w') :
    ∃ f, w'.tx = lportTxBufferAdd env.dev w.tx f ∧
      (statFrameSent env.statConfig w.stat ty seq txTime).halt = none ∧
      w'.stat = (statFrameSent env.statConfig w.stat ty seq txTime).stat := by
  obtain ⟨⟨w1, f⟩, hp, h⟩ := bind_ok_iff.mp h
  obtain ⟨w2, hstat, h⟩ := bind_ok_iff.mp h
  obtain ⟨htx, hstat1⟩ := prepareFrame_keeps hp
  obtain ⟨hhalt, hw2⟩ := World.applyStat_ok hstat
  rw [hstat1] at hhalt hw2
  cases h
  refine ⟨f, ?_, hhalt, ?_⟩
  · rw [World.enqueue, hw2, htx]
  · rw [World.enqueue, hw2]

/-- A burst adds a frame and counts one for each mbuf. -/
theorem genFrames_moved {env : Env C D} {ty : FrameType} {n txTime seq : UInt64}
    {w w' : World C D} {ms : List Mbuf} (h : genFrames env ty n txTime seq w ms = .ok w') :
    ∃ fs, fs.length = ms.length ∧ w'.tx = addAll env.dev w.tx fs ∧
      play env.statConfig w.stat (sentEvents ty txTime seq ms.length) = .ok w'.stat := by
  induction ms generalizing seq w with
  | nil =>
    cases h
    exact ⟨[], rfl, rfl, rfl⟩
  | cons m ms ih =>
    simp only [genFrames, bind, Except.bind] at h
    split at h
    · cases h
    · rename_i w1 hone
      obtain ⟨f, htx, hhalt, hstat⟩ := genFrame_moved hone
      obtain ⟨fs, hlen, htx', hplay⟩ := ih h
      refine ⟨f :: fs, congrArg (· + 1) hlen, ?_, ?_⟩
      · rw [htx', htx]
        rfl
      · rw [List.length_cons, sentEvents, play_of_sent hhalt, ← hstat]
        exact hplay

theorem accountBuffered_moved {env : Env C D} {ty : FrameType} {n t : UInt64} {w w' : World C D}
    {ms : List Mbuf} (h : accountBuffered env ty n t w ms = .ok w') :
    w'.tx = w.tx ∧ ∃ es, (∀ e ∈ es, ∃ k t, e = .sent ty k t) ∧ es.length = ms.length ∧
      play env.statConfig w.stat es = .ok w'.stat := by
  induction ms generalizing w with
  | nil =>
    cases h
    exact ⟨rfl, [], by simp, rfl, rfl⟩
  | cons m ms ih =>
    simp only [accountBuffered, bind, Except.bind] at h
    split at h
    · cases h
    · rename_i w1 hstat
      obtain ⟨hhalt, hw1⟩ := World.applyStat_ok hstat
      obtain ⟨htx, es, hes, hlen, hplay⟩ := ih h
      refine ⟨htx.trans (by rw [hw1]),
        .sent ty (metaDataToSequenceCounter m.data (env.metaDataOffset ty) n) t :: es, ?_,
        congrArg (· + 1) hlen, ?_⟩
      · intro e he
        rcases List.mem_cons.mp he with rfl | he
        · exact ⟨_, _, rfl⟩
        · exact hes e he
      · rw [play_of_sent hhalt]
        rw [hw1] at hplay
        exact hplay

theorem sentEvents_length (ty : FrameType) (t seq : UInt64) (n : Nat) :
    (sentEvents ty t seq n).length = n := by
  induction n generalizing seq with
  | zero => rfl
  | succ n ih => exact congrArg (· + 1) (ih (seq + 1))

theorem sentEvents_sent (ty : FrameType) (t seq : UInt64) (n : Nat) :
    ∀ e ∈ sentEvents ty t seq n, ∃ k t, e = .sent ty k t := by
  induction n generalizing seq with
  | zero => simp [sentEvents]
  | succ n ih =>
    intro e he
    rcases List.mem_cons.mp he with rfl | he
    · exact ⟨seq, t, rfl⟩
    · exact ih (seq + 1) e he

/-- A transmit step: the frames it added, and the calls of `stat_frame_sent`. -/
structure Transmitted (env : Env C D) (ty : FrameType) (w w' : World C D) (fs : List Mbuf)
    (es : List Event) : Prop where
  tx : w'.tx = lportSend env.dev (addAll env.dev w.tx fs)
  stat : play env.statConfig w.stat es = .ok w'.stat
  sent : ∀ e ∈ es, ∃ k t, e = .sent ty k t
  length : es.length = w.tx.pkts.length + fs.length
  events : env.mirrorMode = false →
    es = sentEvents ty (w.now env) w.thread.txSequenceCounter fs.length

theorem flush_empty (dev : TxDevice D) {q : TxQueue D} (h : q.pkts = []) :
    lportTxBufferFlush dev q = q := by
  obtain ⟨pkts, d, added, sent, unsent⟩ := q
  subst h
  simp [lportTxBufferFlush, flushLoop]

theorem transmitted_nothing {env : Env C D} (ty : FrameType) {w w' : World C D}
    (hempty : w.tx.pkts = []) (htx : w'.tx = w.tx) (hstat : w'.stat = w.stat) :
    Transmitted env ty w w' [] [] where
  tx := htx.trans (flush_empty env.dev hempty).symm
  stat := congrArg Except.ok hstat.symm
  sent := by simp
  length := by simp [hempty]
  events _ := rfl

/-- The buffer of a reference is empty between its steps. -/
theorem transmit_ok {env : Env C D} {ty : FrameType} {n : UInt64} {mbufs : Option (List Mbuf)}
    {w w' : World C D} (hempty : env.mirrorMode = false → w.tx.pkts = [])
    (h : transmit env ty n mbufs w = .ok w') :
    ∃ fs es, Transmitted env ty w w' fs es ∧ fs.length ≤ (mbufs.getD []).length := by
  unfold transmit at h
  cases hm : env.mirrorMode with
  | true =>
    simp only [hm, if_true, sendFramesCommon, bind, Except.bind] at h
    split at h
    · cases h
    · rename_i w1 hacc
      obtain ⟨htx, es, hes, hlen, hplay⟩ := accountBuffered_moved hacc
      cases h
      refine ⟨[], es, ⟨?_, hplay, hes, hlen, ?_⟩, Nat.zero_le _⟩
      · exact congrArg (lportSend env.dev) htx
      · intro hfalse
        rw [hm] at hfalse
        cases hfalse
  | false =>
    have hpkts := hempty hm
    simp only [hm, Bool.false_eq_true, if_false, genAndSendFrames] at h
    split at h
    · cases h
      exact ⟨[], [], transmitted_nothing ty hpkts rfl rfl, Nat.zero_le _⟩
    · cases mbufs with
      | none =>
        cases h
        exact ⟨[], [], transmitted_nothing ty hpkts rfl rfl, Nat.zero_le _⟩
      | some ms =>
        simp only [bind, Except.bind] at h
        split at h
        · cases h
        · rename_i w1 hgen
          obtain ⟨fs, hlen, htx, hplay⟩ := genFrames_moved hgen
          cases h
          refine ⟨fs, _, ⟨?_, hplay, sentEvents_sent _ _ _ _, ?_, ?_⟩, hlen.le⟩
          · exact congrArg (lportSend env.dev) htx
          · rw [sentEvents_length, hpkts, hlen, List.length_nil, Nat.zero_add]
          · intro _
            rw [hlen]

theorem received_framesSent {cfg : StatConfig} {s : StatPrivate} {ty : FrameType} {k : UInt64}
    {o p f : Bool} {tx now : UInt64} (h : (statFrameReceived cfg s ty k o p f tx now).halt = none) :
    ((statFrameReceived cfg s ty k o p f tx now).stat.globalStatistics ty).framesSent =
      (s.globalStatistics ty).framesSent := by
  have hrt : ((roundTrip cfg s ty k now).stat.globalStatistics ty).framesSent =
      (s.globalStatistics ty).framesSent := by
    unfold roundTrip
    split
    · rfl
    · simp only [roundTripSample, setAt_same, Statistics.addRoundTrip]
  rw [(statFrameReceived_global h).1, ← hrt]
  rfl

/-- One received frame: it counts nothing as sent, and only a mirror queues it. -/
theorem rxOne_moved {env : Env C D} {ty : FrameType} {s s' : RxState C D} {m : Mbuf}
    {d : Option Mbuf} (h : rxOne env (rxHandler env ty) s m = .ok (s', d)) :
    (s'.world.stat.globalStatistics ty).framesSent =
        (s.world.stat.globalStatistics ty).framesSent ∧
      (s'.world.tx = s.world.tx ∨
        env.mirrorMode = true ∧ ∃ q, s'.world.tx = lportTxBufferAdd env.dev s.world.tx q) := by
  rcases rxOne_ok h with ⟨e, hw⟩ | ⟨expected, lay, out, -, hacc, hw⟩
  · rw [hw]
    exact ⟨rfl, Or.inl rfl⟩
  · rw [hw]
    obtain ⟨r, w1, hdec, haccount, hcon, -⟩ := accept_ok hacc
    have htx := account_tx hdec haccount
    obtain ⟨hhalt, hw1⟩ := account_ok haccount
    rw [handler_ty] at hhalt hw1
    have hsent : (w1.stat.globalStatistics ty).framesSent =
        (s.world.stat.globalStatistics ty).framesSent := by
      rw [hw1, ← (decode_spec env ty hdec).stat]
      exact received_framesSent hhalt
    rcases conclude_fate env ty hcon with ⟨-, x, l, hout⟩ | ⟨-, hm, -, hout⟩
    · rw [hout]
      exact ⟨hsent, Or.inl htx⟩
    · have hfw := forward_world env ty (w1.setRx (w1.thread.rxSequenceCounter + 1)) r.mbuf lay
      rw [hout]
      refine ⟨?_, Or.inr ⟨hm, ((rxHandler env ty).forward
        (w1.setRx (w1.thread.rxSequenceCounter + 1)) r.mbuf lay).2, ?_⟩⟩
      · rw [World.enqueue, hfw.2.1]
        exact hsent
      · rw [World.enqueue, hfw.2.2.1, World.setRx_tx, htx]

theorem rxBurst_moved {env : Env C D} {ty : FrameType} {ms fs : List Mbuf} {s s' : RxState C D}
    (h : rxBurst env (rxHandler env ty) s ms = .ok (s', fs)) :
    (s'.world.stat.globalStatistics ty).framesSent =
        (s.world.stat.globalStatistics ty).framesSent ∧
      ∃ qs, qs.length ≤ ms.length ∧ s'.world.tx = addAll env.dev s.world.tx qs ∧
        (env.mirrorMode = false → qs = []) := by
  induction ms generalizing s fs with
  | nil =>
    cases h
    exact ⟨rfl, [], Nat.le_refl _, rfl, fun _ => rfl⟩
  | cons m ms ih =>
    obtain ⟨s1, d, gs, hone, hrest, -⟩ := rxBurst_cons_ok h
    obtain ⟨hsent1, hone⟩ := rxOne_moved hone
    obtain ⟨hsent, qs, hlen, htx, hqs⟩ := ih hrest
    refine ⟨hsent.trans hsent1, ?_⟩
    rcases hone with hsame | ⟨hm, q, hq⟩
    · refine ⟨qs, hlen.trans (Nat.le_succ _), ?_, hqs⟩
      rw [htx, hsame]
    · refine ⟨q :: qs, Nat.succ_le_succ hlen, ?_, ?_⟩
      · rw [htx, hq]
        rfl
      · intro hfalse
        rw [hm] at hfalse
        cases hfalse

/-! ## Counting -/

theorem play_framesSent {cfg : StatConfig} {ty : FrameType} {es : List Event}
    (hes : ∀ e ∈ es, ∃ k t, e = .sent ty k t) {s s' : StatPrivate} (h : play cfg s es = .ok s') :
    (s'.globalStatistics ty).framesSent =
      (s.globalStatistics ty).framesSent + UInt64.ofNat es.length := by
  induction es generalizing s with
  | nil =>
    cases h
    exact (UInt64.add_zero _).symm
  | cons e es ih =>
    obtain ⟨k, t, rfl⟩ := hes e List.mem_cons_self
    obtain ⟨hhalt, hrest⟩ := play_cons_ok h
    have hone : ((Event.call cfg s (.sent ty k t)).stat.globalStatistics ty).framesSent =
        (s.globalStatistics ty).framesSent + 1 := by
      simp only [Event.call, sent_global hhalt, setAt_same, Statistics.addSent]
    rw [ih (fun e' he' => hes e' (List.mem_cons_of_mem _ he')) hrest, hone, List.length_cons,
      UInt64.ofNat_add, UInt64.add_assoc, UInt64.add_comm 1]
    rfl

theorem ofNat_add_eq_iff {a b : Nat} (ha : a < 2 ^ 64) (hb : b < 2 ^ 64) (x : Nat) :
    UInt64.ofNat x + UInt64.ofNat a = UInt64.ofNat (x + b) ↔ a = b := by
  rw [UInt64.ofNat_add, UInt64.add_right_inj, ← UInt64.toNat_inj, UInt64.toNat_ofNat',
    UInt64.toNat_ofNat', Nat.mod_eq_of_lt ha, Nat.mod_eq_of_lt hb]

/-! ## The backlog -/

theorem sentEvents_getElem? (ty : FrameType) (t seq : UInt64) {n i : Nat} (hi : i < n) :
    (sentEvents ty t seq n)[i]? = some (.sent ty (seq + UInt64.ofNat i) t) := by
  induction n generalizing seq i with
  | zero => omega
  | succ n ih =>
    cases i with
    | zero =>
      show some (Event.sent ty seq t) = some (.sent ty (seq + 0) t)
      rw [UInt64.add_zero]
    | succ i =>
      show (sentEvents ty t (seq + 1) n)[i]? = _
      rw [ih (seq + 1) (by omega), UInt64.ofNat_add, UInt64.add_assoc, UInt64.add_comm 1]
      rfl

/-- A slot holds what it held, or what one of the calls that used it left there. -/
theorem lastEntry_cases (ty : FrameType) (len : UInt64) (slot : Nat) (b : Backlog)
    (es : List Event) :
    (∀ e ∈ es, e.hits ty len slot = false) ∧ lastEntry ty len slot b es = b ∨
      ∃ e ∈ es, e.hits ty len slot = true ∧ lastEntry ty len slot b es = e.leaves := by
  induction es using List.reverseRecOn with
  | nil => exact Or.inl ⟨by simp, rfl⟩
  | append_singleton es e ih =>
    cases he : e.hits ty len slot with
    | true =>
      refine Or.inr ⟨e, by simp, he, ?_⟩
      simp [lastEntry, he]
    | false =>
      rw [lastEntry_skip he]
      rcases ih with ⟨hnone, hsame⟩ | ⟨e', he', hhit, hlast⟩
      · refine Or.inl ⟨fun e' he' => ?_, hsame⟩
        rcases List.mem_append.mp he' with h | h
        · exact hnone e' h
        · rw [List.mem_singleton.mp h]
          exact he
      · exact Or.inr ⟨e', List.mem_append_left _ he', hhit, hlast⟩

theorem mem_sentEvents {ty : FrameType} {t seq : UInt64} {n : Nat} {e : Event} :
    e ∈ sentEvents ty t seq n ↔ ∃ j, j < n ∧ e = .sent ty (seq + UInt64.ofNat j) t := by
  rw [List.mem_iff_getElem?]
  constructor
  · rintro ⟨j, hj⟩
    have hlt : j < n := by
      rw [← sentEvents_length ty t seq n]
      exact (List.getElem?_eq_some_iff.mp hj).1
    rw [sentEvents_getElem? ty t seq hlt] at hj
    exact ⟨j, hlt, (Option.some.inj hj).symm⟩
  · rintro ⟨j, hj, rfl⟩
    exact ⟨j, sentEvents_getElem? ty t seq hj⟩

theorem Event.sent_hits (ty : FrameType) (len k t : UInt64) (slot : Nat) :
    (Event.sent ty k t).hits ty len slot = decide (slotOf len k = slot) := by
  show (decide (ty = ty) && decide (slotOf len k = slot)) = _
  rw [decide_eq_true rfl, Bool.true_and]

theorem add_ofNat_ne {j : Nat} (h0 : 0 < j) (hj : j < 2 ^ 64) (seq : UInt64) :
    seq + UInt64.ofNat j ≠ seq := by
  intro h
  have hzero : UInt64.ofNat j = 0 := by
    rwa [← UInt64.add_right_inj seq, UInt64.add_zero]
  rw [← UInt64.toNat_inj, UInt64.toNat_ofNat', Nat.mod_eq_of_lt hj] at hzero
  exact absurd hzero (Nat.ne_of_gt h0)

theorem add_ofNat_succ (seq : UInt64) (i : Nat) :
    seq + UInt64.ofNat (i + 1) = seq + 1 + UInt64.ofNat i := by
  rw [UInt64.ofNat_add, UInt64.add_assoc, UInt64.add_comm 1]
  rfl

/-- A frame of a burst still has its entry after the burst, unless a later frame
of the burst used the same slot. -/
theorem burst_entry (ty : FrameType) (t len : UInt64) {n i : Nat} (hi : i < n) (hn : n < 2 ^ 64)
    (seq : UInt64) (b : Backlog) :
    lastEntry ty len (slotOf len (seq + UInt64.ofNat i)) b (sentEvents ty t seq n) =
        ⟨seq + UInt64.ofNat i, t⟩ ↔
      ∀ j, i < j → j < n → slotOf len (seq + UInt64.ofNat j) ≠ slotOf len (seq + UInt64.ofNat i) := by
  induction i generalizing seq n b with
  | zero =>
    cases n with
    | zero => omega
    | succ n =>
      have hseq : seq + UInt64.ofNat 0 = seq := UInt64.add_zero seq
      rw [hseq]
      have hfirst : lastEntry ty len (slotOf len seq) b (sentEvents ty t seq (n + 1)) =
          lastEntry ty len (slotOf len seq) ⟨seq, t⟩ (sentEvents ty t (seq + 1) n) := by
        simp [lastEntry, sentEvents, Event.sent_hits, Event.leaves]
      rw [hfirst]
      rcases lastEntry_cases ty len (slotOf len seq) ⟨seq, t⟩ (sentEvents ty t (seq + 1) n) with
        ⟨hnone, hlast⟩ | ⟨e, he, hhit, hlast⟩
      · rw [hlast]
        refine ⟨fun _ j hj hjn => ?_, fun _ => rfl⟩
        obtain ⟨j, rfl⟩ := Nat.exists_eq_add_of_lt hj
        have hmiss := hnone _ (mem_sentEvents.mpr ⟨j, by omega, rfl⟩)
        rw [Event.sent_hits, decide_eq_false_iff_not, ← add_ofNat_succ] at hmiss
        rwa [Nat.zero_add]
      · obtain ⟨j, hj, rfl⟩ := mem_sentEvents.mp he
        rw [Event.sent_hits, decide_eq_true_eq, ← add_ofNat_succ] at hhit
        rw [hlast]
        constructor
        · intro heq
          have hk : seq + UInt64.ofNat (j + 1) = seq := by
            rw [add_ofNat_succ]
            exact congrArg Backlog.cycleNumber heq
          exact absurd hk (add_ofNat_ne (by omega) (by omega) seq)
        · intro hall
          exact absurd hhit (hall (j + 1) (by omega) (by omega))
  | succ i ih =>
    cases n with
    | zero => omega
    | succ n =>
      have hrest := ih (n := n) (by omega) (by omega) (seq + 1)
      rw [← add_ofNat_succ] at hrest
      rw [sentEvents, lastEntry, List.foldl_cons, ← lastEntry, hrest]
      constructor
      · intro h j hj hjn
        obtain ⟨j, rfl⟩ : ∃ j', j = j' + 1 := ⟨j - 1, by omega⟩
        rw [add_ofNat_succ seq j]
        exact h j (by omega) (by omega)
      · intro h j hj hjn
        rw [← add_ofNat_succ]
        exact h (j + 1) (by omega) (by omega)

/-! ## Runs -/

/-- What a class's thread does, and the reset of the statistics. A burst comes
with a 16-bit length, and the pool gives as many buffers as it was asked for. -/
inductive Step
  | receive (stack : Mem UInt8) (mbufs : {ms : List Mbuf // ms.length < 2 ^ 16})
  | transmit (numFrames : UInt64)
      (mbufs : Option {ms : List Mbuf // ms.length = numFrames.toUInt16.toNat})
  | statsResetAllStats

/-- The world, and how many frames the device had taken at the last reset. -/
structure State (C D : Type) where
  world : World C D
  base : Nat

def Step.run (env : Env C D) (ty : FrameType) (s : State C D) : Step → Except Stop (State C D)
  | .receive stack mbufs =>
    (rxFrame env ty stack s.world mbufs.1).map fun p => { s with world := p.1 }
  | .transmit numFrames mbufs =>
    (SentCount.transmit env ty numFrames (mbufs.map Subtype.val) s.world).map fun w =>
      { s with world := w }
  | .statsResetAllStats =>
    .ok { world := { s.world with stat := GlobalStats.statsResetAllStats s.world.stat }
          base := s.world.tx.sent.length }

def start (env : Env C D) (ty : FrameType) (ctx : C) (dev : D) : State C D :=
  ⟨World.fresh env ty ctx dev, 0⟩

def run (env : Env C D) (ty : FrameType) (s : State C D) (cs : List Step) :
    Except Stop (State C D) :=
  cs.foldlM (Step.run env ty) s

/-- The frames that were added between two states, and those the device took. -/
def added (s s' : State C D) : List Mbuf := s'.world.tx.added.drop s.world.tx.added.length
def accepted (s s' : State C D) : List Mbuf := s'.world.tx.sent.drop s.world.tx.sent.length

/-- Since the last reset `frames_sent` counts the frames the device took. -/
def Counted (ty : FrameType) (s : State C D) : Prop :=
  (s.world.stat.globalStatistics ty).framesSent = UInt64.ofNat (s.world.tx.sent.length - s.base)

/-- The counter of the `i`-th frame a generator builds in this state. -/
def counterAt (s : State C D) (i : Nat) : UInt64 := s.world.thread.txSequenceCounter + UInt64.ofNat i

/-- The backlog has an entry for the `i`-th frame of the step. -/
def HasEntry (env : Env C D) (ty : FrameType) (s s' : State C D) (i : Nat) : Prop :=
  let rtt := s'.world.stat.roundTripContexts ty
  rtt.backlog (slotOf rtt.backlogLen (counterAt s i)) = ⟨counterAt s i, s.world.now env⟩

/-- What the step made of its frames is accounted for. -/
structure Accounted (env : Env C D) (ty : FrameType) (s s' : State C D) : Prop where
  counted : Counted ty s'
  recorded : env.mirrorMode = false →
    ∀ i f, (added s s')[i]? = some f → (HasEntry env ty s s' i ↔ f ∈ accepted s s')

/-- No two frames of the step share a slot of the backlog. -/
def SlotsApart (ty : FrameType) (s s' : State C D) : Prop :=
  let len := (s.world.stat.roundTripContexts ty).backlogLen
  ∀ i j, i < j → j < (added s s').length →
    slotOf len (counterAt s j) ≠ slotOf len (counterAt s i)

/-- A full buffer that a handler flushes is refused, and what a transmit step
flushes is taken, by a reference into a backlog with room for it. -/
def Met (env : Env C D) (ty : FrameType) (s : State C D) (c : Step) (s' : State C D) : Prop :=
  match c with
  | .receive _ _ =>
    ∀ p ∈ flushPoints env.dev s.world.tx (added s s'), RefusesAll env.dev 0 p.1 p.2
  | .transmit _ _ =>
    (∀ p ∈ allFlushes env.dev s.world.tx (added s s'), TakesAll env.dev 0 p.1 p.2) ∧
      (env.mirrorMode = false → SlotsApart ty s s')
  | .statsResetAllStats => True

/-- Between steps: the buffer has room, and is empty in a reference. -/
structure Settled (env : Env C D) (s : State C D) : Prop where
  room : s.world.tx.pkts.length < txBufferSize
  empty : env.mirrorMode = false → s.world.tx.pkts = []
  base : s.base ≤ s.world.tx.sent.length

theorem flushPoints_ne (dev : TxDevice D) (q : TxQueue D) (fs : List Mbuf) :
    ∀ p ∈ flushPoints dev q fs, p.2 ≠ [] := by
  induction fs generalizing q with
  | nil => simp [flushPoints]
  | cons f fs ih =>
    intro p hp
    rw [flushPoints] at hp
    rcases List.mem_append.mp hp with h | h
    · split at h
      · cases h
      · rw [List.mem_singleton.mp h]
        simp
    · exact ih _ p h

theorem addAll_added (dev : TxDevice D) (q : TxQueue D) (fs : List Mbuf) :
    (addAll dev q fs).added = q.added ++ fs := foldl_added dev fs q

theorem added_of_append {s s' : State C D} {fs : List Mbuf}
    (h : s'.world.tx.added = s.world.tx.added ++ fs) : added s s' = fs := by
  rw [added, h, List.drop_left]

theorem accepted_of_append {s s' : State C D} {ss : List Mbuf}
    (h : s'.world.tx.sent = s.world.tx.sent ++ ss) : accepted s s' = ss := by
  rw [accepted, h, List.drop_left]

/-- The count after a step that called `stat_frame_sent` `n` times. -/
theorem counted_iff {ty : FrameType} {s s' : State C D} {ss : List Mbuf} {n : Nat}
    (hc : Counted ty s) (hbase : s'.base = s.base) (hle : s.base ≤ s.world.tx.sent.length)
    (hsent : s'.world.tx.sent = s.world.tx.sent ++ ss) (hn : n < 2 ^ 64) (hss : ss.length < 2 ^ 64)
    (hcount : (s'.world.stat.globalStatistics ty).framesSent =
      (s.world.stat.globalStatistics ty).framesSent + UInt64.ofNat n) :
    Counted ty s' ↔ n = ss.length := by
  have hlen : s'.world.tx.sent.length - s'.base =
      s.world.tx.sent.length - s.base + ss.length := by
    rw [hsent, hbase, List.length_append]
    omega
  rw [Counted, hcount, hc, hlen, ofNat_add_eq_iff hn hss]

section step

variable {env : Env C D} {ty : FrameType} {s s' : State C D} (hs : Settled env s)
include hs

/-- A received burst counts nothing, so nothing may leave. -/
theorem receive_step {stack : Mem UInt8} {mbufs : {ms : List Mbuf // ms.length < 2 ^ 16}}
    (h : (Step.receive stack mbufs).run env ty s = .ok s') :
    Settled env s' ∧
      (Counted ty s → (Accounted env ty s s' ↔ Met env ty s (.receive stack mbufs) s')) := by
  obtain ⟨⟨w, freed⟩, hrx, rfl⟩ := map_ok_iff.mp h
  obtain ⟨t, fs, hb, rfl⟩ := rxFrame_ok hrx
  obtain ⟨hframes, qs, hqs, htx, href⟩ := rxBurst_moved hb
  obtain ⟨ss, us, hmoves⟩ := addAll_moves env.dev s.world.tx qs
  rw [← htx] at hmoves
  have hadded : added s { s with world := t.world } = qs := by
    refine added_of_append ?_
    rw [htx, addAll_added]
  have hss : ss.length < 2 ^ 64 := by
    have hperm := hmoves.perm.length_eq
    have hroom : s.world.tx.pkts.length < 1024 := hs.room
    have hburst := mbufs.2
    simp only [List.length_append] at hperm
    omega
  refine ⟨⟨?_, ?_, ?_⟩, fun hc => ?_⟩
  · show t.world.tx.pkts.length < txBufferSize
    rw [htx]
    exact foldl_add (P := Room) (fun q m _ => lportTxBufferAdd_room env.dev q m) qs hs.room
  · intro hm
    show t.world.tx.pkts = []
    rw [htx, href hm]
    exact hs.empty hm
  · show s.base ≤ t.world.tx.sent.length
    rw [hmoves.sent, List.length_append]
    exact hs.base.trans (Nat.le_add_right _ _)
  · have hcounted : Counted ty { s with world := t.world } ↔ 0 = ss.length :=
      counted_iff hc rfl hs.base hmoves.sent (by decide) hss
        (by rw [hframes]; exact (UInt64.add_zero _).symm)
    have hnothing : 0 = ss.length ↔ Met env ty s (.receive stack mbufs) { s with world := t.world } := by
      rw [eq_comm, List.length_eq_zero_iff, hmoves.sent_iff, Met, hadded]
      refine forall₂_congr fun p hp => ?_
      simp [flushPoints_ne env.dev _ _ p hp]
    rw [← hnothing, ← hcounted]
    refine ⟨fun ha => ha.counted, fun h => ⟨h, fun hm i f hf => ?_⟩⟩
    rw [hadded, href hm] at hf
    cases hf

omit hs in
/-- After a generator's step the entries of its frames are there unless two of them
shared a slot. -/
theorem entries_iff (href : env.mirrorMode = false) {fs : List Mbuf} (hadded : added s s' = fs)
    (hfs : fs.length < 2 ^ 64)
    (hplay : play env.statConfig s.world.stat (sentEvents ty (s.world.now env)
      s.world.thread.txSequenceCounter fs.length) = .ok s'.world.stat) :
    (∀ i, i < fs.length → HasEntry env ty s s' i) ↔ SlotsApart ty s s' := by
  have hentry (i : Nat) (hi : i < fs.length) : HasEntry env ty s s' i ↔
      ∀ j, i < j → j < fs.length →
        slotOf (s.world.stat.roundTripContexts ty).backlogLen (counterAt s j) ≠
          slotOf (s.world.stat.roundTripContexts ty).backlogLen (counterAt s i) := by
    have hbacklog (slot : Nat) := @play_backlog env.statConfig href _ _ _ hplay ty slot
    rw [HasEntry, (hbacklog 0).1, (hbacklog _).2]
    exact burst_entry ty _ _ hi hfs _ _
  rw [SlotsApart, hadded]
  constructor
  · intro h i j hij hj
    exact (hentry i (by omega)).mp (h i (by omega)) j hij hj
  · intro h i hi
    exact (hentry i hi).mpr fun j hij hj => h i j hij hj

omit hs in
/-- When the device has taken all its frames, the backlog of a generator's step is
right unless two of them shared a slot. -/
theorem recorded_iff (href : env.mirrorMode = false) {fs : List Mbuf} (hadded : added s s' = fs)
    (hfs : fs.length < 2 ^ 64) (htaken : ∀ f ∈ fs, f ∈ accepted s s')
    (hplay : play env.statConfig s.world.stat (sentEvents ty (s.world.now env)
      s.world.thread.txSequenceCounter fs.length) = .ok s'.world.stat) :
    (∀ i f, (added s s')[i]? = some f → (HasEntry env ty s s' i ↔ f ∈ accepted s s')) ↔
      SlotsApart ty s s' := by
  rw [← entries_iff href hadded hfs hplay, hadded]
  constructor
  · intro hrec i hi
    exact (hrec i fs[i] (List.getElem?_eq_getElem hi)).mpr (htaken _ (List.getElem_mem hi))
  · intro hentries i f hf
    obtain ⟨hi, rfl⟩ := List.getElem?_eq_some_iff.mp hf
    exact ⟨fun _ => htaken _ (List.getElem_mem hi), fun _ => hentries i hi⟩

/-- A transmit step counts all it flushes, so all has to leave. -/
theorem transmit_step {n : UInt64}
    {mbufs : Option {ms : List Mbuf // ms.length = n.toUInt16.toNat}}
    (h : (Step.transmit n mbufs).run env ty s = .ok s') :
    Settled env s' ∧
      (Counted ty s → (Accounted env ty s s' ↔ Met env ty s (.transmit n mbufs) s')) := by
  obtain ⟨w, htr, rfl⟩ := map_ok_iff.mp h
  obtain ⟨fs, es, ht, hfs⟩ := transmit_ok hs.empty htr
  obtain ⟨ss, us, hmoves⟩ := send_moves env.dev s.world.tx fs
  rw [← ht.tx] at hmoves
  have hpkts : w.tx.pkts = [] := by
    rw [ht.tx]
    rfl
  have hadded : added s { s with world := w } = fs := by
    refine added_of_append ?_
    rw [ht.tx]
    exact addAll_added env.dev s.world.tx fs
  have haccepted : accepted s { s with world := w } = ss := accepted_of_append hmoves.sent
  have hfs16 : fs.length < 2 ^ 16 := by
    refine Nat.lt_of_le_of_lt hfs ?_
    cases mbufs with
    | none => exact Nat.two_pow_pos 16
    | some ms =>
      show ms.1.length < 2 ^ 16
      rw [ms.2]
      exact n.toUInt16.toNat_lt
  have hroom : s.world.tx.pkts.length < 1024 := hs.room
  have hperm := hmoves.perm.length_eq
  rw [hpkts] at hperm
  simp only [List.length_append, List.length_nil, Nat.add_zero] at hperm
  refine ⟨⟨?_, fun _ => hpkts, ?_⟩, fun hc => ?_⟩
  · show w.tx.pkts.length < txBufferSize
    rw [hpkts]
    decide
  · show s.base ≤ w.tx.sent.length
    rw [hmoves.sent, List.length_append]
    exact hs.base.trans (Nat.le_add_right _ _)
  · have hcounted : Counted ty { s with world := w } ↔ es.length = ss.length :=
      counted_iff hc rfl hs.base hmoves.sent (by rw [ht.length]; omega) (by omega)
        (play_framesSent ht.sent ht.stat)
    have hall : Counted ty { s with world := w } ↔ us = [] := by
      rw [hcounted, ht.length, ← List.length_eq_zero_iff]
      omega
    have hrecorded (hm : env.mirrorMode = false) (hus : us = []) :
        (∀ i f, (added s { s with world := w })[i]? = some f →
          (HasEntry env ty s { s with world := w } i ↔
            f ∈ accepted s { s with world := w })) ↔
          SlotsApart ty s { s with world := w } := by
      have hplay := ht.stat
      rw [ht.events hm] at hplay
      refine recorded_iff hm hadded (by omega) ?_ hplay
      have hp := hmoves.perm
      rw [hus, hpkts, hs.empty hm, List.append_nil, List.append_nil, List.nil_append] at hp
      intro f hf
      rw [haccepted]
      exact hp.mem_iff.mpr hf
    have hmet : Met env ty s (.transmit n mbufs) { s with world := w } ↔
        us = [] ∧ (env.mirrorMode = false → SlotsApart ty s { s with world := w }) := by
      rw [Met, hadded, hmoves.freed_iff]
    rw [hmet]
    constructor
    · intro ha
      have hus := hall.mp ha.counted
      exact ⟨hus, fun hm => (hrecorded hm hus).mp (ha.recorded hm)⟩
    · rintro ⟨hus, hslots⟩
      exact ⟨hall.mpr hus, fun hm => (hrecorded hm hus).mpr (hslots hm)⟩

/-- A reset starts the count anew. -/
theorem reset_step (h : Step.statsResetAllStats.run env ty s = .ok s') :
    Settled env s' ∧ Accounted env ty s s' := by
  cases h
  refine ⟨⟨hs.room, hs.empty, Nat.le_refl _⟩, ⟨?_, fun _ i f hf => ?_⟩⟩
  · show (0 : UInt64) = UInt64.ofNat (s.world.tx.sent.length - s.world.tx.sent.length)
    rw [Nat.sub_self]
    rfl
  · simp [added] at hf

/-- **One step.** -/
theorem step_accounted {c : Step} (h : c.run env ty s = .ok s') :
    Settled env s' ∧ (Counted ty s → (Accounted env ty s s' ↔ Met env ty s c s')) := by
  cases c with
  | receive stack mbufs => exact receive_step hs h
  | transmit n mbufs => exact transmit_step hs h
  | statsResetAllStats =>
    obtain ⟨hsettled, haccounted⟩ := reset_step hs h
    exact ⟨hsettled, fun _ => ⟨fun _ => trivial, fun _ => haccounted⟩⟩

end step

/-- In every step of the run `P` holds of the state before it, the step and the
state after it. -/
def Throughout (env : Env C D) (ty : FrameType) (s0 : State C D) (cs : List Step)
    (P : State C D → Step → State C D → Prop) : Prop :=
  ∀ cs1 c, cs1 ++ [c] <+: cs → ∀ s s', run env ty s0 cs1 = .ok s → c.run env ty s = .ok s' →
    P s c s'

theorem run_settled (env : Env C D) (ty : FrameType) (ctx : C) (dev : D) {cs : List Step}
    {s : State C D} (h : run env ty (start env ty ctx dev) cs = .ok s) : Settled env s := by
  induction cs using List.reverseRecOn generalizing s with
  | nil =>
    cases h
    exact ⟨Nat.zero_lt_succ _, fun _ => rfl, Nat.le_refl _⟩
  | append_singleton cs c ih =>
    obtain ⟨s1, hs1, hc⟩ := foldlM_snoc_ok.mp h
    exact (step_accounted (ih hs1) hc).1

/-- **Sent frames are accounted for** in every step of a run if and only if every
step meets its condition. -/
theorem sent_accounting_iff (env : Env C D) (ty : FrameType) (ctx : C) (dev : D) (cs : List Step) :
    Throughout env ty (start env ty ctx dev) cs (fun s _ s' => Accounted env ty s s') ↔
      Throughout env ty (start env ty ctx dev) cs (Met env ty) := by
  constructor
  · intro h cs1 c hpre s s' hs hc
    have hcounted : Counted ty s := by
      rcases List.eq_nil_or_concat cs1 with rfl | ⟨cs2, c2, hcs⟩
      · cases hs
        rfl
      · rw [List.concat_eq_append] at hcs
        subst hcs
        obtain ⟨s1, hs1, hc2⟩ := foldlM_snoc_ok.mp hs
        exact (h cs2 c2 ((List.prefix_append _ _).trans hpre) s1 s hs1 hc2).counted
    exact ((step_accounted (run_settled env ty ctx dev hs) hc).2 hcounted).mp
      (h cs1 c hpre s s' hs hc)
  · intro h
    have hcounted : ∀ cs1, cs1 <+: cs → ∀ s, run env ty (start env ty ctx dev) cs1 = .ok s →
        Counted ty s := by
      intro cs1 hpre
      induction cs1 using List.reverseRecOn with
      | nil =>
        intro s hs
        cases hs
        rfl
      | append_singleton cs2 c2 ih =>
        intro s hs
        obtain ⟨s1, hs1, hc2⟩ := foldlM_snoc_ok.mp hs
        have hbefore := ih ((List.prefix_append _ _).trans hpre) s1 hs1
        exact (((step_accounted (run_settled env ty ctx dev hs1) hc2).2 hbefore).mpr
          (h cs2 c2 hpre s1 s hs1 hc2)).counted
    intro cs1 c hpre s s' hs hc
    exact ((step_accounted (run_settled env ty ctx dev hs) hc).2
      (hcounted cs1 ((List.prefix_append _ _).trans hpre) s hs)).mpr (h cs1 c hpre s s' hs hc)

/-- Nothing is flushed while the buffer does not fill up. -/
theorem flushPoints_nil (dev : TxDevice D) {q : TxQueue D} {fs : List Mbuf}
    (h : q.pkts.length + fs.length < txBufferSize) : flushPoints dev q fs = [] := by
  induction fs generalizing q with
  | nil => rfl
  | cons f fs ih =>
    rw [List.length_cons] at h
    have hroom : q.pkts.length + 1 < txBufferSize := by omega
    have hpkts : (lportTxBufferAdd dev q f).pkts = q.pkts ++ [f] := by
      simp [lportTxBufferAdd, hroom]
    rw [flushPoints, if_pos hroom, List.nil_append]
    refine ih ?_
    rw [hpkts, List.length_append, List.length_singleton]
    omega

theorem receive_met {env : Env C D} {ty : FrameType} {s s' : State C D} {stack : Mem UInt8}
    {mbufs : {ms : List Mbuf // ms.length < 2 ^ 16}}
    (h : s.world.tx.pkts.length + (added s s').length < txBufferSize) :
    Met env ty s (.receive stack mbufs) s' := by
  rw [Met, flushPoints_nil env.dev h]
  intro p hp
  cases hp

/-! A reference whose device takes nothing, for one cycle of one frame. -/

def refuseAll : TxDevice Unit where
  txBurst _ _ := (0, ())
  txBurst_le _ _ := Nat.zero_le _

def stuckEnv : Env DigestCtx Unit :=
  { Env.small (AppConfig.small .none 60 1 []) false with dev := refuseAll }

def oneCycle : Step := .transmit 1 (some ⟨[⟨0, fun _ => 0, 60, 60⟩], rfl⟩)

/-- The frame is freed and yet counted. -/
theorem freed_frame_counted :
    ¬ Throughout stuckEnv .udpHigh (start stuckEnv .udpHigh DigestCtx.fresh ()) [oneCycle]
      (fun s _ s' => Accounted stuckEnv .udpHigh s s') := by
  intro h
  have hcycle := h [] oneCycle (List.prefix_refl _) _ _ rfl rfl
  have hone : UInt64.ofNat 1 = UInt64.ofNat 0 := hcycle.counted
  exact absurd hone (by decide)

end Rtdk.SentCount
