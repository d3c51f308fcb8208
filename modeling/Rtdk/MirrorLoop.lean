import Mathlib.Data.List.Forall2
import Mathlib.Logic.Relation
import Rtdk.Integrity
import Rtdk.Numbered
import Rtdk.Rtt

/-! A reference and a mirror on two links that lose frames.

Frames go from the reference to the mirror and back. Each link may lose frames
but keeps the order of the others, repeats none and alters none; generating,
handling and sending interleave in any way, and frames are handed over in bursts
of any size. `loop_characterised` says what then happens: the mirror forwards
what is in its place, the reference finds what comes back in order, reports each
loss once, and measures each frame against its own send time, as long as no
frame comes back so late that its backlog entry was given away. -/

namespace Rtdk.MirrorLoop
open Rtdk.Memory Rtdk.Endian Rtdk.NetDef Rtdk.Security Rtdk.Stat Rtdk.Lport Rtdk.Config Rtdk.Frame
open Rtdk.Thread Rtdk.Receive Rtdk.Handlers Rtdk.Checks Rtdk.Builder Rtdk.Decode Rtdk.Generate
open Rtdk.SecureTx Rtdk.Agreement Rtdk.Lossless Rtdk.Latency Rtdk.StatRun Rtdk.Rtt
open Rtdk.Integrity Rtdk.Numbered

variable {C D D' K : Type}

/-! ## Links -/

/-- What a link hands over after the frames `got`: frames sent later, in order
and unmodified. -/
structure Delivers (sent got taken ms : List Mbuf) : Prop where
  order : (got ++ taken).Sublist sent
  intact : List.Forall₂ (fun f m => Arrives f.wire m) taken ms

section Bursts

variable {env : Env C D} {h : RxHandler C D} {sent : List Mbuf} {good : Mbuf → Prop}
  {P : List Mbuf → RxState C D → Prop}

/-- The rule for bursts from a link. `P` relates the frames got so far to the
state of the handler. -/
theorem rxBurst_got
    (hstep : ∀ {got : List Mbuf} {f m : Mbuf} {s : RxState C D}, (got ++ [f]).Sublist sent →
      good f → Arrives f.wire m → P got s → Outlier env (rxOne env h s m) ∨
        ∃ s' d, rxOne env h s m = .ok (s', d) ∧ P (got ++ [f]) s')
    {got taken ms : List Mbuf} (hlink : Delivers sent got taken ms) (hgood : ∀ f ∈ taken, good f)
    {s : RxState C D} (hs : P got s) :
    Outlier env (rxBurst env h s ms) ∨
      ∃ t fs, rxBurst env h s ms = .ok (t, fs) ∧ P (got ++ taken) t := by
  obtain ⟨horder, hintact⟩ := hlink
  induction hintact generalizing got s with
  | nil =>
    rw [List.append_nil]
    exact Or.inr ⟨s, [], rfl, hs⟩
  | @cons f m taken ms hfm _ ih =>
    have hsplit : got ++ f :: taken = got ++ [f] ++ taken := by simp
    rw [hsplit] at horder ⊢
    have hone := hstep ((List.sublist_append_left _ _).trans horder)
      (hgood f List.mem_cons_self) hfm hs
    apply rxBurst_cons_returns
    rcases hone with hstop | ⟨s', d, hok, hs'⟩
    · exact Or.inl hstop
    · exact Or.inr ⟨s', d, hok, ih (fun g hg => hgood g (List.mem_cons_of_mem _ hg)) hs' horder⟩

/-- The states between which one frame of the burst is handled. -/
theorem handling_got
    (hstep : ∀ {got : List Mbuf} {f m : Mbuf} {s : RxState C D}, (got ++ [f]).Sublist sent →
      good f → Arrives f.wire m → P got s → Outlier env (rxOne env h s m) ∨
        ∃ s' d, rxOne env h s m = .ok (s', d) ∧ P (got ++ [f]) s')
    {got taken ms : List Mbuf} (hlink : Delivers sent got taken ms) (hgood : ∀ f ∈ taken, good f)
    {s s0 s1 : RxState C D} {m : Mbuf} (hs : P got s) (hh : Handling env h s ms s0 m s1) :
    ∃ before f, f ∈ taken ∧ (before ++ [f]).Sublist sent ∧ Arrives f.wire m ∧ P before s0 := by
  obtain ⟨horder, hintact⟩ := hlink
  induction hintact generalizing got s with
  | nil => cases hh
  | @cons f m' taken ms hfm _ ih =>
    have hsplit : got ++ f :: taken = got ++ [f] ++ taken := by simp
    rw [hsplit] at horder
    have hsub : (got ++ [f]).Sublist sent := (List.sublist_append_left _ _).trans horder
    cases hh with
    | head hone => exact ⟨got, f, List.mem_cons_self, hsub, hfm, hs⟩
    | tail hone hrest =>
      rcases hstep hsub (hgood f List.mem_cons_self) hfm hs with ⟨-, l, he⟩ | ⟨s', d, hok, hs'⟩
      · rw [he] at hone
        cases hone
      · obtain ⟨rfl, rfl⟩ := Prod.mk.inj (Except.ok.inj (hok.symm.trans hone))
        obtain ⟨before, g, hg, hrem⟩ :=
          ih (fun g hg => hgood g (List.mem_cons_of_mem _ hg)) hs' hrest horder
        exact ⟨before, g, List.mem_cons_of_mem _ hg, hrem⟩

end Bursts

/-! ## The two nodes -/

/-- A reference and a mirror of one class, with one configuration and one
cipher, whose frames hold what the class puts into them. -/
structure Setting (env : Env C D) (envM : Env C D') (key : C → K) (ty : FrameType) : Prop where
  lawful : env.evp.Lawful key
  evp : envM.evp = env.evp
  app : envM.app = env.app
  ref : env.mirrorMode = false
  mirror : envM.mirrorMode = true
  notDcp : ty ≠ .dcp
  notLldp : ty ≠ .lldp
  mode : env.app.mode ty ≠ .ae
  burst : BurstFits env.app ty
  checked : Checked env.app ty
  etherType : EtherTypeFits env.app ty

/-- One end of the loop. -/
structure Node (env : Env C D) (key : C → K) (ty : FrameType) : Prop where
  lawful : env.evp.Lawful key
  notDcp : ty ≠ .dcp
  notLldp : ty ≠ .lldp
  mode : env.app.mode ty ≠ .ae
  checked : Checked env.app ty
  etherType : EtherTypeFits env.app ty

theorem Setting.node {env : Env C D} {envM : Env C D'} {key : C → K} {ty : FrameType}
    (h : Setting env envM key ty) : Node env key ty :=
  ⟨h.lawful, h.notDcp, h.notLldp, h.mode, h.checked, h.etherType⟩

theorem Setting.nodeM {env : Env C D} {envM : Env C D'} {key : C → K} {ty : FrameType}
    (h : Setting env envM key ty) : Node envM key ty where
  lawful := h.evp ▸ h.lawful
  notDcp := h.notDcp
  notLldp := h.notLldp
  mode := h.app ▸ h.mode
  checked := h.app ▸ h.checked
  etherType := h.app ▸ h.etherType

/-- Fewer than `1024 * n` frames were sent after the frame `q`. -/
def InTime (env : Env C D) (ty : FrameType) (w : World C D) (q : Mbuf) : Prop :=
  w.tx.added.length ≤ number env.app ty q + 1024 * (env.app.cls ty).numFramesPerCycle.toNat

/-! ## The reference as sender -/

/-- Every frame the reference added is genuine and has its position as counter. -/
structure Sender (env : Env C D) (key : C → K) (k : K) (ty : FrameType) (w : World C D) :
    Prop where
  setUp : SetUp env.app ty w.thread
  txKey : key w.thread.txSecurityContext = k
  backlog : (w.stat.roundTripContexts ty).backlogLen = 1024 * (env.app.cls ty).numFramesPerCycle
  frames : ∀ i f, w.tx.added[i]? = some f →
    Genuine env.app env.evp key k ty f ∧ number env.app ty f = i
  order : w.tx.Ordered

/-- The backlog still holds the entries of the frames that are in time and have
not come back. -/
def Fresh (env : Env C D) (ty : FrameType) (returned : List Mbuf) (w : World C D) : Prop :=
  ∀ i f, w.tx.added[i]? = some f → (∀ q ∈ returned, number env.app ty q ≠ i) →
    w.tx.added.length ≤ i + 1024 * (env.app.cls ty).numFramesPerCycle.toNat →
    (w.stat.roundTripContexts ty).backlog
        (slotOf (1024 * (env.app.cls ty).numFramesPerCycle) (UInt64.ofNat i)) =
      ⟨UInt64.ofNat i, stampOf env.app ty f⟩

/-- What generating frames leaves alone. -/
structure Aside (ty : FrameType) (w w' : World C D) : Prop where
  rx : w'.thread.rxSequenceCounter = w.thread.rxSequenceCounter
  rxContext : w'.thread.rxSecurityContext = w.thread.rxSecurityContext
  txCounter : w'.thread.txSequenceCounter = w.thread.txSequenceCounter
  errors : (w'.stat.globalStatistics ty).outOfOrderErrors =
    (w.stat.globalStatistics ty).outOfOrderErrors
  limit : w'.stat.rttExpectedRtLimit = w.stat.rttExpectedRtLimit
  sent : w.tx.sent.Sublist w'.tx.sent

theorem Aside.trans {ty : FrameType} {w w' w'' : World C D} (h : Aside ty w w')
    (h' : Aside ty w' w'') : Aside ty w w'' where
  rx := h'.rx.trans h.rx
  rxContext := h'.rxContext.trans h.rxContext
  txCounter := h'.txCounter.trans h.txCounter
  errors := h'.errors.trans h.errors
  limit := h'.limit.trans h.limit
  sent := h.sent.trans h'.sent

theorem backlogLen_toNat {cfg : AppConfig} {ty : FrameType} (hn : BurstFits cfg ty) :
    (1024 * (cfg.cls ty).numFramesPerCycle).toNat = 1024 * (cfg.cls ty).numFramesPerCycle.toNat := by
  have hle : (cfg.cls ty).numFramesPerCycle.toNat ≤ 256 := hn.2
  rw [UInt64.toNat_mul]
  exact Nat.mod_eq_of_lt (by change 1024 * _ < _; omega)

/-- A frame that is sent takes a slot in which no frame in time is waiting. -/
theorem Fresh.sent {env : Env C D} {ty : FrameType} (hn : BurstFits env.app ty)
    {returned : List Mbuf} {w w' : World C D} {f : Mbuf} (h : Fresh env ty returned w)
    (hfit : w.tx.added.length < 2 ^ 64) (hadd : w'.tx.added = w.tx.added ++ [f])
    (hctx : (w'.stat.roundTripContexts ty).backlog =
      Function.update (w.stat.roundTripContexts ty).backlog
        (slotOf (1024 * (env.app.cls ty).numFramesPerCycle) (UInt64.ofNat w.tx.added.length))
        ⟨UInt64.ofNat w.tx.added.length, stampOf env.app ty f⟩) : Fresh env ty returned w' := by
  intro i g hg hnot hin
  rw [hadd, List.length_append, List.length_singleton] at hin
  rw [hadd] at hg
  rw [hctx, update_backlog]
  by_cases hi : i = w.tx.added.length
  · subst hi
    rw [List.getElem?_append_right (Nat.le_refl _), Nat.sub_self] at hg
    cases hg
    rw [if_pos rfl]
  · have hlt : i < w.tx.added.length := by
      have := (List.getElem?_eq_some_iff.mp hg).1
      rw [List.length_append, List.length_singleton] at this
      omega
    rw [List.getElem?_append_left hlt] at hg
    rw [if_neg (slotOf_ne hfit hlt (by rw [backlogLen_toNat hn]; omega))]
    exact h i g hg hnot (by omega)

/-- A frame that comes back in time clears its own entry only. -/
theorem Fresh.received {env : Env C D} {ty : FrameType} (hn : BurstFits env.app ty)
    {returned : List Mbuf} {w w' : World C D} {q : Mbuf} (h : Fresh env ty returned w)
    (hfit : w.tx.added.length ≤ 2 ^ 64) (hq : number env.app ty q < w.tx.added.length)
    (hin : InTime env ty w q) (htx : w'.tx = w.tx)
    (hctx : (w'.stat.roundTripContexts ty).backlog =
      Function.update (w.stat.roundTripContexts ty).backlog
        (slotOf (1024 * (env.app.cls ty).numFramesPerCycle)
          (UInt64.ofNat (number env.app ty q))) ⟨0, 0⟩) :
    Fresh env ty (returned ++ [q]) w' := by
  intro i g hg hnot hwin
  rw [htx] at hg hwin
  have hi := (List.getElem?_eq_some_iff.mp hg).1
  have hne : number env.app ty q ≠ i := hnot q (by simp)
  have hlen := backlogLen_toNat hn
  unfold InTime at hin
  have hslot : slotOf (1024 * (env.app.cls ty).numFramesPerCycle)
        (UInt64.ofNat (number env.app ty q)) ≠
      slotOf (1024 * (env.app.cls ty).numFramesPerCycle) (UInt64.ofNat i) := by
    rcases Nat.lt_or_gt_of_ne hne with hlt | hgt
    · exact Ne.symm (slotOf_ne (by omega) hlt (by omega))
    · exact slotOf_ne (by omega) hgt (by omega)
  rw [hctx, update_backlog, if_neg hslot]
  exact h i g hg (fun q' hq' => hnot q' (List.mem_append_left _ hq')) hwin

theorem genFrame_sender {env : Env C D} {envM : Env C D'} {key : C → K} {k : K} {ty : FrameType}
    (hset : Setting env envM key ty) {t : UInt64} {w w' : World C D} {m : Mbuf}
    (hw : Sender env key k ty w) (hfit : w.tx.added.length < 2 ^ 64)
    (hwire : wireCounter (UInt64.ofNat w.tx.added.length) (env.app.cls ty).numFramesPerCycle =
      UInt64.ofNat w.tx.added.length)
    (h : genFrame env ty (env.app.cls ty).numFramesPerCycle (UInt64.ofNat w.tx.added.length) t w m =
      .ok w') :
    Sender env key k ty w' ∧ Aside ty w w' ∧
      (∃ f, w'.tx.added = w.tx.added ++ [f] ∧ stampOf env.app ty f = t) ∧
      ∀ returned, Fresh env ty returned w → Fresh env ty returned w' := by
  simp only [genFrame, bind, Except.bind] at h
  split at h
  · cases h
  · rename_i v hprep
    obtain ⟨v, f⟩ := v
    obtain ⟨hgen, hnum, hstamp, ⟨c, hck, hthread⟩, hstat, htx, -⟩ :=
      prepareFrame_genuine hset.lawful hset.checked hset.mode hw.setUp hwire hprep
    simp only at h
    split at h
    · cases h
    · rename_i w1 happly
      obtain ⟨hhalt, hw1⟩ := World.applyStat_ok happly
      cases h
      rw [hstat] at hhalt hw1
      have hlen := hw.backlog
      have href : env.statConfig.mirrorMode = false := hset.ref
      have hctx := sent_contexts href hhalt
      have hadd : (w1.enqueue env f).tx.added = w.tx.added ++ [f] := by
        rw [World.enqueue_added, hw1]
        exact congrArg (fun q => TxQueue.added q ++ [f]) htx
      have hback : ((w1.enqueue env f).stat.roundTripContexts ty).backlog =
          Function.update (w.stat.roundTripContexts ty).backlog
            (slotOf (1024 * (env.app.cls ty).numFramesPerCycle) (UInt64.ofNat w.tx.added.length))
            ⟨UInt64.ofNat w.tx.added.length, stampOf env.app ty f⟩ := by
        rw [World.enqueue_stat, hw1, hstamp, ← hlen]
        simp only [hctx, setAt_same]
      have hth : (w1.enqueue env f).thread = { w.thread with txSecurityContext := c } := by
        rw [World.enqueue_thread, hw1]
        exact hthread
      refine ⟨⟨?_, ?_, ?_, ?_, ?_⟩, ⟨?_, ?_, ?_, ?_, ?_, ?_⟩, ⟨f, hadd, hstamp⟩,
        fun returned hfr => ?_⟩
      · rw [hth]
        exact ⟨hw.setUp.payload, hw.setUp.length⟩
      · rw [hth]
        exact hck.trans hw.txKey
      · rw [World.enqueue_stat, hw1]
        simp only [hctx, setAt_same]
        exact hlen
      · intro i g hg
        rw [hadd] at hg
        by_cases hi : i < w.tx.added.length
        · rw [List.getElem?_append_left hi] at hg
          exact hw.frames i g hg
        · have hbound := (List.getElem?_eq_some_iff.mp hg).1
          rw [List.length_append, List.length_singleton] at hbound
          obtain rfl : i = w.tx.added.length := by omega
          rw [List.getElem?_append_right (Nat.le_refl _), Nat.sub_self] at hg
          cases hg
          rw [hw.txKey] at hgen
          refine ⟨hgen, hnum.trans ?_⟩
          exact UInt64.toNat_ofNat_of_lt' hfit
      · rw [World.enqueue, hw1]
        apply lportTxBufferAdd_ordered
        rw [htx]
        exact hw.order
      · rw [hth]
      · rw [hth]
      · rw [hth]
      · rw [World.enqueue_stat, hw1]
        exact statFrameSent_errors _ _ _ _ _
      · rw [World.enqueue_stat, hw1]
        exact statFrameSent_limit _ _ _ _ _
      · rw [World.enqueue, hw1, ← htx]
        exact lportTxBufferAdd_sent env.dev _ f
      · exact hfr.sent hset.burst hfit hadd hback

/-- The frames of a cycle, one after the other. -/
theorem genFrames_sender {env : Env C D} {envM : Env C D'} {key : C → K} {k : K} {ty : FrameType}
    (hset : Setting env envM key ty) {t : UInt64} (ms : List Mbuf) {w w' : World C D}
    (hw : Sender env key k ty w) (hwire : OnWire env.app ty (w.tx.added.length + ms.length))
    (hfit : w.tx.added.length + ms.length ≤ 2 ^ 64)
    (h : genFrames env ty (env.app.cls ty).numFramesPerCycle t (UInt64.ofNat w.tx.added.length) w
      ms = .ok w') :
    Sender env key k ty w' ∧ Aside ty w w' ∧
      (∃ fs, w'.tx.added = w.tx.added ++ fs ∧ fs.length = ms.length ∧
        ∀ f ∈ fs, stampOf env.app ty f = t) ∧
      ∀ returned, Fresh env ty returned w → Fresh env ty returned w' := by
  induction ms generalizing w with
  | nil =>
    cases h
    refine ⟨hw, ⟨rfl, rfl, rfl, rfl, rfl, List.Sublist.refl _⟩, ⟨[], ?_, rfl, ?_⟩,
      fun _ hfr => hfr⟩
    · simp
    · intro f hf
      cases hf
  | cons m ms ih =>
    rw [List.length_cons] at hwire hfit
    simp only [genFrames, bind, Except.bind] at h
    split at h
    · cases h
    · rename_i w1 hone
      obtain ⟨hw1, haside, ⟨f, hadd, hstamp⟩, hfresh⟩ :=
        genFrame_sender hset hw (by omega) (hwire _ (by omega)) hone
      have hlen : w1.tx.added.length = w.tx.added.length + 1 := by
        rw [hadd, List.length_append, List.length_singleton]
      have hnext : UInt64.ofNat w.tx.added.length + 1 = UInt64.ofNat w1.tx.added.length := by
        rw [hlen, UInt64.ofNat_add]
        rfl
      have hsum : w1.tx.added.length + ms.length = w.tx.added.length + (ms.length + 1) := by
        rw [hlen]
        omega
      rw [hnext] at h
      rw [← hsum] at hwire hfit
      obtain ⟨hw', haside', ⟨fs, hadd', hlen', hstamp'⟩, hfresh'⟩ := ih hw1 hwire hfit h
      refine ⟨hw', haside.trans haside', ⟨f :: fs, ?_, ?_, ?_⟩,
        fun returned hfr => hfresh' returned (hfresh returned hfr)⟩
      · rw [hadd', hadd]
        simp
      · rw [List.length_cons, List.length_cons, hlen']
      · intro g hg
        rcases List.mem_cons.mp hg with rfl | hg
        · exact hstamp
        · exact hstamp' g hg

/-- The sender's counter, at the start of a cycle. -/
structure Cycles (cfg : AppConfig) (ty : FrameType) (w : World C D) : Prop where
  counter : w.thread.txSequenceCounter = UInt64.ofNat w.tx.added.length
  cycle : (cfg.cls ty).numFramesPerCycle.toNat ∣ w.tx.added.length
  bound : w.tx.added.length ≤ (cfg.cls ty).numFramesPerCycle.toNat * 2 ^ 32

/-- The pool was empty, or a whole burst was added, all of it stamped with the
clock reading at its start. -/
def Burst (env : Env C D) (ty : FrameType) (w w' : World C D) : Prop :=
  w'.tx = w.tx ∨ ∃ fs, w'.tx.added = w.tx.added ++ fs ∧
    fs.length = (env.app.cls ty).numFramesPerCycle.toNat ∧
    ∀ f ∈ fs, stampOf env.app ty f = w.now env

theorem generate_sender {env : Env C D} {envM : Env C D'} {key : C → K} {k : K} {ty : FrameType}
    (hset : Setting env envM key ty) {mbufs : Option (List Mbuf)} {w w' : World C D}
    (hw : Sender env key k ty w) (hc : Cycles env.app ty w) (hg : BelowWrap env.app ty w)
    (hlen : ∀ ms, mbufs = some ms → ms.length = (env.app.cls ty).numFramesPerCycle.toUInt16.toNat)
    (h : genAndSendFrames env ty (env.app.cls ty).numFramesPerCycle mbufs w = .ok w') :
    Sender env key k ty w' ∧ Cycles env.app ty w' ∧ Burst env ty w w' ∧
      w'.thread.rxSequenceCounter = w.thread.rxSequenceCounter ∧
      w'.thread.rxSecurityContext = w.thread.rxSecurityContext ∧
      (w'.stat.globalStatistics ty).outOfOrderErrors =
        (w.stat.globalStatistics ty).outOfOrderErrors ∧
      w'.stat.rttExpectedRtLimit = w.stat.rttExpectedRtLimit ∧
      w.tx.sent.Sublist w'.tx.sent ∧
      ∀ returned, Fresh env ty returned w → Fresh env ty returned w' := by
  have hle : (env.app.cls ty).numFramesPerCycle.toNat ≤ 256 := hset.burst.2
  have hpos := hset.burst.1
  have hd := divisor_eq (c := env.app.cls ty) ty (by omega)
  have hz : ¬ ((ty = .rta ∨ ty = .dcp) ∧ (env.app.cls ty).numFramesPerCycle = 0) := by
    rintro ⟨-, h0⟩
    rw [h0] at hpos
    exact absurd hpos (by decide)
  simp only [genAndSendFrames, if_neg hz, hd.2] at h
  cases mbufs with
  | none =>
    cases h
    exact ⟨⟨hw.setUp, hw.txKey, hw.backlog, hw.frames, hw.order⟩, ⟨hc.counter, hc.cycle, hc.bound⟩,
      Or.inl rfl, rfl, rfl, rfl, rfl, List.Sublist.refl _, fun _ hfr => hfr⟩
  | some ms =>
    have hburst : ms.length = (env.app.cls ty).numFramesPerCycle.toNat := by
      rw [hlen ms rfl, ← UInt16.toNat_toUInt64, hd.1]
    have hbound := hc.bound
    have hfits : w.tx.added.length + ms.length ≤
        (env.app.cls ty).numFramesPerCycle.toNat * 2 ^ 32 := by
      unfold BelowWrap at hg
      rw [hc.counter, UInt64.toNat_ofNat', Nat.mod_eq_of_lt (by omega)] at hg
      obtain ⟨c, hcycle⟩ := hc.cycle
      rw [hcycle] at hg
      have hclt : c < 2 ^ 32 := Nat.lt_of_mul_lt_mul_left hg
      rw [hburst, hcycle, ← Nat.mul_succ]
      exact Nat.mul_le_mul_left _ hclt
    simp only [bind, Except.bind, hc.counter] at h
    split at h
    · cases h
    · rename_i w1 hgen
      have htick : Sender env key k ty w.tick :=
        ⟨hw.setUp, hw.txKey, hw.backlog, hw.frames, hw.order⟩
      obtain ⟨hw1, haside, ⟨fs, hadd, hfs, hstamp⟩, hfresh⟩ := genFrames_sender hset ms htick
        (onWire_of_le hset.burst hfits) (by rw [World.tick_tx]; omega) hgen
      rw [World.tick_tx] at hadd
      cases h
      have hlen' : w1.tx.added.length =
          w.tx.added.length + (env.app.cls ty).numFramesPerCycle.toNat := by
        rw [hadd, List.length_append, hfs, hburst]
      refine ⟨⟨⟨hw1.setUp.payload, hw1.setUp.length⟩, hw1.txKey, hw1.backlog, hw1.frames,
        lportTxBufferFlush_ordered env.dev _ hw1.order⟩, ⟨?_, ?_, ?_⟩,
        Or.inr ⟨fs, hadd, hfs.trans hburst, hstamp⟩, haside.rx, haside.rxContext, haside.errors,
        haside.limit, haside.sent.trans (lportTxBufferFlush_sent env.dev _),
        fun returned hfr => hfresh returned hfr⟩
      · change w1.thread.txSequenceCounter + _ = UInt64.ofNat w1.tx.added.length
        rw [haside.txCounter, World.tick_thread, hc.counter, hd.1, hlen', UInt64.ofNat_add,
          UInt64.ofNat_toNat]
      · change _ ∣ w1.tx.added.length
        rw [hlen']
        exact Nat.dvd_add hc.cycle (Nat.dvd_refl _)
      · rw [hburst, ← hlen'] at hfits
        exact hfits

/-! ## Receivers -/

/-- Counters of the machine compare as numbers. -/
theorem ofNat_eq_expected {cfg : AppConfig} {ty : FrameType} {got : List Mbuf} {f : Mbuf}
    (hinc : Increasing (number cfg ty) (got ++ [f])) :
    UInt64.ofNat (number cfg ty f) = UInt64.ofNat (expected (number cfg ty) got) ↔
      number cfg ty f = expected (number cfg ty) got := by
  have hlt : number cfg ty f < 2 ^ 64 := UInt64.toNat_lt _
  have hle := expected_le hinc
  constructor
  · intro h
    have htoNat := congrArg UInt64.toNat h
    rw [UInt64.toNat_ofNat_of_lt' hlt, UInt64.toNat_ofNat_of_lt' (Nat.lt_of_le_of_lt hle hlt)] at htoNat
    exact htoNat
  · exact congrArg UInt64.ofNat

/-- A frame of the other end, handled. -/
theorem Node.handles {env : Env C D} {key : C → K} {k : K} {ty : FrameType} (h : Node env key ty)
    {s : RxState C D} (hs : s.expectedFrameLength = (env.app.cls ty).frameLength)
    (hb : HasBacklog env ty s.world) (hk : key s.world.thread.rxSecurityContext = k) {f m : Mbuf}
    (hf : Genuine env.app env.evp key k ty f) (harr : Arrives f.wire m) :
    Clean env ty s m ∧ Copy env.app ty f m ∧ number env.app ty m = number env.app ty f ∧
      (Outlier env (rxOne env (rxHandler env ty) s m) ∨
        ∃ s' d, rxOne env (rxHandler env ty) s m = .ok (s', d) ∧ Passes env key k ty m s s') := by
  have hcopy := hf.copy h.checked harr
  obtain ⟨hclean, hone⟩ := rxOne_genuine h.lawful h.notDcp h.notLldp h.checked h.etherType h.mode hs
    hb hk (hf.arrives h.checked harr).1
  exact ⟨hclean, hcopy, hcopy.number h.checked hf.length, hone⟩

/-- The mirror after the frames `got`. -/
structure Mirrors (cfg : AppConfig) (evp : Evp C) (key : C → K) (k : K) (ty : FrameType)
    (got : List Mbuf) (w : World C D) : Prop where
  rxKey : key w.thread.rxSecurityContext = k
  rx : w.thread.rxSequenceCounter = UInt64.ofNat (expected (number cfg ty) got)
  forwarded : List.Forall₂ (Copy cfg ty) (got.filter (follows (number cfg ty) got)) w.tx.added
  genuine : ∀ q ∈ w.tx.added, Genuine cfg evp key k ty q
  order : w.tx.Ordered

theorem mirror_step {env : Env C D} {key : C → K} {k : K} {ty : FrameType} (hn : Node env key ty)
    (hmirror : env.mirrorMode = true) {sent : List Mbuf}
    (hgen : ∀ f ∈ sent, Genuine env.app env.evp key k ty f)
    (hinc : Increasing (number env.app ty) sent) {got : List Mbuf} {f m : Mbuf} {s : RxState C D}
    (hsub : (got ++ [f]).Sublist sent) (harr : Arrives f.wire m)
    (hs : s.expectedFrameLength = (env.app.cls ty).frameLength ∧
      Mirrors env.app env.evp key k ty got s.world) :
    Outlier env (rxOne env (rxHandler env ty) s m) ∨
      ∃ s' d, rxOne env (rxHandler env ty) s m = .ok (s', d) ∧
        s'.expectedFrameLength = (env.app.cls ty).frameLength ∧
        Mirrors env.app env.evp key k ty (got ++ [f]) s'.world := by
  obtain ⟨hlen, hm⟩ := hs
  have hinc' := hinc.sublist hsub
  have hf := hgen f (hsub.subset (by simp))
  obtain ⟨-, hcopy, hnum, hone⟩ := hn.handles hlen (Or.inl hmirror) hm.rxKey hf harr
  rcases hone with hstop | ⟨s', d, hok, hp⟩
  · exact Or.inl hstop
  · right
    obtain ⟨c, hck, hthread⟩ := hp.thread
    have htx := hp.tx
    simp only [hm.rx, hnum, ofNat_eq_expected hinc'] at htx
    refine ⟨s', d, hok, hp.length, ?_, ?_, ?_, ?_, ?_⟩
    · rw [hthread]
      exact hck
    · rw [hthread, expected_snoc, hnum]
    all_goals by_cases hexp : number env.app ty f = expected (number env.app ty) got
    · rw [if_pos ⟨hmirror, hexp⟩] at htx
      obtain ⟨q, hq, -, hmq⟩ := htx
      rw [filter_follows_snoc hinc', if_pos hexp, hq, lportTxBufferAdd_added]
      exact List.rel_append hm.forwarded (.cons (hcopy.trans hmq) .nil)
    · rw [if_neg fun h => hexp h.2] at htx
      rw [filter_follows_snoc hinc', if_neg hexp, htx, List.append_nil]
      exact hm.forwarded
    · rw [if_pos ⟨hmirror, hexp⟩] at htx
      obtain ⟨q, hq, hgq, -⟩ := htx
      intro q' hq'
      rw [hq, lportTxBufferAdd_added] at hq'
      rcases List.mem_append.mp hq' with hq' | hq'
      · exact hm.genuine q' hq'
      · rw [List.mem_singleton.mp hq']
        exact hgq
    · rw [if_neg fun h => hexp h.2] at htx
      rw [htx]
      exact hm.genuine
    · rw [if_pos ⟨hmirror, hexp⟩] at htx
      obtain ⟨q, hq, -, -⟩ := htx
      rw [hq]
      exact lportTxBufferAdd_ordered env.dev _ q hm.order
    · rw [if_neg fun h => hexp h.2] at htx
      rw [htx]
      exact hm.order

/-- The reference after the frames `got` came back. -/
structure Gets (cfg : AppConfig) (key : C → K) (k : K) (ty : FrameType) (got : List Mbuf)
    (w : World C D) : Prop where
  rxKey : key w.thread.rxSecurityContext = k
  rx : w.thread.rxSequenceCounter = UInt64.ofNat (expected (number cfg ty) got)
  errors : (w.stat.globalStatistics ty).outOfOrderErrors =
    UInt64.ofNat (got.countP fun q => !follows (number cfg ty) got q)

/-- The reference in a burst that began in the world `w`. -/
structure RefBurst (env : Env C D) (key : C → K) (k : K) (ty : FrameType) (w : World C D)
    (got : List Mbuf) (s : RxState C D) : Prop where
  length : s.expectedFrameLength = (env.app.cls ty).frameLength
  gets : Gets env.app key k ty got s.world
  tx : s.world.tx = w.tx
  thread : ∃ x c, s.world.thread =
    { w.thread with rxSequenceCounter := x, rxSecurityContext := c }
  backlog : (s.world.stat.roundTripContexts ty).backlogLen =
    1024 * (env.app.cls ty).numFramesPerCycle

theorem RefBurst.hasBacklog {env : Env C D} {key : C → K} {k : K} {ty : FrameType}
    (hn : BurstFits env.app ty) {w : World C D} {got : List Mbuf} {s : RxState C D}
    (h : RefBurst env key k ty w got s) : (s.world.stat.roundTripContexts ty).backlogLen ≠ 0 := by
  rw [h.backlog]
  intro h0
  have hlen := backlogLen_toNat hn
  have hpos := hn.1
  rw [h0] at hlen
  change 0 = _ at hlen
  omega

/-- A frame empties the slot its counter falls into, whichever frame waits there. -/
theorem passes_backlog {env : Env C D} {key : C → K} {k : K} {ty : FrameType} {m : Mbuf}
    {s s' : RxState C D} (href : env.mirrorMode = false) (hp : Passes env key k ty m s s') :
    (s'.world.stat.roundTripContexts ty).backlog =
      Function.update (s.world.stat.roundTripContexts ty).backlog
        (slotOf (s.world.stat.roundTripContexts ty).backlogLen
          (UInt64.ofNat (number env.app ty m))) ⟨0, 0⟩ := by
  obtain ⟨o, tx, hhalt, hstat⟩ := hp.stat
  have hcfg : env.statConfig.mirrorMode = false := href
  rw [hstat, statCall, received_contexts hcfg hhalt, setAt_same]

/-- It is measured against what the slot holds. -/
theorem passes_sampled {env : Env C D} {key : C → K} {k : K} {ty : FrameType} {m : Mbuf}
    {s s' : RxState C D} (href : env.mirrorMode = false) (hp : Passes env key k ty m s s')
    (hlen : (s.world.stat.roundTripContexts ty).backlogLen ≠ 0) :
    Sampled env.statConfig s.world.stat s'.world.stat ty
      ((env.clock (s.world.ticks + 1) - ((s.world.stat.roundTripContexts ty).backlog
        (slotOf (s.world.stat.roundTripContexts ty).backlogLen
          (UInt64.ofNat (number env.app ty m)))).timestamp) / 1000) := by
  obtain ⟨o, tx, -, hstat⟩ := hp.stat
  have hcfg : env.statConfig.mirrorMode = false := href
  rw [hstat]
  exact received_sampled hcfg hlen _ o false false tx _

/-- What the reference can get back: the frames of the mirror. -/
structure Answers (env : Env C D) (key : C → K) (k : K) (ty : FrameType) (w : World C D)
    (sent : List Mbuf) : Prop where
  genuine : ∀ q ∈ sent, Genuine env.app env.evp key k ty q
  increasing : Increasing (number env.app ty) sent
  known : ∀ q ∈ sent, number env.app ty q < w.tx.added.length
  fits : w.tx.added.length ≤ 2 ^ 64

/-- The round-trip sample of the frame `q` is taken against its own send time. -/
def OwnSample (env : Env C D) (ty : FrameType) (w : World C D) (q : Mbuf) (s s' : RxState C D) :
    Prop :=
  ∃ f, w.tx.added[number env.app ty q]? = some f ∧
    Sampled env.statConfig s.world.stat s'.world.stat ty
      ((env.clock (s.world.ticks + 1) - stampOf env.app ty f) / 1000)

theorem ref_step {env : Env C D} {key : C → K} {k : K} {ty : FrameType} (hn : Node env key ty)
    (href : env.mirrorMode = false) (hburst : BurstFits env.app ty) {w : World C D}
    {sent : List Mbuf} (hsent : Answers env key k ty w sent) {got : List Mbuf} {q m : Mbuf}
    {s : RxState C D} (hsub : (got ++ [q]).Sublist sent) (harr : Arrives q.wire m)
    (hs : RefBurst env key k ty w got s) :
    Clean env ty s m ∧ (Outlier env (rxOne env (rxHandler env ty) s m) ∨
      ∃ s' d, rxOne env (rxHandler env ty) s m = .ok (s', d) ∧
        RefBurst env key k ty w (got ++ [q]) s' ∧
        (InTime env ty w q → Fresh env ty got s.world →
          Fresh env ty (got ++ [q]) s'.world ∧ OwnSample env ty w q s s')) := by
  have hinc := hsent.increasing.sublist hsub
  have hmem : q ∈ sent := hsub.subset (by simp)
  have hlen := hs.hasBacklog hburst
  obtain ⟨hclean, -, hnum, hone⟩ := hn.handles hs.length (Or.inr hlen) hs.gets.rxKey
    (hsent.genuine q hmem) harr
  refine ⟨hclean, ?_⟩
  rcases hone with hstop | ⟨s', d, hok, hp⟩
  · exact Or.inl hstop
  · right
    obtain ⟨c, hck, hthread⟩ := hp.thread
    obtain ⟨x, c0, hthread0⟩ := hs.thread
    have htx : s'.world.tx = s.world.tx := by
      have h := hp.tx
      rw [if_neg fun h => by rw [href] at h; cases h.1] at h
      exact h
    have herr := hp.errors
    simp only [hs.gets.rx, hnum, ofNat_eq_expected hinc, hs.gets.errors] at herr
    refine ⟨s', d, hok, ⟨hp.length, ⟨?_, ?_, ?_⟩, htx.trans hs.tx,
      ⟨UInt64.ofNat (number env.app ty m + 1), c, ?_⟩, hp.backlog.trans hs.backlog⟩, fun hin hfresh => ?_⟩
    · rw [hthread]
      exact hck
    · rw [hthread, expected_snoc, hnum]
    · rw [herr, countP_follows_snoc hinc, UInt64.ofNat_add]
      split <;> rfl
    · rw [hthread, hthread0]
    · have hknown := hsent.known q hmem
      have hback := passes_backlog href hp
      have hsample := passes_sampled href hp hlen
      have hin' : InTime env ty s.world q := by
        unfold InTime
        rw [hs.tx]
        exact hin
      have hentry := hfresh (number env.app ty q) w.tx.added[number env.app ty q]
        (by rw [hs.tx]; exact List.getElem?_eq_getElem hknown)
        (fun g hg => Nat.ne_of_lt (hinc.lt_of_snoc hg)) hin'
      rw [hnum, hs.backlog] at hback hsample
      rw [hentry] at hsample
      exact ⟨hfresh.received hburst (by rw [hs.tx]; exact hsent.fits)
        (by rw [hs.tx]; exact hknown) hin' htx hback, w.tx.added[number env.app ty q],
        List.getElem?_eq_getElem hknown, hsample⟩

/-- The reference in a burst, and its backlog as long as no frame is late. -/
def RefGot (env : Env C D) (key : C → K) (k : K) (ty : FrameType) (w : World C D) (early : Prop)
    (got : List Mbuf) (s : RxState C D) : Prop :=
  RefBurst env key k ty w got s ∧ (early → Fresh env ty got s.world)

theorem refGot_step {env : Env C D} {key : C → K} {k : K} {ty : FrameType} (hn : Node env key ty)
    (href : env.mirrorMode = false) (hburst : BurstFits env.app ty) {w : World C D} {early : Prop}
    {sent : List Mbuf} (hsent : Answers env key k ty w sent) {got : List Mbuf} {q m : Mbuf}
    {s : RxState C D} (hsub : (got ++ [q]).Sublist sent) (hq : early → InTime env ty w q)
    (harr : Arrives q.wire m) (hs : RefGot env key k ty w early got s) :
    Outlier env (rxOne env (rxHandler env ty) s m) ∨
      ∃ s' d, rxOne env (rxHandler env ty) s m = .ok (s', d) ∧
        RefGot env key k ty w early (got ++ [q]) s' := by
  rcases (ref_step hn href hburst hsent hsub harr hs.1).2 with hstop | ⟨s', d, hok, hb, himp⟩
  · exact Or.inl hstop
  · exact Or.inr ⟨s', d, hok, hb, fun he => (himp (hq he) (hs.2 he)).1⟩

/-! ## Runs -/

structure Loop (C D D' : Type) where
  ref : World C D
  mirror : World C D'
  /-- Frames of the reference that reached the mirror, in order. -/
  delivered : List Mbuf
  /-- Frames of the mirror that came back, in order. -/
  returned : List Mbuf

/-- A step of one of the two nodes. The sender's counter stays below the wrap of
the wire; `accepts` is what is assumed of the frames that come back. -/
inductive Step (accepts : World C D → List Mbuf → Prop) (env : Env C D) (envM : Env C D')
    (ty : FrameType) : Loop C D D' → Loop C D D' → Prop
  | generate {l : Loop C D D'} {w : World C D} (mbufs : Option (List Mbuf))
      (hg : BelowWrap env.app ty l.ref)
      (hlen : ∀ ms, mbufs = some ms → ms.length = (env.app.cls ty).numFramesPerCycle.toUInt16.toNat)
      (h : genAndSendFrames env ty (env.app.cls ty).numFramesPerCycle mbufs l.ref = .ok w) :
      Step accepts env envM ty l { l with ref := w }
  | mirrorRx {l : Loop C D D'} {w : World C D'} {freed : List Mbuf} (stack : Mem UInt8)
      (taken ms : List Mbuf) (hlink : Delivers l.ref.tx.sent l.delivered taken ms)
      (h : rxFrame envM ty stack l.mirror ms = .ok (w, freed)) :
      Step accepts env envM ty l { l with mirror := w, delivered := l.delivered ++ taken }
  | mirrorTx {l : Loop C D D'} {w : World C D'}
      (h : sendFramesCommon envM ty (envM.app.cls ty).numFramesPerCycle l.mirror = .ok w) :
      Step accepts env envM ty l { l with mirror := w }
  | refRx {l : Loop C D D'} {w : World C D} {freed : List Mbuf} (stack : Mem UInt8)
      (taken ms : List Mbuf) (hlink : Delivers l.mirror.tx.sent l.returned taken ms)
      (ha : accepts l.ref taken) (h : rxFrame env ty stack l.ref ms = .ok (w, freed)) :
      Step accepts env envM ty l { l with ref := w, returned := l.returned ++ taken }

abbrev Run (accepts : World C D → List Mbuf → Prop) (env : Env C D) (envM : Env C D')
    (ty : FrameType) :=
  Relation.ReflTransGen (Step accepts env envM ty)

def Loop.start (env : Env C D) (envM : Env C D') (ty : FrameType) (ctx : C) (dev : D) (ctxM : C)
    (devM : D') : Loop C D D' :=
  ⟨World.fresh env ty ctx dev, World.fresh envM ty ctxM devM, [], []⟩

/-- No frame comes back late. -/
def inTime (env : Env C D) (ty : FrameType) (w : World C D) (taken : List Mbuf) : Prop :=
  ∀ q ∈ taken, InTime env ty w q

structure Inv (env : Env C D) (key : C → K) (k : K) (ty : FrameType) (l : Loop C D D') : Prop where
  sender : Sender env key k ty l.ref
  cycles : Cycles env.app ty l.ref
  delivered : l.delivered.Sublist l.ref.tx.sent
  mirror : Mirrors env.app env.evp key k ty l.delivered l.mirror
  returned : l.returned.Sublist l.mirror.tx.sent
  gets : Gets env.app key k ty l.returned l.ref

section Invariant

variable {env : Env C D} {envM : Env C D'} {key : C → K} {k : K} {ty : FrameType}
  {l : Loop C D D'}

theorem Inv.sent (hi : Inv env key k ty l) {f : Mbuf} (hf : f ∈ l.ref.tx.sent) :
    Genuine env.app env.evp key k ty f ∧ number env.app ty f < l.ref.tx.added.length := by
  have hmem : f ∈ l.ref.tx.added := hi.sender.order.subset (List.mem_append_left _ hf)
  obtain ⟨i, hlt, hget⟩ := List.getElem_of_mem hmem
  obtain ⟨hgen, hnum⟩ := hi.sender.frames i f (by rw [List.getElem?_eq_getElem hlt, hget])
  exact ⟨hgen, by rw [hnum]; exact hlt⟩

theorem Inv.increasing (hi : Inv env key k ty l) :
    Increasing (number env.app ty) l.ref.tx.sent := by
  have hall : Increasing (number env.app ty) l.ref.tx.added :=
    increasing_of_position fun i f hf => (hi.sender.frames i f hf).2
  exact hall.sublist ((List.sublist_append_left _ _).trans hi.sender.order)

/-- What the mirror forwarded has the counters of what it was forwarded for. -/
theorem Inv.numbers (hset : Setting env envM key ty) (hi : Inv env key k ty l) :
    l.mirror.tx.added.map (number env.app ty) =
      (l.delivered.filter (follows (number env.app ty) l.delivered)).map (number env.app ty) := by
  apply map_eq_of_forall₂
  have hgen : ∀ f ∈ l.delivered.filter (follows (number env.app ty) l.delivered),
      Genuine env.app env.evp key k ty f := by
    intro f hf
    exact (hi.sent (hi.delivered.subset (List.mem_of_mem_filter hf))).1
  refine ((List.forall₂_and_left _ _).mpr ⟨hgen, hi.mirror.forwarded⟩).imp ?_
  rintro f q ⟨hf, hcopy⟩
  exact hcopy.number hset.checked hf.length

theorem Inv.once (hset : Setting env envM key ty) (hi : Inv env key k ty l) :
    Increasing (number env.app ty) l.mirror.tx.added := by
  refine Increasing.transfer (hi.numbers hset) ?_
  exact hi.increasing.sublist (List.filter_sublist.trans hi.delivered)

theorem Inv.answers (hset : Setting env envM key ty) (hi : Inv env key k ty l) :
    Answers env key k ty l.ref l.mirror.tx.sent := by
  have hsub : l.mirror.tx.sent.Sublist l.mirror.tx.added :=
    (List.sublist_append_left _ _).trans hi.mirror.order
  have hle : (env.app.cls ty).numFramesPerCycle.toNat ≤ 256 := hset.burst.2
  have hbound := hi.cycles.bound
  refine ⟨fun q hq => hi.mirror.genuine q (hsub.subset hq), (hi.once hset).sublist hsub,
    fun q hq => ?_, by omega⟩
  have hmem := List.mem_map_of_mem (f := number env.app ty) (hsub.subset hq)
  rw [hi.numbers hset] at hmem
  obtain ⟨f, hf, hnum⟩ := List.mem_map.mp hmem
  rw [← hnum]
  exact (hi.sent (hi.delivered.subset (List.mem_of_mem_filter hf))).2

theorem start_inv (hset : Setting env envM key ty) (ctx : C) (dev : D) {ctxM : C}
    (hkey : key ctxM = key ctx) (devM : D') :
    Inv env key (key ctx) ty (Loop.start env envM ty ctx dev ctxM devM) where
  sender := by
    refine ⟨⟨rfl, rfl⟩, rfl, ?_, fun i f h => ?_, List.Sublist.refl _⟩
    · simp only [Loop.start, World.fresh, statInit, hset.ref, Bool.false_eq_true, if_false]
    · cases h
  cycles := ⟨rfl, Nat.dvd_zero _, Nat.zero_le _⟩
  delivered := List.Sublist.refl _
  mirror := ⟨hkey, rfl, .nil, fun q h => (by cases h), List.Sublist.refl _⟩
  returned := List.Sublist.refl _
  gets := ⟨rfl, rfl, rfl⟩

theorem generate_inv (hset : Setting env envM key ty) (hi : Inv env key k ty l)
    (hg : BelowWrap env.app ty l.ref) {mbufs : Option (List Mbuf)} {w : World C D}
    (hlen : ∀ ms, mbufs = some ms → ms.length = (env.app.cls ty).numFramesPerCycle.toUInt16.toNat)
    (h : genAndSendFrames env ty (env.app.cls ty).numFramesPerCycle mbufs l.ref = .ok w) :
    Inv env key k ty { l with ref := w } := by
  obtain ⟨hw, hc, -, hrx, hctx, herr, -, hsent, -⟩ :=
    generate_sender hset hi.sender hi.cycles hg hlen h
  refine ⟨hw, hc, hi.delivered.trans hsent, hi.mirror, hi.returned, ?_, ?_, ?_⟩
  · rw [hctx]
    exact hi.gets.rxKey
  · rw [hrx]
    exact hi.gets.rx
  · rw [herr]
    exact hi.gets.errors

/-- The mirror's answer to whatever the link hands over next. -/
theorem mirrorRx_spec (hset : Setting env envM key ty) (hi : Inv env key k ty l)
    {taken ms : List Mbuf} (hlink : Delivers l.ref.tx.sent l.delivered taken ms)
    (stack : Mem UInt8) :
    Outlier envM (rxFrame envM ty stack l.mirror ms) ∨
      ∃ w freed, rxFrame envM ty stack l.mirror ms = .ok (w, freed) ∧
        Mirrors env.app env.evp key k ty (l.delivered ++ taken) w := by
  have hgen (f : Mbuf) (hf : f ∈ l.ref.tx.sent) := (hi.sent hf).1
  have hinc := hi.increasing
  have hm := hi.mirror
  rw [← hset.app] at hgen hinc hm ⊢
  rw [← hset.evp] at hgen hm ⊢
  have hburst := rxBurst_got
    (fun hsub (_ : True) harr hs => mirror_step hset.nodeM hset.mirror hgen hinc hsub harr hs) hlink
    (fun _ _ => trivial) (s := ⟨l.mirror, (envM.app.cls ty).frameLength, stack⟩) ⟨rfl, hm⟩
  apply rxFrame_returns
  rcases hburst with hstop | ⟨t, fs, hrun, -, ht⟩
  · exact Or.inl hstop
  · exact Or.inr ⟨t, fs, hrun, ht⟩

theorem mirrorRx_inv (hset : Setting env envM key ty) (hi : Inv env key k ty l)
    {taken ms freed : List Mbuf} (hlink : Delivers l.ref.tx.sent l.delivered taken ms)
    {stack : Mem UInt8} {w : World C D'} (h : rxFrame envM ty stack l.mirror ms = .ok (w, freed)) :
    Inv env key k ty { l with mirror := w, delivered := l.delivered ++ taken } := by
  rcases mirrorRx_spec hset hi hlink stack with ⟨-, log, he⟩ | ⟨w', freed', hok, hm⟩
  · rw [he] at h
    cases h
  · obtain ⟨rfl, rfl⟩ := Prod.mk.inj (Except.ok.inj (hok.symm.trans h))
    refine ⟨hi.sender, hi.cycles, hlink.order, hm, hi.returned.trans ?_, hi.gets⟩
    obtain ⟨t, fs, hb, rfl⟩ := rxFrame_ok h
    have hadd (q : TxQueue D') (m : Mbuf) (hq : l.mirror.tx.sent.Sublist q.sent) :
        l.mirror.tx.sent.Sublist (lportTxBufferAdd envM.dev q m).sent :=
      hq.trans (lportTxBufferAdd_sent envM.dev q m)
    exact rxBurst_queue hadd hb (List.Sublist.refl _)

theorem mirrorTx_inv (hi : Inv env key k ty l) {w : World C D'}
    (h : sendFramesCommon envM ty (envM.app.cls ty).numFramesPerCycle l.mirror = .ok w) :
    Inv env key k ty { l with mirror := w } := by
  obtain ⟨hthread, -, htx, -⟩ := Network.sendFramesCommon_ok h
  have hm := hi.mirror
  refine ⟨hi.sender, hi.cycles, hi.delivered, ⟨?_, ?_, ?_, ?_, ?_⟩, hi.returned.trans ?_, hi.gets⟩
  · rw [hthread]
    exact hm.rxKey
  · rw [hthread]
    exact hm.rx
  · rw [htx]
    exact hm.forwarded
  · rw [htx]
    exact hm.genuine
  · rw [htx]
    exact lportTxBufferFlush_ordered envM.dev _ hm.order
  · rw [htx]
    exact lportTxBufferFlush_sent envM.dev _

/-- The reference at the start of a burst. -/
theorem Inv.refBurst (hi : Inv env key k ty l) (stack : Mem UInt8) :
    RefBurst env key k ty l.ref l.returned ⟨l.ref, (env.app.cls ty).frameLength, stack⟩ :=
  ⟨rfl, hi.gets, rfl, ⟨_, _, rfl⟩, hi.sender.backlog⟩

/-- The reference's answer to whatever the link hands over next. -/
theorem refRx_spec (hset : Setting env envM key ty) (hi : Inv env key k ty l)
    {taken ms : List Mbuf} (hlink : Delivers l.mirror.tx.sent l.returned taken ms)
    (stack : Mem UInt8) :
    Outlier env (rxFrame env ty stack l.ref ms) ∨
      ∃ w freed, rxFrame env ty stack l.ref ms = .ok (w, freed) ∧
        Inv env key k ty { l with ref := w, returned := l.returned ++ taken } ∧
        (inTime env ty l.ref taken ∧ Fresh env ty l.returned l.ref →
          Fresh env ty (l.returned ++ taken) w) := by
  have hburst := rxBurst_got (refGot_step hset.node hset.ref hset.burst (hi.answers hset)) hlink
    (fun q hq (he : inTime env ty l.ref taken ∧ Fresh env ty l.returned l.ref) => he.1 q hq)
    ⟨hi.refBurst stack, fun he => he.2⟩
  refine rxFrame_returns (P := fun w => Inv env key k ty { l with ref := w, returned := _ } ∧ _) ?_
  rcases hburst with hstop | ⟨t, fs, hrun, hb, hfresh⟩
  · exact Or.inl hstop
  · refine Or.inr ⟨t, fs, hrun, ?_, hfresh⟩
    obtain ⟨x, c, hthread⟩ := hb.thread
    refine ⟨⟨?_, ?_, hb.backlog, ?_, ?_⟩, ⟨?_, ?_, ?_⟩, ?_, hi.mirror, hlink.order, hb.gets⟩
    · rw [hthread]
      exact ⟨hi.sender.setUp.payload, hi.sender.setUp.length⟩
    · rw [hthread]
      exact hi.sender.txKey
    · rw [hb.tx]
      exact hi.sender.frames
    · rw [hb.tx]
      exact hi.sender.order
    · rw [hthread, hb.tx]
      exact hi.cycles.counter
    · rw [hb.tx]
      exact hi.cycles.cycle
    · rw [hb.tx]
      exact hi.cycles.bound
    · rw [hb.tx]
      exact hi.delivered

theorem run_inv {accepts : World C D → List Mbuf → Prop} (hset : Setting env envM key ty) {ctx : C}
    {dev : D} {ctxM : C} (hkey : key ctxM = key ctx) {devM : D'}
    (h : Run accepts env envM ty (Loop.start env envM ty ctx dev ctxM devM) l) :
    Inv env key (key ctx) ty l := by
  induction h with
  | refl => exact start_inv hset ctx dev hkey devM
  | tail _ hstep hi =>
    cases hstep with
    | generate mbufs hg hlen h => exact generate_inv hset hi hg hlen h
    | mirrorRx stack taken ms hlink h => exact mirrorRx_inv hset hi hlink h
    | mirrorTx h => exact mirrorTx_inv hi h
    | refRx stack taken ms hlink ha h =>
      rcases refRx_spec hset hi hlink stack with ⟨-, log, he⟩ | ⟨w', freed', hok, hi', -⟩
      · rw [he] at h
        cases h
      · obtain ⟨rfl, rfl⟩ := Prod.mk.inj (Except.ok.inj (hok.symm.trans h))
        exact hi'

/-- As long as no frame comes back late, the backlog is good for the next ones. -/
theorem run_fresh (hset : Setting env envM key ty) {ctx : C} {dev : D} {ctxM : C}
    (hkey : key ctxM = key ctx) {devM : D'}
    (h : Run (inTime env ty) env envM ty (Loop.start env envM ty ctx dev ctxM devM) l) :
    Fresh env ty l.returned l.ref := by
  induction h with
  | refl =>
    intro i f hf
    cases hf
  | tail hrun hstep ih =>
    have hi := run_inv hset hkey hrun
    cases hstep with
    | generate mbufs hg hlen h =>
      obtain ⟨-, -, -, -, -, -, -, -, hfresh⟩ :=
        generate_sender hset hi.sender hi.cycles hg hlen h
      exact hfresh _ ih
    | mirrorRx stack taken ms hlink h => exact ih
    | mirrorTx h => exact ih
    | refRx stack taken ms hlink ha h =>
      rcases refRx_spec hset hi hlink stack with ⟨-, log, he⟩ | ⟨w', freed', hok, -, hfresh⟩
      · rw [he] at h
        cases h
      · obtain ⟨rfl, rfl⟩ := Prod.mk.inj (Except.ok.inj (hok.symm.trans h))
        exact hfresh ⟨ha, ih⟩

end Invariant

/-! ## The loop -/

/-- Losses are accounted for. The mirror has forwarded, in order and each once,
the frames with counter 0 and those whose predecessor reached it too; the
reference has counted the frames that came back without their predecessor. Both
handle whatever comes next, unless an outlier ends the process, and the
reference finds payload, frame id and checksum of every frame in order. -/
structure Accounted (env : Env C D) (envM : Env C D') (ty : FrameType) (l : Loop C D D') :
    Prop where
  forwarded : List.Forall₂ (Copy env.app ty)
    (l.delivered.filter (follows (number env.app ty) l.delivered)) l.mirror.tx.added
  once : Increasing (number env.app ty) l.mirror.tx.added
  order : l.mirror.tx.Ordered
  errors : (l.ref.stat.globalStatistics ty).outOfOrderErrors.toNat =
    l.returned.countP fun q => !follows (number env.app ty) l.returned q
  mirrorHandles : ∀ stack taken ms, Delivers l.ref.tx.sent l.delivered taken ms →
    Outlier envM (rxFrame envM ty stack l.mirror ms) ∨
      ∃ w freed, rxFrame envM ty stack l.mirror ms = .ok (w, freed)
  refHandles : ∀ stack taken ms, Delivers l.mirror.tx.sent l.returned taken ms →
    Outlier env (rxFrame env ty stack l.ref ms) ∨
      ∃ w freed, rxFrame env ty stack l.ref ms = .ok (w, freed)
  clean : ∀ stack taken ms s0 m s1, Delivers l.mirror.tx.sent l.returned taken ms →
    Handling env (rxHandler env ty) ⟨l.ref, (env.app.cls ty).frameLength, stack⟩ ms s0 m s1 →
      Clean env ty s0 m

/-- Losses are accounted for, and every frame that comes back in time is
measured against its own send time. -/
structure Characterised (accepts : World C D → List Mbuf → Prop) (env : Env C D)
    (envM : Env C D') (ty : FrameType) (l : Loop C D D') : Prop extends
    Accounted env envM ty l where
  samples : ∀ stack taken ms s0 m s1, Delivers l.mirror.tx.sent l.returned taken ms →
    accepts l.ref taken →
    Handling env (rxHandler env ty) ⟨l.ref, (env.app.cls ty).frameLength, stack⟩ ms s0 m s1 →
      ∃ q ∈ taken, Arrives q.wire m ∧
        (InTime env ty l.ref q → OwnSample env ty l.ref q s0 s1)

theorem Inv.accounted {env : Env C D} {envM : Env C D'} {key : C → K} {k : K} {ty : FrameType}
    (hset : Setting env envM key ty) {l : Loop C D D'} (hi : Inv env key k ty l) :
    Accounted env envM ty l := by
  have hanswers := hi.answers hset
  refine ⟨hi.mirror.forwarded, hi.once hset, hi.mirror.order, ?_, ?_, ?_, ?_⟩
  · have hsub : l.mirror.tx.sent.Sublist l.mirror.tx.added :=
      (List.sublist_append_left _ _).trans hi.mirror.order
    have hforward := hi.mirror.forwarded.length_eq
    have hfilter := List.length_filter_le (follows (number env.app ty) l.delivered) l.delivered
    have hdelivered := hi.delivered.length_le
    have hsent := hi.sender.order.length_le
    have hreturned := (hi.returned.trans hsub).length_le
    have hcount := List.countP_le_length (l := l.returned)
      (p := fun q => !follows (number env.app ty) l.returned q)
    have hle : (env.app.cls ty).numFramesPerCycle.toNat ≤ 256 := hset.burst.2
    have hbound := hi.cycles.bound
    rw [List.length_append] at hsent
    rw [hi.gets.errors, UInt64.toNat_ofNat']
    exact Nat.mod_eq_of_lt (by omega)
  · intro stack taken ms hlink
    rcases mirrorRx_spec hset hi hlink stack with hstop | ⟨w, freed, hok, -⟩
    · exact Or.inl hstop
    · exact Or.inr ⟨w, freed, hok⟩
  · intro stack taken ms hlink
    rcases refRx_spec hset hi hlink stack with hstop | ⟨w, freed, hok, -⟩
    · exact Or.inl hstop
    · exact Or.inr ⟨w, freed, hok⟩
  · intro stack taken ms s0 m s1 hlink hh
    obtain ⟨before, q, -, hsub, harr, hs⟩ := handling_got
      (refGot_step hset.node hset.ref hset.burst hanswers) hlink
      (fun q _ (he : False) => he.elim) ⟨hi.refBurst stack, False.elim⟩ hh
    exact (ref_step hset.node hset.ref hset.burst hanswers hsub harr hs.1).1

theorem Inv.samples {env : Env C D} {envM : Env C D'} {key : C → K} {k : K} {ty : FrameType}
    (hset : Setting env envM key ty) {l : Loop C D D'} (hi : Inv env key k ty l)
    (hfresh : Fresh env ty l.returned l.ref) {stack : Mem UInt8} {taken ms : List Mbuf} {m : Mbuf}
    {s0 s1 : RxState C D} (hlink : Delivers l.mirror.tx.sent l.returned taken ms)
    (hin : inTime env ty l.ref taken)
    (hh : Handling env (rxHandler env ty) ⟨l.ref, (env.app.cls ty).frameLength, stack⟩ ms s0 m s1) :
    ∃ q ∈ taken, Arrives q.wire m ∧ OwnSample env ty l.ref q s0 s1 := by
  have hanswers := hi.answers hset
  obtain ⟨before, q, hq, hsub, harr, hs⟩ := handling_got
    (refGot_step hset.node hset.ref hset.burst hanswers) hlink
    (fun q hq (_ : True) => hin q hq) ⟨hi.refBurst stack, fun _ => hfresh⟩ hh
  obtain ⟨-, d, hone⟩ := hh.spec
  refine ⟨q, hq, harr, ?_⟩
  rcases (ref_step hset.node hset.ref hset.burst hanswers hsub harr hs.1).2 with
    ⟨-, log, he⟩ | ⟨s', d', hok, -, himp⟩
  · rw [he] at hone
    cases hone
  · obtain ⟨rfl, rfl⟩ := Prod.mk.inj (Except.ok.inj (hok.symm.trans hone))
    exact (himp (hin q hq) (hs.2 trivial)).2

/-- The frames have room for the headers of the class in front of metadata and
pattern. The sanity check sees to it for all classes but UDP. -/
def HeadersFit (cfg : AppConfig) (ty : FrameType) : Prop :=
  getMetaDataOffset ty (cfg.mode ty) + 16 + (cfg.cls ty).payloadPattern.length ≤
    (cfg.cls ty).frameLength.toNat

theorem checked_of_fits {withMqtt : Bool} {cfg : AppConfig} {ty : FrameType}
    (hsane : configSanityCheck withMqtt cfg = .ok ()) (hfit : HeadersFit cfg ty) :
    Checked cfg ty := by
  refine ⟨?_, Nat.lt_of_le_of_lt (frameLength_bounds hsane ty).2 (by decide)⟩
  by_cases hm : cfg.mode ty = .none
  · rw [if_pos hm]
    exact hfit
  · have hsec := (Reseal.hasSecurity_of_mode hm).1
    exact frameLength_room hsane ty (by rintro rfl; cases hsec) (by rintro rfl; cases hsec)

/-- **The reference-mirror loop.**  For all classes but DCP and LLDP, without
security or in AO mode, in every run in which no frame comes back late: losses
are accounted for and round trips are measured, if the EtherType of L2 has 16
bits. -/
theorem loop_characterised {env : Env C D} {envM : Env C D'} {key : C → K}
    (hl : env.evp.Lawful key) {withMqtt : Bool}
    (hsane : configSanityCheck withMqtt env.app = .ok ()) {ty : FrameType} (hdcp : ty ≠ .dcp)
    (hlldp : ty ≠ .lldp) (hmode : env.app.mode ty ≠ .ae) (hfit : HeadersFit env.app ty)
    (hn : BurstFits env.app ty) (het : EtherTypeFits env.app ty) (happ : envM.app = env.app)
    (hevp : envM.evp = env.evp) (href : env.mirrorMode = false) (hmirror : envM.mirrorMode = true)
    {ctx ctxM : C} (hkey : key ctxM = key ctx) {dev : D} {devM : D'} {l : Loop C D D'}
    (hrun : Run (inTime env ty) env envM ty (Loop.start env envM ty ctx dev ctxM devM) l) :
    Characterised (inTime env ty) env envM ty l := by
  have hset : Setting env envM key ty := ⟨hl, hevp, happ, href, hmirror, hdcp, hlldp, hmode, hn,
    checked_of_fits hsane hfit, het⟩
  have hi := run_inv hset hkey hrun
  have hfresh := run_fresh hset hkey hrun
  refine ⟨hi.accounted hset, fun stack taken ms s0 m s1 hlink hin hh => ?_⟩
  obtain ⟨q, hq, harr, hsample⟩ := hi.samples hset hfresh hlink hin hh
  exact ⟨q, hq, harr, fun _ => hsample⟩

/-! One frame goes to the mirror and comes back. -/

abbrev SmallLoop := Loop DigestCtx Unit Unit

/-- Both nodes at the start, with a device that takes every packet. -/
def smallStart (app : AppConfig) (ty : FrameType) : SmallLoop :=
  Loop.start (Env.small app false) (Env.small app true) ty DigestCtx.fresh () DigestCtx.fresh ()

/-- The frame in one segment. -/
def single (m : Mbuf) : Mbuf := { m with pktLen := m.dataLen.toUInt32 }

theorem delivers_single {sent got taken : List Mbuf} (h : (got ++ taken).Sublist sent) :
    Delivers sent got taken (taken.map single) := by
  refine ⟨h, ?_⟩
  rw [List.forall₂_map_right_iff]
  exact List.forall₂_same.mpr fun m _ => ⟨rfl, rfl⟩

def toMirror (app : AppConfig) (ty : FrameType) : Except Stop SmallLoop := do
  let w ← genAndSendFrames (Env.small app false) ty (app.cls ty).numFramesPerCycle
    (some [⟨0, fun _ => 0, 0, 0⟩]) (smallStart app ty).ref
  let (w', _) ← rxFrame (Env.small app true) ty (fun _ => 0) (smallStart app ty).mirror
    (w.tx.sent.map single)
  .ok ⟨w, w', w.tx.sent, []⟩

theorem toMirror_run {app : AppConfig} {ty : FrameType}
    (accepts : World DigestCtx Unit → List Mbuf → Prop) (hn : (app.cls ty).numFramesPerCycle = 1)
    {l : SmallLoop} (h : toMirror app ty = .ok l) :
    Run accepts (Env.small app false) (Env.small app true) ty (smallStart app ty) l ∧
      l.returned = [] := by
  simp only [toMirror, bind, Except.bind] at h
  split at h
  · cases h
  · rename_i w hgen
    split at h
    · cases h
    · rename_i p hrx
      cases h
      refine ⟨?_, rfl⟩
      have hfirst : Step accepts (Env.small app false) (Env.small app true) ty (smallStart app ty)
          { smallStart app ty with ref := w } := by
        refine Step.generate _ ?_ (fun ms hms => ?_) hgen
        · show 0 < (app.cls ty).numFramesPerCycle.toNat * 2 ^ 32
          rw [hn]
          decide
        · show ms.length = (app.cls ty).numFramesPerCycle.toUInt16.toNat
          rw [← Option.some.inj hms, hn]
          rfl
      exact .tail (.single hfirst) (Step.mirrorRx (fun _ => 0) w.tx.sent _
        (delivers_single (List.Sublist.refl _)) hrx)

/-- The frame reaches the mirror, which sends it, and comes back in time. -/
def comesBack (app : AppConfig) (ty : FrameType) : Bool :=
  match toMirror app ty with
  | .error _ => false
  | .ok l =>
    match sendFramesCommon (Env.small app true) ty (app.cls ty).numFramesPerCycle l.mirror with
    | .error _ => false
    | .ok w =>
      match rxFrame (Env.small app false) ty (fun _ => 0) l.ref (w.tx.sent.map single) with
      | .error _ => false
      | .ok _ => decide (w.tx.sent.length = 1) && decide (l.ref.tx.added.length = 1)

theorem comesBack_run {app : AppConfig} {ty : FrameType}
    (hn : (app.cls ty).numFramesPerCycle = 1) (h : comesBack app ty = true) :
    ∃ l : SmallLoop, Run (inTime (Env.small app false) ty) (Env.small app false)
        (Env.small app true) ty (smallStart app ty) l ∧ l.returned.length = 1 := by
  unfold comesBack at h
  simp only at h
  split at h
  · cases h
  · rename_i l hto
    split at h
    · cases h
    · rename_i w htx
      split at h
      · cases h
      · rename_i p hrx
        simp only [Bool.and_eq_true, decide_eq_true_eq] at h
        obtain ⟨hone, hadded⟩ := h
        obtain ⟨hrun, hret⟩ := toMirror_run (inTime (Env.small app false) ty) hn hto
        have hin : inTime (Env.small app false) ty l.ref w.tx.sent := by
          intro q _
          show l.ref.tx.added.length ≤ _ + 1024 * (app.cls ty).numFramesPerCycle.toNat
          rw [hadded, hn]
          show 1 ≤ _ + 1024
          omega
        have hlink : Delivers w.tx.sent l.returned w.tx.sent (w.tx.sent.map single) := by
          rw [hret]
          exact delivers_single (List.Sublist.refl _)
        refine ⟨_, (hrun.tail (Step.mirrorTx htx)).tail
          (Step.refRx (fun _ => 0) w.tx.sent _ hlink hin hrx), ?_⟩
        show (l.returned ++ w.tx.sent).length = 1
        rw [hret, List.nil_append, hone]

/-- TSN frames of 60 bytes with authentication. -/
def aoApp : AppConfig := AppConfig.small .ao 60 1 []

theorem loop_characterised_trip :
    ∃ l : SmallLoop, l.returned.length = 1 ∧
      Characterised (inTime (Env.small aoApp false) .tsnHigh) (Env.small aoApp false)
        (Env.small aoApp true) .tsnHigh l := by
  have hback : comesBack aoApp .tsnHigh = true := by decide +kernel
  have hsane : configSanityCheck false (Env.small aoApp false).app = .ok () := by rfl
  have hmode : (Env.small aoApp false).app.mode .tsnHigh ≠ .ae := by decide
  have hfit : HeadersFit (Env.small aoApp false).app .tsnHigh := by
    change 28 + 16 + 0 ≤ 60
    decide
  have hn : BurstFits (Env.small aoApp false).app .tsnHigh := ⟨by decide, by decide⟩
  have het : EtherTypeFits (Env.small aoApp false).app .tsnHigh := fun h => by cases h
  have happ : (Env.small aoApp true).app = (Env.small aoApp false).app := rfl
  obtain ⟨l, hrun, hone⟩ := comesBack_run rfl hback
  exact ⟨l, hone, loop_characterised digestEvp_lawful hsane (by decide) (by decide) hmode hfit hn
    het happ rfl rfl rfl rfl hrun⟩

/-- Both nodes pass the check, and still some run is not characterised. -/
def Fails (env envM : Env DigestCtx Unit) (ty : FrameType) : Prop :=
  configSanityCheck false env.app = .ok () ∧ HeadersFit env.app ty ∧ BurstFits env.app ty ∧
    ∃ l : SmallLoop, Run (fun _ _ => True) env envM ty
        (Loop.start env envM ty DigestCtx.fresh () DigestCtx.fresh ()) l ∧
      ¬ Characterised (fun _ _ => True) env envM ty l

/-! L2 frames with an EtherType of more than 16 bits. -/

def wideApp : AppConfig :=
  { AppConfig.small .none 40 1 [] with
    cls := fun ty => { ClassConfig.small .none 40 1 [] with enabled := decide (ty = .l2) }
    l2EtherType := 0x1b62c }

/-- Frame 0 reaches the mirror and is not forwarded. -/
def notForwarded (app : AppConfig) (ty : FrameType) : Bool :=
  match toMirror app ty with
  | .error _ => false
  | .ok l => decide (l.delivered.map (number app ty) = [0]) && l.mirror.tx.added.isEmpty

theorem wide_etherType_lost : Fails (Env.small wideApp false) (Env.small wideApp true) .l2 := by
  have hcheck : notForwarded wideApp .l2 = true := by decide +kernel
  refine ⟨by rfl, by change 18 + 16 + 0 ≤ 40; decide, ⟨by decide, by decide⟩, ?_⟩
  unfold notForwarded at hcheck
  split at hcheck
  · cases hcheck
  · rename_i l hto
    simp only [Bool.and_eq_true, decide_eq_true_eq, List.isEmpty_iff] at hcheck
    obtain ⟨hnum, hadded⟩ := hcheck
    refine ⟨l, (toMirror_run (fun _ _ => True) rfl hto).1, fun hl => ?_⟩
    have hforward := hl.forwarded.length_eq
    rw [hadded, List.length_nil, List.length_eq_zero_iff] at hforward
    obtain ⟨f, rest, hf, hzero, -⟩ := List.map_eq_cons_iff.mp hnum
    have hmem : f ∈ l.delivered := by rw [hf]; exact List.mem_cons_self
    have hfollows : follows (number wideApp .l2) l.delivered f = true :=
      follows_iff.mpr (Or.inl hzero)
    have hin := List.mem_filter.mpr ⟨hmem, hfollows⟩
    rw [show (Env.small wideApp false).app = wideApp from rfl] at hforward
    rw [hforward] at hin
    cases hin

/-! TSN frames, one a cycle; both clocks stand still at 10 ms. The reference has
sent frame 1024 when frame 0 comes back. -/

def lateRef : Env DigestCtx Unit :=
  { Env.small (AppConfig.small .none 40 1 []) false with clock := fun _ => 10000000 }

def lateMirror : Env DigestCtx Unit :=
  { Env.small (AppConfig.small .none 40 1 []) true with clock := fun _ => 10000000 }

def lateStart : SmallLoop :=
  Loop.start lateRef lateMirror .tsnHigh DigestCtx.fresh () DigestCtx.fresh ()

theorem late_clock (i : Nat) : lateRef.clock i = 10000000 := rfl

theorem late_setting : Setting lateRef lateMirror (fun _ => ()) .tsnHigh where
  lawful := digestEvp_lawful
  evp := rfl
  app := rfl
  ref := rfl
  mirror := rfl
  notDcp := by decide
  notLldp := by decide
  mode := by decide
  burst := ⟨by decide, by decide⟩
  checked := ⟨by decide, by decide⟩
  etherType := fun h => by cases h

/-- The reference sends any number of frames, all at the same time. -/
theorem late_sends (k : Nat) (hk : k ≤ 2 ^ 32) :
    ∃ w : World DigestCtx Unit, Run (fun _ _ => True) lateRef lateMirror .tsnHigh lateStart
        { lateStart with ref := w } ∧ w.tx.added.length = k ∧ Flushed w.tx ∧
      (∀ f ∈ w.tx.added, stampOf lateRef.app .tsnHigh f = 10000000) ∧
      w.stat.rttExpectedRtLimit = 2000 := by
  induction k with
  | zero => exact ⟨lateStart.ref, .refl, rfl, ⟨rfl, rfl, rfl, fun _ => rfl⟩, by rintro _ ⟨⟩, rfl⟩
  | succ k ih =>
    obtain ⟨w, hrun, hlen, hfl, hstamp, hlimit⟩ := ih (by omega)
    have hi := run_inv late_setting rfl hrun
    have hback : HasBacklog lateRef .tsnHigh w :=
      Or.inr (RefBurst.hasBacklog late_setting.burst (hi.refBurst (fun _ => 0)))
    have hbelow : BelowWrap lateRef.app .tsnHigh w := by
      unfold BelowWrap
      rw [hi.cycles.counter]
      change (UInt64.ofNat w.tx.added.length).toNat < 1 * 2 ^ 32
      rw [hlen, UInt64.toNat_ofNat']
      omega
    obtain ⟨w', hgen, -, -, hadd, hflush, hrel⟩ := generate_spec lateRef .tsnHigh rfl
      late_setting.burst w hback [⟨0, fun _ => 0, 0, 0⟩]
    have hlen' : w'.tx.added.length = k + 1 := by
      rw [hadd, List.length_append, plainFrames_length, hlen, List.length_singleton]
    have hfl' := hflush hfl.conserved (hrel takeAll_reliable hfl.unsent)
    have hone : ∀ ms, some [(⟨0, fun _ => 0, 0, 0⟩ : Mbuf)] = some ms →
        ms.length = (lateRef.app.cls .tsnHigh).numFramesPerCycle.toUInt16.toNat := by
      intro ms hms
      rw [← Option.some.inj hms]
      rfl
    obtain ⟨-, -, hburst, -, -, -, hlim, -, -⟩ :=
      generate_sender late_setting hi.sender hi.cycles hbelow hone hgen
    refine ⟨w', hrun.tail (Step.generate _ hbelow hone hgen), hlen', hfl', ?_, hlim.trans hlimit⟩
    rcases hburst with hsame | ⟨fs, hfs, -, hnow⟩
    · rw [hsame]
      exact hstamp
    · intro f hf
      rw [hfs] at hf
      rcases List.mem_append.mp hf with hold | hnew
      · exact hstamp f hold
      · exact hnow f hnew

theorem late_no_outlier {α : Type} {x : Except Stop α}
    (h : Outlier lateRef x ∨ Outlier lateMirror x) : False := by
  rcases h with h | h <;> cases h.1

/-- The mirror gets all 1025 frames and sends them on. -/
theorem late_forwards :
    ∃ l : SmallLoop, Run (fun _ _ => True) lateRef lateMirror .tsnHigh lateStart l ∧
      l.returned = [] ∧ l.ref.tx.added.length = 1025 ∧
      (∀ f ∈ l.ref.tx.added, stampOf lateRef.app .tsnHigh f = 10000000) ∧
      l.ref.stat.rttExpectedRtLimit = 2000 ∧
      l.mirror.tx.sent.map (number lateRef.app .tsnHigh) = List.range 1025 := by
  obtain ⟨w, hrun, hlen, hfl, hstamp, hlimit⟩ := late_sends 1025 (by decide)
  have hi := run_inv late_setting rfl hrun
  have hlink : Delivers w.tx.sent [] w.tx.sent (w.tx.sent.map single) := delivers_single (List.Sublist.refl _)
  rcases mirrorRx_spec late_setting hi hlink (fun _ => 0) with hstop | ⟨wM, freed, hrx, -⟩
  · exact (late_no_outlier (Or.inr hstop)).elim
  · have hrun1 := hrun.tail (Step.mirrorRx (fun _ => 0) w.tx.sent _ hlink hrx)
    have hqueue : wM.tx.Conserved ∧ wM.tx.unsent = [] := by
      obtain ⟨t, fs, hb, rfl⟩ := rxFrame_ok hrx
      have hadd (q : TxQueue Unit) (m : Mbuf) (hq : q.Conserved ∧ q.unsent = []) :
          (lportTxBufferAdd takeAll q m).Conserved ∧ (lportTxBufferAdd takeAll q m).unsent = [] :=
        ⟨lportTxBufferAdd_conserved takeAll q m hq.1, lportTxBufferAdd_unsent takeAll_reliable q m hq.2⟩
      exact rxBurst_queue hadd hb ⟨fun _ => rfl, rfl⟩
    obtain ⟨wM', htx⟩ := Network.sendFramesCommon_total
      (lateMirror.app.cls .tsnHigh).numFramesPerCycle (show HasBacklog lateMirror .tsnHigh wM from Or.inl rfl)
    have hrun2 := hrun1.tail (Step.mirrorTx htx)
    have hi2 := run_inv late_setting rfl hrun2
    refine ⟨_, hrun2, rfl, hlen, hstamp, hlimit, ?_⟩
    have hrange := map_of_position fun i f hf => (hi.sender.frames i f hf).2
    rw [hfl.sent] at hrange
    have hsent : wM'.tx.added = wM'.tx.sent := by
      rw [(Network.sendFramesCommon_ok htx).2.2.1]
      have hflush := lportTxBufferFlush_conserved takeAll wM.tx hqueue.1
        (takeAll_reliable wM.tx hqueue.2)
      rw [lportTxBufferFlush_pkts, List.append_nil] at hflush
      exact hflush
    have hnumbers := hi2.numbers late_setting
    change wM'.tx.added.map _ = (w.tx.sent.filter (follows _ w.tx.sent)).map _ at hnumbers
    rw [filter_follows_range hrange, hrange, ← hfl.sent, hlen, hsent] at hnumbers
    exact hnumbers

/-- One frame after the other at the reference: what a frame that passes leaves. -/
theorem late_passes {l : SmallLoop} (hi : Inv lateRef (fun _ => ()) () .tsnHigh l)
    {s : RxState DigestCtx Unit} (hs : s.expectedFrameLength = 40)
    (hlen : (s.world.stat.roundTripContexts .tsnHigh).backlogLen = 1024) {q : Mbuf}
    (hq : q ∈ l.mirror.tx.sent) :
    number lateRef.app .tsnHigh (single q) = number lateRef.app .tsnHigh q ∧
      ∃ s' d, rxOne lateRef (rxHandler lateRef .tsnHigh) s (single q) = .ok (s', d) ∧
        Passes lateRef (fun _ => ()) () .tsnHigh (single q) s s' := by
  have hne : (s.world.stat.roundTripContexts .tsnHigh).backlogLen ≠ 0 := by
    rw [hlen]
    decide
  obtain ⟨-, -, hnum, hone⟩ := late_setting.node.handles hs (Or.inr hne) rfl
    ((hi.answers late_setting).genuine q hq) (m := single q) ⟨rfl, rfl⟩
  rcases hone with hstop | hok
  · exact (late_no_outlier (Or.inl hstop)).elim
  · exact ⟨hnum, hok⟩

/-- Frame 0 is late and clears the entry of frame 1024, which comes back right
behind it, in time, and is measured against time 0. -/
theorem late_sampled {l : SmallLoop} (hi : Inv lateRef (fun _ => ()) () .tsnHigh l) {q0 q : Mbuf}
    (hq0 : q0 ∈ l.mirror.tx.sent) (hq : q ∈ l.mirror.tx.sent)
    (h0 : number lateRef.app .tsnHigh q0 = 0) (h1024 : number lateRef.app .tsnHigh q = 1024) :
    ∃ s0 s1, Handling lateRef (rxHandler lateRef .tsnHigh) ⟨l.ref, 40, fun _ => 0⟩
        [single q0, single q] s0 (single q) s1 ∧
      s0.world.stat.rttExpectedRtLimit = l.ref.stat.rttExpectedRtLimit ∧
      Sampled lateRef.statConfig s0.world.stat s1.world.stat .tsnHigh 10000 := by
  obtain ⟨hnum0, s0, d0, hone0, hp0⟩ := late_passes hi (s := ⟨l.ref, 40, fun _ => 0⟩) rfl
    hi.sender.backlog hq0
  have hlen0 : (s0.world.stat.roundTripContexts .tsnHigh).backlogLen = 1024 :=
    hp0.backlog.trans hi.sender.backlog
  obtain ⟨hnum1, s1, d1, hone1, hp1⟩ := late_passes hi hp0.length hlen0 hq
  refine ⟨s0, s1, .tail hone0 (.head hone1), ?_, ?_⟩
  · obtain ⟨o, tx, -, hstat⟩ := hp0.stat
    rw [hstat, statCall, statFrameReceived_limit]
  · have hback := passes_backlog rfl hp0
    rw [show (l.ref.stat.roundTripContexts .tsnHigh).backlogLen = 1024 from hi.sender.backlog,
      hnum0, h0] at hback
    have hslot : (s0.world.stat.roundTripContexts .tsnHigh).backlog
        (slotOf 1024 (UInt64.ofNat 1024)) = ⟨0, 0⟩ := by
      rw [hback]
      exact Function.update_self _ _ _
    have hsampled := passes_sampled rfl hp1 (by rw [hlen0]; decide)
    rw [hlen0, hnum1, h1024, hslot, late_clock] at hsampled
    exact hsampled

theorem late_frame_missampled : Fails lateRef lateMirror .tsnHigh := by
  obtain ⟨l, hrun, hret, hlen, hstamp, hlimit, hrange⟩ := late_forwards
  refine ⟨by rfl, by change 20 + 16 + 0 ≤ 40; decide, late_setting.burst, l, hrun, fun hl => ?_⟩
  have hi := run_inv late_setting rfl hrun
  have hpair : [0, 1024].Sublist (l.mirror.tx.sent.map (number lateRef.app .tsnHigh)) := by
    rw [hrange, List.range_succ]
    exact List.Sublist.append (List.singleton_sublist.mpr (by simp)) (List.Sublist.refl [1024])
  obtain ⟨taken, hsub, htaken⟩ := List.sublist_map_iff.mp hpair
  obtain ⟨q0, rest, rfl, h0, hrest⟩ := List.map_eq_cons_iff.mp htaken.symm
  obtain ⟨q, rest', rfl, h1024, hnil⟩ := List.map_eq_cons_iff.mp hrest
  obtain rfl := List.map_eq_nil_iff.mp hnil
  have hq0 : q0 ∈ l.mirror.tx.sent := hsub.subset (by simp)
  have hq : q ∈ l.mirror.tx.sent := hsub.subset (by simp)
  obtain ⟨s0, s1, hh, hlimit0, hsampled⟩ := late_sampled hi hq0 hq h0 h1024
  have hlink : Delivers l.mirror.tx.sent l.returned [q0, q] [single q0, single q] := by
    rw [hret]
    exact delivers_single hsub
  obtain ⟨q', hq', harr, hown⟩ := hl.samples (fun _ => 0) _ _ s0 (single q) s1 hlink trivial hh
  have hgen := (hi.answers late_setting).genuine
  have hnum {g : Mbuf} (hg : g ∈ l.mirror.tx.sent) (harr : Arrives g.wire (single q)) :
      number lateRef.app .tsnHigh (single q) = number lateRef.app .tsnHigh g :=
    ((hgen g hg).copy late_setting.checked harr).number late_setting.checked (hgen g hg).length
  have hfound : number lateRef.app .tsnHigh q' = 1024 := by
    rw [← hnum (hsub.subset hq') harr, hnum hq ⟨rfl, rfl⟩, h1024]
  have hin : InTime lateRef .tsnHigh l.ref q' := by
    change l.ref.tx.added.length ≤ number lateRef.app .tsnHigh q' + 1024 * 1
    omega
  obtain ⟨f, hf, hsample⟩ := hown hin
  rw [hstamp f (List.mem_of_getElem? hf), late_clock] at hsample
  have hwrong := hsampled.outliers
  have hright := hsample.outliers
  rw [hlimit0, hlimit] at hwrong hright
  rw [if_pos (by decide)] at hwrong
  rw [if_neg (by decide), hwrong] at hright
  exact absurd hright (by simp)

/-- **Two ways to lose.**  An EtherType the wire cannot carry stops the mirror,
and a frame that comes back late spoils the sample of another. -/
theorem loop_not_always_characterised :
    Fails (Env.small wideApp false) (Env.small wideApp true) .l2 ∧
      Fails lateRef lateMirror .tsnHigh :=
  ⟨wide_etherType_lost, late_frame_missampled⟩

end Rtdk.MirrorLoop
