import Rtdk.Reseal

/-! What a mirror hands to its transmit buffer: `queues_iff` reduces it to the
decoding of the frame and the edits of the class, and the lemmas before it say
which cell of the frame each of the in-place edits puts where. -/

namespace Rtdk.Mirror
open Rtdk.Memory Rtdk.Endian Rtdk.NetDef Rtdk.Security Rtdk.Stat Rtdk.Lport Rtdk.Config Rtdk.Frame
open Rtdk.Thread Rtdk.Receive Rtdk.Handlers Rtdk.Checks Rtdk.Builder Rtdk.Decode Rtdk.Sealing
open Rtdk.Reseal

variable {C D : Type}

/-! ## In-place edits, cell by cell -/

theorem swapMacAddresses_cell (data : Mem UInt8) {len i : Nat} (hlen : 14 ≤ len) (hi : i < 12) :
    swapMacAddresses data len i = if i < 6 then data (i + 6) else data (i - 6) := by
  unfold swapMacAddresses
  rw [if_neg (by simp only [sizeofEthhdr]; omega)]
  simp only [ethAlen]
  by_cases h6 : i < 6
  · rw [if_pos h6]
    have h := write_inside (write data 6 (slice data 0 6)) 0 (slice data 6 6) i (by simpa using h6)
    rw [Nat.zero_add, slice_getElem, Nat.add_comm 6 i] at h
    exact h
  · rw [if_neg h6, write_above _ _ _ _ (by rw [slice_length]; omega)]
    obtain ⟨j, rfl⟩ : ∃ j, i = 6 + j := ⟨i - 6, by omega⟩
    rw [write_inside _ _ _ j (by rw [slice_length]; omega), slice_getElem]
    congr 1
    omega

/-- Two frames that agree on the addresses agree on them after the swap too. -/
theorem swapMacAddresses_congr {data data' : Mem UInt8} {len len' i : Nat} (hlen : 14 ≤ len)
    (hlen' : 14 ≤ len') (hi : i < 12) (h : ∀ j, j < 12 → data j = data' j) :
    swapMacAddresses data len i = swapMacAddresses data' len' i := by
  rw [swapMacAddresses_cell data hlen hi, swapMacAddresses_cell data' hlen' hi]
  split
  · exact h _ (by omega)
  · exact h _ (by omega)

/-- The tag goes behind the addresses and moves the rest up by four bytes, with
the PROFINET EtherType in front. -/
theorem insertVlanTag_cell (data : Mem UInt8) {len : Nat} (tci : UInt16)
    (hfits : len + 4 ≤ maxFrameSize) (i : Nat) :
    (i < 12 → insertVlanTag data len tci i = data i) ∧
      (12 ≤ i → i < 16 → insertVlanTag data len tci i =
        write (write data 12 (be16 ethP8021Q)) 14 (be16 tci) i) ∧
      (16 ≤ i → i < 18 → insertVlanTag data len tci i =
        write data 16 (be16 ethPProfinetRt) i) ∧
      (18 ≤ i → i < len + 4 → insertVlanTag data len tci i = data (i - 4)) := by
  unfold insertVlanTag
  rw [if_neg (by simp only [sizeofVlanHeader]; omega)]
  refine ⟨fun h => ?_, fun h h' => ?_, fun h h' => ?_, fun h h' => ?_⟩
  · rw [write_below _ _ _ _ (by omega), write_below _ _ _ _ (by omega),
      write_below _ _ _ _ (by omega), write_below _ _ _ _ (by omega)]
  · refine write_shift 14 _ (k := 0) (write_shift 12 _ (k := 0) ?_)
    rw [write_below _ _ _ _ h', write_below _ _ _ _ h']
    rfl
  · rw [write_above _ _ _ _ (by rw [be16_length]; omega),
      write_above _ _ _ _ (by rw [be16_length]; omega)]
    obtain ⟨j, rfl⟩ : ∃ j, i = 16 + j := ⟨i - 16, by omega⟩
    rw [write_inside _ _ _ j (by rw [be16_length]; omega),
      write_inside _ _ _ j (by rw [be16_length]; omega)]
  · rw [write_above _ _ _ _ (by rw [be16_length]; omega),
      write_above _ _ _ _ (by rw [be16_length]; omega),
      write_above _ _ _ _ (by rw [be16_length]; omega)]
    obtain ⟨j, rfl⟩ : ∃ j, i = 16 + j := ⟨i - 16, by omega⟩
    rw [write_inside _ _ _ j (by rw [slice_length]; omega), slice_getElem]
    congr 1
    omega

/-! ## The frame after decoding -/

/-- The frame with a new time stamp, if there is one. -/
def restamp (stamp : Option UInt64) (data : Mem UInt8) (off : Nat) : Mem UInt8 :=
  match stamp with
  | some t => txTimestampToMetaData data off t
  | none => data

theorem restamp_outside (stamp : Option UInt64) (data : Mem UInt8) {off i : Nat}
    (h : i < off + 8 ∨ off + 16 ≤ i) : restamp stamp data off i = data i := by
  cases stamp with
  | none => rfl
  | some t => exact write_outside _ _ _ _ (by rw [be64_length]; omega)

theorem restamp_shift (stamp : Option UInt64) {data data' : Mem UInt8} (off : Nat) {i : Nat}
    (h : data i = data' (i + 4)) :
    restamp stamp data off i = restamp stamp data' (off + 4) (i + 4) := by
  cases stamp with
  | none => exact h
  | some t =>
    simp only [restamp, txTimestampToMetaData]
    rw [Nat.add_right_comm off 4 8]
    exact write_shift (off + 8) (be64 t) h

/-- Without security, decoding changes nothing but the time stamp. -/
theorem plain_mbuf (env : Env C D) (ty : FrameType) (hm : env.app.mode ty = .none) {w : World C D}
    {p : Mem UInt8} {m : Mbuf} {lay : Layout} {r : Received C D}
    (h : (rxHandler env ty).decode w p m lay = .ok r) :
    r.mbuf = { m with
      data := restamp (decodeStamp env ty w) m.data (metaAt env.app ty lay.off) } := by
  rw [decode_plain env ty hm] at h
  cases h
  rfl

/-! ## The queued frame -/

/-- Handling a frame that passed the checks in a mirror: nothing is wrong with
it, and `q` is what the edits of the class make of it. -/
def Forwards (env : Env C D) (ty : FrameType) (w : World C D) (p : Mem UInt8) (m : Mbuf)
    (lay : Layout) (q : Mbuf) : Prop :=
  ∃ r w1, (rxHandler env ty).decode w p m lay = .ok r ∧
    (rxHandler env ty).account env r ((rxHandler env ty).verdict r) = .ok w1 ∧
    env.mirrorMode = true ∧ (rxHandler env ty).verdict r = ⟨false, false, false⟩ ∧
    q = ((rxHandler env ty).forward (w1.setRx (w1.thread.rxSequenceCounter + 1)) r.mbuf lay).2

/-- A frame that passed the checks leaves the transmit buffer alone or is added to it. -/
theorem accept_tx {env : Env C D} {ty : FrameType} {w : World C D} {p : Mem UInt8} {m : Mbuf}
    {lay : Layout} {out : Handled C D}
    (h : (rxHandler env ty).accept env w p m lay = .ok out) :
    out.world.tx = w.tx ∨
      ∃ q, out.world.tx = lportTxBufferAdd env.dev w.tx q ∧ Forwards env ty w p m lay q := by
  obtain ⟨r, w1, hdec, hacc, hcon, -⟩ := accept_ok h
  have htx := account_tx hdec hacc
  rcases conclude_fate env ty hcon with ⟨-, x, l, hw⟩ | ⟨-, hmirror, hv, hw⟩
  · left
    rw [hw, World.say_tx, World.setRx_tx, htx]
  · right
    have hfw := forward_world env ty (w1.setRx (w1.thread.rxSequenceCounter + 1)) r.mbuf lay
    refine ⟨_, ?_, r, w1, hdec, hacc, hmirror, hv, rfl⟩
    rw [hw, World.enqueue, hfw.2.2.1, World.setRx_tx, htx]

theorem accept_queued {env : Env C D} {ty : FrameType} {w : World C D} {p : Mem UInt8} {m : Mbuf}
    {lay : Layout} {out : Handled C D}
    (h : (rxHandler env ty).accept env w p m lay = .ok out) :
    out.world.tx.added = w.tx.added ∨
      ∃ q, out.world.tx.added = w.tx.added ++ [q] ∧ Forwards env ty w p m lay q := by
  rcases accept_tx h with hsame | ⟨q, hq, hf⟩
  · exact Or.inl (congrArg TxQueue.added hsame)
  · exact Or.inr ⟨q, by rw [hq, lportTxBufferAdd_added], hf⟩

/-- Handling the frame returns and hands `q`, and nothing else, to the transmit buffer. -/
def Queues (env : Env C D) (ty : FrameType) (stack : Mem UInt8) (w : World C D) (m q : Mbuf) :
    Prop :=
  ∃ w' freed, rxFrame env ty stack w [m] = .ok (w', freed) ∧ w'.tx.added = w.tx.added ++ [q]

/-- **Queued frames.**  A mirror queues a frame that passed the checks exactly
if decoding it, accounting for it and judging it finds nothing wrong. -/
theorem queues_iff (env : Env C D) (ty : FrameType) (stack : Mem UInt8) (w : World C D) {m : Mbuf}
    {lay : Layout} {expected : UInt64}
    (hcheck : (rxHandler env ty).check (env.app.cls ty).frameLength m = (expected, .ok lay))
    (q : Mbuf) : Queues env ty stack w m q ↔ Forwards env ty w stack m lay q := by
  rw [Queues, rxFrame_single env ty stack w hcheck]
  constructor
  · rintro ⟨w', freed, hrx, hadded⟩
    cases hacc : (rxHandler env ty).accept env w stack m lay with
    | error e =>
      rw [hacc] at hrx
      cases hrx
    | ok out =>
      rw [hacc] at hrx
      obtain ⟨rfl, rfl⟩ := Prod.mk.inj (Except.ok.inj hrx)
      rcases accept_queued hacc with hsame | ⟨q', hadded', hq'⟩
      · rw [hsame] at hadded
        simp at hadded
      · obtain rfl : q' = q := by simpa [hadded'] using hadded
        exact hq'
  · rintro ⟨r, w1, hdec, hacc, hmirror, hv, rfl⟩
    have htx := account_tx hdec hacc
    have hfw := forward_world env ty (w1.setRx (w1.thread.rxSequenceCounter + 1)) r.mbuf lay
    rw [hv] at hacc
    simp only [RxHandler.accept, hdec, bind, Except.bind, hv, hacc, RxHandler.conclude, hmirror,
      Bool.not_true, Bool.false_eq_true, if_false]
    refine ⟨_, _, rfl, ?_⟩
    rw [World.enqueue_added, hfw.2.2.1, World.setRx_tx, htx]

/-! ## Bursts -/

/-- The new entries of the transmit buffer's history match a part of the burst, in order. -/
def Matches (R : Mbuf → Mbuf → Prop) (w w' : World C D) (ms : List Mbuf) : Prop :=
  ∃ ms' qs, ms'.Sublist ms ∧ w'.tx.added = w.tx.added ++ qs ∧ List.Forall₂ R ms' qs

/-- The rule for bursts: `P` is kept from frame to frame, and a frame handled
under `P` adds nothing or something related to it by `R`. -/
theorem rxBurst_matches {env : Env C D} {h : RxHandler C D} {P : World C D → Prop}
    {R : Mbuf → Mbuf → Prop}
    (hstep : ∀ {s s' : RxState C D} {m : Mbuf} {d : Option Mbuf}, P s.world →
      rxOne env h s m = .ok (s', d) → P s'.world ∧ (s'.world.tx.added = s.world.tx.added ∨
        ∃ q, s'.world.tx.added = s.world.tx.added ++ [q] ∧ R m q))
    {ms fs : List Mbuf} {s t : RxState C D} (hs : P s.world)
    (hb : rxBurst env h s ms = .ok (t, fs)) : P t.world ∧ Matches R s.world t.world ms := by
  induction ms generalizing s fs with
  | nil =>
    cases hb
    exact ⟨hs, [], [], List.Sublist.slnil, (List.append_nil _).symm, List.Forall₂.nil⟩
  | cons m ms ih =>
    obtain ⟨s1, d, gs, hone, hrest, -⟩ := rxBurst_cons_ok hb
    obtain ⟨hs1, hm⟩ := hstep hs hone
    obtain ⟨ht, ms', qs, hsub, hadded, hall⟩ := ih hs1 hrest
    refine ⟨ht, ?_⟩
    rcases hm with hsame | ⟨q, hq, hR⟩
    · exact ⟨ms', qs, hsub.cons m, by rw [hadded, hsame], hall⟩
    · exact ⟨m :: ms', q :: qs, hsub.cons_cons m, by rw [hadded, hq]; simp, List.Forall₂.cons hR hall⟩

end Rtdk.Mirror
