import Rtdk.Igc

/-! Launch times over the Qbv cycles of the igc driver.

A queue keeps two times from its history, and both may move back. `Recorded`
says what they still tell about all earlier calls; `launchtime_run` reads off
what each call of a run does. -/

namespace Rtdk.Qbv
open Rtdk.Igc Rtdk.Grid

variable {n : Nat}

/-- A call of `igc_tx_launchtime`: the registers it reads and its argument. -/
structure LaunchCall where
  systim : Systim
  txtime : UInt64
  deriving DecidableEq, Repr

namespace LaunchCall

def now (c : LaunchCall) : Nat := c.systim.systime.toNat

/-- The end of the cycle in which the call is made. -/
def cycleEnd (ad : IgcAdapter) (c : LaunchCall) : Nat :=
  boundary ad.baseTime.toNat ad.cycleTime.toNat c.now

/-- The transmit time is to come, and not beyond the end of the next cycle. -/
def InWindow (ad : IgcAdapter) (c : LaunchCall) : Prop :=
  c.now < c.txtime.toNat ∧ c.txtime.toNat < c.cycleEnd ad + ad.cycleTime.toNat

/-- The transmit time is in the next cycle. -/
def InNext (ad : IgcAdapter) (c : LaunchCall) : Prop :=
  c.cycleEnd ad ≤ c.txtime.toNat ∧ c.txtime.toNat < c.cycleEnd ad + ad.cycleTime.toNat

/-- The packet of the call is for the cycle that ends at `e`: sent at once in it,
or scheduled for a time in it. -/
def Placed (ad : IgcAdapter) (c : LaunchCall) (e : Nat) : Prop :=
  (¬c.InWindow ad ∧ c.cycleEnd ad = e) ∨
    (c.InWindow ad ∧ c.txtime.toNat < e ∧ e ≤ c.txtime.toNat + ad.cycleTime.toNat)

end LaunchCall

/-- The queue after a list of calls. -/
def launchRun (ad : IgcAdapter) (q : IgcTxQueue n) (cs : List LaunchCall) : IgcTxQueue n :=
  cs.foldl (fun q c => (igcTxLaunchtime ad q c.systim c.txtime).queue) q

/-- Calls on a running clock, with times that fit into 64 bits. -/
structure Proper (ad : IgcAdapter) (cs : List LaunchCall) : Prop where
  cyclePos : 0 < ad.cycleTime.toNat
  cycleLt : ad.cycleTime.toNat < 2 ^ 32
  begun : ∀ c ∈ cs, ad.baseTime.toNat ≤ c.now
  ordered : cs.Pairwise fun c c' => c.now ≤ c'.now
  fits : ∀ c ∈ cs, c.cycleEnd ad + ad.cycleTime.toNat < 2 ^ 64

/-! ## One call -/

section call
variable {ad : IgcAdapter} {c : LaunchCall}

theorem currentCycleEnd_toNat (hpos : 0 < ad.cycleTime.toNat) (hbase : ad.baseTime.toNat ≤ c.now)
    (hfits : c.cycleEnd ad + ad.cycleTime.toNat < 2 ^ 64) :
    (currentCycleEnd ad c.systim.systime).toNat = c.cycleEnd ad := by
  have hsub : (c.systim.systime - ad.baseTime).toNat = c.now - ad.baseTime.toNat :=
    UInt64.toNat_sub_of_le _ _ hbase
  have hend : c.cycleEnd ad = ad.baseTime.toNat +
      ((c.now - ad.baseTime.toNat) / ad.cycleTime.toNat + 1) * ad.cycleTime.toNat := rfl
  have hle : (c.now - ad.baseTime.toNat) / ad.cycleTime.toNat + 1 ≤
      ((c.now - ad.baseTime.toNat) / ad.cycleTime.toNat + 1) * ad.cycleTime.toNat :=
    Nat.le_mul_of_pos_right _ hpos
  rw [currentCycleEnd, UInt64.toNat_add, UInt64.toNat_mul, UInt64.toNat_add, UInt64.toNat_div,
    hsub, UInt64.toNat_one]
  rw [Nat.mod_eq_of_lt (by omega : (c.now - ad.baseTime.toNat) / ad.cycleTime.toNat + 1 < 2 ^ 64)]
  rw [Nat.mod_eq_of_lt (a := _ * _) (by omega), Nat.mod_eq_of_lt (by omega), hend, Nat.add_comm]

/-- What a call does, in numbers. -/
def Effect (ad : IgcAdapter) (q : IgcTxQueue n) (now e : Nat) (t : UInt64) (l : Launch n) : Prop :=
  (¬(now < t.toNat ∧ t.toNat < e + ad.cycleTime.toNat) ∧ l.launchtime = 0 ∧
    l.needFrstFlag = false ∧ l.queue.lastFrstFlag = q.lastFrstFlag ∧
    l.queue.lastPacketCycle.toNat = e) ∨
  ((now < t.toNat ∧ t.toNat < e + ad.cycleTime.toNat) ∧ t.toNat < e ∧
    l.launchtime = ((t - ad.baseTime) % ad.cycleTime).toUInt32 ∧ l.needFrstFlag = false ∧
    l.queue.lastFrstFlag = q.lastFrstFlag ∧ l.queue.lastPacketCycle.toNat = e) ∨
  ((now < t.toNat ∧ t.toNat < e + ad.cycleTime.toNat) ∧ e ≤ t.toNat ∧
    l.launchtime = ((t - ad.baseTime) % ad.cycleTime).toUInt32 ∧
    l.queue.lastFrstFlag.toNat = e ∧ l.queue.lastPacketCycle.toNat = e + ad.cycleTime.toNat ∧
    ((q.lastFrstFlag.toNat = e ∧ l.needFrstFlag = false) ∨
      (q.lastFrstFlag.toNat ≠ e ∧ l.needFrstFlag = true ∧
        (l.needDummyPkt = true ↔ q.lastPacketCycle.toNat < e))))

theorem launchAt_effect (ad : IgcAdapter) (q : IgcTxQueue n) (sys e t : UInt64)
    (hnext : (e + ad.cycleTime).toNat = e.toNat + ad.cycleTime.toNat) :
    Effect ad q sys.toNat e.toNat t (launchAt ad q sys e t) := by
  unfold Effect
  rw [← hnext]
  simp only [← UInt64.lt_iff_toNat_lt, ← UInt64.le_iff_toNat_le, UInt64.toNat_inj]
  obtain ⟨hout, heq⟩ | ⟨⟨hsys, hcur, hhor⟩, heq⟩ | ⟨⟨hsys, hle, hhor⟩, hfrst, heq⟩ |
    ⟨⟨hsys, hle, hhor⟩, hfrst, heq⟩ := launchAt_cases ad q sys e t
  · refine Or.inl ⟨?_, ?_⟩
    · rintro ⟨hsys, hhor⟩
      rcases hout with hpast | hfar
      · exact UInt64.not_le.mpr hsys hpast
      · exact UInt64.not_le.mpr hhor hfar
    · rw [heq]
      exact ⟨rfl, rfl, rfl, rfl⟩
  · refine Or.inr (Or.inl ⟨⟨hsys, hhor⟩, hcur, ?_⟩)
    rw [heq]
    exact ⟨rfl, rfl, rfl, rfl⟩
  · refine Or.inr (Or.inr ⟨⟨hsys, hhor⟩, hle, ?_⟩)
    rw [heq]
    exact ⟨rfl, hfrst, rfl, Or.inl ⟨hfrst, rfl⟩⟩
  · refine Or.inr (Or.inr ⟨⟨hsys, hhor⟩, hle, ?_⟩)
    rw [heq]
    exact ⟨rfl, rfl, rfl, Or.inr ⟨fun h => hfrst (UInt64.toNat_inj.mp h), rfl, decide_eq_true_iff⟩⟩

theorem call_effect (q : IgcTxQueue n) (hpos : 0 < ad.cycleTime.toNat)
    (hbase : ad.baseTime.toNat ≤ c.now) (hfits : c.cycleEnd ad + ad.cycleTime.toNat < 2 ^ 64) :
    Effect ad q c.now (c.cycleEnd ad) c.txtime (igcTxLaunchtime ad q c.systim c.txtime) := by
  have hend := currentCycleEnd_toNat hpos hbase hfits
  have hnext : (currentCycleEnd ad c.systim.systime + ad.cycleTime).toNat =
      (currentCycleEnd ad c.systim.systime).toNat + ad.cycleTime.toNat := by
    rw [UInt64.toNat_add, hend, Nat.mod_eq_of_lt hfits]
  have heffect := launchAt_effect ad q c.systim.systime _ c.txtime hnext
  rwa [hend] at heffect

/-- The offset of a transmit time in the window leads back to it. -/
theorem offset_spec (hpos : 0 < ad.cycleTime.toNat) (hlt : ad.cycleTime.toNat < 2 ^ 32)
    (hbase : ad.baseTime.toNat ≤ c.now) (hwin : c.InWindow ad) :
    ∃ k, (k = elapsed ad.baseTime.toNat ad.cycleTime.toNat c.now ∨
        k = elapsed ad.baseTime.toNat ad.cycleTime.toNat c.now + 1) ∧
      ad.baseTime.toNat + k * ad.cycleTime.toNat +
        ((c.txtime - ad.baseTime) % ad.cycleTime).toUInt32.toNat = c.txtime.toNat := by
  obtain ⟨hnow, hhor⟩ := hwin
  have hle : ad.baseTime.toNat ≤ c.txtime.toNat := by omega
  have hmod : ((c.txtime - ad.baseTime) % ad.cycleTime).toUInt32.toNat =
      (c.txtime.toNat - ad.baseTime.toNat) % ad.cycleTime.toNat := by
    rw [UInt64.toNat_toUInt32, UInt64.toNat_mod, UInt64.toNat_sub_of_le _ _ hle]
    exact Nat.mod_eq_of_lt ((Nat.mod_lt _ hpos).trans hlt)
  refine ⟨elapsed ad.baseTime.toNat ad.cycleTime.toNat c.txtime.toNat, ?_, ?_⟩
  · have hlow := point_elapsed_le (c := ad.cycleTime.toNat) hbase
    rcases Nat.lt_or_ge c.txtime.toNat (c.cycleEnd ad) with hcur | hnext
    · left
      rw [LaunchCall.cycleEnd, boundary_eq] at hcur
      exact elapsed_of_between (by omega) hcur
    · right
      exact elapsed_of_between hnext hhor
  · rw [hmod]
    exact point_elapsed_add_mod hle

end call

/-! ## A run -/

/-- What the two times of a queue tell about the calls made so far. -/
structure Recorded (ad : IgcAdapter) (cs : List LaunchCall) (q : IgcTxQueue n) : Prop where
  frstLatest : ∀ x ∈ cs, x.InNext ad → x.cycleEnd ad ≤ q.lastFrstFlag.toNat
  frstFrom : q.lastFrstFlag.toNat = 0 ∨ ∃ x ∈ cs, x.InNext ad ∧
    x.cycleEnd ad = q.lastFrstFlag.toNat
  packetFrom : q.lastPacketCycle.toNat = 0 ∨ ∃ x ∈ cs, x.Placed ad q.lastPacketCycle.toNat ∧
    (q.lastPacketCycle.toNat = x.cycleEnd ad ∨
      (x.InNext ad ∧ q.lastPacketCycle.toNat = x.cycleEnd ad + ad.cycleTime.toNat))

section run
variable {ad : IgcAdapter} {cs ds : List LaunchCall} {c x : LaunchCall} {q : IgcTxQueue n}

theorem Proper.prior (h : Proper ad (cs ++ ds)) : Proper ad cs where
  cyclePos := h.cyclePos
  cycleLt := h.cycleLt
  begun x hx := h.begun x (List.mem_append_left _ hx)
  ordered := (List.pairwise_append.mp h.ordered).1
  fits x hx := h.fits x (List.mem_append_left _ hx)

/-- An earlier call was made in the same cycle or in one before. -/
theorem Proper.cycleEnd_le (h : Proper ad (cs ++ [c])) (hx : x ∈ cs) :
    x.cycleEnd ad ≤ c.cycleEnd ad := by
  have hnow := (List.pairwise_append.mp h.ordered).2.2 x hx c List.mem_cons_self
  exact boundary_mono _ _ hnow

theorem Proper.effect (h : Proper ad (cs ++ [c])) (q : IgcTxQueue n) :
    Effect ad q c.now (c.cycleEnd ad) c.txtime (igcTxLaunchtime ad q c.systim c.txtime) :=
  call_effect q h.cyclePos (h.begun c (by simp)) (h.fits c (by simp))

theorem Proper.now_lt (h : Proper ad (cs ++ [c])) : c.now < c.cycleEnd ad :=
  lt_boundary h.cyclePos (h.begun c (by simp))

theorem Recorded.frst_le (hrec : Recorded ad cs q) (h : Proper ad (cs ++ [c])) :
    q.lastFrstFlag.toNat ≤ c.cycleEnd ad := by
  rcases hrec.frstFrom with hzero | ⟨x, hx, -, hend⟩
  · omega
  · rw [← hend]
    exact h.cycleEnd_le hx

/-- One more call keeps the record. -/
theorem Recorded.call (hrec : Recorded ad cs q) (h : Proper ad (cs ++ [c])) :
    Recorded ad (cs ++ [c]) (igcTxLaunchtime ad q c.systim c.txtime).queue := by
  have hnow := h.now_lt
  have hmem : c ∈ cs ++ [c] := by simp
  have heffect := h.effect q
  generalize igcTxLaunchtime ad q c.systim c.txtime = l at heffect
  have hkeep (hflag : l.queue.lastFrstFlag = q.lastFrstFlag) (hnot : ¬c.InNext ad) :
      (∀ x ∈ cs ++ [c], x.InNext ad → x.cycleEnd ad ≤ l.queue.lastFrstFlag.toNat) ∧
      (l.queue.lastFrstFlag.toNat = 0 ∨
        ∃ x ∈ cs ++ [c], x.InNext ad ∧ x.cycleEnd ad = l.queue.lastFrstFlag.toNat) := by
    rw [hflag]
    constructor
    · intro x hx hin
      rcases List.mem_append.mp hx with hx | hx
      · exact hrec.frstLatest x hx hin
      · rw [List.mem_singleton.mp hx] at hin
        exact absurd hin hnot
    · rcases hrec.frstFrom with hzero | ⟨x, hx, hin, hend⟩
      · exact Or.inl hzero
      · exact Or.inr ⟨x, List.mem_append_left _ hx, hin, hend⟩
  obtain ⟨hout, -, -, hflag, hcycle⟩ | ⟨hwin, hcur, -, -, hflag, hcycle⟩ |
    ⟨hwin, hle, -, hflag, hcycle, -⟩ := heffect
  · obtain ⟨hlatest, hfrom⟩ := hkeep hflag fun hin => hout ⟨by have := hin.1; omega, hin.2⟩
    exact ⟨hlatest, hfrom, Or.inr ⟨c, hmem, Or.inl ⟨hout, hcycle.symm⟩, Or.inl hcycle⟩⟩
  · obtain ⟨hlatest, hfrom⟩ := hkeep hflag fun hin => by have := hin.1; omega
    refine ⟨hlatest, hfrom, Or.inr ⟨c, hmem, Or.inr ⟨hwin, ?_, ?_⟩, Or.inl hcycle⟩⟩
    · omega
    · have hbound : c.cycleEnd ad ≤ c.now + ad.cycleTime.toNat := by
        have hlow := point_elapsed_le (c := ad.cycleTime.toNat) (h.begun c hmem)
        rw [LaunchCall.cycleEnd, boundary_eq]
        omega
      have := hwin.1
      omega
  · have hin : c.InNext ad := ⟨hle, hwin.2⟩
    have := hwin.2
    refine ⟨?_, Or.inr ⟨c, hmem, hin, hflag.symm⟩,
      Or.inr ⟨c, hmem, Or.inr ⟨hwin, by omega, by omega⟩, Or.inr ⟨hin, hcycle⟩⟩⟩
    intro x hx _
    rw [hflag]
    rcases List.mem_append.mp hx with hx | hx
    · exact h.cycleEnd_le hx
    · rw [List.mem_singleton.mp hx]

/-- The record over a whole run, from the zeros of a new queue. -/
theorem recorded_launchRun (hfrst : q.lastFrstFlag = 0) (hcycle : q.lastPacketCycle = 0)
    (h : Proper ad cs) : Recorded ad cs (launchRun ad q cs) := by
  induction cs using List.reverseRecOn with
  | nil =>
    refine ⟨?_, Or.inl (by rw [launchRun, List.foldl_nil, hfrst]; rfl),
      Or.inl (by rw [launchRun, List.foldl_nil, hcycle]; rfl)⟩
    intro x hx
    exact absurd hx List.not_mem_nil
  | append_singleton cs c ih =>
    have hcall := (ih h.prior).call h
    rwa [launchRun, List.foldl_append, List.foldl_cons, List.foldl_nil]

/-- The first packet for the next cycle gets the flag, and no other does. -/
theorem needFrstFlag_iff (hrec : Recorded ad cs q) (h : Proper ad (cs ++ [c])) :
    (igcTxLaunchtime ad q c.systim c.txtime).needFrstFlag = true ↔
      c.InNext ad ∧ ∀ x ∈ cs, x.cycleEnd ad = c.cycleEnd ad → ¬x.InNext ad := by
  have hnow := h.now_lt
  have heffect := h.effect q
  generalize igcTxLaunchtime ad q c.systim c.txtime = l at heffect ⊢
  have hmarked : q.lastFrstFlag.toNat = c.cycleEnd ad ↔
      ∃ x ∈ cs, x.cycleEnd ad = c.cycleEnd ad ∧ x.InNext ad := by
    constructor
    · intro hflag
      rcases hrec.frstFrom with hzero | ⟨x, hx, hin, hend⟩
      · omega
      · exact ⟨x, hx, hend.trans hflag, hin⟩
    · rintro ⟨x, hx, hend, hin⟩
      have hle := hrec.frstLatest x hx hin
      have hge := hrec.frst_le h
      omega
  have hfirst : (∀ x ∈ cs, x.cycleEnd ad = c.cycleEnd ad → ¬x.InNext ad) ↔
      q.lastFrstFlag.toNat ≠ c.cycleEnd ad := by
    rw [Ne, hmarked]
    push Not
    rfl
  rw [hfirst]
  obtain ⟨hout, -, hno, -⟩ | ⟨-, hcur, -, hno, -⟩ | ⟨hwin, hle, -, -, -, hflag⟩ := heffect
  · rw [hno]
    refine ⟨fun hyes => absurd hyes (by decide), fun hyes => ?_⟩
    exact absurd ⟨by have := hyes.1.1; omega, hyes.1.2⟩ hout
  · rw [hno]
    refine ⟨fun hyes => absurd hyes (by decide), fun hyes => ?_⟩
    have := hyes.1.1
    omega
  · rcases hflag with ⟨heq, hno⟩ | ⟨hne, hyes, -⟩
    · rw [hno]
      exact ⟨fun hyes => absurd hyes (by decide), fun hyes => absurd heq hyes.2⟩
    · exact ⟨fun _ => ⟨⟨hle, hwin.2⟩, hne⟩, fun _ => hyes⟩

/-- Without a dummy packet, an earlier packet is in the current cycle. -/
theorem placed_of_no_dummy (hrec : Recorded ad cs q) (h : Proper ad (cs ++ [c]))
    (hfrst : (igcTxLaunchtime ad q c.systim c.txtime).needFrstFlag = true)
    (hdummy : (igcTxLaunchtime ad q c.systim c.txtime).needDummyPkt = false) :
    ∃ x ∈ cs, x.Placed ad (c.cycleEnd ad) := by
  have hnow := h.now_lt
  have hothers := ((needFrstFlag_iff hrec h).mp hfrst).2
  have heffect := h.effect q
  generalize igcTxLaunchtime ad q c.systim c.txtime = l at heffect hfrst hdummy
  have hpacket : c.cycleEnd ad ≤ q.lastPacketCycle.toNat := by
    obtain ⟨-, -, hno, -⟩ | ⟨-, -, -, hno, -⟩ | ⟨-, -, -, -, -, hflag⟩ := heffect
    · exact absurd hfrst (by simp [hno])
    · exact absurd hfrst (by simp [hno])
    · rcases hflag with ⟨-, hno⟩ | ⟨-, -, hiff⟩
      · exact absurd hfrst (by simp [hno])
      · by_contra hlt
        rw [hiff.mpr (Nat.lt_of_not_le hlt)] at hdummy
        exact absurd hdummy (by decide)
  rcases hrec.packetFrom with hzero | ⟨x, hx, hplaced, hsame | ⟨hin, hnext⟩⟩
  · omega
  · have hle := h.cycleEnd_le hx
    have hend : q.lastPacketCycle.toNat = c.cycleEnd ad := by omega
    exact ⟨x, hx, hend ▸ hplaced⟩
  · have hlt : x.cycleEnd ad < c.cycleEnd ad :=
      Nat.lt_of_le_of_ne (h.cycleEnd_le hx) fun heq => hothers x hx heq hin
    have hstep : x.cycleEnd ad + ad.cycleTime.toNat ≤ c.cycleEnd ad := boundary_add_le hlt
    have hend : q.lastPacketCycle.toNat = c.cycleEnd ad := by omega
    exact ⟨x, hx, hend ▸ hplaced⟩

/-- Every call of a run: the launch time leads to the transmit time or is 0, the
flag goes to the first packet for the next cycle and to no second one, and it
goes without a dummy packet only after a packet in the current cycle. -/
theorem launchtime_run (ad : IgcAdapter) (q : IgcTxQueue n) (hfrst : q.lastFrstFlag = 0)
    (hcycle : q.lastPacketCycle = 0) (cs : List LaunchCall) (c : LaunchCall)
    (h : Proper ad (cs ++ [c])) :
    let launch (cs : List LaunchCall) (c : LaunchCall) :=
      igcTxLaunchtime ad (launchRun ad q cs) c.systim c.txtime
    (c.InWindow ad → ∃ k, (k = elapsed ad.baseTime.toNat ad.cycleTime.toNat c.now ∨
        k = elapsed ad.baseTime.toNat ad.cycleTime.toNat c.now + 1) ∧
      ad.baseTime.toNat + k * ad.cycleTime.toNat + (launch cs c).launchtime.toNat =
        c.txtime.toNat) ∧
    (¬c.InWindow ad → (launch cs c).launchtime = 0) ∧
    ((launch cs c).needFrstFlag = true ↔
      c.InNext ad ∧ ∀ x ∈ cs, x.cycleEnd ad = c.cycleEnd ad → ¬x.InNext ad) ∧
    (∀ early x late, cs = early ++ x :: late → (launch early x).needFrstFlag = true →
      (launch cs c).needFrstFlag = true → x.cycleEnd ad ≠ c.cycleEnd ad) ∧
    ((launch cs c).needFrstFlag = true → (launch cs c).needDummyPkt = false →
      ∃ x ∈ cs, x.Placed ad (c.cycleEnd ad)) := by
  intro launch
  have hrec := recorded_launchRun hfrst hcycle h.prior
  have hiff := needFrstFlag_iff hrec h
  have heffect := h.effect (launchRun ad q cs)
  refine ⟨?_, ?_, hiff, ?_, placed_of_no_dummy hrec h⟩
  · intro hwin
    obtain ⟨k, hk, hoffset⟩ := offset_spec h.cyclePos h.cycleLt (h.begun c (by simp)) hwin
    refine ⟨k, hk, ?_⟩
    rw [← hoffset]
    obtain ⟨hout, -⟩ | ⟨-, -, hlt, -⟩ | ⟨-, -, hlt, -⟩ := heffect
    · exact absurd hwin hout
    · exact congrArg (fun t : UInt32 => _ + t.toNat) hlt
    · exact congrArg (fun t : UInt32 => _ + t.toNat) hlt
  · intro hout
    obtain ⟨-, hzero, -⟩ | ⟨hwin, -⟩ | ⟨hwin, -⟩ := heffect
    · exact hzero
    · exact absurd hwin hout
    · exact absurd hwin hout
  · intro early x late hcs hx hc hsame
    have hproper : Proper ad (early ++ [x]) := by
      have hprior := h.prior
      rw [hcs, List.append_cons] at hprior
      exact hprior.prior
    have hin := ((needFrstFlag_iff (recorded_launchRun hfrst hcycle hproper.prior) hproper).mp hx).1
    exact (hiff.mp hc).2 x (by simp [hcs]) hsame hin

end run

/-- A packet for the current cycle and then one for the next: the second gets
the flag and needs no dummy packet. -/
theorem launchtime_run_two :
    ∃ x ∈ [LaunchCall.mk ⟨500, 0⟩ 600],
      x.Placed ⟨0, 1000⟩ ((LaunchCall.mk ⟨700, 0⟩ 1500).cycleEnd ⟨0, 1000⟩) := by
  have hproper : Proper ⟨0, 1000⟩ ([LaunchCall.mk ⟨500, 0⟩ 600] ++ [LaunchCall.mk ⟨700, 0⟩ 1500]) :=
    ⟨by decide, by decide, by decide +kernel, by decide +kernel, by decide +kernel⟩
  obtain ⟨-, -, -, -, hplaced⟩ := launchtime_run ⟨0, 1000⟩ emptyRing rfl rfl _ _ hproper
  exact hplaced (by decide +kernel) (by decide +kernel)

end Rtdk.Qbv
