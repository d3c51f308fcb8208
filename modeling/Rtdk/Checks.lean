import Rtdk.Handlers

/-! What the type and length checks of the VLAN classes do, in one form for all
five handlers (`check_vlan`): an untagged frame lowers the expected length by
four, frames of another type are refused whatever is expected, and what is left
is compared with the expected length. -/

namespace Rtdk.Checks
open Rtdk.Memory Rtdk.Endian Rtdk.NetDef Rtdk.Security Rtdk.Stat Rtdk.Lport Rtdk.Config Rtdk.Frame
open Rtdk.Thread Rtdk.Receive Rtdk.Handlers

variable {C D : Type}

/-- The classes whose frames may carry a VLAN tag. -/
def isVlan : FrameType → Bool
  | .lldp | .udpHigh | .udpLow => false
  | _ => true

/-- The check for short frames, which DCP does not have. -/
def longEnough (ty : FrameType) (m : Mbuf) : Bool :=
  decide (ty = .dcp) || !decide (m.len < 18)

/-- The frame passes the checks that come before the length check. -/
def typeOk (env : Env C D) (ty : FrameType) (m : Mbuf) : Bool :=
  longEnough ty m &&
    match ty with
    | .l2 => decide (m.proto.toUInt32 = env.app.l2EtherType)
    | _ => decide (m.proto = ethPProfinetRt)

/-- By how much the frame lowers the expected length. -/
def lowers (ty : FrameType) (m : Mbuf) : UInt64 :=
  if longEnough ty m && !m.tagged then 4 else 0

def lowered (ty : FrameType) : List Mbuf → UInt64
  | [] => 0
  | m :: ms => lowers ty m + lowered ty ms

def layoutOf (m : Mbuf) : Layout := ⟨ethHeaderSize m.tagged, !m.tagged⟩

/-- Level and format string of a log call. -/
def text (e : LogEntry) : LogLevel × String := (e.level, e.format)

def wrongLengthFormat : FrameType → String
  | .rtc => "RtcRx: Frame with wrong length received!\n"
  | .rta => "RtaRx: Frame with wrong length %ld != %ld received!\n"
  | .dcp => "DcpRx: Frame with wrong length %ld != %ld received!\n"
  | .l2 => "L2Rx: Frame with wrong length received %'ld != %'ld!\n"
  | .lldp => "LldpRx: Frame with wrong length received!\n"
  | _ => "%sRx: Frame with wrong length received!\n"

theorem vlanCheck_eq (wrongType : UInt16 → Option LogEntry)
    (wrongLength : UInt64 → UInt64 → LogEntry) (e : UInt64) (m : Mbuf) :
    vlanCheck wrongType wrongLength e m =
      (e - (if m.tagged then 0 else 4),
        match wrongType m.proto with
        | some entry => .error entry
        | none =>
          if m.len = e - (if m.tagged then 0 else 4) then .ok (layoutOf m)
          else .error (wrongLength m.len (e - (if m.tagged then 0 else 4)))) := by
  have he : (if m.tagged then e else e - 4) = e - (if m.tagged then 0 else 4) := by
    cases m.tagged <;> simp
  simp only [vlanCheck, he, layoutOf]
  cases wrongType m.proto with
  | some entry => rfl
  | none =>
    by_cases hl : m.len = e - (if m.tagged then 0 else 4)
    · simp [hl]
    · simp [hl]

/-- The outcome of the checks: the expected length only decides the last of them. -/
def checked (env : Env C D) (ty : FrameType) (refuse : Mbuf → LogEntry)
    (wrong : UInt64 → UInt64 → LogEntry) (e : UInt64) (m : Mbuf) : Except LogEntry Layout :=
  if typeOk env ty m then
    if m.len = e then .ok (layoutOf m) else .error (wrong m.len e)
  else .error (refuse m)

theorem short_check (env : Env C D) (ty : FrameType) (hty : ty ≠ .dcp) (tooSmall : LogEntry)
    (wrongType : UInt16 → Option LogEntry) (wrongLength : UInt64 → UInt64 → LogEntry)
    (htype : ∀ m : Mbuf, longEnough ty m = true → ((wrongType m.proto).isNone = typeOk env ty m)) :
    ∃ refuse : Mbuf → LogEntry, ∀ e m,
      refuseShort tooSmall (vlanCheck wrongType wrongLength) e m =
        (e - lowers ty m, checked env ty refuse wrongLength (e - lowers ty m) m) := by
  refine ⟨fun m => if longEnough ty m then (wrongType m.proto).getD tooSmall else tooSmall, ?_⟩
  intro e m
  have hlong : longEnough ty m = !decide (m.len < 18) := by simp [longEnough, hty]
  by_cases hs : m.len < 18
  · have hf : longEnough ty m = false := by simp [hlong, hs]
    simp [refuseShort, hs, lowers, checked, typeOk, hf]
  · have ht : longEnough ty m = true := by simp [hlong, hs]
    have hlow : lowers ty m = if m.tagged then 0 else 4 := by
      cases hm : m.tagged <;> simp [lowers, ht, hm]
    have hk := htype m ht
    simp only [refuseShort, hs, if_false, vlanCheck_eq, hlow, checked, ← hk, ht, if_true]
    cases wrongType m.proto with
    | some entry => rfl
    | none => rfl

/-- **The checks.**  Every VLAN class lowers the expected length for an
untagged frame and then compares. -/
theorem check_vlan (env : Env C D) (ty : FrameType) (hv : isVlan ty = true) :
    ∃ (refuse : Mbuf → LogEntry) (wrong : UInt64 → UInt64 → LogEntry),
      (∀ a b, text (wrong a b) = (.warning, wrongLengthFormat ty)) ∧
      ∀ e m, (rxHandler env ty).check e m =
        (e - lowers ty m, checked env ty refuse wrong (e - lowers ty m) m) := by
  have hpn (entry : LogEntry) (ty : FrameType) (hty : ty ≠ .l2) (m : Mbuf)
      (hl : longEnough ty m = true) :
      (notProfinet entry m.proto).isNone = typeOk env ty m := by
    have : typeOk env ty m = decide (m.proto = ethPProfinetRt) := by
      cases ty <;> simp_all [typeOk]
    rw [this]
    by_cases hp : m.proto = ethPProfinetRt <;> simp [notProfinet, hp]
  cases ty with
  | tsnHigh =>
    obtain ⟨refuse, h⟩ := short_check env .tsnHigh (by decide) _ _ _ (hpn _ .tsnHigh (by decide))
    exact ⟨refuse, _, fun _ _ => rfl, h⟩
  | tsnLow =>
    obtain ⟨refuse, h⟩ := short_check env .tsnLow (by decide) _ _ _ (hpn _ .tsnLow (by decide))
    exact ⟨refuse, _, fun _ _ => rfl, h⟩
  | rtc =>
    obtain ⟨refuse, h⟩ := short_check env .rtc (by decide) _ _ _ (hpn _ .rtc (by decide))
    exact ⟨refuse, _, fun _ _ => rfl, h⟩
  | rta =>
    obtain ⟨refuse, h⟩ := short_check env .rta (by decide) _ _ _ (hpn _ .rta (by decide))
    exact ⟨refuse, _, fun _ _ => rfl, h⟩
  | dcp =>
    refine ⟨fun _ => warning "DcpRx: Not a Profinet frame received!\n" [],
      fun len expected => warning (wrongLengthFormat .dcp) [.num len, .num expected],
      fun _ _ => rfl, ?_⟩
    intro e m
    have hl : longEnough .dcp m = true := by simp [longEnough]
    have hlow : lowers .dcp m = if m.tagged then 0 else 4 := by
      cases hm : m.tagged <;> simp [lowers, hl, hm]
    have hk : typeOk env .dcp m = decide (m.proto = ethPProfinetRt) := by simp [typeOk, hl]
    simp only [rxHandler, dcpRxFrame, vlanCheck_eq, hlow, checked, hk, notProfinet]
    by_cases hp : m.proto = ethPProfinetRt <;> simp [hp, wrongLengthFormat]
  | l2 =>
    have hl2 (m : Mbuf) (hl : longEnough .l2 m = true) :
        (wrongEtherType env.app.l2EtherType m.proto).isNone = typeOk env .l2 m := by
      simp only [wrongEtherType, typeOk, hl, Bool.true_and]
      by_cases hp : m.proto.toUInt32 = env.app.l2EtherType <;> simp [hp]
    obtain ⟨refuse, h⟩ := short_check env .l2 (by decide) _ (wrongEtherType _) _ hl2
    exact ⟨refuse, _, fun _ _ => rfl, h⟩
  | lldp => cases hv
  | udpHigh => cases hv
  | udpLow => cases hv

theorem lengthCheck_eq (wrong : LogEntry) (e : UInt64) (m : Mbuf) :
    lengthCheck wrong e m =
      (e, if m.len = e then .ok ⟨sizeofEthhdr, false⟩ else .error wrong) := by
  unfold lengthCheck
  by_cases hl : m.len = e
  · simp [hl]
  · simp [hl]

/-- UDP and LLDP only compare the length. -/
theorem check_untagged (env : Env C D) (ty : FrameType) (hv : isVlan ty = false) :
    ∃ wrong : LogEntry, ∀ e m, (rxHandler env ty).check e m =
      (e, if m.len = e then .ok ⟨sizeofEthhdr, false⟩ else .error wrong) := by
  cases ty with
  | lldp => exact ⟨_, lengthCheck_eq _⟩
  | udpHigh => exact ⟨_, lengthCheck_eq _⟩
  | udpLow => exact ⟨_, lengthCheck_eq _⟩
  | tsnHigh => cases hv
  | tsnLow => cases hv
  | rtc => cases hv
  | rta => cases hv
  | dcp => cases hv
  | l2 => cases hv

/-! ## Frames that pass -/

theorem lowers_tagged (ty : FrameType) {m : Mbuf} (ht : m.tagged = true) : lowers ty m = 0 := by
  simp [lowers, ht]

theorem lowers_untagged {env : Env C D} {ty : FrameType} {m : Mbuf} (htype : typeOk env ty m = true)
    (ht : m.tagged = false) : lowers ty m = 4 := by
  simp only [typeOk, Bool.and_eq_true] at htype
  simp [lowers, htype.1, ht]

/-- A layout tells whether the frame has its tag. -/
theorem tagged_of_layout {m : Mbuf} {off : Nat} {missing : Bool} (h : ⟨off, missing⟩ = layoutOf m) :
    m.tagged = !missing := by
  have hmissing : missing = !m.tagged := congrArg Layout.vlanTagMissing h
  rw [hmissing, Bool.not_not]

/-- A frame that passes the checks of a VLAN class has the right type and the
length expected for a frame with, or without, a tag. -/
theorem check_vlan_ok {env : Env C D} {ty : FrameType} (hv : isVlan ty = true)
    {e expected : UInt64} {m : Mbuf} {lay : Layout}
    (h : (rxHandler env ty).check e m = (expected, .ok lay)) :
    typeOk env ty m = true ∧ m.len = e - lowers ty m ∧ lay = layoutOf m := by
  obtain ⟨refuse, wrong, -, hc⟩ := check_vlan env ty hv
  rw [hc] at h
  obtain ⟨-, h⟩ := Prod.mk.inj h
  unfold checked at h
  split at h
  · rename_i htype
    split at h
    · rename_i hlen
      exact ⟨htype, hlen, (Except.ok.inj h).symm⟩
    · cases h
  · cases h

/-- The same for UDP and LLDP. -/
theorem check_untagged_ok {env : Env C D} {ty : FrameType} (hv : isVlan ty = false)
    {e expected : UInt64} {m : Mbuf} {lay : Layout}
    (h : (rxHandler env ty).check e m = (expected, .ok lay)) :
    m.len = e ∧ lay = ⟨sizeofEthhdr, false⟩ := by
  obtain ⟨wrong, hc⟩ := check_untagged env ty hv
  rw [hc] at h
  obtain ⟨-, h⟩ := Prod.mk.inj h
  split at h
  · rename_i hlen
    exact ⟨hlen, (Except.ok.inj h).symm⟩
  · cases h

theorem check_vlan_len {env : Env C D} {ty : FrameType} (hv : isVlan ty = true)
    {e expected : UInt64} (he : 4 ≤ e.toNat) {m : Mbuf} {lay : Layout}
    (h : (rxHandler env ty).check e m = (expected, .ok lay)) :
    m.len.toNat = if m.tagged then e.toNat else e.toNat - 4 := by
  obtain ⟨htype, hlen, -⟩ := check_vlan_ok hv h
  cases ht : m.tagged with
  | true =>
    rw [hlen, lowers_tagged ty ht, UInt64.sub_zero]
    rfl
  | false =>
    have h4 : (4 : UInt64) ≤ e := UInt64.le_iff_toNat_le.mpr he
    rw [hlen, lowers_untagged htype ht, UInt64.toNat_sub_of_le _ _ h4]
    rfl

end Rtdk.Checks
