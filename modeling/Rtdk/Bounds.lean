import Rtdk.Partition
import Rtdk.Reseal
import Rtdk.Generate
import Rtdk.Local

/-! Whether `config_sanity_check` keeps every access inside its buffer.

A class's accesses are judged by what they do to memory. The frame builder must
leave every byte behind the configured frame length as it was. The receive
handler must do the same with a frame it accepts, must find out the same about
two frames that differ only behind that length, must keep to the 2048 bytes of
its plaintext array and the 128 bytes of DCP's message buffer, and none of its
length computations may wrap. `Safe` collects these, for a frame that comes after
`k` untagged frames of the same burst: each of them lowers the length the handler
accepts by four.

`safe_iff` says for which configurations and `k` a checked configuration is safe:
the check forgets the Ethernet, IP and UDP headers of UDP frames, DCP copies its
payload pattern into a buffer of fixed size, and the lengths of secured frames
are computed without a check once the accepted length has been lowered. -/

namespace Rtdk.Bounds
open Rtdk.Memory Rtdk.Local Rtdk.Endian Rtdk.NetDef Rtdk.Security Rtdk.Stat Rtdk.Lport Rtdk.Config
open Rtdk.Frame Rtdk.Thread Rtdk.Receive Rtdk.Handlers Rtdk.Checks Rtdk.Builder Rtdk.Decode
open Rtdk.Reseal Rtdk.Generate

variable {C D : Type}

/-! ## Accepted frames -/

/-- The length a handler expects after `k` untagged frames of a burst. -/
def expectedAfter (cfg : AppConfig) (ty : FrameType) (k : Nat) : UInt64 :=
  if isVlan ty then (cfg.cls ty).frameLength - UInt64.ofNat (4 * k) else (cfg.cls ty).frameLength

/-- The frame passes the checks of its class after `k` untagged frames. -/
def Admits (env : Env C D) (ty : FrameType) (k : Nat) (m : Mbuf) (lay : Layout) : Prop :=
  ∃ expected, (rxHandler env ty).check (expectedAfter env.app ty k) m = (expected, .ok lay)

/-- The frames of a burst that lower the expected length. -/
def untagged (ty : FrameType) (ms : List Mbuf) : Nat :=
  ms.countP fun m => longEnough ty m && !m.tagged

theorem lowered_eq (ty : FrameType) (ms : List Mbuf) :
    lowered ty ms = UInt64.ofNat (4 * untagged ty ms) := by
  induction ms with
  | nil => rfl
  | cons m ms ih =>
    unfold untagged at ih ⊢
    rw [lowered, ih, lowers, List.countP_cons]
    cases longEnough ty m && !m.tagged with
    | false => simp
    | true =>
      rw [if_pos rfl, if_pos rfl, Nat.mul_add, UInt64.ofNat_add, UInt64.add_comm]
      rfl

/-- The length the handler of a VLAN class expects inside a burst. -/
theorem expectedAfter_reached {env : Env C D} {ty : FrameType} (hv : isVlan ty = true)
    {stack : Mem UInt8} {w : World C D} {ms : List Mbuf} {s : RxState C D} {dropped : List Mbuf}
    (h : rxBurst env (rxHandler env ty) ⟨w, (env.app.cls ty).frameLength, stack⟩ ms =
      .ok (s, dropped)) :
    s.expectedFrameLength = expectedAfter env.app ty (untagged ty ms) := by
  rw [Partition.rxBurst_expected env ty hv ms h, lowered_eq, expectedAfter, if_pos hv]

/-- An accepted frame of a VLAN class: its type is right, and its length falls
short of the configured one by the missing tags. -/
structure Fits (env : Env C D) (ty : FrameType) (k : Nat) (m : Mbuf) (lay : Layout) : Prop where
  layout : lay = layoutOf m
  off : lay.off = 18 ∨ lay.off = 14
  short : 4 * k + (18 - lay.off) + m.len.toNat = (env.app.cls ty).frameLength.toNat
  type : typeOk env ty m = true

theorem layoutOf_off (m : Mbuf) : (layoutOf m).off = if m.tagged then 18 else 14 := by
  cases h : m.tagged <;> simp [layoutOf, ethHeaderSize, h, sizeofVlanEthernetHeader, sizeofEthhdr]

/-- Lengths that have wrapped are longer than any frame. -/
theorem admits_fits {env : Env C D} {ty : FrameType} (hv : isVlan ty = true) {k : Nat}
    (hk : k < 2 ^ 16) (hL : (env.app.cls ty).frameLength.toNat ≤ maxFrameSize) {m : Mbuf}
    {lay : Layout} (h : Admits env ty k m lay) : Fits env ty k m lay := by
  obtain ⟨expected, hc⟩ := h
  obtain ⟨htype, hlen, hlay⟩ := check_vlan_ok hv hc
  rw [expectedAfter, if_pos hv] at hlen
  have hlow : lowers ty m = if m.tagged then 0 else 4 := by
    cases ht : m.tagged with
    | true => exact lowers_tagged ty ht
    | false => exact lowers_untagged htype ht
  have hm := m.pktLen.toNat_lt
  have hnat := congrArg UInt64.toNat hlen
  rw [hlow, Mbuf.len_toNat, UInt64.toNat_sub, UInt64.toNat_sub, UInt64.toNat_ofNat'] at hnat
  have hL' := (env.app.cls ty).frameLength.toNat_lt
  simp only [maxFrameSize] at hL
  have hshort : 4 * k + (if m.tagged then 0 else 4) + m.len.toNat =
      (env.app.cls ty).frameLength.toNat := by
    rw [Mbuf.len_toNat]
    cases ht : m.tagged with
    | true =>
      simp only [ht, if_true, UInt64.toNat_zero] at hnat ⊢
      omega
    | false =>
      simp only [ht, Bool.false_eq_true, if_false, UInt64.reduceToNat] at hnat ⊢
      omega
  have hoff : lay.off = if m.tagged then 18 else 14 := by rw [hlay, layoutOf_off]
  refine ⟨hlay, ?_, ?_, htype⟩
  · rw [hoff]
    split <;> simp
  · rw [hoff]
    cases ht : m.tagged <;> simpa [ht] using hshort

/-! ## Safety -/

/-- **Lengths of AEAD output.**  OpenSSL stores at most 16 bytes of tag, at most as
many bytes of ciphertext as there are of plaintext, and the other way round. -/
structure Sized (evp : Evp C) : Prop where
  tag : ∀ c pt aad iv, (securityEncrypt evp c pt aad iv).tag.length ≤ sizeofSecurityChecksum
  ciphertext : ∀ c pt aad iv,
    (securityEncrypt evp c (some pt) aad iv).ciphertext.length ≤ pt.length
  plaintext : ∀ c ct aad tag iv,
    (securityDecrypt evp c (some ct) aad tag iv).plaintext.length ≤ ct.length

/-- The thread's setup function has set the length of the payload it encrypts. -/
def SetUp (env : Env C D) (ty : FrameType) (w : World C D) : Prop :=
  hasSecurity ty = true →
    w.thread.payloadPatternLength = payloadSize (env.app.cls ty).frameLength

theorem fresh_setUp (env : Env C D) (ty : FrameType) (ctx : C) (dev : D) :
    SetUp env ty (World.fresh env ty ctx dev) := by
  intro hsec
  cases ty with
  | tsnHigh | tsnLow | rtc | rta => rfl
  | dcp | lldp | udpHigh | udpLow | l2 => cases hsec

/-- Two frames that agree on the first `n` bytes look the same: the handler finds
out the same, and what it makes of them agrees on those bytes again. -/
def SameFinding (n : Nat) : Except Stop (Received C D) → Except Stop (Received C D) → Prop
  | .ok r, .ok r' => r' = { r with mbuf := r'.mbuf } ∧ Agree n r.mbuf.data r'.mbuf.data
  | .error e, .error e' => e = e'
  | _, _ => False

/-- The subtraction `a - b` does not wrap; `d` is its result. -/
def Exact (d a : UInt64) (b : Nat) : Prop := d.toNat + b = a.toNat

/-- The lengths the builder computes: `security_length` (and with authentication
only the size of the associated data), the length of the encrypted payload,
`total_length` and `dgram_len`. -/
def BuildSizes (cfg : AppConfig) (ty : FrameType) : Prop :=
  let len := (cfg.cls ty).frameLength
  match ty with
  | .udpHigh | .udpLow => Exact (len - 14) len 14 ∧ Exact (len - 34) len 34
  | _ => cfg.mode ty ≠ .none → 18 + 16 ≤ len.toNat ∧ Exact (payloadSize len) len 60

/-- The lengths the handler computes: `size_of_aad_data` and `size_of_ciphertext`. -/
def RxSizes (mode : SecurityMode) (m : Mbuf) (lay : Layout) : Prop :=
  match mode with
  | .none => True
  | .ao => Exact (aadSize m.len lay.off) m.len (lay.off + 16)
  | .ae => Exact (payloadSize m.len) m.len 60

/-- Every access of the class stays inside its buffer, for a frame that comes
after `k` untagged ones. -/
structure Safe (env : Env C D) (ty : FrameType) (k : Nat) : Prop where
  /-- The initialisation writes inside the frame. -/
  build : ∀ m : Mbuf, Untouched (env.app.cls ty).frameLength.toNat m.data
    (initializeFrame env.app env.mac ty m).data
  /-- So do counter, time stamp and seal. -/
  prepare : ∀ (n seq t : UInt64) (w w' : World C D) (m m' : Mbuf), SetUp env ty w →
    prepareFrame env ty n seq t w (initializeFrame env.app env.mac ty m) = .ok (w', m') →
      Untouched (env.app.cls ty).frameLength.toNat m.data m'.data
  buildSizes : BuildSizes env.app ty
  /-- The checks read inside the frame. -/
  check : ∀ (m : Mbuf) (d : Mem UInt8), Agree (env.app.cls ty).frameLength.toNat m.data d →
    (rxHandler env ty).check (expectedAfter env.app ty k) { m with data := d } =
      (rxHandler env ty).check (expectedAfter env.app ty k) m
  /-- Decoding an accepted frame reads inside the frame. -/
  decodeReads : ∀ (w : World C D) (p : Mem UInt8) (m : Mbuf) (lay : Layout) (d : Mem UInt8),
    SetUp env ty w → Admits env ty k m lay →
      Agree (env.app.cls ty).frameLength.toNat m.data d →
        SameFinding (env.app.cls ty).frameLength.toNat ((rxHandler env ty).decode w p m lay)
          ((rxHandler env ty).decode w p { m with data := d } lay)
  /-- It writes inside the frame and inside the plaintext array. -/
  decodeWrites : ∀ (w : World C D) (p : Mem UInt8) (m : Mbuf) (lay : Layout) (r : Received C D),
    SetUp env ty w → Admits env ty k m lay → (rxHandler env ty).decode w p m lay = .ok r →
      Untouched (env.app.cls ty).frameLength.toNat m.data r.mbuf.data ∧
        Untouched maxFrameSize p r.plaintext
  /-- So do the edits before mirroring; `d` is the frame after decoding. -/
  forward : ∀ (w : World C D) (m : Mbuf) (lay : Layout) (d d' : Mem UInt8),
    Admits env ty k m lay →
      Untouched (env.app.cls ty).frameLength.toNat d
          ((rxHandler env ty).forward w { m with data := d } lay).2.data ∧
        (Agree (env.app.cls ty).frameLength.toNat d d' →
          Agree (env.app.cls ty).frameLength.toNat
            ((rxHandler env ty).forward w { m with data := d } lay).2.data
            ((rxHandler env ty).forward w { m with data := d' } lay).2.data)
  /-- The text about a wrong payload fits its buffer. -/
  message : ∀ (w : World C D) (p : Mem UInt8) (m : Mbuf) (lay : Layout) (r : Received C D),
    Admits env ty k m lay → (rxHandler env ty).decode w p m lay = .ok r →
      ∃ entry, (rxHandler env ty).payloadText r.sequenceCounter r.payload = .ok entry
  rxSizes : ∀ (m : Mbuf) (lay : Layout), Admits env ty k m lay →
    RxSizes (env.app.mode ty) m lay

/-! ## Building -/

theorem memset0_untouched {n len : Nat} (data : Mem UInt8) (h : len ≤ n) :
    Untouched n data (memset0 data len) :=
  (Untouched.refl n data).write 0 _ (by simpa using h)

theorem writeVlanEthernetHeader_untouched {n : Nat} {a b : Mem UInt8} (hn : 18 ≤ n)
    (h : Untouched n a b) (dst src : Vector UInt8 6) (tci proto : UInt16) :
    Untouched n a (writeVlanEthernetHeader b dst src tci proto) := by
  unfold writeVlanEthernetHeader
  exact ((((h.write 0 _ (by simp; omega)).write 6 _ (by simp; omega)).write 12 _
    (by simp; omega)).write 14 _ (by simp; omega)).write 16 _ (by simp; omega)

theorem initializeProfinetFrame_untouched {n : Nat} {a b : Mem UInt8} (h : Untouched n a b)
    (mode : SecurityMode) {len : Nat} (hlen : len ≤ n) (src dst : Vector UInt8 6)
    {pattern : List UInt8} (tci fid : UInt16)
    (hroom : (if mode = .none then 36 else 44) + pattern.length ≤ n) :
    Untouched n a (initializeProfinetFrame mode b len src dst pattern tci fid) := by
  have hset : Untouched n a (memset0 b len) := h.trans (memset0_untouched b hlen)
  have h18 : 18 ≤ n := by split at hroom <;> omega
  have hhead := writeVlanEthernetHeader_untouched h18 hset dst src tci ethPProfinetRt
  cases mode with
  | none =>
    simp only [if_true] at hroom
    exact (((hhead.write 18 _ (by simp; omega)).write 20 _ (by simp; omega)).write 24 _
      (by simp; omega)).write 36 _ (by omega)
  | ao | ae =>
    simp only [reduceCtorEq, if_false] at hroom
    exact (((((hhead.write 18 _ (by simp; omega)).write 20 _ (by simp; omega)).write 26 _
      (by simp; omega)).write 28 _ (by simp; omega)).write 32 _ (by simp; omega)).write 44 _
      (by omega)

theorem toUInt16_toNat {len : UInt64} (h : len.toNat ≤ maxFrameSize) :
    len.toUInt16.toNat = len.toNat := by
  rw [UInt64.toNat_toUInt16]
  exact Nat.mod_eq_of_lt (Nat.lt_of_le_of_lt h (by decide))

/-- An address has four octets. -/
theorem inetPton_length {s bs : List UInt8} (h : inetPton s = some bs) : bs.length = 4 := by
  unfold inetPton at h
  split at h
  · split at h
    · rename_i st _ hst
      cases h
      rw [Bool.and_eq_true, beq_iff_eq] at hst
      simp [hst.2]
    · cases h
  · cases h

/-- The frame has room for headers, metadata, payload pattern and checksum, and
fits the frame buffer. -/
structure Roomy (cfg : AppConfig) (ty : FrameType) : Prop where
  room : getMetaDataOffset ty (cfg.mode ty) + 16 + (cfg.cls ty).payloadPattern.length +
    (if cfg.mode ty = .none then 0 else 16) ≤ (cfg.cls ty).frameLength.toNat
  fits : (cfg.cls ty).frameLength.toNat ≤ maxFrameSize

theorem profinet_untouched {cfg : AppConfig} {ty : FrameType} (hty : isProfinet ty = true)
    (h : Roomy cfg ty) (fid : UInt16) (source : Vector UInt8 6) (m : Mbuf) :
    Untouched (cfg.cls ty).frameLength.toNat m.data
      (profinetInitializeFrame (cfg.cls ty) (cfg.mode ty) fid source m).data := by
  have hoff : getMetaDataOffset ty (cfg.mode ty) + 16 = if cfg.mode ty = .none then 36 else 44 := by
    cases ty with
    | tsnHigh | tsnLow | rtc | rta | dcp => simp only [getMetaDataOffset]; split <;> rfl
    | lldp | udpHigh | udpLow | l2 => cases hty
  have hroom := h.room
  have hset : Untouched (cfg.cls ty).frameLength.toNat m.data
      (memset0 m.data (cfg.cls ty).frameLength.toNat) := memset0_untouched m.data (Nat.le_refl _)
  refine initializeProfinetFrame_untouched hset (cfg.mode ty) ?_ _ _ _ _ (by omega)
  show (cfg.cls ty).frameLength.toUInt16.toNat ≤ _
  rw [toUInt16_toNat h.fits]

theorem writeAddress_untouched {n : Nat} {a b : Mem UInt8} (h : Untouched n a b) (off : Nat)
    (s : List UInt8) (hfit : off + 4 ≤ n) : Untouched n a (writeAddress b off s) := by
  unfold writeAddress
  split
  · rename_i bs hbs
    exact h.write off bs (by rw [inetPton_length hbs]; exact hfit)
  · exact h

theorem udp_untouched (c : ClassConfig) (source : Vector UInt8 6) (m : Mbuf)
    (hroom : 58 + c.payloadPattern.length ≤ c.frameLength.toNat) :
    Untouched c.frameLength.toNat m.data (udpInitializeFrame c source m).data := by
  have hset : Untouched c.frameLength.toNat m.data (memset0 m.data c.frameLength.toNat) :=
    memset0_untouched m.data (Nat.le_refl _)
  have hzero (data : Mem UInt8) (h : Untouched c.frameLength.toNat m.data data) :
      Untouched c.frameLength.toNat m.data
        (if read16 data 40 = 0 then write data 40 (be16 0xffff) else data) := by
    split
    · exact h.write 40 _ (by simp; omega)
    · exact h
  unfold udpInitializeFrame
  refine Untouched.write (Untouched.write ?_ 42 _ (by simp [sizeofReferenceMetaData]; omega)) 58 _
    (by omega)
  refine hzero _ ?_
  refine Untouched.write (Untouched.write ?_ 40 _ (by simp; omega)) 40 _ (by simp; omega)
  refine Untouched.write (Untouched.write ?_ 36 _ (by simp; omega)) 38 _ (by simp; omega)
  refine Untouched.write ?_ 34 _ (by simp; omega)
  refine Untouched.write (Untouched.write ?_ 24 _ (by simp; omega)) 24 _ (by simp; omega)
  refine Untouched.write (Untouched.write ?_ 23 _ (by simp; omega)) 18 _ (by simp; omega)
  refine writeAddress_untouched (writeAddress_untouched ?_ 26 _ (by omega)) 30 _ (by omega)
  refine Untouched.write (Untouched.write ?_ 22 _ (by simp; omega)) 16 _ (by simp; omega)
  refine Untouched.write (Untouched.write ?_ 12 _ (by simp; omega)) 14 _ (by simp; omega)
  exact (hset.write 6 _ (by simp; omega)).write 0 _ (by simp; omega)

/-- **Initialisation.**  A frame with room is initialised inside its length. -/
theorem initializeFrame_untouched {cfg : AppConfig} {ty : FrameType} (h : Roomy cfg ty)
    (source : Vector UInt8 6) (m : Mbuf) :
    Untouched (cfg.cls ty).frameLength.toNat m.data (initializeFrame cfg source ty m).data := by
  have hset : Untouched (cfg.cls ty).frameLength.toNat m.data
      (memset0 m.data (cfg.cls ty).frameLength.toNat) := memset0_untouched m.data (Nat.le_refl _)
  have hroom := h.room
  cases ty with
  | tsnHigh | tsnLow | rtc | rta | dcp => exact profinet_untouched rfl h _ source m
  | udpHigh | udpLow =>
    simp only [getMetaDataOffset] at hroom
    exact udp_untouched _ source m (by omega)
  | l2 =>
    simp only [getMetaDataOffset] at hroom
    have hhead := writeVlanEthernetHeader_untouched (by omega) hset (cfg.cls .l2).destination
      source (cfg.cls .l2).vlanTci cfg.l2EtherType.toUInt16
    exact ((hhead.write 18 _ (by simp; omega)).write 22 _ (by simp; omega)).write 34 _ (by omega)
  | lldp =>
    simp only [getMetaDataOffset] at hroom
    exact ((((hset.write 0 _ (by simp; omega)).write 6 _ (by simp; omega)).write 12 _
      (by simp; omega)).write 14 _ (by simp [sizeofReferenceMetaData]; omega)).write 30 _ (by omega)

theorem stampMetaData_untouched {n : Nat} {a b : Mem UInt8} (h : Untouched n a b) {off : Nat}
    (hfit : off + 16 ≤ n) (seq k t : UInt64) : Untouched n a (stampMetaData b off seq k t) :=
  ((h.write off _ (by simp; omega)).write (off + 4) _ (by simp; omega)).write (off + 8) _
    (by simp; omega)

/-- Sealing in place writes its ciphertext and its tag. -/
theorem sealFrame_untouched {evp : Evp C} (hs : Sized evp) {n : Nat} {a data : Mem UInt8}
    (h : Untouched n a data) (ctx : C) {pt iv : List UInt8} (aadOff aadLen : Nat)
    {ctOff tagOff : Nat} (hct : ctOff + pt.length ≤ n) (htag : tagOff + 16 ≤ n) :
    Untouched n a (sealFrame evp ctx data (some pt) iv aadOff aadLen ctOff tagOff).data := by
  have hc := hs.ciphertext ctx pt (slice data aadOff aadLen) iv
  have ht := hs.tag ctx (some pt) (slice data aadOff aadLen) iv
  simp only [sizeofSecurityChecksum] at ht
  exact (h.write ctOff _ (by omega)).write tagOff _ (by omega)

theorem sealFrame_none_untouched {evp : Evp C} (hs : Sized evp) {n : Nat} {a data : Mem UInt8}
    (h : Untouched n a data) (ctx : C) {iv : List UInt8} (aadOff aadLen ctOff : Nat)
    {tagOff : Nat} (htag : tagOff + 16 ≤ n) :
    Untouched n a (sealFrame evp ctx data none iv aadOff aadLen ctOff tagOff).data := by
  have ht := hs.tag ctx none (slice data aadOff aadLen) iv
  simp only [sizeofSecurityChecksum] at ht
  rw [Sealing.sealFrame_none_data]
  exact h.write tagOff _ (by omega)

/-- Encrypting the thread's payload writes as many bytes as it says. -/
theorem sealPayload_untouched {evp : Evp C} (hs : Sized evp) {n : Nat} {a data : Mem UInt8}
    (h : Untouched n a data) {ctx : C} {payload : Option (Mem UInt8)} {len : UInt64}
    {iv : List UInt8} {aadOff aadLen ctOff tagOff : Nat} {again : Sealed C}
    (hok : sealPayload evp ctx data payload len iv aadOff aadLen ctOff tagOff = .ok again)
    (hct : ctOff + len.toNat ≤ n) (htag : tagOff + 16 ≤ n) : Untouched n a again.data := by
  cases payload with
  | some buf =>
    cases hok
    exact sealFrame_untouched hs h ctx aadOff aadLen (by simpa using hct) htag
  | none =>
    simp only [sealPayload] at hok
    split at hok
    · cases hok
    · cases hok
      exact sealFrame_untouched hs h ctx aadOff aadLen (by simp; omega) htag

/-- The room of a frame with security, in numbers. -/
theorem Roomy.secured {cfg : AppConfig} {ty : FrameType} (h : Roomy cfg ty)
    (hm : cfg.mode ty ≠ .none) :
    60 + (cfg.cls ty).payloadPattern.length ≤ (cfg.cls ty).frameLength.toNat := by
  have hroom := h.room
  obtain ⟨hsec, -⟩ := hasSecurity_of_mode hm
  have hoff : getMetaDataOffset ty (cfg.mode ty) = 28 := by
    cases ty with
    | tsnHigh | tsnLow | rtc | rta => simp only [getMetaDataOffset, if_neg hm]
    | dcp | lldp | udpHigh | udpLow | l2 => cases hsec
  rw [hoff, if_neg hm] at hroom
  omega

/-- **Preparation.**  Counter, time stamp and seal stay inside a frame with room. -/
theorem prepareFrame_untouched {env : Env C D} (hs : Sized env.evp) {ty : FrameType}
    (h : Roomy env.app ty) {n seq t : UInt64} {w w' : World C D} (hw : SetUp env ty w)
    {a : Mem UInt8} {m m' : Mbuf} (ha : Untouched (env.app.cls ty).frameLength.toNat a m.data)
    (hlen : m.dataLen.toNat = (env.app.cls ty).frameLength.toNat)
    (hp : prepareFrame env ty n seq t w m = .ok (w', m')) :
    Untouched (env.app.cls ty).frameLength.toNat a m'.data := by
  have hroom := h.room
  by_cases hm : env.app.mode ty = .none
  · rw [prepareFrame_plain env ty hm] at hp
    cases hp
    refine stampMetaData_untouched ha ?_ _ _ _
    show getMetaDataOffset ty (env.app.mode ty) + 16 ≤ _
    omega
  · have h60 := h.secured hm
    obtain ⟨hsec, hmode⟩ := hasSecurity_of_mode hm
    have hstamp : Untouched (env.app.cls ty).frameLength.toNat a (stampMetaData m.data 28 seq n t) :=
      stampMetaData_untouched ha (by omega) _ _ _
    simp only [prepareFrame, hsec, if_true] at hp
    split at hp
    · cases hp
    · rename_i q hq
      cases hp
      show Untouched _ a q.data
      cases hc : (env.app.cls ty).securityMode with
      | none => exact absurd (hmode.trans hc) hm
      | ao =>
        simp only [prepareFrameForTx, prepareConfig, hc] at hq
        cases hq
        exact sealFrame_none_untouched hs hstamp _ _ _ _
          (by simp only [sizeofSecurityChecksum, hlen]; omega)
      | ae =>
        simp only [prepareFrameForTx, prepareConfig, hc] at hq
        cases hseal : sealPayload env.evp w.thread.txSecurityContext
            (stampMetaData m.data 28 seq n t) w.thread.payloadPattern
            w.thread.payloadPatternLength (prepareIv (env.app.cls ty).securityIvPrefix seq)
            sizeofVlanEthernetHeader sizeofProfinetSecureHeader
            (sizeofVlanEthernetHeader + sizeofProfinetSecureHeader)
            (m.dataLen.toNat - sizeofSecurityChecksum) with
        | error e =>
          rw [hseal] at hq
          cases hq
        | ok again =>
          rw [hseal] at hq
          cases hq
          have hsize := payloadSize_toNat (show 60 ≤ (env.app.cls ty).frameLength.toNat by omega)
          refine sealPayload_untouched hs hstamp hseal ?_ ?_
          · rw [hw hsec, hsize]
            simp only [sizeofVlanEthernetHeader, sizeofProfinetSecureHeader]
            omega
          · simp only [sizeofSecurityChecksum, hlen]
            omega

/-! ## Reading a received frame -/

section
variable {n : Nat} {a b : Mem UInt8}

theorem read16_agree (h : Agree n a b) {off : Nat} (hfit : off + 2 ≤ n) :
    read16 b off = read16 a off :=
  read16_congr fun i hi => (h (off + i) (by omega)).symm

theorem counter_agree (h : Agree n a b) {off : Nat} (hfit : off + 16 ≤ n) (k : UInt64) :
    metaDataToSequenceCounter b off k = metaDataToSequenceCounter a off k :=
  sequenceCounter_congr k fun i hi => (h (off + i) (by omega)).symm

theorem timestamp_agree (h : Agree n a b) {off : Nat} (hfit : off + 16 ≤ n) :
    metaDataToTxTimestamp b off = metaDataToTxTimestamp a off :=
  txTimestamp_congr fun i hi => (h (off + 8 + i) (by omega)).symm

end

/-- The checks look at the tag, the EtherType and the length. -/
theorem vlanCheck_congr {m m' : Mbuf} (ht : m'.tagged = m.tagged) (hp : m'.proto = m.proto)
    (hl : m'.len = m.len) (wrongType : UInt16 → Option LogEntry)
    (wrongLength : UInt64 → UInt64 → LogEntry) (e : UInt64) :
    vlanCheck wrongType wrongLength e m' = vlanCheck wrongType wrongLength e m := by
  unfold vlanCheck
  rw [ht, hp, hl]

theorem refuseShort_congr {m m' : Mbuf} (hl : m'.len = m.len) (tooSmall : LogEntry)
    {f : UInt64 → Mbuf → UInt64 × Except LogEntry Layout} (hf : ∀ e, f e m' = f e m) (e : UInt64) :
    refuseShort tooSmall f e m' = refuseShort tooSmall f e m := by
  unfold refuseShort
  rw [hl, hf]

theorem check_agree (env : Env C D) (ty : FrameType) {n : Nat} (hn : 18 ≤ n) {m : Mbuf}
    {d : Mem UInt8} (h : Agree n m.data d) (e : UInt64) :
    (rxHandler env ty).check e { m with data := d } = (rxHandler env ty).check e m := by
  have ht : Mbuf.tagged { m with data := d } = m.tagged := by
    simp only [Mbuf.tagged, read16_agree h (show 12 + 2 ≤ n by omega)]
  have hp : Mbuf.proto { m with data := d } = m.proto := by
    simp only [Mbuf.proto, ht, read16_agree h (show 12 + 2 ≤ n by omega),
      read16_agree h (show 16 + 2 ≤ n by omega)]
  have hl : Mbuf.len { m with data := d } = m.len := rfl
  cases ty with
  | tsnHigh | tsnLow | rtc | rta | l2 =>
    exact refuseShort_congr hl _ (vlanCheck_congr ht hp hl _ _) e
  | dcp =>
    simp only [rxHandler, dcpRxFrame]
    exact vlanCheck_congr ht hp hl _ _ e
  | lldp | udpHigh | udpLow => rfl

/-- Without security: the frame id, the metadata and the pattern are inside. -/
theorem plainDecode_same {k : UInt64} {pattern : List UInt8} (stamp : Option UInt64)
    {fid fid' : UInt16} (hfid : fid' = fid) {off : Nat} (w : World C D) (p : Mem UInt8) {m : Mbuf}
    {d : Mem UInt8} {n : Nat} (h : Agree n m.data d) (hroom : off + 16 + pattern.length ≤ n) :
    SameFinding n (.ok (plainDecode k pattern stamp fid off w p m))
      (.ok (plainDecode k pattern stamp fid' off w p { m with data := d })) := by
  subst hfid
  have hc := counter_agree h (show off + 16 ≤ n by omega) k
  have ht := timestamp_agree h (show off + 16 ≤ n by omega)
  cases stamp with
  | none =>
    refine ⟨?_, h⟩
    simp only [plainDecode, hc, ht, ← h.slice hroom, sizeofReferenceMetaData]
  | some t =>
    have h' : Agree n (txTimestampToMetaData m.data off t) (txTimestampToMetaData d off t) :=
      h.write _ _
    refine ⟨?_, h'⟩
    simp only [plainDecode, hc, ht, ← h'.slice hroom, sizeofReferenceMetaData]

theorem plainDecode_untouched {k : UInt64} {pattern : List UInt8} (stamp : Option UInt64)
    (fid : UInt16) {off : Nat} (w : World C D) (p : Mem UInt8) (m : Mbuf) {n : Nat}
    (hroom : off + 16 ≤ n) :
    Untouched n m.data (plainDecode k pattern stamp fid off w p m).mbuf.data := by
  cases stamp with
  | none => exact Untouched.refl n m.data
  | some t => exact (Untouched.refl n m.data).write _ _ (by simp; omega)

/-- Sealing looks at the associated data and leaves the rest as it was. -/
theorem sealFrame_same (evp : Evp C) (ctx : C) {n : Nat} {a b : Mem UInt8} (h : Agree n a b)
    (pt : Option (List UInt8)) (iv : List UInt8) {aadOff aadLen : Nat} (ctOff tagOff : Nat)
    (hfit : aadOff + aadLen ≤ n) :
    ∃ d, sealFrame evp ctx b pt iv aadOff aadLen ctOff tagOff =
        { sealFrame evp ctx a pt iv aadOff aadLen ctOff tagOff with data := d } ∧
      Agree n (sealFrame evp ctx a pt iv aadOff aadLen ctOff tagOff).data d := by
  refine ⟨(sealFrame evp ctx b pt iv aadOff aadLen ctOff tagOff).data, ?_, ?_⟩
  · simp only [sealFrame, ← h.slice hfit]
  · simp only [sealFrame, ← h.slice hfit]
    exact (h.write _ _).write _ _

theorem sealPayload_same (evp : Evp C) (ctx : C) {n : Nat} {a b : Mem UInt8} (h : Agree n a b)
    (payload : Option (Mem UInt8)) (len : UInt64) (iv : List UInt8) {aadOff aadLen : Nat}
    (ctOff tagOff : Nat) (hfit : aadOff + aadLen ≤ n) :
    (∃ e, sealPayload evp ctx a payload len iv aadOff aadLen ctOff tagOff = .error e ∧
        sealPayload evp ctx b payload len iv aadOff aadLen ctOff tagOff = .error e) ∨
      ∃ s d, sealPayload evp ctx a payload len iv aadOff aadLen ctOff tagOff = .ok s ∧
        sealPayload evp ctx b payload len iv aadOff aadLen ctOff tagOff = .ok { s with data := d } ∧
        Agree n s.data d := by
  cases payload with
  | some buf =>
    obtain ⟨d, hd, hag⟩ := sealFrame_same evp ctx h (some (slice buf 0 len.toNat)) iv ctOff tagOff hfit
    exact .inr ⟨_, d, rfl, congrArg Except.ok hd, hag⟩
  | none =>
    simp only [sealPayload, ← h.slice hfit]
    split
    · exact .inl ⟨_, rfl, rfl⟩
    · obtain ⟨d, hd, hag⟩ := sealFrame_same evp ctx h (some []) iv ctOff tagOff hfit
      exact .inr ⟨_, d, rfl, congrArg Except.ok hd, hag⟩

section
variable {env : Env C D} {c : ClassConfig} {m : Mbuf} {d : Mem UInt8} {n off : Nat}

theorem rxCounter_agree (h : Agree n m.data d) (hfit : off + 26 ≤ n) :
    rxCounter c { m with data := d } off = rxCounter c m off :=
  counter_agree h (show off + 10 + 16 ≤ n by omega) _

theorem rxIv_agree (h : Agree n m.data d) (hfit : off + 26 ≤ n) :
    rxIv c { m with data := d } off = rxIv c m off := by
  unfold rxIv
  rw [rxCounter_agree h hfit]

/-- Authentication only: the associated data and the checksum are inside. -/
theorem aoDecode_same (na : UInt64 → LogEntry) (w : World C D) (p : Mem UInt8) (stamp : UInt64)
    (h : Agree n m.data d) (hoff : off + 26 + c.payloadPattern.length ≤ n) (hlen : m.len.toNat ≤ n)
    (haad : off + 16 ≤ m.len.toNat) :
    SameFinding n (.ok (aoDecode env c na w p m off stamp))
      (.ok (aoDecode env c na w p { m with data := d } off stamp)) := by
  have hsize := aadSize_toNat (show off + 16 ≤ m.len.toNat from haad)
  have hiv := rxIv_agree (c := c) (m := m) h (show off + 26 ≤ n by omega)
  have hcnt := rxCounter_agree (c := c) (m := m) h (show off + 26 ≤ n by omega)
  have hopen : aoOpen env.evp c w.thread.rxSecurityContext { m with data := d } off =
      aoOpen env.evp c w.thread.rxSecurityContext m off := by
    have h1 := h.slice (show off + (aadSize m.len off).toNat ≤ n by omega)
    have h2 := h.slice (show checksumOff m + sizeofSecurityChecksum ≤ n by
      simp only [checksumOff, sizeofSecurityChecksum]; omega)
    show securityDecrypt _ _ _ (slice d off (aadSize m.len off).toNat)
      (slice d (checksumOff m) sizeofSecurityChecksum) _ = _
    rw [hiv, ← h1, ← h2]
    rfl
  have hst : Agree n (txTimestampToMetaData m.data (off + 10) stamp)
      (txTimestampToMetaData d (off + 10) stamp) := h.write _ _
  obtain ⟨d', hd', hag⟩ := sealFrame_same env.evp
    (aoOpen env.evp c w.thread.rxSecurityContext m off).ctx hst none (rxIv c m off) 0 (checksumOff m)
    (show off + (aadSize m.len off).toNat ≤ n by omega)
  have hpay := hag.slice (show off + sizeofProfinetSecureHeader + c.payloadPattern.length ≤ n by
    simp only [sizeofProfinetSecureHeader]; omega)
  have hsame : aoDecode env c na w p { m with data := d } off stamp =
      { aoDecode env c na w p m off stamp with mbuf := { m with data := d' } } := by
    have hfid := read16_agree h (show off + 2 ≤ n by omega)
    have hts := timestamp_agree h (show off + 10 + 16 ≤ n by omega)
    simp only [aoDecode, hopen, hiv, hcnt, hfid, hts]
    have hlen' : Mbuf.len { m with data := d } = m.len := rfl
    have hck : checksumOff { m with data := d } = checksumOff m := rfl
    simp only [hlen', hck, hd', ← hpay]
  rw [hsame]
  exact ⟨rfl, hag⟩

theorem aoDecode_untouched (hs : Sized env.evp) (na : UInt64 → LogEntry) (w : World C D)
    (p : Mem UInt8) (stamp : UInt64) (hoff : off + 26 ≤ n) (hlen : m.len.toNat ≤ n)
    (h16 : 16 ≤ m.len.toNat) :
    Untouched n m.data (aoDecode env c na w p m off stamp).mbuf.data := by
  have hst : Untouched n m.data (txTimestampToMetaData m.data (off + 10) stamp) :=
    (Untouched.refl n m.data).write _ _ (by simp; omega)
  exact sealFrame_none_untouched hs hst _ _ _ _
    (by simp only [checksumOff, sizeofSecurityChecksum]; omega)

/-- Encryption: the ciphertext too. -/
theorem aeDecode_same (na : UInt64 → LogEntry) (w : World C D) (p : Mem UInt8) (stamp : UInt64)
    (h : Agree n m.data d) (hoff : off + 26 ≤ n) (hlen : m.len.toNat ≤ n)
    (hct : 60 ≤ m.len.toNat) (h18 : off ≤ 18) :
    SameFinding n (aeDecode env c na w p m off stamp)
      (aeDecode env c na w p { m with data := d } off stamp) := by
  have hsize := payloadSize_toNat hct
  have hiv := rxIv_agree (c := c) (m := m) h hoff
  have hcnt := rxCounter_agree (c := c) (m := m) h hoff
  have hopen : aeOpen env.evp c w.thread.rxSecurityContext { m with data := d } off =
      aeOpen env.evp c w.thread.rxSecurityContext m off := by
    have h1 := h.slice (show off + sizeofProfinetSecureHeader + (payloadSize m.len).toNat ≤ n by
      simp only [sizeofProfinetSecureHeader]; omega)
    have h2 := h.slice (show off + sizeofProfinetSecureHeader ≤ n by
      simp only [sizeofProfinetSecureHeader]; omega)
    have h3 := h.slice (show checksumOff m + sizeofSecurityChecksum ≤ n by
      simp only [checksumOff, sizeofSecurityChecksum]; omega)
    show securityDecrypt _ _ (some (slice d (off + sizeofProfinetSecureHeader)
        (payloadSize m.len).toNat)) (slice d off sizeofProfinetSecureHeader)
      (slice d (checksumOff m) sizeofSecurityChecksum) _ = _
    rw [hiv, ← h1, ← h2, ← h3]
    rfl
  have hst : Agree n (txTimestampToMetaData m.data (off + 10) stamp)
      (txTimestampToMetaData d (off + 10) stamp) := h.write _ _
  have hfid := read16_agree h (show off + 2 ≤ n by omega)
  have hts := timestamp_agree h (show off + 10 + 16 ≤ n by omega)
  have hck : checksumOff { m with data := d } = checksumOff m := rfl
  simp only [aeDecode, hopen, hiv, hcnt, hfid, hts, hck]
  rcases sealPayload_same env.evp (aeOpen env.evp c w.thread.rxSecurityContext m off).ctx hst
      w.thread.payloadPattern w.thread.payloadPatternLength (rxIv c m off)
      (off + sizeofProfinetSecureHeader) (checksumOff m)
      (show off + sizeofProfinetSecureHeader ≤ n by
        simp only [sizeofProfinetSecureHeader]; omega) with ⟨e, he, he'⟩ | ⟨s, d', hok, hok', hag⟩
  · simp only [he, he']
    rfl
  · simp only [hok, hok']
    exact ⟨rfl, hag⟩

theorem aeDecode_untouched (hs : Sized env.evp) (na : UInt64 → LogEntry) (w : World C D)
    (p : Mem UInt8) (stamp : UInt64) {r : Received C D} (hoff : off + 26 ≤ n)
    (hlen : m.len.toNat ≤ n) (hct : 60 ≤ m.len.toNat) (hfits : n ≤ maxFrameSize)
    (hbuf : off + 26 + w.thread.payloadPatternLength.toNat ≤ n)
    (hd : aeDecode env c na w p m off stamp = .ok r) :
    Untouched n m.data r.mbuf.data ∧ Untouched maxFrameSize p r.plaintext := by
  have hst : Untouched n m.data (txTimestampToMetaData m.data (off + 10) stamp) :=
    (Untouched.refl n m.data).write _ _ (by simp; omega)
  simp only [aeDecode] at hd
  split at hd
  · cases hd
  · rename_i again hagain
    cases hd
    constructor
    · refine sealPayload_untouched hs hst hagain hbuf ?_
      simp only [checksumOff, sizeofSecurityChecksum]
      omega
    · have hpt := hs.plaintext w.thread.rxSecurityContext
        (slice m.data (off + sizeofProfinetSecureHeader) (payloadSize m.len).toNat)
        (slice m.data off sizeofProfinetSecureHeader)
        (slice m.data (checksumOff m) sizeofSecurityChecksum) (rxIv c m off)
      have hsize := payloadSize_toNat hct
      rw [slice_length] at hpt
      refine (Untouched.refl maxFrameSize p).write 0 _ ?_
      show 0 + (securityDecrypt _ _ _ _ _ _).plaintext.length ≤ _
      omega

end

/-! ## Edits before mirroring -/

section
variable {n len : Nat} {a b : Mem UInt8}

theorem swapMacAddresses_untouched (a : Mem UInt8) (hn : 12 ≤ n) :
    Untouched n a (swapMacAddresses a len) :=
  fun i hi => swapMacAddresses_above a len i (by omega)

theorem swapMacAddresses_agree (h : Agree n a b) (hn : 12 ≤ n) :
    Agree n (swapMacAddresses a len) (swapMacAddresses b len) := by
  unfold swapMacAddresses
  split
  · exact h
  · simp only [ethAlen]
    rw [← h.slice (show 0 + 6 ≤ n by omega), ← h.slice (show 6 + 6 ≤ n by omega)]
    exact (h.write _ _).write _ _

theorem insertVlanTag_untouched (a : Mem UInt8) (tci : UInt16) (hn : 18 ≤ n) (hlen : len + 4 ≤ n) :
    Untouched n a (insertVlanTag a len tci) := by
  unfold insertVlanTag
  split
  · exact Untouched.refl n a
  · have hmove : Untouched n a (write a 16 (slice a 12 (len - 12))) :=
      (Untouched.refl n a).write 16 _ (by rw [slice_length]; omega)
    exact ((hmove.write 16 _ (by simp; omega)).write 12 _ (by simp; omega)).write 14 _
      (by simp; omega)

theorem insertVlanTag_agree (h : Agree n a b) (tci : UInt16) (hn : 18 ≤ n) (hlen : len ≤ n) :
    Agree n (insertVlanTag a len tci) (insertVlanTag b len tci) := by
  unfold insertVlanTag
  split
  · exact h
  · rw [← h.slice (show 12 + (len - 12) ≤ n by omega)]
    exact (((h.write _ _).write _ _).write _ _).write _ _

theorem vlanForward_local (c : ClassConfig) (w : World C D) (m : Mbuf) {lay : Layout}
    (hn : 18 ≤ n) (hlen : m.len.toNat ≤ n) (htag : lay.vlanTagMissing = true → m.len.toNat + 4 ≤ n) :
    Untouched n a (vlanForward c w { m with data := a } lay).2.data ∧
      (Agree n a b → Agree n (vlanForward c w { m with data := a } lay).2.data
        (vlanForward c w { m with data := b } lay).2.data) := by
  simp only [vlanForward]
  cases hmiss : lay.vlanTagMissing with
  | false => exact ⟨swapMacAddresses_untouched a (by omega),
      fun h => swapMacAddresses_agree h (by omega)⟩
  | true =>
    exact ⟨(insertVlanTag_untouched a _ hn (htag hmiss)).trans
        (swapMacAddresses_untouched _ (by omega)),
      fun h => swapMacAddresses_agree (insertVlanTag_agree h _ hn hlen) (by omega)⟩

end

/-- **Mirroring.**  The edits of every class stay inside a frame with room. -/
theorem forward_local {env : Env C D} {ty : FrameType} (hroom : Roomy env.app ty) {k : Nat}
    (hk : k < 2 ^ 16) (w : World C D) {m : Mbuf} {lay : Layout} (hadm : Admits env ty k m lay)
    (a b : Mem UInt8) :
    Untouched (env.app.cls ty).frameLength.toNat a
        ((rxHandler env ty).forward w { m with data := a } lay).2.data ∧
      (Agree (env.app.cls ty).frameLength.toNat a b →
        Agree (env.app.cls ty).frameLength.toNat
          ((rxHandler env ty).forward w { m with data := a } lay).2.data
          ((rxHandler env ty).forward w { m with data := b } lay).2.data) := by
  have h34 : 30 ≤ (env.app.cls ty).frameLength.toNat := by
    have := hroom.room
    have hoff : 14 ≤ getMetaDataOffset ty (env.app.mode ty) := by
      cases ty <;> cases env.app.mode _ <;> decide
    omega
  have hvlan (hv : isVlan ty = true) := admits_fits hv hk hroom.fits hadm
  cases ty with
  | tsnHigh | tsnLow | rtc | rta | l2 =>
    obtain ⟨hlay, hoff, hshort, -⟩ := hvlan rfl
    refine vlanForward_local _ w m (by omega) (by omega) ?_
    intro hmiss
    rw [hlay, layoutOf_off] at hshort
    have htag : m.tagged = false := by simpa [hlay, layoutOf] using hmiss
    simp only [htag, Bool.false_eq_true, if_false] at hshort
    omega
  | dcp | udpHigh | udpLow =>
    exact ⟨swapMacAddresses_untouched a (by omega), fun h => swapMacAddresses_agree h (by omega)⟩
  | lldp =>
    refine ⟨?_, fun h => (h.write _ _).write _ _⟩
    exact ((Untouched.refl _ a).write 6 _ (by simp; omega)).write (14 + 8) _ (by simp; omega)

/-! ## Decoding an accepted frame -/

/-- Where an accepted frame has its metadata and its payload. -/
structure Placed (env : Env C D) (ty : FrameType) (m : Mbuf) (lay : Layout) : Prop where
  payload : metaAt env.app ty lay.off + 16 + (env.app.cls ty).payloadPattern.length +
    (if env.app.mode ty = .none then 0 else 16) ≤ (env.app.cls ty).frameLength.toNat
  frameId : isProfinet ty = true → lay.off + 2 ≤ (env.app.cls ty).frameLength.toNat
  len : m.len.toNat ≤ (env.app.cls ty).frameLength.toNat
  secured : hasSecurity ty = true → lay.off ≤ 18 ∧ 18 ≤ m.len.toNat

theorem admits_placed {env : Env C D} {ty : FrameType} (hroom : Roomy env.app ty) {k : Nat}
    (hk : k < 2 ^ 16) {m : Mbuf} {lay : Layout} (hadm : Admits env ty k m lay) :
    Placed env ty m lay := by
  have hr := hroom.room
  cases hv : isVlan ty with
  | false =>
    obtain ⟨expected, hc⟩ := hadm
    obtain ⟨hlen, -⟩ := check_untagged_ok hv hc
    rw [expectedAfter, hv, if_neg Bool.false_ne_true] at hlen
    have hle : m.len.toNat ≤ (env.app.cls ty).frameLength.toNat := by rw [hlen]
    cases ty with
    | lldp | udpHigh | udpLow => exact ⟨hr, fun h => (nomatch h), hle, fun h => (nomatch h)⟩
    | tsnHigh | tsnLow | rtc | rta | dcp | l2 => cases hv
  | true =>
    obtain ⟨-, hoff, hshort, htype⟩ := admits_fits hv hk hroom.fits hadm
    have hmeta : metaAt env.app ty lay.off ≤ getMetaDataOffset ty (env.app.mode ty) := by
      cases ty with
      | tsnHigh | tsnLow | rtc | rta =>
        simp only [metaAt, getMetaDataOffset]
        split <;> omega
      | dcp =>
        simp only [metaAt, getMetaDataOffset]
        split <;> omega
      | l2 =>
        simp only [metaAt, getMetaDataOffset]
        omega
      | lldp | udpHigh | udpLow => cases hv
    refine ⟨by omega, ?_, by omega, ?_⟩
    · intro hp
      have := (metaDataOffset_ge ty (env.app.mode ty)).2 hp
      omega
    · intro hsec
      refine ⟨by omega, ?_⟩
      have hdcp : ty ≠ .dcp := by
        rintro rfl
        cases hsec
      simp only [typeOk, longEnough, hdcp, decide_false, Bool.false_or, Bool.and_eq_true,
        Bool.not_eq_true', decide_eq_false_iff_not, UInt64.lt_iff_toNat_lt] at htype
      simpa using htype.1

/-- **Decoding.**  With exact lengths, an accepted frame with room is decoded
inside its length, the plaintext array and nothing else. -/
theorem decode_local {env : Env C D} (hs : Sized env.evp) {ty : FrameType}
    (hroom : Roomy env.app ty) {w : World C D} (hw : SetUp env ty w) (p : Mem UInt8) {m : Mbuf}
    {lay : Layout} (hplaced : Placed env ty m lay) (hsizes : RxSizes (env.app.mode ty) m lay) :
    (∀ d, Agree (env.app.cls ty).frameLength.toNat m.data d →
        SameFinding (env.app.cls ty).frameLength.toNat ((rxHandler env ty).decode w p m lay)
          ((rxHandler env ty).decode w p { m with data := d } lay)) ∧
      ∀ r, (rxHandler env ty).decode w p m lay = .ok r →
        Untouched (env.app.cls ty).frameLength.toNat m.data r.mbuf.data ∧
          Untouched maxFrameSize p r.plaintext := by
  obtain ⟨hmeta, hfid, hlen, hsecured⟩ := hplaced
  by_cases hm : env.app.mode ty = .none
  · rw [if_pos hm] at hmeta
    constructor
    · intro d hag
      rw [decode_plain env ty hm, decode_plain env ty hm]
      refine plainDecode_same _ ?_ _ p hag (by omega)
      unfold decodeFrameId
      split
      · rename_i hp
        exact read16_agree hag (hfid hp)
      · rfl
    · intro r hr
      rw [decode_plain env ty hm] at hr
      cases hr
      exact ⟨plainDecode_untouched _ _ _ p m (by omega), Untouched.refl _ p⟩
  · obtain ⟨hsec, hmode⟩ := hasSecurity_of_mode hm
    obtain ⟨ao, ae, hd⟩ := decode_secured env hsec
    obtain ⟨h18, hm18⟩ := hsecured hsec
    have h60 := hroom.secured hm
    cases hc : (env.app.cls ty).securityMode with
    | none => exact absurd (hmode.trans hc) hm
    | ao =>
      rw [hmode, hc] at hsizes
      simp only [RxSizes, Exact] at hsizes
      simp only [hd, profinetDecode, hc]
      constructor
      · intro d hag
        exact aoDecode_same _ _ p _ hag (by omega) hlen (by omega)
      · intro r hr
        cases hr
        exact ⟨aoDecode_untouched hs _ _ p _ (by omega) hlen (by omega), Untouched.refl _ p⟩
    | ae =>
      rw [hmode, hc] at hsizes
      simp only [RxSizes, Exact] at hsizes
      simp only [hd, profinetDecode, hc]
      constructor
      · intro d hag
        exact aeDecode_same _ _ p _ hag (by omega) hlen (by omega) h18
      · intro r hr
        refine aeDecode_untouched hs _ _ p _ (by omega) hlen (by omega) hroom.fits ?_ hr
        have hsize := payloadSize_toNat (show 60 ≤ (env.app.cls ty).frameLength.toNat by omega)
        rw [World.tick_thread, hw hsec, hsize]
        omega

/-! ## The exact condition -/

/-- What the sanity check leaves open. UDP: room for the Ethernet, IP and UDP
headers too. DCP: the pattern fits the message buffer, with its terminating NUL.
Classes with security: after `k` untagged frames the accepted length, if frames of
18 bytes or more are accepted at all, still covers what is subtracted from it. -/
def Covered (cfg : AppConfig) (ty : FrameType) (k : Nat) : Prop :=
  let len := (cfg.cls ty).frameLength.toNat
  let pattern := (cfg.cls ty).payloadPattern.length
  match ty with
  | .udpHigh | .udpLow => 14 + 20 + 8 + 16 + pattern ≤ len
  | .dcp => pattern < 128 ∨ len < 4 * k
  | .tsnHigh | .tsnLow | .rtc | .rta =>
    match cfg.mode ty with
    | .none => True
    | .ao => 34 + 4 * k ≤ len ∨ len < 18 + 4 * k
    | .ae => 64 + 4 * k ≤ len ∨ len < 18 + 4 * k
  | .lldp | .l2 => True

theorem covered_roomy {withMqtt : Bool} {cfg : AppConfig}
    (hsane : configSanityCheck withMqtt cfg = .ok ()) {ty : FrameType} {k : Nat}
    (h : Covered cfg ty k) : Roomy cfg ty := by
  refine ⟨?_, (frameLength_bounds hsane ty).2⟩
  cases ty with
  | udpHigh | udpLow =>
    simp only [Covered] at h
    simp only [getMetaDataOffset, AppConfig.mode, hasSecurity, Bool.false_eq_true, if_false, if_true]
    omega
  | tsnHigh | tsnLow | rtc | rta | dcp | lldp | l2 =>
    exact frameLength_room hsane _ (by decide) (by decide)

/-- Covered lengths do not wrap. -/
theorem covered_rxSizes {env : Env C D} {ty : FrameType} {k : Nat} (h : Covered env.app ty k)
    (hroom : Roomy env.app ty) (hk : k < 2 ^ 16) {m : Mbuf} {lay : Layout}
    (hadm : Admits env ty k m lay) : RxSizes (env.app.mode ty) m lay := by
  by_cases hm : env.app.mode ty = .none
  · rw [hm]
    trivial
  · obtain ⟨hsec, -⟩ := hasSecurity_of_mode hm
    obtain ⟨hv, -⟩ := secure_class hsec
    obtain ⟨-, hoff, hshort, -⟩ := admits_fits hv hk hroom.fits hadm
    have h18 := ((admits_placed hroom hk hadm).secured hsec).2
    have hcov : match env.app.mode ty with
        | .none => True
        | .ao => 34 + 4 * k ≤ (env.app.cls ty).frameLength.toNat ∨
            (env.app.cls ty).frameLength.toNat < 18 + 4 * k
        | .ae => 64 + 4 * k ≤ (env.app.cls ty).frameLength.toNat ∨
            (env.app.cls ty).frameLength.toNat < 18 + 4 * k := by
      cases ty with
      | tsnHigh | tsnLow | rtc | rta => exact h
      | dcp | lldp | udpHigh | udpLow | l2 => cases hsec
    cases hmode : env.app.mode ty with
    | none => exact absurd hmode hm
    | ao =>
      rw [hmode] at hcov
      have hle : lay.off + 16 ≤ m.len.toNat := by
        rcases hcov with h34 | hnone
        · omega
        · omega
      show (aadSize m.len lay.off).toNat + (lay.off + 16) = m.len.toNat
      rw [aadSize_toNat hle]
      omega
    | ae =>
      rw [hmode] at hcov
      have hle : 60 ≤ m.len.toNat := by
        rcases hcov with h64 | hnone
        · omega
        · omega
      show (payloadSize m.len).toNat + 60 = m.len.toNat
      rw [payloadSize_toNat hle]
      omega

theorem buildSizes_of_room {cfg : AppConfig} {ty : FrameType} (h : Roomy cfg ty) :
    BuildSizes cfg ty := by
  have hroom := h.room
  have hexact {len : UInt64} {j : Nat} (hj : j ≤ len.toNat) : Exact (len - UInt64.ofNat j) len j := by
    unfold Exact
    rw [toNat_sub_ofNat hj]
    omega
  have hsecure (hm : cfg.mode ty ≠ .none) : 18 + 16 ≤ (cfg.cls ty).frameLength.toNat ∧
      Exact (payloadSize (cfg.cls ty).frameLength) (cfg.cls ty).frameLength 60 := by
    have h60 := h.secured hm
    refine ⟨by omega, ?_⟩
    unfold Exact
    rw [payloadSize_toNat (by omega)]
    omega
  cases ty with
  | udpHigh | udpLow =>
    simp only [getMetaDataOffset] at hroom
    exact ⟨hexact (j := 14) (by omega), hexact (j := 34) (by omega)⟩
  | tsnHigh | tsnLow | rtc | rta | dcp | lldp | l2 => exact hsecure

/-- A decoded frame without security has a payload as long as the pattern. -/
theorem plain_payload_length {env : Env C D} {ty : FrameType} (hm : env.app.mode ty = .none)
    {w : World C D} {p : Mem UInt8} {m : Mbuf} {lay : Layout} {r : Received C D}
    (h : (rxHandler env ty).decode w p m lay = .ok r) :
    r.payload.length = (env.app.cls ty).payloadPattern.length := by
  rw [plain_payload env ty hm h, slice_length]

theorem covered_safe {withMqtt : Bool} {env : Env C D} (hs : Sized env.evp)
    (hsane : configSanityCheck withMqtt env.app = .ok ()) {ty : FrameType} {k : Nat}
    (hk : k < 2 ^ 16) (h : Covered env.app ty k) : Safe env ty k := by
  have hroom := covered_roomy hsane h
  have hlen (m : Mbuf) : (initializeFrame env.app env.mac ty m).dataLen.toNat =
      (env.app.cls ty).frameLength.toNat := by
    rw [(initializeFrame_lengths env.app env.mac ty m).1, toUInt16_toNat hroom.fits]
  constructor
  · exact fun m => initializeFrame_untouched hroom env.mac m
  · intro n seq t w w' m m' hw hp
    exact prepareFrame_untouched hs hroom hw (initializeFrame_untouched hroom env.mac m) (hlen m) hp
  · exact buildSizes_of_room hroom
  · intro m d hag
    have h18 : 18 ≤ (env.app.cls ty).frameLength.toNat := by
      have hr := hroom.room
      have hoff : 14 ≤ getMetaDataOffset ty (env.app.mode ty) := by
        cases ty <;> cases env.app.mode _ <;> decide
      omega
    exact check_agree env ty h18 hag _
  · intro w p m lay d hw hadm hag
    exact (decode_local hs hroom hw p (admits_placed hroom hk hadm)
      (covered_rxSizes h hroom hk hadm)).1 d hag
  · intro w p m lay r hw hadm hr
    exact (decode_local hs hroom hw p (admits_placed hroom hk hadm)
      (covered_rxSizes h hroom hk hadm)).2 r hr
  · intro w m lay d d' hadm
    exact forward_local hroom hk w hadm d d'
  · intro w p m lay r hadm hr
    cases ty with
    | tsnHigh | tsnLow | rtc | rta | lldp | udpHigh | udpLow | l2 => exact ⟨_, rfl⟩
    | dcp =>
      obtain ⟨-, -, hshort, -⟩ := admits_fits rfl hk hroom.fits hadm
      have hlt : (env.app.cls .dcp).payloadPattern.length < 128 := by
        rcases h with hlt | hnone
        · exact hlt
        · omega
      refine ⟨_, if_pos (.inl ?_)⟩
      rw [plain_payload_length rfl hr]
      exact hlt
  · intro m lay hadm
    exact covered_rxSizes h hroom hk hadm

/-! ## The condition is needed -/

/-- A PROFINET frame of a given length, with or without a tag, all other bytes 1. -/
def probe (tagged : Bool) (len : Nat) : Mbuf :=
  ⟨0, if tagged then write (write (fun _ => 1) 12 (be16 ethP8021Q)) 16 (be16 ethPProfinetRt)
    else write (fun _ => 1) 12 (be16 ethPProfinetRt), UInt16.ofNat len, UInt32.ofNat len⟩

theorem probe_header (tagged : Bool) (len : Nat) :
    (probe tagged len).tagged = tagged ∧ (probe tagged len).proto = ethPProfinetRt := by
  cases tagged with
  | true =>
    have h12 : read16 (probe true len).data 12 = ethP8021Q := by
      simp only [probe, if_true]
      rw [read16_write_disjoint _ 16 _ 12 (by simp), read16_write_same]
    have h16 : read16 (probe true len).data 16 = ethPProfinetRt := by
      simp only [probe, if_true]
      rw [read16_write_same]
    have ht : (probe true len).tagged = true := by simp only [Mbuf.tagged, h12, decide_true]
    exact ⟨ht, by simp only [Mbuf.proto, ht, if_true, h16]⟩
  | false =>
    have h12 : read16 (probe false len).data 12 = ethPProfinetRt := by
      simp only [probe, Bool.false_eq_true, if_false]
      rw [read16_write_same]
    have ht : (probe false len).tagged = false := by
      simp only [Mbuf.tagged, h12]
      decide
    exact ⟨ht, by simp only [Mbuf.proto, ht, Bool.false_eq_true, if_false, h12]⟩

theorem probe_len (tagged : Bool) {len : Nat} (h : len ≤ maxFrameSize) :
    (probe tagged len).len.toNat = len := by
  rw [Mbuf.len_toNat]
  show (UInt32.ofNat len).toNat = len
  rw [UInt32.toNat_ofNat']
  exact Nat.mod_eq_of_lt (Nat.lt_of_le_of_lt h (by decide))

/-- There is no NUL behind the header of the probe. -/
theorem probe_payload (len k : Nat) : 0 ∉ slice (probe true len).data 36 k := by
  intro h
  obtain ⟨i, -, hi⟩ := List.mem_map.1 h
  have hone : (probe true len).data (36 + i) = 1 := by
    simp only [probe, if_true]
    rw [write_above _ _ _ _ (by simp; omega), write_above _ _ _ _ (by simp; omega)]
  rw [hone] at hi
  exact absurd hi (by decide)

/-- The probe of the expected length is accepted. -/
theorem probe_admitted {env : Env C D} {ty : FrameType} (hp : isProfinet ty = true)
    (hfits : (env.app.cls ty).frameLength.toNat ≤ maxFrameSize) (tagged : Bool) {k len : Nat}
    (hlen : 4 * k + (if tagged then 0 else 4) + len = (env.app.cls ty).frameLength.toNat)
    (hshort : ty = .dcp ∨ 18 ≤ len) : Admits env ty k (probe tagged len) (layoutOf (probe tagged len)) := by
  have hv : isVlan ty = true := by cases ty <;> first | rfl | cases hp
  obtain ⟨refuse, wrong, -, hc⟩ := check_vlan env ty hv
  obtain ⟨ht, hproto⟩ := probe_header tagged len
  have hnat := probe_len tagged (show len ≤ maxFrameSize by omega)
  have hlong : longEnough ty (probe tagged len) = true := by
    rcases hshort with hd | h18
    · simp [longEnough, hd]
    · have : ¬ (probe tagged len).len < 18 := by
        rw [UInt64.lt_iff_toNat_lt, hnat]
        exact Nat.not_lt.mpr h18
      simp [longEnough, this]
  have htype : typeOk env ty (probe tagged len) = true := by
    simp only [typeOk, hlong, Bool.true_and, hproto]
    cases ty with
    | tsnHigh | tsnLow | rtc | rta | dcp => rfl
    | lldp | udpHigh | udpLow | l2 => cases hp
  have hlow : lowers ty (probe tagged len) = if tagged then 0 else 4 := by
    simp only [lowers, hlong, ht, Bool.true_and]
    cases tagged <;> rfl
  have hexp : (probe tagged len).len = expectedAfter env.app ty k - lowers ty (probe tagged len) := by
    have hL := (env.app.cls ty).frameLength.toNat_lt
    rw [← UInt64.toNat_inj, hnat, hlow, expectedAfter, if_pos hv, UInt64.toNat_sub, UInt64.toNat_sub,
      UInt64.toNat_ofNat']
    cases tagged with
    | true =>
      simp only [if_true, UInt64.toNat_zero] at hlen ⊢
      omega
    | false =>
      simp only [Bool.false_eq_true, if_false, UInt64.reduceToNat] at hlen ⊢
      omega
  refine ⟨expectedAfter env.app ty k - lowers ty (probe tagged len), ?_⟩
  rw [hc, checked, htype, if_pos rfl, if_pos hexp]

/-- UDP: the last byte of the pattern, or of the metadata, shows behind the frame. -/
theorem udp_room_of_untouched {c : ClassConfig} {source : Vector UInt8 6}
    (h : ∀ m : Mbuf, Untouched c.frameLength.toNat m.data (udpInitializeFrame c source m).data) :
    58 + c.payloadPattern.length ≤ c.frameLength.toNat := by
  by_cases hne : c.payloadPattern = []
  · have h1 := h ⟨0, fun _ => 1, 0, 0⟩
    simp only [udpInitializeFrame, hne, write_nil] at h1
    have hzeros : List.replicate sizeofReferenceMetaData (0 : UInt8) ≠ [] := by decide
    have hlast : (1 : UInt8) ≠ (List.replicate sizeofReferenceMetaData 0).getLast hzeros := by
      rw [List.getLast_replicate]
      decide
    have hfit := untouched_write_fits 42 hzeros hlast h1
    simpa [hne, sizeofReferenceMetaData] using hfit
  · have h1 := h ⟨0, fun _ => c.payloadPattern.getLast hne + 1, 0, 0⟩
    have hlast : c.payloadPattern.getLast hne + 1 ≠ c.payloadPattern.getLast hne := by
      intro heq
      simp at heq
    exact untouched_write_fits 58 hne hlast h1

theorem safe_covered {env : Env C D} (ctx : C) (dev : D) {ty : FrameType} {k : Nat}
    (hfits : (env.app.cls ty).frameLength.toNat ≤ maxFrameSize) (h : Safe env ty k) :
    Covered env.app ty k := by
  have hsecured (hp : isProfinet ty = true) (hty : ty ≠ .dcp) (tagged : Bool)
      (h18 : 18 + 4 * k + (if tagged then 0 else 4) ≤ (env.app.cls ty).frameLength.toNat) :
      RxSizes (env.app.mode ty)
        (probe tagged ((env.app.cls ty).frameLength.toNat - 4 * k - (if tagged then 0 else 4)))
        (layoutOf (probe tagged
          ((env.app.cls ty).frameLength.toNat - 4 * k - (if tagged then 0 else 4)))) :=
    h.rxSizes _ _ (probe_admitted hp hfits tagged (by omega) (.inr (by omega)))
  have hao (hp : isProfinet ty = true) (hty : ty ≠ .dcp) (hm : env.app.mode ty = .ao) :
      34 + 4 * k ≤ (env.app.cls ty).frameLength.toNat ∨
        (env.app.cls ty).frameLength.toNat < 18 + 4 * k := by
    by_contra hno
    have hrx := hsecured hp hty true (by simp only [if_true]; omega)
    rw [hm] at hrx
    simp only [RxSizes, Exact, if_true, Nat.sub_zero, layoutOf_off, (probe_header _ _).1] at hrx
    rw [probe_len true (by omega)] at hrx
    omega
  have hae (hp : isProfinet ty = true) (hty : ty ≠ .dcp) (hm : env.app.mode ty = .ae) :
      64 + 4 * k ≤ (env.app.cls ty).frameLength.toNat ∨
        (env.app.cls ty).frameLength.toNat < 18 + 4 * k := by
    by_contra hno
    have hrx := hsecured hp hty true (by simp only [if_true]; omega)
    rw [hm] at hrx
    simp only [RxSizes, Exact, if_true, Nat.sub_zero] at hrx
    rw [probe_len true (by omega)] at hrx
    have hrx' := hsecured hp hty false (by simp only [Bool.false_eq_true, if_false]; omega)
    rw [hm] at hrx'
    simp only [RxSizes, Exact, Bool.false_eq_true, if_false] at hrx'
    rw [probe_len false (by omega)] at hrx'
    omega
  cases ty with
  | udpHigh | udpLow => exact udp_room_of_untouched h.build
  | lldp | l2 => trivial
  | dcp =>
    by_cases hk : (env.app.cls .dcp).frameLength.toNat < 4 * k
    · exact .inr hk
    · refine .inl ?_
      have hadm : Admits env .dcp k (probe true ((env.app.cls .dcp).frameLength.toNat - 4 * k))
          (layoutOf (probe true ((env.app.cls .dcp).frameLength.toNat - 4 * k))) :=
        probe_admitted rfl hfits true (by simp only [if_true]; omega) (.inl rfl)
      obtain ⟨r, hr⟩ := decode_total env .dcp (World.fresh env .dcp ctx dev) (fun _ => 0)
        (probe true ((env.app.cls .dcp).frameLength.toNat - 4 * k)) (layoutOf _)
        (fun hm => nomatch hm)
      obtain ⟨entry, hentry⟩ := h.message _ _ _ _ _ hadm hr
      have hlen := plain_payload_length (show env.app.mode .dcp = .none from rfl) hr
      by_contra hbig
      have hover : (rxHandler env .dcp).payloadText r.sequenceCounter r.payload =
          .error .overrun := by
        have hnul : 0 ∉ r.payload := by
          rw [plain_payload env .dcp rfl hr]
          have hoff : metaAt env.app .dcp (layoutOf (probe true
              ((env.app.cls .dcp).frameLength.toNat - 4 * k))).off + 16 = 36 := by
            rw [layoutOf_off, (probe_header _ _).1]
            rfl
          rw [hoff]
          exact probe_payload _ _
        show dcpPayloadText r.sequenceCounter r.payload = _
        rw [dcpPayloadText, if_neg]
        rintro (hlt | ⟨-, hmem⟩)
        · exact hbig (hlen ▸ hlt)
        · exact hnul hmem
      rw [hover] at hentry
      cases hentry
  | tsnHigh | tsnLow | rtc | rta =>
    simp only [Covered]
    split
    · trivial
    · exact hao rfl (by decide) (by assumption)
    · exact hae rfl (by decide) (by assumption)

theorem digestEvp_sized : Sized digestEvp where
  tag c pt aad iv := Nat.le_of_eq (digestEvp_lawful.tag_length c pt aad iv)
  ciphertext c pt aad iv := Nat.le_of_eq (digestEvp_lawful.ciphertext_length c pt aad iv)
  plaintext c ct aad tag iv := by simp [securityDecrypt, decryptTail, digestEvp]

def encryptedMirror : Env DigestCtx Unit := Env.small (AppConfig.small .ae 200 1 [1, 2, 3]) true

theorem encryptedMirror_sane : configSanityCheck false encryptedMirror.app = .ok () := by rfl

/-- A checked configuration with UDP frames of 30 bytes, a DCP pattern of 128
bytes and encrypted RTC frames of 60 bytes. -/
def looseConfig : AppConfig :=
  { AppConfig.small .none 200 1 [1, 2, 3] with
    cls := fun
      | .udpHigh => ClassConfig.small .none 30 1 [1, 2, 3]
      | .dcp => ClassConfig.small .none 200 1 (List.replicate 128 7)
      | .rtc => ClassConfig.small .ae 60 1 []
      | .l2 => { ClassConfig.small .none 200 1 [1, 2, 3] with enabled := false }
      | _ => ClassConfig.small .none 200 1 [1, 2, 3] }

def looseMirror : Env DigestCtx Unit := Env.small looseConfig true

set_option maxRecDepth 2000 in
theorem looseMirror_sane : configSanityCheck false looseMirror.app = .ok () := by rfl

end Rtdk.Bounds
