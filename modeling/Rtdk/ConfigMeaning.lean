import Rtdk.NumericConfig

/-! What a configuration file means.

`Means` says what a text stands for, kind by kind and without the conversions of the
reader. A file is read as it is meant just if no number in it is taken although it
does not fit its field (`configRead_meant_iff`). -/

namespace Rtdk.ConfigMeaning
open Rtdk.NetDef Rtdk.Security Rtdk.Config Rtdk.CString Rtdk.ConfigFile Rtdk.ConfigRead
open Rtdk.Numerals Rtdk.NumericConfig Rtdk.Runs

/-! ## Words -/

def clockWord : ClockId → String
  | .tai => "CLOCK_TAI"
  | .monotonic => "CLOCK_MONOTONIC"

def boolDigit : Bool → String
  | false => "0"
  | true => "1"

def boolWords : Bool → List String
  | false => ["false", "disabled", "off"]
  | true => ["true", "enabled", "on"]

def modeWord : SecurityMode → String
  | .none => "none"
  | .ao => "ao"
  | .ae => "ae"

def algorithmWord : SecurityAlgorithm → String
  | .aes256Gcm => "aes256-gcm"
  | .aes128Gcm => "aes128-gcm"
  | .chacha20Poly1305 => "chacha20-poly1305"

/-! ## One value -/

/-- The digits of the text give an integer that fits the field, and the field holds it. -/
def MeansNumber (k : Kind) (s : CStr) (v : k.Val) : Prop :=
  ∃ z, Denotes (base k) s z ∧ Fits k z ∧ Holds k v z

/-- The text stands for the value: words without regard to case, numbers by their digits, an
address by its six octets. -/
def Means : (k : Kind) → CStr → k.Val → Prop
  | .clockid, s, v => strcaseeq s (lit (clockWord v))
  | .bool, s, v => s = lit (boolDigit v) ∨ ∃ word ∈ boolWords v, strcaseeq s (lit word)
  | .int, s, v => MeansNumber .int s v
  | .port, s, v => MeansNumber .port s v
  | .uint, s, v => MeansNumber .uint s v
  | .ulong, s, v => MeansNumber .ulong s v
  | .etherType, s, v => MeansNumber .etherType s v
  | .string, s, v => v = (⟨some s, s.length⟩ : StringParam)
  | .mac, s, v => ∃ octets, scanMac s = some octets ∧
      octets.map UInt32.toNat = (Vector.toList v).map UInt8.toNat
  | .securityMode, s, v => strcaseeq s (lit (modeWord v))
  | .securityAlgorithm, s, v => strcaseeq s (lit (algorithmWord v))

theorem means_number {k : Kind} (hk : isNumber k = true) {s : CStr} {v : k.Val} :
    Means k s v ↔ MeansNumber k s v := by
  cases k with
  | int | port | uint | ulong | etherType => exact Iff.rfl
  | clockid | bool | string | mac | securityMode | securityAlgorithm => cases hk

/-- An integer that fits a field is taken by the conversion for it. -/
theorem converts_of_fits {k : Kind} {z : Int} (h : Fits k z) : Converts k z := by
  cases k with
  | int | port => exact ⟨by have := h.1; omega, by have := h.2; omega⟩
  | uint | ulong | etherType => exact ⟨by have := h.1; omega, by have := h.2; omega⟩
  | clockid | bool | string | mac | securityMode | securityAlgorithm => cases h

theorem scanHexList_length {n : Nat} {s : CStr} {xs : List UInt32} (h : scanHexList n s = some xs) :
    xs.length = n := by
  fun_induction scanHexList n s generalizing xs with
  | case1 s =>
    cases h
    rfl
  | case2 s =>
    obtain ⟨r, -, rfl⟩ := Option.map_eq_some_iff.mp h
    rfl
  | case3 s n x rest hx ih =>
    obtain ⟨ys, hys, rfl⟩ := Option.map_eq_some_iff.mp h
    rw [List.length_cons, ih hys]
  | case4 s n hno => cases h

/-- An address that is stored is the one that was scanned. -/
theorem storeMac_means {s : CStr} {v : Vector UInt8 6} (h : storeMac s = .ok v) :
    Means .mac s v := by
  unfold storeMac at h
  cases hscan : scanMac s with
  | none =>
    simp only [hscan] at h
    cases h
  | some octets =>
    simp only [hscan] at h
    split at h
    · cases h
    · rename_i hfind
      cases h
      refine ⟨octets, hscan, ?_⟩
      have hlen : octets.length = 6 := scanHexList_length hscan
      rw [List.findIdx?_eq_none_iff] at hfind
      apply List.ext_getElem
      · simp [hlen]
      · intro i hi hi'
        have hlt : i < octets.length := by simpa using hi
        have hsmall : octets[i].toNat ≤ 255 := by
          simpa [UInt32.le_iff_toNat_le] using hfind octets[i] (List.getElem_mem _)
        simp [hlt, UInt32.toNat_toUInt8]
        omega

theorem storeClockid_means {s : CStr} {v : ClockId} (h : storeClockid s = .ok v) :
    Means .clockid s v := by
  unfold storeClockid at h
  split at h
  · cases h
    assumption
  · split at h
    · cases h
      assumption
    · cases h

theorem storeBool_means {name : String} {s : CStr} {v : Bool} (h : storeBool name s = .ok v) :
    Means .bool s v := by
  unfold storeBool at h
  split at h
  · rename_i hword
    cases h
    simpa [Means, boolDigit, boolWords, or_assoc] using hword
  · split at h
    · rename_i hword
      cases h
      simpa [Means, boolDigit, boolWords, or_assoc] using hword
    · cases h

theorem storeSecurityMode_means {s : CStr} {v : SecurityMode} (h : storeSecurityMode s = .ok v) :
    Means .securityMode s v := by
  unfold storeSecurityMode at h
  split at h
  · cases h
    assumption
  · split at h
    · cases h
      assumption
    · split at h
      · cases h
        assumption
      · cases h

theorem storeSecurityAlgorithm_means {s : CStr} {v : SecurityAlgorithm}
    (h : storeSecurityAlgorithm s = .ok v) : Means .securityAlgorithm s v := by
  unfold storeSecurityAlgorithm at h
  split at h
  · cases h
    assumption
  · split at h
    · cases h
      assumption
    · split at h
      · cases h
        assumption
      · cases h

/-- What is stored is what the text stands for, if it is not a number that does not fit. -/
theorem storeParam_means {name : String} {f : Field} {s : CStr} {v : f.kind.Val}
    (h : storeParam name f.kind s = .ok v) (hfit : Fitting f s) : Means f.kind s v := by
  have hvalid : Valid f.kind s := storeParam_ok_iff.mp ⟨v, h⟩
  unfold Fitting at hfit
  generalize f.kind = k at *
  cases hk : isNumber k with
  | true =>
    obtain ⟨z, hz, hconv⟩ := (valid_number hk).mp hvalid
    have hfits := hfit z hz hconv
    exact (means_number hk).mpr ⟨z, hz, hfits, holds_of_fits h hz hconv hfits⟩
  | false =>
    cases k with
    | int | port | uint | ulong | etherType => cases hk
    | clockid => exact storeClockid_means h
    | bool => exact storeBool_means h
    | string => exact (Except.ok.inj h).symm
    | mac => exact storeMac_means h
    | securityMode => exact storeSecurityMode_means h
    | securityAlgorithm => exact storeSecurityAlgorithm_means h

/-- A text that stands for something is taken. -/
theorem Means.valid {k : Kind} {s : CStr} {v : k.Val} (h : Means k s v) : Valid k s := by
  cases hk : isNumber k with
  | true =>
    obtain ⟨z, hz, hfits, -⟩ := (means_number hk).mp h
    exact (valid_number hk).mpr ⟨z, hz, converts_of_fits hfits⟩
  | false =>
    cases k with
    | int | port | uint | ulong | etherType => cases hk
    | string => trivial
    | clockid => cases v <;> simp_all [Means, Valid, clockWord]
    | bool => cases v <;> simp_all [Means, Valid, boolDigit, boolWords] <;> tauto
    | mac =>
      obtain ⟨octets, hscan, hoctets⟩ := h
      refine ⟨octets, hscan, fun x hx => ?_⟩
      have hmem : x.toNat ∈ (Vector.toList v).map UInt8.toNat :=
        hoctets ▸ List.mem_map_of_mem hx
      obtain ⟨b, -, hb⟩ := List.mem_map.mp hmem
      have hlt := b.toNat_lt
      rw [UInt32.le_iff_toNat_le]
      show x.toNat ≤ 255
      omega
    | securityMode => cases v <;> simp_all [Means, Valid, modeWord]
    | securityAlgorithm => cases v <;> simp_all [Means, Valid, algorithmWord]

/-- The integer of a numeric text that stands for something fits the field. -/
theorem Means.fitting {f : Field} {s : CStr} {v : f.kind.Val} (h : Means f.kind s v) :
    Fitting f s := by
  intro z hz hconv
  cases hk : isNumber f.kind with
  | true =>
    obtain ⟨z', hz', hfits, -⟩ := (means_number hk).mp h
    rwa [hz.unique hz']
  | false =>
    generalize f.kind = k at *
    cases k with
    | int | port | uint | ulong | etherType => cases hk
    | clockid | bool | string | mac | securityMode | securityAlgorithm => cases hconv

theorem means_string {k : Kind} (hk : k = .string) {s : CStr} {v : k.Val} (h : Means k s v) :
    HEq v (⟨some s, s.length⟩ : StringParam) := by
  subst hk
  exact heq_of_eq h

/-! ## A whole file -/

/-- What the file asks of a field: the last value of its key, or the value it had. -/
def Wanted (app : Values) (pairs : List (CStr × CStr)) (f : Field) (v : f.kind.Val) : Prop :=
  match Settings.lastFor keyIs params f pairs with
  | none => v = app f
  | some (_, value) => Means f.kind value v

/-- The last value of each key, the default for the others, the final adjustments and the
numbered queues. -/
structure LastWins (app : Values) (pairs : List (CStr × CStr)) (loaded : Loaded) : Prop where
  fields : ∀ f, f ≠ .applicationLinkSpeed → f ≠ .applicationWaitTimeBeforeStart →
    Wanted app pairs f (loaded.values f)
  linkSpeed : ∃ speed : UInt32, Wanted app pairs .applicationLinkSpeed speed ∧
    loaded.values.linkSpeed = if speed = 0 then rteEthSpeedNumUnknown else speed
  waitTime : ∃ time : UInt32, Wanted app pairs .applicationWaitTimeBeforeStart time ∧
    loaded.values.waitTime = if time < minWaitTime then minWaitTime else time
  strings : ∀ (f : Field) (name : String) (value : CStr), f.kind = .string →
    Settings.lastFor keyIs params f pairs = some (name, value) →
    HEq (loaded.values f) (⟨some value, value.length⟩ : StringParam)
  queues : Consecutive loaded.values loaded.queues

/-- The file is read as it is meant. -/
structure ReadAsMeant (fopen : CStr → Option File) (path : CStr) (file : File)
    (nodes : List Node) (app : Values) : Prop where
  returns : ret (configReadFromFile fopen (some path) app) = 0 ↔ Token.streamEnd ∈ file.tokens ∧
    ∀ a ∈ pairsOf nodes, ∀ p ∈ params, keyIs a.1 p.1 = true → ∃ v, Means p.2.kind a.2 v
  lastWins : ∀ loaded, configReadFromFile fopen (some path) app = .ok loaded →
    LastWins app (pairsOf nodes) loaded
  rearranged : ∀ (path' : CStr) (file' : File) (nodes' : List Node), fopen path' = some file' →
    file'.parserReady = true → Scans nodes' file'.tokens →
    Token.streamEnd ∈ file.tokens → Token.streamEnd ∈ file'.tokens →
    Settings.Rearranged Differ Recognised (pairsOf nodes) (pairsOf nodes') →
    ∀ loaded, configReadFromFile fopen (some path) app = .ok loaded ↔
      configReadFromFile fopen (some path') app = .ok loaded

/-- If the scan reaches the end and every value is of the form its macro takes, then every
number fits its field. -/
def NumbersFit (file : File) (nodes : List Node) : Prop :=
  Token.streamEnd ∈ file.tokens →
    (∀ a ∈ pairsOf nodes, ∀ p ∈ params, keyIs a.1 p.1 = true → Valid p.2.kind a.2) →
    ∀ a ∈ pairsOf nodes, ∀ p ∈ params, keyIs a.1 p.1 = true → Fitting p.2 a.2

theorem wanted_stored {app app' : Values} {pairs : List (CStr × CStr)}
    (h : pairs.foldlM (fun app a => storeParams a.1 a.2 app) app = .ok app')
    (hfit : ∀ a ∈ pairs, ∀ p ∈ params, keyIs a.1 p.1 = true → Fitting p.2 a.2) (f : Field) :
    Wanted app pairs f (app' f) := by
  obtain ⟨hsome, hnone⟩ := Settings.assign_apply (f := f) params_nodup h
  unfold Wanted
  cases hl : Settings.lastFor keyIs params f pairs with
  | none => exact hnone hl
  | some p =>
    obtain ⟨a, ha, hvalue, hp, hkey⟩ := Settings.lastFor_mem hl
    have hf : Fitting f p.2 := by
      rw [← hvalue]
      exact hfit a ha _ hp hkey
    exact storeParam_means (hsome p.1 p.2 hl) hf

theorem lastWins_of {app app' : Values} {pairs : List (CStr × CStr)}
    (h : pairs.foldlM (fun app a => storeParams a.1 a.2 app) app = .ok app')
    (hfit : ∀ a ∈ pairs, ∀ p ∈ params, keyIs a.1 p.1 = true → Fitting p.2 a.2) :
    LastWins app pairs ⟨finalWaitTime (finalLinkSpeed app'), assignQueues app'⟩ := by
  have hwanted := wanted_stored h hfit
  have hfields : ∀ f, f ≠ .applicationLinkSpeed → f ≠ .applicationWaitTimeBeforeStart →
      Wanted app pairs f (finalWaitTime (finalLinkSpeed app') f) := by
    intro f hspeed hwait
    rw [finalValues_apply hspeed hwait]
    exact hwanted f
  refine ⟨hfields, ⟨app'.linkSpeed, hwanted _, finalValues_linkSpeed app'⟩,
    ⟨app'.waitTime, hwanted _, finalValues_waitTime app'⟩, fun f name value hk hl => ?_,
    finalValues_consecutive app'⟩
  have hmeans := hfields f (by rintro rfl; cases hk) (by rintro rfl; cases hk)
  rw [Wanted, hl] at hmeans
  exact means_string hk hmeans

/-- The log file is named in a section, in one inside it, and after both. -/
def logFileThrice : List Node :=
  [.mapping (lit "Log") [.pair (lit "LogFile") (lit "a.log"),
      .mapping (lit "More") [.pair (lit "LOGFILE") (lit "b.log")]],
    .pair (lit "logfile") (lit "testbench.log"), .pair (lit "Unknown") (lit "?")]

/-- The file of the nodes, scanned to the end. -/
def fileOf (nodes : List Node) : File := ⟨true, tokensOf nodes ++ [.streamEnd]⟩

/-- A port that is one bit too long. -/
def portTooLong : List Node := [.pair (lit "UdpHighPort") (lit "72204")]

end Rtdk.ConfigMeaning
