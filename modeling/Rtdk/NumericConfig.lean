import Rtdk.ConfigRead

/-! The numbers in a configuration file.

Every numeric field takes what its conversion takes, a `long` or an `unsigned long
long`, and then keeps as many bits of it as it has. So a number is stored as it is
written just if it fits the field; other numbers that fit the conversion are taken
all the same, modulo a power of two. -/

namespace Rtdk.NumericConfig
open Rtdk.CString Rtdk.ConfigFile Rtdk.ConfigRead Rtdk.Numerals Rtdk.Runs

def isNumber : Kind → Bool
  | .int | .port | .uint | .ulong | .etherType => true
  | _ => false

def base : Kind → Nat
  | .etherType => 16
  | _ => 10

/-- The integers a field is for. -/
def Fits : Kind → Int → Prop
  | .int, z => -2 ^ 31 ≤ z ∧ z < 2 ^ 31
  | .port, z => 0 ≤ z ∧ z < 2 ^ 16
  | .uint, z => 0 ≤ z ∧ z < 2 ^ 32
  | .ulong, z => 0 ≤ z ∧ z < 2 ^ 64
  | .etherType, z => 0 ≤ z ∧ z < 2 ^ 16
  | _, _ => False

/-- The integers the conversion for a field takes. -/
def Converts : Kind → Int → Prop
  | .int, z => InLong z
  | .port, z => InLong z
  | .uint, z => InUlong z
  | .ulong, z => InUlong z
  | .etherType, z => InUlong z
  | _, _ => False

/-- The value of a field is the integer. -/
def Holds : (k : Kind) → k.Val → Int → Prop
  | .int, v, z => Int32.toInt v = z
  | .port, v, z => (UInt16.toNat v : Int) = z
  | .uint, v, z => (UInt32.toNat v : Int) = z
  | .ulong, v, z => (UInt64.toNat v : Int) = z
  | .etherType, v, z => (UInt32.toNat v : Int) = z
  | _, _, _ => False

/-! ## One number -/

/-- A numeric field takes a numeral whose integer its conversion takes. -/
theorem valid_number {k : Kind} (hk : isNumber k = true) {value : CStr} :
    Valid k value ↔ ∃ z, Denotes (base k) value z ∧ Converts k z := by
  cases k with
  | int | port | uint | ulong | etherType => exact Iff.rfl
  | clockid | bool | string | mac | securityMode | securityAlgorithm => cases hk

theorem toInt32_fits {v : Int64} (hlo : -2 ^ 31 ≤ v.toInt) (hhi : v.toInt < 2 ^ 31) :
    v.toInt32.toInt = v.toInt := by
  rw [Int64.toInt_toInt32]
  exact Int.bmod_eq_of_le (by omega) (by omega)

theorem toUInt16_fits {v : Int64} (hlo : 0 ≤ v.toInt) (hhi : v.toInt < 2 ^ 16) :
    (v.toInt16.toUInt16.toNat : Int) = v.toInt := by
  have hbits : v.toInt16.toInt = Int.bmod v.toInt16.toUInt16.toNat (2 ^ 16) :=
    BitVec.toInt_eq_toNat_bmod _
  rw [Int64.toInt_toInt16] at hbits
  have hmod : Int.bmod v.toInt (2 ^ 16) % ((2 ^ 16 : Nat) : Int) =
      Int.bmod v.toInt16.toUInt16.toNat (2 ^ 16) % ((2 ^ 16 : Nat) : Int) := by
    rw [hbits]
  rw [Int.bmod_emod, Int.bmod_emod] at hmod
  have hlt := v.toInt16.toUInt16.toNat_lt
  omega

/-- If the integer fits the field, it is stored as it is. -/
theorem holds_of_fits {name : String} {k : Kind} {value : CStr} {v : k.Val} {z : Int}
    (h : storeParam name k value = .ok v) (hz : Denotes (base k) value z)
    (hconv : Converts k z) (hfits : Fits k z) : Holds k v z := by
  cases k with
  | int =>
    obtain ⟨-, rfl⟩ := storeNumber_ok.mp h
    obtain ⟨-, rfl⟩ := strtol_converts hz hconv
    exact toInt32_fits hfits.1 hfits.2
  | port =>
    have hnum : storeNumber (strtol 10 value) (fun v => v.toInt16.toUInt16) (invalidValue name) =
      .ok v := h
    obtain ⟨-, rfl⟩ := storeNumber_ok.mp hnum
    obtain ⟨-, rfl⟩ := strtol_converts hz hconv
    exact toUInt16_fits hfits.1 hfits.2
  | uint =>
    obtain ⟨-, rfl⟩ := storeNumber_ok.mp h
    have hval := (strtoull_converts hz hconv).2
    obtain ⟨hlo, hhi⟩ := hfits
    show ((strtoul 10 value).value.toUInt32.toNat : Int) = z
    rw [UInt64.toNat_toUInt32]
    show (((strtoull 10 value).value.toNat % 2 ^ 32 : Nat) : Int) = z
    simp only [base] at hval
    omega
  | ulong =>
    obtain ⟨-, rfl⟩ := storeNumber_ok.mp h
    have hval := (strtoull_converts hz hconv).2
    obtain ⟨hlo, hhi⟩ := hfits
    show ((strtoull 10 value).value.toNat : Int) = z
    simp only [base] at hval
    omega
  | etherType =>
    obtain ⟨-, rfl⟩ := storeNumber_ok.mp h
    have hval := (strtoull_converts hz hconv).2
    obtain ⟨hlo, hhi⟩ := hfits
    show ((strtoul 16 value).value.toUInt32.toNat : Int) = z
    rw [UInt64.toNat_toUInt32]
    show (((strtoull 16 value).value.toNat % 2 ^ 32 : Nat) : Int) = z
    simp only [base] at hval
    omega
  | clockid | bool | string | mac | securityMode | securityAlgorithm => cases hfits

/-- What is promised of one pair with a numeric key: the integer is stored, and one
that does not fit is refused. -/
structure StoredExactly (f : Field) (value : CStr) (r : Except Failure Values) : Prop where
  stores : ∀ app, r = .ok app → ∃ z, Denotes (base f.kind) value z ∧ Holds f.kind (app f) z
  refuses : ∀ z, Denotes (base f.kind) value z → ¬ Fits f.kind z → ∃ e, r = .error e

/-- If the conversion takes the integer, it fits the field. -/
def Fitting (f : Field) (value : CStr) : Prop :=
  ∀ z, Denotes (base f.kind) value z → Converts f.kind z → Fits f.kind z

theorem storeParams_named {p : String × Field} (hp : p ∈ params) {key : CStr}
    (hkey : keyIs key p.1 = true) (value : CStr) (app : Values) :
    storeParams key value app =
      (storeParam p.1 p.2.kind value).map fun v => Function.update app p.2 v :=
  Settings.storeAll_named params_exclusive hp hkey

theorem storedExactly_iff {p : String × Field} (hp : p ∈ params)
    (hnum : isNumber p.2.kind = true) {key : CStr} (hkey : keyIs key p.1 = true) (value : CStr)
    (app : Values) :
    StoredExactly p.2 value (storeParams key value app) ↔ Fitting p.2 value := by
  rw [storeParams_named hp hkey]
  have hvalid := (@storeParam_ok_iff p.1 p.2.kind value).trans (valid_number hnum)
  constructor
  · intro h z hz hconv
    by_contra hfits
    obtain ⟨v, hv⟩ := hvalid.mpr ⟨z, hz, hconv⟩
    obtain ⟨e, he⟩ := h.refuses z hz hfits
    rw [hv] at he
    cases he
  · intro h
    refine ⟨fun app' happ => ?_, fun z hz hfits => ?_⟩
    · obtain ⟨v, hv, rfl⟩ := map_ok_iff.mp happ
      obtain ⟨z, hz, hconv⟩ := hvalid.mp ⟨v, hv⟩
      refine ⟨z, hz, ?_⟩
      rw [Function.update_self]
      exact holds_of_fits hv hz hconv (h z hz hconv)
    · cases hv : storeParam p.1 p.2.kind value with
      | error e => exact ⟨e, rfl⟩
      | ok v =>
        obtain ⟨z', hz', hconv⟩ := hvalid.mp ⟨v, hv⟩
        rw [hz.unique hz'] at hfits
        exact absurd (h z' hz' hconv) hfits

/-! ## A whole file -/

/-- The numbers of a file, as the pairs with numeric keys. -/
def ForNumbers (ts : List Token) (P : Field → CStr → Prop) : Prop :=
  ∀ a ∈ assignments false none ts, ∀ p ∈ params, keyIs a.1 p.1 = true →
    isNumber p.2.kind = true → P p.2 a.2

/-- What is promised of a file that was read: all its numbers fit their fields, and
each numeric field was left with the last one. The link speed and the waiting time
are adjusted behind that. -/
structure ReadExactly (ts : List Token) (loaded : Loaded) : Prop where
  fits : ForNumbers ts fun f value => ∃ z, Denotes (base f.kind) value z ∧ Fits f.kind z
  stores : ∃ app, loaded.values = finalWaitTime (finalLinkSpeed app) ∧
    ∀ f name value, isNumber f.kind = true → lastGiven ts f = some (name, value) →
      ∃ z, Denotes (base f.kind) value z ∧ Holds f.kind (app f) z

theorem foldlM_taken {as : List (CStr × CStr)} {app app' : Values}
    (h : as.foldlM (fun app a => storeParams a.1 a.2 app) app = .ok app') {a : CStr × CStr}
    (ha : a ∈ as) {p : String × Field} (hp : p ∈ params) (hkey : keyIs a.1 p.1 = true) :
    Valid p.2.kind a.2 :=
  storeParam_ok_iff.mp ((Settings.foldlM_ok_iff params_exclusive app).mp ⟨app', h⟩ a ha p hp hkey)

theorem configReadFromFile_ok {fopen : CStr → Option File} {path : CStr} {file : File}
    {app : Values} {loaded : Loaded} (hfile : fopen path = some file)
    (h : configReadFromFile fopen (some path) app = .ok loaded) :
    ∃ app', (assignments false none file.tokens).foldlM
        (fun app a => storeParams a.1 a.2 app) app = .ok app' ∧
      loaded.values = finalWaitTime (finalLinkSpeed app') := by
  cases hready : file.parserReady with
  | false =>
    simp [configReadFromFile, hfile, hready] at h
  | true =>
    rw [configReadFromFile_eq hfile hready] at h
    obtain ⟨app', hr, rfl⟩ := map_ok_iff.mp h
    exact ⟨app', readTokens_assignments hr, rfl⟩

theorem readExactly_iff {fopen : CStr → Option File} {path : CStr} {file : File}
    {app : Values} {loaded : Loaded} (hfile : fopen path = some file)
    (h : configReadFromFile fopen (some path) app = .ok loaded) :
    ReadExactly file.tokens loaded ↔ ForNumbers file.tokens Fitting := by
  obtain ⟨app', hfold, hvalues⟩ := configReadFromFile_ok hfile h
  constructor
  · intro hread a ha p hp hkey hnum z hz _
    obtain ⟨z', hz', hfits⟩ := hread.fits a ha p hp hkey hnum
    rw [hz.unique hz']
    exact hfits
  · intro hfitting
    refine ⟨fun a ha p hp hkey hnum => ?_, app', hvalues, fun f name value hnum hlast => ?_⟩
    · obtain ⟨z, hz, hconv⟩ := (valid_number hnum).mp (foldlM_taken hfold ha hp hkey)
      exact ⟨z, hz, hfitting a ha p hp hkey hnum z hz hconv⟩
    · have hstored := (Settings.assign_apply (f := f) params_nodup hfold).1 name value hlast
      obtain ⟨a, ha, rfl, hp, hkey⟩ := Settings.lastFor_mem hlast
      obtain ⟨z, hz, hconv⟩ := (valid_number hnum).mp (storeParam_ok_iff.mp ⟨_, hstored⟩)
      exact ⟨z, hz, holds_of_fits hstored hz hconv (hfitting a ha _ hp hkey hnum z hz hconv)⟩

/-- **Numbers.**  A pair is stored as it is written, or refused, just if its integer
fits the field whenever it fits the conversion; and a file that was read has left
its numbers in the fields just if that holds of all of them. -/
theorem numbers_exact_iff {p : String × Field} (hp : p ∈ params)
    (hnum : isNumber p.2.kind = true) {key : CStr} (hkey : keyIs key p.1 = true) (value : CStr)
    (app : Values) {fopen : CStr → Option File} {path : CStr} {file : File} {loaded : Loaded}
    (hfile : fopen path = some file)
    (hread : configReadFromFile fopen (some path) app = .ok loaded) :
    (StoredExactly p.2 value (storeParams key value app) ↔ Fitting p.2 value) ∧
      (ReadExactly file.tokens loaded ↔ ForNumbers file.tokens Fitting) :=
  ⟨storedExactly_iff hp hnum hkey value app, readExactly_iff hfile hread⟩

theorem numbers_exact_iff_port :
    (StoredExactly (.udpPort .udpHigh) (lit "6668")
        (storeParams (lit "UdpHighPort") (lit "6668") configSetDefaults) ↔
      Fitting (.udpPort .udpHigh) (lit "6668")) ∧
    (ReadExactly [.streamEnd]
        ⟨finalWaitTime (finalLinkSpeed configSetDefaults), assignQueues configSetDefaults⟩ ↔
      ForNumbers [.streamEnd] Fitting) :=
  @numbers_exact_iff ("UdpHighPort", .udpPort .udpHigh) (by decide +kernel) rfl (lit "UdpHighPort")
    (by decide) (lit "6668") configSetDefaults (fun _ => some ⟨true, [.streamEnd]⟩) (lit "conf.yaml")
    ⟨true, [.streamEnd]⟩
    ⟨finalWaitTime (finalLinkSpeed configSetDefaults), assignQueues configSetDefaults⟩ rfl rfl

/-- A port that is one bit too long loses that bit. -/
theorem port_truncated :
    ¬ ∀ (p : String × Field) (key value : CStr) (app : Values), p ∈ params →
      isNumber p.2.kind = true → keyIs key p.1 = true →
      StoredExactly p.2 value (storeParams key value app) := by
  intro h
  have hport := h ("UdpHighPort", .udpPort .udpHigh) (lit "UdpHighPort") (lit "72204")
    configSetDefaults (by decide +kernel) rfl (by decide)
  have hdenotes : Denotes 10 (lit "72204") 72204 := denotes_iff.mpr ⟨false, 72204, by decide, rfl⟩
  obtain ⟨e, he⟩ := hport.refuses 72204 hdenotes (fun hfits => absurd hfits.2 (by decide))
  have hvalid : Valid (Field.udpPort .udpHigh).kind (lit "72204") :=
    ⟨72204, hdenotes, by decide, by decide⟩
  obtain ⟨v, hv⟩ := (@storeParam_ok_iff "UdpHighPort" _ _).mpr hvalid
  rw [storeParams_named (p := ("UdpHighPort", .udpPort .udpHigh)) (by decide +kernel) (by decide),
    hv] at he
  cases he

end Rtdk.NumericConfig
