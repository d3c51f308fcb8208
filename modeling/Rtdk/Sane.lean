import Rtdk.ConfigFile

/-! Which configuration files start the program with a sane configuration.

`config_init` never calls `config_sanity_check`, so a file decides for itself:
the loaded configuration passes the check exactly when the values the file asks
for (`given`) do. `SaneValues` spells the conditions out on those values. The
condition on MQTT support is not one of them; the check is taken as in a build
with MQTT. -/

namespace Rtdk.Sane
open Rtdk.NetDef Rtdk.Security Rtdk.Config Rtdk.CString Rtdk.ConfigFile

/-! ## The check as a condition -/

theorem ensure_iff {b : Bool} {e : Complaint} : ensure b e = .ok () ↔ b = true := by
  constructor
  · exact ensure_ok
  · intro h
    rw [ensure, if_pos h]

theorem seq_iff {x y : Except Complaint Unit} :
    (x >>= fun _ => y) = .ok () ↔ x = .ok () ∧ y = .ok () := by
  constructor
  · exact seq_ok
  · rintro ⟨hx, hy⟩
    rw [hx]
    exact hy

/-- The key length an algorithm needs. -/
def keyLen (algorithm : SecurityAlgorithm) : Nat := if algorithm = .aes128Gcm then 16 else 32

theorem configCheckKeys_iff {trafficClass : String} {c : ClassConfig} :
    configCheckKeys trafficClass c = .ok () ↔
      (c.securityMode ≠ .none → c.securityIvPrefix.length = securityIvPrefixLen ∧
        c.securityKey.length = keyLen c.securityAlgorithm) := by
  unfold configCheckKeys
  by_cases hm : c.securityMode = .none
  · simp [hm]
  · simp only [hm, if_false, seq_iff, ensure_iff, beq_iff_eq, ne_eq, not_false_eq_true,
      forall_const]
    constructor
    · rintro ⟨h1, h2⟩
      exact ⟨h1, h2.symm⟩
    · rintro ⟨h1, h2⟩
      exact ⟨h1, h2.symm⟩

/-- The classes that must not be active next to L2. -/
def besidesL2 : List FrameType := [.tsnHigh, .rtc, .rta, .dcp, .lldp, .udpHigh, .udpLow]

/-- The conditions of `config_sanity_check`. -/
structure SaneConfig (cfg : AppConfig) : Prop where
  exclusive : cfg.isActive .l2 = true → ∀ ty ∈ besidesL2, cfg.isActive ty = false
  frameLength : ∀ ty, minFrameSize ty (cfg.cls ty).securityMode +
      (cfg.cls ty).payloadPattern.length ≤ (cfg.cls ty).frameLength.toNat ∧
    (cfg.cls ty).frameLength.toNat ≤ maxFrameSize
  keys : ∀ ty, hasSecurity ty = true → (cfg.cls ty).securityMode ≠ .none →
    (cfg.cls ty).securityIvPrefix.length = securityIvPrefixLen ∧
      (cfg.cls ty).securityKey.length = keyLen (cfg.cls ty).securityAlgorithm
  histogram : cfg.statsHistogramMinimumNs ≤ cfg.statsHistogramMaximumNs

theorem frameLengthOk_iff {cfg : AppConfig} {ty : FrameType} :
    frameLengthOk cfg ty = true ↔
      minFrameSize ty (cfg.cls ty).securityMode + (cfg.cls ty).payloadPattern.length ≤
          (cfg.cls ty).frameLength.toNat ∧ (cfg.cls ty).frameLength.toNat ≤ maxFrameSize := by
  simp only [frameLengthOk, Bool.not_eq_true', Bool.or_eq_false_iff, decide_eq_false_iff_not,
    Nat.not_lt, gt_iff_lt]
  exact and_comm

theorem exclusive_iff {cfg : AppConfig} :
    (!(cfg.isActive .l2 && (cfg.isActive .tsnHigh || cfg.isActive .rtc || cfg.isActive .rta ||
        cfg.isActive .dcp || cfg.isActive .lldp || cfg.isActive .udpHigh ||
        cfg.isActive .udpLow))) = true ↔
      (cfg.isActive .l2 = true → ∀ ty ∈ besidesL2, cfg.isActive ty = false) := by
  cases h : cfg.isActive .l2 with
  | false => simp
  | true => simp [besidesL2, and_assoc]

/-- **The check.**  With MQTT support built in, `config_sanity_check` accepts a
configuration exactly when the conditions hold. -/
theorem configSanityCheck_iff {cfg : AppConfig} :
    configSanityCheck true cfg = .ok () ↔ SaneConfig cfg := by
  simp only [configSanityCheck, seq_iff, ensure_iff, exclusive_iff, frameLengthOk_iff,
    configCheckKeys_iff]
  constructor
  · rintro ⟨hex, hl2, hth, htl, hrtc, hrta, hdcp, hlldp, huh, hul, -, kth, ktl, krtc, krta, hhist⟩
    refine ⟨hex, ?_, ?_, by simpa using hhist⟩
    · intro ty
      cases ty with
      | tsnHigh => exact hth
      | tsnLow => exact htl
      | rtc => exact hrtc
      | rta => exact hrta
      | dcp => exact hdcp
      | lldp => exact hlldp
      | udpHigh => exact huh
      | udpLow => exact hul
      | l2 => exact hl2
    · intro ty hsec
      cases ty with
      | tsnHigh => exact kth
      | tsnLow => exact ktl
      | rtc => exact krtc
      | rta => exact krta
      | _ => exact absurd hsec (by decide)
  · rintro ⟨hex, hlen, hkeys, hhist⟩
    exact ⟨hex, hlen .l2, hlen .tsnHigh, hlen .tsnLow, hlen .rtc, hlen .rta, hlen .dcp, hlen .lldp,
      hlen .udpHigh, hlen .udpLow, by simp, hkeys .tsnHigh rfl, hkeys .tsnLow rfl, hkeys .rtc rfl,
      hkeys .rta rfl, by simpa using hhist⟩

/-! ## The check on the values of a file -/

section
variable (app : Values)

def numFramesPerCycle (ty : FrameType) : UInt64 := app (.numFramesPerCycle ty)
def payloadPattern (ty : FrameType) : StringParam := app (.payloadPattern ty)
def frameLength (ty : FrameType) : UInt64 := app (.frameLength ty)
def securityMode (ty : FrameType) : SecurityMode := app (.securityMode ty)
def securityAlgorithm (ty : FrameType) : SecurityAlgorithm := app (.securityAlgorithm ty)
def securityKey (ty : FrameType) : StringParam := app (.securityKey ty)
def securityIvPrefix (ty : FrameType) : StringParam := app (.securityIvPrefix ty)
def histogramMinimum : UInt64 := app .statsHistogramMinimumNs
def histogramMaximum : UInt64 := app .statsHistogramMaximumNs

end

/-- The bytes a string field points at. -/
def bytesOf (p : StringParam) : List UInt8 := p.text.getD []

def classConfig (app : Values) (ty : FrameType) : ClassConfig where
  enabled := app.enabled ty
  vid := app (.vid ty)
  pcp := app (.pcp ty)
  numFramesPerCycle := numFramesPerCycle app ty
  payloadPattern := bytesOf (payloadPattern app ty)
  frameLength := frameLength app ty
  securityMode := securityMode app ty
  securityAlgorithm := securityAlgorithm app ty
  securityKey := bytesOf (securityKey app ty)
  securityIvPrefix := bytesOf (securityIvPrefix app ty)
  destination := app (.destination ty)
  udpSource := bytesOf (app (.udpSource ty))
  udpDestination := bytesOf (app (.udpDestination ty))
  udpSrcPort := app (.udpSrcPort ty)
  udpPort := app (.udpPort ty)

/-- The record the frame code reads. -/
def appConfig (app : Values) : AppConfig where
  cls := classConfig app
  l2EtherType := app .l2EtherType
  applicationBaseCycleTimeNs := app .applicationBaseCycleTimeNs
  applicationTxBaseOffsetNs := app .applicationTxBaseOffsetNs
  applicationRxBaseOffsetNs := app .applicationRxBaseOffsetNs
  debugStopTraceOnOutlier := app .debugStopTraceOnOutlier
  logViaMqtt := app .logViaMqtt
  statsHistogramEnabled := app .statsHistogramEnabled
  statsHistogramMinimumNs := histogramMinimum app
  statsHistogramMaximumNs := histogramMaximum app
  statsCollectionIntervalNs := app .statsCollectionIntervalNs

/-- The class is enabled and sends frames. -/
def Active (app : Values) (ty : FrameType) : Prop :=
  app.enabled ty = true ∧ 0 < numFramesPerCycle app ty

/-- The values of a file are sane: L2 goes alone, every frame length leaves room
for the headers and the payload pattern and fits the frame buffer, the keys and
the IV prefixes of the secured classes have their lengths, and the histogram is
not upside down. -/
structure SaneValues (app : Values) : Prop where
  exclusive : Active app .l2 → ∀ ty ∈ besidesL2, ¬ Active app ty
  frameLength : ∀ ty, minFrameSize ty (securityMode app ty) + (payloadPattern app ty).length ≤
      (frameLength app ty).toNat ∧ (frameLength app ty).toNat ≤ maxFrameSize
  keys : ∀ ty, hasSecurity ty = true → securityMode app ty ≠ .none →
    (securityIvPrefix app ty).length = securityIvPrefixLen ∧
      (securityKey app ty).length = keyLen (securityAlgorithm app ty)
  histogram : histogramMinimum app ≤ histogramMaximum app

/-- The length fields the check reads are the lengths of their strings. -/
structure LengthsKept (app : Values) : Prop where
  pattern : ∀ ty, (payloadPattern app ty).length = (bytesOf (payloadPattern app ty)).length
  key : ∀ ty, (securityKey app ty).length = (bytesOf (securityKey app ty)).length
  ivPrefix : ∀ ty, (securityIvPrefix app ty).length = (bytesOf (securityIvPrefix app ty)).length

theorem given_lengthsKept (ts : List Token) : LengthsKept (given ts) := by
  constructor
  · intro ty
    unfold payloadPattern given
    cases lastGiven ts (.payloadPattern ty) <;> rfl
  · intro ty
    unfold securityKey given
    cases lastGiven ts (.securityKey ty) <;> rfl
  · intro ty
    unfold securityIvPrefix given
    cases lastGiven ts (.securityIvPrefix ty) <;> rfl

theorem isActive_iff {app : Values} {ty : FrameType} :
    (appConfig app).isActive ty = true ↔ Active app ty := by
  simp only [AppConfig.isActive, Bool.and_eq_true, decide_eq_true_eq, gt_iff_lt]
  exact Iff.rfl

theorem saneConfig_iff {app : Values} (hkept : LengthsKept app) :
    SaneConfig (appConfig app) ↔ SaneValues app := by
  constructor
  · rintro ⟨hex, hlen, hkeys, hhist⟩
    refine ⟨?_, ?_, ?_, hhist⟩
    · intro hl2 ty hty hact
      exact Bool.false_ne_true ((hex (isActive_iff.2 hl2) ty hty).symm.trans (isActive_iff.2 hact))
    · intro ty
      rw [hkept.pattern ty]
      exact hlen ty
    · intro ty hsec hmode
      rw [hkept.ivPrefix ty, hkept.key ty]
      exact hkeys ty hsec hmode
  · rintro ⟨hex, hlen, hkeys, hhist⟩
    refine ⟨?_, ?_, ?_, hhist⟩
    · intro hl2 ty hty
      have hnot := hex (isActive_iff.1 hl2) ty hty
      rw [← isActive_iff, Bool.not_eq_true] at hnot
      exact hnot
    · intro ty
      have := hlen ty
      rw [hkept.pattern ty] at this
      exact this
    · intro ty hsec hmode
      have := hkeys ty hsec hmode
      rw [hkept.ivPrefix ty, hkept.key ty] at this
      exact this

/-! ## Loaded configurations -/

/-- Two sets of values that differ at most in the link speed and the waiting time. -/
def SameChecked (app app' : Values) : Prop :=
  ∀ f, f ≠ .applicationLinkSpeed → f ≠ .applicationWaitTimeBeforeStart → app f = app' f

theorem appConfig_congr {app app' : Values} (h : SameChecked app app') :
    appConfig app = appConfig app' := by
  have hcls : classConfig app = classConfig app' := by
    funext ty
    simp only [classConfig, Values.enabled, numFramesPerCycle, payloadPattern, frameLength,
      securityMode, securityAlgorithm, securityKey, securityIvPrefix]
    congr 1 <;> first
      | exact h _ (by simp) (by simp)
      | exact congrArg bytesOf (h _ (by simp) (by simp))
  simp only [appConfig, hcls, histogramMinimum, histogramMaximum]
  congr 1 <;> exact h _ (by simp) (by simp)

/-- **Which files are sane.**  A configuration that `config_init` accepts passes
`config_sanity_check` exactly when the values its file asks for are sane. -/
theorem loaded_sane_iff {fopen : CStr → Option File} {path : CStr} {file : File} {app : Loaded}
    (hfile : fopen path = some file) (h : configInit fopen (some path) = .ok app) :
    configSanityCheck true (appConfig app.values) = .ok () ↔ SaneValues (given file.tokens) := by
  have hsame : SameChecked app.values (given file.tokens) :=
    fun _ hspeed hwait => configInit_values hfile h hspeed hwait
  rw [appConfig_congr hsame, configSanityCheck_iff, saneConfig_iff (given_lengthsKept _)]

/-! Two files for TsnHigh: one with frames of 128 bytes, one with frames of 10
bytes, which is less than their headers. -/

def entry (key value : String) : List Token :=
  [.key, .scalar (lit key), .value, .scalar (lit value)]

def tsnFile (frameLength : String) : File :=
  ⟨true, entry "TsnHighEnabled" "true" ++ entry "TsnHighNumFramesPerCycle" "1" ++
    entry "TsnHighFrameLength" frameLength ++ [.streamEnd]⟩

def tsnYaml : CStr := lit "tsn.yaml"

theorem exists_loaded (file : File) (path : CStr)
    (h : (configInit (fun _ => some file) (some path)).isOk = true) :
    ∃ app, configInit (fun _ => some file) (some path) = .ok app ∧
      appConfig app.values = appConfig (given file.tokens) := by
  cases hc : configInit (fun _ => some file) (some path) with
  | error e =>
    rw [hc] at h
    cases h
  | ok app =>
    exact ⟨app, rfl, appConfig_congr fun _ hspeed hwait => configInit_values rfl hc hspeed hwait⟩

theorem loaded_sane_iff_tsn :
    ∃ app, configInit (fun _ => some (tsnFile "128")) (some tsnYaml) = .ok app ∧
      configSanityCheck true (appConfig app.values) = .ok () := by
  obtain ⟨app, happ, -⟩ := exists_loaded (tsnFile "128") tsnYaml (by decide +kernel)
  refine ⟨app, happ, (loaded_sane_iff rfl happ).2 ⟨?_, ?_, ?_, by decide +kernel⟩⟩
  · rintro ⟨hl2, -⟩
    exact absurd hl2 (by decide +kernel)
  · intro ty
    cases ty <;> decide +kernel
  · intro ty _ hmode
    refine absurd ?_ hmode
    cases ty <;> decide +kernel

/-- A frame length of 10 is accepted. -/
theorem short_frame_loaded :
    ∃ app, configInit (fun _ => some (tsnFile "10")) (some tsnYaml) = .ok app ∧
      configSanityCheck true (appConfig app.values) ≠ .ok () := by
  obtain ⟨app, happ, -⟩ := exists_loaded (tsnFile "10") tsnYaml (by decide +kernel)
  refine ⟨app, happ, ?_⟩
  intro hsane
  have hlen : frameLength app.values .tsnHigh = frameLength (given (tsnFile "10").tokens) .tsnHigh :=
    configInit_values rfl happ (by simp) (by simp)
  have hten : frameLength (given (tsnFile "10").tokens) .tsnHigh = 10 := by decide +kernel
  have hroom := (frameLength_bounds hsane .tsnHigh).1
  have : minFrameSize .tsnHigh (securityMode app.values .tsnHigh) +
      (bytesOf (payloadPattern app.values .tsnHigh)).length ≤
        (frameLength app.values .tsnHigh).toNat := hroom
  rw [hlen, hten] at this
  have hmin : 36 ≤ minFrameSize .tsnHigh (securityMode app.values .tsnHigh) := by
    show 36 ≤ if _ then _ else _
    split <;> decide
  simp only [UInt64.reduceToNat] at this
  omega

end Rtdk.Sane
