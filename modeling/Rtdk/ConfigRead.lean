import Rtdk.ConfigFile
import Rtdk.Numerals

/-! How a configuration file is read.

A file is a tree of mappings whose leaves are pairs of scalars (`Node`). The
headings of its sections and the way they nest are lost on the reader, which takes
the pairs one after the other (`Scans.readTokens_ok_iff`): what it accepts is
`ret_eq_zero_iff_valid`, and what makes no difference is
`configReadFromFile_rearranged`. -/

namespace Rtdk.ConfigRead
open Rtdk.NetDef Rtdk.Stat Rtdk.Security Rtdk.Config Rtdk.CString Rtdk.ConfigFile Rtdk.Numerals Rtdk.Runs

/-! ## The table of keys -/

theorem strcaseeq_iff {a b : CStr} : strcaseeq a b = true ↔ a.map tolower = b.map tolower := by
  simp [strcaseeq]

/-- A number for a key, the same for all its spellings. -/
def keyCode (key : CStr) : Nat := (key.map tolower).foldl (fun n c => n * 256 + c.toNat) 0

theorem keyCodes_distinct : params.Pairwise fun p q => keyCode (lit p.1) ≠ keyCode (lit q.1) := by
  decide +kernel

theorem keyIs_code {key : CStr} {name : String} (h : keyIs key name = true) :
    keyCode (lit name) = keyCode key := by
  rw [keyCode, ← strcaseeq_iff.mp h, keyCode]

/-- No key is that of two fields. -/
theorem params_exclusive : Settings.Exclusive keyIs params := by
  refine keyCodes_distinct.imp fun {p q} hne key hp => ?_
  cases hq : keyIs key q.1 with
  | false => rfl
  | true => exact absurd ((keyIs_code hp).trans (keyIs_code hq).symm) hne

def Recognised (key : CStr) : Prop := ∃ p ∈ params, keyIs key p.1 = true

theorem apart_of_differ {key key' : CStr} (h : ¬ strcaseeq key key' = true) :
    Settings.Apart keyIs params key key' := by
  intro p _ hkey
  cases hkey' : keyIs key' p.1 with
  | false => rfl
  | true =>
    exact absurd (strcaseeq_iff.mpr ((strcaseeq_iff.mp hkey).trans (strcaseeq_iff.mp hkey').symm)) h

/-! ## Valid values -/

/-- What a value has to be for a field of some kind. -/
def Valid : Kind → CStr → Prop
  | .clockid, s => strcaseeq s (lit "CLOCK_TAI") ∨ strcaseeq s (lit "CLOCK_MONOTONIC")
  | .bool, s => s = lit "0" ∨ s = lit "1" ∨
      ∃ word ∈ ["false", "disabled", "off", "true", "enabled", "on"], strcaseeq s (lit word)
  | .int, s | .port, s => ∃ z, Denotes 10 s z ∧ InLong z
  | .uint, s | .ulong, s => ∃ z, Denotes 10 s z ∧ InUlong z
  | .etherType, s => ∃ z, Denotes 16 s z ∧ InUlong z
  | .string, _ => True
  | .mac, s => ∃ octets, scanMac s = some octets ∧ ∀ x ∈ octets, x ≤ 255
  | .securityMode, s => ∃ word ∈ ["none", "ao", "ae"], strcaseeq s (lit word)
  | .securityAlgorithm, s =>
      ∃ word ∈ ["aes256-gcm", "aes128-gcm", "chacha20-poly1305"], strcaseeq s (lit word)

theorem storeNumber_ok {α β : Type} {r : Strto α} {cast : α → β} {complaint : Complaint} {v : β} :
    storeNumber r cast complaint = .ok v ↔ r.whole = true ∧ cast r.value = v := by
  unfold storeNumber
  split
  · rename_i h
    simp [h]
  · rename_i h
    simp [h]

theorem storeNumber_ok_iff {α β : Type} {r : Strto α} {cast : α → β} {complaint : Complaint} :
    (∃ v, storeNumber r cast complaint = .ok v) ↔ r.whole = true := by
  simp only [storeNumber_ok, exists_and_left, exists_eq', and_true]

theorem storeClockid_ok_iff {value : CStr} :
    (∃ v, storeClockid value = .ok v) ↔ Valid .clockid value := by
  unfold storeClockid Valid
  split
  · simp [*]
  · split <;> simp [*]

theorem storeBool_ok_iff {name : String} {value : CStr} :
    (∃ v, storeBool name value = .ok v) ↔ Valid .bool value := by
  unfold storeBool Valid
  split
  · simp_all
    tauto
  · split
    · simp_all
      tauto
    · simp_all

theorem storeMac_ok_iff {value : CStr} : (∃ v, storeMac value = .ok v) ↔
    ∃ octets, scanMac value = some octets ∧ ∀ x ∈ octets, x ≤ 255 := by
  unfold storeMac
  cases hscan : scanMac value with
  | none => simp
  | some octets =>
    simp only [Option.some.injEq, exists_eq_left']
    cases hfind : octets.findIdx? (fun x => decide (x > 255)) with
    | none =>
      rw [List.findIdx?_eq_none_iff] at hfind
      simpa using hfind
    | some i =>
      obtain ⟨hlt, hbig, -⟩ := List.findIdx?_eq_some_iff_getElem.mp hfind
      refine iff_of_false (by simp) fun hall => ?_
      exact absurd (hall _ (List.getElem_mem hlt)) (by simpa using hbig)

theorem storeSecurityMode_ok_iff {value : CStr} :
    (∃ v, storeSecurityMode value = .ok v) ↔ Valid .securityMode value := by
  unfold storeSecurityMode Valid
  split
  · simp [*]
  · split
    · simp [*]
    · split <;> simp [*]

theorem storeSecurityAlgorithm_ok_iff {value : CStr} :
    (∃ v, storeSecurityAlgorithm value = .ok v) ↔ Valid .securityAlgorithm value := by
  unfold storeSecurityAlgorithm Valid
  split
  · simp [*]
  · split
    · simp [*]
    · split <;> simp [*]

/-- The macro of a kind takes just the valid values. -/
theorem storeParam_ok_iff {name : String} {k : Kind} {value : CStr} :
    (∃ v, storeParam name k value = .ok v) ↔ Valid k value := by
  cases k with
  | clockid => exact storeClockid_ok_iff
  | bool => exact storeBool_ok_iff
  | int => exact storeNumber_ok_iff.trans strtol_ok_iff
  | port =>
    show (∃ v, storeNumber (strtol 10 value) (fun v => v.toInt16.toUInt16) (invalidValue name) =
      .ok v) ↔ _
    exact storeNumber_ok_iff.trans strtol_ok_iff
  | uint => exact storeNumber_ok_iff.trans strtoull_ok_iff
  | ulong => exact storeNumber_ok_iff.trans strtoull_ok_iff
  | string => exact iff_of_true ⟨_, rfl⟩ trivial
  | mac => exact storeMac_ok_iff
  | etherType => exact storeNumber_ok_iff.trans strtoull_ok_iff
  | securityMode => exact storeSecurityMode_ok_iff
  | securityAlgorithm => exact storeSecurityAlgorithm_ok_iff

/-! ## Files as trees -/

/-- An entry of a mapping: a pair of scalars, or a section, which is a mapping with a
heading. -/
inductive Node
  | pair (key value : List UInt8)
  | mapping (key : List UInt8) (nodes : List Node)

mutual

/-- The tokens of an entry, without those that begin, end and separate. -/
def Node.tokens : Node → List Token
  | .pair key value => [.key, .scalar key, .value, .scalar value]
  | .mapping key nodes => .key :: .scalar key :: .value :: tokensOf nodes

def tokensOf : List Node → List Token
  | [] => []
  | node :: nodes => node.tokens ++ tokensOf nodes

end

mutual

/-- The pairs of an entry, as C strings. -/
def Node.pairs : Node → List (CStr × CStr)
  | .pair key value => [(ofBytes key, ofBytes value)]
  | .mapping _ nodes => pairsOf nodes

def pairsOf : List Node → List (CStr × CStr)
  | [] => []
  | node :: nodes => node.pairs ++ pairsOf nodes

end

/-- The tokens the reader looks at. -/
def content (ts : List Token) : List Token := ts.filter fun t => decide (t ≠ .other)

/-- The scanner delivers the tokens of the mapping, or fails somewhere on the way. -/
def Scans (nodes : List Node) (ts : List Token) : Prop :=
  content ts <+: tokensOf nodes ++ [.streamEnd]

/-! ## What the reader makes of the tokens -/

theorem assignments_content (stateKey : Bool) (key : Option CStr) (ts : List Token) :
    assignments stateKey key (content ts) = assignments stateKey key ts := by
  induction ts generalizing stateKey key with
  | nil => rfl
  | cons t ts ih =>
    cases t with
    | streamEnd =>
      show assignments stateKey key (.streamEnd :: content ts) = _
      simp only [assignments]
    | key =>
      show assignments stateKey key (.key :: content ts) = _
      simp only [assignments, ih]
    | value =>
      show assignments stateKey key (.value :: content ts) = _
      simp only [assignments, ih]
    | other =>
      show assignments stateKey key (content ts) = _
      simp only [assignments, ih]
    | scalar bytes =>
      show assignments stateKey key (.scalar bytes :: content ts) = _
      cases stateKey with
      | true => simp only [assignments, ih]
      | false =>
        cases key with
        | none => simp only [assignments, ih]
        | some key => simp only [assignments, ih]

/-- Tokens before which it does not matter what was read. -/
def Restarts (ts : List Token) : Prop :=
  ∀ stateKey key, assignments stateKey key ts = assignments false none ts

theorem restarts_key (bytes : List UInt8) (ts : List Token) :
    Restarts (.key :: .scalar bytes :: ts) := by
  intro stateKey key
  simp only [assignments]

theorem restarts_streamEnd (ts : List Token) : Restarts (.streamEnd :: ts) := by
  intro stateKey key
  simp only [assignments]

theorem tokensOf_restarts (nodes : List Node) {ts : List Token} (h : Restarts ts) :
    Restarts (tokensOf nodes ++ ts) := by
  cases nodes with
  | nil => exact h
  | cons node nodes =>
    cases node with
    | pair key value => exact restarts_key _ _
    | mapping key nodes => exact restarts_key _ _

mutual

theorem Node.assignments_tokens (node : Node) {ts : List Token} (h : Restarts ts) :
    assignments false none (node.tokens ++ ts) = node.pairs ++ assignments false none ts := by
  cases node with
  | pair key value => simp [Node.tokens, Node.pairs, assignments]
  | mapping key nodes =>
    have hrest := tokensOf_restarts nodes h false (some (ofBytes key))
    simp only [Node.tokens, Node.pairs, List.cons_append, assignments]
    rw [hrest, assignments_tokensOf nodes h]

/-- **Nesting is lost.**  The reader finds the pairs of a mapping in order. -/
theorem assignments_tokensOf (nodes : List Node) {ts : List Token} (h : Restarts ts) :
    assignments false none (tokensOf nodes ++ ts) = pairsOf nodes ++ assignments false none ts := by
  cases nodes with
  | nil => rfl
  | cons node nodes =>
    rw [tokensOf, pairsOf, List.append_assoc, List.append_assoc,
      Node.assignments_tokens node (tokensOf_restarts nodes h), assignments_tokensOf nodes h]

end

mutual

theorem Node.streamEnd_notMem (node : Node) : Token.streamEnd ∉ node.tokens := by
  cases node with
  | pair key value => simp [Node.tokens]
  | mapping key nodes =>
    have hno := tokensOf_streamEnd_notMem nodes
    simp [Node.tokens, hno]

theorem tokensOf_streamEnd_notMem (nodes : List Node) : Token.streamEnd ∉ tokensOf nodes := by
  cases nodes with
  | nil => simp [tokensOf]
  | cons node nodes =>
    have hnode := Node.streamEnd_notMem node
    have hrest := tokensOf_streamEnd_notMem nodes
    simp [tokensOf, hnode, hrest]

end

theorem mem_content {t : Token} {ts : List Token} (h : t ≠ .other) : t ∈ content ts ↔ t ∈ ts := by
  simp [content, h]

/-- A scan that gets to the end has delivered everything. -/
theorem Scans.complete {nodes : List Node} {ts : List Token} (h : Scans nodes ts)
    (hend : Token.streamEnd ∈ ts) : assignments false none ts = pairsOf nodes := by
  have hcontent : content ts = tokensOf nodes ++ [.streamEnd] := by
    rcases List.prefix_concat_iff.mp h with heq | hpre
    · exact heq
    · have hmem := hpre.subset ((mem_content (by decide)).mpr hend)
      exact absurd hmem (tokensOf_streamEnd_notMem nodes)
  rw [← assignments_content, hcontent, assignments_tokensOf nodes (restarts_streamEnd _)]
  exact List.append_nil _

/-! ## The queues -/

/-- How many of the classes before this one are enabled. -/
def rank (app : Values) (tys : List FrameType) (ty : FrameType) : Nat :=
  (tys.takeWhile fun ty' => decide (ty' ≠ ty)).countP app.enabled

theorem maxQueue_enabled {app : Values} {ty : FrameType} (h : app.enabled ty = true) (q : Queues) :
    maxQueue app q ty =
      ⟨q.qids ++ [q.qid], q.qid + 1, Function.update q.lportId ty (lportMake 1 q.qid)⟩ :=
  if_pos h

theorem maxQueue_disabled {app : Values} {ty : FrameType} (h : app.enabled ty = false)
    (q : Queues) : maxQueue app q ty = q :=
  if_neg (by rw [h]; exact Bool.false_ne_true)

theorem next_qid (qid : UInt16) (k : Nat) :
    qid + 1 + UInt16.ofNat k = qid + UInt16.ofNat (k + 1) := by
  rw [UInt16.ofNat_add, UInt16.add_assoc, UInt16.add_comm 1]
  rfl

/-- The ids handed out to a list of classes. -/
theorem maxQueue_qids (app : Values) (tys : List FrameType) (q : Queues) :
    (tys.foldl (maxQueue app) q).qids =
      q.qids ++ (List.range (tys.countP app.enabled)).map fun i => q.qid + UInt16.ofNat i := by
  induction tys generalizing q with
  | nil => simp
  | cons ty tys ih =>
    rw [List.foldl_cons, ih]
    cases hen : app.enabled ty with
    | false =>
      rw [maxQueue_disabled hen, List.countP_cons_of_neg (by rw [hen]; exact Bool.false_ne_true)]
    | true =>
      rw [maxQueue_enabled hen, List.countP_cons_of_pos hen, List.range_succ_eq_map, List.map_cons,
        List.map_map, List.append_assoc]
      refine congrArg (q.qids ++ ·) (congr (congrArg List.cons (UInt16.add_zero _).symm) ?_)
      exact List.map_congr_left fun k _ => next_qid _ _

/-- The queue of a class is numbered by the enabled classes before it. -/
theorem maxQueue_lportId (app : Values) {tys : List FrameType} (hnd : tys.Nodup) (q : Queues)
    (ty : FrameType) :
    (tys.foldl (maxQueue app) q).lportId ty =
      if ty ∈ tys ∧ app.enabled ty = true then lportMake 1 (q.qid + UInt16.ofNat (rank app tys ty))
      else q.lportId ty := by
  induction tys generalizing q with
  | nil => simp
  | cons x tys ih =>
    obtain ⟨hx, hrest⟩ := List.nodup_cons.mp hnd
    rw [List.foldl_cons, ih hrest]
    by_cases heq : x = ty
    · subst heq
      have hrank : rank app (x :: tys) x = 0 := by simp [rank]
      rw [if_neg (fun h => hx h.1), hrank]
      cases hen : app.enabled x with
      | false => simp [maxQueue_disabled hen]
      | true =>
        rw [maxQueue_enabled hen, if_pos ⟨List.mem_cons_self, rfl⟩]
        show Function.update q.lportId x (lportMake 1 q.qid) x = _
        rw [Function.update_self]
        congr 1
        exact (UInt16.add_zero _).symm
    · have hmem : ty ∈ x :: tys ↔ ty ∈ tys := by simp [Ne.symm heq]
      cases hen : app.enabled x with
      | false =>
        have hrank : rank app (x :: tys) ty = rank app tys ty := by simp [rank, heq, hen]
        simp only [maxQueue_disabled hen, hmem, hrank]
      | true =>
        have hrank : rank app (x :: tys) ty = rank app tys ty + 1 := by simp [rank, heq, hen]
        simp only [maxQueue_enabled hen, hmem, hrank, next_qid,
          Function.update_of_ne (Ne.symm heq)]

/-- Queue ids from 1 on for the enabled classes, in the order of the source. -/
structure Consecutive (app : Values) (queues : Queues) : Prop where
  qids : queues.qids =
    (List.range (queueOrder.countP app.enabled + 1)).map UInt16.ofNat
  lportId : ∀ ty, queues.lportId ty =
    if app.enabled ty then lportMake 1 (UInt16.ofNat (rank app queueOrder ty + 1)) else lportInvalid

theorem assignQueues_consecutive (app : Values) : Consecutive app (assignQueues app) := by
  constructor
  · rw [assignQueues, maxQueue_qids, List.range_succ_eq_map, List.map_cons, List.map_map]
    refine congrArg (List.cons _) (List.map_congr_left fun k _ => ?_)
    show 1 + UInt16.ofNat k = UInt16.ofNat (k + 1)
    rw [UInt16.ofNat_add, UInt16.add_comm]
    rfl
  · intro ty
    have hmem : ty ∈ queueOrder := by cases ty <;> decide
    rw [assignQueues, maxQueue_lportId app (by decide)]
    simp only [hmem, true_and]
    congr 2
    rw [UInt16.ofNat_add, UInt16.add_comm]
    rfl

/-! ## Failure -/

/-- The return value. -/
def ret : Except Failure Loaded → Int32
  | .ok _ => 0
  | .error e => e.ret

theorem storeNumber_error {α β : Type} {r : Strto α} {cast : α → β} {complaint : Complaint}
    {e : Failure} (h : storeNumber r cast complaint = .error e) : e.ret ≠ 0 := by
  unfold storeNumber at h
  split at h
  · cases h
  · cases h
    show -erange ≠ 0
    decide

theorem storeBool_error {name : String} {value : CStr} {e : Failure}
    (h : storeBool name value = .error e) : e.ret ≠ 0 := by
  unfold storeBool at h
  split at h
  · cases h
  · split at h
    · cases h
    · cases h
      show retOfScan ≠ 0
      decide

theorem storeClockid_error {value : CStr} {e : Failure} (h : storeClockid value = .error e) :
    e.ret ≠ 0 := by
  unfold storeClockid at h
  split at h
  · cases h
  · split at h
    · cases h
    · cases h
      show retOfScan ≠ 0
      decide

theorem storeSecurityMode_error {value : CStr} {e : Failure}
    (h : storeSecurityMode value = .error e) : e.ret ≠ 0 := by
  unfold storeSecurityMode at h
  split at h
  · cases h
  · split at h
    · cases h
    · split at h
      · cases h
      · cases h
        show retOfScan ≠ 0
        decide

theorem storeSecurityAlgorithm_error {value : CStr} {e : Failure}
    (h : storeSecurityAlgorithm value = .error e) : e.ret ≠ 0 := by
  unfold storeSecurityAlgorithm at h
  split at h
  · cases h
  · split at h
    · cases h
    · split at h
      · cases h
      · cases h
        show retOfScan ≠ 0
        decide

theorem storeMac_error {value : CStr} {e : Failure} (h : storeMac value = .error e) :
    e.ret ≠ 0 := by
  unfold storeMac at h
  split at h
  · cases h
    decide
  · split at h
    · cases h
      show -ConfigFile.einval ≠ 0
      decide
    · cases h

/-- No refused value leaves a zero to return. -/
theorem storeParam_error {name : String} {k : Kind} {value : CStr} {e : Failure}
    (h : storeParam name k value = .error e) : e.ret ≠ 0 := by
  cases k with
  | clockid => exact storeClockid_error h
  | bool => exact storeBool_error h
  | int => exact storeNumber_error h
  | port =>
    have hnum : storeNumber (strtol 10 value) (fun v => v.toInt16.toUInt16) (invalidValue name) =
      .error e := h
    exact storeNumber_error hnum
  | uint => exact storeNumber_error h
  | ulong => exact storeNumber_error h
  | etherType => exact storeNumber_error h
  | string => cases h
  | mac => exact storeMac_error h
  | securityMode => exact storeSecurityMode_error h
  | securityAlgorithm => exact storeSecurityAlgorithm_error h

theorem storeParams_error {key value : CStr} {app : Values} {e : Failure}
    (h : storeParams key value app = .error e) : e.ret ≠ 0 := by
  rw [storeParams, Settings.storeAll_eq params_exclusive] at h
  split at h
  · cases h
  · rename_i p _
    cases hp : storeParam p.1 p.2.kind value with
    | error e' =>
      simp only [hp] at h
      cases h
      exact storeParam_error hp
    | ok v =>
      simp only [hp] at h
      cases h

theorem readTokens_error {ts : List Token} {st : LoopState} {e : Failure}
    (h : readTokens ts st = .error e) : e.ret ≠ 0 := by
  induction ts generalizing st with
  | nil =>
    cases h
    show -ConfigFile.einval ≠ 0
    decide
  | cons t ts ih =>
    obtain ⟨stateKey, key, app⟩ := st
    cases t with
    | streamEnd => cases h
    | key => exact ih h
    | value => exact ih h
    | other => exact ih h
    | scalar bytes =>
      simp only [readTokens, readToken] at h
      cases stateKey with
      | true => exact ih h
      | false =>
        cases key with
        | none => exact ih h
        | some key =>
          cases hs : storeParams key (ofBytes bytes) app with
          | error e' =>
            simp only [hs] at h
            cases h
            exact storeParams_error hs
          | ok app' =>
            simp only [hs] at h
            exact ih h

section file
variable {fopen : CStr → Option File} {path : CStr} {file : File}

/-- Reading a file that can be opened. -/
theorem configReadFromFile_eq (hfile : fopen path = some file) (hready : file.parserReady = true)
    (app : Values) : configReadFromFile fopen (some path) app =
      (readTokens file.tokens ⟨false, none, app⟩).map fun app =>
        ⟨finalWaitTime (finalLinkSpeed app), assignQueues app⟩ := by
  simp only [configReadFromFile, hfile, hready, Bool.not_true, Bool.false_eq_true, if_false]
  cases readTokens file.tokens ⟨false, none, app⟩ <;> rfl

theorem ret_eq_zero_iff (hfile : fopen path = some file) (hready : file.parserReady = true)
    (app : Values) : ret (configReadFromFile fopen (some path) app) = 0 ↔
      ∃ app', readTokens file.tokens ⟨false, none, app⟩ = .ok app' := by
  rw [configReadFromFile_eq hfile hready]
  cases hr : readTokens file.tokens ⟨false, none, app⟩ with
  | ok app' => exact iff_of_true rfl ⟨app', rfl⟩
  | error e => exact iff_of_false (readTokens_error hr) (by rintro ⟨app', h⟩; cases h)

/-- What a scanned file is read as. -/
theorem Scans.readTokens_ok_iff {nodes : List Node} {ts : List Token} (h : Scans nodes ts)
    (app app' : Values) : readTokens ts ⟨false, none, app⟩ = .ok app' ↔
      Token.streamEnd ∈ ts ∧
        (pairsOf nodes).foldlM (fun app a => storeParams a.1 a.2 app) app = .ok app' := by
  have heq := readTokens_eq ts ⟨false, none, app⟩
  split at heq
  · rename_i hend
    rw [heq, h.complete hend]
    exact (and_iff_right hend).symm
  · rename_i hend
    obtain ⟨e, he⟩ := heq
    rw [he]
    exact iff_of_false (fun hc => nomatch hc) (fun hc => hend hc.1)

/-- A file is read without an error just if the scan reaches its end and every macro takes
its value. -/
theorem ret_eq_zero_iff_valid {nodes : List Node} (hfile : fopen path = some file)
    (hready : file.parserReady = true) (hscan : Scans nodes file.tokens) (app : Values) :
    ret (configReadFromFile fopen (some path) app) = 0 ↔ Token.streamEnd ∈ file.tokens ∧
      ∀ a ∈ pairsOf nodes, ∀ p ∈ params, keyIs a.1 p.1 = true → Valid p.2.kind a.2 := by
  rw [ret_eq_zero_iff hfile hready]
  simp only [hscan.readTokens_ok_iff, exists_and_left]
  refine and_congr_right fun _ => ?_
  refine (Settings.foldlM_ok_iff params_exclusive app).trans ?_
  simp only [storeParam_ok_iff]

end file

/-! ## What stays of a file -/

theorem finalValues_apply {app : Values} {f : Field} (hspeed : f ≠ .applicationLinkSpeed)
    (hwait : f ≠ .applicationWaitTimeBeforeStart) : finalWaitTime (finalLinkSpeed app) f = app f := by
  rw [finalWaitTime_apply hwait, finalLinkSpeed_apply hspeed]

theorem finalValues_enabled (app : Values) :
    (finalWaitTime (finalLinkSpeed app)).enabled = app.enabled :=
  funext fun _ => finalValues_apply (by simp) (by simp)

theorem finalValues_linkSpeed (app : Values) : (finalWaitTime (finalLinkSpeed app)).linkSpeed =
    if app.linkSpeed = 0 then rteEthSpeedNumUnknown else app.linkSpeed := by
  rw [Values.linkSpeed, finalWaitTime_apply (by simp), finalLinkSpeed]
  split
  · exact Function.update_self _ _ _
  · rfl

theorem finalValues_waitTime (app : Values) : (finalWaitTime (finalLinkSpeed app)).waitTime =
    if app.waitTime < minWaitTime then minWaitTime else app.waitTime := by
  have hsame : (finalLinkSpeed app).waitTime = app.waitTime := finalLinkSpeed_apply (by simp)
  rw [finalWaitTime, hsame]
  split
  · exact Function.update_self _ _ _
  · exact hsame

/-- The queues after the final adjustments, which do not change what is enabled. -/
theorem finalValues_consecutive (app : Values) :
    Consecutive (finalWaitTime (finalLinkSpeed app)) (assignQueues app) := by
  have hqueues := assignQueues_consecutive app
  constructor
  · rw [finalValues_enabled]
    exact hqueues.qids
  · intro ty
    simp only [rank, finalValues_enabled]
    exact hqueues.lportId ty

/-- Keys that `strcasecmp` tells apart. -/
def Differ (key key' : CStr) : Prop := ¬ strcaseeq key key' = true

/-- Neither the order of pairs with different keys, nor unknown keys, nor sections make a
difference. -/
theorem configReadFromFile_rearranged {fopen : CStr → Option File} {path path' : CStr}
    {file file' : File} {nodes nodes' : List Node} (app : Values) (hfile : fopen path = some file)
    (hready : file.parserReady = true) (hscan : Scans nodes file.tokens)
    (hend : Token.streamEnd ∈ file.tokens) (hfile' : fopen path' = some file')
    (hready' : file'.parserReady = true) (hscan' : Scans nodes' file'.tokens)
    (hend' : Token.streamEnd ∈ file'.tokens)
    (hre : Settings.Rearranged Differ Recognised (pairsOf nodes) (pairsOf nodes'))
    (loaded : Loaded) : configReadFromFile fopen (some path) app = .ok loaded ↔
      configReadFromFile fopen (some path') app = .ok loaded := by
  rw [configReadFromFile_eq hfile hready, configReadFromFile_eq hfile' hready', map_ok_iff,
    map_ok_iff]
  refine exists_congr fun app' => and_congr_left fun _ => ?_
  rw [hscan.readTokens_ok_iff, hscan'.readTokens_ok_iff, and_iff_right hend, and_iff_right hend']
  refine hre.foldlM_iff params_nodup params_exclusive (fun _ _ => apart_of_differ)
    (fun key hkey p hp => ?_) app app'
  cases hk : keyIs key p.1 with
  | false => rfl
  | true => exact absurd ⟨p, hp, hk⟩ hkey

end Rtdk.ConfigRead
