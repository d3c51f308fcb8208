import Rtdk.Allocation
import Rtdk.ConfigRead

/-! The strings of the configuration in memory: `config_set_defaults`,
`config_read_from_file` with `CONFIG_STORE_STRING_PARAM`, and `__config_free` with
`scrub_and_free` (`config.c`, `config.h`).

`Rtdk.ConfigFile` has the values; here the `char *` fields of `app_config` and the
`key` of the token loop are pointers into a heap, `strdup` fails when `malloc` says
so, and `none` stands for a block that is freed twice, used after it was freed or
written beyond its end. `readTokens_refines` connects the two. A `continue` of the
token loop skips `yaml_token_delete`; `kept` holds the scalars of such tokens. -/

namespace Rtdk.ConfigMemory
open Function Rtdk.NetDef Rtdk.Stat Rtdk.Config Rtdk.CString Rtdk.ConfigFile Rtdk.ConfigRead
open Rtdk.Allocation

/-! ## State -/

/-- Whom a string is for: the `key` of the token loop or a `char *` field. -/
inductive Owner
  | key
  | field (f : Field)
  deriving DecidableEq, Repr

/-- `app` has the fields that are not strings; what it holds for one that is, is
not looked at. -/
structure State where
  heap : Heap Owner (List UInt8)
  mallocs : Nat
  stateKey : Bool
  key : Option Nat
  text : Field → Option Nat
  length : Field → Nat
  app : Values
  kept : List (List UInt8)

/-- `app_config = {0}`, with what `config_set_defaults` stores in the other fields. -/
def State.init : State := ⟨[], 0, false, none, fun _ => none, fun _ => 0, configSetDefaults, []⟩

def State.ptr (st : State) : Owner → Option Nat
  | .key => st.key
  | .field f => st.text f

/-- A string with its terminating NUL. -/
def cstr (s : CStr) : List UInt8 := s ++ [0]

def enomem : Int32 := 12

/-! ## The functions of the source -/

section
variable (malloc : Nat → Bool)

def strdup (o : Owner) (s : CStr) (st : State) : Option Nat × State :=
  if malloc st.mallocs then
    (some st.heap.length,
      { st with heap := alloc st.heap o (cstr s), mallocs := st.mallocs + 1 })
  else (none, { st with mallocs := st.mallocs + 1 })

/-- `CONFIG_STORE_STRING_PARAM`, for a key that fits. -/
def storeString (name : String) (f : Field) (value : CStr) (st : State) :
    Option (Except Failure Unit × State) :=
  match free st.heap (st.text f) with
  | none => none
  | some heap =>
    match strdup malloc (.field f) value { st with heap } with
    | (none, st) =>
      some (.error ⟨-enomem, ("strdup() for %s failed!\n", [.str name])⟩,
        { st with text := update st.text f none })
    | (some p, st) =>
      some (.ok (), { st with
        text := update st.text f (some p)
        length := update st.length f value.length })

/-- The macro of a field, for a key that fits. -/
def storeField (name : String) (f : Field) (value : CStr) (st : State) :
    Option (Except Failure Unit × State) :=
  if f.kind = .string then storeString malloc name f value st
  else
    match storeParam name f.kind value with
    | .error e => some (.error e, st)
    | .ok v => some (.ok (), { st with app := update st.app f v })

/-- The macros one after the other. `key` is what they find in its block. -/
def storeMacros (key value : CStr) : List (String × Field) → State →
    Option (Except Failure Unit × State)
  | [], st => some (.ok (), st)
  | (name, f) :: table, st =>
    if keyIs key name then
      match storeField malloc name f value st with
      | none => none
      | some (.error e, st) => some (.error e, st)
      | some (.ok (), st) => storeMacros key value table st
    else storeMacros key value table st

/-- The body of the loop, for a token that does not end the stream. -/
def readToken (t : Token) (st : State) : Option (Except Failure Unit × State) :=
  match t with
  | .key => some (.ok (), { st with stateKey := true })
  | .value => some (.ok (), { st with stateKey := false })
  | .scalar bytes =>
    if st.stateKey then
      match free st.heap st.key with
      | none => none
      | some heap =>
        match strdup malloc .key (ofBytes bytes) { st with heap, key := none } with
        | (none, st) =>
          some (.error ⟨retOfScan, ("%s: No memory left!\n", [.str "config_read_from_file"])⟩, st)
        | (some p, st) => some (.ok (), { st with key := some p, kept := st.kept ++ [bytes] })
    else
      match st.key with
      | none => some (.ok (), { st with kept := st.kept ++ [bytes] })
      | some p =>
        match read st.heap p with
        | none => none
        | some key =>
          match storeMacros malloc (ofBytes key) (ofBytes bytes) params st with
          | none => none
          | some (.error e, st) => some (.error e, st)
          | some (.ok (), st) =>
            match free st.heap st.key with
            | none => none
            | some heap => some (.ok (), { st with heap, key := none })
  | .streamEnd | .other => some (.ok (), st)

def readTokens : List Token → State → Option (Except Failure Unit × State)
  | [], st =>
    some (.error ⟨-einval, ("%s: Failed to parse YAML file!\n", [.str "config_read_from_file"])⟩, st)
  | .streamEnd :: _, st => some (.ok (), st)
  | t :: ts, st =>
    match readToken malloc t st with
    | none => none
    | some (.error e, st) => some (.error e, st)
    | some (.ok (), st) => readTokens ts st

/-- From `config_file` on; the end of both ways out of the loop is `free(key)`. -/
def configReadFromFile (fopen : CStr → Option File) (configFile : CStr) (st : State) :
    Option (Except Failure Queues × State) :=
  match fopen configFile with
  | none => some (.error ⟨-eio, ("fopen() failed", [])⟩, st)
  | some file =>
    if !file.parserReady then
      some (.error ⟨-einval, ("Failed to initialize YAML parser\n", [])⟩, st)
    else
      match readTokens malloc file.tokens { st with stateKey := false, key := none } with
      | none => none
      | some (r, st) =>
        match free st.heap st.key with
        | none => none
        | some heap =>
          match r with
          | .error e => some (.error e, { st with heap, key := none })
          | .ok () =>
            some (.ok (assignQueues st.app), { st with
              heap
              key := none
              app := finalWaitTime (finalLinkSpeed st.app) })

/-- The strings of `config_set_defaults`, in its order, and whether their `_length`
is set with them. -/
def defaultStrings : List (Field × String × Bool) :=
  [(.payloadPattern .tsnHigh, "Payload", true), (.payloadPattern .tsnLow, "Payload", true),
    (.payloadPattern .rtc, "Payload", true), (.payloadPattern .rta, "Payload", true),
    (.payloadPattern .dcp, "Payload", true), (.payloadPattern .lldp, "Payload", true),
    (.payloadPattern .udpHigh, "Payload", true), (.udpDestination .udpHigh, "192.168.2.121", false),
    (.udpSource .udpHigh, "192.168.2.120", false), (.payloadPattern .udpLow, "Payload", true),
    (.udpDestination .udpLow, "192.168.2.121", false), (.udpSource .udpLow, "192.168.2.120", false),
    (.payloadPattern .l2, "Payload", true), (.logFile, "reference.log", false),
    (.logLevel, "Debug", false), (.statsHistogramFile, "histogram.txt", true),
    (.logViaMqttBrokerIp, "127.0.0.1", false), (.logViaMqttMeasurementName, "testbench", false)]

/-- Whether all of them could be copied. -/
def setStrings : List (Field × String × Bool) → State → Bool × State
  | [], st => (true, st)
  | (f, s, setsLength) :: rest, st =>
    match strdup malloc (.field f) (lit s) st with
    | (none, st) => (false, { st with text := update st.text f none })
    | (some p, st) =>
      setStrings rest { st with
        text := update st.text f (some p)
        length := if setsLength then update st.length f (lit s).length else st.length }

end

/-- `explicit_bzero`. -/
def explicitBzero (heap : Heap Owner (List UInt8)) (p len : Nat) :
    Option (Heap Owner (List UInt8)) :=
  match read heap p with
  | none => none
  | some x =>
    if len ≤ x.length then write heap p (List.replicate len 0 ++ x.drop len) else none

def scrubAndFree (f : Field) (st : State) : Option State :=
  match st.text f with
  | none => some st
  | some p =>
    match explicitBzero st.heap p (st.length f) with
    | none => none
    | some heap =>
      match free heap (some p) with
      | none => none
      | some heap => some { st with heap, text := update st.text f none }

/-- `free` and `NULL` for one field. -/
def freeField (f : Field) (st : State) : Option State :=
  match free st.heap (st.text f) with
  | none => none
  | some heap => some { st with heap, text := update st.text f none }

/-- The fields of `__config_free`, in its order, and whether they are scrubbed. -/
def configFrees : List (Field × Bool) :=
  [(.payloadPattern .tsnHigh, false), (.securityKey .tsnHigh, true),
    (.securityIvPrefix .tsnHigh, true), (.payloadPattern .tsnLow, false),
    (.securityKey .tsnLow, true), (.securityIvPrefix .tsnLow, true), (.payloadPattern .rtc, false),
    (.securityKey .rtc, true), (.securityIvPrefix .rtc, true), (.payloadPattern .rta, false),
    (.securityKey .rta, true), (.securityIvPrefix .rta, true), (.payloadPattern .dcp, false),
    (.payloadPattern .lldp, false), (.payloadPattern .udpHigh, false),
    (.udpDestination .udpHigh, false), (.udpSource .udpHigh, false),
    (.payloadPattern .udpLow, false), (.udpDestination .udpLow, false),
    (.udpSource .udpLow, false), (.payloadPattern .l2, false), (.statsHistogramFile, false),
    (.logFile, false), (.logLevel, false), (.logViaMqttBrokerIp, false),
    (.logViaMqttMeasurementName, false)]

def configFreeField (st : State) (p : Field × Bool) : Option State :=
  if p.2 then scrubAndFree p.1 st else freeField p.1 st

/-- `__config_free`; `config_deinit` is nothing else. -/
def configFree (st : State) : Option State := configFrees.foldlM configFreeField st

/-- `config_set_defaults`: the way `out` frees the strings copied so far. -/
def configSetDefaults (malloc : Nat → Bool) (st : State) : Option (Int32 × State) :=
  match setStrings malloc defaultStrings st with
  | (true, st) => some (0, st)
  | (false, st) =>
    match configFree st with
    | none => none
    | some st => some (-enomem, st)

def configInit (malloc : Nat → Bool) (fopen : CStr → Option File) (configFilePath : Option CStr) :
    Option (Except Failure Queues × State) :=
  match configSetDefaults malloc State.init with
  | none => none
  | some (ret, st) =>
    if ret ≠ 0 then some (.error ⟨ret, ("Failed to set default config values!\n", [])⟩, st)
    else
      match configFilePath with
      | none =>
        some (.error ⟨-1, ("Specifying an configuration file is mandatory. See tests/ directory for examples!\n", [])⟩, st)
      | some path => configReadFromFile malloc fopen path st

/-! ## What the pointers lead to -/

theorem zero_notMem_ofBytes (bytes : List UInt8) : 0 ∉ ofBytes bytes := by
  intro hmem
  have hne := List.mem_takeWhile_imp hmem
  simp at hne

theorem ofBytes_cstr {s : CStr} (hs : 0 ∉ s) : ofBytes (cstr s) = s := by
  have hall : ∀ c ∈ s, (c != 0) = true := by
    intro c hc
    rw [bne_iff_ne]
    rintro rfl
    exact hs hc
  rw [ofBytes, cstr, List.takeWhile_append_of_pos hall]
  simp

/-- A value, with the string in place of one that is a string. -/
def fill : (k : Kind) → k.Val → StringParam → k.Val
  | .string, _, s => s
  | .clockid, v, _ => v
  | .bool, v, _ => v
  | .int, v, _ => v
  | .port, v, _ => v
  | .uint, v, _ => v
  | .ulong, v, _ => v
  | .mac, v, _ => v
  | .etherType, v, _ => v
  | .securityMode, v, _ => v
  | .securityAlgorithm, v, _ => v

theorem fill_other {k : Kind} (hk : k ≠ .string) (v : k.Val) (s : StringParam) : fill k v s = v := by
  cases k with
  | string => exact absurd rfl hk
  | _ => rfl

theorem fill_string {k : Kind} (hk : k = .string) (v w : k.Val) (s : StringParam) :
    fill k v s = fill k w s := by
  subst hk
  rfl

theorem storeParam_string (name : String) {k : Kind} (hk : k = .string) (v : k.Val)
    (value : CStr) : storeParam name k value = .ok (fill k v ⟨some value, value.length⟩) := by
  subst hk
  rfl

abbrev Ledger := Owner → Account (List UInt8)

/-- The fields of `app_config`, strings read through their pointers. -/
def State.values (st : State) : Values := fun f =>
  fill f.kind (st.app f) ⟨((st.text f).bind (read st.heap)).map ofBytes, st.length f⟩

def State.loop (st : State) : LoopState :=
  ⟨st.stateKey, ((st.key).bind (read st.heap)).map ofBytes, st.values⟩

/-- The pointers are those of the blocks in use, and `__config_free` can scrub every
string there is, the keys and IV prefixes completely. -/
structure Safe (st : State) (ledger : Ledger) : Prop where
  accounts : Accounts st.heap st.ptr ledger
  held : ∀ f x, (ledger (.field f)).now = some x → ∃ v, x = cstr v ∧ st.length f ≤ v.length ∧
    ((f, true) ∈ configFrees → st.length f = v.length)
  freed : ∀ f, (ledger (.field f)).now ≠ none → f ∈ configFrees.map Prod.fst

variable {malloc : Nat → Bool} {st : State} {ledger : Ledger}

/-- What the ledger says the fields are. -/
theorem Safe.loop_eq (hs : Safe st ledger) :
    st.loop = ⟨st.stateKey, (ledger .key).now.map ofBytes, fun f =>
      fill f.kind (st.app f) ⟨(ledger (.field f)).now.map ofBytes, st.length f⟩⟩ := by
  have hkey : st.key.bind (read st.heap) = (ledger .key).now := hs.accounts.read_eq .key
  have htext (f : Field) : (st.text f).bind (read st.heap) = (ledger (.field f)).now :=
    hs.accounts.read_eq (.field f)
  unfold State.loop State.values
  simp only [hkey, htext]

theorem ptr_text (st : State) (f : Field) (p : Option Nat) :
    ({ st with text := update st.text f p } : State).ptr = update st.ptr (.field f) p := by
  funext o
  cases o with
  | key => rfl
  | field g =>
    by_cases hg : g = f
    · subst g
      simp [State.ptr]
    · have hne : Owner.field g ≠ Owner.field f := fun h => hg (Owner.field.inj h)
      rw [update_of_ne hne]
      simp [State.ptr, update_of_ne hg]

theorem ptr_key (st : State) (p : Option Nat) :
    ({ st with key := p } : State).ptr = update st.ptr .key p := by
  funext o
  cases o with
  | key => simp [State.ptr]
  | field g => rfl

theorem field_ne_key (f : Field) : Owner.field f ≠ .key := by
  intro h
  cases h

theorem Safe.update (hs : Safe st ledger) {st' : State} {f : Field} {a : Account (List UInt8)}
    (hacc : Accounts st'.heap st'.ptr (update ledger (.field f) a))
    (hlen : ∀ g, g ≠ f → st'.length g = st.length g)
    (hheld : ∀ x, a.now = some x → ∃ v, x = cstr v ∧ st'.length f ≤ v.length ∧
      ((f, true) ∈ configFrees → st'.length f = v.length))
    (hfreed : a.now ≠ none → f ∈ configFrees.map Prod.fst) :
    Safe st' (Function.update ledger (.field f) a) where
  accounts := hacc
  held g x hx := by
    by_cases hg : g = f
    · subst g
      rw [update_self] at hx
      exact hheld x hx
    · rw [update_of_ne fun h => hg (Owner.field.inj h)] at hx
      rw [hlen g hg]
      exact hs.held g x hx
  freed g hne := by
    by_cases hg : g = f
    · subst g
      rw [update_self] at hne
      exact hfreed hne
    · rw [update_of_ne fun h => hg (Owner.field.inj h)] at hne
      exact hs.freed g hne

theorem Safe.update_key (hs : Safe st ledger) {st' : State} {a : Account (List UInt8)}
    (hacc : Accounts st'.heap st'.ptr (Function.update ledger .key a))
    (hlen : st'.length = st.length) : Safe st' (Function.update ledger .key a) where
  accounts := hacc
  held f x hx := by
    rw [update_of_ne (field_ne_key f)] at hx
    rw [hlen]
    exact hs.held f x hx
  freed f hne := by
    rw [update_of_ne (field_ne_key f)] at hne
    exact hs.freed f hne

/-! ## Refinement -/

/-- A step of the strings in memory against one of the values: it ends in a safe
state, with the same result unless memory has run out, and `credit` says what it
does to the ledger. -/
inductive Refines {α σ : Type} (malloc : Nat → Bool) (view : α → State → σ)
    (pure : Except Failure σ) (credit : Ledger → Prop) : Option (Except Failure α × State) → Prop
  | ok {a : α} {st : State} {ledger : Ledger} (hsafe : Safe st ledger)
      (hpure : pure = .ok (view a st)) (hcredit : credit ledger) :
      Refines malloc view pure credit (some (.ok a, st))
  | error {e : Failure} {st : State} {ledger : Ledger} (hsafe : Safe st ledger)
      (hpure : pure = .error e ∨ ∃ n, malloc n = false) :
      Refines malloc view pure credit (some (.error e, st))

/-- The string of a field is replaced. -/
def creditField (value : CStr) (f : Field) (ledger : Ledger) : Ledger :=
  if f.kind = .string then
    Function.update ledger (.field f) ((ledger (.field f)).close.open (cstr value))
  else ledger

theorem storeString_refines (hs : Safe st ledger) {f : Field} (hkind : f.kind = .string)
    (hf : f ∈ configFrees.map Prod.fst) (name : String) {value : CStr} (hvalue : 0 ∉ value) :
    Refines malloc (fun _ => State.loop)
      ((storeParam name f.kind value).map fun v =>
        { st.loop with app := Function.update st.values f v })
      (· = creditField value f ledger) (storeString malloc name f value st) := by
  obtain ⟨heap, hfree, hacc⟩ := hs.accounts.release (.field f)
  have hfree' : free st.heap (st.text f) = some heap := hfree
  unfold storeString
  simp only [hfree', strdup]
  by_cases hm : malloc st.mallocs = true
  · simp only [if_pos hm]
    have halloc := hacc.alloc (update_self ..) (cstr value)
    rw [update_self, update_idem, update_idem] at halloc
    have hsafe : Safe { st with
          heap := alloc heap (.field f) (cstr value)
          mallocs := st.mallocs + 1
          text := Function.update st.text f (some heap.length)
          length := Function.update st.length f value.length }
        (Function.update ledger (.field f) ((ledger (.field f)).close.open (cstr value))) := by
      refine hs.update ?_ (fun g hg => update_of_ne hg ..) ?_ fun _ => hf
      · exact (ptr_text st f (some heap.length)).symm ▸ halloc
      · intro x hx
        cases hx
        exact ⟨value, rfl, by simp, fun _ => by simp⟩
    refine .ok hsafe ?_ (by rw [creditField, if_pos hkind])
    rw [storeParam_string name hkind (st.values f), hsafe.loop_eq, hs.loop_eq]
    refine congrArg Except.ok ?_
    simp only [LoopState.mk.injEq, true_and]
    refine ⟨by rw [update_of_ne (field_ne_key f).symm], funext fun g => ?_⟩
    by_cases hg : g = f
    · subst g
      rw [update_self, update_self, update_self]
      simp only [Account.open, Option.map_some, ofBytes_cstr hvalue]
      exact fill_string hkind _ _ _
    · rw [update_of_ne hg, update_of_ne fun h => hg (Owner.field.inj h), update_of_ne hg]
      have hvalues := congrArg LoopState.app hs.loop_eq
      exact congrFun hvalues g
  · simp only [if_neg hm]
    have hsafe : Safe { st with
          heap := heap
          mallocs := st.mallocs + 1
          text := Function.update st.text f none }
        (Function.update ledger (.field f) (ledger (.field f)).close) := by
      refine hs.update ?_ (fun g _ => rfl) (fun x hx => by cases hx) fun hne => absurd rfl hne
      exact (ptr_text st f none).symm ▸ hacc
    exact .error hsafe (.inr ⟨_, by simpa using hm⟩)

theorem storeField_refines (malloc : Nat → Bool) (hs : Safe st ledger) {f : Field}
    (hf : f.kind = .string → f ∈ configFrees.map Prod.fst) (name : String) {value : CStr}
    (hvalue : 0 ∉ value) :
    Refines malloc (fun _ => State.loop)
      ((storeParam name f.kind value).map fun v =>
        { st.loop with app := Function.update st.values f v })
      (· = creditField value f ledger) (storeField malloc name f value st) := by
  unfold storeField
  split
  · rename_i hkind
    exact storeString_refines hs hkind (hf hkind) name hvalue
  · rename_i hkind
    cases hparam : storeParam name f.kind value with
    | error e => exact .error hs (.inl rfl)
    | ok v =>
      have hsafe : Safe { st with app := Function.update st.app f v } ledger :=
        ⟨hs.accounts, hs.held, hs.freed⟩
      refine .ok hsafe (congrArg Except.ok ?_) (by rw [creditField, if_neg hkind])
      rw [hs.loop_eq, hsafe.loop_eq]
      simp only [LoopState.mk.injEq, true_and]
      funext g
      by_cases hg : g = f
      · subst g
        rw [update_self, update_self, fill_other hkind]
      · rw [update_of_ne hg, update_of_ne hg]
        exact congrFun (congrArg LoopState.app hs.loop_eq) g

/-- What the macros do to the ledger for one key. -/
def creditMacro (key value : CStr) (ledger : Ledger) (p : String × Field) : Ledger :=
  if keyIs key p.1 then creditField value p.2 ledger else ledger

theorem storeMacros_refines (malloc : Nat → Bool) (hs : Safe st ledger) {table : List (String × Field)}
    (htable : ∀ p ∈ table, p.2.kind = .string → p.2 ∈ configFrees.map Prod.fst) (key : CStr)
    {value : CStr} (hvalue : 0 ∉ value) :
    Refines malloc (fun _ => State.loop)
      ((Settings.storeAll keyIs (fun name f text => storeParam name f.kind text) table key value
        st.values).map fun app => { st.loop with app })
      (· = table.foldl (creditMacro key value) ledger) (storeMacros malloc key value table st) := by
  induction table generalizing st ledger with
  | nil => exact .ok hs rfl rfl
  | cons p table ih =>
    obtain ⟨name, f⟩ := p
    have hrest : ∀ p ∈ table, p.2.kind = .string → p.2 ∈ configFrees.map Prod.fst := fun p hp =>
      htable p (List.mem_cons_of_mem _ hp)
    rw [Settings.storeAll, List.foldlM_cons, Settings.store, storeMacros, List.foldl_cons,
      creditMacro]
    by_cases hkey : keyIs key name = true
    · simp only [if_pos hkey]
      have hfield := storeField_refines malloc hs (htable (name, f) List.mem_cons_self)
        name hvalue
      generalize storeField malloc name f value st = res at hfield ⊢
      cases hparam : storeParam name f.kind value with
      | error e =>
        rw [hparam] at hfield
        cases hfield with
        | ok hsafe hpure => cases hpure
        | error hsafe hpure =>
          refine .error hsafe (hpure.imp_left fun he => ?_)
          cases he
          rfl
      | ok v =>
        rw [hparam] at hfield
        cases hfield with
        | error hsafe hpure =>
          refine .error hsafe (hpure.imp_left fun he => ?_)
          cases he
        | @ok _ st' ledger' hsafe hpure hcredit =>
          have hloop := (Except.ok.inj hpure).symm
          have hvalues : st'.values = Function.update st.values f v :=
            congrArg LoopState.app hloop
          have hnext := ih hsafe hrest
          rw [hvalues, hloop, hcredit] at hnext
          exact hnext
    · simp only [if_neg hkey]
      exact ih hs hrest

/-- What the file gives to a field for one key and its value. -/
def credited (f : Field) (account : Account (List UInt8)) (a : CStr × CStr) :
    Account (List UInt8) :=
  if (Settings.nameFor keyIs params f a.1).isSome ∧ f.kind = .string then
    account.close.open (cstr a.2)
  else account

theorem creditMacro_other {key value : CStr} {p : String × Field} {f : Field} (hne : p.2 ≠ f)
    (ledger : Ledger) : creditMacro key value ledger p (.field f) = ledger (.field f) := by
  unfold creditMacro creditField
  have hfield : Owner.field f ≠ .field p.2 := fun h => hne (Owner.field.inj h).symm
  split
  · split
    · rw [update_of_ne hfield]
    · rfl
  · rfl

theorem creditMacros_other {key value : CStr} {table : List (String × Field)} {f : Field}
    (hf : f ∉ table.map Prod.snd) (ledger : Ledger) :
    table.foldl (creditMacro key value) ledger (.field f) = ledger (.field f) := by
  induction table generalizing ledger with
  | nil => rfl
  | cons p table ih =>
    rw [List.map_cons, List.mem_cons, not_or] at hf
    rw [List.foldl_cons, ih hf.2, creditMacro_other (Ne.symm hf.1)]

theorem creditMacros_apply {key value : CStr} {table : List (String × Field)}
    (hnodup : (table.map Prod.snd).Nodup) (f : Field) (ledger : Ledger) :
    table.foldl (creditMacro key value) ledger (.field f) =
      if (Settings.nameFor keyIs table f key).isSome ∧ f.kind = .string then
        (ledger (.field f)).close.open (cstr value)
      else ledger (.field f) := by
  induction table generalizing ledger with
  | nil =>
    rw [if_neg (by simp [Settings.nameFor])]
    rfl
  | cons p table ih =>
    rw [List.map_cons, List.nodup_cons] at hnodup
    rw [List.foldl_cons, Settings.nameFor_cons]
    by_cases hp : p.2 = f
    · subst hp
      rw [creditMacros_other hnodup.1, creditMacro, creditField,
        Settings.nameFor_none hnodup.1]
      by_cases hkey : keyIs key p.1 = true
      · by_cases hkind : p.2.kind = .string
        · simp [hkey, hkind]
        · simp [hkey, hkind]
      · simp [hkey]
    · rw [ih hnodup.2, creditMacro_other hp, if_neg fun h : p.2 = f ∧ _ => hp h.1]

/-- The key and value a token completes. -/
def assigned (loop : LoopState) : Token → Option (CStr × CStr)
  | .scalar bytes => if loop.stateKey then none else loop.key.map fun key => (key, ofBytes bytes)
  | _ => none

/-- A table that has been checked entry by entry. -/
theorem of_all_checked {α : Type} {P : α → Prop} [DecidablePred P] {table : List α}
    (hall : table.all (fun x => decide (P x)) = true) : ∀ x ∈ table, P x := by
  intro x hx
  exact of_decide_eq_true (List.all_eq_true.mp hall x hx)

theorem params_freed :
    ∀ p ∈ params, p.2.kind = .string → p.2 ∈ configFrees.map Prod.fst :=
  of_all_checked (by decide)

theorem readToken_refines (malloc : Nat → Bool) (hs : Safe st ledger) (t : Token) :
    Refines malloc (fun _ => State.loop) (ConfigFile.readToken st.loop t)
      (fun ledger' => ∀ f, ledger' (.field f) =
        (assigned st.loop t).toList.foldl (credited f) (ledger (.field f)))
      (readToken malloc t st) := by
  cases t with
  | key =>
    have hsafe : Safe { st with stateKey := true } ledger := ⟨hs.accounts, hs.held, hs.freed⟩
    exact .ok hsafe rfl fun f => rfl
  | value =>
    have hsafe : Safe { st with stateKey := false } ledger := ⟨hs.accounts, hs.held, hs.freed⟩
    exact .ok hsafe rfl fun f => rfl
  | streamEnd => exact .ok hs rfl fun f => rfl
  | other => exact .ok hs rfl fun f => rfl
  | scalar bytes =>
    have hloop := hs.loop_eq
    rw [readToken, ConfigFile.readToken]
    by_cases hstate : st.stateKey = true
    · have hstate' : st.loop.stateKey = true := hstate
      obtain ⟨heap, hfree, hacc⟩ := hs.accounts.release .key
      have hfree' : free st.heap st.key = some heap := hfree
      simp only [if_pos hstate, if_pos hstate', assigned, hfree', strdup]
      by_cases hm : malloc st.mallocs = true
      · simp only [if_pos hm]
        have halloc := hacc.alloc (update_self ..) (cstr (ofBytes bytes))
        rw [update_self, update_idem, update_idem] at halloc
        have hsafe : Safe { st with
              heap := alloc heap .key (cstr (ofBytes bytes))
              mallocs := st.mallocs + 1
              key := some heap.length
              kept := st.kept ++ [bytes] }
            (Function.update ledger .key ((ledger .key).close.open (cstr (ofBytes bytes)))) :=
          hs.update_key ((ptr_key st (some heap.length)).symm ▸ halloc) rfl
        refine .ok hsafe (congrArg Except.ok ?_) fun f => update_of_ne (field_ne_key f) ..
        rw [hsafe.loop_eq, hloop]
        simp only [LoopState.mk.injEq, true_and, update_self, Account.open, Option.map_some,
          ofBytes_cstr (zero_notMem_ofBytes bytes)]
        exact funext fun f => by rw [update_of_ne (field_ne_key f)]
      · simp only [if_neg hm]
        exact .error (hs.update_key ((ptr_key st none).symm ▸ hacc) rfl) (.inr ⟨_, by simpa using hm⟩)
    · have hstate' : ¬ st.loop.stateKey = true := hstate
      simp only [if_neg hstate, if_neg hstate', assigned]
      cases hkey : st.key with
      | none =>
        have hnone : st.loop.key = none := by
          unfold State.loop
          rw [hkey]
          rfl
        have hsafe : Safe { st with kept := st.kept ++ [bytes] } ledger :=
          ⟨hs.accounts, hs.held, hs.freed⟩
        rw [hkey] at hsafe
        simp only [hnone]
        refine .ok hsafe (congrArg Except.ok ?_) fun f => rfl
        unfold State.loop
        rw [hkey]
        rfl
      | some p =>
        have hp : st.ptr .key = some p := hkey
        obtain ⟨x, hx, -⟩ := hs.accounts.block hp
        have hread : Allocation.read st.heap p = some x := by
          rw [Allocation.read, hx]
          rfl
        have hsome : st.loop.key = some (ofBytes x) := by
          unfold State.loop
          rw [hkey, Option.bind_some, hread]
          rfl
        have hvalues : st.loop.app = st.values := rfl
        simp only [hread, hsome]
        rw [storeParams, hvalues]
        have hmacros := storeMacros_refines malloc hs params_freed (ofBytes x)
          (zero_notMem_ofBytes bytes)
        generalize storeMacros malloc (ofBytes x) (ofBytes bytes) params st = res at hmacros ⊢
        generalize Settings.storeAll keyIs _ params (ofBytes x) (ofBytes bytes) st.values = stored
          at hmacros ⊢
        cases hmacros with
        | error hsafe hpure =>
          refine .error hsafe (hpure.imp_left fun he => ?_)
          cases stored with
          | error e =>
            cases he
            rfl
          | ok app => cases he
        | @ok _ st' ledger' hsafe hpure hcredit =>
          obtain ⟨heap, hfree, hacc⟩ := hsafe.accounts.release .key
          have hfree' : free st'.heap st'.key = some heap := hfree
          simp only [hfree']
          have hsafe' : Safe { st' with heap := heap, key := none }
              (Function.update ledger' .key (ledger' .key).close) :=
            hsafe.update_key ((ptr_key st' none).symm ▸ hacc) rfl
          refine .ok hsafe' ?_ fun f => ?_
          · cases stored with
            | error e => cases hpure
            | ok app =>
              have hloop := Except.ok.inj hpure
              have happ : app = st'.loop.app := congrArg LoopState.app hloop
              rw [hsafe'.loop_eq]
              refine congrArg Except.ok ?_
              simp only [LoopState.mk.injEq, update_self]
              refine ⟨congrArg LoopState.stateKey hloop, rfl, ?_⟩
              rw [happ, hsafe.loop_eq]
              funext f
              rw [update_of_ne (field_ne_key f)]
          · rw [update_of_ne (field_ne_key f), hcredit]
            exact creditMacros_apply params_nodup f ledger

theorem readTokens_cons {t : Token} (ht : t ≠ .streamEnd) (ts : List Token) (st : State) :
    readTokens malloc (t :: ts) st =
      match readToken malloc t st with
      | none => none
      | some (.error e, st) => some (.error e, st)
      | some (.ok (), st) => readTokens malloc ts st := by
  cases t with
  | streamEnd => exact absurd rfl ht
  | _ => rfl

theorem valuesTokens_cons {t : Token} (ht : t ≠ .streamEnd) (ts : List Token) (loop : LoopState) :
    ConfigFile.readTokens (t :: ts) loop =
      match ConfigFile.readToken loop t with
      | .error e => .error e
      | .ok loop => ConfigFile.readTokens ts loop := by
  cases t with
  | streamEnd => exact absurd rfl ht
  | _ => rfl

theorem assignments_cons {t : Token} (ht : t ≠ .streamEnd) {loop loop' : LoopState}
    (h : ConfigFile.readToken loop t = .ok loop') (ts : List Token) :
    assignments loop.stateKey loop.key (t :: ts) =
      (assigned loop t).toList ++ assignments loop'.stateKey loop'.key ts := by
  obtain ⟨stateKey, key, app⟩ := loop
  cases t with
  | streamEnd => exact absurd rfl ht
  | scalar bytes =>
    cases stateKey with
    | true =>
      cases h
      rfl
    | false =>
      cases key with
      | none =>
        cases h
        rfl
      | some key =>
        rw [ConfigFile.readToken] at h
        simp only [Bool.false_eq_true, if_false] at h
        obtain ⟨app', -, rfl⟩ := Runs.map_ok_iff.mp h
        rfl
  | _ =>
    cases h
    rfl

theorem readTokens_refines (malloc : Nat → Bool) (hs : Safe st ledger) (ts : List Token) :
    Refines malloc (fun _ => State.values) (ConfigFile.readTokens ts st.loop)
      (fun ledger' => ∀ f, ledger' (.field f) =
        (assignments st.loop.stateKey st.loop.key ts).foldl (credited f) (ledger (.field f)))
      (readTokens malloc ts st) := by
  induction ts generalizing st ledger with
  | nil => exact .error hs (.inl rfl)
  | cons t ts ih =>
    by_cases ht : t = .streamEnd
    · subst ht
      exact .ok hs rfl fun f => rfl
    · have htoken := readToken_refines malloc hs t
      rw [readTokens_cons ht, valuesTokens_cons ht]
      generalize readToken malloc t st = res at htoken ⊢
      cases htoken with
      | error hsafe hpure => exact .error hsafe (hpure.imp_left fun he => by rw [he])
      | @ok _ st' ledger' hsafe hpure hcredit =>
        have hrest := ih hsafe
        rw [assignments_cons ht hpure]
        simp only [hpure, List.foldl_append]
        cases hres : readTokens malloc ts st' with
        | none =>
          rw [hres] at hrest
          cases hrest
        | some out =>
          rw [hres] at hrest
          cases hrest with
          | error hsafe' hpure' => exact .error hsafe' hpure'
          | ok hsafe' hpure' hcredit' =>
            exact .ok hsafe' hpure' fun f => by rw [hcredit', hcredit]

/-! ## Freeing -/

/-- What `__config_free` makes of an account. -/
def released (scrub : Bool) (a : Account (List UInt8)) : Account (List UInt8) :=
  if scrub then ⟨a.past ++ (a.now.map fun x => x.map fun _ => 0).toList, none⟩ else a.close

/-- A string that is cleared over its length is cleared. -/
theorem cstr_scrubbed (v : CStr) :
    List.replicate v.length 0 ++ (cstr v).drop v.length = (cstr v).map fun _ => 0 := by
  rw [cstr, List.drop_left, List.map_append, List.map_const']
  rfl

theorem configFreeField_safe (hs : Safe st ledger) {p : Field × Bool} (hp : p ∈ configFrees) :
    ∃ st', configFreeField st p = some st' ∧ st'.key = st.key ∧
      Safe st' (Function.update ledger (.field p.1) (released p.2 (ledger (.field p.1)))) := by
  obtain ⟨f, scrub⟩ := p
  have hclosed {st' : State} {a : Account (List UInt8)}
      (hacc : Accounts st'.heap st'.ptr (Function.update ledger (.field f) a))
      (hlen : st'.length = st.length) (hnow : a.now = none) :
      Safe st' (Function.update ledger (.field f) a) :=
    hs.update hacc (fun g _ => by rw [hlen]) (fun x hx => by rw [hnow] at hx; cases hx)
      fun hne => absurd hnow hne
  cases scrub with
  | false =>
    obtain ⟨heap, hfree, hacc⟩ := hs.accounts.release (.field f)
    have hfree' : free st.heap (st.text f) = some heap := hfree
    refine ⟨{ st with heap := heap, text := Function.update st.text f none }, ?_, rfl,
      hclosed ((ptr_text st f none).symm ▸ hacc) rfl rfl⟩
    rw [configFreeField, if_neg Bool.false_ne_true, freeField, hfree']
  | true =>
    rw [configFreeField, if_pos rfl, scrubAndFree]
    cases htext : st.text f with
    | none =>
      have hnow : (ledger (.field f)).now = none := hs.accounts.now_none htext
      have hsame : released true (ledger (.field f)) = ledger (.field f) := by
        rw [released, if_pos rfl, hnow]
        cases ha : ledger (.field f) with
        | mk past now =>
          rw [ha] at hnow
          cases hnow
          rw [Option.map_none, Option.toList_none, List.append_nil]
      refine ⟨st, rfl, rfl, ?_⟩
      rw [hsame, update_eq_self]
      exact hs
    | some p =>
      have hptr : st.ptr (.field f) = some p := htext
      obtain ⟨x, hx, hnow⟩ := hs.accounts.block hptr
      obtain ⟨v, rfl, -, hlength⟩ := hs.held f x hnow
      have hread : Allocation.read st.heap p = some (cstr v) := by
        rw [Allocation.read, hx]
        rfl
      obtain ⟨heap, hwrite, hacc⟩ := hs.accounts.write hptr ((cstr v).map fun _ => 0)
      have hbzero : explicitBzero st.heap p (st.length f) = some heap := by
        rw [explicitBzero, hread, hlength hp]
        simp only [cstr_scrubbed]
        rw [if_pos (by simp [cstr]), hwrite]
      obtain ⟨heap', hfree, hacc'⟩ := hacc.release (.field f)
      rw [hptr] at hfree
      rw [update_self, update_idem] at hacc'
      simp only [hbzero, hfree]
      refine ⟨_, rfl, rfl, hclosed ((ptr_text st f none).symm ▸ ?_) rfl ?_⟩
      · rw [released, if_pos rfl, hnow]
        exact hacc'
      · rw [released, if_pos rfl]

theorem configFreeFields_safe (hs : Safe st ledger) {ps : List (Field × Bool)}
    (hps : ∀ p ∈ ps, p ∈ configFrees) (hnodup : (ps.map Prod.fst).Nodup) :
    ∃ st' ledger', ps.foldlM configFreeField st = some st' ∧ st'.key = st.key ∧
      Safe st' ledger' ∧
      (∀ p ∈ ps, ledger' (.field p.1) = released p.2 (ledger (.field p.1))) ∧
      ∀ f, f ∉ ps.map Prod.fst → ledger' (.field f) = ledger (.field f) := by
  induction ps generalizing st ledger with
  | nil => exact ⟨st, ledger, rfl, rfl, hs, fun p hp => absurd hp List.not_mem_nil, fun f _ => rfl⟩
  | cons p ps ih =>
    rw [List.map_cons, List.nodup_cons] at hnodup
    obtain ⟨st₁, hfree, hkey, hs₁⟩ := configFreeField_safe hs (hps p List.mem_cons_self)
    obtain ⟨st₂, ledger₂, hfrees, hkey₂, hs₂, hin, hout⟩ :=
      ih hs₁ (fun q hq => hps q (List.mem_cons_of_mem p hq)) hnodup.2
    have hne {f : Field} (hf : f ≠ p.1) : Owner.field f ≠ .field p.1 :=
      fun h => hf (Owner.field.inj h)
    refine ⟨st₂, ledger₂, ?_, hkey₂.trans hkey, hs₂, fun q hq => ?_, fun f hf => ?_⟩
    · rw [List.foldlM_cons, hfree]
      exact hfrees
    · rcases List.mem_cons.mp hq with rfl | hq
      · rw [hout q.1 hnodup.1, update_self]
      · rw [hin q hq, update_of_ne (hne fun h => hnodup.1 (h ▸ List.mem_map_of_mem hq))]
    · rw [List.map_cons, List.mem_cons, not_or] at hf
      rw [hout f hf.2, update_of_ne (hne hf.1)]

theorem configFrees_nodup : (configFrees.map Prod.fst).Nodup := by decide

theorem released_now (scrub : Bool) (a : Account (List UInt8)) : (released scrub a).now = none := by
  cases scrub <;> rfl

/-- **`__config_free`.** Nothing is left, and of every field there is what was there,
the strings that are scrubbed as zeros. -/
theorem configFree_frees (hs : Safe st ledger) (hkey : st.key = none) :
    ∃ st', configFree st = some st' ∧ (∀ b ∈ st'.heap, b.freed = true) ∧
      (∀ f, st'.text f = none) ∧ ∀ p ∈ configFrees,
        entries st'.heap (.field p.1) = (released p.2 (ledger (.field p.1))).entries := by
  obtain ⟨st', ledger', hfree, hkey', hs', hin, hout⟩ :=
    configFreeFields_safe hs (fun p hp => hp) configFrees_nodup
  have hnow (f : Field) : (ledger' (.field f)).now = none := by
    by_cases hf : f ∈ configFrees.map Prod.fst
    · obtain ⟨p, hp, rfl⟩ := List.mem_map.mp hf
      rw [hin p hp, released_now]
    · rw [hout f hf]
      by_contra hne
      exact hf (hs.freed f hne)
  have htext (f : Field) : st'.text f = none := (hs'.accounts.ptr_none_iff (.field f)).mpr (hnow f)
  refine ⟨st', hfree, hs'.accounts.all_freed fun o => ?_, htext, fun p hp => ?_⟩
  · cases o with
    | key => exact hkey'.trans hkey
    | field f => exact htext f
  · rw [hs'.accounts.entries_eq, hin p hp]

/-! ## Default strings -/

theorem defaultStrings_freed : ∀ p ∈ defaultStrings,
    p.1 ∈ configFrees.map Prod.fst ∧ (p.1, true) ∉ configFrees :=
  of_all_checked (by decide)

theorem setStrings_safe (malloc : Nat → Bool) (hs : Safe st ledger) {ps : List (Field × String × Bool)}
    (hps : ∀ p ∈ ps, p ∈ defaultStrings) (hnodup : (ps.map Prod.fst).Nodup)
    (hnow : ∀ p ∈ ps, (ledger (.field p.1)).now = none) (hlength : ∀ p ∈ ps, st.length p.1 = 0) :
    ∃ r st' ledger', setStrings malloc ps st = (r, st') ∧ Safe st' ledger' ∧
      st'.key = st.key ∧ st'.app = st.app ∧ st'.kept = st.kept ∧
      (r = false → ∃ n, malloc n = false) ∧
      (r = true → ∀ p ∈ ps, ledger' (.field p.1) = (ledger (.field p.1)).open (cstr (lit p.2.1)) ∧
        st'.length p.1 = if p.2.2 then (lit p.2.1).length else 0) ∧
      ∀ f, f ∉ ps.map Prod.fst → ledger' (.field f) = ledger (.field f) ∧
        st'.length f = st.length f := by
  induction ps generalizing st ledger with
  | nil =>
    exact ⟨true, st, ledger, rfl, hs, rfl, rfl, rfl, Bool.noConfusion,
      fun _ p hp => absurd hp List.not_mem_nil, fun f _ => ⟨rfl, rfl⟩⟩
  | cons p ps ih =>
    rw [List.map_cons, List.nodup_cons] at hnodup
    obtain ⟨f, s, setsLength⟩ := p
    obtain ⟨hfreed, hplain⟩ := defaultStrings_freed _ (hps _ List.mem_cons_self)
    have hclosed := hnow _ List.mem_cons_self
    have hzero := hlength _ List.mem_cons_self
    have hnone : st.ptr (.field f) = none := (hs.accounts.ptr_none_iff _).mpr hclosed
    rw [setStrings, strdup]
    by_cases hm : malloc st.mallocs = true
    · simp only [if_pos hm]
      have halloc := hs.accounts.alloc hnone (cstr (lit s))
      let st₁ : State := { st with
        heap := alloc st.heap (.field f) (cstr (lit s))
        mallocs := st.mallocs + 1
        text := Function.update st.text f (some st.heap.length)
        length := if setsLength then Function.update st.length f (lit s).length else st.length }
      have hself : st₁.length f = if setsLength then (lit s).length else 0 := by
        cases setsLength with
        | false => exact hzero
        | true => exact update_self ..
      have hother (g : Field) (hg : g ≠ f) : st₁.length g = st.length g := by
        cases setsLength with
        | false => rfl
        | true => exact update_of_ne hg ..
      have hs₁ : Safe st₁
          (Function.update ledger (.field f) ((ledger (.field f)).open (cstr (lit s)))) := by
        refine hs.update ((ptr_text st f (some st.heap.length)).symm ▸ halloc) hother ?_
          fun _ => hfreed
        intro x hx
        cases hx
        refine ⟨lit s, rfl, ?_, fun h => absurd h hplain⟩
        rw [hself]
        split <;> omega
      have hne {q : Field × String × Bool} (hq : q ∈ ps) : q.1 ≠ f := fun h =>
        hnodup.1 (List.mem_map.mpr ⟨q, hq, h⟩)
      have hfield {g : Field} (hg : g ≠ f) : Owner.field g ≠ .field f :=
        fun h => hg (Owner.field.inj h)
      obtain ⟨r, st', ledger', hset, hs', hkey, happ, hkept, hfail, hin, hout⟩ :=
        ih hs₁ (fun q hq => hps q (List.mem_cons_of_mem _ hq)) hnodup.2
          (fun q hq => by
            rw [update_of_ne (hfield (hne hq))]
            exact hnow q (List.mem_cons_of_mem _ hq))
          (fun q hq => (hother q.1 (hne hq)).trans (hlength q (List.mem_cons_of_mem _ hq)))
      refine ⟨r, st', ledger', hset, hs', hkey, happ, hkept, hfail, fun hr q hq => ?_,
        fun g hg => ?_⟩
      · rcases List.mem_cons.mp hq with rfl | hq
        · obtain ⟨hledger, hlen⟩ := hout f hnodup.1
          exact ⟨by rw [hledger, update_self], hlen.trans hself⟩
        · obtain ⟨hledger, hlen⟩ := hin hr q hq
          exact ⟨by rw [hledger, update_of_ne (hfield (hne hq))], hlen⟩
      · rw [List.map_cons, List.mem_cons, not_or] at hg
        obtain ⟨hledger, hlen⟩ := hout g hg.2
        exact ⟨by rw [hledger, update_of_ne (hfield hg.1)], hlen.trans (hother g hg.1)⟩
    · simp only [if_neg hm]
      have htext : Function.update st.text f none = st.text := by
        rw [update_eq_self_iff]
        exact hnone.symm
      rw [htext]
      exact ⟨false, _, ledger, rfl, ⟨hs.accounts, hs.held, hs.freed⟩, rfl, rfl, rfl,
        fun _ => ⟨_, by simpa using hm⟩, Bool.noConfusion, fun g _ => ⟨rfl, rfl⟩⟩

/-- The string a field starts with. -/
def defaultParam (f : Field) : StringParam :=
  match defaultStrings.find? fun p => decide (p.1 = f) with
  | none => ⟨none, 0⟩
  | some (_, s, setsLength) => ⟨some (lit s), if setsLength then (lit s).length else 0⟩

theorem defaultParam_fill (f : Field) : fill f.kind (ConfigFile.configSetDefaults f)
    (defaultParam f) = ConfigFile.configSetDefaults f := by
  cases f <;> first | rfl | (rename_i ty; cases ty <;> rfl)

theorem defaultStrings_nonzero : ∀ p ∈ defaultStrings, 0 ∉ lit p.2.1 :=
  of_all_checked (by decide)

theorem init_safe : Safe State.init fun _ => ⟨[], none⟩ where
  accounts := by
    have hptr : State.init.ptr = fun _ => none := by
      funext o
      cases o <;> rfl
    rw [hptr]
    exact accounts_nil
  held f x hx := by cases hx
  freed f hne := absurd rfl hne

theorem configSetDefaults_safe (malloc : Nat → Bool) : ∃ ret st ledger,
    configSetDefaults malloc State.init = some (ret, st) ∧ Safe st ledger ∧ st.key = none ∧
      (ret ≠ 0 → ∃ n, malloc n = false) ∧
      (ret = 0 → st.kept = [] ∧ st.values = ConfigFile.configSetDefaults ∧
        ∀ f, ledger (.field f) = ⟨[], (defaultParam f).text.map cstr⟩) := by
  obtain ⟨r, st, ledger, hset, hs, hkey, happ, hkept, hfail, hin, hout⟩ :=
    setStrings_safe malloc init_safe (fun p hp => hp) (by decide)
      (fun p _ => rfl) fun p _ => rfl
  rw [configSetDefaults, hset]
  cases r with
  | false =>
    obtain ⟨st', ledger', hfree, hkey', hs', -⟩ :=
      configFreeFields_safe hs (fun p hp => hp) configFrees_nodup
    have hfree' : configFree st = some st' := hfree
    simp only [hfree']
    exact ⟨-enomem, st', ledger', rfl, hs', hkey'.trans hkey, fun _ => hfail rfl,
      fun h => absurd h (by decide)⟩
  | true =>
    refine ⟨0, st, ledger, rfl, hs, hkey, fun h => absurd rfl h, fun _ => ⟨hkept, ?_⟩⟩
    have hparam (f : Field) : ledger (.field f) = ⟨[], (defaultParam f).text.map cstr⟩ ∧
        st.length f = (defaultParam f).length ∧
        (ledger (.field f)).now.map ofBytes = (defaultParam f).text := by
      unfold defaultParam
      cases hfind : defaultStrings.find? fun p => decide (p.1 = f) with
      | none =>
        have hf : f ∉ defaultStrings.map Prod.fst := by
          intro hmem
          obtain ⟨p, hp, rfl⟩ := List.mem_map.mp hmem
          exact absurd (List.find?_eq_none.mp hfind p hp) (by simp)
        obtain ⟨hledger, hlen⟩ := hout f hf
        exact ⟨hledger, hlen, by rw [hledger]; rfl⟩
      | some p =>
        have hp := List.mem_of_find?_eq_some hfind
        have hpf := List.find?_some hfind
        obtain rfl := of_decide_eq_true hpf
        obtain ⟨hledger, hlen⟩ := hin rfl p hp
        refine ⟨hledger, hlen, ?_⟩
        rw [hledger]
        exact congrArg some (ofBytes_cstr (defaultStrings_nonzero p hp))
    refine ⟨funext fun f => ?_, fun f => (hparam f).1⟩
    obtain ⟨-, hlen, htext⟩ := hparam f
    have hvalue := congrFun (congrArg LoopState.app hs.loop_eq) f
    refine hvalue.trans ?_
    simp only [htext, hlen, happ]
    exact defaultParam_fill f

/-! ## `config_init` -/

theorem values_final (st : State) :
    ({ st with app := finalWaitTime (finalLinkSpeed st.app) } : State).values =
      finalWaitTime (finalLinkSpeed st.values) := by
  funext f
  by_cases hwait : f = .applicationWaitTimeBeforeStart
  · subst hwait
    exact (finalValues_waitTime st.app).trans (finalValues_waitTime st.values).symm
  · by_cases hspeed : f = .applicationLinkSpeed
    · subst hspeed
      exact (finalValues_linkSpeed st.app).trans (finalValues_linkSpeed st.values).symm
    · rw [finalValues_apply hspeed hwait]
      unfold State.values
      simp only [finalValues_apply hspeed hwait]

theorem assignQueues_values (st : State) : assignQueues st.values = assignQueues st.app := by
  have hmax : maxQueue st.values = maxQueue st.app := by
    funext q ty
    rfl
  rw [assignQueues, assignQueues, hmax]

theorem configReadFromFile_refines (malloc : Nat → Bool) (hs : Safe st ledger) (hkey : st.key = none)
    (fopen : CStr → Option File) (path : CStr) :
    Refines malloc (fun q st' => Loaded.mk st'.values q)
      (ConfigFile.configReadFromFile fopen (some path) st.values)
      (fun ledger' => (ledger' .key).now = none ∧ ∀ file, fopen path = some file →
        ∀ f, ledger' (.field f) =
          (assignments false none file.tokens).foldl (credited f) (ledger (.field f)))
      (configReadFromFile malloc fopen path st) := by
  rw [configReadFromFile, ConfigFile.configReadFromFile]
  cases hfile : fopen path with
  | none => exact .error hs (.inl rfl)
  | some file =>
    cases hready : file.parserReady with
    | false =>
      simp only [hready, Bool.not_false, if_true]
      exact .error hs (.inl rfl)
    | true =>
      have hs₁ : Safe { st with stateKey := false, key := none } ledger := by
        have hsame : ({ st with key := none } : State) = st := by rw [← hkey]
        exact ⟨congrArg State.ptr hsame ▸ hs.accounts, hs.held, hs.freed⟩
      have hrun := readTokens_refines malloc hs₁ file.tokens
      have hloop : ({ st with stateKey := false, key := none } : State).loop =
          ⟨false, none, st.values⟩ := rfl
      rw [hloop] at hrun
      simp only [hready, Bool.not_true, Bool.false_eq_true, if_false]
      generalize readTokens malloc file.tokens { st with stateKey := false, key := none } = res
        at hrun ⊢
      cases hrun with
      | @error e st' ledger' hsafe hpure =>
        obtain ⟨heap, hfree, hacc⟩ := hsafe.accounts.release .key
        have hfree' : free st'.heap st'.key = some heap := hfree
        have hsafe' : Safe { st' with heap := heap, key := none }
            (Function.update ledger' .key (ledger' .key).close) :=
          hsafe.update_key ((ptr_key st' none).symm ▸ hacc) rfl
        simp only [hfree']
        exact .error hsafe' (hpure.imp_left fun hpure => by rw [hpure])
      | @ok _ st' ledger' hsafe hpure hcredit =>
        obtain ⟨heap, hfree, hacc⟩ := hsafe.accounts.release .key
        have hfree' : free st'.heap st'.key = some heap := hfree
        have hsafe' : Safe { st' with heap := heap, key := none }
            (Function.update ledger' .key (ledger' .key).close) :=
          hsafe.update_key ((ptr_key st' none).symm ▸ hacc) rfl
        have hvalues : ({ st' with heap := heap, key := none } : State).values = st'.values := by
          have hbefore := congrArg LoopState.app hsafe.loop_eq
          have hafter := congrArg LoopState.app hsafe'.loop_eq
          refine hafter.trans (Eq.trans (funext fun f => ?_) hbefore.symm)
          simp only [update_of_ne (field_ne_key f)]
        have hfinal : Safe { st' with
              heap := heap
              key := none
              app := finalWaitTime (finalLinkSpeed st'.app) }
            (Function.update ledger' .key (ledger' .key).close) :=
          ⟨hsafe'.accounts, hsafe'.held, hsafe'.freed⟩
        simp only [hfree', hpure]
        refine .ok hfinal (congrArg Except.ok ?_) ⟨?_, ?_⟩
        · rw [← hvalues, assignQueues_values]
          exact congrArg (Loaded.mk · _) (values_final _).symm
        · rw [update_self]
          rfl
        · intro file' hfile' f
          cases hfile'
          rw [update_of_ne (field_ne_key f), hcredit]

theorem configReadFromFile_key {fopen : CStr → Option File} {path : CStr} (hkey : st.key = none)
    {r : Except Failure Queues} {st' : State}
    (h : configReadFromFile malloc fopen path st = some (r, st')) : st'.key = none := by
  unfold configReadFromFile at h
  split at h
  · cases h
    exact hkey
  · split at h
    · cases h
      exact hkey
    · split at h
      · cases h
      · split at h
        · cases h
        · split at h <;> cases h <;> rfl

/-- What a field's account is when the file has been read. -/
def accountOf (ts : List Token) (f : Field) : Account (List UInt8) :=
  (assignments false none ts).foldl (credited f) ⟨[], (defaultParam f).text.map cstr⟩

theorem configInit_refines (malloc : Nat → Bool) (fopen : CStr → Option File) (path : Option CStr) :
    Refines malloc (fun q st' => Loaded.mk st'.values q) (ConfigFile.configInit fopen path)
      (fun ledger => (ledger .key).now = none ∧ ∀ p file, path = some p → fopen p = some file →
        ∀ f, ledger (.field f) = accountOf file.tokens f)
      (configInit malloc fopen path) := by
  obtain ⟨ret, st, ledger, hdefaults, hs, hkey, hfail, hok⟩ :=
    configSetDefaults_safe malloc
  rw [configInit, hdefaults]
  by_cases hret : ret = 0
  · obtain ⟨-, hvalues, hledger⟩ := hok hret
    simp only [ne_eq, hret, not_true, if_false]
    cases path with
    | none => exact .error hs (.inl rfl)
    | some path =>
      have hread := configReadFromFile_refines malloc hs hkey fopen path
      rw [hvalues] at hread
      show Refines malloc _ (ConfigFile.configReadFromFile fopen (some path)
        ConfigFile.configSetDefaults) _ (configReadFromFile malloc fopen path st)
      generalize configReadFromFile malloc fopen path st = res at hread ⊢
      cases hread with
      | error hsafe hpure => exact .error hsafe hpure
      | ok hsafe hpure hcredit =>
        refine .ok hsafe hpure ⟨hcredit.1, fun p file hp hfile f => ?_⟩
        cases hp
        rw [hcredit.2 file hfile f, hledger, accountOf]
  · simp only [ne_eq, hret, not_false_eq_true, if_true]
    exact .error hs (.inr (hfail hret))

theorem configInit_key {fopen : CStr → Option File} {path : Option CStr}
    {r : Except Failure Queues} (h : configInit malloc fopen path = some (r, st)) :
    st.key = none := by
  obtain ⟨ret, st₀, ledger, hdefaults, -, hkey, -, -⟩ := configSetDefaults_safe malloc
  rw [configInit, hdefaults] at h
  simp only at h
  split at h
  · cases h
    exact hkey
  · cases path with
    | none =>
      cases h
      exact hkey
    | some path => exact configReadFromFile_key hkey h

/-- `config_init` always ends in a safe state. -/
theorem configInit_safe (malloc : Nat → Bool) (fopen : CStr → Option File)
    (path : Option CStr) : ∃ r st ledger, configInit malloc fopen path = some (r, st) ∧
      Safe st ledger ∧ st.key = none := by
  have hrun := configInit_refines malloc fopen path
  cases hinit : configInit malloc fopen path with
  | none =>
    rw [hinit] at hrun
    cases hrun
  | some out =>
    obtain ⟨r, st⟩ := out
    rw [hinit] at hrun
    have hkey := configInit_key hinit
    cases hrun with
    | error hsafe hpure => exact ⟨_, st, _, rfl, hsafe, hkey⟩
    | ok hsafe hpure hcredit => exact ⟨_, st, _, rfl, hsafe, hkey⟩

/-- **Memory.** -/
theorem configMemory_safe (malloc : Nat → Bool) (fopen : CStr → Option File)
    (path : Option CStr) : ∃ r st, configInit malloc fopen path = some (r, st) ∧
      (∀ f i, st.text f = some i ↔ ∃ x, st.heap[i]? = some ⟨.field f, x, false⟩) ∧
      (∀ b ∈ st.heap, b.owner = .key → b.freed = true) ∧
      ∃ st', configFree st = some st' ∧ (∀ b ∈ st'.heap, b.freed = true) ∧
        ∀ f, st'.text f = none := by
  obtain ⟨r, st, ledger, hinit, hs, hkey⟩ := configInit_safe malloc fopen path
  obtain ⟨st', hfree, hall, htext, -⟩ := configFree_frees hs hkey
  refine ⟨r, st, hinit, fun f i => hs.accounts.holds (.field f) i, ?_, st', hfree, hall, htext⟩
  rintro ⟨o, x, freed⟩ hb ho
  cases ho
  cases freed with
  | true => rfl
  | false =>
    obtain ⟨i, hi⟩ := List.getElem?_of_mem hb
    have hptr := (hs.accounts.holds .key i).mpr ⟨x, hi⟩
    cases hkey.symm.trans hptr

/-- **Values.** -/
theorem configMemory_values (malloc : Nat → Bool) (fopen : CStr → Option File)
    (path : Option CStr) : ∃ r st, configInit malloc fopen path = some (r, st) ∧
      (∀ q, r = .ok q → ConfigFile.configInit fopen path = .ok ⟨st.values, q⟩) ∧
      ((∀ n, malloc n = true) →
        ConfigFile.configInit fopen path = r.map fun q => ⟨st.values, q⟩) := by
  have hrun := configInit_refines malloc fopen path
  obtain ⟨r, st, -, hinit, -, -⟩ := configInit_safe malloc fopen path
  rw [hinit] at hrun
  refine ⟨r, st, hinit, ?_⟩
  cases hrun with
  | ok hsafe hpure hcredit =>
    refine ⟨fun q hq => ?_, fun _ => hpure⟩
    cases hq
    exact hpure
  | error hsafe hpure =>
    refine ⟨fun q hq => (by cases hq), fun hm => ?_⟩
    rcases hpure with hpure | ⟨n, hn⟩
    · exact hpure
    · rw [hm n] at hn
      cases hn

/-! ## Secrets -/

/-- The values the file gives to a field, in order. -/
def valuesOf (ts : List Token) (f : Field) : List CStr :=
  ((assignments false none ts).filter fun a =>
    (Settings.nameFor keyIs params f a.1).isSome).map Prod.snd

/-- A string after the other. -/
theorem reopened (vs : List CStr) :
    vs.foldl (fun a v => a.close.open (cstr v)) (⟨[], none⟩ : Account (List UInt8)) =
      ⟨vs.dropLast.map cstr, vs.getLast?.map cstr⟩ := by
  induction vs using List.reverseRecOn with
  | nil => rfl
  | append_singleton vs v ih =>
    rw [List.foldl_append, ih, List.dropLast_concat, List.getLast?_concat]
    have hsplit : vs = vs.dropLast ++ vs.getLast?.toList := by
      cases hlast : vs.getLast? with
      | none =>
        rw [List.getLast?_eq_none_iff] at hlast
        rw [hlast]
        rfl
      | some a => exact (List.dropLast_append_getLast? a hlast).symm
    simp only [List.foldl_cons, List.foldl_nil, Account.close, Account.open]
    conv_rhs => rw [hsplit, List.map_append]
    cases vs.getLast? <;> rfl

theorem foldl_credited {f : Field} (hkind : f.kind = .string) (as : List (CStr × CStr))
    (a : Account (List UInt8)) : as.foldl (credited f) a =
      ((as.filter fun a => (Settings.nameFor keyIs params f a.1).isSome).map Prod.snd).foldl
        (fun a v => a.close.open (cstr v)) a := by
  induction as generalizing a with
  | nil => rfl
  | cons p as ih =>
    rw [List.foldl_cons, ih, credited, List.filter_cons]
    by_cases hname : (Settings.nameFor keyIs params f p.1).isSome = true
    · rw [if_pos ⟨hname, hkind⟩, if_pos hname]
      rfl
    · rw [if_neg fun h => hname h.1, if_neg hname]

/-- The scrubbed fields are strings that start without a value. -/
theorem configFrees_secret : ∀ p ∈ configFrees,
    p.1.kind = .string ∧ (p.2 = true → (defaultParam p.1).text = none) :=
  of_all_checked (by decide)

theorem accountOf_secret {f : Field} (hf : (f, true) ∈ configFrees) (ts : List Token) :
    accountOf ts f =
      ⟨(valuesOf ts f).dropLast.map cstr, (valuesOf ts f).getLast?.map cstr⟩ := by
  obtain ⟨hkind, htext⟩ := configFrees_secret _ hf
  rw [accountOf, htext rfl, foldl_credited hkind]
  exact reopened _

theorem assignments_nonzero (stateKey : Bool) (key : Option CStr) (ts : List Token) :
    ∀ a ∈ assignments stateKey key ts, 0 ∉ a.2 := by
  induction stateKey, key, ts using assignments.induct with
  | case1 | case2 =>
    intro a ha
    cases ha
  | case3 _ key ts ih => exact ih
  | case4 _ key ts ih => exact ih
  | case5 stateKey key ts ih => exact ih
  | case6 key bytes ts ih => exact ih
  | case7 bytes ts ih => exact ih
  | case8 key bytes ts ih =>
    intro a ha
    rcases List.mem_cons.mp ha with rfl | ha
    · exact zero_notMem_ofBytes bytes
    · exact ih a ha

theorem valuesOf_nonzero {ts : List Token} {f : Field} {v : CStr} (hv : v ∈ valuesOf ts f) :
    0 ∉ v := by
  obtain ⟨a, ha, rfl⟩ := List.mem_map.mp hv
  exact assignments_nonzero _ _ _ a (List.mem_filter.mp ha).1

theorem readable_cstr {v : CStr} (hv : 0 ∉ v) : (∃ c ∈ cstr v, c ≠ 0) ↔ v ≠ [] := by
  constructor
  · rintro ⟨c, hc, hne⟩ rfl
    exact hne (List.mem_singleton.mp hc)
  · intro hne
    obtain ⟨c, v', rfl⟩ := List.exists_cons_of_ne_nil hne
    refine ⟨c, List.mem_cons_self, ?_⟩
    rintro rfl
    exact hv List.mem_cons_self

/-- **Keys and IV prefixes.** What the blocks of one hold when they are freed: that of
the last value is cleared before, those of the values it replaced are not. -/
theorem secrets_scrubbed {malloc : Nat → Bool} {fopen : CStr → Option File} {path : CStr}
    {file : File} {q : Queues} {st : State} (hfile : fopen path = some file)
    (hinit : configInit malloc fopen (some path) = some (.ok q, st)) {f : Field}
    (hf : (f, true) ∈ configFrees) : ∃ st', configFree st = some st' ∧
      entries st'.heap (.field f) =
        (valuesOf file.tokens f).dropLast.map (fun v => (cstr v, true)) ++
          (valuesOf file.tokens f).getLast?.toList.map (fun v =>
            (List.replicate (v.length + 1) 0, true)) ∧
      ((∃ b ∈ st'.heap, b.owner = .field f ∧ ∃ c ∈ b.content, c ≠ 0) ↔
        ∃ v ∈ (valuesOf file.tokens f).dropLast, v ≠ []) := by
  have hrun := configInit_refines malloc fopen (some path)
  rw [hinit] at hrun
  cases hrun with
  | ok hsafe hpure hcredit =>
    obtain ⟨st', hfree, -, -, hfreed⟩ := configFree_frees hsafe (configInit_key hinit)
    have hentries : entries st'.heap (.field f) =
        (valuesOf file.tokens f).dropLast.map (fun v => (cstr v, true)) ++
          (valuesOf file.tokens f).getLast?.toList.map (fun v =>
            (List.replicate (v.length + 1) 0, true)) := by
      rw [hfreed _ hf, hcredit.2 path file rfl hfile, accountOf_secret hf, released, if_pos rfl,
        Account.entries]
      generalize (valuesOf file.tokens f).dropLast = past
      generalize (valuesOf file.tokens f).getLast? = last
      cases last with
      | none => simp
      | some v => simp [cstr, List.map_const', List.replicate_succ']
    refine ⟨st', hfree, hentries, ?_⟩
    constructor
    · rintro ⟨⟨o, x, freed⟩, hb, rfl, c, hc, hne⟩
      have hmem := mem_entries.mpr hb
      rw [hentries, List.mem_append] at hmem
      rcases hmem with hmem | hmem
      · obtain ⟨v, hv, heq⟩ := List.mem_map.mp hmem
        cases heq
        have hv' := valuesOf_nonzero (List.dropLast_subset _ hv)
        exact ⟨v, hv, (readable_cstr hv').mp ⟨c, hc, hne⟩⟩
      · obtain ⟨v, hv, heq⟩ := List.mem_map.mp hmem
        cases heq
        exact absurd (List.eq_of_mem_replicate hc) hne
    · rintro ⟨v, hv, hne⟩
      have hv' := valuesOf_nonzero (List.dropLast_subset _ hv)
      refine ⟨⟨.field f, cstr v, true⟩, ?_, rfl, (readable_cstr hv').mpr hne⟩
      rw [← mem_entries, hentries]
      exact List.mem_append_left _ (List.mem_map_of_mem hv)

/-- A file with two keys for RTC. -/
def keyTwice : File where
  parserReady := true
  tokens := [.key, .scalar (lit "RtcSecurityKey"), .value, .scalar (lit "old"), .key,
    .scalar (lit "RtcSecurityKey"), .value, .scalar (lit "new"), .streamEnd]

theorem keyTwice_accepted : ∃ q st,
    configInit (fun _ => true) (fun _ => some keyTwice) (some []) = some (.ok q, st) := by
  have hok : ((configInit (fun _ => true) (fun _ => some keyTwice) (some [])).map
      fun out => out.1.isOk) = some true := by decide
  obtain ⟨⟨r, st⟩, hinit, hr⟩ := Option.map_eq_some_iff.mp hok
  cases r with
  | error e => cases hr
  | ok q => exact ⟨q, st, hinit⟩

theorem secrets_scrubbed_twice : ∃ q st st',
    configInit (fun _ => true) (fun _ => some keyTwice) (some []) = some (.ok q, st) ∧
      configFree st = some st' ∧
      ∃ b ∈ st'.heap, b.owner = .field (.securityKey .rtc) ∧ ∃ c ∈ b.content, c ≠ 0 := by
  obtain ⟨q, st, hinit⟩ := keyTwice_accepted
  obtain ⟨st', hfree, -, hreadable⟩ := @secrets_scrubbed (fun _ => true)
    (fun _ => some keyTwice) [] keyTwice q st rfl hinit (.securityKey .rtc) (by decide)
  have hvalues : valuesOf keyTwice.tokens (.securityKey .rtc) = [lit "old", lit "new"] := by
    decide
  rw [hvalues] at hreadable
  exact ⟨q, st, st', hinit, hfree,
    hreadable.mpr ⟨lit "old", List.mem_singleton_self _, by decide⟩⟩

/-! ## Tokens -/

/-- The scalars a file is read up to. -/
def scalars : List Token → List (List UInt8)
  | [] | .streamEnd :: _ => []
  | .scalar bytes :: ts => bytes :: scalars ts
  | _ :: ts => scalars ts

theorem strdup_kept {o : Owner} {text : CStr} {p : Option Nat} {st' : State}
    (h : strdup malloc o text st = (p, st')) : st'.kept = st.kept := by
  unfold strdup at h
  split at h <;> cases h <;> rfl

theorem storeField_kept {name : String} {f : Field} {value : CStr} {r : Except Failure Unit}
    {st' : State} (h : storeField malloc name f value st = some (r, st')) :
    st'.kept = st.kept := by
  unfold storeField storeString at h
  split at h
  · split at h
    · cases h
    · split at h
      all_goals
        rename_i hdup
        have hkept := strdup_kept hdup
        cases h
        exact hkept
  · split at h <;> cases h <;> rfl

theorem storeMacros_kept {key value : CStr} {table : List (String × Field)}
    {r : Except Failure Unit} {st' : State}
    (h : storeMacros malloc key value table st = some (r, st')) : st'.kept = st.kept := by
  induction table generalizing st with
  | nil =>
    cases h
    rfl
  | cons p table ih =>
    unfold storeMacros at h
    split at h
    · split at h
      · cases h
      · rename_i hfield
        cases h
        exact storeField_kept hfield
      · rename_i hfield
        exact (ih h).trans (storeField_kept hfield)
    · exact ih h

/-- A scalar is either the value of a key or kept. -/
theorem readToken_kept {t : Token} {st' : State}
    (h : readToken malloc t st = some (.ok (), st')) :
    st'.kept.map ofBytes ++ (assigned st.loop t).toList.map Prod.snd =
      st.kept.map ofBytes ++ (scalars [t]).map ofBytes := by
  cases t with
  | scalar bytes =>
    unfold readToken at h
    rw [assigned]
    cases hstate : st.stateKey with
    | true =>
      have hstate' : st.loop.stateKey = true := hstate
      rw [if_pos hstate']
      simp only [hstate, if_true] at h
      split at h
      · cases h
      · split at h
        · cases h
        · rename_i hdup
          have hkept := strdup_kept hdup
          cases h
          rw [hkept]
          simp [scalars]
    | false =>
      have hstate' : ¬ st.loop.stateKey = true := by
        show ¬ st.stateKey = true
        rw [hstate]
        exact Bool.false_ne_true
      rw [if_neg hstate']
      simp only [hstate, Bool.false_eq_true, if_false] at h
      split at h
      · rename_i hkey
        have hnone : st.loop.key = none := by
          unfold State.loop
          rw [hkey]
          rfl
        cases h
        rw [hnone]
        simp [scalars]
      · rename_i p hkey
        split at h
        · cases h
        · rename_i key hread
          have hsome : st.loop.key = some (ofBytes key) := by
            unfold State.loop
            rw [hkey, Option.bind_some, hread]
            rfl
          split at h
          · cases h
          · cases h
          · rename_i hmacros
            have hkept := storeMacros_kept hmacros
            split at h
            · cases h
            · cases h
              rw [hsome, hkept]
              simp [scalars]
  | _ =>
    cases h
    rfl

theorem scalars_cons {t : Token} (ht : t ≠ .streamEnd) (ts : List Token) :
    scalars (t :: ts) = scalars [t] ++ scalars ts := by
  cases t with
  | streamEnd => exact absurd rfl ht
  | _ => rfl

theorem kept_step {kept kept₁ kept' as as' ss ss' : List CStr} (hstep : kept₁ ++ as = kept ++ ss)
    (hrest : (kept' ++ as').Perm (kept₁ ++ ss')) :
    (kept' ++ (as ++ as')).Perm (kept ++ (ss ++ ss')) :=
  calc
    (kept' ++ (as ++ as')).Perm (kept' ++ (as' ++ as)) := List.perm_append_comm.append_left _
    _ = (kept' ++ as') ++ as := (List.append_assoc ..).symm
    List.Perm _ ((kept₁ ++ ss') ++ as) := hrest.append_right _
    _ = kept₁ ++ (ss' ++ as) := List.append_assoc ..
    List.Perm _ (kept₁ ++ (as ++ ss')) := List.perm_append_comm.append_left _
    _ = (kept₁ ++ as) ++ ss' := (List.append_assoc ..).symm
    _ = kept ++ (ss ++ ss') := by rw [hstep, List.append_assoc]

theorem readTokens_kept (hs : Safe st ledger) {ts : List Token} {st' : State}
    (h : readTokens malloc ts st = some (.ok (), st')) :
    (st'.kept.map ofBytes ++
      (assignments st.loop.stateKey st.loop.key ts).map Prod.snd).Perm
        (st.kept.map ofBytes ++ (scalars ts).map ofBytes) := by
  induction ts generalizing st ledger with
  | nil => cases h
  | cons t ts ih =>
    by_cases ht : t = .streamEnd
    · subst ht
      cases h
      exact List.Perm.refl _
    · have htoken := readToken_refines malloc hs t
      rw [readTokens_cons ht] at h
      split at h
      · cases h
      · cases h
      · rename_i st₁ hread
        rw [hread] at htoken
        cases htoken with
        | ok hsafe hpure hcredit =>
          have hstep := readToken_kept hread
          have hrest := ih hsafe h
          rw [assignments_cons ht hpure, scalars_cons ht, List.map_append, List.map_append]
          exact kept_step hstep hrest

theorem configReadFromFile_kept (hs : Safe st ledger) (hkey : st.key = none)
    {fopen : CStr → Option File} {path : CStr} {file : File} (hfile : fopen path = some file)
    {q : Queues} {st' : State}
    (h : configReadFromFile malloc fopen path st = some (.ok q, st')) :
    (st'.kept.map ofBytes ++ (assignments false none file.tokens).map Prod.snd).Perm
      (st.kept.map ofBytes ++ (scalars file.tokens).map ofBytes) := by
  have hs₁ : Safe { st with stateKey := false, key := none } ledger := by
    have hsame : ({ st with key := none } : State) = st := by rw [← hkey]
    exact ⟨congrArg State.ptr hsame ▸ hs.accounts, hs.held, hs.freed⟩
  rw [configReadFromFile, hfile] at h
  simp only at h
  split at h
  · cases h
  · split at h
    · cases h
    · rename_i r st₁ hread
      split at h
      · cases h
      · cases r with
        | error e => cases h
        | ok u =>
          have hkept := readTokens_kept hs₁ hread
          cases h
          exact hkept

/-- **Tokens.** -/
theorem configInit_kept {malloc : Nat → Bool} {fopen : CStr → Option File} {path : CStr}
    {file : File} {q : Queues} {st : State} (hfile : fopen path = some file)
    (hinit : configInit malloc fopen (some path) = some (.ok q, st)) :
    (st.kept.map ofBytes ++ (assignments false none file.tokens).map Prod.snd).Perm
      ((scalars file.tokens).map ofBytes) := by
  obtain ⟨ret, st₀, ledger, hdefaults, hs, hkey, -, hok⟩ := configSetDefaults_safe malloc
  rw [configInit, hdefaults] at hinit
  simp only at hinit
  split at hinit
  · cases hinit
  · rename_i hret
    have hkept := (hok (not_not.mp hret)).1
    have hperm := configReadFromFile_kept hs hkey hfile hinit
    rw [hkept] at hperm
    exact hperm

theorem configInit_kept_twice : ∃ q st,
    configInit (fun _ => true) (fun _ => some keyTwice) (some []) = some (.ok q, st) ∧
      (st.kept.map ofBytes).Perm [lit "RtcSecurityKey", lit "RtcSecurityKey"] := by
  obtain ⟨q, st, hinit⟩ := keyTwice_accepted
  have hperm := @configInit_kept (fun _ => true) (fun _ => some keyTwice) [] keyTwice q st rfl
    hinit
  have hvalues : (assignments false none keyTwice.tokens).map Prod.snd = [lit "old", lit "new"] := by
    decide
  have hscalars : ((scalars keyTwice.tokens).map ofBytes).Perm
      ([lit "RtcSecurityKey", lit "RtcSecurityKey"] ++ [lit "old", lit "new"]) := by
    decide
  rw [hvalues] at hperm
  exact ⟨q, st, hinit, (List.perm_append_right_iff _).mp (hperm.trans hscalars)⟩

end Rtdk.ConfigMemory
