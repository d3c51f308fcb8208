import Rtdk.RattArgs
import Rtdk.Strqtok

/-! The workload option of the round-trip tool (`-w filename,function,parameters`).

`process_workload` takes the text apart at the commas. Pieces that start with `file=`
and `func=` name the file and the function; all others are joined with commas again,
and `strqtok` makes the arguments of the workload of what comes out. -/

namespace Rtdk.Workload
open Rtdk.CString Rtdk.RattArgs Rtdk.Strqtok

/-- `workload_argc` and `workload_argv`. -/
def workloadArgs (w : RattArgs.Workload) : Except Fault Result :=
  strqtok w.args (lit " \r\n") workloadMaxArgs

/-- Neither comma, white space, quote, brace nor backslash. -/
def isPlain (c : UInt8) : Bool :=
  c != 44 && !isspace c && c != 34 && c != 39 && c != 123 && c != 125 && c != 92 && c != 0

/-- What an option in the documented form is made of. -/
structure Request where
  file : CStr
  func : CStr
  params : List CStr
  plain : ∀ t ∈ file :: func :: params, ∀ c ∈ t, isPlain c = true
  fits : (List.intercalate [44] params).length < workloadMaxArgs

/-- `filename,function,parameters`. -/
def Request.text (r : Request) : CStr := List.intercalate [44] (r.file :: r.func :: r.params)

/-- File, function and parameters of the request, and nothing else. -/
structure Selected (r : Request) (w : RattArgs.Workload) : Prop where
  file : w.file = some r.file
  func : w.func = some r.func
  args : ∃ (tokens : List Nat) (mem : Memory.Mem UInt8), workloadArgs w =
      .ok { argc := r.params.length, argv := tokens.map some ++ [none], mem := mem } ∧
    List.Forall₂ (Token w.args mem) tokens r.params

/-- Where file and function are there, `process_workload` selects what is requested. -/
def Meets (w : RattArgs.Workload) (r : Request) : Prop :=
  ∀ env : Env, env.dlopen (some r.file) = true → env.dlsym (some r.file) (some r.func) = true →
    ∃ w', processWorkload env r.text w = some w' ∧ Selected r w'

/-! ## When it does -/

def hasKey (key t : CStr) : Bool := key.isPrefixOf t

/-- A piece that is an argument. -/
def isWord (t : CStr) : Bool := t != [] && !hasKey (lit "file=") t && !hasKey (lit "func=") t

/-- The parameter is what becomes of the pieces: it is the only argument, or the first one is
cut to it. -/
def Argument (file func param : CStr) : Prop :=
  match [file, func].filter isWord with
  | [] => hasKey (lit "file=") param = false ∧ hasKey (lit "func=") param = false
  | t :: _ => workloadMaxArgs - 1 ≤ t.length ∧ param = t.take (workloadMaxArgs - 1)

/-- What an option without keys needs in order to be taken as it is meant. -/
structure Agrees (w : RattArgs.Workload) (file func param : CStr) : Prop where
  names : func = lit "file=" ++ file ∨ (w.file = some file ∧
    hasKey (lit "file=") file = false ∧ hasKey (lit "file=") func = false)
  calls : hasKey (lit "func=") func = false ∧ (file = lit "func=" ++ func ∨
    (w.func = some func ∧ hasKey (lit "func=") file = false))
  argument : Argument file func param

/-! ## The pieces -/

theorem commaTokens_text (r : Request) :
    commaTokens r.text = (r.file :: r.func :: r.params).filter (· ≠ []) := by
  rw [commaTokens, Request.text, List.splitOn_intercalate 44 _ (List.cons_ne_nil _ _)]
  intro t ht h
  exact absurd (r.plain t ht 44 h) (by decide)

/-- The value of a piece with a key. -/
def keyValue (key : CStr) (old : Option CStr) (t : CStr) : Option CStr :=
  if hasKey key t then some (t.drop 5) else old

def addWord (a : CStr × Bool) (t : CStr) : CStr × Bool :=
  (catArgs (if a.2 then a.1 else catArgs a.1 [44]) t, false)

theorem not_both_keys {t : CStr} (h : hasKey (lit "file=") t = true) :
    hasKey (lit "func=") t = false := by
  obtain ⟨x, rfl⟩ := List.isPrefixOf_iff_prefix.mp h
  rfl

theorem workloadToken_eq (w : RattArgs.Workload) (first : Bool) {t : CStr} (ht : t ≠ []) :
    workloadToken (w, first) t =
      ({ w with
          file := keyValue (lit "file=") w.file t
          func := keyValue (lit "func=") w.func t
          args := if isWord t then (addWord (w.args, first) t).1 else w.args },
        if isWord t then (addWord (w.args, first) t).2 else first) := by
  have hne : (t != []) = true := bne_iff_ne.mpr ht
  rw [isWord, hne, Bool.true_and, keyValue, keyValue]
  cases hfile : hasKey (lit "file=") t with
  | true =>
    rw [not_both_keys hfile]
    exact if_pos hfile
  | false =>
    have hno : ¬ hasKey (lit "file=") t = true := Bool.eq_false_iff.mp hfile
    cases hfunc : hasKey (lit "func=") t with
    | true => exact (if_neg hno).trans (if_pos hfunc)
    | false =>
      have hno' : ¬ hasKey (lit "func=") t = true := Bool.eq_false_iff.mp hfunc
      exact (if_neg hno).trans (if_neg hno')

/-- What becomes of the pieces. -/
theorem foldl_workloadToken (w : RattArgs.Workload) (first : Bool) (ts : List CStr) :
    ((ts.filter (· ≠ [])).foldl workloadToken (w, first)).1 =
      { w with
        file := ts.foldl (keyValue (lit "file=")) w.file
        func := ts.foldl (keyValue (lit "func=")) w.func
        args := ((ts.filter isWord).foldl addWord (w.args, first)).1 } := by
  induction ts generalizing w first with
  | nil => rfl
  | cons t ts ih =>
    by_cases ht : t = []
    · subst ht
      exact ih w first
    · rw [List.filter_cons_of_pos (by simpa using ht), List.foldl_cons, workloadToken_eq w first ht,
        ih]
      cases hword : isWord t with
      | true => rw [List.filter_cons_of_pos hword]; rfl
      | false => rw [List.filter_cons_of_neg (by simp [hword])]; rfl

/-! ## The arguments -/

theorem catArgs_take (a t : CStr) :
    catArgs (a.take (workloadMaxArgs - 1)) t = (a ++ t).take (workloadMaxArgs - 1) := by
  have hroom : workloadMaxArgs - min (workloadMaxArgs - 1) a.length - 1 =
      workloadMaxArgs - 1 - a.length := by omega
  rw [catArgs, List.take_append, List.length_take, hroom]

theorem foldl_addWord (a : CStr) (ts : List CStr) :
    (ts.foldl addWord (a.take (workloadMaxArgs - 1), false)).1 =
      (a ++ ts.flatMap (44 :: ·)).take (workloadMaxArgs - 1) := by
  induction ts generalizing a with
  | nil => rw [List.flatMap_nil, List.append_nil]; rfl
  | cons t ts ih =>
    have hstep : addWord (a.take (workloadMaxArgs - 1), false) t =
        ((a ++ 44 :: t).take (workloadMaxArgs - 1), false) := by
      simp only [addWord, Bool.false_eq_true, if_false]
      rw [catArgs_take, catArgs_take, List.append_assoc]
      rfl
    rw [List.foldl_cons, hstep, ih, List.flatMap_cons, List.append_assoc]

/-- The words with commas between them, cut to the buffer. -/
def argsOf : List CStr → CStr
  | [] => []
  | t :: ts => (t ++ ts.flatMap (44 :: ·)).take (workloadMaxArgs - 1)

theorem foldl_words (ts : List CStr) : (ts.foldl addWord ([], true)).1 = argsOf ts := by
  cases ts with
  | nil => rfl
  | cons t ts =>
    have hstep : addWord ([], true) t = (t.take (workloadMaxArgs - 1), false) := rfl
    rw [List.foldl_cons, hstep, foldl_addWord]
    rfl

/-- What an option leaves before the workload is loaded. -/
def parsed (w : RattArgs.Workload) (r : Request) : RattArgs.Workload :=
  { w with
    file := (r.file :: r.func :: r.params).foldl (keyValue (lit "file=")) w.file
    func := (r.file :: r.func :: r.params).foldl (keyValue (lit "func=")) w.func
    args := argsOf ((r.file :: r.func :: r.params).filter isWord) }

theorem processWorkload_eq (env : Env) (w : RattArgs.Workload) (r : Request) :
    processWorkload env r.text w =
      if !env.dlopen (parsed w r).file then none
      else if !env.dlsym (parsed w r).file (parsed w r).func then none
      else some { parsed w r with enabled := true } := by
  have hparsed : ((commaTokens r.text).foldl workloadToken ({ w with args := [] }, true)).1 =
      parsed w r := by
    rw [commaTokens_text, foldl_workloadToken, foldl_words]
    rfl
  rw [← hparsed]
  rfl

theorem isPlain_spec {c : UInt8} (h : isPlain c = true) :
    c ≠ 44 ∧ isspace c = false ∧ c ≠ 92 ∧ c ≠ 0 := by
  simp only [isPlain, Bool.and_eq_true, bne_iff_ne, Bool.not_eq_true'] at h
  obtain ⟨⟨⟨⟨⟨⟨⟨hcomma, hspace⟩, -⟩, -⟩, -⟩, -⟩, hbackslash⟩, hnul⟩ := h
  exact ⟨hcomma, hspace, hbackslash, hnul⟩

theorem argsOf_chars {ts : List CStr} (h : ∀ t ∈ ts, ∀ c ∈ t, isPlain c = true) :
    ∀ c ∈ argsOf ts, c = 44 ∨ isPlain c = true := by
  cases ts with
  | nil => nofun
  | cons t ts =>
    rw [List.forall_mem_cons] at h
    intro c hc
    rcases List.mem_append.mp (List.mem_of_mem_take hc) with hfirst | hlater
    · exact .inr (h.1 c hfirst)
    · obtain ⟨u, hu, hcu⟩ := List.mem_flatMap.mp hlater
      rcases List.mem_cons.mp hcu with hcomma | hin
      · exact .inl hcomma
      · exact .inr (h.2 u hu c hin)

/-- All arguments are one. -/
theorem workloadArgs_parsed (w : RattArgs.Workload) (r : Request) :
    0 ∉ (parsed w r).args ∧ ∃ mem, workloadArgs (parsed w r) =
        .ok { argc := 1, argv := [some 0, none], mem := mem } ∧
      Token (parsed w r).args mem 0 (parsed w r).args := by
  have hchars : ∀ c ∈ (parsed w r).args,
      isspace c = false ∧ c ∉ lit " \r\n" ∧ c ≠ 92 ∧ c ≠ 0 := by
    intro c hc
    have hplain := argsOf_chars (fun t ht => r.plain t (List.mem_of_mem_filter ht)) c hc
    have hdelim : isspace c = false → c ∉ lit " \r\n" := by
      rintro hspace hmem
      have hall : (lit " \r\n").all isspace = true := by decide
      rw [List.all_eq_true.mp hall c hmem] at hspace
      cases hspace
    rcases hplain with rfl | hplain
    · exact ⟨rfl, by decide, by decide, by decide⟩
    · obtain ⟨-, hspace, hbackslash, hnul⟩ := isPlain_spec hplain
      exact ⟨hspace, hdelim hspace, hbackslash, hnul⟩
  have hmax : 1 ≤ workloadMaxArgs := by decide
  exact ⟨fun h => (hchars 0 h).2.2.2 rfl, tokenize_word hchars hmax⟩

theorem selected_parsed_iff (w : RattArgs.Workload) (r : Request) :
    Selected r { parsed w r with enabled := true } ↔
      (parsed w r).file = some r.file ∧ (parsed w r).func = some r.func ∧
        r.params = [(parsed w r).args] := by
  obtain ⟨hnul, mem, hargs, htoken⟩ := workloadArgs_parsed w r
  have hrun : workloadArgs { parsed w r with enabled := true } = workloadArgs (parsed w r) := rfl
  constructor
  · rintro ⟨hfile, hfunc, tokens, mem', hok, htokens⟩
    rw [hrun, hargs] at hok
    injection hok with hok
    injection hok with hargc hargv hmem
    subst hmem
    generalize r.params = ps at hargc htokens ⊢
    cases htokens with
    | nil => cases hargc
    | @cons t p tokens params ht htokens =>
      rw [List.map_cons, List.cons_append, List.cons.injEq] at hargv
      obtain ⟨hfirst, hrest⟩ := hargv
      have hone := congrArg List.length hrest
      rw [List.length_append, List.length_map] at hone
      have hnone : tokens = [] := List.eq_nil_of_length_eq_zero (Nat.succ.inj hone).symm
      rw [hnone, List.forall₂_nil_left_iff] at htokens
      injection hfirst with hzero
      subst hzero
      refine ⟨hfile, hfunc, ?_⟩
      rw [htokens, ht.unique hnul htoken]
  · rintro ⟨hfile, hfunc, hparams⟩
    refine ⟨hfile, hfunc, [0], mem, ?_, ?_⟩
    · rw [hrun, hargs, hparams]
      rfl
    · rw [hparams]
      exact .cons htoken .nil

/-- Loading makes no difference to what is selected. -/
theorem meets_iff_parsed (w : RattArgs.Workload) (r : Request) :
    Meets w r ↔ (parsed w r).file = some r.file ∧ (parsed w r).func = some r.func ∧
      r.params = [(parsed w r).args] := by
  rw [← selected_parsed_iff]
  constructor
  · intro h
    obtain ⟨w', hw', hselected⟩ := h
      { logPool := true, mqttPool := true, mqttMessage := true, fopen := fun _ => true
        dlopen := fun _ => true, dlsym := fun _ _ => true } rfl rfl
    rw [processWorkload_eq] at hw'
    cases hw'
    exact hselected
  · intro h env hopen hsym
    refine ⟨_, ?_, h⟩
    have hfile : (parsed w r).file = some r.file := h.file
    have hfunc : (parsed w r).func = some r.func := h.func
    rw [processWorkload_eq, hfile, hfunc, hopen, hsym]
    rfl

/-! ## Keys -/

theorem hasKey_iff {key t : CStr} : hasKey key t = true ↔ ∃ x, t = key ++ x := by
  rw [hasKey, List.isPrefixOf_iff_prefix]
  exact ⟨fun ⟨x, hx⟩ => ⟨x, hx.symm⟩, fun ⟨x, hx⟩ => ⟨x, hx.symm⟩⟩

/-- When a piece sets a name to a text. -/
theorem keyValue_eq_some {key : CStr} (hkey : key.length = 5) {old : Option CStr} {t x : CStr} :
    keyValue key old t = some x ↔ t = key ++ x ∨ (hasKey key t = false ∧ old = some x) := by
  rw [keyValue]
  cases h : hasKey key t with
  | true =>
    obtain ⟨y, rfl⟩ := hasKey_iff.mp h
    rw [if_pos rfl, ← hkey, List.drop_left, Option.some.injEq, List.append_cancel_left_eq]
    simp
  | false =>
    rw [if_neg Bool.false_ne_true]
    constructor
    · intro hold
      exact .inr ⟨rfl, hold⟩
    · rintro (rfl | ⟨-, hold⟩)
      · rw [hasKey_iff.mpr ⟨x, rfl⟩] at h
        cases h
      · exact hold

theorem keyValue_none {key : CStr} {old : Option CStr} {t : CStr} (h : hasKey key t = false) :
    keyValue key old t = old := by
  rw [keyValue, h, if_neg Bool.false_ne_true]

/-- A text is not its own value. -/
theorem ne_append_self {key t : CStr} (hkey : key.length = 5) : t ≠ key ++ t := by
  intro h
  have hlength := congrArg List.length h
  rw [List.length_append] at hlength
  omega

theorem hasKey_take {key t : CStr} (hkey : key.length = 5) :
    hasKey key (t.take (workloadMaxArgs - 1)) = hasKey key t := by
  rw [Bool.eq_iff_iff, hasKey, hasKey, List.isPrefixOf_iff_prefix, List.isPrefixOf_iff_prefix]
  constructor
  · intro h
    exact h.trans (List.take_prefix _ t)
  · intro h
    rw [List.prefix_take_iff]
    exact ⟨h, by rw [hkey]; decide⟩

theorem fileKey_length : (lit "file=").length = 5 := by decide

theorem funcKey_length : (lit "func=").length = 5 := by decide

theorem isWord_take {t : CStr} (h : isWord t = true) :
    isWord (t.take (workloadMaxArgs - 1)) = true := by
  rw [isWord, Bool.and_eq_true, Bool.and_eq_true, bne_iff_ne] at h ⊢
  obtain ⟨⟨hne, hfile⟩, hfunc⟩ := h
  rw [hasKey_take fileKey_length, hasKey_take funcKey_length]
  refine ⟨⟨fun hnil => ?_, hfile⟩, hfunc⟩
  rcases List.take_eq_nil_iff.mp hnil with hzero | hempty
  · exact absurd hzero (by decide)
  · exact hne hempty

theorem keyless_of_isWord {t : CStr} (h : isWord t = true) :
    hasKey (lit "file=") t = false ∧ hasKey (lit "func=") t = false := by
  rw [isWord, Bool.and_eq_true, Bool.and_eq_true, Bool.not_eq_true', Bool.not_eq_true'] at h
  exact ⟨h.1.2, h.2⟩

theorem argsOf_clipped {t : CStr} (ht : workloadMaxArgs - 1 ≤ t.length) (ts : List CStr) :
    argsOf (t :: ts) = t.take (workloadMaxArgs - 1) :=
  List.take_append_of_le_length ht

/-- With more than one word a comma is left, unless the first word fills the buffer. -/
theorem clipped_of_argsOf {t u p : CStr} {us : List CStr} (hcomma : 44 ∉ p)
    (h : argsOf (t :: u :: us) = p) : workloadMaxArgs - 1 ≤ t.length := by
  by_contra hshort
  rw [Nat.not_le] at hshort
  refine hcomma ?_
  rw [← h, argsOf, List.flatMap_cons, List.take_append]
  refine List.mem_append_right _ ?_
  obtain ⟨k, hk⟩ := Nat.exists_eq_succ_of_ne_zero (Nat.sub_ne_zero_of_lt hshort)
  rw [hk]
  exact List.mem_cons_self

/-- When the arguments are the parameter. -/
theorem argument_iff {file func p : CStr} (hcomma : 44 ∉ p) (hfits : p.length < workloadMaxArgs) :
    argsOf ([file, func, p].filter isWord) = p ↔ Argument file func p := by
  have hsplit : [file, func, p].filter isWord =
      [file, func].filter isWord ++ [p].filter isWord :=
    List.filter_append [file, func] [p]
  rw [hsplit, Argument]
  have hwords : ∀ t ∈ [file, func].filter isWord, isWord t = true := fun t ht =>
    List.of_mem_filter ht
  generalize [file, func].filter isWord = words at hwords
  cases words with
  | nil =>
    rw [List.nil_append]
    cases hword : isWord p with
    | true =>
      rw [List.filter_cons_of_pos hword]
      refine iff_of_true ?_ (keyless_of_isWord hword)
      rw [List.filter_nil, argsOf, List.flatMap_nil, List.append_nil]
      exact List.take_of_length_le (Nat.le_sub_one_of_lt hfits)
    | false =>
      rw [List.filter_cons_of_neg (by rw [hword]; exact Bool.false_ne_true), List.filter_nil]
      rw [isWord, Bool.and_eq_false_iff, Bool.and_eq_false_iff] at hword
      constructor
      · rintro rfl
        exact ⟨rfl, rfl⟩
      · rintro ⟨hfile, hfunc⟩
        rcases hword with (hnil | hno) | hno
        · rw [bne_eq_false_iff_eq] at hnil
          rw [hnil]
          rfl
        · rw [hfile] at hno
          cases hno
        · rw [hfunc] at hno
          cases hno
  | cons t rest =>
    have ht := hwords t List.mem_cons_self
    rw [List.cons_append]
    constructor
    · intro h
      have hlong : workloadMaxArgs - 1 ≤ t.length := by
        cases hrest : rest ++ [p].filter isWord with
        | cons u us =>
          rw [hrest] at h
          exact clipped_of_argsOf hcomma h
        | nil =>
          exfalso
          rw [hrest, argsOf, List.flatMap_nil, List.append_nil] at h
          have hp : isWord p = true := h ▸ isWord_take ht
          rw [List.filter_cons_of_pos hp] at hrest
          exact List.cons_ne_nil _ _ (List.append_eq_nil_iff.mp hrest).2
      exact ⟨hlong, h.symm.trans (argsOf_clipped hlong _)⟩
    · rintro ⟨hlong, hp⟩
      exact (argsOf_clipped hlong _).trans hp.symm

theorem Argument.keyless {file func p : CStr} (h : Argument file func p) :
    hasKey (lit "file=") p = false ∧ hasKey (lit "func=") p = false := by
  rw [Argument] at h
  have hwords : ∀ t ∈ [file, func].filter isWord, isWord t = true := fun t ht =>
    List.of_mem_filter ht
  generalize [file, func].filter isWord = words at h hwords
  cases words with
  | nil => exact h
  | cons t rest =>
    rw [h.2]
    exact keyless_of_isWord (isWord_take (hwords t List.mem_cons_self))

theorem file_iff {key file func p : CStr} {old : Option CStr} (hkey : key.length = 5)
    (hp : hasKey key p = false) :
    [file, func, p].foldl (keyValue key) old = some file ↔
      func = key ++ file ∨
        (old = some file ∧ hasKey key file = false ∧ hasKey key func = false) := by
  have hself : file ≠ key ++ file := ne_append_self hkey
  simp only [List.foldl_cons, List.foldl_nil]
  rw [keyValue_none hp, keyValue_eq_some hkey, keyValue_eq_some hkey]
  tauto

theorem func_iff {key file func p : CStr} {old : Option CStr} (hkey : key.length = 5)
    (hp : hasKey key p = false) :
    [file, func, p].foldl (keyValue key) old = some func ↔
      hasKey key func = false ∧
        (file = key ++ func ∨ (old = some func ∧ hasKey key file = false)) := by
  have hself : func ≠ key ++ func := ne_append_self hkey
  simp only [List.foldl_cons, List.foldl_nil]
  rw [keyValue_none hp, keyValue_eq_some hkey, keyValue_eq_some hkey]
  tauto

theorem meets_iff_agrees (w : RattArgs.Workload) (r : Request) :
    Meets w r ↔ ∃ p, r.params = [p] ∧ Agrees w r.file r.func p := by
  have hone {p : CStr} (hparams : r.params = [p]) :
      ((parsed w r).file = some r.file ∧ (parsed w r).func = some r.func ∧ (parsed w r).args = p) ↔
        Agrees w r.file r.func p := by
    have hfits := r.fits
    have hcomma : 44 ∉ p := fun h =>
      absurd (r.plain p (by rw [hparams]; simp) 44 h) (by decide)
    rw [hparams, List.intercalate_singleton] at hfits
    simp only [parsed, hparams]
    rw [argument_iff hcomma hfits]
    constructor
    · rintro ⟨hfile, hfunc, hargument⟩
      obtain ⟨hno, hno'⟩ := hargument.keyless
      exact ⟨(file_iff fileKey_length hno).mp hfile, (func_iff funcKey_length hno').mp hfunc,
        hargument⟩
    · rintro ⟨hnames, hcalls, hargument⟩
      obtain ⟨hno, hno'⟩ := hargument.keyless
      exact ⟨(file_iff fileKey_length hno).mpr hnames, (func_iff funcKey_length hno').mpr hcalls,
        hargument⟩
  rw [meets_iff_parsed]
  constructor
  · rintro ⟨hfile, hfunc, hparams⟩
    exact ⟨_, hparams, (hone hparams).mp ⟨hfile, hfunc, rfl⟩⟩
  · rintro ⟨p, hparams, hagrees⟩
    obtain ⟨hfile, hfunc, hargs⟩ := (hone hparams).mpr hagrees
    exact ⟨hfile, hfunc, hargs ▸ hparams⟩

/-- The first option never does. -/
theorem not_meets_first {w : RattArgs.Workload} (hfile : w.file = none) (hfunc : w.func = none)
    (r : Request) : ¬ Meets w r := by
  rw [meets_iff_agrees]
  rintro ⟨p, -, hnames, hcalls, -⟩
  rw [hfile] at hnames
  rw [hfunc] at hcalls
  rcases hnames with hname | ⟨hno, -⟩
  · rcases hcalls.2 with hcall | ⟨hno, -⟩
    · have hlength := congrArg List.length hcall
      have hkey := fileKey_length
      rw [hname, List.length_append, List.length_append] at hlength
      omega
    · cases hno
  · cases hno

/-- **Workloads.** An option in the documented form selects what it says just if it has one
parameter that the pieces happen to agree with. -/
theorem workload_selected_iff (w : RattArgs.Workload) (r : Request) :
    Meets w r ↔ ∃ p, r.params = [p] ∧ Agrees w r.file r.func p :=
  meets_iff_agrees w r

/-- The example of the tool's documentation. -/
def documented : Request where
  file := lit "./my_workload.so"
  func := lit "my_workload_function"
  params := [lit "param1", lit "param2"]
  plain := by
    have hall : [lit "./my_workload.so", lit "my_workload_function", lit "param1",
        lit "param2"].all (·.all isPlain) = true := by decide
    exact fun t ht => List.all_eq_true.mp (List.all_eq_true.mp hall t ht)
  fits := by decide

theorem documented_example_missed : ¬ Meets start.info.rtWorkload documented :=
  not_meets_first rfl rfl documented

end Rtdk.Workload
