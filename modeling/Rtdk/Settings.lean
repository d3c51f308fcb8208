import Mathlib.Logic.Function.Basic
import Mathlib.Data.List.Nodup
import Rtdk.Runs

/-! Named settings: a table of names, each for one field, and a list of texts
given to names. Every field ends with the last text that was given to one of its
names, or with the value it had before; no order of different names matters.

`K` is the type of the keys that are given, `N` of the names in the table, `T` of
the texts; a field `f` holds a value in `V f`. -/

namespace Rtdk.Settings
open Rtdk.Runs

section
variable {K N T E F : Type} [DecidableEq F] {V : F → Type}
variable (same : K → N → Bool) (parse : N → (f : F) → T → Except E (V f))

/-- One entry of the table tried on a key: its field is set if the name fits. -/
def store (key : K) (text : T) (s : (f : F) → V f) (p : N × F) : Except E ((f : F) → V f) :=
  if same key p.1 then (parse p.1 p.2 text).map fun v => Function.update s p.2 v else .ok s

/-- All entries of the table, in order. -/
def storeAll (table : List (N × F)) (key : K) (text : T) (s : (f : F) → V f) :
    Except E ((f : F) → V f) :=
  table.foldlM (store same parse key text) s

/-- The name under which the table offers a field for a key. -/
def nameFor (table : List (N × F)) (f : F) (key : K) : Option N :=
  (table.find? fun p => decide (p.2 = f) && same key p.1).map Prod.fst

/-- The last text given to a field, with the name it was given to. -/
def lastFor (table : List (N × F)) (f : F) : List (K × T) → Option (N × T)
  | [] => none
  | (key, text) :: as =>
    (lastFor table f as).or ((nameFor same table f key).map fun name => (name, text))

variable {same} {parse} {table : List (N × F)} {key : K} {text : T} {s s' : (f : F) → V f} {f : F}

theorem nameFor_cons (p : N × F) : nameFor same (p :: table) f key =
    if p.2 = f ∧ same key p.1 = true then some p.1 else nameFor same table f key := by
  unfold nameFor
  rw [List.find?_cons]
  by_cases h : p.2 = f ∧ same key p.1 = true
  · simp [h]
  · rw [if_neg h]
    have : (decide (p.2 = f) && same key p.1) = false := by
      rw [Bool.and_eq_false_iff]
      by_cases hf : p.2 = f
      · exact .inr (by simpa using fun hs => h ⟨hf, hs⟩)
      · exact .inl (by simpa using hf)
    rw [this]

theorem nameFor_some {name : N} (h : nameFor same table f key = some name) :
    (name, f) ∈ table ∧ same key name = true := by
  obtain ⟨p, hp, rfl⟩ := Option.map_eq_some_iff.mp h
  have hfit := List.find?_some hp
  rw [Bool.and_eq_true, decide_eq_true_eq] at hfit
  obtain ⟨rfl, hs⟩ := hfit
  exact ⟨List.mem_of_find?_eq_some hp, hs⟩

/-- The last text given to a field was given to one of its names. -/
theorem lastFor_mem {name : N} {as : List (K × T)}
    (h : lastFor same table f as = some (name, text)) :
    ∃ a ∈ as, a.2 = text ∧ (name, f) ∈ table ∧ same a.1 name = true := by
  induction as with
  | nil => cases h
  | cons a as ih =>
    rw [lastFor, Option.or_eq_some_iff] at h
    rcases h with h | ⟨-, h⟩
    · obtain ⟨b, hb, hrest⟩ := ih h
      exact ⟨b, List.mem_cons_of_mem a hb, hrest⟩
    · obtain ⟨name', hname, heq⟩ := Option.map_eq_some_iff.mp h
      cases heq
      exact ⟨a, List.mem_cons_self, rfl, nameFor_some hname⟩

theorem nameFor_none (h : f ∉ table.map Prod.snd) : nameFor same table f key = none := by
  induction table with
  | nil => rfl
  | cons p table ih =>
    rw [List.map_cons, List.mem_cons, not_or] at h
    rw [nameFor_cons, if_neg (fun hp => h.1 hp.1.symm)]
    exact ih h.2

theorem store_ok {p : N × F} (h : store same parse key text s p = .ok s') :
    (same key p.1 = true ∧ ∃ v, parse p.1 p.2 text = .ok v ∧ s' = Function.update s p.2 v) ∨
      (same key p.1 = false ∧ s' = s) := by
  unfold store at h
  cases hs : same key p.1 with
  | false =>
    rw [hs, if_neg Bool.false_ne_true] at h
    exact .inr ⟨rfl, (Except.ok.inj h).symm⟩
  | true =>
    rw [hs, if_pos rfl] at h
    cases hp : parse p.1 p.2 text with
    | error e =>
      rw [hp] at h
      cases h
    | ok v =>
      rw [hp] at h
      exact .inl ⟨rfl, v, rfl, (Except.ok.inj h).symm⟩

theorem storeAll_cons {p : N × F} (h : storeAll same parse (p :: table) key text s = .ok s') :
    ∃ s1, store same parse key text s p = .ok s1 ∧
      storeAll same parse table key text s1 = .ok s' := by
  exact foldlM_cons_ok.mp h

/-- A field the table does not name keeps its value. -/
theorem storeAll_frame (h : storeAll same parse table key text s = .ok s')
    (hf : f ∉ table.map Prod.snd) : s' f = s f := by
  induction table generalizing s with
  | nil =>
    cases h
    rfl
  | cons p table ih =>
    obtain ⟨s1, h1, h2⟩ := storeAll_cons h
    rw [List.map_cons, List.mem_cons, not_or] at hf
    rw [ih h2 hf.2]
    obtain ⟨-, v, -, rfl⟩ | ⟨-, rfl⟩ := store_ok h1
    · exact Function.update_of_ne hf.1 _ _
    · rfl

/-- **One key.**  If no field stands twice in the table, a field takes the text
of a key that fits one of its names and keeps its value otherwise. -/
theorem storeAll_apply (hnd : (table.map Prod.snd).Nodup)
    (h : storeAll same parse table key text s = .ok s') :
    (∀ name, nameFor same table f key = some name → parse name f text = .ok (s' f)) ∧
      (nameFor same table f key = none → s' f = s f) := by
  induction table generalizing s with
  | nil =>
    cases h
    exact ⟨fun _ hn => (nomatch hn), fun _ => rfl⟩
  | cons p table ih =>
    obtain ⟨s1, h1, h2⟩ := storeAll_cons h
    rw [List.map_cons, List.nodup_cons] at hnd
    rw [nameFor_cons]
    by_cases hp : p.2 = f
    · subst hp
      have hframe := storeAll_frame h2 hnd.1
      have hnone : nameFor same table p.2 key = none := nameFor_none hnd.1
      obtain ⟨hs, v, hv, rfl⟩ | ⟨hs, rfl⟩ := store_ok h1
      · rw [if_pos ⟨rfl, hs⟩]
        refine ⟨?_, fun hn => nomatch hn⟩
        intro name hname
        cases hname
        rw [hv, hframe, Function.update_self]
      · rw [if_neg (by simp [hs]), hnone]
        exact ⟨fun _ hn => (nomatch hn), fun _ => hframe⟩
    · rw [if_neg (fun hc => hp hc.1)]
      have hs1 : s1 f = s f := by
        obtain ⟨-, v, -, rfl⟩ | ⟨-, rfl⟩ := store_ok h1
        · exact Function.update_of_ne (Ne.symm hp) _ _
        · rfl
      rw [← hs1]
      exact ih hnd.2 h2

/-- **A list of assignments.**  A field ends with the last text given to it, or
with the value it started with. -/
theorem assign_apply (hnd : (table.map Prod.snd).Nodup) {as : List (K × T)}
    (h : as.foldlM (fun s a => storeAll same parse table a.1 a.2 s) s = .ok s') :
    (∀ name text, lastFor same table f as = some (name, text) → parse name f text = .ok (s' f)) ∧
      (lastFor same table f as = none → s' f = s f) := by
  induction as generalizing s with
  | nil =>
    cases h
    exact ⟨fun _ _ hn => (nomatch hn), fun _ => rfl⟩
  | cons a as ih =>
    obtain ⟨s1, h1, hrest⟩ := foldlM_cons_ok.mp h
    obtain ⟨hsome, hnone⟩ := ih hrest
    obtain ⟨hthis, hkeep⟩ := storeAll_apply (f := f) hnd h1
    rw [lastFor]
    cases hl : lastFor same table f as with
    | some p =>
      rw [Option.some_or]
      refine ⟨?_, fun hn => nomatch hn⟩
      intro name text hp
      cases hp
      exact hsome name text hl
    | none =>
      rw [Option.none_or, hnone hl]
      cases hn : nameFor same table f a.1 with
      | none => exact ⟨fun _ _ hp => (nomatch hp), fun _ => hkeep hn⟩
      | some name =>
        refine ⟨?_, fun hp => nomatch hp⟩
        intro name' text' hp
        cases hp
        exact hthis name hn

/-! ## Tables in which a key fits at most one name -/

/-- No key fits the names of two entries. -/
def Exclusive (same : K → N → Bool) (table : List (N × F)) : Prop :=
  table.Pairwise fun p q => ∀ key, same key p.1 = true → same key q.1 = false

/-- The entry a key fits. -/
def entryFor (same : K → N → Bool) (table : List (N × F)) (key : K) : Option (N × F) :=
  table.find? fun p => same key p.1

theorem storeAll_unnamed (h : ∀ p ∈ table, same key p.1 = false) :
    storeAll same parse table key text s = .ok s := by
  induction table with
  | nil => rfl
  | cons p table ih =>
    have hp : store same parse key text s p = .ok s := by
      rw [store, if_neg (by rw [h p List.mem_cons_self]; exact Bool.false_ne_true)]
    exact foldlM_cons_ok.mpr ⟨s, hp, ih fun q hq => h q (List.mem_cons_of_mem p hq)⟩

/-- **One key.**  It sets the field of the entry it fits, and nothing else. -/
theorem storeAll_eq (hex : Exclusive same table) : storeAll same parse table key text s =
    match entryFor same table key with
    | none => .ok s
    | some p => (parse p.1 p.2 text).map fun v => Function.update s p.2 v := by
  induction table with
  | nil => rfl
  | cons p table ih =>
    obtain ⟨hp, hrest⟩ := List.pairwise_cons.mp hex
    rw [storeAll, List.foldlM_cons, entryFor, List.find?_cons]
    cases hs : same key p.1 with
    | false =>
      rw [store, hs, if_neg Bool.false_ne_true]
      exact ih hrest
    | true =>
      rw [store, hs, if_pos rfl]
      cases hv : parse p.1 p.2 text with
      | error e =>
        simp only [hv]
        rfl
      | ok v =>
        simp only [hv]
        exact storeAll_unnamed (s := Function.update s p.2 v) fun q hq => hp q hq key hs

omit [DecidableEq F] in
theorem entryFor_eq (hex : Exclusive same table) {p : N × F} (hp : p ∈ table)
    (hs : same key p.1 = true) : entryFor same table key = some p := by
  induction table with
  | nil => cases hp
  | cons q table ih =>
    obtain ⟨hq, hrest⟩ := List.pairwise_cons.mp hex
    rw [entryFor, List.find?_cons]
    rcases List.mem_cons.mp hp with rfl | hp
    · rw [hs]
    · have hno : same key q.1 = false := by
        cases hq' : same key q.1 with
        | false => rfl
        | true => exact absurd (hq p hp key hq') (by rw [hs]; decide)
      rw [hno]
      exact ih hrest hp

theorem storeAll_named (hex : Exclusive same table) {p : N × F} (hp : p ∈ table)
    (hs : same key p.1 = true) : storeAll same parse table key text s =
      (parse p.1 p.2 text).map fun v => Function.update s p.2 v := by
  rw [storeAll_eq hex, entryFor_eq hex hp hs]

/-- A key is taken just if the text is good for the field it fits. -/
theorem storeAll_ok_iff (hex : Exclusive same table) :
    (∃ s', storeAll same parse table key text s = .ok s') ↔
      ∀ p ∈ table, same key p.1 = true → ∃ v, parse p.1 p.2 text = .ok v := by
  rw [storeAll_eq hex]
  cases he : entryFor same table key with
  | none =>
    refine iff_of_true ⟨s, rfl⟩ fun p hp hs => ?_
    rw [entryFor_eq hex hp hs] at he
    cases he
  | some p =>
    constructor
    · rintro ⟨s', h⟩ q hq hs
      rw [entryFor_eq hex hq hs] at he
      cases he
      obtain ⟨v, hv, -⟩ := map_ok_iff.mp h
      exact ⟨v, hv⟩
    · intro h
      obtain ⟨v, hv⟩ := h p (List.mem_of_find?_eq_some he) (by simpa using List.find?_some he)
      exact ⟨_, map_ok_iff.mpr ⟨v, hv, rfl⟩⟩

/-! ## Orders of assignments -/

/-- Two keys that do not fit one entry. -/
def Apart (same : K → N → Bool) (table : List (N × F)) (key key' : K) : Prop :=
  ∀ p ∈ table, same key p.1 = true → same key' p.1 = false

/-- Assignments that differ in the order of different keys, and in unknown keys. -/
inductive Rearranged (differ : K → K → Prop) (known : K → Prop) :
    List (K × T) → List (K × T) → Prop
  | nil : Rearranged differ known [] []
  | cons (a : K × T) {as bs : List (K × T)} (h : Rearranged differ known as bs) :
    Rearranged differ known (a :: as) (a :: bs)
  | swap {a b : K × T} (as : List (K × T)) (h : differ a.1 b.1) :
    Rearranged differ known (a :: b :: as) (b :: a :: as)
  | skip {a : K × T} (as : List (K × T)) (h : ¬ known a.1) : Rearranged differ known (a :: as) as
  | symm {as bs : List (K × T)} (h : Rearranged differ known as bs) : Rearranged differ known bs as
  | trans {as bs cs : List (K × T)} (h : Rearranged differ known as bs)
    (h' : Rearranged differ known bs cs) : Rearranged differ known as cs

theorem storeAll_comm (hnd : (table.map Prod.snd).Nodup) (hex : Exclusive same table) {key' : K}
    {text' : T} (happart : Apart same table key key') :
    (storeAll same parse table key text s >>= fun t => storeAll same parse table key' text' t) =
        .ok s' ↔
      (storeAll same parse table key' text' s >>= fun t => storeAll same parse table key text t) =
        .ok s' := by
  simp only [storeAll_eq hex]
  cases he : entryFor same table key with
  | none => simp [bind_ok_iff]
  | some p =>
    cases he' : entryFor same table key' with
    | none => simp [bind_ok_iff]
    | some q =>
      have hp : p ∈ table := List.mem_of_find?_eq_some he
      have hq : q ∈ table := List.mem_of_find?_eq_some he'
      have hs : same key p.1 = true := by simpa using List.find?_some he
      have hs' : same key' q.1 = true := by simpa using List.find?_some he'
      have hne : p.2 ≠ q.2 := by
        intro heq
        have hpq : p = q := List.inj_on_of_nodup_map hnd hp hq heq
        subst hpq
        rw [happart p hp hs] at hs'
        cases hs'
      simp only [bind_ok_iff, map_ok_iff]
      constructor
      · rintro ⟨_, ⟨v, hv, rfl⟩, w, hw, rfl⟩
        exact ⟨_, ⟨w, hw, rfl⟩, v, hv, Function.update_comm hne.symm _ _ _⟩
      · rintro ⟨_, ⟨w, hw, rfl⟩, v, hv, rfl⟩
        exact ⟨_, ⟨v, hv, rfl⟩, w, hw, Function.update_comm hne _ _ _⟩

/-- **Rearranged assignments.**  They end alike. -/
theorem Rearranged.foldlM_iff {differ : K → K → Prop} {known : K → Prop}
    (hnd : (table.map Prod.snd).Nodup) (hex : Exclusive same table)
    (hdiffer : ∀ key key', differ key key' → Apart same table key key')
    (hknown : ∀ key, ¬ known key → ∀ p ∈ table, same key p.1 = false)
    {as bs : List (K × T)} (h : Rearranged differ known as bs) (s s' : (f : F) → V f) :
    as.foldlM (fun s a => storeAll same parse table a.1 a.2 s) s = .ok s' ↔
      bs.foldlM (fun s a => storeAll same parse table a.1 a.2 s) s = .ok s' := by
  induction h generalizing s s' with
  | nil => exact Iff.rfl
  | cons a _ ih => simp only [foldlM_cons_ok, ih]
  | @swap a b as hdiff =>
    have hcomm (u : (f : F) → V f) :
        (storeAll same parse table a.1 a.2 s >>= fun t => storeAll same parse table b.1 b.2 t) =
            .ok u ↔
          (storeAll same parse table b.1 b.2 s >>= fun t => storeAll same parse table a.1 a.2 t) =
            .ok u :=
      storeAll_comm hnd hex (hdiffer _ _ hdiff)
    simp only [bind_ok_iff] at hcomm
    simp only [foldlM_cons_ok]
    constructor
    · rintro ⟨t, ht, u, hu, hrest⟩
      obtain ⟨t', ht', hu'⟩ := (hcomm u).mp ⟨t, ht, hu⟩
      exact ⟨t', ht', u, hu', hrest⟩
    · rintro ⟨t, ht, u, hu, hrest⟩
      obtain ⟨t', ht', hu'⟩ := (hcomm u).mpr ⟨t, ht, hu⟩
      exact ⟨t', ht', u, hu', hrest⟩
  | skip as hno =>
    simp only [foldlM_cons_ok, storeAll_unnamed (hknown _ hno), Except.ok.injEq, exists_eq_left']
  | symm _ ih => exact (ih s s').symm
  | trans _ _ ih ih' => exact (ih s s').trans (ih' s s')

/-- **Acceptance.**  A list of assignments is taken just if every text is good for
the field its key fits. -/
theorem foldlM_ok_iff (hex : Exclusive same table) {as : List (K × T)} (s : (f : F) → V f) :
    (∃ s', as.foldlM (fun s a => storeAll same parse table a.1 a.2 s) s = .ok s') ↔
      ∀ a ∈ as, ∀ p ∈ table, same a.1 p.1 = true → ∃ v, parse p.1 p.2 a.2 = .ok v := by
  induction as generalizing s with
  | nil => exact iff_of_true ⟨s, rfl⟩ fun a ha => (nomatch ha)
  | cons a as ih =>
    rw [List.forall_mem_cons]
    simp only [foldlM_cons_ok]
    constructor
    · rintro ⟨s', t, ht, hrest⟩
      exact ⟨(storeAll_ok_iff hex).mp ⟨t, ht⟩, (ih t).mp ⟨s', hrest⟩⟩
    · rintro ⟨hone, hrest⟩
      obtain ⟨t, ht⟩ := (storeAll_ok_iff (s := s) hex).mpr hone
      obtain ⟨s', hs'⟩ := (ih t).mpr hrest
      exact ⟨s', t, ht, hs'⟩

end

end Rtdk.Settings
