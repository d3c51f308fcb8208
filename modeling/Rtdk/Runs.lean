import Mathlib.Data.List.Basic
import Mathlib.Data.List.Infix
import Mathlib.Data.List.Perm.Basic
import Mathlib.Data.List.Pairwise

/-! Runs of a step function that can fail: a run takes a list of inputs, step by
step, and ends with the first error. What one step keeps, a run keeps; and steps
that commute pairwise can be taken in any order. -/

namespace Rtdk.Runs

universe u v w

variable {σ τ : Type u} {ε : Type v} {α : Type w} {f : σ → α → Except ε σ} {s t : σ} {a : α} {as bs : List α}

theorem bind_ok_iff {x : Except ε σ} {g : σ → Except ε τ} {r : τ} :
    x >>= g = .ok r ↔ ∃ u, x = .ok u ∧ g u = .ok r := by
  cases x with
  | error e =>
    constructor
    · intro h
      cases h
    · rintro ⟨_, h, _⟩
      cases h
  | ok u =>
    constructor
    · intro h
      exact ⟨u, rfl, h⟩
    · rintro ⟨_, h, hg⟩
      cases h
      exact hg

theorem map_ok_iff {x : Except ε σ} {g : σ → τ} {r : τ} :
    x.map g = .ok r ↔ ∃ u, x = .ok u ∧ g u = r := by
  cases x with
  | error e =>
    constructor
    · intro h
      cases h
    · rintro ⟨_, h, _⟩
      cases h
  | ok u =>
    constructor
    · intro h
      exact ⟨u, rfl, Except.ok.inj h⟩
    · rintro ⟨_, h, rfl⟩
      cases h
      rfl

/-! ## Parts of a run -/

theorem foldlM_cons_ok :
    (a :: as).foldlM f s = .ok t ↔ ∃ u, f s a = .ok u ∧ as.foldlM f u = .ok t := by
  rw [List.foldlM_cons, bind_ok_iff]

theorem foldlM_append_ok :
    (as ++ bs).foldlM f s = .ok t ↔ ∃ u, as.foldlM f s = .ok u ∧ bs.foldlM f u = .ok t := by
  rw [List.foldlM_append, bind_ok_iff]

theorem foldlM_singleton : [a].foldlM f s = f s a := by
  rw [List.foldlM_cons]
  cases f s a <;> rfl

theorem foldlM_snoc_ok :
    (as ++ [a]).foldlM f s = .ok t ↔ ∃ u, as.foldlM f s = .ok u ∧ f u a = .ok t := by
  simp only [foldlM_append_ok, foldlM_singleton]

theorem foldlM_prefix_ok (h : as.foldlM f s = .ok t) (hpre : bs <+: as) :
    ∃ u, bs.foldlM f s = .ok u := by
  obtain ⟨cs, rfl⟩ := hpre
  obtain ⟨u, hu, -⟩ := foldlM_append_ok.mp h
  exact ⟨u, hu⟩

/-! ## Invariants -/

section invariant
variable {P : σ → Prop}

theorem foldlM_keeps (hstep : ∀ s a t, P s → f s a = .ok t → P t) (h : as.foldlM f s = .ok t)
    (hs : P s) : P t := by
  induction as generalizing s with
  | nil =>
    cases h
    exact hs
  | cons a as ih =>
    obtain ⟨u, hone, hrest⟩ := foldlM_cons_ok.mp h
    exact ih hrest (hstep s a u hs hone)

theorem foldlM_keeps_mem (hstep : ∀ a ∈ as, ∀ s t, P s → f s a = .ok t → P t)
    (h : as.foldlM f s = .ok t) (hs : P s) : P t := by
  induction as generalizing s with
  | nil =>
    cases h
    exact hs
  | cons a as ih =>
    obtain ⟨u, hone, hrest⟩ := foldlM_cons_ok.mp h
    exact ih (fun b hb => hstep b (List.mem_cons_of_mem a hb)) hrest
      (hstep a List.mem_cons_self s u hs hone)

/-- Steps that never fail make runs that never fail. -/
theorem foldlM_total (hstep : ∀ s a, P s → ∃ t, f s a = .ok t ∧ P t) (as : List α) (hs : P s) :
    ∃ t, as.foldlM f s = .ok t ∧ P t := by
  induction as generalizing s with
  | nil => exact ⟨s, rfl, hs⟩
  | cons a as ih =>
    obtain ⟨u, hone, hu⟩ := hstep s a hs
    obtain ⟨t, hrest, ht⟩ := ih hu
    exact ⟨t, foldlM_cons_ok.mpr ⟨u, hone, hrest⟩, ht⟩

end invariant

/-! ## Reordering -/

section reorder
variable {P : σ → Prop} {Q : α → Prop} {R : α → α → Prop}

theorem foldlM_perm (hkeep : ∀ s a t, P s → Q a → f s a = .ok t → P t)
    (hsymm : ∀ a b, R a b → R b a)
    (hcomm : ∀ s a b, P s → Q a → Q b → R a b →
      (f s a >>= fun t => f t b) = (f s b >>= fun t => f t a))
    {xs ys : List α} (hperm : xs.Perm ys) (hxs : xs.Pairwise R) (hq : ∀ a ∈ xs, Q a) (s : σ)
    (hs : P s) : xs.foldlM f s = ys.foldlM f s := by
  induction hperm generalizing s with
  | nil => rfl
  | cons a _ ih =>
    rw [List.foldlM_cons, List.foldlM_cons]
    cases ha : f s a with
    | error e => rfl
    | ok t =>
      exact ih (List.pairwise_cons.mp hxs).2 (fun b hb => hq b (List.mem_cons_of_mem a hb)) t
        (hkeep s a t hs (hq a List.mem_cons_self) ha)
  | swap a b xs =>
    have hab : R b a := (List.pairwise_cons.mp hxs).1 a List.mem_cons_self
    simp only [List.foldlM_cons]
    rw [← bind_assoc, ← bind_assoc, hcomm s b a hs (hq b (by simp)) (hq a (by simp)) hab]
  | trans hleft _ ih ih' =>
    have hmid := hleft.pairwise hxs fun h => hsymm _ _ h
    rw [ih hxs hq s hs, ih' hmid (fun a ha => hq a (hleft.mem_iff.mpr ha)) s hs]

end reorder

/-! ## Every state of a run

A step that cannot fail, and a number that steps of one kind keep and the others make
smaller: the number stays what it is through a run just if all steps are of that kind. -/

section kept
variable {g : σ → α → σ} {size : σ → Nat} {bad : σ → α → Prop}

theorem head_mem_scanl (g : σ → α → σ) (s : σ) (as : List α) : s ∈ as.scanl g s := by
  cases as with
  | nil => exact List.mem_singleton.mpr rfl
  | cons a as =>
    rw [List.scanl_cons]
    exact List.mem_cons_self

theorem scanl_kept_iff (keep : ∀ s a, ¬ bad s a → size (g s a) = size s)
    (lose : ∀ s a, bad s a → size (g s a) < size s) (s : σ) (as : List α) :
    (∀ t ∈ as.scanl g s, size t = size s) ↔ ∀ p ∈ (as.scanl g s).zip as, ¬ bad p.1 p.2 := by
  induction as generalizing s with
  | nil => simp
  | cons a as ih =>
    rw [List.scanl_cons, List.zip_cons_cons, List.forall_mem_cons, List.forall_mem_cons, ← ih (g s a)]
    constructor
    · rintro ⟨-, hall⟩
      have hnext := hall _ (head_mem_scanl g (g s a) as)
      refine ⟨fun hbad => ?_, fun t ht => ?_⟩
      · have hless := lose s a hbad
        omega
      · rw [hall t ht, hnext]
    · rintro ⟨hgood, hall⟩
      refine ⟨rfl, fun t ht => ?_⟩
      rw [hall t ht, keep s a hgood]

theorem scanl_le (hstep : ∀ s a, size (g s a) ≤ size s) (s : σ) (as : List α) :
    ∀ t ∈ as.scanl g s, size t ≤ size s := by
  induction as generalizing s with
  | nil => simp
  | cons a as ih =>
    rw [List.scanl_cons, List.forall_mem_cons]
    exact ⟨Nat.le_refl _, fun t ht => Nat.le_trans (ih (g s a) t ht) (hstep s a)⟩

end kept

end Rtdk.Runs
