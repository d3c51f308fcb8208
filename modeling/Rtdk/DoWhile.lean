import Mathlib.Order.Basic

/-! Loops that test at the end of a pass.

A pass turns one state into the next and says whether the loop goes on. A loop ends
in a state if enough fuel takes it there, and all fuel beyond does. `ends_of_variant`
is the rule of total correctness: what a pass that goes on keeps, with a number that
gets smaller, and what the last pass establishes. -/

namespace Rtdk.DoWhile

variable {S : Type} {pass : S → S × Bool} {s s' : S}

def run (pass : S → S × Bool) : Nat → S → Option S
  | 0, _ => none
  | fuel + 1, s =>
    match pass s with
    | (s', true) => run pass fuel s'
    | (s', false) => some s'

/-- The loop ends, and in this state. -/
def Ends (pass : S → S × Bool) (s s' : S) : Prop :=
  ∃ enough, ∀ fuel, enough ≤ fuel → run pass fuel s = some s'

theorem ends_last (h : pass s = (s', false)) : Ends pass s s' := by
  refine ⟨1, fun fuel hfuel => ?_⟩
  obtain ⟨k, rfl⟩ := Nat.exists_eq_add_of_le' hfuel
  rw [run, h]

theorem ends_next {t : S} (h : pass s = (s', true)) (ht : Ends pass s' t) : Ends pass s t := by
  obtain ⟨enough, hend⟩ := ht
  refine ⟨enough + 1, fun fuel hfuel => ?_⟩
  obtain ⟨k, rfl⟩ := Nat.exists_eq_add_of_le' (Nat.le_trans (Nat.le_add_left 1 enough) hfuel)
  rw [run, h]
  exact hend k (Nat.le_of_succ_le_succ hfuel)

/-- **Total correctness.** -/
theorem ends_of_variant (pass : S → S × Bool) {Inv Post : S → Prop} {variant : S → Nat}
    (next : ∀ s s', Inv s → pass s = (s', true) → Inv s' ∧ variant s' < variant s)
    (last : ∀ s s', Inv s → pass s = (s', false) → Post s') (hs : Inv s) :
    ∃ s', Ends pass s s' ∧ Post s' := by
  induction hv : variant s using Nat.strongRecOn generalizing s with
  | ind v ih =>
    cases hpass : pass s with
    | mk s' goes =>
      cases goes with
      | false => exact ⟨s', ends_last hpass, last s s' hs hpass⟩
      | true =>
        obtain ⟨hinv, hless⟩ := next s s' hs hpass
        obtain ⟨t, hend, hpost⟩ := ih _ (hv ▸ hless) hinv rfl
        exact ⟨t, ends_next hpass hend, hpost⟩

end Rtdk.DoWhile
