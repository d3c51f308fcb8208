import Mathlib.Order.Basic
import Rtdk.DoWhile

/-! Calls that are given fuel.

A call yields a value if enough fuel makes it return that value, and all fuel beyond
does. Calls are put together with `bind`; a loop whose turns are calls themselves has the
rule of total correctness `loop_yields`. -/

namespace Rtdk.Fuel

variable {S T U : Type}

def Yields (call : Nat → Option T) (t : T) : Prop :=
  ∃ enough, ∀ fuel, enough ≤ fuel → call fuel = some t

theorem yields_some (t : T) : Yields (fun _ => some t) t := ⟨0, fun _ _ => rfl⟩

theorem Yields.bind {call : Nat → Option T} {t : T} {next : Nat → T → Option U} {u : U}
    (h : Yields call t) (hnext : Yields (fun fuel => next fuel t) u) :
    Yields (fun fuel => call fuel >>= next fuel) u := by
  obtain ⟨a, ha⟩ := h
  obtain ⟨b, hb⟩ := hnext
  refine ⟨max a b, fun fuel hfuel => ?_⟩
  show call fuel >>= next fuel = some u
  rw [ha fuel (Nat.le_trans (Nat.le_max_left a b) hfuel)]
  exact hb fuel (Nat.le_trans (Nat.le_max_right a b) hfuel)

theorem Yields.map {call : Nat → Option T} {t : T} (f : T → U) (h : Yields call t) :
    Yields (fun fuel => (call fuel).map f) (f t) := by
  obtain ⟨a, ha⟩ := h
  exact ⟨a, fun fuel hfuel => congrArg (Option.map f) (ha fuel hfuel)⟩

/-- A call that spends one unit of its fuel first. -/
theorem Yields.succ {call rest : Nat → Option T} {t : T} (h : Yields rest t)
    (hcall : ∀ fuel, call (fuel + 1) = rest fuel) : Yields call t := by
  obtain ⟨a, ha⟩ := h
  refine ⟨a + 1, fun fuel hfuel => ?_⟩
  obtain ⟨k, rfl⟩ := Nat.exists_eq_add_of_le' (Nat.le_trans (Nat.le_add_left 1 a) hfuel)
  rw [hcall k]
  exact ha k (Nat.le_of_succ_le_succ hfuel)

theorem yields_of_ends {pass : S → S × Bool} {s s' : S} (h : DoWhile.Ends pass s s') :
    Yields (fun fuel => DoWhile.run pass fuel s) s' := h

/-- A loop whose turn says whether it goes on. -/
def loop (turn : Nat → S → Option (S × Bool)) : Nat → S → Option S
  | 0, _ => none
  | fuel + 1, s => turn fuel s >>= fun r => if r.2 then loop turn fuel r.1 else some r.1

/-- **Total correctness.** -/
theorem loop_yields (turn : Nat → S → Option (S × Bool)) (Inv Post : S → Prop)
    (variant : S → Nat)
    (hturn : ∀ s, Inv s → ∃ r, Yields (fun fuel => turn fuel s) r ∧
      (r.2 = true → Inv r.1 ∧ variant r.1 < variant s) ∧ (r.2 = false → Post r.1))
    {s : S} (hs : Inv s) : ∃ t, Yields (fun fuel => loop turn fuel s) t ∧ Post t := by
  induction hv : variant s using Nat.strongRecOn generalizing s with
  | ind v ih =>
    obtain ⟨⟨s', goes⟩, hyields, hnext, hlast⟩ := hturn s hs
    have hloop {t : S} (ht : Yields (fun fuel => if goes then loop turn fuel s' else some s') t) :
        Yields (fun fuel => loop turn fuel s) t := by
      have hbind : Yields (fun fuel => turn fuel s >>= fun r =>
          if r.2 then loop turn fuel r.1 else some r.1) t := hyields.bind ht
      exact hbind.succ fun _ => rfl
    cases goes with
    | false => exact ⟨s', hloop (yields_some s'), hlast rfl⟩
    | true =>
      obtain ⟨hinv, hless⟩ := hnext rfl
      obtain ⟨t, ht, hpost⟩ := ih _ (hv ▸ hless) hinv rfl
      exact ⟨t, hloop ht, hpost⟩

end Rtdk.Fuel
