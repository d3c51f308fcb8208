import Mathlib.Algebra.Ring.Parity
import Mathlib.Data.List.DropRight

/-! Words with an escape letter, which takes its meaning from the letter behind it.

An escape can be escaped. What counts are the letters that are neither
(`letters`), and whether the word stops behind an escape (`pending`). That is so just
if it ends in an odd number of escapes (`pending_iff_odd`). -/

namespace Rtdk.Escapes

variable {α : Type} [DecidableEq α] (e : α)

/-- Whether the letter behind `c` is escaped, when `c` itself is or not. -/
def escapes (escaped : Bool) (c : α) : Bool := !escaped && c == e

/-- The word stops behind an escape. -/
def pending (w : List α) : Bool := w.foldl (escapes e) false

/-- The letters that are neither escapes nor escaped. -/
def lettersFrom (escaped : Bool) : List α → List α
  | [] => []
  | c :: w =>
    if !escaped && c != e then c :: lettersFrom (escapes e escaped c) w
    else lettersFrom (escapes e escaped c) w

def letters (w : List α) : List α := lettersFrom e false w

theorem escapes_of_ne {c : α} (hc : c ≠ e) (escaped : Bool) : escapes e escaped c = false := by
  rw [escapes, beq_false_of_ne hc, Bool.and_false]

theorem escapes_self (escaped : Bool) : escapes e escaped e = !escaped := by
  rw [escapes, beq_self_eq_true, Bool.and_true]

@[simp] theorem pending_nil : pending e [] = false := rfl

@[simp] theorem pending_last : pending e [e] = true := escapes_self e false

@[simp] theorem pending_pair (c : α) (w : List α) : pending e (e :: c :: w) = pending e w := by
  rw [pending, List.foldl_cons, List.foldl_cons, escapes_self]
  rfl

theorem pending_other {c : α} (hc : c ≠ e) (w : List α) : pending e (c :: w) = pending e w := by
  rw [pending, List.foldl_cons, escapes_of_ne e hc]
  rfl

@[simp] theorem letters_nil : letters e [] = [] := rfl

@[simp] theorem letters_last : letters e [e] = [] := by
  rw [letters, lettersFrom, bne_self_eq_false, Bool.and_false, if_neg Bool.false_ne_true]
  rfl

@[simp] theorem letters_pair (c : α) (w : List α) : letters e (e :: c :: w) = letters e w := by
  rw [letters, lettersFrom, bne_self_eq_false, Bool.and_false, if_neg Bool.false_ne_true,
    escapes_self]
  rfl

theorem letters_other {c : α} (hc : c ≠ e) (w : List α) :
    letters e (c :: w) = c :: letters e w := by
  rw [letters, lettersFrom, escapes_of_ne e hc, if_pos (by simpa using hc)]
  rfl

/-- Induction as a reader goes through a word: an escape takes the next letter along. -/
@[elab_as_elim]
theorem induction_on {motive : List α → Prop} (w : List α) (nil : motive []) (last : motive [e])
    (pair : ∀ c w, motive w → motive (e :: c :: w))
    (other : ∀ c w, c ≠ e → motive w → motive (c :: w)) : motive w := by
  have hboth : motive w ∧ motive (e :: w) := by
    induction w with
    | nil => exact ⟨nil, last⟩
    | cons c w ih =>
      refine ⟨?_, pair c w ih.1⟩
      by_cases hc : c = e
      · rw [hc]
        exact ih.2
      · exact other c w hc ih.1
  exact hboth.1

theorem pending_concat (w : List α) (c : α) :
    pending e (w ++ [c]) = (!pending e w && c == e) :=
  List.foldl_concat _ _ _ _

theorem pending_iff_odd (w : List α) :
    pending e w = true ↔ Odd (w.rtakeWhile (· == e)).length := by
  induction w using List.reverseRecOn with
  | nil =>
    rw [List.rtakeWhile_nil]
    exact iff_of_false Bool.false_ne_true Nat.not_odd_zero
  | append_singleton w c ih =>
    rw [pending_concat]
    by_cases hc : c = e
    · have hlength : ((w ++ [c]).rtakeWhile (· == e)).length =
          (w.rtakeWhile (· == e)).length + 1 := by
        have hself : (c == e) = true := beq_iff_eq.mpr hc
        rw [List.rtakeWhile_concat_pos (· == e) w c hself, List.length_append,
          List.length_singleton]
      rw [hlength, Nat.odd_add_one, ← ih, hc, beq_self_eq_true, Bool.and_true, Bool.not_eq_true',
        Bool.not_eq_true]
    · have hother : ¬ (c == e) = true := fun h => hc (beq_iff_eq.mp h)
      rw [List.rtakeWhile_concat_neg (· == e) w c hother, beq_false_of_ne hc, Bool.and_false]
      exact iff_of_false Bool.false_ne_true Nat.not_odd_zero

/-- Other letters in front of a word make no difference. -/
theorem pending_append_of_forall {u : List α} (hu : ∀ c ∈ u, c ≠ e) (w : List α) :
    pending e (u ++ w) = pending e w := by
  induction u with
  | nil => rfl
  | cons c u ih =>
    rw [List.forall_mem_cons] at hu
    rw [List.cons_append, pending_other e hu.1, ih hu.2]

theorem getLast?_of_pending {w : List α} (h : pending e w = true) : w.getLast? = some e := by
  cases w using List.reverseRecOn with
  | nil => cases h
  | append_singleton w c =>
    rw [pending_concat, Bool.and_eq_true, beq_iff_eq] at h
    rw [List.getLast?_concat, h.2]

end Rtdk.Escapes
