import Mathlib.Data.List.Basic

/-! Handing a list over in bursts.

A taker is offered something of what is left of a list, and answers how much of it
it takes off the front. `Drains` is a run of such calls, each answered by the taker
in the state the last one left it in: nothing is taken that it did not say it takes.
`Batches` hands over one list after another. -/

namespace Rtdk.Handover

/-- Showing the taker everything that is left. -/
def offerAll {M : Type} (left : List M) : List M := left

variable {D M : Type} {burst : D → List M → Nat × D} {offer : List M → List M}

/-- Some calls that hand over `items`, `offer` being what is shown of what is left:
their number, what the taker took, what is left, and the taker. -/
inductive Drains (burst : D → List M → Nat × D) (offer : List M → List M) (d : D)
    (items : List M) : Nat → List M → List M → D → Prop
  | start : Drains burst offer d items 0 [] items d
  | call {calls : Nat} {taken left : List M} {d' : D}
      (before : Drains burst offer d items calls taken left d') :
      Drains burst offer d items (calls + 1) (taken ++ left.take (burst d' (offer left)).1)
        (left.drop (burst d' (offer left)).1) (burst d' (offer left)).2

/-- Nothing is lost, and the order is kept. -/
theorem Drains.parts {d d' : D} {items taken left : List M} {calls : Nat}
    (h : Drains burst offer d items calls taken left d') : taken ++ left = items := by
  induction h with
  | start => rfl
  | call before ih => rw [List.append_assoc, List.take_append_drop, ih]

/-- A call in front of the others. -/
theorem Drains.first {d d' : D} {items taken left : List M} {calls : Nat}
    (h : Drains burst offer (burst d (offer items)).2 (items.drop (burst d (offer items)).1)
      calls taken left d') :
    Drains burst offer d items (calls + 1) (items.take (burst d (offer items)).1 ++ taken)
      left d' := by
  induction h with
  | start =>
    have hcall : Drains burst offer d items (0 + 1) ([] ++ items.take (burst d (offer items)).1)
        (items.drop (burst d (offer items)).1) (burst d (offer items)).2 := .call .start
    rw [List.append_nil]
    exact hcall
  | call before ih =>
    rw [← List.append_assoc]
    exact .call ih

/-- Lists handed over one after another: all of them in a row, what the taker took, what
was left of each when its calls ended, and the taker. -/
inductive Batches (burst : D → List M → Nat × D) (offer : List M → List M) (d : D) :
    List M → List M → List M → D → Prop
  | start : Batches burst offer d [] [] [] d
  | next {items taken left more taken' left' : List M} {d' d'' : D} {calls : Nat}
      (before : Batches burst offer d items taken left d')
      (batch : Drains burst offer d' more calls taken' left' d'') :
      Batches burst offer d (items ++ more) (taken ++ taken') (left ++ left') d''

end Rtdk.Handover
