import Mathlib.Data.List.Induction

/-! Streams of numbered items with gaps.

The items of a stream have increasing numbers, but not every number occurs. A
receiver that always expects the number after the last one it saw finds exactly
those items in their place that have number 0 or follow their predecessor
(`follows_snoc`), and `filter_follows_snoc` builds the list of these items one
item at a time. -/

namespace Rtdk.Numbered

variable {α β : Type} (num : α → Nat)

def Increasing (xs : List α) : Prop := xs.Pairwise fun a b => num a < num b

/-- The number expected after the stream. -/
def expected (xs : List α) : Nat := (xs.getLast?.map fun x => num x + 1).getD 0

/-- The item has number 0, or its predecessor is in the stream. -/
def follows (xs : List α) (x : α) : Bool :=
  decide (num x = 0) || xs.any fun y => decide (num y + 1 = num x)

theorem expected_snoc (xs : List α) (x : α) : expected num (xs ++ [x]) = num x + 1 := by
  simp [expected]

variable {num}

theorem follows_iff {xs : List α} {x : α} :
    follows num xs x = true ↔ num x = 0 ∨ ∃ y ∈ xs, num y + 1 = num x := by
  simp [follows]

theorem Increasing.sublist {xs ys : List α} (h : Increasing num ys) (hs : xs.Sublist ys) :
    Increasing num xs :=
  List.Pairwise.sublist hs h

/-- Items that are numbered by their position. -/
theorem map_of_position {xs : List α} (h : ∀ k x, xs[k]? = some x → num x = k) :
    xs.map num = List.range xs.length := by
  apply List.ext_getElem (by simp)
  intro i hi _
  rw [List.length_map] at hi
  rw [List.getElem_map, List.getElem_range, h i _ (List.getElem?_eq_getElem hi)]

theorem increasing_of_position {xs : List α} (h : ∀ k x, xs[k]? = some x → num x = k) :
    Increasing num xs := by
  have hrange : (xs.map num).Pairwise (· < ·) := by
    rw [map_of_position h]
    exact List.pairwise_lt_range
  exact List.pairwise_map.mp hrange

theorem map_eq_of_forall₂ {num' : β → Nat} {xs : List α} {ys : List β}
    (h : List.Forall₂ (fun x y => num' y = num x) xs ys) : ys.map num' = xs.map num := by
  induction h with
  | nil => rfl
  | cons hxy _ ih => rw [List.map_cons, List.map_cons, hxy, ih]

/-- Two streams with the same numbers increase alike. -/
theorem Increasing.transfer {num' : β → Nat} {xs : List α} {ys : List β}
    (h : ys.map num' = xs.map num) (hx : Increasing num xs) : Increasing num' ys := by
  have hp : (xs.map num).Pairwise (· < ·) := List.pairwise_map.mpr hx
  rw [← h] at hp
  exact List.pairwise_map.mp hp

theorem Increasing.lt_of_snoc {xs : List α} {x : α} (h : Increasing num (xs ++ [x])) {y : α}
    (hy : y ∈ xs) : num y < num x :=
  (List.pairwise_append.mp h).2.2 y hy x List.mem_cons_self

theorem Increasing.of_snoc {xs : List α} {x : α} (h : Increasing num (xs ++ [x])) :
    Increasing num xs :=
  h.sublist (List.sublist_append_left _ _)

/-- Nothing but the last item of an increasing stream can be the predecessor of the next. -/
theorem lt_expected {xs : List α} (h : Increasing num xs) {y : α} (hy : y ∈ xs) :
    num y < expected num xs := by
  induction xs using List.reverseRecOn with
  | nil => cases hy
  | append_singleton xs z =>
    rw [expected_snoc]
    rcases List.mem_append.mp hy with hy | hy
    · have := h.lt_of_snoc hy
      omega
    · rw [List.mem_singleton.mp hy]
      exact Nat.lt_succ_self _

theorem exists_pred {xs : List α} (h : expected num xs ≠ 0) :
    ∃ y ∈ xs, num y + 1 = expected num xs := by
  induction xs using List.reverseRecOn with
  | nil => exact absurd rfl h
  | append_singleton xs z =>
    exact ⟨z, by simp, (expected_snoc num xs z).symm⟩

theorem expected_le {xs : List α} {x : α} (h : Increasing num (xs ++ [x])) :
    expected num xs ≤ num x := by
  by_cases h0 : expected num xs = 0
  · omega
  · obtain ⟨y, hy, hye⟩ := exists_pred h0
    have := h.lt_of_snoc hy
    omega

/-- **The next item.**  It follows its predecessor exactly if it is the expected one. -/
theorem follows_snoc {xs : List α} {x : α} (h : Increasing num (xs ++ [x])) :
    follows num (xs ++ [x]) x = true ↔ num x = expected num xs := by
  have hlt {y : α} (hy : y ∈ xs) := h.lt_of_snoc hy
  rw [follows_iff]
  constructor
  · rintro (h0 | ⟨y, hy, hyx⟩)
    · by_contra hne
      obtain ⟨y, hy, -⟩ := @exists_pred _ num xs (by omega)
      have := hlt hy
      omega
    · rcases List.mem_append.mp hy with hy | hy
      · have hle := lt_expected h.of_snoc hy
        obtain ⟨z, hz, hze⟩ := @exists_pred _ num xs (by omega)
        have := hlt hz
        omega
      · rw [List.mem_singleton.mp hy] at hyx
        omega
  · intro heq
    by_cases h0 : expected num xs = 0
    · exact Or.inl (heq.trans h0)
    · obtain ⟨y, hy, hye⟩ := exists_pred h0
      exact Or.inr ⟨y, List.mem_append_left _ hy, hye.trans heq.symm⟩

/-- Later items do not change what follows its predecessor. -/
theorem follows_of_mem {xs : List α} {x : α} (h : Increasing num (xs ++ [x])) {y : α}
    (hy : y ∈ xs) : follows num (xs ++ [x]) y = follows num xs y := by
  have hlt := h.lt_of_snoc hy
  have hne : decide (num x + 1 = num y) = false := by
    apply decide_eq_false
    omega
  simp only [follows, List.any_append, List.any_cons, List.any_nil, hne, Bool.or_false]

theorem filter_follows_snoc {xs : List α} {x : α} (h : Increasing num (xs ++ [x])) :
    (xs ++ [x]).filter (follows num (xs ++ [x])) =
      xs.filter (follows num xs) ++ if num x = expected num xs then [x] else [] := by
  rw [List.filter_append]
  congr 1
  · apply List.filter_congr
    intro y hy
    exact follows_of_mem h hy
  · by_cases hx : num x = expected num xs
    · rw [if_pos hx, List.filter_cons_of_pos ((follows_snoc h).mpr hx), List.filter_nil]
    · rw [if_neg hx, List.filter_cons_of_neg (mt (follows_snoc h).mp hx), List.filter_nil]

/-- Where nothing is missing, all items follow their predecessors. -/
theorem filter_follows_range {xs : List α} (h : xs.map num = List.range xs.length) :
    xs.filter (follows num xs) = xs := by
  apply List.filter_eq_self.mpr
  intro x hx
  have hlt : num x < xs.length := by
    rw [← List.mem_range, ← h]
    exact List.mem_map_of_mem hx
  rw [follows_iff]
  cases hn : num x with
  | zero => exact Or.inl rfl
  | succ k =>
    have hk : k ∈ xs.map num := by
      rw [h, List.mem_range]
      omega
    obtain ⟨y, hy, rfl⟩ := List.mem_map.mp hk
    exact Or.inr ⟨y, hy, rfl⟩

/-- The items that do not follow their predecessor, counted one by one. -/
theorem countP_follows_snoc {xs : List α} {x : α} (h : Increasing num (xs ++ [x])) :
    (xs ++ [x]).countP (fun y => !follows num (xs ++ [x]) y) =
      xs.countP (fun y => !follows num xs y) + if num x = expected num xs then 0 else 1 := by
  rw [List.countP_append]
  congr 1
  · apply List.countP_congr
    intro y hy
    rw [follows_of_mem h hy]
  · by_cases hx : num x = expected num xs
    · rw [if_pos hx, List.countP_singleton, (follows_snoc h).mpr hx]
      rfl
    · have hf : follows num (xs ++ [x]) x = false := by
        simpa using mt (follows_snoc h).mp hx
      rw [if_neg hx, List.countP_singleton, hf]
      rfl

end Rtdk.Numbered
