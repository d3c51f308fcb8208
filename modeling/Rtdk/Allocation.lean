import Mathlib.Data.List.Basic
import Mathlib.Logic.Function.Basic

/-! A heap whose blocks are allocated for owners. An owner holds at most one block
at a time, through its pointer; its account is the contents of the blocks it has
given back, in order, and of the one it holds. While every pointer is the one its
owner was given, no block is freed twice, none is used after it was freed, and the
blocks in use are those the pointers lead to.

A block is one allocation: it has a number of its own, also where an allocator gives
the memory of a freed block out again, and keeps what it held when it was freed. -/

namespace Rtdk.Allocation
open Function

/-- `content` is what the block holds or, once it is freed, what it held then. -/
structure Block (ω β : Type) where
  owner : ω
  content : β
  freed : Bool
  deriving DecidableEq, Repr

abbrev Heap (ω β : Type) := List (Block ω β)

section
variable {ω β : Type}

/-- A new block: its number is that of the blocks before it. -/
def alloc (h : Heap ω β) (o : ω) (x : β) : Heap ω β := h ++ [⟨o, x, false⟩]

def read (h : Heap ω β) (p : Nat) : Option β :=
  match h[p]? with
  | none => none
  | some b => if b.freed then none else some b.content

/-- Change a block that is in use. -/
def change (h : Heap ω β) (p : Nat) (g : Block ω β → Block ω β) : Option (Heap ω β) :=
  match h[p]? with
  | none => none
  | some b => if b.freed then none else some (h.set p (g b))

def write (h : Heap ω β) (p : Nat) (x : β) : Option (Heap ω β) :=
  change h p fun b => { b with content := x }

/-- `free`: nothing happens to a null pointer. -/
def free (h : Heap ω β) : Option Nat → Option (Heap ω β)
  | none => some h
  | some p => change h p fun b => { b with freed := true }

/-! ## Accounts -/

structure Account (β : Type) where
  past : List β
  now : Option β
  deriving DecidableEq, Repr

/-- A new block is held. -/
def Account.open (a : Account β) (x : β) : Account β := { a with now := some x }

/-- The block that is held is given back. -/
def Account.close (a : Account β) : Account β := ⟨a.past ++ a.now.toList, none⟩

def Account.entries (a : Account β) : List (β × Bool) :=
  a.past.map (fun x => (x, true)) ++ a.now.toList.map fun x => (x, false)

theorem Account.live_mem {a : Account β} {x : β} : (x, false) ∈ a.entries ↔ a.now = some x := by
  simp [Account.entries]

/-- The only entry in use is the last one. -/
theorem split_live {past : List β} {x x' : β} {front back : List (β × Bool)}
    (heq : front ++ (x', false) :: back = past.map (fun x => (x, true)) ++ [(x, false)]) :
    front = past.map (fun x => (x, true)) ∧ back = [] := by
  induction past generalizing front with
  | nil =>
    cases front with
    | nil => exact ⟨rfl, (List.cons.inj heq).2⟩
    | cons e front => simp at heq
  | cons y past ih =>
    cases front with
    | nil => simp at heq
    | cons e front =>
      obtain ⟨he, htail⟩ := List.cons.inj heq
      obtain ⟨hfront, hback⟩ := ih htail
      exact ⟨by rw [hfront, he, List.map_cons], hback⟩

theorem split_block {h : Heap ω β} {i : Nat} {b : Block ω β} (hb : h[i]? = some b) :
    h = h.take i ++ b :: h.drop (i + 1) ∧
      ∀ b', h.set i b' = h.take i ++ b' :: h.drop (i + 1) := by
  obtain ⟨hlt, rfl⟩ := List.getElem?_eq_some_iff.mp hb
  refine ⟨?_, fun b' => List.set_eq_take_append_cons_drop.trans (if_pos hlt)⟩
  rw [List.getElem_cons_drop, List.take_append_drop]

theorem getElem?_set_live {h : Heap ω β} {b : Block ω β} {o' : ω} {i j : Nat} (hne : j ≠ i) {x : β} :
    (h.set i b)[j]? = some ⟨o', x, false⟩ ↔ h[j]? = some ⟨o', x, false⟩ := by
  rw [List.getElem?_set_ne (Ne.symm hne)]

end

section
variable {ω β : Type} [DecidableEq ω] {h : Heap ω β} {ptr : ω → Option Nat} {o : ω} {i : Nat}

/-- The blocks of an owner, in the order in which they were allocated. -/
def entries (h : Heap ω β) (o : ω) : List (β × Bool) :=
  (h.filter fun b => decide (b.owner = o)).map fun b => (b.content, b.freed)

structure Accounts (h : Heap ω β) (ptr : ω → Option Nat) (accounts : ω → Account β) : Prop where
  holds : ∀ o i, ptr o = some i ↔ ∃ x, h[i]? = some ⟨o, x, false⟩
  entries_eq : ∀ o, entries h o = (accounts o).entries

variable {accounts : ω → Account β}

theorem mem_entries {x : β} {freed : Bool} :
    (x, freed) ∈ entries h o ↔ ⟨o, x, freed⟩ ∈ h := by
  unfold entries
  constructor
  · intro hx
    obtain ⟨⟨owner, content, freed'⟩, hb, heq⟩ := List.mem_map.mp hx
    obtain ⟨hmem, howner⟩ := List.mem_filter.mp hb
    cases heq
    cases of_decide_eq_true howner
    exact hmem
  · intro hb
    exact List.mem_map.mpr ⟨_, List.mem_filter.mpr ⟨hb, decide_eq_true rfl⟩, rfl⟩

/-- The block a pointer leads to. -/
theorem Accounts.block (hacc : Accounts h ptr accounts) (hp : ptr o = some i) :
    ∃ x, h[i]? = some ⟨o, x, false⟩ ∧ (accounts o).now = some x := by
  obtain ⟨x, hx⟩ := (hacc.holds o i).mp hp
  refine ⟨x, hx, ?_⟩
  rw [← Account.live_mem, ← hacc.entries_eq, mem_entries]
  exact List.mem_of_getElem? hx

theorem Accounts.now_none (hacc : Accounts h ptr accounts) (hp : ptr o = none) :
    (accounts o).now = none := by
  cases hnow : (accounts o).now with
  | none => rfl
  | some x =>
    rw [← Account.live_mem, ← hacc.entries_eq, mem_entries] at hnow
    obtain ⟨i, hi⟩ := List.getElem?_of_mem hnow
    rw [(hacc.holds o i).mpr ⟨x, hi⟩] at hp
    cases hp

theorem Accounts.ptr_none_iff (hacc : Accounts h ptr accounts) (o : ω) :
    ptr o = none ↔ (accounts o).now = none := by
  constructor
  · exact hacc.now_none
  · intro hnow
    cases hp : ptr o with
    | none => rfl
    | some i =>
      obtain ⟨x, -, hx⟩ := hacc.block hp
      rw [hnow] at hx
      cases hx

/-- What is read through an owner's pointer. -/
theorem Accounts.read_eq (hacc : Accounts h ptr accounts) (o : ω) :
    (ptr o).bind (read h) = (accounts o).now := by
  cases hp : ptr o with
  | none => rw [hacc.now_none hp, Option.bind_none]
  | some i =>
    obtain ⟨x, hx, hnow⟩ := hacc.block hp
    rw [hnow, Option.bind_some, read, hx]
    rfl

theorem accounts_nil : Accounts ([] : Heap ω β) (fun _ => none) fun _ => ⟨[], none⟩ where
  holds o i := by simp
  entries_eq o := rfl

/-- Everything an owner without a pointer had is freed. -/
theorem Accounts.all_freed (hacc : Accounts h ptr accounts) (hptr : ∀ o, ptr o = none) :
    ∀ b ∈ h, b.freed = true := by
  rintro ⟨o, x, freed⟩ hb
  cases freed with
  | true => rfl
  | false =>
    obtain ⟨i, hi⟩ := List.getElem?_of_mem hb
    have hp := (hacc.holds o i).mpr ⟨x, hi⟩
    rw [hptr o] at hp
    cases hp

/-! ## Allocating -/

theorem Accounts.alloc (hacc : Accounts h ptr accounts) (hp : ptr o = none) (x : β) :
    Accounts (alloc h o x) (update ptr o (some h.length))
      (update accounts o ((accounts o).open x)) where
  holds o' i := by
    unfold Allocation.alloc
    rw [List.getElem?_append]
    by_cases ho : o' = o
    · subst o'
      rw [update_self]
      constructor
      · intro hi
        cases hi
        exact ⟨x, by rw [if_neg (Nat.lt_irrefl _), Nat.sub_self]; rfl⟩
      · rintro ⟨y, hy⟩
        split at hy
        · rw [(hacc.holds o i).mpr ⟨y, hy⟩] at hp
          cases hp
        · have hlt := (List.getElem?_eq_some_iff.mp hy).1
          rw [List.length_singleton] at hlt
          exact congrArg some (by omega)
    · rw [update_of_ne ho, hacc.holds o' i]
      split
      · rfl
      · rename_i hge
        rw [List.getElem?_eq_none (Nat.le_of_not_lt hge)]
        constructor
        · rintro ⟨y, hy⟩
          cases hy
        · rintro ⟨y, hy⟩
          have howner := congrArg Block.owner (List.mem_singleton.mp (List.mem_of_getElem? hy))
          exact absurd howner ho
  entries_eq o' := by
    unfold Allocation.alloc entries
    rw [List.filter_append, List.map_append]
    have hrest := hacc.entries_eq o'
    unfold entries at hrest
    by_cases ho : o' = o
    · subst o'
      rw [update_self, hrest, Account.entries, hacc.now_none hp]
      simp [Account.open, Account.entries]
    · rw [update_of_ne ho, ← hrest, List.filter_cons_of_neg (by simpa using fun h => ho h.symm)]
      simp

/-! ## Changing the block that is held -/

theorem entries_append (h h' : Heap ω β) (o : ω) :
    entries (h ++ h') o = entries h o ++ entries h' o := by
  rw [entries, List.filter_append, List.map_append]
  rfl

theorem entries_cons_self (x : β) (freed : Bool) (h : Heap ω β) :
    entries (⟨o, x, freed⟩ :: h) o = (x, freed) :: entries h o := by
  rw [entries, List.filter_cons_of_pos (by simp)]
  rfl

theorem entries_cons_other {b : Block ω β} (hb : b.owner ≠ o) (h : Heap ω β) :
    entries (b :: h) o = entries h o := by
  rw [entries, List.filter_cons_of_neg (by simpa using hb)]
  rfl

/-- The block an owner holds, replaced: its account ends with the new one. -/
theorem Accounts.entries_set (hacc : Accounts h ptr accounts) {x x' : β} {freed : Bool}
    (hx : h[i]? = some ⟨o, x, false⟩) (hnow : (accounts o).now = some x) (o' : ω) :
    entries (h.set i ⟨o, x', freed⟩) o' =
      if o' = o then (accounts o).past.map (fun x => (x, true)) ++ [(x', freed)]
      else (accounts o').entries := by
  obtain ⟨hsplit, hset⟩ := split_block hx
  have hold := hacc.entries_eq o'
  rw [hsplit, entries_append] at hold
  rw [hset, entries_append]
  by_cases ho : o' = o
  · subst o'
    rw [if_pos rfl, entries_cons_self]
    rw [entries_cons_self, Account.entries, hnow] at hold
    obtain ⟨hfront, hback⟩ := split_live hold
    rw [hfront, hback]
  · rw [if_neg ho, ← hold, entries_cons_other (Ne.symm ho), entries_cons_other (Ne.symm ho)]

theorem Accounts.holder {o' : ω} {j : Nat} (hacc : Accounts h ptr accounts) (hp : ptr o = some i)
    (hp' : ptr o' = some j) : j = i ↔ o' = o := by
  constructor
  · rintro rfl
    obtain ⟨x, hx, -⟩ := hacc.block hp
    obtain ⟨y, hy, -⟩ := hacc.block hp'
    rw [hx] at hy
    cases hy
    rfl
  · rintro rfl
    rw [hp] at hp'
    cases hp'
    rfl

theorem Accounts.write (hacc : Accounts h ptr accounts) (hp : ptr o = some i) (y : β) :
    ∃ h', write h i y = some h' ∧
      Accounts h' ptr (update accounts o ((accounts o).open y)) := by
  obtain ⟨x, hx, hnow⟩ := hacc.block hp
  refine ⟨h.set i ⟨o, y, false⟩, ?_, fun o' j => ?_, fun o' => ?_⟩
  · rw [Allocation.write, change, hx]
    rfl
  · by_cases hj : j = i
    · subst j
      rw [List.getElem?_set_self (List.getElem?_eq_some_iff.mp hx).1]
      constructor
      · intro hp'
        obtain rfl := (hacc.holder hp hp').mp rfl
        exact ⟨y, rfl⟩
      · rintro ⟨z, hz⟩
        cases hz
        exact hp
    · simp only [getElem?_set_live hj]
      exact hacc.holds o' j
  · rw [hacc.entries_set hx hnow]
    by_cases ho : o' = o
    · subst o'
      rw [if_pos rfl, update_self]
      rfl
    · rw [if_neg ho, update_of_ne ho]

/-- `free(p); p = NULL;` -/
theorem Accounts.release (hacc : Accounts h ptr accounts) (o : ω) :
    ∃ h', free h (ptr o) = some h' ∧
      Accounts h' (update ptr o none) (update accounts o (accounts o).close) := by
  cases hp : ptr o with
  | none =>
    refine ⟨h, rfl, ?_⟩
    have hclose : (accounts o).close = accounts o := by
      rw [Account.close, hacc.now_none hp]
      cases ha : accounts o with
      | mk past now =>
        have hnow := hacc.now_none hp
        rw [ha] at hnow
        cases hnow
        rw [Option.toList_none, List.append_nil]
    rw [hclose, update_eq_self, ← hp, update_eq_self]
    exact hacc
  | some i =>
    obtain ⟨x, hx, hnow⟩ := hacc.block hp
    refine ⟨h.set i ⟨o, x, true⟩, ?_, fun o' j => ?_, fun o' => ?_⟩
    · rw [free, change, hx]
      rfl
    · by_cases hj : j = i
      · subst j
        rw [List.getElem?_set_self (List.getElem?_eq_some_iff.mp hx).1]
        constructor
        · intro hp'
          by_cases ho : o' = o
          · rw [ho, update_self] at hp'
            cases hp'
          · rw [update_of_ne ho] at hp'
            exact absurd ((hacc.holder hp hp').mp rfl) ho
        · rintro ⟨z, hz⟩
          cases hz
      · simp only [getElem?_set_live hj]
        by_cases ho : o' = o
        · subst o'
          rw [update_self, ← hacc.holds o j]
          constructor
          · intro hnone
            cases hnone
          · intro hp'
            rw [hp] at hp'
            cases hp'
            exact absurd rfl hj
        · rw [update_of_ne ho]
          exact hacc.holds o' j
    · rw [hacc.entries_set hx hnow]
      by_cases ho : o' = o
      · subst o'
        rw [if_pos rfl, update_self, Account.close, hnow, Account.entries]
        simp
      · rw [if_neg ho, update_of_ne ho]

end

end Rtdk.Allocation
