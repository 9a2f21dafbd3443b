import Mathlib.Order.Bounds.Basic
import Mathlib.Data.Finset.Max

/-!
# Allocating the least free name

Names come from a fixed set of eligible ones, and some of them are held. The
allocator owes its caller the least free name, or the answer that there is none.
Exactly one answer is right for a set of held names.

An implementation keeps the released names in a pool and issues the others in
ascending order. As long as the pool lies below what was never issued, the least
name of the pool is the least free one; with an empty pool it is the first name
never issued.
-/

namespace LeastFree

universe u
variable {α : Type u} [LinearOrder α]

/-- The eligible names that nobody holds. -/
def free (eligible : Set α) (held : Finset α) : Set α :=
  { name | name ∈ eligible ∧ name ∉ held }

/-- The answer an allocator owes while `held` are the names in use. -/
def Answers (eligible : Set α) (held : Finset α) : Option α → Prop
  | some name => IsLeast (free eligible held) name
  | none => free eligible held = ∅

variable {eligible : Set α} {held : Finset α}

/-- Only one answer is right. -/
theorem Answers.unique {first second : Option α} (one : Answers eligible held first)
    (other : Answers eligible held second) : first = second := by
  cases first with
  | none =>
    cases second with
    | none => rfl
    | some name => exact absurd (one ▸ other.1 : name ∈ (∅ : Set α)) (Set.notMem_empty name)
  | some name =>
    cases second with
    | none => exact absurd (other ▸ one.1 : name ∈ (∅ : Set α)) (Set.notMem_empty name)
    | some again => exact congrArg some (IsLeast.unique one other)

/-- An allocator that owes nothing has no free name, and the other way round. -/
theorem Answers.none_iff {answer : Option α} (owed : Answers eligible held answer) :
    answer = none ↔ ∀ name ∈ eligible, name ∈ held := by
  constructor
  · rintro rfl name belongs
    by_contra unheld
    have impossible : name ∈ (∅ : Set α) := owed ▸ (⟨belongs, unheld⟩ : name ∈ free eligible held)
    exact impossible
  · intro full
    have empty : Answers eligible held none := by
      apply Set.eq_empty_iff_forall_notMem.mpr
      rintro name ⟨belongs, unheld⟩
      exact unheld (full name belongs)
    exact owed.unique empty

/-- The least name of the pool is the answer when every other free name lies
above the pool. -/
theorem answers_pool {pool : Finset α} {least : α} (minimum : pool.min = some least)
    (released : ∀ name ∈ pool, name ∈ free eligible held)
    (above : ∀ name ∈ free eligible held, name ∈ pool ∨ least ≤ name) :
    Answers eligible held (some least) := by
  constructor
  · exact released least (Finset.mem_of_min minimum)
  · intro name belongs
    rcases above name belongs with pooled | later
    · exact Finset.min_le_of_eq pooled minimum
    · exact later

end LeastFree
