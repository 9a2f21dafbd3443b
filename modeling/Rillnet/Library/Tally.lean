import Mathlib.Data.List.AList
import Mathlib.Algebra.BigOperators.Group.List.Basic
import Mathlib.Algebra.GroupWithZero.Nat

/-!
# Totals over finite maps

Every value of a finite map has a weight, and the total is the sum of the weights. Adding,
replacing or removing one value changes the total by the weights of that value only. So does
a write in a list of objects.
-/

namespace Tally

universe u v
variable {κ : Type u} [DecidableEq κ] {α : Type v} (weight : α → Nat)
variable (map : AList fun _ : κ => α)

/-- The weights of all values of the map, added up. -/
def total : Nat := (map.entries.map fun entry => weight entry.2).sum

variable {key : κ} {value : α}

/-- A removed value takes its weight with it. -/
theorem total_erase (found : map.lookup key = some value) :
    total weight (map.erase key) + weight value = total weight map := by
  have member : (⟨key, value⟩ : Sigma fun _ : κ => α) ∈ map.entries := AList.mem_lookup_iff.mp found
  obtain ⟨other, front, back, -, entries, erased⟩ :=
    List.exists_of_kerase (List.mem_keys_of_mem member)
  have same : value = other := by
    refine map.nodupKeys.eq_of_mk_mem member ?_
    rw [entries]
    simp
  subst same
  change ((List.kerase key map.entries).map fun entry => weight entry.2).sum + weight value = _
  rw [erased, total, entries]
  simp only [List.map_append, List.map_cons, List.sum_append, List.sum_cons]
  omega

/-- A new value brings its weight. -/
theorem total_insert (absent : map.lookup key = none) (new : α) :
    total weight (map.insert key new) = total weight map + weight new := by
  unfold total
  rw [AList.entries_insert_of_notMem (AList.lookup_eq_none.mp absent), List.map_cons, List.sum_cons]
  exact Nat.add_comm _ _

/-- A value put in another's place has the weights exchanged. -/
theorem total_replace {old : α} (found : map.lookup key = some old) (new : α) :
    total weight (map.insert key new) + weight old = total weight map + weight new := by
  have erased := total_erase weight map found
  have inserted : total weight (map.insert key new) = total weight (map.erase key) + weight new := by
    unfold total
    rw [AList.entries_insert, List.map_cons, List.sum_cons]
    exact Nat.add_comm _ _
  omega

/-- A write in a list has the weights exchanged. -/
theorem sum_set {heap : List α} {index : Nat} {old : α} (found : heap[index]? = some old) (new : α) :
    ((heap.set index new).map weight).sum + weight old = (heap.map weight).sum + weight new := by
  obtain ⟨bound, rfl⟩ := List.getElem?_eq_some_iff.mp found
  have whole := congrArg (fun heap : List α => (heap.map weight).sum)
    (List.take_append_drop index heap).symm
  rw [List.drop_eq_getElem_cons bound] at whole
  rw [List.set_eq_take_append_cons_drop, if_pos bound]
  simp only [List.map_append, List.map_cons, List.sum_append, List.sum_cons] at whole ⊢
  omega

end Tally
