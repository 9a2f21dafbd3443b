import Mathlib.Data.List.ReduceOption

/-!
# Lists as heaps of objects

Objects live in a list and are referred to by position. They are written, modified
and added at the end, never removed, so a reference stays good.
-/

universe u

variable {α : Type u}

/-- Reading after a write in the heap. -/
theorem getElem?_set_found {heap : List α} {index : Nat} {old : α} (new : α)
    (found : heap[index]? = some old) (other : Nat) :
    (heap.set index new)[other]? = if other = index then some new else heap[other]? := by
  have bound : index < heap.length := (List.getElem?_eq_some_iff.mp found).1
  by_cases same : other = index
  · subst same
    simp [bound]
  · rw [if_neg same, List.getElem?_set_ne (Ne.symm same)]

/-- What is read after a write is what was written, or was there before. -/
theorem getElem?_set_cases {heap : List α} {index other : Nat} {old new object : α}
    (found : heap[index]? = some old) (present : (heap.set index new)[other]? = some object) :
    other = index ∧ object = new ∨ other ≠ index ∧ heap[other]? = some object := by
  rw [getElem?_set_found new found] at present
  split at present
  · rename_i same
    exact Or.inl ⟨same, (Option.some.inj present).symm⟩
  · rename_i different
    exact Or.inr ⟨different, present⟩

/-- Writing back what is there changes nothing. -/
theorem set_found {heap : List α} {index : Nat} {old : α} (found : heap[index]? = some old) :
    heap.set index old = heap := by
  obtain ⟨bound, rfl⟩ := List.getElem?_eq_some_iff.mp found
  exact List.set_getElem_self bound

/-- Modifying an object that is there is writing its modification. -/
theorem modify_found {heap : List α} {index : Nat} {old : α} (change : α → α)
    (found : heap[index]? = some old) : heap.modify index change = heap.set index (change old) := by
  apply List.ext_getElem?
  intro other
  rw [getElem?_set_found _ found, List.getElem?_modify]
  by_cases same : other = index
  · subst same
    simp [found]
  · simp [same, Ne.symm same]

/-- Modifying an object just written is writing its modification. -/
@[simp] theorem modify_set (heap : List α) (index : Nat) (new : α) (change : α → α) :
    (heap.set index new).modify index change = heap.set index (change new) := by
  cases found : heap[index]? with
  | none =>
    have beyond : heap.length ≤ index := List.getElem?_eq_none_iff.mp found
    rw [List.set_eq_of_length_le beyond, List.set_eq_of_length_le beyond]
    apply List.ext_getElem?
    intro other
    rw [List.getElem?_modify]
    by_cases same : index = other
    · subst same
      simp [found]
    · simp [same]
  | some old =>
    have written := getElem?_set_found new found index
    rw [if_pos rfl] at written
    rw [modify_found change written, List.set_set]

/-- What is found in an initial part of a list is found in the list. -/
theorem getElem?_initial {initial whole : List α} {index : Nat} {old : α}
    (continued : initial <+: whole) (found : initial[index]? = some old) :
    whole[index]? = some old := by
  obtain ⟨rest, rfl⟩ := continued
  rw [List.getElem?_append_left (List.getElem?_eq_some_iff.mp found).1]
  exact found

/-- A new object leaves the others where they are. -/
theorem getElem?_append_found {heap : List α} {index : Nat} {old new : α}
    (found : heap[index]? = some old) : (heap ++ [new])[index]? = some old :=
  getElem?_initial (List.prefix_append heap [new]) found

/-- What is read from a heap with a new object. -/
theorem getElem?_append_singleton {heap : List α} {index : Nat} {object new : α}
    (found : (heap ++ [new])[index]? = some object) :
    heap[index]? = some object ∨ index = heap.length ∧ object = new := by
  rw [List.getElem?_append] at found
  split at found
  · exact Or.inl found
  · rename_i beyond
    have last : index - heap.length = 0 := by
      obtain ⟨bound, -⟩ := List.getElem?_eq_some_iff.mp found
      simpa using bound
    rw [last] at found
    exact Or.inr ⟨by omega, by simpa using found.symm⟩

/-- A write changes a count by what the old and the new object count for. -/
theorem countP_set_found {heap : List α} {index : Nat} {old : α} (new : α)
    (found : heap[index]? = some old) (property : α → Bool) :
    (heap.set index new).countP property + (property old).toNat =
      heap.countP property + (property new).toNat := by
  induction heap generalizing index with
  | nil => simp at found
  | cons head tail inductionHypothesis =>
    cases index with
    | zero =>
      obtain rfl : head = old := by simpa using found
      simp only [List.set_cons_zero, List.countP_cons]
      cases property head <;> cases property new <;> simp
    | succ index =>
      have rest := inductionHypothesis (by simpa using found)
      simp only [List.set_cons_succ, List.countP_cons]
      omega

/-- Counting among the objects that are there. -/
theorem count_reduceOption [DecidableEq α] (places : List (Option α)) (object : α) :
    places.reduceOption.count object = places.count (some object) := by
  induction places with
  | nil => rfl
  | cons first rest inductionHypothesis =>
    cases first with
    | none => simp [inductionHypothesis]
    | some other => simp [List.count_cons, inductionHypothesis]

/-- Of the elements with a property there is only one. -/
theorem countP_only {elements : List α} {property : α → Bool} {element : α}
    (one : elements.countP property = 1) (member : element ∈ elements)
    (holds : property element = true) (other : α → Bool) :
    (elements.countP fun candidate => other candidate && property candidate) =
      (other element).toNat := by
  rw [← List.countP_filter]
  rw [List.countP_eq_length_filter] at one
  obtain ⟨only, alone⟩ := List.length_eq_one_iff.mp one
  have listed : element ∈ elements.filter property := List.mem_filter.mpr ⟨member, holds⟩
  rw [alone] at listed ⊢
  obtain rfl := List.mem_singleton.mp listed
  cases value : other element <;> simp [value]
