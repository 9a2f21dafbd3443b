import Rillnet.StreamIdAllocator
import Rillnet.Library.LeastFree

/-!
# Histories of an allocator

A caller allocates and releases in any order, and may release identifiers it
never received. Beside the allocator a history keeps what such a caller knows:
the identifiers it holds, those it ever received, and how often it asked. The
allocator's two sets and its counter are then determined by the history, and
every answer is the least identifier of the initiator's parity, up to the
maximum given to the constructor, that is not held.

The query for exhaustion reads the counter alone. It agrees with the next
answer as long as no identifier has come back since the last one was issued, and
not before the first request when there is nothing to issue at all.
-/

namespace Rillnet

namespace StreamIdAllocator

/-- A call on an allocator. -/
inductive Call where
  | allocate
  | release (stream : StreamId)
deriving DecidableEq, Repr

/-- An allocator with the record of its caller. -/
structure History where
  allocator : StreamIdAllocator
  /-- Received and not released since. -/
  held : Finset UInt64 := ∅
  /-- Received at some time. -/
  issued : Finset UInt64 := ∅
  /-- The allocations asked for. -/
  attempts : Nat := 0
deriving DecidableEq

namespace History

/-- The caller receives what the allocation returned. -/
def receive (history : History) : Option StreamId → History
  | some stream =>
    { history with
      held := insert stream.value history.held
      issued := insert stream.value history.issued }
  | none => history

def perform (history : History) : Call → History
  | .allocate =>
    { history with
      allocator := history.allocator.allocate.1
      attempts := history.attempts + 1 }.receive history.allocator.allocate.2.stream
  | .release stream =>
    { history with
      allocator := history.allocator.release stream
      held := history.held.erase stream.value }

/-- The history of a constructed allocator after the calls. -/
def after (initiator : StreamInitiator) (maximum : UInt64) (calls : List Call) : History :=
  calls.foldl perform { allocator := create initiator maximum }

end History

/-- Odd identifiers belong to the client, even ones to the server. -/
def parity : StreamInitiator → Nat
  | .client => 1
  | .server => 0

/-- What an initiator may hand out below the maximum its allocator was given. -/
def eligible (initiator : StreamInitiator) (maximum : UInt64) : Set UInt64 :=
  { value | value.toNat % 2 = parity initiator ∧ 1 ≤ value.toNat ∧
    value.toNat ≤ maximum.toNat }

/-- The remainder of the first identifier is the initiator's parity. -/
theorem parity_iff (initiator : StreamInitiator) (value : UInt64) :
    value % 2 = firstId initiator % 2 ↔ value.toNat % 2 = parity initiator := by
  rw [← UInt64.toNat_inj, UInt64.toNat_mod, UInt64.toNat_mod]
  cases initiator <;> exact Iff.rfl

theorem nonzero_iff (value : UInt64) : value ≠ 0 ↔ 1 ≤ value.toNat := by
  rw [Ne, ← UInt64.toNat_inj]
  change ¬ value.toNat = 0 ↔ 1 ≤ value.toNat
  omega

/-- The constructor's subtraction never wraps: the last identifier is the
maximum, or one less where the maximum is at least one. -/
theorem lastId_toNat (initiator : StreamInitiator) (maximum : UInt64) :
    (lastId initiator maximum).toNat =
      if maximum.toNat % 2 = parity initiator then maximum.toNat else maximum.toNat - 1 := by
  have one : (1 : UInt64).toNat = 1 := rfl
  have lowered (positive : 1 ≤ maximum.toNat) : (maximum - 1).toNat = maximum.toNat - 1 := by
    have within : (1 : UInt64) ≤ maximum := by
      rw [UInt64.le_iff_toNat_le, one]
      exact positive
    rw [UInt64.toNat_sub_of_le _ _ within, one]
  cases initiator with
  | client =>
    have odd : maximum % 2 = 1 ↔ maximum.toNat % 2 = parity .client := parity_iff .client maximum
    simp only [lastId, odd]
    by_cases same : maximum.toNat % 2 = parity .client
    · rw [if_pos same, if_pos same]
    · rw [if_neg same, if_neg same]
      split
      · rename_i zero
        rw [zero]
        rfl
      · rename_i positive
        exact lowered ((nonzero_iff maximum).mp positive)
  | server =>
    have even : maximum % 2 = 0 ↔ maximum.toNat % 2 = parity .server := parity_iff .server maximum
    simp only [lastId, even]
    by_cases same : maximum.toNat % 2 = parity .server
    · rw [if_pos same, if_pos same]
    · rw [if_neg same, if_neg same]
      have positive : ¬ maximum.toNat % 2 = 0 := same
      exact lowered (by omega)

/-- What a constructed allocator considers valid is what its initiator may hand out. -/
theorem create_valid_iff (initiator : StreamInitiator) (maximum value : UInt64) :
    (create initiator maximum).Valid value ↔ value ∈ eligible initiator maximum := by
  change value ≠ 0 ∧ value ≤ lastId initiator maximum ∧ value % 2 = firstId initiator % 2 ↔
    value.toNat % 2 = parity initiator ∧ 1 ≤ value.toNat ∧ value.toNat ≤ maximum.toNat
  rw [nonzero_iff, parity_iff, UInt64.le_iff_toNat_le, lastId_toNat]
  constructor
  · rintro ⟨positive, bounded, same⟩
    refine ⟨same, positive, ?_⟩
    split at bounded <;> omega
  · rintro ⟨same, positive, bounded⟩
    refine ⟨positive, ?_, same⟩
    split
    · exact bounded
    · rename_i other
      have apart : value.toNat ≠ maximum.toNat := fun equal => other (equal ▸ same)
      omega

/-- The three exits of an allocation: the least released identifier, nothing, or
the next new one. -/
theorem allocate_cases (allocator : StreamIdAllocator) :
    (∃ least, allocator.available.min = some least ∧
      allocator.allocate = ({ allocator with
        available := allocator.available.erase least
        inUse := insert least allocator.inUse }, .success ⟨least⟩)) ∨
    (allocator.available = ∅ ∧ (allocator.next = 0 ∨ allocator.next > allocator.maximum) ∧
      allocator.allocate = ({ allocator with next := 0 }, .exhausted)) ∨
    (allocator.available = ∅ ∧ allocator.next ≠ 0 ∧ allocator.next ≤ allocator.maximum ∧
      allocator.allocate = ({ allocator with
        inUse := insert allocator.next allocator.inUse
        next := if allocator.maximum - allocator.next < 2 then 0 else allocator.next + 2 },
        .success ⟨allocator.next⟩)) := by
  cases minimum : allocator.available.min with
  | coe least =>
    left
    exact ⟨least, rfl, by simp only [allocate, minimum]⟩
  | top =>
    have vacant : allocator.available = ∅ := Finset.min_eq_top.mp minimum
    right
    by_cases past : allocator.next = 0 ∨ allocator.next > allocator.maximum
    · left
      exact ⟨vacant, past, by simp only [allocate, minimum, if_pos past]⟩
    · right
      obtain ⟨positive, within⟩ := not_or.mp past
      exact ⟨vacant, positive, not_lt.mp within, by simp only [allocate, minimum, if_neg past]⟩

/-- Where the counter advances it advances without wrapping and stays within the
maximum. -/
theorem advance_exact {next maximum : UInt64} (within : next ≤ maximum) :
    (maximum - next).toNat = maximum.toNat - next.toNat ∧
    (¬ maximum - next < 2 → (next + 2).toNat = next.toNat + 2 ∧ next + 2 ≤ maximum) := by
  have difference : (maximum - next).toNat = maximum.toNat - next.toNat :=
    UInt64.toNat_sub_of_le _ _ within
  refine ⟨difference, ?_⟩
  intro room
  have two : (2 : UInt64).toNat = 2 := rfl
  have bound := maximum.toNat_lt
  rw [UInt64.lt_iff_toNat_lt, difference, two] at room
  have sum : (next + 2).toNat = next.toNat + 2 := by
    rw [UInt64.toNat_add, two]
    omega
  refine ⟨sum, ?_⟩
  rw [UInt64.le_iff_toNat_le, sum]
  omega

namespace History

/-- The members of the allocator are determined by the history of its calls. -/
structure Recorded (initiator : StreamInitiator) (maximum : UInt64) (history : History) : Prop where
  role : history.allocator.initiator = initiator
  limit : history.allocator.maximum = lastId initiator maximum
  sound : history.allocator.Sound
  complete : history.allocator.Complete
  held : history.allocator.inUse = history.held
  issued : ∀ value, value ∈ history.issued ↔
    value ∈ history.allocator.inUse ∨ value ∈ history.allocator.available
  untouched : history.attempts = 0 → history.issued = ∅
  counting : history.allocator.next ≠ 0 →
    history.allocator.next ≤ history.allocator.maximum ∨
      history.attempts = 0 ∧ history.allocator.next = firstId initiator
  spent : history.allocator.next = 0 → 0 < history.attempts

variable {initiator : StreamInitiator} {maximum : UInt64} {history : History}

theorem Recorded.valid_iff (recorded : Recorded initiator maximum history) (value : UInt64) :
    history.allocator.Valid value ↔ value ∈ eligible initiator maximum := by
  rw [← create_valid_iff]
  unfold Valid
  rw [recorded.role, recorded.limit]
  exact Iff.rfl

theorem recorded_create (initiator : StreamInitiator) (maximum : UInt64) :
    Recorded initiator maximum { allocator := create initiator maximum } where
  role := rfl
  limit := rfl
  sound := create_sound initiator maximum
  complete := create_complete initiator maximum
  held := rfl
  issued := by simp [create]
  untouched := fun _ => rfl
  counting := fun _ => Or.inr ⟨rfl, rfl⟩
  spent := by
    intro zero
    cases initiator <;> exact absurd zero (by simp [create, firstId])

/-- The answer of the allocator is the least eligible identifier not held. -/
theorem Recorded.answers (recorded : Recorded initiator maximum history) :
    LeastFree.Answers (eligible initiator maximum) history.held
      (history.allocator.allocate.2.stream.map fun stream => stream.value) := by
  have sound := recorded.sound
  have listed {value : UInt64} (belongs : value ∈ eligible initiator maximum) :=
    recorded.complete value ((recorded.valid_iff value).mpr belongs)
  obtain ⟨least, minimum, allocated⟩ | ⟨vacant, past, allocated⟩ |
    ⟨vacant, positive, within, allocated⟩ := history.allocator.allocate_cases
  · rw [allocated, ← recorded.held]
    apply LeastFree.answers_pool minimum
    · intro value pooled
      refine ⟨(recorded.valid_iff value).mp (sound.parity value (Or.inr pooled)), ?_⟩
      exact fun used => sound.disjoint value used pooled
    · -- what was never issued lies above the counter, the pool below it
      rintro value ⟨belongs, unheld⟩
      rcases listed belongs with used | pooled | ⟨issuing, later⟩
      · exact absurd used unheld
      · exact Or.inl pooled
      · have below := sound.issued least (Or.inr (Finset.mem_of_min minimum))
        exact Or.inr ((below.resolve_left issuing).le.trans later)
  · rw [allocated, ← recorded.held]
    apply Set.eq_empty_iff_forall_notMem.mpr
    rintro value ⟨belongs, unheld⟩
    rcases listed belongs with used | pooled | ⟨issuing, later⟩
    · exact unheld used
    · simp [vacant] at pooled
    · have bounded := ((recorded.valid_iff value).mpr belongs).2.1
      rcases past with zero | above
      · exact issuing zero
      · exact absurd (later.trans bounded) (not_le.mpr above)
  · rw [allocated, ← recorded.held]
    constructor
    · have odd := sound.counter.resolve_left positive
      refine ⟨(recorded.valid_iff _).mp ⟨positive, within, odd⟩, ?_⟩
      intro used
      exact lt_irrefl _ ((sound.issued _ (Or.inl used)).resolve_left positive)
    · rintro value ⟨belongs, unheld⟩
      rcases listed belongs with used | pooled | ⟨-, later⟩
      · exact absurd used unheld
      · simp [vacant] at pooled
      · exact later

/-- The record is kept by an allocation. -/
theorem Recorded.allocate (recorded : Recorded initiator maximum history) :
    Recorded initiator maximum (history.perform .allocate) := by
  have sound := (history.allocator.allocate_spec recorded.sound).1
  have complete := history.allocator.allocate_complete recorded.sound recorded.complete
  obtain ⟨least, minimum, allocated⟩ | ⟨vacant, past, allocated⟩ |
    ⟨vacant, positive, within, allocated⟩ := history.allocator.allocate_cases
  · have pooled : least ∈ history.allocator.available := Finset.mem_of_min minimum
    have earlier : least ∈ history.issued := (recorded.issued least).mpr (Or.inr pooled)
    have asked : history.attempts ≠ 0 := by
      intro never
      simp [recorded.untouched never] at earlier
    rw [allocated] at sound complete
    simp only [perform, allocated, StreamIdAllocation.success, receive]
    refine ⟨recorded.role, recorded.limit, sound, complete, ?_, ?_, by simp, ?_, by simp⟩
    · exact congrArg (insert least) recorded.held
    · intro value
      have before := recorded.issued value
      by_cases same : value = least
      · simp [same]
      · simp [same, before]
    · intro issuing
      exact Or.inl ((recorded.counting issuing).resolve_right fun first => asked first.1)
  · rw [allocated] at sound complete
    simp only [perform, allocated, StreamIdAllocation.exhausted, receive]
    exact ⟨recorded.role, recorded.limit, sound, complete, recorded.held, recorded.issued,
      by simp, fun issuing => absurd rfl issuing, by simp⟩
  · rw [allocated] at sound complete
    simp only [perform, allocated, StreamIdAllocation.success, receive]
    refine ⟨recorded.role, recorded.limit, sound, complete, ?_, ?_, by simp, ?_, by simp⟩
    · exact congrArg (insert history.allocator.next) recorded.held
    · intro value
      have before := recorded.issued value
      simp only [Finset.mem_insert, before, or_assoc]
    · intro issuing
      dsimp only at issuing ⊢
      split at issuing
      · exact absurd rfl issuing
      · rename_i room
        rw [if_neg room]
        exact Or.inl ((advance_exact within).2 room).2

/-- The record is kept by a release of anything. -/
theorem Recorded.release (recorded : Recorded initiator maximum history) (stream : StreamId) :
    Recorded initiator maximum (history.perform (.release stream)) := by
  obtain ⟨sound, role, limit, inUse, -⟩ := history.allocator.release_spec recorded.sound stream
  have next : (history.allocator.release stream).next = history.allocator.next := by
    simp only [StreamIdAllocator.release]
    split
    · rfl
    · split <;> rfl
  have together (value : UInt64) :
      (value ∈ (history.allocator.release stream).inUse ∨
        value ∈ (history.allocator.release stream).available) ↔
      value ∈ history.allocator.inUse ∨ value ∈ history.allocator.available := by
    simp only [StreamIdAllocator.release]
    split
    · rfl
    · split
      · rename_i used
        by_cases same : value = stream.value
        · simp [same, used]
        · simp [same]
      · rfl
  exact
    { role := role.trans recorded.role
      limit := limit.trans recorded.limit
      sound := sound
      complete := history.allocator.release_complete recorded.complete stream
      held := inUse.trans (congrArg (Finset.erase · stream.value) recorded.held)
      issued := fun value => (recorded.issued value).trans (together value).symm
      untouched := recorded.untouched
      counting := by
        simp only [perform, next, limit]
        exact recorded.counting
      spent := by
        simp only [perform, next]
        exact recorded.spent }

/-- The record is true after any calls. -/
theorem recorded_after (initiator : StreamInitiator) (maximum : UInt64) (calls : List Call) :
    Recorded initiator maximum (after initiator maximum calls) := by
  have kept (history : History) (recorded : Recorded initiator maximum history) :
      Recorded initiator maximum (calls.foldl perform history) := by
    induction calls generalizing history with
    | nil => exact recorded
    | cons call rest inductionHypothesis =>
      apply inductionHypothesis
      cases call with
      | allocate => exact recorded.allocate
      | release stream => exact recorded.release stream
  exact kept _ (recorded_create initiator maximum)

/-- The counter is zero exactly when every eligible identifier has been issued,
except that it starts above zero when there is none. -/
theorem Recorded.next_iff (recorded : Recorded initiator maximum history) :
    history.allocator.next = 0 ↔
      (∀ value ∈ eligible initiator maximum, value ∈ history.issued) ∧
      ((eligible initiator maximum).Nonempty ∨ 0 < history.attempts) := by
  constructor
  · intro zero
    refine ⟨?_, Or.inr (recorded.spent zero)⟩
    intro value belongs
    rw [recorded.issued]
    rcases recorded.complete value ((recorded.valid_iff value).mpr belongs) with
      used | pooled | ⟨issuing, -⟩
    · exact Or.inl used
    · exact Or.inr pooled
    · exact absurd zero issuing
  · rintro ⟨all, issuable⟩
    by_contra issuing
    rcases recorded.counting issuing with within | ⟨never, -⟩
    · -- the counter itself is eligible and was not issued
      have odd := recorded.sound.counter.resolve_left issuing
      have belongs := (recorded.valid_iff _).mp ⟨issuing, within, odd⟩
      have early := recorded.sound.issued _ ((recorded.issued _).mp (all _ belongs))
      exact lt_irrefl _ (early.resolve_left issuing)
    · rcases issuable with ⟨value, belongs⟩ | asked
      · have early := all value belongs
        simp [recorded.untouched never] at early
      · omega

/-- Releasing what is not held changes nothing. -/
theorem Recorded.release_unheld (recorded : Recorded initiator maximum history)
    {stream : StreamId} (unheld : stream.value ∉ history.held) :
    history.allocator.release stream = history.allocator := by
  rw [← recorded.held] at unheld
  simp only [StreamIdAllocator.release]
  rw [if_neg unheld]
  exact ite_self _

/-- What was issued has the parity of the initiator. -/
theorem Recorded.issued_eligible (recorded : Recorded initiator maximum history)
    {value : UInt64} (issued : value ∈ history.issued) : value ∈ eligible initiator maximum :=
  (recorded.valid_iff value).mp (recorded.sound.parity value ((recorded.issued value).mp issued))

end History

/-- An allocation succeeds with an identifier or fails for want of one. -/
theorem allocate_status (allocator : StreamIdAllocator) :
    allocator.allocate.2.status =
      if allocator.allocate.2.stream.isSome then .ok else .resourceLimitExceeded := by
  obtain ⟨_, _, allocated⟩ | ⟨_, _, allocated⟩ | ⟨_, _, _, allocated⟩ := allocator.allocate_cases
  all_goals
    rw [allocated]
    rfl

/-- After any calls the allocator hands out the least eligible identifier that is
not held, and refuses exactly when there is none; no identifier goes to both
endpoints, releasing what is not held changes nothing, and the counter's
arithmetic is exact wherever it is done. -/
theorem allocates_least_free (initiator : StreamInitiator) (maximum : UInt64)
    (calls : List Call) :
    let history := History.after initiator maximum calls
    let allocator := history.allocator
    LeastFree.Answers (eligible initiator maximum) history.held
      (allocator.allocate.2.stream.map fun stream => stream.value) ∧
    (allocator.allocate.2.stream = none ↔
      ∀ value ∈ eligible initiator maximum, value ∈ history.held) ∧
    allocator.allocate.2.status =
      (if allocator.allocate.2.stream.isSome then .ok else .resourceLimitExceeded) ∧
    allocator.inUse = history.held ∧
    (∀ stream, allocator.allocate.2.stream = some stream → stream.value ∉ allocator.inUse) ∧
    (∀ value ∈ history.issued, ∀ other ≠ initiator, ∀ bound since,
      value ∉ (History.after other bound since).issued) ∧
    (∀ stream : StreamId, stream.value ∉ history.held → allocator.release stream = allocator) ∧
    (allocator.available = ∅ → allocator.next ≠ 0 → allocator.next ≤ allocator.maximum →
      (allocator.maximum - allocator.next).toNat =
        allocator.maximum.toNat - allocator.next.toNat ∧
      (¬ allocator.maximum - allocator.next < 2 →
        (allocator.next + 2).toNat = allocator.next.toNat + 2)) := by
  intro history allocator
  have recorded := History.recorded_after initiator maximum calls
  have owed := recorded.answers
  refine ⟨owed, ?_, allocator.allocate_status, recorded.held, ?_, ?_, ?_, ?_⟩
  · rw [← owed.none_iff]
    exact Option.map_eq_none_iff.symm
  · intro stream success
    have least : LeastFree.Answers (eligible initiator maximum) history.held
        (allocator.allocate.2.stream.map fun stream => stream.value) := owed
    rw [success] at least
    have held : allocator.inUse = history.held := recorded.held
    rw [held]
    exact least.1.2
  · intro value issued other different bound since again
    obtain ⟨mine, -⟩ := recorded.issued_eligible issued
    obtain ⟨theirs, -⟩ := (History.recorded_after other bound since).issued_eligible again
    cases initiator <;> cases other <;> simp_all [parity]
  · intro stream unheld
    exact recorded.release_unheld unheld
  · intro _ _ within
    obtain ⟨difference, sum⟩ := advance_exact within
    exact ⟨difference, fun room => (sum room).1⟩

/-- The query for exhaustion agrees with the next allocation exactly when, all
eligible identifiers having been issued, all are still held, and when an
allocation has been tried in case there is nothing to issue. -/
theorem exhausted_truthful_iff (initiator : StreamInitiator) (maximum : UInt64)
    (calls : List Call) :
    let history := History.after initiator maximum calls
    (history.allocator.exhausted = true ↔ history.allocator.allocate.2.stream = none) ↔
      ((∀ value ∈ eligible initiator maximum, value ∈ history.issued) →
        ∀ value ∈ eligible initiator maximum, value ∈ history.held) ∧
      ((eligible initiator maximum).Nonempty ∨ 0 < history.attempts) := by
  intro history
  have recorded : History.Recorded initiator maximum history :=
    History.recorded_after initiator maximum calls
  have spent : history.allocator.exhausted = true ↔ history.allocator.next = 0 := by
    simp [exhausted]
  have refused : history.allocator.allocate.2.stream = none ↔
      ∀ value ∈ eligible initiator maximum, value ∈ history.held := by
    rw [← recorded.answers.none_iff]
    exact Option.map_eq_none_iff.symm
  have received (value : UInt64) (held : value ∈ history.held) : value ∈ history.issued :=
    (recorded.issued value).mpr (Or.inl (recorded.held ▸ held))
  rw [spent, refused, recorded.next_iff]
  constructor
  · intro agrees
    have nonvacuous : (eligible initiator maximum).Nonempty ∨ 0 < history.attempts := by
      by_contra neither
      obtain ⟨empty, -⟩ := not_or.mp neither
      have vacant := Set.not_nonempty_iff_eq_empty.mp empty
      have all : ∀ value ∈ eligible initiator maximum, value ∈ history.held := by simp [vacant]
      exact neither (agrees.mpr all).2
    exact ⟨fun all => agrees.mp ⟨all, nonvacuous⟩, nonvacuous⟩
  · rintro ⟨kept, nonvacuous⟩
    constructor
    · rintro ⟨all, -⟩
      exact kept all
    · intro all
      exact ⟨fun value belongs => received value (all value belongs), nonvacuous⟩

/-- The only identifier of a small client is issued and comes back: the query
still says exhausted, and the next allocation succeeds. -/
theorem exhausted_after_release :
    let history := History.after .client 1 [.allocate, .release ⟨1⟩]
    ¬ (history.allocator.exhausted = true ↔ history.allocator.allocate.2.stream = none) := by
  decide

end StreamIdAllocator

end Rillnet
