import Rillnet.Frame
import Rillnet.StatusCode
import Mathlib.Data.Finset.Max

/-!
# Stream identifier allocation

One endpoint's allocator hands out the identifiers of its parity in ascending
order, keeps the ones in use, and prefers the least released one over a new one.
The counter becomes zero once the last identifier below the maximum has been
issued. The allocator's invariant ties the two sets and the counter together:
identifiers in use and released ones are disjoint, and everything issued lies
below the counter.
-/

namespace Rillnet

/-- The numeric order of 64-bit words. -/
instance instLinearOrderUInt64 : LinearOrder UInt64 where
  le_refl := fun _ => UInt64.le_refl _
  le_trans := fun _ _ _ => UInt64.le_trans
  le_antisymm := fun _ _ => UInt64.le_antisymm
  le_total := fun _ _ => UInt64.le_total _ _
  lt_iff_le_not_ge := fun _ _ => Std.LawfulOrderLT.lt_iff _ _
  toDecidableLE := inferInstance
  toDecidableEq := inferInstance
  toDecidableLT := inferInstance

/-- Which endpoint allocates. -/
inductive StreamInitiator where
  | client
  | server
deriving DecidableEq, Repr

/-- The outcome of an allocation. -/
structure StreamIdAllocation where
  stream : Option StreamId
  status : StatusCode
deriving DecidableEq, Repr

namespace StreamIdAllocation

def success (stream : StreamId) : StreamIdAllocation := ⟨some stream, .ok⟩
def exhausted : StreamIdAllocation := ⟨none, .resourceLimitExceeded⟩

end StreamIdAllocation

/-- The allocator's members. -/
structure StreamIdAllocator where
  initiator : StreamInitiator
  next : UInt64
  maximum : UInt64
  inUse : Finset UInt64
  available : Finset UInt64
deriving DecidableEq

namespace StreamIdAllocator

def firstId : StreamInitiator → UInt64
  | .client => 1
  | .server => 2

/-- The greatest identifier of the initiator's parity up to the maximum; the
subtraction wraps like the machine's. -/
def lastId (initiator : StreamInitiator) (maximum : UInt64) : UInt64 :=
  match initiator with
  | .client => if maximum % 2 = 1 then maximum else if maximum = 0 then 0 else maximum - 1
  | .server => if maximum % 2 = 0 then maximum else maximum - 1

/-- The constructor; the default maximum is the greatest 64-bit value. -/
def create (initiator : StreamInitiator) (maximum : UInt64 := 0xFFFFFFFFFFFFFFFF) :
    StreamIdAllocator where
  initiator := initiator
  next := firstId initiator
  maximum := lastId initiator maximum
  inUse := ∅
  available := ∅

def exhausted (allocator : StreamIdAllocator) : Bool := decide (allocator.next = 0)

/-- Reissue the least released identifier, otherwise issue the next new one. -/
def allocate (allocator : StreamIdAllocator) : StreamIdAllocator × StreamIdAllocation :=
  match allocator.available.min with
  | some value =>
    ({ allocator with
      available := allocator.available.erase value
      inUse := insert value allocator.inUse }, .success ⟨value⟩)
  | none =>
    if allocator.next = 0 ∨ allocator.next > allocator.maximum then
      ({ allocator with next := 0 }, .exhausted)
    else
      ({ allocator with
        inUse := insert allocator.next allocator.inUse
        next := if allocator.maximum - allocator.next < 2 then 0 else allocator.next + 2 },
        .success ⟨allocator.next⟩)

/-- Only an identifier in use becomes available again. -/
def release (allocator : StreamIdAllocator) (stream : StreamId) : StreamIdAllocator :=
  let value := stream.value
  if value = 0 ∨ value > allocator.maximum ∨ value % 2 ≠ firstId allocator.initiator % 2 then
    allocator
  else if value ∈ allocator.inUse then
    { allocator with
      inUse := allocator.inUse.erase value
      available := insert value allocator.available }
  else allocator

/-- The identifiers issued so far are those below the counter, or all of them
once the counter is zero; each is in use or available, never both. -/
structure Sound (allocator : StreamIdAllocator) : Prop where
  disjoint : ∀ value ∈ allocator.inUse, value ∉ allocator.available
  parity : ∀ value, value ∈ allocator.inUse ∨ value ∈ allocator.available →
    value ≠ 0 ∧ value ≤ allocator.maximum ∧ value % 2 = firstId allocator.initiator % 2
  issued : ∀ value, value ∈ allocator.inUse ∨ value ∈ allocator.available →
    allocator.next = 0 ∨ value < allocator.next
  counter : allocator.next = 0 ∨ allocator.next % 2 = firstId allocator.initiator % 2

/-- An identifier the allocator may hand out: of its parity, up to the maximum. -/
def Valid (allocator : StreamIdAllocator) (value : UInt64) : Prop :=
  value ≠ 0 ∧ value ≤ allocator.maximum ∧ value % 2 = firstId allocator.initiator % 2

/-- No identifier is lost: each is in use, available, or still to be issued. -/
def Complete (allocator : StreamIdAllocator) : Prop :=
  ∀ value, allocator.Valid value → value ∈ allocator.inUse ∨ value ∈ allocator.available ∨
    (allocator.next ≠ 0 ∧ allocator.next ≤ value)

/-- The streams of a number of allocations in a row. -/
def issue (allocator : StreamIdAllocator) : Nat → List (Option StreamId)
  | 0 => []
  | count + 1 => allocator.allocate.2.stream :: allocator.allocate.1.issue count

/-- A constructed allocator has issued nothing. -/
theorem create_sound (initiator : StreamInitiator) (maximum : UInt64) :
    Sound (create initiator maximum) where
  disjoint := by simp [create]
  parity := by simp [create]
  issued := by simp [create]
  counter := Or.inr rfl

/-- With room for two more below the maximum, advancing by two does not wrap. -/
theorem advanced_value {next maximum : UInt64} (within : next ≤ maximum)
    (room : ¬ maximum - next < 2) : (next + 2).toNat = next.toNat + 2 := by
  have gap : 2 ≤ maximum.toNat - next.toNat := by
    rw [UInt64.not_lt, UInt64.le_iff_toNat_le, UInt64.toNat_sub_of_le _ _ within] at room
    exact room
  have bound := maximum.toNat_lt
  have two : (2 : UInt64).toNat = 2 := rfl
  rw [UInt64.toNat_add, two]
  omega

/-- Issuing a new identifier moves the counter past it without wrapping: two
more fit below the maximum, or the counter becomes zero. -/
theorem advanced_counter (next maximum value : UInt64) (within : next ≤ maximum)
    (reached : value ≤ next) :
    (if maximum - next < 2 then (0 : UInt64) else next + 2) = 0 ∨
      value < (if maximum - next < 2 then (0 : UInt64) else next + 2) := by
  split
  · exact Or.inl rfl
  · rename_i room
    right
    rw [UInt64.le_iff_toNat_le] at reached
    rw [UInt64.lt_iff_toNat_lt, advanced_value within room]
    omega

/-- Advancing by two keeps the parity. -/
theorem advanced_parity (next maximum first : UInt64) (within : next ≤ maximum)
    (parity : next % 2 = first % 2) :
    (if maximum - next < 2 then (0 : UInt64) else next + 2) = 0 ∨
      (if maximum - next < 2 then (0 : UInt64) else next + 2) % 2 = first % 2 := by
  split
  · exact Or.inl rfl
  · rename_i room
    right
    rw [← parity]
    apply UInt64.toNat_inj.mp
    have two : (2 : UInt64).toNat = 2 := rfl
    rw [UInt64.toNat_mod, UInt64.toNat_mod, advanced_value within room, two]
    omega

/-- What an allocation does: it takes an identifier that was not in use and puts
it in use, or it fails and changes no set. The invariant is kept. -/
theorem allocate_spec (allocator : StreamIdAllocator) (sound : Sound allocator) :
    Sound allocator.allocate.1 ∧
    allocator.allocate.1.initiator = allocator.initiator ∧
    allocator.allocate.1.maximum = allocator.maximum ∧
    ((∃ stream, allocator.allocate.2 = .success stream ∧ stream.value ≠ 0 ∧
        stream.value ∉ allocator.inUse ∧
        allocator.allocate.1.inUse = insert stream.value allocator.inUse ∧
        allocator.allocate.1.available = allocator.available.erase stream.value) ∨
      (allocator.allocate.2 = .exhausted ∧ allocator.allocate.1.inUse = allocator.inUse ∧
        allocator.allocate.1.available = allocator.available)) := by
  unfold allocate
  split
  · rename_i value least
    have member : value ∈ allocator.available := Finset.mem_of_min least
    have free : value ∉ allocator.inUse := fun used => sound.disjoint value used member
    obtain ⟨positive, bounded, odd⟩ := sound.parity value (Or.inr member)
    refine ⟨⟨?_, ?_, ?_, sound.counter⟩, rfl, rfl,
      Or.inl ⟨⟨value⟩, rfl, positive, free, rfl, rfl⟩⟩
    · intro other used
      rcases Finset.mem_insert.mp used with rfl | used
      · exact Finset.notMem_erase _ _
      · exact fun listed => sound.disjoint other used (Finset.mem_of_mem_erase listed)
    · intro other known
      rcases known with used | listed
      · rcases Finset.mem_insert.mp used with rfl | used
        · exact ⟨positive, bounded, odd⟩
        · exact sound.parity other (Or.inl used)
      · exact sound.parity other (Or.inr (Finset.mem_of_mem_erase listed))
    · intro other known
      rcases known with used | listed
      · rcases Finset.mem_insert.mp used with rfl | used
        · exact sound.issued _ (Or.inr member)
        · exact sound.issued other (Or.inl used)
      · exact sound.issued other (Or.inr (Finset.mem_of_mem_erase listed))
  · rename_i none
    have vacant : allocator.available = ∅ := Finset.min_eq_top.mp none
    split
    · refine ⟨⟨sound.disjoint, sound.parity, fun _ _ => Or.inl rfl, Or.inl rfl⟩, rfl, rfl,
        Or.inr ⟨rfl, rfl, rfl⟩⟩
    · rename_i open_
      obtain ⟨positive, within⟩ := not_or.mp open_
      have bounded : allocator.next ≤ allocator.maximum := not_lt.mp within
      have odd := sound.counter.resolve_left positive
      have fresh : allocator.next ∉ allocator.inUse := by
        intro used
        exact lt_irrefl _ ((sound.issued _ (Or.inl used)).resolve_left positive)
      refine ⟨⟨?_, ?_, ?_, ?_⟩, rfl, rfl,
        Or.inl ⟨⟨allocator.next⟩, rfl, positive, fresh, rfl, ?_⟩⟩
      · simp [vacant]
      · intro other known
        rcases known with used | listed
        · rcases Finset.mem_insert.mp used with rfl | used
          · exact ⟨positive, bounded, odd⟩
          · exact sound.parity other (Or.inl used)
        · exact sound.parity other (Or.inr listed)
      · intro other known
        have below : other ≤ allocator.next := by
          rcases known with used | listed
          · rcases Finset.mem_insert.mp used with rfl | used
            · exact le_refl _
            · exact le_of_lt ((sound.issued other (Or.inl used)).resolve_left positive)
          · exact le_of_lt ((sound.issued other (Or.inr listed)).resolve_left positive)
        exact advanced_counter _ _ other bounded below
      · exact advanced_parity _ _ _ bounded odd
      · simp [vacant]

/-- A successful allocation puts a free identifier in use. -/
theorem allocate_success (allocator : StreamIdAllocator) (sound : Sound allocator)
    {stream : StreamId} (allocation : allocator.allocate.2 = .success stream) :
    stream.value ≠ 0 ∧ stream.value ∉ allocator.inUse ∧
      allocator.allocate.1.inUse = insert stream.value allocator.inUse := by
  obtain ⟨-, -, -, ⟨other, success, positive, free, inUse, -⟩ | ⟨exhausted, -⟩⟩ :=
    allocator.allocate_spec sound
  · rw [allocation] at success
    obtain rfl : stream = other := by simpa [StreamIdAllocation.success] using success
    exact ⟨positive, free, inUse⟩
  · rw [allocation] at exhausted
    simp [StreamIdAllocation.success, StreamIdAllocation.exhausted] at exhausted

/-- Releasing an identifier in use makes exactly it available; releasing anything
else changes nothing. The invariant is kept. -/
theorem release_spec (allocator : StreamIdAllocator) (sound : Sound allocator)
    (stream : StreamId) :
    Sound (allocator.release stream) ∧
    (allocator.release stream).initiator = allocator.initiator ∧
    (allocator.release stream).maximum = allocator.maximum ∧
    (allocator.release stream).inUse = allocator.inUse.erase stream.value ∧
    (∀ value ∈ (allocator.release stream).available,
      value ∈ allocator.available ∨ value = stream.value ∧ value ∈ allocator.inUse) := by
  unfold release
  simp only
  split
  · rename_i outside
    have unused : stream.value ∉ allocator.inUse := by
      intro used
      obtain ⟨positive, bounded, odd⟩ := sound.parity _ (Or.inl used)
      rcases outside with zero | above | other
      · exact positive zero
      · exact absurd bounded (not_le.mpr above)
      · exact other odd
    exact ⟨sound, rfl, rfl, (Finset.erase_eq_of_notMem unused).symm, fun _ listed => Or.inl listed⟩
  · split
    · rename_i used
      refine ⟨⟨?_, ?_, ?_, sound.counter⟩, rfl, rfl, rfl, ?_⟩
      · intro other still listed
        rcases Finset.mem_insert.mp listed with rfl | listed
        · exact Finset.notMem_erase _ _ still
        · exact sound.disjoint other (Finset.mem_of_mem_erase still) listed
      · intro other known
        apply sound.parity
        rcases known with still | listed
        · exact Or.inl (Finset.mem_of_mem_erase still)
        · rcases Finset.mem_insert.mp listed with rfl | listed
          · exact Or.inl used
          · exact Or.inr listed
      · intro other known
        apply sound.issued
        rcases known with still | listed
        · exact Or.inl (Finset.mem_of_mem_erase still)
        · rcases Finset.mem_insert.mp listed with rfl | listed
          · exact Or.inl used
          · exact Or.inr listed
      · intro value listed
        rcases Finset.mem_insert.mp listed with rfl | listed
        · exact Or.inr ⟨rfl, used⟩
        · exact Or.inl listed
    · rename_i unused
      exact ⟨sound, rfl, rfl, (Finset.erase_eq_of_notMem unused).symm,
        fun _ listed => Or.inl listed⟩

/-- Values of one parity are two apart. -/
theorem next_value {next value first : UInt64} (below : next < value)
    (parity : next % 2 = first % 2) (other : value % 2 = first % 2) :
    next.toNat + 2 ≤ value.toNat := by
  have two : (2 : UInt64).toNat = 2 := rfl
  have same := congrArg UInt64.toNat (parity.trans other.symm)
  rw [UInt64.toNat_mod, UInt64.toNat_mod, two] at same
  rw [UInt64.lt_iff_toNat_lt] at below
  omega

/-- Nothing is lost by the constructor. -/
theorem create_complete (initiator : StreamInitiator) (maximum : UInt64) :
    Complete (create initiator maximum) := by
  rintro value ⟨positive, -, parity⟩
  refine Or.inr (Or.inr ?_)
  have two : (2 : UInt64).toNat = 2 := rfl
  have nonzero : value.toNat ≠ 0 := fun zero => positive (UInt64.toNat_inj.mp zero)
  have parity := congrArg UInt64.toNat parity
  rw [UInt64.toNat_mod, UInt64.toNat_mod, two] at parity
  cases initiator with
  | client =>
    refine ⟨by simp [create, firstId], ?_⟩
    rw [UInt64.le_iff_toNat_le]
    change 1 ≤ value.toNat
    omega
  | server =>
    refine ⟨by simp [create, firstId], ?_⟩
    rw [UInt64.le_iff_toNat_le]
    change value.toNat % 2 = 2 % 2 at parity
    change 2 ≤ value.toNat
    omega

/-- Nothing is lost by an allocation. -/
theorem allocate_complete (allocator : StreamIdAllocator) (sound : Sound allocator)
    (complete : Complete allocator) : Complete allocator.allocate.1 := by
  unfold allocate
  split
  · rename_i least min
    rintro value valid
    rcases complete value valid with used | listed | later
    · exact Or.inl (Finset.mem_insert_of_mem used)
    · by_cases same : value = least
      · exact Or.inl (same ▸ Finset.mem_insert_self _ _)
      · exact Or.inr (Or.inl (Finset.mem_erase.mpr ⟨same, listed⟩))
    · exact Or.inr (Or.inr later)
  · split
    · rename_i spent
      rintro value ⟨positive, bounded, parity⟩
      rcases complete value ⟨positive, bounded, parity⟩ with used | listed | ⟨issuing, later⟩
      · exact Or.inl used
      · exact Or.inr (Or.inl listed)
      · rcases spent with zero | above
        · exact absurd zero issuing
        · exact absurd (later.trans bounded) (not_le.mpr above)
    · rename_i issuing
      obtain ⟨positive, within⟩ := not_or.mp issuing
      have odd := sound.counter.resolve_left positive
      rintro value ⟨nonzero, bounded, parity⟩
      rcases complete value ⟨nonzero, bounded, parity⟩ with used | listed | ⟨-, later⟩
      · exact Or.inl (Finset.mem_insert_of_mem used)
      · exact Or.inr (Or.inl listed)
      · rcases later.eq_or_lt with same | below
        · exact Or.inl (same ▸ Finset.mem_insert_self _ _)
        · have gap := next_value below odd parity
          have bound := value.toNat_lt
          have two : (2 : UInt64).toNat = 2 := rfl
          have within : allocator.next ≤ allocator.maximum := not_lt.mp within
          have room : ¬ allocator.maximum - allocator.next < 2 := by
            rw [UInt64.lt_iff_toNat_lt, UInt64.toNat_sub_of_le _ _ within, two]
            have limit : value.toNat ≤ allocator.maximum.toNat := UInt64.le_iff_toNat_le.mp bounded
            omega
          have sum : (allocator.next + 2).toNat = allocator.next.toNat + 2 := by
            rw [UInt64.toNat_add, two]
            omega
          refine Or.inr (Or.inr ?_)
          dsimp only
          rw [if_neg room]
          constructor
          · intro zero
            rw [zero] at sum
            change 0 = _ at sum
            omega
          · rw [UInt64.le_iff_toNat_le, sum]
            exact gap

/-- Nothing is lost by a release. -/
theorem release_complete (allocator : StreamIdAllocator) (complete : Complete allocator)
    (stream : StreamId) : Complete (allocator.release stream) := by
  unfold release
  dsimp only
  split
  · exact complete
  · split
    · intro value valid
      by_cases same : value = stream.value
      · exact Or.inr (Or.inl (same ▸ Finset.mem_insert_self _ _))
      · rcases complete value valid with used | listed | later
        · exact Or.inl (Finset.mem_erase.mpr ⟨same, used⟩)
        · exact Or.inr (Or.inl (Finset.mem_insert_of_mem listed))
        · exact Or.inr (Or.inr later)
    · exact complete

/-- As long as an identifier is free, an allocation succeeds. -/
theorem allocate_succeeds (allocator : StreamIdAllocator) (complete : Complete allocator)
    {value : UInt64} (valid : allocator.Valid value) (free : value ∉ allocator.inUse) :
    allocator.allocate.2 ≠ .exhausted := by
  unfold allocate
  split
  · simp [StreamIdAllocation.success, StreamIdAllocation.exhausted]
  · rename_i none
    have vacant : allocator.available = ∅ := Finset.min_eq_top.mp none
    split
    · rename_i spent
      rcases complete value valid with used | listed | ⟨issuing, later⟩
      · exact absurd used free
      · simp [vacant] at listed
      · rcases spent with zero | above
        · exact absurd zero issuing
        · exact absurd (later.trans valid.2.1) (not_le.mpr above)
    · simp [StreamIdAllocation.success, StreamIdAllocation.exhausted]

/-- The last identifier of a client is the greatest odd one up to the maximum. -/
theorem le_lastId {value maximum : UInt64} (odd : value % 2 = 1) (bounded : value ≤ maximum) :
    value ≤ lastId .client maximum := by
  unfold lastId
  dsimp only
  split
  · exact bounded
  · rename_i even
    have two : (2 : UInt64).toNat = 2 := rfl
    have one : (1 : UInt64).toNat = 1 := rfl
    have odd := congrArg UInt64.toNat odd
    rw [UInt64.toNat_mod, two, one] at odd
    have even : ¬ maximum.toNat % 2 = 1 := by
      intro remainder
      apply even
      apply UInt64.toNat_inj.mp
      rw [UInt64.toNat_mod, two, one]
      exact remainder
    have bounded : value.toNat ≤ maximum.toNat := UInt64.le_iff_toNat_le.mp bounded
    split
    · rename_i zero
      rw [zero] at bounded
      change _ ≤ 0 at bounded
      omega
    · have positive : (1 : UInt64) ≤ maximum := by
        rw [UInt64.le_iff_toNat_le, one]
        omega
      rw [UInt64.le_iff_toNat_le, UInt64.toNat_sub_of_le _ _ positive, one]
      omega

theorem card_words (words : Finset UInt64) : words.card ≤ 2 ^ 64 := by
  have injective : Set.InjOn UInt64.toNat words := fun _ _ _ _ same => UInt64.toNat_inj.mp same
  rw [← Finset.card_image_of_injOn injective]
  have within : words.image UInt64.toNat ⊆ Finset.range (2 ^ 64) := by
    intro number member
    obtain ⟨word, -, rfl⟩ := Finset.mem_image.mp member
    exact Finset.mem_range.mpr word.toNat_lt
  exact (Finset.card_le_card within).trans (Finset.card_range _).le

/-- Every free identifier is handed out again by successful allocations in a row. -/
theorem issue_reaches (allocator : StreamIdAllocator) (sound : Sound allocator)
    (complete : Complete allocator) {value : UInt64} (valid : allocator.Valid value)
    (free : value ∉ allocator.inUse) :
    ∃ count, some ⟨value⟩ ∈ allocator.issue count ∧ none ∉ allocator.issue count := by
  -- every allocation before the last puts another identifier in use
  have bounded : ∀ (fuel : Nat) (allocator : StreamIdAllocator), Sound allocator →
      Complete allocator → allocator.Valid value → value ∉ allocator.inUse →
      2 ^ 64 ≤ allocator.inUse.card + fuel →
      ∃ count, some ⟨value⟩ ∈ allocator.issue count ∧ none ∉ allocator.issue count := by
    intro fuel
    induction fuel with
    | zero =>
      intro allocator _ _ _ free full
      have more := card_words (insert value allocator.inUse)
      rw [Finset.card_insert_of_notMem free] at more
      omega
    | succ fuel inductionHypothesis =>
      intro allocator sound complete valid free enough
      obtain ⟨sound', initiator, maximum, ⟨stream, success, -, fresh, inUse, -⟩ | ⟨failed, -⟩⟩ :=
        allocator.allocate_spec sound
      · have issued : allocator.allocate.2.stream = some stream := by
          rw [success]
          rfl
        by_cases same : stream.value = value
        · refine ⟨1, ?_, ?_⟩
          · subst same
            simp [issue, issued]
          · simp [issue, issued]
        · obtain ⟨count, reached, never⟩ := inductionHypothesis allocator.allocate.1 sound'
            (allocator.allocate_complete sound complete)
            (by unfold Valid; rw [maximum, initiator]; exact valid)
            (by rw [inUse]; simpa [Ne.symm same] using free)
            (by rw [inUse, Finset.card_insert_of_notMem fresh]; omega)
          refine ⟨count + 1, List.mem_cons_of_mem _ reached, ?_⟩
          simpa [issue, issued] using never
      · exact absurd failed (allocator.allocate_succeeds complete valid free)
  exact bounded (2 ^ 64) allocator sound complete valid free (Nat.le_add_left _ _)

end StreamIdAllocator

end Rillnet
