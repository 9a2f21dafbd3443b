import Rillnet.ClientLedger
import Mathlib.Logic.Relation

/-!
# The table of a client connection

`Ledger.Step` lists everything the code of a client connection does to its
ledger, and `Ledger.Consistent` is the invariant that ties the map, the shared
objects and the allocator together. Each change preserves the invariant, and
every event of the connection is a sequence of such changes.
-/

namespace Rillnet

section Table

variable {τ : Type} {ν : τ → Type}

/-- The frame of a request: no flags, on its own stream, and valid. -/
structure RequestFrame (frame : Frame) (stream : StreamId) : Prop where
  type : frame.header.type = .request
  flags : frame.header.flags = .none
  stream : frame.header.stream = stream
  valid : validateFrame frame = .none

/-- Changes of an object that leave its operation, its place in the map and its
stream alone. Whether waits may be aborted is a parameter. -/
inductive PendingRequest.Touch (aborts : Prop) (request : PendingRequest ν) :
    PendingRequest ν → Prop where
  | timer (timer : Timer) (started : request.timer ≠ .idle) :
      Touch aborts request { request with timer := timer }
  | asyncWait (handle : request.owner = .handle) : Touch aborts request request.asyncWait
  | abortWait (allowed : aborts) (wait : Nat) (waiting : wait ∈ request.channel.waiting) :
      Touch aborts request { request with
        channel := request.channel.withdraw wait
        resumed := request.resumed ++ [(wait, none)] }
  | released (handle : request.owner = .handle) (freed : request.streamReleased = true) :
      Touch aborts request { request with owner := .released }

theorem PendingRequest.create_sane (stream : StreamId) (response : τ)
    (deadline : Option Deadline) :
    (PendingRequest.create stream response deadline : PendingRequest ν).Sane where
  activated := by simp [create, Operation.activate, OperationState.transition,
    OperationState.canTransition]
  handler := rfl
  vacant := fun _ => ⟨rfl, rfl⟩

/-- The changes of a ledger that depend on the event at hand. -/
inductive Change where
  | leaks
  | registers (stream : StreamId)
  | admits (request : Nat)
  | returns (request : Nat)
  | abandons (request : Nat)
  | abortsWait (request : Nat)
  | completes (request : Nat) (frame : Frame)
  | rejects (request : Nat) (frame : Frame)
  | fails
  | accuses (frame : Frame)
  | charges
deriving DecidableEq, Repr

namespace Ledger

/-- An allocated stream gets a new request and its entry. -/
def register (ledger : Ledger ν) (stream : StreamId) (response : τ) (deadline : Option Deadline) :
    Ledger ν :=
  { ledger with
    streamIds := ledger.streamIds.allocate.1
    requests := ledger.requests ++ [PendingRequest.create stream response deadline]
    pending :=
      if (ledger.pending.lookup stream).isSome then ledger.pending
      else ledger.pending.insert stream ledger.requests.length }

/-- A suspended `start_request` holds its frame. -/
def hold (ledger : Ledger ν) (request : Nat) (frame : Option Frame) : Ledger ν :=
  { ledger with held := Function.update ledger.held request frame }

theorem hold_none (ledger : Ledger ν) (request : Nat) :
    (ledger.hold request none).held request = none := by
  simp [hold]

/-- The request frame is taken by the queue. -/
def submit (ledger : Ledger ν) (request : Nat) (object : PendingRequest ν) (frame : Frame) :
    Ledger ν :=
  ((ledger.hold request none).accept [frame]).replace request (object.started ledger.accepted.length)

/-- The object of a request that the queue refused. -/
def refusedObject (object : PendingRequest ν) (status : StatusCode) (message : String) :
    PendingRequest ν :=
  { object with owner := .refused status message }

/-- Why a frame is held against the peer. -/
def Blames (ledger : Ledger ν) (frame : Frame) : Prop :=
  frame.header.type ≠ .response ∨ ledger.pending.lookup frame.header.stream = none ∨
    frame.header.stream ∈ ledger.terminalStreams ∨
    (hasFlag frame.header.flags .error = true ∧ decodeErrorStatus frame = none)

/-- A frame dispatched against the rules. -/
def accuse (ledger : Ledger ν) (frame : Frame) (violation : StatusCode × String) : Ledger ν :=
  { ledger.charge violation with dispatched := ledger.dispatched ++ [frame] }

/-- The object after a wait took its completion and returned. -/
def returnedObject [DecidableEq τ] (registry : MessageRegistry τ) (codec : Codec τ ν)
    (object : PendingRequest ν) (wait : Nat) (posted : Option Frame) : PendingRequest ν :=
  let taken := { object with resumed := object.resumed.erase (wait, posted) }.cleaned true
  { taken with returned := taken.returned ++ [(wait, taken.waitOutcome registry codec posted)] }

/-- A request fails without a word to the peer and keeps its stream. -/
def Fails (before after : Ledger ν) : Prop :=
  ∃ request object operation result, before.requests[request]? = some object ∧
    FailsWith object.operation operation result ∧
    after = before.retire request object (object.failedWith operation result false) false

section Steps

variable [DecidableEq τ] (registry : MessageRegistry τ) (codec : Codec τ ν)
variable (permits : Ledger ν → Change → Prop)

/-- Everything the code of the connection does to its ledger. Some changes have
to be permitted where they happen. -/
inductive Step (ledger : Ledger ν) : Ledger ν → Prop where
  | allocated (kept : ledger.streamIds.allocate.2 = .exhausted ∨ permits ledger .leaks) :
      Step ledger { ledger with streamIds := ledger.streamIds.allocate.1 }
  | registered (stream : StreamId) (response : τ) (deadline : Option Deadline)
      (permitted : permits ledger (.registers stream))
      (allocation : ledger.streamIds.allocate.2 = .success stream) :
      Step ledger (ledger.register stream response deadline)
  | suspended (request : Nat) (object : PendingRequest ν) (frame : Frame)
      (found : ledger.requests[request]? = some object) (starting : object.owner = .starting)
      (framed : RequestFrame frame object.stream) : Step ledger (ledger.hold request (some frame))
  | admitted (request : Nat) (object : PendingRequest ν) (frame : Frame)
      (permitted : permits ledger (.admits request))
      (found : ledger.requests[request]? = some object) (starting : object.owner = .starting)
      (framed : RequestFrame frame object.stream) : Step ledger (ledger.submit request object frame)
  | refused (request : Nat) (object : PendingRequest ν) (operation : Operation StreamId)
      (status : StatusCode) (message : String)
      (found : ledger.requests[request]? = some object) (starting : object.owner = .starting)
      (fails : FailsWith object.operation operation (.failure status message)) :
      Step ledger ((ledger.hold request none).retire request object
        (refusedObject (object.failedWith operation (.failure status message) true) status message)
        true)
  | refusedLate (request : Nat) (object : PendingRequest ν) (status : StatusCode) (message : String)
      (found : ledger.requests[request]? = some object) (starting : object.owner = .starting)
      (inactive : object.operation.state ≠ .active) :
      Step ledger ((ledger.hold request none).retire request object
        (refusedObject (object.closeChannel.cleaned true) status message) true)
  | touched (request : Nat) (object new : PendingRequest ν)
      (found : ledger.requests[request]? = some object)
      (touch : object.Touch (permits ledger (.abortsWait request)) new) :
      Step ledger (ledger.replace request new)
  | abandoned (request : Nat) (object : PendingRequest ν) (operation : Operation StreamId)
      (result : OperationResult) (release : Bool) (offered : List Frame)
      (permitted : permits ledger (.abandons request))
      (found : ledger.requests[request]? = some object)
      (fails : FailsWith object.operation operation result)
      (kind : offered = [] ∨ offered = [ClientConnection.cancellationFrame object.stream]) :
      Step ledger ((ledger.retire request object (object.failedWith operation result release)
        release).accept offered)
  | failed (after : Ledger ν) (permitted : permits ledger .fails) (fails : ledger.Fails after) :
      Step ledger after
  | dropped (request : Nat) (object : PendingRequest ν)
      (found : ledger.requests[request]? = some object) (handle : object.owner = .handle)
      (inactive : object.operation.state ≠ .active) :
      Step ledger (ledger.retire request object (object.cleaned true) true)
  | returned (request : Nat) (object : PendingRequest ν) (wait : Nat) (posted : Option Frame)
      (permitted : permits ledger (.returns request))
      (found : ledger.requests[request]? = some object) (member : (wait, posted) ∈ object.resumed) :
      Step ledger (ledger.retire request object (returnedObject registry codec object wait posted)
        true)
  | completed (request : Nat) (object : PendingRequest ν) (frame : Frame)
      (permitted : permits ledger (.completes request frame))
      (found : ledger.requests[request]? = some object)
      (entry : ledger.pending.lookup frame.header.stream = some request)
      (active : object.operation.state = .active) (response : frame.header.type = .response)
      (open_ : frame.header.stream ∉ ledger.terminalStreams)
      (plain : hasFlag frame.header.flags .cancel = false ∧ hasFlag frame.header.flags .error = false) :
      Step ledger ((ledger.retire request object
        (object.completedWith ledger.dispatched.length frame) true).observe frame)
  | rejected (request : Nat) (object : PendingRequest ν) (operation : Operation StreamId)
      (result : OperationResult) (release : Bool) (offered : List Frame) (frame : Frame)
      (permitted : permits ledger (.rejects request frame))
      (found : ledger.requests[request]? = some object)
      (entry : ledger.pending.lookup frame.header.stream = some request)
      (fails : FailsWith object.operation operation result)
      (kind : offered = [] ∨ offered = [ClientConnection.cancellationFrame object.stream])
      (open_ : frame.header.stream ∉ ledger.terminalStreams)
      (silent : release = true ∧ offered = [] ∨ hasFlag frame.header.flags .cancel = true) :
      Step ledger (((ledger.retire request object (object.failedWith operation result release)
        release).accept offered).observe frame)
  | accused (frame : Frame) (violation : StatusCode × String)
      (permitted : permits ledger (.accuses frame)) : Step ledger (ledger.accuse frame violation)
  | charged (violation : StatusCode × String) (permitted : permits ledger .charges) :
      Step ledger (ledger.charge violation)

/-- A sequence of changes. -/
def Steps : Ledger ν → Ledger ν → Prop := Relation.ReflTransGen (Step registry codec permits)

end Steps

/-- The map, the shared objects and the allocator agree. -/
structure Consistent (ledger : Ledger ν) : Prop where
  allocator : ledger.streamIds.Sound
  sane : ∀ (request : Nat) (object : PendingRequest ν),
    ledger.requests[request]? = some object → object.Sane
  assigned : ∀ (request : Nat) (object : PendingRequest ν),
    ledger.requests[request]? = some object → object.stream.value ≠ 0
  entry : ∀ (stream : StreamId) (request : Nat), ledger.pending.lookup stream = some request →
    ∃ object, ledger.requests[request]? = some object ∧ object.stream = stream ∧
      object.operation.state = .active ∧ object.removed = false
  listed : ∀ (request : Nat) (object : PendingRequest ν),
    ledger.requests[request]? = some object → object.removed = false →
    ledger.pending.lookup object.stream = some request ∧ object.streamReleased = false
  inUse : ∀ (request : Nat) (object : PendingRequest ν),
    ledger.requests[request]? = some object → object.streamReleased = false →
    object.stream.value ∈ ledger.streamIds.inUse
  distinct : ∀ (first second : Nat) (one other : PendingRequest ν),
    ledger.requests[first]? = some one → ledger.requests[second]? = some other →
    one.streamReleased = false → other.streamReleased = false → one.stream = other.stream →
    first = second
  held : ∀ (request : Nat) (frame : Frame), ledger.held request = some frame →
    ∃ object, ledger.requests[request]? = some object ∧ object.owner = .starting ∧
      RequestFrame frame object.stream

section Retire

variable {ledger : Ledger ν} {request : Nat} {old new : PendingRequest ν} {release : Bool}
variable (consistent : ledger.Consistent) (found : ledger.requests[request]? = some old)

include found in
theorem retire_get (other : Nat) :
    (ledger.retire request old new release).requests[other]? =
      if other = request then some new else ledger.requests[other]? :=
  getElem?_set_found new found other

include consistent found in
/-- A frame that is held still belongs to a starting request when one object is
written. -/
theorem held_written {requests : List (PendingRequest ν)}
    (reading : ∀ other : Nat,
      requests[other]? = if other = request then some new else ledger.requests[other]?)
    (stream : new.stream = old.stream)
    (owner : new.owner = old.owner ∨ ledger.held request = none) (other : Nat) (frame : Frame)
    (holds : ledger.held other = some frame) :
    ∃ object, requests[other]? = some object ∧ object.owner = .starting ∧
      RequestFrame frame object.stream := by
  obtain ⟨object, present, starting, framed⟩ := consistent.held other frame holds
  by_cases same : other = request
  · subst same
    rw [found] at present
    obtain rfl := Option.some.inj present
    refine ⟨new, (reading other).trans (if_pos rfl), ?_, stream ▸ framed⟩
    rcases owner with kept | idle
    · exact kept.trans starting
    · rw [idle] at holds
      simp at holds
  · exact ⟨object, ((reading other).trans (if_neg same)).trans present, starting, framed⟩

/-- The other entries stay. -/
theorem retire_lookup (stream : StreamId) (spared : stream ≠ old.stream ∨ old.removed = true) :
    (ledger.retire request old new release).pending.lookup stream =
      ledger.pending.lookup stream := by
  unfold retire
  rcases spared with different | gone
  · cases old.removed with
    | true => rfl
    | false => exact AList.lookup_erase_ne different
  · rw [gone]
    rfl

include consistent in
/-- The other identifiers in use stay. -/
theorem retire_inUse (value : UInt64) (used : value ∈ ledger.streamIds.inUse)
    (spared : value ≠ old.stream.value ∨ old.streamReleased = true ∨ release = false) :
    value ∈ (ledger.retire request old new release).streamIds.inUse := by
  unfold retire
  by_cases releases : (release && !old.streamReleased) = true
  · rw [if_pos releases, (ledger.streamIds.release_spec consistent.allocator old.stream).2.2.2.1]
    refine Finset.mem_erase.mpr ⟨?_, used⟩
    rcases spared with different | done | unasked
    · exact different
    · simp [done] at releases
    · simp [unasked] at releases
  · rw [if_neg releases]
    exact used

include consistent found in
/-- An entry left after retiring a request belongs to another request. -/
theorem retire_entry (key : StreamId) (other : Nat)
    (lookup : (ledger.retire request old new release).pending.lookup key = some other) :
    ledger.pending.lookup key = some other ∧ other ≠ request := by
  have spared : key ≠ old.stream ∨ old.removed = true := by
    by_contra both
    obtain ⟨same, live⟩ := not_or.mp both
    obtain rfl : key = old.stream := not_not.mp same
    simp [retire, Bool.eq_false_iff.mpr live] at lookup
  rw [retire_lookup key spared] at lookup
  refine ⟨lookup, ?_⟩
  rintro rfl
  obtain ⟨object, present, sameStream, -, live⟩ := consistent.entry key other lookup
  rw [found] at present
  obtain rfl := Option.some.inj present
  rcases spared with different | gone
  · exact different sameStream.symm
  · simp [gone] at live

include consistent found in
/-- Another request that is still listed keeps its entry. -/
theorem retire_listed (other : Nat) (object : PendingRequest ν) (different : other ≠ request)
    (lookup : ledger.pending.lookup object.stream = some other) :
    (ledger.retire request old new release).pending.lookup object.stream = some other := by
  rw [retire_lookup]
  · exact lookup
  · cases gone : old.removed with
    | true => exact Or.inr rfl
    | false =>
      left
      intro same
      have own := (consistent.listed request old found gone).1
      rw [← same, lookup] at own
      exact different (Option.some.inj own)

include consistent found in
/-- Another request that still holds its stream keeps it. -/
theorem retire_inUse_other (other : Nat) (object : PendingRequest ν) (different : other ≠ request)
    (present : ledger.requests[other]? = some object) (unreleased : object.streamReleased = false) :
    object.stream.value ∈ (ledger.retire request old new release).streamIds.inUse := by
  apply retire_inUse consistent _ (consistent.inUse other object present unreleased)
  cases before : old.streamReleased with
  | true => exact Or.inr (Or.inl rfl)
  | false =>
    left
    intro same
    exact different (consistent.distinct other request object old present found unreleased before
      (StrongId.eq_of_value same))

include consistent found in
/-- Retiring a request keeps the agreement: its entry goes, its stream goes at
most once, and no other object is touched. -/
theorem retire_consistent (stream : new.stream = old.stream) (removed : new.removed = true)
    (released : new.streamReleased = (old.streamReleased || release)) (sane : new.Sane)
    (owner : new.owner = old.owner ∨ ledger.held request = none) :
    (ledger.retire request old new release).Consistent := by
  have before : new.streamReleased = false → old.streamReleased = false ∧ release = false :=
    fun unreleased => Bool.or_eq_false_iff.mp (released.symm.trans unreleased)
  constructor
  · change StreamIdAllocator.Sound
      (if release && !old.streamReleased then ledger.streamIds.release old.stream
      else ledger.streamIds)
    split
    · exact (ledger.streamIds.release_spec consistent.allocator old.stream).1
    · exact consistent.allocator
  · intro other object present
    rw [retire_get found] at present
    split at present
    · exact Option.some.inj present ▸ sane
    · exact consistent.sane other object present
  · intro other object present
    rw [retire_get found] at present
    split at present
    · rw [← Option.some.inj present, stream]
      exact consistent.assigned request old found
    · exact consistent.assigned other object present
  · intro key other lookup
    obtain ⟨earlier, different⟩ := retire_entry consistent found key other lookup
    obtain ⟨object, present, rest⟩ := consistent.entry key other earlier
    exact ⟨object, ((retire_get found other).trans (if_neg different)).trans present, rest⟩
  · intro other object present live
    rw [retire_get found] at present
    split at present
    · rw [← Option.some.inj present, removed] at live
      simp at live
    · rename_i different
      obtain ⟨lookup, unreleased⟩ := consistent.listed other object present live
      exact ⟨retire_listed consistent found other object different lookup, unreleased⟩
  · intro other object present unreleased
    rw [retire_get found] at present
    split at present
    · obtain rfl := Option.some.inj present
      obtain ⟨earlier, unasked⟩ := before unreleased
      rw [stream]
      exact retire_inUse consistent _ (consistent.inUse request old found earlier)
        (Or.inr (Or.inr unasked))
    · rename_i different
      exact retire_inUse_other consistent found other object different present unreleased
  · intro first second one other present presentOther unreleased unreleasedOther same
    rw [retire_get found] at present presentOther
    split at present
    · rename_i atFirst
      split at presentOther
      · rename_i atSecond
        exact atFirst.trans atSecond.symm
      · obtain rfl := Option.some.inj present
        rw [atFirst]
        exact consistent.distinct request second old other found presentOther (before unreleased).1
          unreleasedOther (stream.symm.trans same)
    · split at presentOther
      · rename_i atSecond
        obtain rfl := Option.some.inj presentOther
        rw [atSecond]
        exact consistent.distinct first request one old present found unreleased
          (before unreleasedOther).1 (same.trans stream)
      · exact consistent.distinct first second one other present presentOther unreleased
          unreleasedOther same
  · intro other frame holds
    exact held_written consistent found (retire_get found) stream owner other frame holds

include consistent found in
/-- Rewriting an object without changing its stream, flags or place in the map
keeps the agreement. -/
theorem replace_consistent (stream : new.stream = old.stream) (removed : new.removed = old.removed)
    (released : new.streamReleased = old.streamReleased)
    (state : new.operation.state = old.operation.state) (sane : new.Sane)
    (owner : new.owner = old.owner ∨ ledger.held request = none) :
    (ledger.replace request new).Consistent := by
  have reading : ∀ other, (ledger.replace request new).requests[other]? =
      if other = request then some new else ledger.requests[other]? := getElem?_set_found new found
  -- whatever is read afterwards was read before, up to the fields that do not count
  have earlier : ∀ (other : Nat) (object : PendingRequest ν),
      (ledger.replace request new).requests[other]? = some object →
      ∃ original, ledger.requests[other]? = some original ∧ object.stream = original.stream ∧
        object.removed = original.removed ∧ object.streamReleased = original.streamReleased := by
    intro other object present
    rw [reading] at present
    split at present
    · rename_i same
      rw [← Option.some.inj present]
      exact ⟨old, same ▸ found, stream, removed, released⟩
    · exact ⟨object, present, rfl, rfl, rfl⟩
  constructor
  · exact consistent.allocator
  · intro other object present
    rw [reading] at present
    split at present
    · exact Option.some.inj present ▸ sane
    · exact consistent.sane other object present
  · intro other object present
    obtain ⟨original, before, same, -⟩ := earlier other object present
    rw [same]
    exact consistent.assigned other original before
  · intro key other lookup
    obtain ⟨object, present, sameStream, active, live⟩ := consistent.entry key other lookup
    by_cases same : other = request
    · subst same
      rw [found] at present
      obtain rfl := Option.some.inj present
      exact ⟨new, (reading other).trans (if_pos rfl), stream.trans sameStream, state.trans active,
        removed.trans live⟩
    · exact ⟨object, ((reading other).trans (if_neg same)).trans present, sameStream, active, live⟩
  · intro other object present live
    obtain ⟨original, before, same, sameRemoved, sameReleased⟩ := earlier other object present
    rw [same, sameReleased]
    exact consistent.listed other original before (sameRemoved ▸ live)
  · intro other object present unreleased
    obtain ⟨original, before, same, -, sameReleased⟩ := earlier other object present
    rw [same]
    exact consistent.inUse other original before (sameReleased ▸ unreleased)
  · intro first second one other present presentOther unreleased unreleasedOther equal
    obtain ⟨original, before, same, -, sameReleased⟩ := earlier first one present
    obtain ⟨originalOther, beforeOther, sameOther, -, sameReleasedOther⟩ :=
      earlier second other presentOther
    exact consistent.distinct first second original originalOther before beforeOther
      (sameReleased ▸ unreleased) (sameReleasedOther ▸ unreleasedOther)
      (same.symm.trans (equal.trans sameOther))
  · intro other frame holds
    exact held_written consistent found reading stream owner other frame holds

end Retire

section Register

variable {ledger : Ledger ν} (consistent : ledger.Consistent)
include consistent

/-- An allocated stream belongs to no object that still holds its stream. -/
theorem allocated_unused (stream : StreamId)
    (allocation : ledger.streamIds.allocate.2 = .success stream) {request : Nat}
    {object : PendingRequest ν} (present : ledger.requests[request]? = some object)
    (unreleased : object.streamReleased = false) : object.stream ≠ stream := by
  obtain ⟨-, free, -⟩ := ledger.streamIds.allocate_success consistent.allocator allocation
  rintro rfl
  exact free (consistent.inUse request object present unreleased)

/-- An allocated stream has no entry yet. -/
theorem allocated_unlisted (stream : StreamId)
    (allocation : ledger.streamIds.allocate.2 = .success stream) :
    ledger.pending.lookup stream = none := by
  cases entry : ledger.pending.lookup stream with
  | none => rfl
  | some request =>
    obtain ⟨object, present, same, -, live⟩ := consistent.entry stream request entry
    have unreleased := (consistent.listed request object present live).2
    exact absurd same (allocated_unused consistent stream allocation present unreleased)

/-- Allocating, without a request to show for it, keeps the agreement. -/
theorem allocated_consistent :
    ({ ledger with streamIds := ledger.streamIds.allocate.1 } : Ledger ν).Consistent := by
  obtain ⟨sound, -, -, outcome⟩ := ledger.streamIds.allocate_spec consistent.allocator
  refine ⟨sound, consistent.sane, consistent.assigned, consistent.entry, consistent.listed, ?_,
    consistent.distinct, consistent.held⟩
  intro request object present unreleased
  have used := consistent.inUse request object present unreleased
  rcases outcome with ⟨_, -, -, -, inUse, -⟩ | ⟨-, inUse, -⟩
  · rw [inUse]
    exact Finset.mem_insert_of_mem used
  · rw [inUse]
    exact used

/-- A registered request is fresh, its stream was free, and it is listed. -/
theorem register_consistent (stream : StreamId) (response : τ) (deadline : Option Deadline)
    (allocation : ledger.streamIds.allocate.2 = .success stream) :
    (ledger.register stream response deadline).Consistent := by
  have sound := (ledger.streamIds.allocate_spec consistent.allocator).1
  obtain ⟨positive, -, inUse⟩ :=
    ledger.streamIds.allocate_success consistent.allocator allocation
  have unlisted := allocated_unlisted consistent stream allocation
  have pending_eq : (ledger.register stream response deadline).pending =
      ledger.pending.insert stream ledger.requests.length := by
    simp [register, unlisted]
  have unused : ∀ (request : Nat) (object : PendingRequest ν),
      ledger.requests[request]? = some object → object.streamReleased = false →
      object.stream ≠ stream :=
    fun _ _ present unreleased => allocated_unused consistent stream allocation present unreleased
  have reading : ∀ (request : Nat) (object : PendingRequest ν),
      (ledger.register stream response deadline).requests[request]? = some object →
      ledger.requests[request]? = some object ∨
        request = ledger.requests.length ∧
          object = PendingRequest.create stream response deadline := by
    intro request object present
    exact getElem?_append_singleton present
  have fresh : (ledger.register stream response deadline).requests[ledger.requests.length]? =
      some (PendingRequest.create stream response deadline) := by
    simp [register]
  constructor
  · exact sound
  · intro request object present
    rcases reading request object present with before | ⟨-, rfl⟩
    · exact consistent.sane request object before
    · exact PendingRequest.create_sane stream response deadline
  · intro request object present
    rcases reading request object present with before | ⟨-, rfl⟩
    · exact consistent.assigned request object before
    · exact positive
  · intro key request lookup
    rw [pending_eq] at lookup
    by_cases same : key = stream
    · subst same
      rw [AList.lookup_insert] at lookup
      obtain rfl := Option.some.inj lookup
      exact ⟨_, fresh, rfl, rfl, rfl⟩
    · rw [AList.lookup_insert_ne same] at lookup
      obtain ⟨object, present, rest⟩ := consistent.entry key request lookup
      exact ⟨object, getElem?_append_found present, rest⟩
  · intro request object present live
    rw [pending_eq]
    rcases reading request object present with before | ⟨rfl, rfl⟩
    · obtain ⟨lookup, unreleased⟩ := consistent.listed request object before live
      rw [AList.lookup_insert_ne (unused request object before unreleased)]
      exact ⟨lookup, unreleased⟩
    · exact ⟨AList.lookup_insert _, rfl⟩
  · intro request object present unreleased
    have inUse : (ledger.register stream response deadline).streamIds.inUse =
        insert stream.value ledger.streamIds.inUse := inUse
    rw [inUse]
    rcases reading request object present with before | ⟨-, rfl⟩
    · exact Finset.mem_insert_of_mem (consistent.inUse request object before unreleased)
    · exact Finset.mem_insert_self _ _
  · intro first second one other present presentOther unreleased unreleasedOther same
    rcases reading first one present with before | ⟨rfl, rfl⟩
    · rcases reading second other presentOther with beforeOther | ⟨rfl, rfl⟩
      · exact consistent.distinct first second one other before beforeOther unreleased
          unreleasedOther same
      · exact absurd same (unused first one before unreleased)
    · rcases reading second other presentOther with beforeOther | ⟨rfl, rfl⟩
      · exact absurd same.symm (unused second other beforeOther unreleasedOther)
      · rfl
  · intro request frame holds
    obtain ⟨object, present, rest⟩ := consistent.held request frame holds
    exact ⟨object, getElem?_append_found present, rest⟩

/-- Holding a frame for a starting request keeps the agreement. -/
theorem hold_consistent (request : Nat) (frame : Option Frame)
    (framed : ∀ kept, frame = some kept → ∃ object, ledger.requests[request]? = some object ∧
      object.owner = .starting ∧ RequestFrame kept object.stream) :
    (ledger.hold request frame).Consistent := by
  refine ⟨consistent.allocator, consistent.sane, consistent.assigned, consistent.entry,
    consistent.listed, consistent.inUse, consistent.distinct, ?_⟩
  intro other kept holds
  by_cases same : other = request
  · subst same
    have holds : frame = some kept := by simpa [hold] using holds
    exact framed kept holds
  · have holds : ledger.held other = some kept := by simpa [hold, same] using holds
    exact consistent.held other kept holds

/-- History and the set of terminal streams do not matter. -/
theorem history_consistent (other : Ledger ν) (requests : other.requests = ledger.requests)
    (pending : other.pending = ledger.pending) (streamIds : other.streamIds = ledger.streamIds)
    (held : other.held = ledger.held) : other.Consistent := by
  constructor
  · exact streamIds ▸ consistent.allocator
  · exact requests ▸ consistent.sane
  · exact requests ▸ consistent.assigned
  · rw [pending, requests]
    exact consistent.entry
  · rw [pending, requests]
    exact consistent.listed
  · rw [streamIds, requests]
    exact consistent.inUse
  · exact requests ▸ consistent.distinct
  · rw [held, requests]
    exact consistent.held

end Register

end Ledger

namespace PendingRequest

variable {request : PendingRequest ν} (sane : request.Sane)
include sane

theorem Sane.failedWith {operation : Operation StreamId} {result : OperationResult}
    (fails : FailsWith request.operation operation result) (release : Bool) :
    (request.failedWith operation result release).Sane where
  activated := by
    rcases fails.state with failed | cancelled
    · exact fun created => by simp [PendingRequest.failedWith, cleaned, closeChannel, failed] at created
    · exact fun created => by
        simp [PendingRequest.failedWith, cleaned, closeChannel, cancelled] at created
  handler := (fails.handler.trans sane.handler).trans (congrArg some fails.stream.symm)
  vacant := by
    intro active
    rcases fails.state with failed | cancelled
    · simp [PendingRequest.failedWith, cleaned, closeChannel, failed] at active
    · simp [PendingRequest.failedWith, cleaned, closeChannel, cancelled] at active

theorem Sane.cleaned (release : Bool) : (request.cleaned release).Sane :=
  ⟨sane.activated, sane.handler, sane.vacant⟩

theorem Sane.closeChannel (inactive : request.operation.state ≠ .active) : request.closeChannel.Sane :=
  ⟨sane.activated, sane.handler, fun active => absurd active inactive⟩

theorem Sane.completedWith (position : Nat) (frame : Frame) :
    (request.completedWith position frame).Sane := by
  have operation : (request.completedWith position frame).operation =
      request.completedOperation := by
    simp [PendingRequest.completedWith, PendingRequest.cleaned]
  refine ⟨?_, ?_, ?_⟩
  · rw [operation]
    simp [completedOperation]
  · rw [stream, operation]
    exact sane.handler
  · rw [operation]
    simp [completedOperation]

theorem Sane.started (index : Nat) : (request.started index).Sane := by
  unfold PendingRequest.started startTimer
  split
  · exact ⟨sane.activated, sane.handler, sane.vacant⟩
  · rename_i deadline _
    simp only [Operation.setDeadline]
    split
    · exact ⟨sane.activated, sane.handler, sane.vacant⟩
    · exact ⟨sane.activated, sane.handler, sane.vacant⟩

/-- A touched object keeps everything the table depends on. -/
theorem Sane.touch {aborts : Prop} {new : PendingRequest ν} (touch : request.Touch aborts new) :
    new.Sane ∧ new.operation = request.operation ∧ new.removed = request.removed ∧
      new.streamReleased = request.streamReleased ∧
      (new.owner = request.owner ∨ request.owner = .handle) := by
  cases touch with
  | timer timer started => exact ⟨⟨sane.activated, sane.handler, sane.vacant⟩, rfl, rfl, rfl, Or.inl rfl⟩
  | asyncWait handle =>
    refine ⟨⟨sane.activated, sane.handler, ?_⟩, rfl, rfl, rfl, Or.inl rfl⟩
    intro active
    obtain ⟨notClosed, vacant⟩ := sane.vacant active
    cases asked : request.channel.receive request.waits with
    | mk channel reception =>
      have after : request.asyncWait.channel = channel := by simp [PendingRequest.asyncWait, asked]
      rw [after]
      cases reception with
      | suspended =>
        obtain ⟨-, -, buffer, closed, -⟩ := request.channel.receive_suspended channel _ asked
        exact ⟨closed, buffer⟩
      | message frame =>
        have buffered := (request.channel.receive_message channel frame _ asked).1
        simp [vacant] at buffered
      | closed =>
        have closed := (request.channel.receive_closed channel _ asked).2.2
        simp [notClosed] at closed
  | abortWait allowed wait waiting =>
    exact ⟨⟨sane.activated, sane.handler, sane.vacant⟩, rfl, rfl, rfl, Or.inl rfl⟩
  | released handle freed =>
    exact ⟨⟨sane.activated, sane.handler, sane.vacant⟩, rfl, rfl, rfl, Or.inr handle⟩

end PendingRequest

/-- Failing a request keeps the agreement. -/
theorem Ledger.Fails.consistent {before after : Ledger ν} (fails : before.Fails after)
    (consistent : before.Consistent) : after.Consistent := by
  obtain ⟨request, object, operation, result, found, fails, rfl⟩ := fails
  have sane := (consistent.sane request object found).failedWith fails false
  exact retire_consistent consistent found fails.stream rfl rfl sane (Or.inl rfl)

theorem Ledger.Fails.consistent_all {before after : Ledger ν}
    (failing : Relation.ReflTransGen Fails before after) (consistent : before.Consistent) :
    after.Consistent := by
  induction failing with
  | refl => exact consistent
  | tail _ fails inductionHypothesis => exact fails.consistent inductionHypothesis

section Runs

variable [DecidableEq τ] {registry : MessageRegistry τ} {codec : Codec τ ν}
variable {permits : Ledger ν → Change → Prop}

omit [DecidableEq τ] in
/-- Once `start_request` has returned a handle, it holds no frame. -/
theorem Ledger.held_none_of_handle {ledger : Ledger ν} {request : Nat} {object : PendingRequest ν}
    (consistent : ledger.Consistent) (found : ledger.requests[request]? = some object)
    (handle : object.owner = .handle) : ledger.held request = none := by
  cases holds : ledger.held request with
  | none => rfl
  | some frame =>
    obtain ⟨other, present, starting, -⟩ := consistent.held request frame holds
    rw [found] at present
    rw [← Option.some.inj present, handle] at starting
    simp at starting

/-- Every change keeps the map, the objects and the allocator in agreement. -/
theorem Ledger.Step.consistent {before after : Ledger ν}
    (step : Step registry codec permits before after) (consistent : before.Consistent) : after.Consistent := by
  cases step with
  | allocated kept => exact allocated_consistent consistent
  | registered stream response deadline permitted allocation =>
    exact register_consistent consistent stream response deadline allocation
  | suspended request object frame found starting framed =>
    apply hold_consistent consistent
    rintro kept ⟨rfl⟩
    exact ⟨object, found, starting, framed⟩
  | admitted request object frame permitted found starting framed =>
    have released := hold_consistent consistent request none (by simp)
    have accepted := history_consistent released ((before.hold request none).accept [frame])
      rfl rfl rfl rfl
    have sane := consistent.sane request object found
    exact replace_consistent accepted found (PendingRequest.startTimer_stream _)
      (PendingRequest.startTimer_removed _) (PendingRequest.startTimer_streamReleased _)
      (PendingRequest.startTimer_state _) (sane.started _)
      (Or.inr (hold_none before request))
  | refused request object operation status message found starting fails =>
    have released := hold_consistent consistent request none (by simp)
    have sane := (consistent.sane request object found).failedWith fails true
    exact retire_consistent released found fails.stream rfl rfl
      ⟨sane.activated, sane.handler, sane.vacant⟩
      (Or.inr (hold_none before request))
  | refusedLate request object status message found starting inactive =>
    have released := hold_consistent consistent request none (by simp)
    have sane := ((consistent.sane request object found).closeChannel inactive).cleaned true
    exact retire_consistent released found rfl rfl rfl
      ⟨sane.activated, sane.handler, sane.vacant⟩
      (Or.inr (hold_none before request))
  | touched request object new found touch =>
    obtain ⟨sane, operation, removed, released, owner⟩ :=
      (consistent.sane request object found).touch touch
    refine replace_consistent consistent found (congrArg Operation.stream operation) removed
      released (congrArg Operation.state operation) sane ?_
    rcases owner with kept | handle
    · exact Or.inl kept
    · exact Or.inr (held_none_of_handle consistent found handle)
  | abandoned request object operation result release offered permitted found fails kind =>
    have sane := (consistent.sane request object found).failedWith fails release
    have stream : (object.failedWith operation result release).stream = object.stream := fails.stream
    have retired := retire_consistent consistent found stream rfl rfl sane (Or.inl rfl)
    exact history_consistent retired _ rfl rfl rfl rfl
  | failed after permitted fails => exact fails.consistent consistent
  | dropped request object found handle inactive =>
    exact retire_consistent consistent found rfl rfl rfl
      ((consistent.sane request object found).cleaned true) (Or.inl rfl)
  | returned request object wait posted permitted found member =>
    have sane := consistent.sane request object found
    exact retire_consistent consistent found rfl rfl rfl
      ⟨sane.activated, sane.handler, sane.vacant⟩ (Or.inl rfl)
  | completed request object frame permitted found entry active response open_ plain =>
    have sane := (consistent.sane request object found).completedWith before.dispatched.length frame
    have retired := retire_consistent consistent found
      (PendingRequest.completedWith_stream object _ frame) rfl
      (PendingRequest.completedWith_streamReleased object _ frame) sane
      (Or.inl (PendingRequest.completedWith_owner object _ frame))
    exact history_consistent retired _ rfl rfl rfl rfl
  | rejected request object operation result release offered frame permitted found entry fails kind
      open_ silent =>
    have sane := (consistent.sane request object found).failedWith fails release
    have stream : (object.failedWith operation result release).stream = object.stream := fails.stream
    have retired := retire_consistent consistent found stream rfl rfl sane (Or.inl rfl)
    exact history_consistent retired _ rfl rfl rfl rfl
  | accused frame violation permitted => exact history_consistent consistent _ rfl rfl rfl rfl
  | charged violation permitted => exact history_consistent consistent _ rfl rfl rfl rfl

/-- Failing requests is a sequence of changes. -/
theorem Ledger.Fails.steps {before after : Ledger ν}
    (permitted : ∀ ledger, permits ledger .fails)
    (failing : Relation.ReflTransGen Fails before after) :
    Steps registry codec permits before after := by
  induction failing with
  | refl => exact .refl
  | tail _ fails inductionHypothesis => exact inductionHypothesis.tail (.failed _ (permitted _) fails)

/-- More may be permitted. -/
theorem Ledger.Step.weaken {more : Ledger ν → Change → Prop}
    (weakens : ∀ ledger change, permits ledger change → more ledger change) {before after : Ledger ν}
    (step : Step registry codec permits before after) : Step registry codec more before after := by
  cases step with
  | allocated kept => exact .allocated (kept.imp_right (weakens _ _))
  | registered stream response deadline permitted allocation =>
    exact .registered stream response deadline (weakens _ _ permitted) allocation
  | suspended request object frame found starting framed =>
    exact .suspended request object frame found starting framed
  | admitted request object frame permitted found starting framed =>
    exact .admitted request object frame (weakens _ _ permitted) found starting framed
  | refused request object operation status message found starting fails =>
    exact .refused request object operation status message found starting fails
  | refusedLate request object status message found starting inactive =>
    exact .refusedLate request object status message found starting inactive
  | touched request object new found touch =>
    refine .touched request object new found ?_
    cases touch with
    | timer timer started => exact .timer timer started
    | asyncWait handle => exact .asyncWait handle
    | abortWait allowed wait waiting => exact .abortWait (weakens _ _ allowed) wait waiting
    | released handle freed => exact .released handle freed
  | abandoned request object operation result release offered permitted found fails kind =>
    exact .abandoned request object operation result release offered (weakens _ _ permitted) found
      fails kind
  | failed after permitted fails => exact .failed after (weakens _ _ permitted) fails
  | dropped request object found handle inactive =>
    exact .dropped request object found handle inactive
  | returned request object wait posted permitted found member =>
    exact .returned request object wait posted (weakens _ _ permitted) found member
  | completed request object frame permitted found entry active response open_ plain =>
    exact .completed request object frame (weakens _ _ permitted) found entry active response open_
      plain
  | rejected request object operation result release offered frame permitted found entry fails kind
      open_ silent =>
    exact .rejected request object operation result release offered frame (weakens _ _ permitted)
      found entry fails kind open_ silent
  | accused frame violation permitted => exact .accused frame violation (weakens _ _ permitted)
  | charged violation permitted => exact .charged violation (weakens _ _ permitted)

theorem Ledger.Steps.weaken {more : Ledger ν → Change → Prop}
    (weakens : ∀ ledger change, permits ledger change → more ledger change) {before after : Ledger ν}
    (steps : Steps registry codec permits before after) : Steps registry codec more before after := by
  induction steps with
  | refl => exact .refl
  | tail _ step inductionHypothesis => exact inductionHypothesis.tail (step.weaken weakens)

/-- A sequence of changes keeps the agreement. -/
theorem Ledger.Steps.consistent {before after : Ledger ν}
    (steps : Steps registry codec permits before after) (consistent : before.Consistent) : after.Consistent := by
  induction steps with
  | refl => exact consistent
  | tail _ step inductionHypothesis => exact step.consistent inductionHypothesis

end Runs

end Table

end Rillnet
