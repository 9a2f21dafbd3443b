import Rillnet.ServerAnnals
import Rillnet.ServerEndings

/-!
# Operations that leave the map

A handler coroutine takes its operation out of the map at its end, however that
came about. An undecodable request has failed its operation by then and a response
has completed it. A handler that throws, and one whose response cannot be encoded,
leave the operation as it is: if nobody else has settled it, it goes unfinished.
Along the runs in which that does not happen every operation outside the map has a
result, and the diagnostics are balanced.
-/

namespace Rillnet

section Reports

variable {τ : Type} {ν : τ → Type}

open DiagnosticsEvent (started)
open ClientConnection (completionEvent)

/-- A coroutine at its end has not left its operation active. -/
def Invocation.Concluded (object : Invocation ν) : Prop :=
  object.stage = .finished → object.operation.state ≠ .active

/-- Of all the ways a coroutine comes to its end only the silent one may leave its
operation active. -/
theorem Invocation.Goes.concluded {accepted : Nat} {ends : Ending → Prop} {old new : Invocation ν}
    (goes : old.Goes accepted ends new) (concluded : old.Concluded)
    (activated : old.operation.state ≠ .created)
    (completed : old.stage = .responding → old.operation.state = .completed)
    (silent : ends .silent → old.operation.state ≠ .active) : new.Concluded := by
  have ready (operation : Operation StreamId)
      (kind : (old.stage = .handling ∧ old.operation.state = .active ∧
          operation = old.operation.answered) ∨
        (old.stage = .responding ∧ operation = old.operation)) : operation.state ≠ .active := by
    rcases kind with ⟨-, -, rfl⟩ | ⟨responding, rfl⟩
    · simp [Operation.answered]
    · simp [completed responding]
  cases goes with
  | same => exact concluded
  | cancelled =>
    intro finished
    dsimp only
    rw [old.operation.cancel_eq _ activated, if_neg (concluded finished)]
    exact concluded finished
  | lost =>
    intro finished
    dsimp only
    rw [old.operation.lost_eq activated, if_neg (concluded finished)]
    exact concluded finished
  | started argument spawned =>
    intro finished
    simp at finished
  | undecodable status message offered rejects spawned failure =>
    intro _
    dsimp only
    rw [old.operation.fail_eq _ _ failure]
    split
    · simp
    · assumption
  | dropped quiet handling => exact fun _ => silent quiet
  | refused operation refuses kind => exact fun _ => ready operation kind
  | suspended handling active =>
    intro finished
    simp at finished
  | replied operation frame replies framed kind => exact fun _ => ready operation kind

namespace ServerConnection

section Guard

variable [DecidableEq τ] (registry : MessageRegistry τ) (codec : Codec τ ν)

/-- The event ends a handler coroutine whose operation is active and gives it no
result: the handler throws, or its response cannot be encoded. -/
def forsakes (server : ServerConnection ν) : ServerEvent ν → Bool
  | .handlerThrows invocation =>
    server.invocations[invocation]?.any fun object => decide (object.operation.state = .active)
  | .handlerReturns invocation type value =>
    server.invocations[invocation]?.any fun object =>
      decide (object.operation.state = .active) &&
        (encodeMessage registry codec type value object.stream .response).frame.isNone
  | _ => false

/-- The event forsakes no operation. -/
def forsakesNone (server : ServerConnection ν) (event : ServerEvent ν) : Prop :=
  server.forsakes registry codec event = false

instance (server : ServerConnection ν) (event : ServerEvent ν) :
    Decidable (forsakesNone registry codec server event) :=
  inferInstanceAs (Decidable (_ = _))

variable {registry codec} {server : ServerConnection ν}

/-- A silent end of an active operation forsakes it. -/
theorem silent_forsakes {event : ServerEvent ν} {invocation : Nat} {object : Invocation ν}
    (found : server.invocations[invocation]? = some object)
    (silent : server.ending registry codec event = some (invocation, .silent))
    (active : object.operation.state = .active) :
    server.forsakes registry codec event = true := by
  cases event with
  | handlerThrows place =>
    obtain ⟨rfl, -⟩ := Prod.mk.inj (Option.some.inj silent)
    simp [forsakes, found, active]
  | handlerReturns place type value =>
    simp only [ending, Option.bind_eq_some_iff] at silent
    obtain ⟨old, present, silent⟩ := silent
    split at silent
    · rename_i unsent
      obtain ⟨rfl, -⟩ := Prod.mk.inj (Option.some.inj silent)
      obtain rfl : old = object := Option.some.inj (present.symm.trans found)
      have absent := Option.map_eq_none_iff.mp unsent
      simp [forsakes, found, active, absent]
    · split at silent
      · obtain ⟨result, -, ended⟩ := Option.map_eq_some_iff.mp silent
        obtain ⟨-, kind⟩ := Prod.mk.inj ended
        split at kind <;> simp at kind
      · rename_i inactive
        obtain ⟨rfl, -⟩ := Prod.mk.inj (Option.some.inj silent)
        obtain rfl : old = object := Option.some.inj (present.symm.trans found)
        exact absurd active inactive
  | startHandler place =>
    simp only [ending, Option.bind_eq_some_iff] at silent
    obtain ⟨old, -, silent⟩ := silent
    split at silent <;> simp at silent
  | resumeEnqueue place =>
    simp only [ending, Option.bind_eq_some_iff] at silent
    obtain ⟨frame, -, outcome, -, silent⟩ := silent
    obtain ⟨result, -, ended⟩ := Option.map_eq_some_iff.mp silent
    obtain ⟨-, kind⟩ := Prod.mk.inj ended
    split at kind <;> simp at kind
  | _ => simp [ending] at silent

/-- What holds of the operations of a server, whatever its handlers do. -/
theorem Reachable.sane {guard : ServerConnection ν → ServerEvent ν → Prop}
    {limits : WriteQueueLimits} (reachable : Reachable registry codec guard limits server) :
    server.annals.Sane := by
  apply Reachability.Reaches.invariant (fun server => server.annals.Sane) ?_ ?_ reachable
  · constructor
    · intro life member
      simp [create, annals] at member
    · intro event member
      simp [create, annals] at member
  · intro before event after sane _ stepped
    exact (before.step_annals sane registry codec event after stepped).sane sane

/-- Every coroutine at its end has settled its operation. -/
def AllConcluded (server : ServerConnection ν) : Prop :=
  ∀ (invocation : Nat) (object : Invocation ν), server.invocations[invocation]? = some object →
    object.Concluded

/-- A step that forsakes no operation keeps it so. -/
theorem step_concluded (sound : server.book.Sound) (concluded : server.AllConcluded)
    {event : ServerEvent ν} {after : ServerConnection ν}
    (stepped : server.step registry codec event = some after)
    (attends : server.forsakes registry codec event = false) : after.AllConcluded := by
  intro invocation new present
  rcases server.step_book sound event after stepped with same | change
  · have kept : after.invocations = server.invocations := congrArg Book.invocations same
    exact concluded invocation new (kept ▸ present)
  · rcases change.comes present with ⟨object, found, goes⟩ | ⟨frame, handler, -, -, -, rfl⟩
    · apply goes.concluded (concluded invocation object found)
        (sound.operation invocation object found).2.2 (sound.responding invocation object found)
      intro silent active
      have forsaken := silent_forsakes found (server.brings_ends silent) active
      simp [attends] at forsaken
    · intro finished
      simp [Invocation.spawn] at finished

/-- A forsaken operation is out of the map and active. -/
theorem forsaken_active {event : ServerEvent ν} {after : ServerConnection ν}
    (stepped : server.step registry codec event = some after)
    (forsaken : server.forsakes registry codec event = true) :
    ∃ (invocation : Nat) (object : Invocation ν), after.invocations[invocation]? = some object ∧
      after.operations.lookup object.stream ≠ some invocation ∧
      object.operation.state = .active := by
  have finishes (invocation : Nat) (object : Invocation ν)
      (found : server.invocations[invocation]? = some object)
      (active : object.operation.state = .active)
      (ends : after = server.finishHandler invocation) :
      ∃ (invocation : Nat) (object : Invocation ν), after.invocations[invocation]? = some object ∧
        after.operations.lookup object.stream ≠ some invocation ∧
        object.operation.state = .active := by
    have book := server.finishHandler_book found
    rw [← ends] at book
    have invocations : after.invocations = _ := congrArg Book.invocations book
    have operations : after.operations = _ := congrArg Book.operations book
    refine ⟨invocation, { object with stage := .finished }, ?_, ?_, active⟩
    · rw [invocations]
      exact (getElem?_set_found _ found invocation).trans (if_pos rfl)
    · rw [operations]
      have erased : (server.operations.erase object.stream).lookup object.stream = none :=
        AList.lookup_erase _ _
      intro listed
      exact absurd (erased.symm.trans listed) (by simp)
  cases event with
  | handlerThrows invocation =>
    simp only [forsakes, Option.any_eq_true] at forsaken
    obtain ⟨object, found, active⟩ := forsaken
    cases server.step_acts stepped (by simp)
    exact finishes invocation object found (of_decide_eq_true active) rfl
  | handlerReturns invocation type value =>
    simp only [forsakes, Option.any_eq_true, Bool.and_eq_true, Option.isNone_iff_eq_none] at forsaken
    obtain ⟨object, found, active, unsent⟩ := forsaken
    cases server.step_acts stepped (by simp) with
    | handlerReturns _ _ _ other here =>
      obtain rfl : object = other := Option.some.inj (found.symm.trans here)
      have ends : server.handlerReturns registry codec invocation object type value =
          server.finishHandler invocation := by
        simp [handlerReturns, unsent]
      exact finishes invocation object found (of_decide_eq_true active) ends
  | _ => simp [forsakes] at forsaken

section ForsakesNone

variable {limits : WriteQueueLimits}
variable (reachable : Reachable registry codec (forsakesNone registry codec) limits server)
include reachable

theorem Reachable.concluded : server.AllConcluded := by
  apply Reachability.Reaches.invariant_of_reached AllConcluded ?_ ?_ reachable
  · intro invocation object found
    simp [create] at found
  · intro before event after reached concluded attends stepped
    exact step_concluded (Reachable.wired reached).sound concluded stepped attends

/-- An active operation is in the map under its stream. -/
theorem Reachable.active_listed {invocation : Nat} {object : Invocation ν}
    (found : server.invocations[invocation]? = some object)
    (active : object.operation.state = .active) :
    server.operations.lookup object.stream = some invocation := by
  apply reachable.wired.sound.listed invocation object found
  intro finished
  exact reachable.concluded invocation object found finished active

/-- Where no operation is listed for a stream, none of its lives goes on. -/
theorem Reachable.opens_free {stream : StreamId} (vacant : server.operations.lookup stream = none)
    (life : Life) (member : life ∈ server.annals.lives) (same : life.stream = stream) :
    life.state ≠ .active := by
  intro active
  obtain ⟨object, listed, rfl⟩ := List.mem_map.mp member
  obtain ⟨invocation, found⟩ := List.mem_iff_getElem?.mp listed
  have present := reachable.active_listed found active
  have stream_eq : object.operation.stream = object.stream :=
    (reachable.wired.sound.operation invocation object found).1
  have here : object.stream = stream := stream_eq.symm.trans same
  rw [here, vacant] at present
  simp at present

theorem Reachable.balanced : server.annals.chronicle.Balanced := by
  apply Reachability.Reaches.invariant_of_reached
    (fun server => server.annals.chronicle.Balanced) ?_ ?_ reachable
  · exact Chronicle.balanced_empty
  · intro before event after reached balanced _ stepped
    have earlier : Reachable registry codec (forsakesNone registry codec) limits before := reached
    have sequel := before.step_annals earlier.sane registry codec event after stepped
    exact (sequel.chronicle earlier.sane fun stream vacant => earlier.opens_free vacant).balanced
      balanced

omit [DecidableEq τ] reachable in
/-- The stories of the operations on a stream, read from the coroutines. -/
theorem annals_stories (sound : server.book.Sound) (stream : StreamId) :
    (server.annals.lives.filter fun life => decide (life.stream = stream)).flatMap Life.story =
      (server.invocations.filter fun object => decide (object.stream = stream)).flatMap fun object =>
        started object.stream ::
          object.operation.result.toList.map (completionEvent object.stream) := by
  have streams : ∀ object ∈ server.invocations, object.operation.stream = object.stream := by
    intro object member
    obtain ⟨invocation, found⟩ := List.mem_iff_getElem?.mp member
    exact (sound.operation invocation object found).1
  have kept : server.invocations.filter ((fun life : Life => decide (life.stream = stream)) ∘
      fun object : Invocation ν => object.operation.life) =
      server.invocations.filter fun object => decide (object.stream = stream) := by
    apply List.filter_congr
    intro object member
    have same : object.operation.life.stream = object.stream := streams object member
    simp [same]
  simp only [annals, List.filter_map, List.flatMap_map, kept]
  apply List.flatMap_congr
  intro object member
  have same : object.operation.life.stream = object.stream :=
    streams object (List.mem_of_mem_filter member)
  simp only [Life.story, same]
  rfl

/-- Server operations do not vanish unfinished as long as none is forsaken. Along every
such run an operation outside the map is over and has a result; the events about a
stream are, for each request on it in order, the start and, once its operation has a
result, the one event that reports it; no initial part of the events has more ends than
starts on a stream, and on a stream without an operation in the map there are as many.
The first step that forsakes an operation, and no other, leaves one unfinished. -/
theorem operations_concluded :
    (∀ (invocation : Nat) (object : Invocation ν), server.invocations[invocation]? = some object →
      server.operations.lookup object.stream ≠ some invocation →
      object.operation.isTerminal = true ∧ ∃ result, object.operation.result = some result) ∧
    (∀ stream, server.diagnostics.filter (DiagnosticsEvent.concerns stream) =
      (server.invocations.filter fun object => decide (object.stream = stream)).flatMap
        fun object => started object.stream ::
          object.operation.result.toList.map (completionEvent object.stream)) ∧
    (∀ front, front <+: server.diagnostics → ∀ stream,
      front.countP (DiagnosticsEvent.endsOn stream) ≤
        front.countP (DiagnosticsEvent.startsOn stream)) ∧
    (∀ stream, server.operations.lookup stream = none →
      server.diagnostics.countP (DiagnosticsEvent.startsOn stream) =
        server.diagnostics.countP (DiagnosticsEvent.endsOn stream)) ∧
    ∀ event after, server.step registry codec event = some after →
      (server.forsakes registry codec event = true ↔
        ∃ (invocation : Nat) (object : Invocation ν), after.invocations[invocation]? = some object ∧
          after.operations.lookup object.stream ≠ some invocation ∧
          object.operation.isTerminal = false) := by
  have sound := reachable.wired.sound
  have sane := reachable.sane
  have balanced := reachable.balanced
  have stories (stream : StreamId) :
      server.diagnostics.filter (DiagnosticsEvent.concerns stream) =
        (server.annals.lives.filter fun life => decide (life.stream = stream)).flatMap
          Life.story := by
    rw [← Annals.stories balanced sane.plain stream]
    exact (DiagnosticsEvent.filter_notable_concerns _ _).symm
  refine ⟨?_, fun stream => (stories stream).trans (annals_stories sound stream), ?_, ?_, ?_⟩
  · intro invocation object found unlisted
    have inactive : object.operation.state ≠ .active :=
      fun active => unlisted (reachable.active_listed found active)
    have regular := sane.regular object.operation.life
      (List.mem_map.mpr ⟨object, List.mem_of_getElem? found, rfl⟩)
    have activated : object.operation.state ≠ .created := regular.activated
    constructor
    · rw [Operation.isTerminal_iff]
      cases state : object.operation.state <;> simp_all
    · apply Option.ne_none_iff_exists'.mp
      exact fun missing => inactive (regular.live.mpr missing)
  · intro front initial stream
    obtain ⟨starts, ends⟩ := DiagnosticsEvent.count_entries front stream
    rw [← starts, ← ends]
    apply balanced.never_ahead
    change _ <+: (server.diagnostics.filter DiagnosticsEvent.notable).filterMap _
    rw [DiagnosticsEvent.filter_notable_entry]
    exact initial.filterMap _
  · intro stream vacant
    obtain ⟨starts, ends⟩ := DiagnosticsEvent.count_concerns server.diagnostics stream
    rw [← starts, ← ends, stories stream]
    apply Annals.stories_counts
    intro life member same missing
    exact reachable.opens_free vacant life member same
      ((sane.regular life member).live.mpr missing)
  · intro event after stepped
    constructor
    · intro forsaken
      obtain ⟨invocation, object, found, unlisted, active⟩ := forsaken_active stepped forsaken
      exact ⟨invocation, object, found, unlisted, object.operation.isTerminal_active active⟩
    · rintro ⟨invocation, object, found, unlisted, unfinished⟩
      by_contra attends
      have attends : server.forsakes registry codec event = false := by simpa using attends
      have next : Reachable registry codec (forsakesNone registry codec) limits after :=
        .next reachable attends stepped
      have activated := (next.wired.sound.operation invocation object found).2.2
      have active : object.operation.state = .active := by
        by_contra inactive
        have terminal : object.operation.isTerminal = true := by
          rw [Operation.isTerminal_iff]
          cases state : object.operation.state <;> simp_all
        simp [unfinished] at terminal
      exact unlisted (next.active_listed found active)

end ForsakesNone

end Guard

/-- A request under identifier seven without the byte it should carry. -/
def bareRequest (stream : UInt64) : Frame where
  header := { stream := ⟨stream⟩, payloadSize := 4 }
  payload := [0, 0, 0, 7]

/-- A request is answered, another is cancelled by the peer before its handler throws, and
a third cannot be decoded. -/
def threeEndings : Option (ServerConnection fun _ : Unit => UInt8) :=
  Reachability.run (step byteRegistry byteCodec) (forsakesNone byteRegistry byteCodec) (create {})
    (serverReads [byteRequest 1 5 .none, byteRequest 3 6 .none, byteRequest 3 6 .cancel,
        bareRequest 5] ++
      [.dispatchNext, .dispatchNext, .startHandler 0, .startHandler 1, .dispatchNext,
        .dispatchNext, .startHandler 2, .handlerThrows 1, .handlerReturns 0 () 9])

/-- Three operations left the map, and each start has its end. -/
theorem operations_concluded_three :
    ∃ server, threeEndings = some server ∧ server.invocations.length = 3 ∧
      server.operations.entries = [] ∧
      ∀ stream, server.diagnostics.countP (DiagnosticsEvent.startsOn stream) =
        server.diagnostics.countP (DiagnosticsEvent.endsOn stream) := by
  have reads : threeEndings.map (fun server =>
      (server.invocations.length, server.operations.entries)) = some (3, []) := by
    decide +kernel
  obtain ⟨server, reached, facts⟩ := Option.map_eq_some_iff.mp reads
  obtain ⟨three, empty⟩ := Prod.mk.inj facts
  obtain ⟨-, -, -, even, -⟩ := operations_concluded (Reachability.run_reaches _ _ _ _ _ reached)
  refine ⟨server, reached, three, empty, ?_⟩
  intro stream
  apply even
  have vacant : server.operations = ∅ := AList.ext empty
  rw [vacant, AList.lookup_empty]

/-- The handler of the only request throws. -/
def throwingHandler : Option (ServerConnection fun _ : Unit => UInt8) :=
  Reachability.run (step byteRegistry byteCodec) Reachability.unguarded (create {})
    (serverReads [byteRequest 1 5 .none] ++ [.dispatchNext, .startHandler 0, .handlerThrows 0])

/-- Its operation leaves the map active and without a result, and the start of the request
is the last that is heard of it. -/
theorem throwing_handler_vanishes :
    ∃ server, Reachable byteRegistry byteCodec Reachability.unguarded {} server ∧
      (∃ object, server.invocations[0]? = some object ∧
        server.operations.lookup object.stream ≠ some 0 ∧
        object.operation.isTerminal = false ∧ object.operation.result = none) ∧
      server.diagnostics.countP (DiagnosticsEvent.startsOn ⟨1⟩) = 1 ∧
      server.diagnostics.countP (DiagnosticsEvent.endsOn ⟨1⟩) = 0 := by
  have reads : throwingHandler.map (fun server =>
      (server.invocations[0]?.map fun object => (server.operations.lookup object.stream,
        object.operation.isTerminal, object.operation.result),
      server.diagnostics.countP (DiagnosticsEvent.startsOn ⟨1⟩),
      server.diagnostics.countP (DiagnosticsEvent.endsOn ⟨1⟩))) =
      some (some (none, false, none), 1, 0) := by
    decide +kernel
  obtain ⟨server, reached, facts⟩ := Option.map_eq_some_iff.mp reads
  obtain ⟨object, starts, ends⟩ : _ ∧ _ ∧ _ := by simpa only [Prod.mk.injEq] using facts
  obtain ⟨object, found, parts⟩ := Option.map_eq_some_iff.mp object
  obtain ⟨unlisted, unfinished, unsettled⟩ : _ ∧ _ ∧ _ := by
    simpa only [Prod.mk.injEq] using parts
  refine ⟨server, Reachability.run_reaches _ _ _ _ _ reached,
    ⟨object, found, ?_, unfinished, unsettled⟩, starts, ends⟩
  rw [unlisted]
  simp

end ServerConnection

end Reports

end Rillnet
