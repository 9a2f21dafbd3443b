import Rillnet.ClientConnection
import Rillnet.Library.Chronicle

/-!
# What a connection reports about its operations

The annals of a connection are its operations in the order in which they were
started, the diagnostics events about them and about the end of the connection,
and the cancellations sent. Three things happen to annals: an operation starts,
an active operation is settled by the call that commits its result, and the end
of the connection is reported. Both endpoints are described by these changes.

The events about operations form a chronicle, with streams as names. Where a
stream is used again only once its operation is over, the chronicle is balanced.
-/

namespace Rillnet

/-- What the annals keep of an operation. -/
structure Life where
  stream : StreamId
  state : OperationState
  result : Option OperationResult
  timedOut : Bool
  handler : Option StreamId
deriving DecidableEq, Repr

/-- What the annals keep of an operation. -/
def Operation.life (operation : Operation StreamId) : Life where
  stream := operation.stream
  state := operation.state
  result := operation.result
  timedOut := operation.timedOut
  handler := operation.completionHandler

namespace DiagnosticsEvent

/-- The report of a started operation. -/
def started (stream : StreamId) : DiagnosticsEvent := { type := .requestStarted, stream := stream }

/-- The report of the end of a connection. -/
def closing : DiagnosticsEvent :=
  { type := .connectionClosed, status := .connectionClosed, message := "connection closed" }

/-- An operation was started or has come to an end. -/
def concernsRequest (event : DiagnosticsEvent) : Bool :=
  match event.type with
  | .requestStarted | .requestCompleted | .cancellation | .timeout => true
  | _ => false

/-- An operation was started. -/
def starts (event : DiagnosticsEvent) : Bool := decide (event.type = .requestStarted)

/-- An operation has come to an end. -/
def ends (event : DiagnosticsEvent) : Bool := event.concernsRequest && !event.starts

/-- The event reports the end of the connection. -/
def closes (event : DiagnosticsEvent) : Bool := decide (event.type = .connectionClosed)

/-- What the annals keep. -/
def notable (event : DiagnosticsEvent) : Bool := event.concernsRequest || event.closes

/-- The line of the chronicle an event makes. -/
def entry (event : DiagnosticsEvent) : Option (Entry StreamId DiagnosticsEvent) :=
  if event.starts then some (.opened event.stream)
  else if event.concernsRequest then some (.ended event.stream event)
  else none

end DiagnosticsEvent

open ClientConnection (completionEvent)

/-- The event of a completion handler is about the end of an operation. -/
theorem completionEvent_ends (stream : StreamId) (result : OperationResult) :
    (completionEvent stream result).concernsRequest = true ∧
      (completionEvent stream result).starts = false ∧
      (completionEvent stream result).closes = false := by
  by_cases cancelled : result.status = .cancelled
  · simp [completionEvent, cancelled, DiagnosticsEvent.concernsRequest, DiagnosticsEvent.starts,
      DiagnosticsEvent.closes]
  · by_cases late : result.status = .timeoutError
    · simp [completionEvent, late, DiagnosticsEvent.concernsRequest, DiagnosticsEvent.starts,
        DiagnosticsEvent.closes]
    · simp [completionEvent, cancelled, late, DiagnosticsEvent.concernsRequest,
        DiagnosticsEvent.starts, DiagnosticsEvent.closes]

namespace Life

/-- A new operation of a stream. -/
def fresh (stream : StreamId) : Life := ⟨stream, .active, none, false, some stream⟩

/-- The operation was cancelled or ran out of time. -/
def abandoned (life : Life) : Bool :=
  decide (life.state = .cancelled) || decide (life.state = .failed) && life.timedOut

/-- The operation was activated, reports on its stream, and has a result exactly
when it is over. -/
structure Regular (life : Life) : Prop where
  activated : life.state ≠ .created
  handler : life.handler = some life.stream
  live : life.state = .active ↔ life.result = none
  untimed : life.state = .active → life.timedOut = false

/-- An operation that begins is active and has no result. -/
theorem fresh_regular (stream : StreamId) : (fresh stream).Regular where
  activated := by simp [fresh]
  handler := rfl
  live := by simp [fresh]
  untimed := fun _ => rfl

end Life

/-- How a terminal call on an operation ends: refused, or committed in favour of a
result. -/
inductive Operation.Outcome (abandons : Bool) (operation : Operation StreamId) :
    Operation StreamId × Bool → Prop where
  | refused : Outcome abandons operation (operation, false)
  | won (after : Operation StreamId) (result : OperationResult)
      (active : operation.state = .active) (stream : after.stream = operation.stream)
      (handler : after.completionHandler = operation.completionHandler)
      (inactive : after.state ≠ .active) (activated : after.state ≠ .created)
      (committed : after.result = some result) (kind : after.life.abandoned = abandons) :
      Outcome abandons operation (after, true)

namespace Operation

variable (operation : Operation StreamId) (regular : operation.life.Regular)
include regular

/-- Completing an operation settles it if it was active, and abandons nobody. -/
theorem complete_outcome (message : String) :
    Outcome false operation (operation.complete message) := by
  rw [operation.complete_eq]
  split
  · rename_i active
    have untimed : operation.timedOut = false := regular.untimed active
    refine .won _ _ active rfl rfl ?_ ?_ rfl ?_
    all_goals simp [life, Life.abandoned, untimed]
  · exact .refused

/-- Failing an operation settles it if it was active, and abandons nobody. -/
theorem fail_outcome (status : StatusCode) (message : String) :
    Outcome false operation (operation.fail status message) := by
  by_cases failure : status = .ok
  · rw [fail, if_pos failure]
    exact .refused
  · rw [operation.fail_eq status message failure]
    split
    · rename_i active
      have untimed : operation.timedOut = false := regular.untimed active
      refine .won _ _ active rfl rfl ?_ ?_ rfl ?_
      all_goals simp [life, Life.abandoned, untimed]
    · exact .refused

/-- Cancelling an operation settles it if it was active, and abandons it. -/
theorem cancel_outcome (message : String) : Outcome true operation (operation.cancel message) := by
  rw [operation.cancel_eq message regular.activated]
  split
  · rename_i active
    refine .won _ _ active rfl rfl ?_ ?_ rfl ?_
    all_goals simp [life, Life.abandoned]
  · exact .refused

omit regular in
/-- A deadline that passes settles an operation if it was active, and abandons it. -/
theorem timeout_outcome (message : String) :
    Outcome true operation (operation.timeout message) := by
  rw [operation.timeout_eq]
  split
  · rename_i active
    refine .won _ _ active rfl rfl ?_ ?_ rfl ?_
    all_goals simp [life, Life.abandoned]
  · exact .refused

end Operation

/-- The record of a connection's operations. -/
structure Annals where
  lives : List Life
  events : List DiagnosticsEvent
  cancellations : List StreamId
  closed : Bool
deriving DecidableEq, Repr

namespace Annals

/-- Every life in the annals is regular. -/
def Regular (annals : Annals) : Prop := ∀ life ∈ annals.lives, life.Regular

/-- An operation starts. -/
def start (annals : Annals) (stream : StreamId) : Annals :=
  { annals with
    lives := annals.lives ++ [Life.fresh stream]
    events := annals.events ++ [.started stream] }

/-- The end of the connection is reported. -/
def close (annals : Annals) : Annals :=
  { annals with events := annals.events ++ [.closing], closed := true }

/-- An operation is settled and its completion handler reports the result. -/
def settle (annals : Annals) (index : Nat) (new : Life) (result : OperationResult) : Annals :=
  { annals with
    lives := annals.lives.set index new
    events := annals.events ++ [completionEvent new.stream result] }

/-- The call that wins an active operation. -/
structure Commits (annals : Annals) (index : Nat) (old new : Life) (result : OperationResult) :
    Prop where
  found : annals.lives[index]? = some old
  active : old.state = .active
  stream : new.stream = old.stream
  handler : new.handler = old.handler
  inactive : new.state ≠ .active
  activated : new.state ≠ .created
  committed : new.result = some result

/-- An operation is settled otherwise than by being abandoned. -/
inductive Settles (annals : Annals) : Annals → Prop where
  | settles (index : Nat) (old new : Life) (result : OperationResult)
      (commits : annals.Commits index old new result) (kept : new.abandoned = false) :
      Settles annals (annals.settle index new result)

/-- Any number of operations are settled, one after the other. -/
def Settling : Annals → Annals → Prop := Relation.ReflTransGen Settles

/-- An operation is abandoned and the peer is told. -/
inductive Abandons (annals : Annals) : Annals → Prop where
  | abandons (index : Nat) (old new : Life) (result : OperationResult)
      (commits : annals.Commits index old new result) (given : new.abandoned = true) :
      Abandons annals { annals.settle index new result with
        cancellations := annals.cancellations ++ [new.stream] }

/-- What one step of a client does to its annals: an operation starts, or one is
abandoned, or neither; others are settled, and at last the end of the connection
may be reported. -/
structure Turn (may : StreamId → Prop) (ended : Prop) (before after : Annals) : Prop where
  course : ∃ middle settled : Annals,
    (middle = before ∨ (∃ stream, may stream ∧ middle = before.start stream) ∨
      before.Abandons middle) ∧ Settling middle settled ∧
    (after = settled ∨ ended ∧ settled.closed = false ∧ after = settled.close)

variable {may : StreamId → Prop} {ended : Prop}
variable {annals before after : Annals} {index : Nat} {old new : Life} {result : OperationResult}

/-- A step may leave the annals as they are. -/
theorem Turn.same (unchanged : after = before) : Turn may ended before after :=
  ⟨before, before, Or.inl rfl, .refl, Or.inl unchanged⟩

/-- A step may abandon an operation, and say so. -/
theorem Turn.told (tells : after = before ∨ before.Abandons after) : Turn may ended before after := by
  rcases tells with same | abandons
  · exact .same same
  · exact ⟨after, after, Or.inr (Or.inr abandons), .refl, Or.inl rfl⟩

/-- A step may settle operations without starting or ending anything else. -/
theorem Turn.settling (settling : Settling before after) : Turn may ended before after :=
  ⟨before, after, Or.inl rfl, settling, Or.inl rfl⟩

/-- Only an operation in the annals is settled. -/
theorem Commits.within (commits : annals.Commits index old new result) :
    index < annals.lives.length :=
  (List.getElem?_eq_some_iff.mp commits.found).1

/-- An operation that is settled has a result that fits its state. -/
theorem Commits.regular (commits : annals.Commits index old new result)
    (regular : annals.Regular) : (annals.settle index new result).Regular := by
  intro life member
  rcases List.mem_or_eq_of_mem_set member with before | rfl
  · exact regular life before
  · have earlier := regular old (List.mem_of_getElem? commits.found)
    refine ⟨commits.activated, ?_, ?_, fun active => absurd active commits.inactive⟩
    · rw [commits.handler, commits.stream]
      exact earlier.handler
    · simp [commits.inactive, commits.committed]

/-- Settling keeps the annals regular. -/
theorem Settling.regular (settling : Settling before after) (regular : before.Regular) :
    after.Regular := by
  induction settling with
  | refl => exact regular
  | tail _ settles inductionHypothesis =>
    cases settles with
    | settles index old new result commits kept => exact commits.regular inductionHypothesis

/-- Abandoning keeps the annals regular. -/
theorem Abandons.regular (abandons : before.Abandons after) (regular : before.Regular) :
    after.Regular := by
  cases abandons with
  | abandons index old new result commits given => exact commits.regular regular

/-- An operation that starts keeps the annals regular. -/
theorem start_regular (regular : annals.Regular) (stream : StreamId) :
    (annals.start stream).Regular := by
  intro life member
  rcases List.mem_append.mp member with before | last
  · exact regular life before
  · obtain rfl := List.mem_singleton.mp last
    exact Life.fresh_regular stream

/-- Every turn keeps the annals regular. -/
theorem Turn.regular (turn : Turn may ended before after) (regular : before.Regular) :
    after.Regular := by
  obtain ⟨middle, settled, first, settling, last⟩ := turn
  have opened : middle.Regular := by
    rcases first with rfl | ⟨stream, -, rfl⟩ | abandons
    · exact regular
    · exact start_regular regular stream
    · exact abandons.regular regular
  have settled := settling.regular opened
  rcases last with rfl | ⟨-, -, rfl⟩
  · exact settled
  · exact settled

/-- The chronicle of the operations. -/
def chronicle (annals : Annals) : Chronicle StreamId DiagnosticsEvent where
  lives := annals.lives.map fun life =>
    (life.stream, life.result.map (completionEvent life.stream))
  entries := annals.events.filterMap DiagnosticsEvent.entry

/-- Settling an operation ends a life of the chronicle. -/
theorem Commits.chronicle (commits : annals.Commits index old new result)
    (regular : annals.Regular) :
    annals.chronicle.Step (annals.settle index new result).chronicle := by
  obtain ⟨ends, startless, -⟩ := completionEvent_ends new.stream result
  have live : annals.chronicle.lives[index]? = some (new.stream, none) := by
    have unsettled := ((regular old (List.mem_of_getElem? commits.found)).live.mp commits.active)
    simp [Annals.chronicle, commits.found, unsettled, commits.stream]
  have step := Chronicle.Step.ends index new.stream (completionEvent new.stream result) live
  have same : (annals.settle index new result).chronicle =
      ⟨annals.chronicle.lives.set index (new.stream, some (completionEvent new.stream result)),
        annals.chronicle.entries ++ [.ended new.stream (completionEvent new.stream result)]⟩ := by
    simp only [Annals.chronicle, settle, List.map_set, commits.committed, Option.map_some,
      List.filterMap_append]
    have line : (completionEvent new.stream result).entry =
        some (.ended new.stream (completionEvent new.stream result)) := by
      simp only [DiagnosticsEvent.entry, startless, ends, Bool.false_eq_true, if_false, if_true]
      rfl
    simp [line]
  rw [same]
  exact step

/-- Starting an operation opens a life of the chronicle, if its stream is free. -/
theorem start_chronicle (regular : annals.Regular) (stream : StreamId)
    (free : ∀ life ∈ annals.lives, life.stream = stream → life.state ≠ .active) :
    annals.chronicle.Step (annals.start stream).chronicle := by
  have vacant : ∀ life ∈ annals.chronicle.lives, life.1 = stream → life.2 ≠ none := by
    rintro ⟨key, report⟩ member same unsettled
    obtain ⟨life, listed, read⟩ := List.mem_map.mp member
    obtain ⟨rfl, rfl⟩ := Prod.mk.inj read
    have active := (regular life listed).live.mpr (Option.map_eq_none_iff.mp unsettled)
    exact free life listed same active
  have step := Chronicle.Step.opens stream vacant
  have same : (annals.start stream).chronicle =
      ⟨annals.chronicle.lives ++ [(stream, none)],
        annals.chronicle.entries ++ [.opened stream]⟩ := by
    simp only [Annals.chronicle, start, List.map_append, List.filterMap_append]
    rfl
  rw [same]
  exact step

/-- The end of the connection is told by its own event and adds nothing to the lives. -/
theorem close_chronicle : annals.close.chronicle = annals.chronicle := by
  simp only [Annals.chronicle, close, List.filterMap_append]
  simp [DiagnosticsEvent.entry, DiagnosticsEvent.closing, DiagnosticsEvent.starts,
    DiagnosticsEvent.concernsRequest]

/-- Settling is a run of the chronicle in which lives end. -/
theorem Settling.chronicle (settling : Settling before after) (regular : before.Regular) :
    before.chronicle.Steps after.chronicle := by
  induction settling with
  | refl => exact .refl
  | tail earlier settles inductionHypothesis =>
    cases settles with
    | settles index old new result commits kept =>
      exact inductionHypothesis.tail (commits.chronicle (Settling.regular earlier regular))

/-- Abandoning ends one life. -/
theorem Abandons.chronicle (abandons : before.Abandons after) (regular : before.Regular) :
    before.chronicle.Step after.chronicle := by
  cases abandons with
  | abandons index old new result commits given => exact commits.chronicle regular

/-- A turn continues the chronicle, if operations start on free streams only. -/
theorem Turn.chronicle (turn : Turn may ended before after) (regular : before.Regular)
    (free : ∀ stream, may stream → ∀ life ∈ before.lives, life.stream = stream →
      life.state ≠ .active) : before.chronicle.Steps after.chronicle := by
  obtain ⟨middle, settled, first, settling, last⟩ := turn
  have opened : before.chronicle.Steps middle.chronicle ∧ middle.Regular := by
    rcases first with rfl | ⟨stream, permitted, rfl⟩ | abandons
    · exact ⟨.refl, regular⟩
    · exact ⟨.single (start_chronicle regular stream (free stream permitted)),
        start_regular regular stream⟩
    · exact ⟨.single (abandons.chronicle regular), abandons.regular regular⟩
  have done := opened.1.trans (settling.chronicle opened.2)
  rcases last with rfl | ⟨-, -, rfl⟩
  · exact done
  · rw [close_chronicle]
    exact done

/-- What is settled stays as it is. -/
theorem Commits.kept (commits : annals.Commits index old new result) {place : Nat} {life : Life}
    (found : annals.lives[place]? = some life) (final : life.state ≠ .active) :
    (annals.settle index new result).lives[place]? = some life := by
  have elsewhere : index ≠ place := by
    rintro rfl
    have same : old = life := Option.some.inj (commits.found.symm.trans found)
    exact final (same ▸ commits.active)
  simp only [settle, List.getElem?_set_ne elsewhere]
  exact found

/-- What is settled stays as it is while others are settled. -/
theorem Settling.kept (settling : Settling before after) {place : Nat} {life : Life}
    (found : before.lives[place]? = some life) (final : life.state ≠ .active) :
    after.lives[place]? = some life := by
  induction settling with
  | refl => exact found
  | tail _ settles inductionHypothesis =>
    cases settles with
    | settles index old new result commits kept => exact commits.kept inductionHypothesis final

/-- What is settled stays as it is from then on. -/
theorem Turn.kept (turn : Turn may ended before after) {place : Nat} {life : Life}
    (found : before.lives[place]? = some life) (final : life.state ≠ .active) :
    after.lives[place]? = some life := by
  obtain ⟨middle, settled, first, settling, last⟩ := turn
  have opened : middle.lives[place]? = some life := by
    rcases first with rfl | ⟨stream, -, rfl⟩ | ⟨index, old, new, result, commits, -⟩
    · exact found
    · exact (List.getElem?_append_left (List.getElem?_eq_some_iff.mp found).1).trans found
    · exact commits.kept found final
  have done := settling.kept opened final
  rcases last with rfl | ⟨-, -, rfl⟩
  · exact done
  · exact done

/-- The operation at a place was abandoned. -/
def abandonedAt (annals : Annals) (place : Nat) : Bool := annals.lives[place]?.any Life.abandoned

/-- An operation that starts is not abandoned, and changes nobody's fate. -/
theorem start_abandonedAt (stream : StreamId) (place : Nat) :
    (annals.start stream).abandonedAt place = annals.abandonedAt place := by
  simp only [abandonedAt, start]
  by_cases earlier : place < annals.lives.length
  · rw [List.getElem?_append_left earlier]
  · rw [List.getElem?_append_right (Nat.le_of_not_lt earlier),
      List.getElem?_eq_none (Nat.le_of_not_lt earlier)]
    cases place - annals.lives.length with
    | zero => rfl
    | succ more => rfl

/-- Settling an operation decides about itself only. -/
theorem Commits.abandonedAt (commits : annals.Commits index old new result) (place : Nat) :
    (annals.settle index new result).abandonedAt place =
      (annals.abandonedAt place || decide (place = index) && new.abandoned) := by
  simp only [Annals.abandonedAt, settle]
  by_cases here : place = index
  · subst here
    have live : old.abandoned = false := by simp [Life.abandoned, commits.active]
    rw [List.getElem?_set_self commits.within, commits.found]
    simp [live]
  · rw [List.getElem?_set_ne (Ne.symm here)]
    simp [here]

/-- Settling abandons nobody. -/
theorem Settling.abandonedAt (settling : Settling before after) (place : Nat) :
    after.abandonedAt place = before.abandonedAt place := by
  induction settling with
  | refl => rfl
  | tail _ settles inductionHypothesis =>
    cases settles with
    | settles index old new result commits kept =>
      rw [commits.abandonedAt, kept, Bool.and_false, Bool.or_false]
      exact inductionHypothesis

/-- Settling sends no cancellation and ends no connection. -/
theorem Settling.unchanged (settling : Settling before after) :
    after.cancellations = before.cancellations ∧ after.closed = before.closed := by
  induction settling with
  | refl => exact ⟨rfl, rfl⟩
  | tail _ settles inductionHypothesis =>
    cases settles
    exact inductionHypothesis

/-- The peer is told exactly about the operation that is abandoned. -/
theorem Turn.cancels (turn : Turn may ended before after) :
    (after.cancellations = before.cancellations ∧
      ∀ place, after.abandonedAt place = before.abandonedAt place) ∨
    ∃ index old new, before.lives[index]? = some old ∧ old.state = .active ∧
      after.lives[index]? = some new ∧ new.abandoned = true ∧ new.stream = old.stream ∧
      after.cancellations = before.cancellations ++ [old.stream] ∧
      ∀ place, after.abandonedAt place = (before.abandonedAt place || decide (place = index)) := by
  obtain ⟨middle, settled, first, settling, last⟩ := turn
  have finished : after.cancellations = middle.cancellations ∧
      (∀ place, after.abandonedAt place = middle.abandonedAt place) ∧
      after.lives = settled.lives := by
    have calls := settling.unchanged.1
    have abandoned := settling.abandonedAt
    rcases last with rfl | ⟨-, -, rfl⟩
    · exact ⟨calls, abandoned, rfl⟩
    · exact ⟨calls, abandoned, rfl⟩
  obtain ⟨calls, abandoned, lives⟩ := finished
  rcases first with rfl | ⟨stream, -, rfl⟩ | ⟨index, old, new, result, commits, given⟩
  · exact Or.inl ⟨calls, abandoned⟩
  · exact Or.inl ⟨calls, fun place => (abandoned place).trans (start_abandonedAt stream place)⟩
  · right
    have written : (before.settle index new result).lives[index]? = some new :=
      List.getElem?_set_self commits.within
    refine ⟨index, old, new, commits.found, commits.active, ?_, given, commits.stream, ?_, ?_⟩
    · rw [lives]
      exact settling.kept written commits.inactive
    · rw [calls, ← commits.stream]
    · intro place
      rw [abandoned place]
      have marked := commits.abandonedAt place
      rw [given, Bool.and_true] at marked
      exact marked

/-- Reports of a start carry nothing but the stream, and the end of the connection is
reported once, after everything else. -/
structure Reported (annals : Annals) : Prop where
  plain : ∀ event ∈ annals.events, event.starts = true → event = .started event.stream
  silent : annals.closed = false → ∀ event ∈ annals.events, event.closes = false
  last : annals.closed = true → ∃ front, annals.events = front ++ [.closing] ∧
    ∀ event ∈ front, event.closes = false

/-- The same, as long as the end has not been reported. -/
structure Running (annals : Annals) : Prop where
  plain : ∀ event ∈ annals.events, event.starts = true → event = .started event.stream
  running : annals.closed = false
  silent : ∀ event ∈ annals.events, event.closes = false

/-- A connection that goes on may report anything but its end. -/
theorem Running.append (running : annals.Running) {event : DiagnosticsEvent}
    (plain : event.starts = true → event = .started event.stream) (silent : event.closes = false)
    (lives : List Life) (cancellations : List StreamId) :
    Running { annals with
      lives := lives, cancellations := cancellations, events := annals.events ++ [event] } := by
  refine ⟨?_, running.running, ?_⟩
  · intro other member starts
    rcases List.mem_append.mp member with earlier | last
    · exact running.plain other earlier starts
    · obtain rfl := List.mem_singleton.mp last
      exact plain starts
  · intro other member
    rcases List.mem_append.mp member with earlier | last
    · exact running.silent other earlier
    · obtain rfl := List.mem_singleton.mp last
      exact silent

/-- A connection goes on while an operation is settled. -/
theorem Running.settle (running : annals.Running) (index : Nat) (new : Life)
    (result : OperationResult) (cancellations : List StreamId) :
    Running { annals.settle index new result with cancellations := cancellations } := by
  obtain ⟨-, startless, silent⟩ := completionEvent_ends new.stream result
  exact running.append (by simp [startless]) silent _ cancellations

/-- A connection goes on while operations are settled. -/
theorem Running.settling (running : before.Running) (settling : Settling before after) :
    after.Running := by
  induction settling with
  | refl => exact running
  | tail _ settles inductionHypothesis =>
    cases settles with
    | settles index old new result commits kept =>
      exact inductionHypothesis.settle index new result _

/-- The end is reported only where the connection has come to it. -/
theorem Turn.closes (turn : Turn may ended before after) (closed : after.closed = true) :
    before.closed = true ∨ ended := by
  obtain ⟨middle, settled, first, settling, last⟩ := turn
  rcases last with rfl | ⟨finished, -⟩
  · left
    rw [← closed, settling.unchanged.2]
    rcases first with rfl | ⟨stream, -, rfl⟩ | ⟨index, old, new, result, commits, -⟩
    · rfl
    · rfl
    · rfl
  · exact Or.inr finished

/-- While nothing is active nothing is settled. -/
theorem Settling.idle (settling : Settling before after)
    (idle : ∀ life ∈ before.lives, life.state ≠ .active) : after = before := by
  rcases settling.cases_head with rfl | ⟨middle, ⟨index, old, new, result, commits, -⟩, -⟩
  · rfl
  · exact absurd commits.active (idle old (List.mem_of_getElem? commits.found))

/-- After the report of the end nothing else is reported, if by then nothing is active
and nothing may start. -/
theorem Turn.reported (turn : Turn may ended before after) (reported : before.Reported)
    (quiet : before.closed = true →
      (∀ life ∈ before.lives, life.state ≠ .active) ∧ ∀ stream, ¬ may stream) :
    after.Reported := by
  obtain ⟨middle, settled, first, settling, last⟩ := turn
  cases closed : before.closed with
  | true =>
    obtain ⟨idle, refuses⟩ := quiet closed
    have same : middle = before := by
      rcases first with same | ⟨stream, permitted, -⟩ | ⟨index, old, new, result, commits, -⟩
      · exact same
      · exact absurd permitted (refuses stream)
      · exact absurd commits.active (idle old (List.mem_of_getElem? commits.found))
    subst same
    obtain rfl := settling.idle idle
    rcases last with rfl | ⟨-, fresh, -⟩
    · exact reported
    · simp [closed] at fresh
  | false =>
    have running : before.Running := ⟨reported.plain, closed, reported.silent closed⟩
    have opened : middle.Running := by
      rcases first with rfl | ⟨stream, -, rfl⟩ | ⟨index, old, new, result, commits, -⟩
      · exact running
      · exact running.append (fun _ => rfl) rfl _ _
      · exact running.settle index new result _
    have done := opened.settling settling
    rcases last with rfl | ⟨-, -, rfl⟩
    · exact ⟨done.plain, fun _ => done.silent, by simp [done.running]⟩
    · refine ⟨?_, by simp [close], fun _ => ⟨settled.events, rfl, done.silent⟩⟩
      intro event member starts
      rcases List.mem_append.mp member with earlier | last
      · exact done.plain event earlier starts
      · obtain rfl := List.mem_singleton.mp last
        simp [DiagnosticsEvent.closing, DiagnosticsEvent.starts] at starts

end Annals

namespace DiagnosticsEvent

/-- The event is about an operation on the stream. -/
def concerns (stream : StreamId) (event : DiagnosticsEvent) : Bool :=
  event.concernsRequest && decide (event.stream = stream)

/-- The event starts an operation on the stream. -/
def startsOn (stream : StreamId) (event : DiagnosticsEvent) : Bool :=
  event.starts && decide (event.stream = stream)

/-- The event ends an operation on the stream. -/
def endsOn (stream : StreamId) (event : DiagnosticsEvent) : Bool :=
  event.ends && decide (event.stream = stream)

/-- The event a line of the chronicle stands for. -/
def render : Entry StreamId DiagnosticsEvent → DiagnosticsEvent
  | .opened stream => started stream
  | .ended _ event => event

/-- An event is reported at a start, at an end, or is none of the chronicle's. -/
theorem entry_cases (event : DiagnosticsEvent) :
    (event.starts = true ∧ event.concernsRequest = true ∧
      event.entry = some (.opened event.stream)) ∨
    (event.ends = true ∧ event.starts = false ∧ event.concernsRequest = true ∧
      event.entry = some (.ended event.stream event)) ∨
    (event.starts = false ∧ event.concernsRequest = false ∧ event.entry = none) := by
  cases starts : event.starts with
  | true =>
    left
    have type : event.type = .requestStarted := by simpa [DiagnosticsEvent.starts] using starts
    exact ⟨rfl, by simp [concernsRequest, type], by simp [entry, starts]⟩
  | false =>
    right
    cases concerns : event.concernsRequest with
    | true =>
      exact Or.inl ⟨by simp [ends, concerns, starts], rfl, rfl, by simp [entry, starts, concerns]⟩
    | false => exact Or.inr ⟨rfl, rfl, by simp [entry, starts, concerns]⟩

/-- Only notable events make lines of the chronicle. -/
theorem filter_notable_entry (events : List DiagnosticsEvent) :
    (events.filter notable).filterMap entry = events.filterMap entry := by
  rw [List.filterMap_filter]
  apply List.filterMap_congr
  intro event _
  rcases event.entry_cases with ⟨-, concerns, -⟩ | ⟨-, -, concerns, -⟩ | ⟨-, -, absent⟩
  · simp [notable, concerns]
  · simp [notable, concerns]
  · cases event.notable <;> simp [absent]

/-- The events about a stream are those its lines stand for. -/
theorem filter_concerns (events : List DiagnosticsEvent) (stream : StreamId)
    (plain : ∀ event ∈ events, event.starts = true → event = started event.stream) :
    events.filter (concerns stream) =
      (Chronicle.entriesOn (events.filterMap entry) stream).map render := by
  induction events with
  | nil => rfl
  | cons event rest inductionHypothesis =>
    have remaining := inductionHypothesis fun other member =>
      plain other (List.mem_cons_of_mem _ member)
    simp only [Chronicle.entriesOn] at remaining ⊢
    rcases event.entry_cases with ⟨starts, about, line⟩ | ⟨-, -, about, line⟩ | ⟨-, about, line⟩
    · have rendered := plain event (List.mem_cons_self ..) starts
      by_cases same : event.stream = stream
      · simp [concerns, about, line, same, remaining, render]
        rw [← same]
        exact rendered
      · simp [concerns, about, line, same, remaining]
    · by_cases same : event.stream = stream
      · simp [concerns, about, line, same, remaining, render]
      · simp [concerns, about, line, same, remaining]
    · simp [concerns, about, line, remaining]

/-- Starts and ends on a stream are counted by the lines of the chronicle. -/
theorem count_entries (events : List DiagnosticsEvent) (stream : StreamId) :
    Chronicle.openings (Chronicle.entriesOn (events.filterMap entry) stream) =
        events.countP (startsOn stream) ∧
      Chronicle.endings (Chronicle.entriesOn (events.filterMap entry) stream) =
        events.countP (endsOn stream) := by
  induction events with
  | nil => exact ⟨rfl, rfl⟩
  | cons event rest inductionHypothesis =>
    simp only [Chronicle.entriesOn, Chronicle.openings, Chronicle.endings] at inductionHypothesis ⊢
    rcases event.entry_cases with ⟨starts, about, line⟩ | ⟨ends, starts, about, line⟩ |
      ⟨starts, about, line⟩
    · by_cases same : event.stream = stream
      · simp [startsOn, endsOn, DiagnosticsEvent.ends, starts, line, same, List.countP_cons,
          inductionHypothesis]
      · simp [startsOn, endsOn, line, same, inductionHypothesis]
    · by_cases same : event.stream = stream
      · simp [startsOn, endsOn, ends, starts, line, same,
          inductionHypothesis]
      · simp [startsOn, endsOn, line, same, inductionHypothesis]
    · simp [startsOn, endsOn, DiagnosticsEvent.ends, starts, about, line, inductionHypothesis]

/-- The events about a stream are all notable. -/
theorem filter_notable_concerns (events : List DiagnosticsEvent) (stream : StreamId) :
    (events.filter notable).filter (concerns stream) = events.filter (concerns stream) := by
  rw [List.filter_filter]
  apply List.filter_congr
  intro event _
  cases about : event.concernsRequest <;> simp [concerns, notable, about]

/-- Starts and ends on a stream are among the events about it. -/
theorem count_concerns (events : List DiagnosticsEvent) (stream : StreamId) :
    (events.filter (concerns stream)).countP (startsOn stream) = events.countP (startsOn stream) ∧
      (events.filter (concerns stream)).countP (endsOn stream) =
        events.countP (endsOn stream) := by
  rw [List.countP_filter, List.countP_filter]
  constructor
  · apply List.countP_congr
    intro event _
    rcases event.entry_cases with ⟨starts, about, -⟩ | ⟨-, starts, -, -⟩ | ⟨starts, -, -⟩
    · simp [startsOn, concerns, starts, about]
    · simp [startsOn, starts]
    · simp [startsOn, starts]
  · apply List.countP_congr
    intro event _
    cases about : event.concernsRequest <;> simp [endsOn, concerns, ends, about]

end DiagnosticsEvent

/-- What is reported about one operation. -/
def Life.story (life : Life) : List DiagnosticsEvent :=
  .started life.stream :: life.result.toList.map (completionEvent life.stream)

namespace Annals

variable {annals : Annals}

/-- The events about a stream are the stories of its operations, in order. -/
theorem stories (balanced : annals.chronicle.Balanced)
    (plain : ∀ event ∈ annals.events, event.starts = true → event = .started event.stream)
    (stream : StreamId) :
    annals.events.filter (DiagnosticsEvent.concerns stream) =
      (annals.lives.filter fun life => decide (life.stream = stream)).flatMap Life.story := by
  rw [DiagnosticsEvent.filter_concerns _ _ plain]
  have lines := balanced.stories stream
  simp only [chronicle, Chronicle.livesOn, List.filter_map] at lines
  rw [lines, List.map_flatMap, List.flatMap_map]
  apply List.flatMap_congr
  intro life _
  cases result : life.result with
  | none => simp [Chronicle.story, Life.story, result, DiagnosticsEvent.render]
  | some value => simp [Chronicle.story, Life.story, result, DiagnosticsEvent.render]

/-- A story without an open end has as many ends as starts. -/
theorem stories_counts (lives : List Life) (stream : StreamId)
    (settledAll : ∀ life ∈ lives, life.stream = stream → life.result ≠ none) :
    (((lives.filter fun life => decide (life.stream = stream)).flatMap Life.story).countP
        (DiagnosticsEvent.startsOn stream)) =
      ((lives.filter fun life => decide (life.stream = stream)).flatMap Life.story).countP
        (DiagnosticsEvent.endsOn stream) := by
  induction lives with
  | nil => rfl
  | cons life rest inductionHypothesis =>
    have remaining := inductionHypothesis fun other member =>
      settledAll other (List.mem_cons_of_mem _ member)
    by_cases same : life.stream = stream
    · obtain ⟨result, settled⟩ := Option.ne_none_iff_exists'.mp
        (settledAll life (List.mem_cons_self ..) same)
      obtain ⟨about, startless, -⟩ := completionEvent_ends stream result
      have place : (completionEvent stream result).stream = stream := rfl
      have first : (DiagnosticsEvent.started stream).starts = true := rfl
      have home : (DiagnosticsEvent.started stream).stream = stream := rfl
      simp [same, Life.story, settled, remaining, DiagnosticsEvent.startsOn,
        DiagnosticsEvent.endsOn, DiagnosticsEvent.ends, about, startless, place, first, home]
    · simpa [same] using remaining

/-- Where the end of the connection is reported, it is reported once, and nothing about
operations follows. -/
theorem Reported.once (reported : annals.Reported) {front back : List DiagnosticsEvent}
    {event : DiagnosticsEvent} (split : annals.events = front ++ event :: back)
    (closes : event.closes = true) :
    annals.closed = true ∧ back = [] ∧ ∀ other ∈ front, other.closes = false := by
  have member : event ∈ annals.events := by simp [split]
  have closed : annals.closed = true := by
    by_contra running
    have silent := reported.silent (by simpa using running) event member
    simp [closes] at silent
  obtain ⟨earlier, whole, silent⟩ := reported.last closed
  refine ⟨closed, ?_⟩
  rcases List.eq_nil_or_concat back with rfl | ⟨others, last, rfl⟩
  · have same : front = earlier := by
      have parts := split.symm.trans whole
      exact (List.append_inj' parts rfl).1
    exact ⟨rfl, same ▸ silent⟩
  · have parts : (front ++ event :: others) ++ [last] = earlier ++ [.closing] := by
      rw [← whole, split]
      simp
    have same := (List.append_inj' parts rfl).1
    have contained : event ∈ earlier := by
      rw [← same]
      simp
    have absent := silent event contained
    simp [closes] at absent

end Annals

end Rillnet
