import Rillnet.ServerShell
import Rillnet.ClientLedger

/-!
# The book of a server connection

The part of a server connection that requests and handlers act on: the handler
coroutines with their operations, the map, the terminal streams, and the history
of frames accepted, held and dispatched. Every event of the connection is at most
one of the changes of `Book.Step`.
-/

namespace Rillnet

/-- The frame of a response: it ends its stream, declares its payload and stays
within the limit. -/
structure ReplyFrame (frame : Frame) (stream : StreamId) : Prop where
  version : frame.header.version = currentProtocolVersion
  type : frame.header.type = .response
  flags : frame.header.flags = .none ||| .endOfStream
  stream : frame.header.stream = stream
  declared : frame.header.payloadSize = UInt32.ofNat frame.payload.length
  within : frame.payload.length ≤ defaultMaxPayloadSize.toNat

theorem ReplyFrame.valid {frame : Frame} {stream : StreamId} (framed : ReplyFrame frame stream)
    (assigned : stream.value ≠ 0) : validateFrame frame = .none := by
  refine valid_frame frame framed.version ?_ ?_ ?_ ?_ framed.declared framed.within
  · rw [framed.type]
    rfl
  · rw [framed.flags]
    decide
  · rw [framed.flags]
    decide
  · rw [framed.stream]
    exact assigned

theorem makeErrorFrame_errs (stream : StreamId) (status : StatusCode) :
    hasFlag (makeErrorFrame stream status).header.flags .error = true := by
  change hasFlag (.error ||| .endOfStream) .error = true
  decide

/-- An error frame on a stream passes every check. -/
theorem makeErrorFrame_valid (stream : StreamId) (status : StatusCode) (assigned : stream.value ≠ 0) :
    validateFrame (makeErrorFrame stream status) = .none := by
  have flags : (makeErrorFrame stream status).header.flags = .error ||| .endOfStream := rfl
  have limit : defaultMaxPayloadSize.toNat = 16777216 := by decide
  refine valid_frame _ rfl rfl ?_ ?_ assigned rfl ?_
  · rw [flags]
    decide
  · rw [flags]
    decide
  · rw [limit]
    simp [makeErrorFrame]

/-- An active operation of a lost connection is asked to stop and failed. -/
def Operation.lost (operation : Operation StreamId) : Operation StreamId :=
  ((operation.requestCancellation.1).fail .connectionClosed
    "connection closed while processing a request").1

/-- What losing the connection does to an operation that was activated. -/
theorem Operation.lost_eq (operation : Operation StreamId) (activated : operation.state ≠ .created) :
    operation.lost =
      if operation.state = .active then
        { operation with
          state := .failed
          result := some (.failure .connectionClosed "connection closed while processing a request")
          cancellationRequested := true }
      else operation := by
  by_cases active : operation.state = .active
  · have live := operation.isTerminal_active active
    simp [lost, requestCancellation, live, fail, finish_eq, OperationState.canTransition, active]
  · have terminal : operation.isTerminal = true := by
      rw [isTerminal_iff]
      cases state : operation.state <;> simp_all
    simp [lost, requestCancellation, terminal, fail, finish_eq, OperationState.canTransition, active]

/-- The operation once its response is ready. -/
def Operation.answered (operation : Operation StreamId) : Operation StreamId :=
  { operation with state := .completed, result := some (OperationResult.success "response ready") }

section Books

variable {τ : Type} {ν : τ → Type}

/-- A spawned handler coroutine. -/
def Invocation.spawn (frame : Frame) (handler : RequestHandler τ) (inbound : Nat) :
    Invocation ν where
  frame := frame
  handler := handler
  operation := ({ stream := frame.header.stream, completionHandler := some frame.header.stream } :
    Operation StreamId).activate.1
  inbound := inbound

/-- What requests and handlers act on. -/
structure Book (ν : τ → Type) where
  invocations : List (Invocation ν)
  operations : AList (fun _ : StreamId => Nat)
  terminalStreams : Finset StreamId
  accepted : List Frame
  held : Nat → Option Frame
  dispatched : List Frame

/-- The book of a connection. -/
def ServerConnection.book (server : ServerConnection ν) : Book ν where
  invocations := server.invocations
  operations := server.operations
  terminalStreams := server.terminalStreams
  accepted := server.writeQueue.accepted
  held := server.writeQueue.held
  dispatched := server.dispatched

/-- How a handler coroutine ends: it rejects its request, with the error frames the
queue took; it says nothing; its response is refused by the queue, or taken. -/
inductive Ending where
  | rejected (offered : List Frame)
  | silent
  | refused
  | replied (frame : Frame)
deriving DecidableEq, Repr

/-- The frames a coroutine gives to the queue at its end. -/
def Ending.offered : Ending → List Frame
  | .rejected offered => offered
  | .silent | .refused => []
  | .replied frame => [frame]

/-- The changes of a book that depend on the event at hand: a frame is
dispatched, the work on a stream is over and some frames are given to the queue,
a handler coroutine waits with its response, or ends. -/
inductive Deed where
  | reads (frame : Frame)
  | concludes (stream : StreamId) (offered : List Frame)
  | waits (invocation : Nat) (frame : Frame)
  | ends (invocation : Nat) (ending : Ending)
deriving DecidableEq, Repr

namespace Book

/-- A request starts an operation and its handler. -/
def spawn (book : Book ν) (frame : Frame) (handler : RequestHandler τ) : Book ν :=
  { book with
    invocations := book.invocations ++ [Invocation.spawn frame handler book.dispatched.length]
    operations := book.operations.insert frame.header.stream book.invocations.length }

def update (book : Book ν) (invocation : Nat) (new : Invocation ν) : Book ν :=
  { book with invocations := book.invocations.set invocation new }

/-- A handler coroutine ends and takes its stream out of the map. -/
def finish (book : Book ν) (invocation : Nat) (new : Invocation ν) : Book ν :=
  { book with
    invocations := book.invocations.set invocation { new with stage := .finished }
    operations := book.operations.erase new.stream }

def accept (book : Book ν) (frames : List Frame) : Book ν :=
  { book with accepted := book.accepted ++ frames }

def hold (book : Book ν) (invocation : Nat) (frame : Option Frame) : Book ν :=
  { book with held := Function.update book.held invocation frame }

/-- A frame was dispatched. -/
def seen (book : Book ν) (frame : Frame) : Book ν :=
  { book with dispatched := book.dispatched ++ [frame] }

/-- A frame ends its stream if it is flagged so. -/
def mark (book : Book ν) (frame : Frame) : Book ν :=
  { book with
    terminalStreams :=
      if hasFlag frame.header.flags .endOfStream then
        insert frame.header.stream book.terminalStreams
      else book.terminalStreams }

@[simp] theorem accept_nil (book : Book ν) : book.accept [] = book := by
  simp [accept]

/-- A coroutine that gave its frame up leaves the frames of the others. -/
theorem hold_none_held {book : Book ν} {invocation holder : Nat} {kept : Frame}
    (holds : (book.hold invocation none).held holder = some kept) :
    holder ≠ invocation ∧ book.held holder = some kept := by
  by_cases same : holder = invocation
  · subst same
    simp [hold] at holds
  · exact ⟨same, by simpa [hold, same] using holds⟩

/-- Why a frame is answered with an error at once. -/
inductive Refuses (draining : Prop) (frame : Frame) : StatusCode → Prop where
  | draining (drains : draining) : Refuses draining frame .connectionClosed
  | unreadable (request : frame.header.type = .request)
      (plain : hasFlag frame.header.flags .cancel = false) (serving : ¬ draining) :
      Refuses draining frame .decodeError
  | unhandled (request : frame.header.type = .request)
      (plain : hasFlag frame.header.flags .cancel = false) (serving : ¬ draining) :
      Refuses draining frame .unknownMessageType

/-- Why a frame is held against the peer. -/
def Blames (book : Book ν) (frame : Frame) : Prop :=
  frame.header.type ≠ .request ∨ frame.header.stream ∈ book.terminalStreams ∨
    (hasFlag frame.header.flags .cancel = true ∧
      book.operations.lookup frame.header.stream = none) ∨
    (hasFlag frame.header.flags .cancel = false ∧
      (book.operations.lookup frame.header.stream).isSome)

section Steps

variable [DecidableEq τ] (registry : MessageRegistry τ) (codec : Codec τ ν) (draining : Prop)
variable (permits : Deed → Prop)

/-- Everything the code of the connection does to its book. Every change but the
start of a handler and the loss of the connection has to be permitted. -/
inductive Step (book : Book ν) : Book ν → Prop where
  | spawned (frame : Frame) (handler : RequestHandler τ) (permitted : permits (.reads frame))
      (request : frame.header.type = .request)
      (plain : hasFlag frame.header.flags .cancel = false)
      (unmarked : frame.header.stream ∉ book.terminalStreams)
      (free : book.operations.lookup frame.header.stream = none) (serving : ¬ draining) :
      Step book ((book.spawn frame handler).seen frame)
  | cancelled (frame : Frame) (invocation : Nat) (object : Invocation ν)
      (permitted : permits (.reads frame)) (request : frame.header.type = .request)
      (found : book.invocations[invocation]? = some object)
      (entry : book.operations.lookup frame.header.stream = some invocation)
      (cancels : hasFlag frame.header.flags .cancel = true)
      (unmarked : frame.header.stream ∉ book.terminalStreams) (serving : ¬ draining) :
      Step book (((book.update invocation { object with
        operation := (object.operation.cancel "operation cancelled by peer").1 }).mark frame).seen
          frame)
  | answered (frame : Frame) (status : StatusCode) (offered : List Frame)
      (permitted : permits (.reads frame)) (refuses : Refuses draining frame status)
      (kind : offered = [] ∨ offered = [makeErrorFrame frame.header.stream status])
      (concluded : permits (.concludes frame.header.stream offered)) :
      Step book (((book.accept offered).mark frame).seen frame)
  | accused (frame : Frame) (permitted : permits (.reads frame)) (blames : book.Blames frame)
      (serving : ¬ draining) : Step book (book.seen frame)
  | started (invocation : Nat) (object : Invocation ν) (argument : Option (ν object.handler.request))
      (found : book.invocations[invocation]? = some object) (spawned : object.stage = .spawned)
      (decoded : (decodeMessage registry codec object.handler.request object.frame).ok = true) :
      Step book (book.update invocation { object with stage := .handling, argument := argument })
  | undecodable (invocation : Nat) (object : Invocation ν) (status : StatusCode) (message : String)
      (offered : List Frame) (permitted : permits (.concludes object.stream offered))
      (ends : permits (.ends invocation (.rejected offered)))
      (found : book.invocations[invocation]? = some object)
      (spawned : object.stage = .spawned)
      (decoded : decodeMessage registry codec object.handler.request object.frame =
        ⟨(decodeMessage registry codec object.handler.request object.frame).value, status, message⟩)
      (failure : status ≠ .ok)
      (kind : offered = [] ∨ offered = [makeErrorFrame object.stream status]) :
      Step book ((book.accept offered).finish invocation { object with
        operation := (object.operation.fail status message).1 })
  | dropped (invocation : Nat) (object : Invocation ν)
      (permitted : permits (.concludes object.stream [])) (ends : permits (.ends invocation .silent))
      (found : book.invocations[invocation]? = some object) (handling : object.stage = .handling) :
      Step book (book.finish invocation object)
  | refused (invocation : Nat) (object : Invocation ν) (operation : Operation StreamId)
      (permitted : permits (.concludes object.stream []))
      (ends : permits (.ends invocation .refused))
      (found : book.invocations[invocation]? = some object)
      (ready : (object.stage = .handling ∧ object.operation.state = .active ∧
          operation = object.operation.answered) ∨
        (object.stage = .responding ∧ operation = object.operation)) :
      Step book ((book.hold invocation none).finish invocation { object with operation := operation })
  | suspended (invocation : Nat) (object : Invocation ν) (frame : Frame)
      (waits : permits (.waits invocation frame))
      (found : book.invocations[invocation]? = some object) (handling : object.stage = .handling)
      (active : object.operation.state = .active) (framed : ReplyFrame frame object.stream) :
      Step book ((book.hold invocation (some frame)).update invocation { object with
        operation := object.operation.answered
        stage := .responding })
  | replied (invocation : Nat) (object : Invocation ν) (operation : Operation StreamId)
      (frame : Frame) (permitted : permits (.concludes object.stream [frame]))
      (ends : permits (.ends invocation (.replied frame)))
      (found : book.invocations[invocation]? = some object)
      (ready : (object.stage = .handling ∧ object.operation.state = .active ∧
          operation = object.operation.answered) ∨
        (object.stage = .responding ∧ book.held invocation = some frame ∧
          operation = object.operation))
      (framed : ReplyFrame frame object.stream) :
      Step book (((book.hold invocation none).accept [frame]).finish invocation { object with
        operation := operation
        reply := some book.accepted.length })
  | lost (others : List (Invocation ν)) (length : others.length = book.invocations.length)
      (each : ∀ (invocation : Nat) (object : Invocation ν),
        book.invocations[invocation]? = some object →
        others[invocation]? = some object ∨
          others[invocation]? = some { object with operation := object.operation.lost }) :
      Step book { book with invocations := others }

end Steps

/-- The handler coroutines, the map and the queue agree, and every accepted frame
is an error for a dispatched frame or the reply of an invocation. -/
structure Sound (book : Book ν) : Prop where
  operation : ∀ (invocation : Nat) (object : Invocation ν),
    book.invocations[invocation]? = some object →
    object.operation.stream = object.stream ∧
      object.operation.completionHandler = some object.stream ∧ object.operation.state ≠ .created
  inbound : ∀ (invocation : Nat) (object : Invocation ν),
    book.invocations[invocation]? = some object →
    book.dispatched[object.inbound]? = some object.frame ∧
      object.frame.header.type = .request ∧ hasFlag object.frame.header.flags .cancel = false
  distinct : ∀ (first second : Nat) (one other : Invocation ν),
    book.invocations[first]? = some one → book.invocations[second]? = some other →
    one.inbound = other.inbound → first = second
  entry : ∀ (stream : StreamId) (invocation : Nat),
    book.operations.lookup stream = some invocation →
    ∃ object, book.invocations[invocation]? = some object ∧ object.stream = stream ∧
      object.stage ≠ .finished
  listed : ∀ (invocation : Nat) (object : Invocation ν),
    book.invocations[invocation]? = some object → object.stage ≠ .finished →
    book.operations.lookup object.stream = some invocation
  held : ∀ (invocation : Nat) (frame : Frame), book.held invocation = some frame →
    ∃ object, book.invocations[invocation]? = some object ∧ object.stage = .responding ∧
      ReplyFrame frame object.stream
  responding : ∀ (invocation : Nat) (object : Invocation ν),
    book.invocations[invocation]? = some object → object.stage = .responding →
    object.operation.state = .completed
  reply : ∀ (invocation : Nat) (object : Invocation ν) (position : Nat),
    book.invocations[invocation]? = some object → object.reply = some position →
    object.stage = .finished ∧
      ∃ frame, book.accepted[position]? = some frame ∧ ReplyFrame frame object.stream
  answers : ∀ (position : Nat) (frame : Frame), book.accepted[position]? = some frame →
    (∃ request ∈ book.dispatched, ∃ status,
      frame = makeErrorFrame request.header.stream status) ∨
    ∃ (invocation : Nat) (object : Invocation ν), book.invocations[invocation]? = some object ∧
      object.reply = some position

section Soundness

variable {book : Book ν} (sound : book.Sound)
include sound

/-- Error frames and dispatched frames may be added. -/
theorem Sound.history (other : Book ν) (invocations : other.invocations = book.invocations)
    (operations : other.operations = book.operations) (held : other.held = book.held)
    (dispatched : book.dispatched <+: other.dispatched) (offered : List Frame)
    (accepted : other.accepted = book.accepted ++ offered)
    (errors : ∀ frame ∈ offered, ∃ request ∈ other.dispatched, ∃ status,
      frame = makeErrorFrame request.header.stream status) : other.Sound := by
  constructor
  · rw [invocations]
    exact sound.operation
  · intro invocation object found
    rw [invocations] at found
    obtain ⟨seen, rest⟩ := sound.inbound invocation object found
    exact ⟨getElem?_initial dispatched seen, rest⟩
  · rw [invocations]
    exact sound.distinct
  · rw [invocations, operations]
    exact sound.entry
  · rw [invocations, operations]
    exact sound.listed
  · rw [invocations, held]
    exact sound.held
  · rw [invocations]
    exact sound.responding
  · intro invocation object position found replied
    rw [invocations] at found
    obtain ⟨finished, frame, present, framed⟩ := sound.reply invocation object position found replied
    refine ⟨finished, frame, ?_, framed⟩
    rw [accepted]
    exact getElem?_initial (List.prefix_append _ _) present
  · intro position frame present
    rw [accepted] at present
    rw [invocations]
    by_cases earlier : position < book.accepted.length
    · rw [List.getElem?_append_left earlier] at present
      rcases sound.answers position frame present with ⟨request, member, error⟩ | replied
      · exact Or.inl ⟨request, dispatched.subset member, error⟩
      · exact Or.inr replied
    · rw [List.getElem?_append_right (Nat.le_of_not_lt earlier)] at present
      exact Or.inl (errors frame (List.mem_of_getElem? present))

variable {invocation : Nat} {old : Invocation ν}
variable (found : book.invocations[invocation]? = some old)
include found

/-- Only a responding coroutine holds a frame. -/
theorem Sound.unheld (silent : old.stage ≠ .responding) (holder : Nat) (kept : Frame)
    (holds : book.held holder = some kept) : holder ≠ invocation := by
  rintro rfl
  obtain ⟨object, present, responds, -⟩ := sound.held holder kept holds
  obtain rfl : old = object := Option.some.inj (found.symm.trans present)
  exact silent responds

section Advance

variable {other : Book ν} {new : Invocation ν}
variable (invocations : other.invocations = book.invocations.set invocation new)
include invocations

omit sound in
theorem written_here : other.invocations[invocation]? = some new := by
  rw [invocations]
  exact (getElem?_set_found new found invocation).trans (if_pos rfl)

omit sound in
theorem written_elsewhere {place : Nat} (different : place ≠ invocation) :
    other.invocations[place]? = book.invocations[place]? := by
  rw [invocations]
  exact (getElem?_set_found new found place).trans (if_neg different)

/-- Every entry still names a running coroutine on its stream. -/
theorem Sound.advance_entry (stream : new.stream = old.stream)
    (operations : (new.stage ≠ .finished ∧ other.operations = book.operations) ∨
      (new.stage = .finished ∧ other.operations = book.operations.erase old.stream))
    (key : StreamId) (place : Nat) (lookup : other.operations.lookup key = some place) :
    ∃ object, other.invocations[place]? = some object ∧ object.stream = key ∧
      object.stage ≠ .finished := by
  rcases operations with ⟨still, same⟩ | ⟨-, erased⟩
  · rw [same] at lookup
    obtain ⟨object, present, sameStream, unfinished⟩ := sound.entry key place lookup
    by_cases here : place = invocation
    · subst here
      obtain rfl : old = object := Option.some.inj (found.symm.trans present)
      exact ⟨new, written_here found invocations, stream.trans sameStream, still⟩
    · exact ⟨object, (written_elsewhere found invocations here).trans present, sameStream,
        unfinished⟩
  · rw [erased] at lookup
    by_cases same : key = old.stream
    · subst same
      simp at lookup
    · rw [AList.lookup_erase_ne same] at lookup
      obtain ⟨object, present, sameStream, unfinished⟩ := sound.entry key place lookup
      have different : place ≠ invocation := by
        rintro rfl
        obtain rfl : old = object := Option.some.inj (found.symm.trans present)
        exact same sameStream.symm
      exact ⟨object, (written_elsewhere found invocations different).trans present, sameStream,
        unfinished⟩

/-- Every running coroutine still has its entry. -/
theorem Sound.advance_listed (stream : new.stream = old.stream) (running : old.stage ≠ .finished)
    (operations : (new.stage ≠ .finished ∧ other.operations = book.operations) ∨
      (new.stage = .finished ∧ other.operations = book.operations.erase old.stream))
    (place : Nat) (object : Invocation ν) (present : other.invocations[place]? = some object)
    (unfinished : object.stage ≠ .finished) :
    other.operations.lookup object.stream = some place := by
  have own := sound.listed invocation old found running
  rw [invocations] at present
  rcases getElem?_set_cases found present with ⟨rfl, rfl⟩ | ⟨different, before⟩
  · rcases operations with ⟨-, same⟩ | ⟨finished, -⟩
    · rw [same, stream]
      exact own
    · exact absurd finished unfinished
  · have lookup := sound.listed place object before unfinished
    rcases operations with ⟨-, same⟩ | ⟨-, erased⟩
    · rw [same]
      exact lookup
    · have spared : object.stream ≠ old.stream := by
        intro same
        rw [same, own] at lookup
        exact different (Option.some.inj lookup).symm
      rw [erased, AList.lookup_erase_ne spared]
      exact lookup

/-- Every accepted frame is still an error or a reply. -/
theorem Sound.advance_answers (dispatched : other.dispatched = book.dispatched)
    (unanswered : old.reply = none)
    (accepted : other.accepted = book.accepted ∨
      ∃ reply, other.accepted = book.accepted ++ [reply] ∧ new.reply = some book.accepted.length)
    (position : Nat) (reply : Frame) (taken : other.accepted[position]? = some reply) :
    (∃ request ∈ other.dispatched, ∃ status,
      reply = makeErrorFrame request.header.stream status) ∨
    ∃ (place : Nat) (object : Invocation ν), other.invocations[place]? = some object ∧
      object.reply = some position := by
  have earlier (before : book.accepted[position]? = some reply) :
      (∃ request ∈ other.dispatched, ∃ status,
        reply = makeErrorFrame request.header.stream status) ∨
      ∃ (place : Nat) (object : Invocation ν), other.invocations[place]? = some object ∧
        object.reply = some position := by
    rcases sound.answers position reply before with error | ⟨place, object, present, replied⟩
    · exact Or.inl (dispatched ▸ error)
    · have different : place ≠ invocation := by
        rintro rfl
        obtain rfl : old = object := Option.some.inj (found.symm.trans present)
        rw [unanswered] at replied
        simp at replied
      exact Or.inr ⟨place, object, (written_elsewhere found invocations different).trans present,
        replied⟩
  rcases accepted with same | ⟨added, joined, recorded⟩
  · exact earlier (same ▸ taken)
  · rw [joined] at taken
    by_cases last : position = book.accepted.length
    · subst last
      exact Or.inr ⟨invocation, new, written_here found invocations, recorded⟩
    · have bound := (List.getElem?_eq_some_iff.mp taken).1
      rw [List.length_append, List.length_singleton] at bound
      rw [List.getElem?_append_left (by omega)] at taken
      exact earlier taken

end Advance

/-- One running coroutine goes on: it stays in the map or leaves it, and the
frame it may add to the queue is its reply. -/
theorem Sound.advance (other : Book ν) (new : Invocation ν)
    (invocations : other.invocations = book.invocations.set invocation new)
    (frame : new.frame = old.frame) (inbound : new.inbound = old.inbound)
    (dispatched : other.dispatched = book.dispatched) (running : old.stage ≠ .finished)
    (operation : new.operation.stream = old.operation.stream ∧
      new.operation.completionHandler = old.operation.completionHandler ∧
      new.operation.state ≠ .created)
    (operations : (new.stage ≠ .finished ∧ other.operations = book.operations) ∨
      (new.stage = .finished ∧ other.operations = book.operations.erase old.stream))
    (held : ∀ (holder : Nat) (kept : Frame), other.held holder = some kept →
      (holder ≠ invocation ∧ book.held holder = some kept) ∨
      (holder = invocation ∧ new.stage = .responding ∧ ReplyFrame kept old.stream))
    (responding : new.stage = .responding → new.operation.state = .completed)
    (accepted : (other.accepted = book.accepted ∧ new.reply = old.reply) ∨
      ∃ reply, other.accepted = book.accepted ++ [reply] ∧ ReplyFrame reply old.stream ∧
        new.reply = some book.accepted.length ∧ new.stage = .finished) : other.Sound := by
  have stream : new.stream = old.stream := congrArg (fun frame => frame.header.stream) frame
  have reading : ∀ (place : Nat) (object : Invocation ν),
      other.invocations[place]? = some object →
      (place = invocation ∧ object = new) ∨
        (place ≠ invocation ∧ book.invocations[place]? = some object) := by
    intro place object present
    rw [invocations] at present
    exact getElem?_set_cases found present
  have unanswered : old.reply = none := by
    cases replied : old.reply with
    | none => rfl
    | some position => exact absurd (sound.reply invocation old position found replied).1 running
  have extended : book.accepted <+: other.accepted := by
    rcases accepted with ⟨same, -⟩ | ⟨reply, joined, -⟩
    · rw [same]
    · rw [joined]
      exact List.prefix_append _ _
  constructor
  · intro place object present
    rcases reading place object present with ⟨rfl, rfl⟩ | ⟨-, before⟩
    · obtain ⟨sameStream, handler, -⟩ := sound.operation place old found
      rw [stream]
      exact ⟨operation.1.trans sameStream, operation.2.1.trans handler, operation.2.2⟩
    · exact sound.operation place object before
  · intro place object present
    rw [dispatched]
    rcases reading place object present with ⟨rfl, rfl⟩ | ⟨-, before⟩
    · rw [frame, inbound]
      exact sound.inbound place old found
    · exact sound.inbound place object before
  · intro first second one another presentOne presentOther same
    rcases reading first one presentOne with ⟨rfl, rfl⟩ | ⟨-, before⟩
    · rcases reading second another presentOther with ⟨rfl, -⟩ | ⟨-, beforeOther⟩
      · rfl
      · exact sound.distinct first second old another found beforeOther (inbound.symm.trans same)
    · rcases reading second another presentOther with ⟨rfl, rfl⟩ | ⟨-, beforeOther⟩
      · exact sound.distinct first second one old before found (same.trans inbound)
      · exact sound.distinct first second one another before beforeOther same
  · exact sound.advance_entry found invocations stream operations
  · exact sound.advance_listed found invocations stream running operations
  · intro holder kept holds
    rcases held holder kept holds with ⟨different, before⟩ | ⟨rfl, responds, framed⟩
    · obtain ⟨object, present, rest⟩ := sound.held holder kept before
      exact ⟨object, (written_elsewhere found invocations different).trans present, rest⟩
    · exact ⟨new, written_here found invocations, responds, stream ▸ framed⟩
  · intro place object present responds
    rcases reading place object present with ⟨rfl, rfl⟩ | ⟨-, before⟩
    · exact responding responds
    · exact sound.responding place object before responds
  · intro place object position present replied
    rcases reading place object present with ⟨rfl, rfl⟩ | ⟨-, before⟩
    · rcases accepted with ⟨-, same⟩ | ⟨reply, joined, framed, recorded, finished⟩
      · rw [same, unanswered] at replied
        simp at replied
      · rw [recorded] at replied
        obtain rfl := Option.some.inj replied
        refine ⟨finished, reply, ?_, stream ▸ framed⟩
        rw [joined]
        simp
    · obtain ⟨finished, reply, taken, framed⟩ := sound.reply place object position before replied
      exact ⟨finished, reply, getElem?_initial extended taken, framed⟩
  · apply sound.advance_answers found invocations dispatched unanswered
    rcases accepted with ⟨same, -⟩ | ⟨reply, joined, -, recorded, -⟩
    · exact Or.inl same
    · exact Or.inr ⟨reply, joined, recorded⟩

end Soundness

/-- An empty book is sound. -/
theorem Sound.empty (book : Book ν) (invocations : book.invocations = [])
    (operations : book.operations = ∅) (accepted : book.accepted = [])
    (held : ∀ invocation, book.held invocation = none) : book.Sound := by
  constructor <;> simp [invocations, operations, accepted, held]

section Spawning

variable {book : Book ν} (sound : book.Sound)
include sound

/-- A request on a stream without an operation starts a fresh one. -/
theorem Sound.spawn (frame : Frame) (handler : RequestHandler τ)
    (request : frame.header.type = .request) (plain : hasFlag frame.header.flags .cancel = false)
    (free : book.operations.lookup frame.header.stream = none) :
    ((book.spawn frame handler).seen frame).Sound := by
  have reading : ∀ (place : Nat) (object : Invocation ν),
      ((book.spawn frame handler).seen frame).invocations[place]? = some object →
      book.invocations[place]? = some object ∨
        place = book.invocations.length ∧
          object = Invocation.spawn frame handler book.dispatched.length :=
    fun place object present => getElem?_append_singleton present
  have earlier : ∀ (place : Nat) (object : Invocation ν),
      book.invocations[place]? = some object →
      ((book.spawn frame handler).seen frame).invocations[place]? = some object :=
    fun place object present => getElem?_append_found present
  have inboundBound : ∀ (place : Nat) (object : Invocation ν),
      book.invocations[place]? = some object → object.inbound < book.dispatched.length :=
    fun place object present =>
      (List.getElem?_eq_some_iff.mp (sound.inbound place object present).1).1
  have placeBound : ∀ (place : Nat) (object : Invocation ν),
      book.invocations[place]? = some object → place < book.invocations.length :=
    fun place object present => (List.getElem?_eq_some_iff.mp present).1
  constructor
  · intro place object present
    rcases reading place object present with before | ⟨-, rfl⟩
    · exact sound.operation place object before
    · refine ⟨rfl, rfl, ?_⟩
      simp [Invocation.spawn, Operation.activate, OperationState.transition,
        OperationState.canTransition]
  · intro place object present
    rcases reading place object present with before | ⟨-, rfl⟩
    · obtain ⟨seen, rest⟩ := sound.inbound place object before
      exact ⟨getElem?_append_found seen, rest⟩
    · refine ⟨?_, request, plain⟩
      simp [Invocation.spawn, seen, Book.spawn]
  · intro first second one other presentOne presentOther same
    rcases reading first one presentOne with beforeOne | ⟨lastOne, rfl⟩
    · rcases reading second other presentOther with beforeOther | ⟨-, rfl⟩
      · exact sound.distinct first second one other beforeOne beforeOther same
      · have bound := inboundBound first one beforeOne
        rw [same] at bound
        exact absurd bound (Nat.lt_irrefl _)
    · rcases reading second other presentOther with beforeOther | ⟨lastOther, -⟩
      · have bound := inboundBound second other beforeOther
        rw [← same] at bound
        exact absurd bound (Nat.lt_irrefl _)
      · exact lastOne.trans lastOther.symm
  · intro stream place lookup
    by_cases same : stream = frame.header.stream
    · subst same
      have place_eq : book.invocations.length = place := by
        simpa [seen, Book.spawn] using lookup
      subst place_eq
      refine ⟨Invocation.spawn frame handler book.dispatched.length, ?_, rfl, ?_⟩
      · simp [seen, Book.spawn]
      · simp [Invocation.spawn]
    · have lookup : book.operations.lookup stream = some place := by
        simpa [seen, Book.spawn, AList.lookup_insert_ne same] using lookup
      obtain ⟨object, present, rest⟩ := sound.entry stream place lookup
      exact ⟨object, earlier place object present, rest⟩
  · intro place object present unfinished
    rcases reading place object present with before | ⟨rfl, rfl⟩
    · have lookup := sound.listed place object before unfinished
      have different : object.stream ≠ frame.header.stream := by
        intro same
        rw [same, free] at lookup
        simp at lookup
      simpa [seen, Book.spawn, AList.lookup_insert_ne different] using lookup
    · simp [seen, Book.spawn, Invocation.spawn, Invocation.stream]
  · intro place kept holds
    obtain ⟨object, present, rest⟩ := sound.held place kept holds
    exact ⟨object, earlier place object present, rest⟩
  · intro place object present responds
    rcases reading place object present with before | ⟨-, rfl⟩
    · exact sound.responding place object before responds
    · simp [Invocation.spawn] at responds
  · intro place object position present replied
    rcases reading place object present with before | ⟨-, rfl⟩
    · exact sound.reply place object position before replied
    · simp [Invocation.spawn] at replied
  · intro position reply taken
    rcases sound.answers position reply taken with ⟨seen, member, error⟩ |
      ⟨place, object, present, replied⟩
    · exact Or.inl ⟨seen, List.mem_append_left _ member, error⟩
    · exact Or.inr ⟨place, object, earlier place object present, replied⟩

/-- Losing operations changes nothing the book depends on. -/
theorem Sound.lose (others : List (Invocation ν))
    (length : others.length = book.invocations.length)
    (each : ∀ (invocation : Nat) (object : Invocation ν),
      book.invocations[invocation]? = some object →
      others[invocation]? = some object ∨
        others[invocation]? = some { object with operation := object.operation.lost }) :
    ({ book with invocations := others } : Book ν).Sound := by
  -- whatever is read afterwards was read before, up to the loss of its operation
  have reading : ∀ (place : Nat) (object : Invocation ν), others[place]? = some object →
      ∃ old, book.invocations[place]? = some old ∧
        (object = old ∨ object = { old with operation := old.operation.lost }) := by
    intro place object present
    have bound : place < book.invocations.length :=
      length ▸ (List.getElem?_eq_some_iff.mp present).1
    have old := List.getElem?_eq_getElem bound
    refine ⟨_, old, ?_⟩
    rcases each place _ old with same | lost
    · exact Or.inl (Option.some.inj (present.symm.trans same))
    · exact Or.inr (Option.some.inj (present.symm.trans lost))
  have writing : ∀ (place : Nat) (old : Invocation ν), book.invocations[place]? = some old →
      ∃ object, others[place]? = some object ∧ object.stream = old.stream ∧
        object.stage = old.stage ∧ object.reply = old.reply := by
    intro place old found
    rcases each place old found with same | lost
    · exact ⟨old, same, rfl, rfl, rfl⟩
    · exact ⟨_, lost, rfl, rfl, rfl⟩
  constructor
  · intro place object present
    obtain ⟨old, found, rfl | rfl⟩ := reading place object present
    · exact sound.operation place object found
    · obtain ⟨stream, handler, activated⟩ := sound.operation place old found
      dsimp only
      rw [old.operation.lost_eq activated]
      split
      · exact ⟨stream, handler, nofun⟩
      · exact ⟨stream, handler, activated⟩
  · intro place object present
    obtain ⟨old, found, rfl | rfl⟩ := reading place object present
    · exact sound.inbound place object found
    · exact sound.inbound place old found
  · intro first second one other presentOne presentOther same
    obtain ⟨oldOne, foundOne, kindOne⟩ := reading first one presentOne
    obtain ⟨oldOther, foundOther, kindOther⟩ := reading second other presentOther
    apply sound.distinct first second oldOne oldOther foundOne foundOther
    rcases kindOne with rfl | rfl <;> rcases kindOther with rfl | rfl <;> exact same
  · intro stream place lookup
    obtain ⟨old, found, sameStream, unfinished⟩ := sound.entry stream place lookup
    obtain ⟨object, present, stream_eq, stage, -⟩ := writing place old found
    exact ⟨object, present, stream_eq.trans sameStream, stage ▸ unfinished⟩
  · intro place object present unfinished
    obtain ⟨old, found, rfl | rfl⟩ := reading place object present
    · exact sound.listed place object found unfinished
    · exact sound.listed place old found unfinished
  · intro place kept holds
    obtain ⟨old, found, responding, framed⟩ := sound.held place kept holds
    obtain ⟨object, present, stream, stage, -⟩ := writing place old found
    exact ⟨object, present, stage.trans responding, stream ▸ framed⟩
  · intro place object present responds
    obtain ⟨old, found, rfl | rfl⟩ := reading place object present
    · exact sound.responding place object found responds
    · have completed := sound.responding place old found responds
      have activated := (sound.operation place old found).2.2
      dsimp only
      rw [old.operation.lost_eq activated]
      simp [completed]
  · intro place object position present replied
    obtain ⟨old, found, rfl | rfl⟩ := reading place object present
    · exact sound.reply place object position found replied
    · exact sound.reply place old position found replied
  · intro position reply taken
    rcases sound.answers position reply taken with error | ⟨place, old, found, replied⟩
    · exact Or.inl error
    · obtain ⟨object, present, -, -, same⟩ := writing place old found
      exact Or.inr ⟨place, object, present, same.trans replied⟩

end Spawning

section Steps

variable [DecidableEq τ] {registry : MessageRegistry τ} {codec : Codec τ ν} {draining : Prop}
variable {permits : Deed → Prop} {before after : Book ν}

/-- Every change keeps the agreement. -/
theorem Step.sound (step : Step registry codec draining permits before after)
    (sound : before.Sound) : after.Sound := by
  cases step with
  | spawned frame handler permitted request plain unmarked free serving =>
    exact sound.spawn frame handler request plain free
  | cancelled frame invocation object permitted request found entry cancels unmarked serving =>
    obtain ⟨stream, handler, activated⟩ := sound.operation invocation object found
    obtain ⟨listed, present, -, unfinished⟩ := sound.entry _ invocation entry
    obtain rfl : object = listed := Option.some.inj (found.symm.trans present)
    have advanced : (before.update invocation { object with
        operation := (object.operation.cancel "operation cancelled by peer").1 }).Sound := by
      refine sound.advance found _ _ rfl rfl rfl rfl unfinished ?_ (Or.inl ⟨unfinished, rfl⟩) ?_ ?_
        (Or.inl ⟨rfl, rfl⟩)
      · dsimp only
        rw [object.operation.cancel_eq _ activated]
        split
        · exact ⟨rfl, rfl, nofun⟩
        · exact ⟨rfl, rfl, activated⟩
      · intro holder kept holds
        by_cases same : holder = invocation
        · subst same
          obtain ⟨holding, presentAgain, responds, framed⟩ := sound.held holder kept holds
          obtain rfl : object = holding := Option.some.inj (found.symm.trans presentAgain)
          exact Or.inr ⟨rfl, responds, framed⟩
        · exact Or.inl ⟨same, holds⟩
      · intro responds
        have completed := sound.responding invocation object found responds
        dsimp only
        rw [object.operation.cancel_eq _ activated]
        simp [completed]
    exact advanced.history _ rfl rfl rfl (List.prefix_append _ _) [] (List.append_nil _).symm
      (by simp)
  | answered frame status offered permitted refuses kind concluded =>
    refine sound.history _ rfl rfl rfl (List.prefix_append _ _) offered rfl ?_
    intro error member
    rcases kind with rfl | rfl
    · simp at member
    · exact ⟨frame, List.mem_append_right _ (List.mem_singleton_self frame), status,
        List.mem_singleton.mp member⟩
  | accused frame permitted blames serving =>
    exact sound.history _ rfl rfl rfl (List.prefix_append _ _) [] (List.append_nil _).symm (by simp)
  | started invocation object argument found spawned decoded =>
    refine sound.advance found _ _ rfl rfl rfl rfl (by simp [spawned]) ⟨rfl, rfl, ?_⟩
      (Or.inl ⟨by simp, rfl⟩) ?_ (by simp) (Or.inl ⟨rfl, rfl⟩)
    · exact (sound.operation invocation object found).2.2
    · exact fun holder kept holds =>
        Or.inl ⟨sound.unheld found (by simp [spawned]) holder kept holds, holds⟩
  | undecodable invocation object status message offered permitted ends found spawned decoded
      failure kind =>
    have told : (before.accept offered).Sound := by
      refine sound.history _ rfl rfl rfl List.prefix_rfl offered rfl ?_
      intro error member
      rcases kind with rfl | rfl
      · simp at member
      · exact ⟨object.frame, List.mem_of_getElem? (sound.inbound invocation object found).1, status,
          List.mem_singleton.mp member⟩
    refine told.advance found _ _ rfl rfl rfl rfl (by simp [spawned]) ?_
      (Or.inr ⟨rfl, rfl⟩) ?_ (by simp) (Or.inl ⟨rfl, rfl⟩)
    · have activated := (sound.operation invocation object found).2.2
      dsimp only
      rw [object.operation.fail_eq _ _ failure]
      split
      · exact ⟨rfl, rfl, nofun⟩
      · exact ⟨rfl, rfl, activated⟩
    · exact fun holder kept holds =>
        Or.inl ⟨sound.unheld found (by simp [spawned]) holder kept holds, holds⟩
  | dropped invocation object permitted ends found handling =>
    refine sound.advance found _ _ rfl rfl rfl rfl (by simp [handling]) ⟨rfl, rfl, ?_⟩
      (Or.inr ⟨rfl, rfl⟩) ?_ (by simp) (Or.inl ⟨rfl, rfl⟩)
    · exact (sound.operation invocation object found).2.2
    · exact fun holder kept holds =>
        Or.inl ⟨sound.unheld found (by simp [handling]) holder kept holds, holds⟩
  | refused invocation object operation permitted ends found ready =>
    refine sound.advance found _ _ rfl rfl rfl rfl ?_ ?_ (Or.inr ⟨rfl, rfl⟩) ?_ (by simp)
      (Or.inl ⟨rfl, rfl⟩)
    · rcases ready with ⟨handling, -⟩ | ⟨responding, -⟩
      · simp [handling]
      · simp [responding]
    · rcases ready with ⟨-, -, rfl⟩ | ⟨-, rfl⟩
      · exact ⟨rfl, rfl, nofun⟩
      · exact ⟨rfl, rfl, (sound.operation invocation object found).2.2⟩
    · exact fun holder kept holds => Or.inl (hold_none_held holds)
  | suspended invocation object frame waits found handling active framed =>
    refine sound.advance found _ _ rfl rfl rfl rfl (by simp [handling]) ⟨rfl, rfl, nofun⟩
      (Or.inl ⟨nofun, rfl⟩) ?_ (fun _ => rfl) (Or.inl ⟨rfl, rfl⟩)
    intro holder kept holds
    by_cases same : holder = invocation
    · subst same
      have kept_eq : frame = kept := by simpa [hold, update] using holds
      exact Or.inr ⟨rfl, rfl, kept_eq ▸ framed⟩
    · exact Or.inl ⟨same, by simpa [hold, update, same] using holds⟩
  | replied invocation object operation frame permitted ends found ready framed =>
    refine sound.advance found _ _ rfl rfl rfl rfl ?_ ?_ (Or.inr ⟨rfl, rfl⟩) ?_ (by simp)
      (Or.inr ⟨frame, rfl, framed, rfl, rfl⟩)
    · rcases ready with ⟨handling, -⟩ | ⟨responding, -⟩
      · simp [handling]
      · simp [responding]
    · rcases ready with ⟨-, -, rfl⟩ | ⟨-, -, rfl⟩
      · exact ⟨rfl, rfl, nofun⟩
      · exact ⟨rfl, rfl, (sound.operation invocation object found).2.2⟩
    · exact fun holder kept holds => Or.inl (hold_none_held holds)
  | lost others length each => exact sound.lose others length each

end Steps

end Book

/-- Everything that happens to one handler coroutine. -/
inductive Invocation.Goes (accepted : Nat) (ends : Ending → Prop) (old : Invocation ν) :
    Invocation ν → Prop where
  | same : Goes accepted ends old old
  | cancelled : Goes accepted ends old { old with
      operation := (old.operation.cancel "operation cancelled by peer").1 }
  | lost : Goes accepted ends old { old with operation := old.operation.lost }
  | started (argument : Option (ν old.handler.request)) (spawned : old.stage = .spawned) :
      Goes accepted ends old { old with stage := .handling, argument := argument }
  | undecodable (status : StatusCode) (message : String) (offered : List Frame)
      (rejects : ends (.rejected offered)) (spawned : old.stage = .spawned)
      (failure : status ≠ .ok) :
      Goes accepted ends old { old with
        operation := (old.operation.fail status message).1
        stage := .finished }
  | dropped (silent : ends .silent) (handling : old.stage = .handling) :
      Goes accepted ends old { old with stage := .finished }
  | refused (operation : Operation StreamId) (refuses : ends .refused)
      (ready : (old.stage = .handling ∧ old.operation.state = .active ∧
          operation = old.operation.answered) ∨
        (old.stage = .responding ∧ operation = old.operation)) :
      Goes accepted ends old { old with operation := operation, stage := .finished }
  | suspended (handling : old.stage = .handling) (active : old.operation.state = .active) :
      Goes accepted ends old { old with operation := old.operation.answered, stage := .responding }
  | replied (operation : Operation StreamId) (frame : Frame) (replies : ends (.replied frame))
      (framed : ReplyFrame frame old.stream)
      (ready : (old.stage = .handling ∧ old.operation.state = .active ∧
          operation = old.operation.answered) ∨
        (old.stage = .responding ∧ operation = old.operation)) :
      Goes accepted ends old { old with
        operation := operation
        reply := some accepted
        stage := .finished }

/-- A coroutine may also go on where more endings are allowed. -/
theorem Invocation.Goes.mono {accepted : Nat} {ends wider : Ending → Prop}
    {old new : Invocation ν} (goes : old.Goes accepted ends new)
    (widens : ∀ ending, ends ending → wider ending) : old.Goes accepted wider new := by
  cases goes with
  | same => exact .same
  | cancelled => exact .cancelled
  | lost => exact .lost
  | started argument spawned => exact .started argument spawned
  | undecodable status message offered rejects spawned failure =>
    exact .undecodable status message offered (widens _ rejects) spawned failure
  | dropped silent handling => exact .dropped (widens _ silent) handling
  | refused operation refuses ready => exact .refused operation (widens _ refuses) ready
  | suspended handling active => exact .suspended handling active
  | replied operation frame replies framed ready =>
    exact .replied operation frame (widens _ replies) framed ready

section Going

variable [DecidableEq τ] {registry : MessageRegistry τ} {codec : Codec τ ν} {draining : Prop}
variable {permits : Deed → Prop} {before after : Book ν}

/-- A change moves every coroutine on by one of its steps. -/
theorem Book.Step.goes (step : Step registry codec draining permits before after)
    {invocation : Nat} {object : Invocation ν}
    (found : before.invocations[invocation]? = some object) :
    ∃ new, after.invocations[invocation]? = some new ∧
      object.Goes before.accepted.length (fun ending => permits (.ends invocation ending)) new := by
  have stays : after.invocations = before.invocations →
      ∃ new, after.invocations[invocation]? = some new ∧
        object.Goes before.accepted.length (fun ending => permits (.ends invocation ending)) new := by
    intro same
    rw [same]
    exact ⟨object, found, .same⟩
  have moves : ∀ (place : Nat) (old new : Invocation ν), before.invocations[place]? = some old →
      after.invocations = before.invocations.set place new →
      old.Goes before.accepted.length (fun ending => permits (.ends place ending)) new →
      ∃ new, after.invocations[invocation]? = some new ∧
        object.Goes before.accepted.length (fun ending => permits (.ends invocation ending)) new := by
    intro place old new present written goes
    rw [written, getElem?_set_found new present]
    by_cases here : invocation = place
    · subst here
      obtain rfl : old = object := Option.some.inj (present.symm.trans found)
      exact ⟨new, if_pos rfl, goes⟩
    · exact ⟨object, (if_neg here).trans found, .same⟩
  cases step with
  | spawned frame handler permitted request plain unmarked free serving =>
    exact ⟨object, getElem?_append_found found, .same⟩
  | cancelled frame place old permitted request present entry cancels unmarked serving =>
    exact moves place old _ present rfl .cancelled
  | answered frame status offered permitted refuses kind concluded => exact stays rfl
  | accused frame permitted blames serving => exact stays rfl
  | started place old argument present spawned decoded =>
    exact moves place old _ present rfl (.started argument spawned)
  | undecodable place old status message offered permitted ends present spawned decoded failure
      kind =>
    exact moves place old _ present rfl (.undecodable status message offered ends spawned failure)
  | dropped place old permitted ends present handling =>
    exact moves place old _ present rfl (.dropped ends handling)
  | refused place old operation permitted ends present ready =>
    exact moves place old _ present rfl (.refused operation ends ready)
  | suspended place old frame waits present handling active framed =>
    exact moves place old _ present rfl (.suspended handling active)
  | replied place old operation frame permitted ends present ready framed =>
    refine moves place old _ present rfl (.replied operation frame ends framed ?_)
    rcases ready with fresh | ⟨responding, -, same⟩
    · exact Or.inl fresh
    · exact Or.inr ⟨responding, same⟩
  | lost others length each =>
    rcases each invocation object found with same | lost
    · exact ⟨object, same, .same⟩
    · exact ⟨_, lost, .lost⟩

omit [DecidableEq τ] in
/-- The coroutine that a write changed is the one that was written. -/
theorem Book.written {invocation place : Nat} {object old new replacement : Invocation ν}
    (found : before.invocations[invocation]? = some object)
    (present : after.invocations[invocation]? = some new) (moved : object.stage ≠ new.stage)
    (here : before.invocations[place]? = some old)
    (update : after.invocations = before.invocations.set place replacement) :
    invocation = place ∧ new = replacement ∧ object = old := by
  rw [update] at present
  rcases getElem?_set_cases here present with ⟨rfl, rfl⟩ | ⟨-, kept⟩
  · exact ⟨rfl, rfl, Option.some.inj (found.symm.trans here)⟩
  · obtain rfl : object = new := Option.some.inj (found.symm.trans kept)
    exact absurd rfl moved

/-- A handler is called with a request that could be decoded. -/
theorem Book.Step.starts (step : Step registry codec draining permits before after)
    {invocation : Nat} {object new : Invocation ν}
    (found : before.invocations[invocation]? = some object) (spawned : object.stage = .spawned)
    (present : after.invocations[invocation]? = some new) (called : new.stage = .handling) :
    (decodeMessage registry codec object.handler.request object.frame).ok = true := by
  have moved : object.stage ≠ new.stage := by simp [spawned, called]
  have kept : after.invocations[invocation]? ≠ before.invocations[invocation]? := by
    intro same
    rw [same, found] at present
    obtain rfl := Option.some.inj present
    exact moved rfl
  cases step with
  | spawned frame handler permitted request plain unmarked free serving =>
    exact absurd ((getElem?_append_found found).trans found.symm) kept
  | cancelled frame place old permitted request here entry cancels unmarked serving =>
    obtain ⟨-, rfl, rfl⟩ := written found present moved here rfl
    exact absurd rfl moved
  | answered frame status offered permitted refuses kind concluded => exact absurd rfl kept
  | accused frame permitted blames serving => exact absurd rfl kept
  | started place old argument here spawned decoded =>
    obtain ⟨-, -, rfl⟩ := written found present moved here rfl
    exact decoded
  | undecodable place old status message offered permitted ends here spawned decoded failure
      kind =>
    obtain ⟨-, rfl, rfl⟩ := written found present moved here rfl
    simp at called
  | dropped place old permitted ends here handling =>
    obtain ⟨-, rfl, rfl⟩ := written found present moved here rfl
    simp at called
  | refused place old operation permitted ends here ready =>
    obtain ⟨-, rfl, rfl⟩ := written found present moved here rfl
    simp at called
  | suspended place old frame waits here handling active framed =>
    obtain ⟨-, rfl, rfl⟩ := written found present moved here rfl
    simp at called
  | replied place old operation frame permitted ends here ready framed =>
    obtain ⟨-, rfl, rfl⟩ := written found present moved here rfl
    simp at called
  | lost others length each =>
    rcases each invocation object found with same | lost
    · exact absurd (same.trans found.symm) kept
    · have again : some { object with operation := object.operation.lost } = some new :=
        lost.symm.trans present
      obtain rfl := Option.some.inj again
      exact absurd rfl moved

/-- A coroutine that comes to its end takes its own stream out of the map, gives the
frames of its ending to the queue and leaves the other coroutines alone. -/
theorem Book.Step.ends (step : Step registry codec draining permits before after)
    {invocation : Nat} {object new : Invocation ν}
    (found : before.invocations[invocation]? = some object) (running : object.stage ≠ .finished)
    (present : after.invocations[invocation]? = some new) (ended : new.stage = .finished) :
    ∃ ending, permits (.ends invocation ending) ∧
      after.operations = before.operations.erase object.stream ∧
      after.accepted = before.accepted ++ ending.offered ∧
      after.dispatched = before.dispatched ∧
      after.invocations = before.invocations.set invocation new := by
  have kept : after.invocations[invocation]? = before.invocations[invocation]? → False := by
    intro same
    rw [same, found] at present
    obtain rfl := Option.some.inj present
    exact running ended
  have moved : object.stage ≠ new.stage := by
    rw [ended]
    exact running
  cases step with
  | spawned frame handler permitted request plain unmarked free serving =>
    exact (kept ((getElem?_append_found found).trans found.symm)).elim
  | cancelled frame place old permitted request here entry cancels unmarked serving =>
    obtain ⟨-, rfl, rfl⟩ := written found present moved here rfl
    exact absurd ended running
  | answered frame status offered permitted refuses kind concluded => exact (kept rfl).elim
  | accused frame permitted blames serving => exact (kept rfl).elim
  | started place old argument here spawned decoded =>
    obtain ⟨-, rfl, rfl⟩ := written found present moved here rfl
    simp at ended
  | undecodable place old status message offered permitted ends here spawned decoded failure
      kind =>
    obtain ⟨rfl, rfl, rfl⟩ := written found present moved here rfl
    exact ⟨.rejected offered, ends, rfl, rfl, rfl, rfl⟩
  | dropped place old permitted ends here handling =>
    obtain ⟨rfl, rfl, rfl⟩ := written found present moved here rfl
    exact ⟨.silent, ends, rfl, (List.append_nil _).symm, rfl, rfl⟩
  | refused place old operation permitted ends here ready =>
    obtain ⟨rfl, rfl, rfl⟩ := written found present moved here rfl
    exact ⟨.refused, ends, rfl, (List.append_nil _).symm, rfl, rfl⟩
  | suspended place old frame waits here handling active framed =>
    obtain ⟨-, rfl, rfl⟩ := written found present moved here rfl
    simp at ended
  | replied place old operation frame permitted ends here ready framed =>
    obtain ⟨rfl, rfl, rfl⟩ := written found present moved here rfl
    exact ⟨.replied frame, ends, rfl, rfl, rfl, rfl⟩
  | lost others length each =>
    rcases each invocation object found with same | lost
    · exact (kept (same.trans found.symm)).elim
    · have again : some { object with operation := object.operation.lost } = some new :=
        lost.symm.trans present
      obtain rfl := Option.some.inj again
      exact absurd ended running

/-- Without a frame read or a coroutine ended nothing is given to the queue. -/
theorem Book.Step.quiet (step : Step registry codec draining permits before after)
    (unread : ∀ frame, ¬ permits (.reads frame))
    (unended : ∀ invocation ending, ¬ permits (.ends invocation ending)) :
    after.accepted = before.accepted ∧ after.dispatched = before.dispatched := by
  cases step with
  | spawned frame handler permitted => exact absurd permitted (unread frame)
  | cancelled frame place old permitted => exact absurd permitted (unread frame)
  | answered frame status offered permitted => exact absurd permitted (unread frame)
  | accused frame permitted => exact absurd permitted (unread frame)
  | undecodable place old status message offered permitted ends =>
    exact absurd ends (unended place _)
  | dropped place old permitted ends => exact absurd ends (unended place _)
  | refused place old operation permitted ends => exact absurd ends (unended place _)
  | replied place old operation frame permitted ends => exact absurd ends (unended place _)
  | started | suspended | lost => exact ⟨rfl, rfl⟩

/-- A change spawns at most one coroutine. -/
theorem Book.Step.grows (step : Step registry codec draining permits before after) :
    after.invocations.length = before.invocations.length ∨
    ∃ frame handler, permits (.reads frame) ∧ frame.header.type = .request ∧
      hasFlag frame.header.flags .cancel = false ∧
      after.invocations = before.invocations ++
        [Invocation.spawn frame handler before.dispatched.length] := by
  cases step
  case spawned frame handler permitted request plain unmarked free serving =>
    exact Or.inr ⟨frame, handler, permitted, request, plain, rfl⟩
  case lost others length each => exact Or.inl length
  case answered => exact Or.inl rfl
  case accused => exact Or.inl rfl
  all_goals exact Or.inl List.length_set

/-- Every coroutine after a change was there before, or is new. -/
theorem Book.Step.comes (step : Step registry codec draining permits before after)
    {invocation : Nat} {new : Invocation ν} (found : after.invocations[invocation]? = some new) :
    (∃ object, before.invocations[invocation]? = some object ∧
      object.Goes before.accepted.length (fun ending => permits (.ends invocation ending)) new) ∨
    ∃ frame handler, permits (.reads frame) ∧ frame.header.type = .request ∧
      hasFlag frame.header.flags .cancel = false ∧
      new = Invocation.spawn frame handler before.dispatched.length := by
  rcases step.grows with length | ⟨frame, handler, permitted, request, plain, spawned⟩
  · have bound : invocation < before.invocations.length :=
      length ▸ (List.getElem?_eq_some_iff.mp found).1
    have old := List.getElem?_eq_getElem bound
    obtain ⟨moved, present, goes⟩ := step.goes old
    obtain rfl : new = moved := Option.some.inj (found.symm.trans present)
    exact Or.inl ⟨_, old, goes⟩
  · rw [spawned] at found
    rcases getElem?_append_singleton found with earlier | ⟨-, rfl⟩
    · obtain ⟨moved, present, goes⟩ := step.goes earlier
      rw [spawned, getElem?_append_found earlier] at present
      obtain rfl := Option.some.inj present
      exact Or.inl ⟨new, earlier, goes⟩
    · exact Or.inr ⟨frame, handler, permitted, request, plain, rfl⟩

/-- A frame that a coroutine holds was held before, or the coroutine begins to wait
with it. -/
theorem Book.Step.holds (step : Step registry codec draining permits before after)
    {invocation : Nat} {frame : Frame} (holds : after.held invocation = some frame) :
    before.held invocation = some frame ∨ permits (.waits invocation frame) := by
  cases step with
  | refused place old operation permitted ends found ready => exact Or.inl (hold_none_held holds).2
  | replied place old operation reply permitted ends found ready framed =>
    exact Or.inl (hold_none_held holds).2
  | suspended place old reply waits found handling active framed =>
    by_cases here : invocation = place
    · subst here
      have same : reply = frame := by simpa [hold, update] using holds
      exact Or.inr (same ▸ waits)
    · exact Or.inl (by simpa [hold, update, here] using holds)
  | spawned | cancelled | answered | accused | started | undecodable | dropped | lost =>
    exact Or.inl holds

theorem Book.Step.dispatched (step : Step registry codec draining permits before after) :
    before.dispatched <+: after.dispatched := by
  cases step
  case spawned => exact List.prefix_append _ _
  case cancelled => exact List.prefix_append _ _
  case answered => exact List.prefix_append _ _
  case accused => exact List.prefix_append _ _
  all_goals exact List.prefix_rfl

omit [DecidableEq τ] in
/-- A coroutine that has not ended has not replied. -/
theorem Book.Sound.unanswered (sound : before.Sound) {invocation : Nat} {object : Invocation ν}
    (found : before.invocations[invocation]? = some object) (running : object.stage ≠ .finished) :
    object.reply = none := by
  cases replied : object.reply with
  | none => rfl
  | some position => exact absurd (sound.reply invocation object position found replied).1 running

end Going

end Books

end Rillnet
