import Rillnet.ServerEndings

/-!
# Who is answered by what

A frame that a server gives to its queue answers one use of a stream: a request
and the frames on its stream that follow it up to the next request. An audit runs
beside the connection and records for every accepted frame the position of the
request it answers, the requests that were dispatched while the connection was
active, and the responses that handlers returned.

A cancellation belongs to the request before it on its stream. While the connection
drains it is answered with an error like any other frame, whatever the handler of
its request does.
-/

namespace Rillnet

/-- The position of the request that the next frame belongs to: its own if it is a
request, else that of the last request on its stream. -/
def useOf (dispatched : List Frame) (frame : Frame) : Nat :=
  if frame.isRequest then dispatched.length
  else
    ((dispatched.findIdxs fun earlier =>
      earlier.isRequest && decide (earlier.header.stream = frame.header.stream)).getLast?).getD
        dispatched.length

/-- The peer sends for each use of a stream one request and at most one cancellation
after it: a frame that is no request is a cancellation, and the last frame before it on
its stream is a request. -/
def disciplined (dispatched : List Frame) : Bool :=
  (List.range dispatched.length).all fun position => dispatched[position]?.all fun frame =>
    frame.isRequest ||
      (decide (frame.header.type = .request) && hasFlag frame.header.flags .cancel &&
        (((dispatched.take position).filter fun earlier =>
          decide (earlier.header.stream = frame.header.stream)).getLast?).any Frame.isRequest)

theorem useOf_request {frame : Frame} (request : frame.isRequest = true) (dispatched : List Frame) :
    useOf dispatched frame = dispatched.length := if_pos request

/-- A use of a stream is the position of a frame on this stream. -/
theorem useOf_found (dispatched : List Frame) (frame : Frame) :
    ∃ request, (dispatched ++ [frame])[useOf dispatched frame]? = some request ∧
      request.header.stream = frame.header.stream := by
  have own : ∃ request, (dispatched ++ [frame])[dispatched.length]? = some request ∧
      request.header.stream = frame.header.stream :=
    ⟨frame, List.getElem?_concat_length, rfl⟩
  unfold useOf
  split
  · exact own
  · cases last : (dispatched.findIdxs fun earlier => earlier.isRequest &&
        decide (earlier.header.stream = frame.header.stream)).getLast? with
    | none => exact own
    | some position =>
      have member := List.mem_of_getLast? last
      obtain ⟨bound, holds⟩ := List.mem_findIdxs_iff_exists_getElem_pos.mp member
      refine ⟨dispatched[position], ?_, ?_⟩
      · exact getElem?_append_found (List.getElem?_eq_getElem bound)
      · have both := Bool.and_eq_true_iff.mp holds
        exact of_decide_eq_true both.2

/-- The frame ends a stream. -/
structure Frame.Ends (frame : Frame) (stream : StreamId) : Prop where
  stream : frame.header.stream = stream
  terminal : hasFlag frame.header.flags .endOfStream = true

theorem makeErrorFrame_ends (stream : StreamId) (status : StatusCode) :
    (makeErrorFrame stream status).Ends stream := by
  refine ⟨rfl, ?_⟩
  change hasFlag (.error ||| .endOfStream) .endOfStream = true
  decide

theorem ReplyFrame.ends {frame : Frame} {stream : StreamId} (framed : ReplyFrame frame stream) :
    frame.Ends stream := by
  refine ⟨framed.stream, ?_⟩
  rw [framed.flags]
  decide

section Answers

variable {τ : Type} {ν : τ → Type}

/-- The handler of a request can still answer it. -/
def Invocation.mayAnswer [DecidableEq τ] (registry : MessageRegistry τ) (codec : Codec τ ν)
    (object : Invocation ν) : Bool :=
  match object.stage with
  | .spawned =>
    decide (object.operation.state = .active) ||
      !(decodeMessage registry codec object.handler.request object.frame).ok
  | .handling => decide (object.operation.state = .active)
  | .responding => true
  | .finished => false

section Answering

variable [DecidableEq τ] {registry : MessageRegistry τ} {codec : Codec τ ν}

theorem Invocation.mayAnswer_iff {object : Invocation ν} :
    object.mayAnswer registry codec = true ↔
      (object.stage = .spawned ∧ (object.operation.state = .active ∨
        (decodeMessage registry codec object.handler.request object.frame).ok = false)) ∨
      (object.stage = .handling ∧ object.operation.state = .active) ∨
      object.stage = .responding := by
  unfold mayAnswer
  cases object.stage <;> simp

omit [DecidableEq τ] in
/-- A coroutine keeps its request. -/
theorem Invocation.Goes.inbound {accepted : Nat} {ends : Ending → Prop} {old new : Invocation ν}
    (goes : old.Goes accepted ends new) : new.inbound = old.inbound := by
  cases goes <;> rfl

/-- A handler that can answer could do so before. -/
theorem Invocation.Goes.mayAnswer {accepted : Nat} {ends : Ending → Prop} {old new : Invocation ν}
    (goes : old.Goes accepted ends new) (may : new.mayAnswer registry codec = true) :
    old.mayAnswer registry codec = true := by
  rw [mayAnswer_iff] at may ⊢
  cases goes with
  | same => exact may
  | cancelled =>
    rcases may with ⟨spawned, active | undecodable⟩ | ⟨handling, active⟩ | responding
    · exact Or.inl ⟨spawned, Or.inl (old.operation.cancel_kept _ active (by simp))⟩
    · exact Or.inl ⟨spawned, Or.inr undecodable⟩
    · exact Or.inr (Or.inl ⟨handling, old.operation.cancel_kept _ active (by simp)⟩)
    · exact Or.inr (Or.inr responding)
  | lost =>
    rcases may with ⟨spawned, active | undecodable⟩ | ⟨handling, active⟩ | responding
    · exact Or.inl ⟨spawned, Or.inl (old.operation.lost_kept active (by simp))⟩
    · exact Or.inl ⟨spawned, Or.inr undecodable⟩
    · exact Or.inr (Or.inl ⟨handling, old.operation.lost_kept active (by simp)⟩)
    · exact Or.inr (Or.inr responding)
  | started argument spawned => exact Or.inl ⟨spawned, Or.inl (by simpa using may)⟩
  | suspended handling active => exact Or.inr (Or.inl ⟨handling, active⟩)
  | undecodable | dropped | refused | replied => simp at may

/-- A coroutine gives at most one frame to the queue at its end. The frame ends its
stream, and the coroutine could answer. -/
theorem Invocation.Goes.offers {server : ServerConnection ν} {event : ServerEvent ν}
    {invocation : Nat} {ending : Ending} {accepted : Nat} {old new : Invocation ν}
    (ended : server.ending registry codec event = some (invocation, ending))
    (found : server.invocations[invocation]? = some old) (goes : old.Goes accepted (· = ending) new)
    (finished : new.stage = .finished) (running : old.stage ≠ .finished) :
    ending.offered = [] ∨
      ∃ frame, ending.offered = [frame] ∧ frame.Ends old.stream ∧
        old.mayAnswer registry codec = true := by
  rw [mayAnswer_iff]
  cases goes with
  | same | cancelled | lost => exact absurd finished running
  | started | suspended => simp at finished
  | undecodable status message offered rejects spawned failure =>
    subst rejects
    obtain ⟨-, failed, rfl⟩ := ServerConnection.ending_rejected ended found
    rcases server.writeQueue.taken_kind (makeErrorFrame old.stream
      (decodeMessage registry codec old.handler.request old.frame).status) with none | one
    · exact Or.inl none
    · exact Or.inr ⟨_, one, makeErrorFrame_ends _ _, Or.inl ⟨spawned, Or.inr failed⟩⟩
  | dropped silent handling => exact Or.inl (by rw [← silent]; rfl)
  | refused operation refuses ready => exact Or.inl (by rw [← refuses]; rfl)
  | replied operation frame replies framed ready =>
    refine Or.inr ⟨frame, by rw [← replies]; rfl, framed.ends, ?_⟩
    rcases ready with ⟨handling, active, -⟩ | ⟨responding, -⟩
    · exact Or.inr (Or.inl ⟨handling, active⟩)
    · exact Or.inr (Or.inr responding)

omit [DecidableEq τ] in
/-- A refused frame is answered with at most one frame, which ends its stream. -/
theorem ServerConnection.rejects_kind (server : ServerConnection ν) (frame : Frame) :
    server.rejects frame = [] ∨
      ∃ status, server.refusal frame = some status ∧
        server.rejects frame = [makeErrorFrame frame.header.stream status] := by
  cases refused : server.refusal frame with
  | none => exact Or.inl (by simp [rejects, refused])
  | some status =>
    rcases server.writeQueue.taken_kind (makeErrorFrame frame.header.stream status) with none | one
    · exact Or.inl (by simpa [rejects, refused] using none)
    · exact Or.inr ⟨status, rfl, by simpa [rejects, refused] using one⟩

end Answering

/-- A connection with the frames its queue accepted, each with the position of the
request it answers; the positions of the requests that were dispatched while the
connection was active; and for each handler that returned, the frame its response
was encoded in, if it was. -/
structure Audit (ν : τ → Type) where
  server : ServerConnection ν
  answers : List (Nat × Frame) := []
  attended : List Nat := []
  returned : List (Nat × Option Frame) := []

namespace ServerConnection

variable [DecidableEq τ] (registry : MessageRegistry τ) (codec : Codec τ ν)
variable (server : ServerConnection ν)

/-- The frames an event gives to the queue, with the requests they answer. -/
def answering : ServerEvent ν → List (Nat × Frame)
  | .dispatchNext =>
    server.reader.batch.head?.elim [] fun frame =>
      (server.rejects frame).map (useOf server.dispatched frame, ·)
  | event =>
    (server.ending registry codec event).elim [] fun (invocation, ending) =>
      server.invocations[invocation]?.elim [] fun object => ending.offered.map (object.inbound, ·)

variable {registry codec server}

/-- A coroutine that ends answers its own request. -/
theorem answering_ended {event : ServerEvent ν} {invocation : Nat} {ending : Ending}
    {object : Invocation ν}
    (ended : server.ending registry codec event = some (invocation, ending))
    (found : server.invocations[invocation]? = some object) :
    server.answering registry codec event = ending.offered.map (object.inbound, ·) := by
  cases event with
  | dispatchNext => simp [ServerConnection.ending] at ended
  | _ => simp [answering, ended, found]

variable (registry codec server)

/-- The request an event dispatches while the connection is active. -/
def attending : ServerEvent ν → List Nat
  | .dispatchNext =>
    server.reader.batch.head?.elim [] fun frame =>
      if frame.isRequest && !server.isShuttingDown then [server.dispatched.length] else []
  | _ => []

/-- The response a handler returns. -/
def returning : ServerEvent ν → List (Nat × Option Frame)
  | .handlerReturns invocation type value =>
    server.invocations[invocation]?.elim [] fun object =>
      [(invocation, object.replyFrame registry codec type value)]
  | _ => []

end ServerConnection

namespace Audit

/-- The frames that answer a request. -/
def answersTo (audit : Audit ν) (use : Nat) : List Frame :=
  (audit.answers.filter fun answer => decide (answer.1 = use)).map Prod.snd

/-- Some frames are added to the answers of one request. -/
theorem answersTo_added {audit after : Audit ν} {use : Nat} {frames : List Frame}
    (added : after.answers = audit.answers ++ frames.map (use, ·)) (other : Nat) :
    after.answersTo other = audit.answersTo other ++ if use = other then frames else [] := by
  unfold answersTo
  rw [added, List.filter_append, List.map_append]
  split
  · rename_i same
    simp [same, List.filter_map, Function.comp_def]
  · rename_i different
    simp [different, List.filter_map, Function.comp_def]

section Steps

variable [DecidableEq τ] (registry : MessageRegistry τ) (codec : Codec τ ν)

/-- One step of the connection, recorded. -/
def step (audit : Audit ν) (event : ServerEvent ν) : Option (Audit ν) :=
  (audit.server.step registry codec event).map fun after => {
    server := after
    answers := audit.answers ++ audit.server.answering registry codec event
    attended := audit.attended ++ audit.server.attending event
    returned := audit.returned ++ audit.server.returning registry codec event }

def create (limits : WriteQueueLimits) : Audit ν where
  server := .create limits

/-- The states a new connection reaches in the runs a guard allows, recorded. -/
def Reachable (guard : Audit ν → ServerEvent ν → Prop) (limits : WriteQueueLimits) :
    Audit ν → Prop :=
  Reachability.Reaches (step registry codec) guard (create limits)

/-- A cancellation that is answered because the connection is shutting down belongs
to a request without an answer, whose handler cannot answer it any more. -/
def answersNoneTwice (audit : Audit ν) : ServerEvent ν → Bool
  | .dispatchNext =>
    audit.server.reader.batch.head?.all fun frame =>
      frame.isRequest || !audit.server.isShuttingDown || (audit.server.rejects frame).isEmpty ||
        ((audit.answersTo (useOf audit.server.dispatched frame)).isEmpty &&
          audit.server.invocations.all fun object =>
            !decide (object.inbound = useOf audit.server.dispatched frame) ||
              !object.mayAnswer registry codec)
  | _ => true

variable {registry codec}

/-- What is recorded in a step. -/
theorem step_eq {audit after : Audit ν} {event : ServerEvent ν}
    (stepped : audit.step registry codec event = some after) :
    ∃ server, audit.server.step registry codec event = some server ∧ after = {
      server := server
      answers := audit.answers ++ audit.server.answering registry codec event
      attended := audit.attended ++ audit.server.attending event
      returned := audit.returned ++ audit.server.returning registry codec event } := by
  obtain ⟨server, moved, rfl⟩ := Option.map_eq_some_iff.mp stepped
  exact ⟨server, moved, rfl⟩

/-- What is recorded leaves the connection alone. -/
theorem Reachable.server {guard : Audit ν → ServerEvent ν → Prop} {limits : WriteQueueLimits}
    {audit : Audit ν} (reachable : Reachable registry codec guard limits audit) :
    ServerConnection.Reachable registry codec Reachability.unguarded limits audit.server := by
  apply Reachability.Reaches.project (fun audit : Audit ν => audit.server) ?_ reachable
  intro before event after _ stepped
  obtain ⟨server, moved, rfl⟩ := step_eq stepped
  exact ⟨trivial, moved⟩

/-- Every accepted frame ends the stream of the request it answers. A request has
at most one answer, and none as long as its handler can answer it. -/
structure Accounted (registry : MessageRegistry τ) (codec : Codec τ ν) (audit : Audit ν) :
    Prop where
  history : audit.answers.map Prod.snd = audit.server.writeQueue.accepted
  placed : ∀ answer ∈ audit.answers, ∃ request,
    audit.server.dispatched[answer.1]? = some request ∧ answer.2.Ends request.header.stream
  once : ∀ use, (audit.answersTo use).length ≤ 1
  pending : ∀ (invocation : Nat) (object : Invocation ν),
    audit.server.invocations[invocation]? = some object →
    object.mayAnswer registry codec = true → audit.answersTo object.inbound = []

omit [DecidableEq τ] in
/-- No answer comes before its request. -/
theorem answersTo_unseen {audit : Audit ν}
    (placed : ∀ answer ∈ audit.answers, ∃ request,
      audit.server.dispatched[answer.1]? = some request ∧ answer.2.Ends request.header.stream)
    {use : Nat} (unseen : audit.server.dispatched.length ≤ use) : audit.answersTo use = [] := by
  unfold answersTo
  rw [List.map_eq_nil_iff, List.filter_eq_nil_iff]
  intro answer member same
  obtain ⟨request, present, -⟩ := placed answer member
  have bound := (List.getElem?_eq_some_iff.mp present).1
  rw [of_decide_eq_true same] at bound
  omega

theorem create_accounted (limits : WriteQueueLimits) :
    (create limits : Audit ν).Accounted registry codec := by
  constructor
  · rfl
  · simp [create]
  · simp [create, answersTo]
  · simp [create, ServerConnection.create]

/-- The accepted frames of a step answer one request, which had no answer and whose
handler cannot answer it any more. -/
theorem Accounted.answered {audit after : Audit ν} (accounted : audit.Accounted registry codec)
    (use : Nat) {frames : List Frame} (few : frames.length ≤ 1)
    (added : after.answers = audit.answers ++ frames.map (use, ·))
    (accepted : after.server.writeQueue.accepted = audit.server.writeQueue.accepted ++ frames)
    (dispatched : audit.server.dispatched <+: after.server.dispatched)
    (placed : ∀ frame ∈ frames, ∃ request, after.server.dispatched[use]? = some request ∧
      frame.Ends request.header.stream)
    (first : frames ≠ [] → audit.answersTo use = [])
    (pending : ∀ (invocation : Nat) (object : Invocation ν),
      after.server.invocations[invocation]? = some object →
      object.mayAnswer registry codec = true →
      audit.answersTo object.inbound = [] ∧ (frames ≠ [] → use ≠ object.inbound)) :
    after.Accounted registry codec := by
  constructor
  · rw [added, accepted, List.map_append, accounted.history]
    simp [Function.comp_def]
  · intro answer member
    rw [added] at member
    rcases List.mem_append.mp member with earlier | new
    · obtain ⟨request, present, ends⟩ := accounted.placed answer earlier
      exact ⟨request, getElem?_initial dispatched present, ends⟩
    · obtain ⟨frame, offered, rfl⟩ := List.mem_map.mp new
      exact placed frame offered
  · intro other
    rw [answersTo_added added]
    split
    · rename_i same
      by_cases none : frames = []
      · simpa [none] using accounted.once other
      · simpa [← same, first none] using few
    · simpa using accounted.once other
  · intro invocation object found may
    obtain ⟨unanswered, elsewhere⟩ := pending invocation object found may
    rw [answersTo_added added, unanswered]
    split
    · rename_i same
      by_contra some
      exact elsewhere (by simpa using some) same
    · rfl

omit [DecidableEq τ] in
/-- Only a connection that is shutting down answers a frame that is no request. -/
theorem rejects_draining {server : ServerConnection ν} {frame : Frame}
    (rejected : server.rejects frame ≠ []) (other : frame.isRequest = false) :
    server.isShuttingDown = true := by
  rcases server.rejects_kind frame with none | ⟨status, refused, -⟩
  · exact absurd none rejected
  · by_contra serving
    unfold ServerConnection.refusal at refused
    rw [if_neg serving] at refused
    split at refused
    · simp at refused
    · rename_i plain
      have request : frame.isRequest = true := by
        simp only [not_or, ne_eq, not_not] at plain
        simp [Frame.isRequest, plain]
      simp [request] at other

/-- The request that a rejection answers has no answer, and its handler cannot
answer it any more. -/
theorem Accounted.fresh {audit : Audit ν} (accounted : audit.Accounted registry codec)
    (sound : audit.server.book.Sound) {frame : Frame} {rest : List Frame}
    (reading : audit.server.reader = .dispatching (frame :: rest))
    (single : audit.answersNoneTwice registry codec .dispatchNext = true)
    (rejected : audit.server.rejects frame ≠ []) :
    audit.answersTo (useOf audit.server.dispatched frame) = [] ∧
      ∀ (invocation : Nat) (object : Invocation ν),
        audit.server.invocations[invocation]? = some object →
        object.mayAnswer registry codec = true →
        useOf audit.server.dispatched frame ≠ object.inbound := by
  cases request : frame.isRequest with
  | true =>
    rw [useOf_request request]
    refine ⟨answersTo_unseen accounted.placed le_rfl, ?_⟩
    intro invocation object found _ same
    have bound := (List.getElem?_eq_some_iff.mp (sound.inbound invocation object found).1).1
    exact absurd same bound.ne'
  | false =>
    have draining := rejects_draining rejected request
    simp only [Audit.answersNoneTwice, reading, Reader.batch, List.head?_cons, Option.all_some,
      request, draining, Bool.not_true, Bool.or_self, Bool.false_or, Bool.or_eq_true,
      List.isEmpty_iff, rejected, false_or, Bool.and_eq_true, List.all_eq_true] at single
    refine ⟨single.1, ?_⟩
    intro invocation object found may same
    have inactive := single.2 object (List.mem_of_getElem? found)
    simp [← same, may] at inactive

/-- Every step that answers no request twice keeps the account. -/
theorem Accounted.step {audit after : Audit ν} (accounted : audit.Accounted registry codec)
    (sound : audit.server.book.Sound) {event : ServerEvent ν}
    (single : audit.answersNoneTwice registry codec event = true)
    (stepped : audit.step registry codec event = some after) : after.Accounted registry codec := by
  obtain ⟨server, moved, rfl⟩ := step_eq stepped
  cases audit.server.step_serves sound moved with
  | dispatched frame rest dispatches reading dispatched accepted goes comes =>
    subst dispatches
    have fresh := accounted.fresh sound reading single
    apply accounted.answered (useOf audit.server.dispatched frame) ?_ ?_ accepted ?_ ?_
      (fun some => (fresh some).1) ?_
    · rcases audit.server.rejects_kind frame with none | ⟨status, -, one⟩
      · simp [none]
      · simp [one]
    · simp [ServerConnection.answering, reading, Reader.batch]
    · rw [dispatched]
      exact List.prefix_append _ _
    · intro answer offered
      obtain ⟨request, present, stream⟩ := useOf_found audit.server.dispatched frame
      rw [dispatched]
      refine ⟨request, present, ?_⟩
      rcases audit.server.rejects_kind frame with none | ⟨status, -, one⟩
      · simp [none] at offered
      · obtain rfl : answer = makeErrorFrame frame.header.stream status := by
          simpa [one] using offered
        rw [stream]
        exact makeErrorFrame_ends _ _
    · intro invocation new present may
      rcases comes invocation new present with ⟨object, found⟩ | ⟨unrefused, -, handler, rfl⟩
      · obtain ⟨moved, there, going⟩ := goes invocation object found
        obtain rfl : moved = new := Option.some.inj (there.symm.trans present)
        have could := going.mayAnswer may
        rw [going.inbound]
        exact ⟨accounted.pending invocation object found could,
          fun some => (fresh some).2 invocation object found could⟩
      · refine ⟨answersTo_unseen accounted.placed le_rfl, ?_⟩
        intro rejected
        simp [ServerConnection.rejects, unrefused] at rejected
  | ended invocation ending object new handles ended found unfinished finished goes invocations
      accepted dispatched =>
    have offers := goes.offers ended found finished unfinished
    have answering := ServerConnection.answering_ended ended found
    apply accounted.answered object.inbound ?_ (congrArg (audit.answers ++ ·) answering) accepted ?_
      ?_ ?_ ?_
    · rcases offers with none | ⟨frame, one, -⟩
      · simp [none]
      · simp [one]
    · rw [dispatched]
    · intro frame offered
      rw [dispatched]
      refine ⟨object.frame, (sound.inbound invocation object found).1, ?_⟩
      rcases offers with none | ⟨only, one, ends, -⟩
      · simp [none] at offered
      · obtain rfl : frame = only := by simpa [one] using offered
        exact ends
    · intro some
      rcases offers with none | ⟨frame, one, ends, may⟩
      · exact absurd none some
      · exact accounted.pending invocation object found may
    · intro place other present may
      rw [invocations] at present
      rcases getElem?_set_cases found present with ⟨-, rfl⟩ | ⟨elsewhere, kept⟩
      · simp [Invocation.mayAnswer, finished] at may
      · refine ⟨accounted.pending place other kept may, ?_⟩
        intro _ same
        exact elsewhere (sound.distinct invocation place object other found kept same).symm
  | proceeded unread unended proceeds accepted dispatched =>
    have answering : audit.server.answering registry codec event = [] := by
      unfold ServerConnection.answering
      split
      · simp [unread rfl]
      · simp [unended]
    apply accounted.answered 0 (List.length_nil.le.trans zero_le_one)
      (congrArg (audit.answers ++ ·) answering) ?_ ?_ ?_ ?_ ?_
    · rw [accepted, List.append_nil]
    · rw [dispatched]
    · simp
    · simp
    · intro invocation new present may
      have bound : invocation < audit.server.invocations.length :=
        proceeds.length ▸ (List.getElem?_eq_some_iff.mp present).1
      have found := List.getElem?_eq_getElem bound
      obtain ⟨moved, there, going⟩ := proceeds.goes invocation _ found
      obtain rfl : moved = new := Option.some.inj (there.symm.trans present)
      rw [going.inbound]
      exact ⟨accounted.pending invocation _ found (going.mayAnswer may), by simp⟩

theorem Reachable.accounted {guard : Audit ν → ServerEvent ν → Prop} {limits : WriteQueueLimits}
    {audit : Audit ν} (reachable : Reachable registry codec guard limits audit)
    (single : ∀ audit event, guard audit event →
      audit.answersNoneTwice registry codec event = true) :
    audit.Accounted registry codec := by
  apply Reachability.Reaches.invariant_of_reached (Accounted registry codec)
    (create_accounted limits) ?_ reachable
  intro before event after reached accounted allowed stepped
  have wired := ServerConnection.Reachable.wired (Reachable.server reached)
  exact accounted.step wired.sound (single before event allowed) stepped

/-- In every run that answers no request twice a request is answered with at most one
frame that ends its stream. The answers are the frames the queue accepted, each on the
stream of the request it answers. -/
theorem at_most_one_reply {limits : WriteQueueLimits} {audit : Audit ν}
    (reachable : Reachable registry codec
      (fun audit event => audit.answersNoneTwice registry codec event = true) limits audit) :
    audit.answers.map Prod.snd = audit.server.writeQueue.accepted ∧
    (∀ answer ∈ audit.answers, ∃ request,
      audit.server.dispatched[answer.1]? = some request ∧ answer.2.Ends request.header.stream) ∧
    ∀ use, ((audit.answersTo use).countP fun frame =>
      hasFlag frame.header.flags .endOfStream) ≤ 1 := by
  have accounted := reachable.accounted fun _ _ => id
  refine ⟨accounted.history, accounted.placed, ?_⟩
  intro use
  exact List.countP_le_length.trans (accounted.once use)

end Steps

end Audit

end Answers

/-- The handler of a request is running when `shutdown` is called. -/
def drainingHandler : List (ServerEvent fun _ : Unit => UInt8) :=
  serverReads [byteRequest 1 5 .none] ++
    [.dispatchNext, .startHandler 0, .dispatchNext, .shutdown false]

/-- The cancellation of the request is read. -/
def cancellationRead : List (ServerEvent fun _ : Unit => UInt8) :=
  [.received (encodeFrame (ClientConnection.cancellationFrame ⟨1⟩)), .dispatchNext]

/-- A cancellation that arrives while the connection drains is answered with an
error, and the handler, which never learns of it, answers too. -/
theorem at_most_one_reply_fails :
    ∃ audit : Audit fun _ : Unit => UInt8,
      Audit.Reachable byteRegistry byteCodec Reachability.unguarded {} audit ∧
      disciplined audit.server.dispatched = true ∧
      ¬ ((audit.answersTo 0).countP fun frame => hasFlag frame.header.flags .endOfStream) ≤ 1 := by
  have reads : (Reachability.run (Audit.step byteRegistry byteCodec) Reachability.unguarded
      (Audit.create {}) (drainingHandler ++ cancellationRead ++ [.handlerReturns 0 () 9])).map
        (fun audit => (disciplined audit.server.dispatched,
          (audit.answersTo 0).countP fun frame => hasFlag frame.header.flags .endOfStream)) =
      some (true, 2) := by
    decide +kernel
  obtain ⟨audit, reached, facts⟩ := Option.map_eq_some_iff.mp reads
  obtain ⟨orderly, two⟩ := Prod.mk.inj facts
  exact ⟨audit, Reachability.run_reaches _ _ _ _ _ reached, orderly, by omega⟩

/-- The same cancellation is the only one to be answered once the handler threw. -/
theorem at_most_one_reply_thrown :
    ∃ audit, Reachability.run (Audit.step byteRegistry byteCodec)
        (fun audit event => audit.answersNoneTwice byteRegistry byteCodec event = true)
        (Audit.create {})
        (drainingHandler ++ [.handlerThrows 0] ++ cancellationRead) = some audit ∧
      audit.answers.length = 1 ∧
      ((audit.answersTo 0).countP fun frame => hasFlag frame.header.flags .endOfStream) ≤ 1 := by
  have reads : (Reachability.run (Audit.step byteRegistry byteCodec)
      (fun audit event => audit.answersNoneTwice byteRegistry byteCodec event = true)
      (Audit.create {})
      (drainingHandler ++ [.handlerThrows 0] ++ cancellationRead)).map
        (fun audit => audit.answers.length) = some 1 := by
    decide +kernel
  obtain ⟨audit, reached, one⟩ := Option.map_eq_some_iff.mp reads
  obtain ⟨-, -, once⟩ := Audit.at_most_one_reply (Reachability.run_reaches _ _ _ _ _ reached)
  exact ⟨audit, reached, one, once 0⟩

end Rillnet
