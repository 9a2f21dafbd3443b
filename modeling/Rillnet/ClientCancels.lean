import Rillnet.ClientSteps
import Rillnet.ConnectionShell

/-!
# Cancellations belong to the request they cancel

A submission log records, beside a client connection, which request had each frame
accepted by the write queue, and whether that request still held its stream when it did.
On each stream the log is a sequence of requests, each followed by at most one
cancellation, submitted by the same request while it held the stream.

Three paths break this. A wait that is aborted gives the stream of a live request
back. A cancelled response reaches a request whose frame the queue has not accepted
yet. A response to such a request lets a second one have the same stream.
-/

namespace Rillnet

/-- A frame accepted by the queue, and the request that submitted it. -/
structure Submission where
  request : Nat
  frame : Frame
  held : Bool
deriving DecidableEq, Repr

/-- The submissions on one stream. -/
def submissionsOn (submissions : List Submission) (stream : StreamId) : List Submission :=
  submissions.filter fun submission => decide (submission.frame.header.stream = stream)

theorem submissionsOn_append (front back : List Submission) (stream : StreamId) :
    submissionsOn (front ++ back) stream =
      submissionsOn front stream ++ submissionsOn back stream :=
  List.filter_append front back

theorem submissionsOn_same {submission : Submission} {stream : StreamId}
    (same : submission.frame.header.stream = stream) :
    submissionsOn [submission] stream = [submission] := by
  simp [submissionsOn, same]

theorem submissionsOn_other {submissions : List Submission} {stream : StreamId}
    (different : ∀ submission ∈ submissions, submission.frame.header.stream ≠ stream) :
    submissionsOn submissions stream = [] :=
  List.filter_eq_nil_iff.mpr fun submission member => by simpa using different submission member

/-- Requests, each followed by at most one cancellation, which the same request
submits while it holds the stream. -/
inductive Paired : List Submission → Prop where
  | nil : Paired []
  | request {front : List Submission} {request : Submission} (earlier : Paired front)
      (requests : request.frame.isRequest = true) : Paired (front ++ [request])
  | cancelled {front : List Submission} {request cancellation : Submission}
      (earlier : Paired front) (requests : request.frame.isRequest = true)
      (cancels : cancellation.frame =
        ClientConnection.cancellationFrame request.frame.header.stream)
      (own : cancellation.request = request.request) (held : cancellation.held = true) :
      Paired (front ++ [request, cancellation])

/-- Only requests are submitted without the stream. -/
theorem Paired.holds {submissions : List Submission} (paired : Paired submissions)
    (submission : Submission) (member : submission ∈ submissions)
    (other : submission.frame.isRequest = false) : submission.held = true := by
  induction paired with
  | nil => simp at member
  | request earlier requests inductionHypothesis =>
    rcases List.mem_append.mp member with before | last
    · exact inductionHypothesis before
    · obtain rfl := List.mem_singleton.mp last
      simp [requests] at other
  | cancelled earlier requests cancels own held inductionHypothesis =>
    rcases List.mem_append.mp member with before | last
    · exact inductionHypothesis before
    · rcases List.mem_pair.mp last with rfl | rfl
      · simp [requests] at other
      · exact held

/-- The last submission is the request's own, not cancelled yet. -/
def AwaitsReply (request : Nat) (submissions : List Submission) : Prop :=
  ∃ front submission, submissions = front ++ [submission] ∧ Paired front ∧
    submission.frame.isRequest = true ∧ submission.request = request

theorem AwaitsReply.paired {request : Nat} {submissions : List Submission}
    (awaits : AwaitsReply request submissions) : Paired submissions := by
  obtain ⟨front, submission, rfl, earlier, requests, -⟩ := awaits
  exact .request earlier requests

section Cancels

variable {τ : Type} {ν : τ → Type}

namespace PendingRequest

variable {request : PendingRequest ν} (idle : request.timer = .idle)
include idle

/-- Cleaning up starts no timer. -/
theorem cleaned_idle (release : Bool) : (request.cleaned release).timer = .idle := by
  simp [cleaned, idle, Timer.cancel]

theorem failedWith_idle (operation : Operation StreamId) (result : OperationResult)
    (release : Bool) : (request.failedWith operation result release).timer = .idle :=
  cleaned_idle (idle : (closeChannel { request with
    operation := operation, settled := request.settled ++ [result] }).timer = .idle) release

theorem completedWith_idle (position : Nat) (frame : Frame) :
    (request.completedWith position frame).timer = .idle := by
  apply cleaned_idle
  unfold trySend
  split <;> simp [idle, Timer.cancel]

end PendingRequest

/-- A failed operation is not live. -/
theorem FailsWith.inactive {before after : Operation StreamId} {result : OperationResult}
    (fails : FailsWith before after result) : after.state ≠ .active := by
  rcases fails.state with failed | cancelled
  · simp [failed]
  · simp [cancelled]

namespace Ledger

/-- A frame submitted by a request of a ledger. -/
def submission (ledger : Ledger ν) (request : Nat) (frame : Frame) : Submission where
  request := request
  frame := frame
  held := ledger.requests[request]?.all fun object => !object.streamReleased

/-- The log agrees with the ledger. A request whose frame is not accepted yet has no
timer and shares its stream with no request that still holds it; a live request is
listed, and the last submission on its stream is its own. -/
structure Logged (submissions : List Submission) (ledger : Ledger ν) : Prop where
  history : submissions.map Submission.frame = ledger.accepted
  placed : ∀ submission ∈ submissions, ∃ object,
    ledger.requests[submission.request]? = some object ∧
      object.stream = submission.frame.header.stream
  timers : ∀ (request : Nat) (object : PendingRequest ν), ledger.requests[request]? = some object →
    object.owner = .starting → object.timer = .idle
  listed : ∀ (request : Nat) (object : PendingRequest ν), ledger.requests[request]? = some object →
    object.operation.state = .active → object.removed = false
  alone : ∀ (first second : Nat) (one other : PendingRequest ν),
    ledger.requests[first]? = some one → ledger.requests[second]? = some other → first ≠ second →
    one.owner = .starting → other.stream = one.stream → other.streamReleased = true
  last : ∀ (request : Nat) (object : PendingRequest ν), ledger.requests[request]? = some object →
    object.operation.state = .active → object.owner ≠ .starting →
    AwaitsReply request (submissionsOn submissions object.stream)
  paired : ∀ stream, Paired (submissionsOn submissions stream)

section Writes

variable {ledger : Ledger ν} {submissions : List Submission}
variable (logged : ledger.Logged submissions)
include logged

/-- What does not touch the objects and the queue. -/
theorem Logged.same (other : Ledger ν) (requests : other.requests = ledger.requests)
    (accepted : other.accepted = ledger.accepted) : other.Logged submissions := by
  constructor
  · rw [accepted]
    exact logged.history
  · rw [requests]
    exact logged.placed
  · rw [requests]
    exact logged.timers
  · rw [requests]
    exact logged.listed
  · rw [requests]
    exact logged.alone
  · rw [requests]
    exact logged.last
  · exact logged.paired

variable (consistent : ledger.Consistent)
include consistent

/-- A live request holds its stream. -/
theorem Logged.unreleased {request : Nat} {object : PendingRequest ν}
    (found : ledger.requests[request]? = some object)
    (active : object.operation.state = .active) : object.streamReleased = false :=
  (consistent.listed request object found (logged.listed request object found active)).2

/-- A registered request is alone on its stream, if no suspended request had it. -/
theorem Logged.register (stream : StreamId) (response : τ) (deadline : Option Deadline)
    (allocation : ledger.streamIds.allocate.2 = .success stream)
    (free : ∀ (request : Nat) (object : PendingRequest ν), ledger.requests[request]? = some object →
      object.owner = .starting → object.stream ≠ stream) :
    (ledger.register stream response deadline).Logged submissions := by
  constructor
  · exact logged.history
  · intro submission member
    obtain ⟨object, found, same⟩ := logged.placed submission member
    exact ⟨object, getElem?_append_found found, same⟩
  · intro request object present
    rcases getElem?_append_singleton present with before | ⟨-, rfl⟩
    · exact logged.timers request object before
    · exact fun _ => rfl
  · intro request object present
    rcases getElem?_append_singleton present with before | ⟨-, rfl⟩
    · exact logged.listed request object before
    · exact fun _ => rfl
  · intro first second one other present presentOther different starting same
    rcases getElem?_append_singleton present with before | ⟨rfl, rfl⟩
    · rcases getElem?_append_singleton presentOther with beforeOther | ⟨rfl, rfl⟩
      · exact logged.alone first second one other before beforeOther different starting same
      · exact absurd same.symm (free first one before starting)
    · rcases getElem?_append_singleton presentOther with beforeOther | ⟨rfl, rfl⟩
      · by_contra kept
        exact allocated_unused consistent stream allocation beforeOther (by simpa using kept) same
      · exact absurd rfl different
  · intro request object present
    rcases getElem?_append_singleton present with before | ⟨-, rfl⟩
    · exact logged.last request object before
    · exact fun _ claimed => absurd rfl claimed
  · exact logged.paired

variable {request : Nat} {old new : PendingRequest ν} (added : List Submission)
variable (found : ledger.requests[request]? = some old) (other : Ledger ν)
variable (requests : other.requests = ledger.requests.set request new)
variable (accepted : other.accepted = ledger.accepted ++ added.map Submission.frame)
variable (stream : new.stream = old.stream)
variable (released : old.streamReleased = true → new.streamReleased = true)
variable (owner : new.owner = .starting →
  old.owner = .starting ∧ (old.timer = .idle → new.timer = .idle))
include found requests accepted stream released owner

omit consistent in
/-- One object is written and frames are submitted on its stream. -/
theorem Logged.written
    (active : new.operation.state = .active → old.operation.state = .active ∧
      new.removed = old.removed)
    (streams : ∀ submission ∈ added, submission.request = request ∧
      submission.frame.header.stream = old.stream)
    (others : added = [] ∨ ∀ (place : Nat) (object : PendingRequest ν),
      ledger.requests[place]? = some object → place ≠ request → object.stream = old.stream →
      object.operation.state ≠ .active)
    (last : new.operation.state = .active → new.owner ≠ .starting →
      AwaitsReply request (submissionsOn (submissions ++ added) old.stream))
    (paired : Paired (submissionsOn (submissions ++ added) old.stream)) :
    other.Logged (submissions ++ added) := by
  have reading : ∀ place object, other.requests[place]? = some object →
      place = request ∧ object = new ∨ place ≠ request ∧ ledger.requests[place]? = some object := by
    intro place object present
    rw [requests] at present
    exact getElem?_set_cases found present
  have elsewhere : ∀ key, key ≠ old.stream →
      submissionsOn (submissions ++ added) key = submissionsOn submissions key := by
    intro key different
    have absent : submissionsOn added key = [] := by
      apply submissionsOn_other
      intro submission member
      rw [(streams submission member).2]
      exact Ne.symm different
    rw [submissionsOn_append, absent, List.append_nil]
  constructor
  · rw [List.map_append, logged.history, accepted]
  · intro submission member
    by_cases own : submission.request = request
    · refine ⟨new, by rw [requests, getElem?_set_found _ found, if_pos own], ?_⟩
      rcases List.mem_append.mp member with before | late
      · obtain ⟨object, present, same⟩ := logged.placed submission before
        rw [own] at present
        obtain rfl : old = object := Option.some.inj (found.symm.trans present)
        exact stream.trans same
      · exact stream.trans (streams submission late).2.symm
    · rcases List.mem_append.mp member with before | late
      · obtain ⟨object, present, same⟩ := logged.placed submission before
        refine ⟨object, ?_, same⟩
        rw [requests, getElem?_set_found _ found, if_neg own]
        exact present
      · exact absurd (streams submission late).1 own
  · intro place object present starting
    rcases reading place object present with ⟨rfl, rfl⟩ | ⟨-, before⟩
    · obtain ⟨earlier, keeps⟩ := owner starting
      exact keeps (logged.timers place old found earlier)
    · exact logged.timers place object before starting
  · intro place object present live
    rcases reading place object present with ⟨rfl, rfl⟩ | ⟨-, before⟩
    · obtain ⟨earlier, removed⟩ := active live
      rw [removed]
      exact logged.listed place old found earlier
    · exact logged.listed place object before live
  · intro first second one two present presentOther different starting same
    rcases reading first one present with ⟨rfl, rfl⟩ | ⟨firstElse, before⟩
    · rcases reading second two presentOther with ⟨rfl, rfl⟩ | ⟨-, beforeOther⟩
      · exact absurd rfl different
      · exact logged.alone first second old two found beforeOther different (owner starting).1
          (same.trans stream)
    · rcases reading second two presentOther with ⟨rfl, rfl⟩ | ⟨-, beforeOther⟩
      · exact released (logged.alone first second one old before found different starting
          (stream.symm.trans same))
      · exact logged.alone first second one two before beforeOther different starting same
  · intro place object present live claimed
    rcases reading place object present with ⟨rfl, rfl⟩ | ⟨different, before⟩
    · rw [stream]
      exact last live claimed
    · by_cases same : object.stream = old.stream
      · rcases others with rfl | settled
        · rw [List.append_nil]
          exact logged.last place object before live claimed
        · exact absurd live (settled place object before different same)
      · rw [elsewhere _ same]
        exact logged.last place object before live claimed
  · intro key
    by_cases same : key = old.stream
    · rw [same]
      exact paired
    · rw [elsewhere key same]
      exact logged.paired key

omit consistent in
/-- An object is written that is not live any more. -/
theorem Logged.settled (inactive : new.operation.state ≠ .active) (nothing : added = []) :
    other.Logged (submissions ++ added) := by
  subst nothing
  apply logged.written [] found other requests accepted stream released owner
  · exact fun live => absurd live inactive
  · simp
  · exact Or.inl rfl
  · exact fun live => absurd live inactive
  · rw [List.append_nil]
    exact logged.paired old.stream

/-- A live request whose frame was accepted submits its cancellation. -/
theorem Logged.cancelled (inactive : new.operation.state ≠ .active)
    (live : old.operation.state = .active) (claimed : old.owner ≠ .starting)
    (cancellation : Submission) (only : added = [cancellation])
    (frame : cancellation.frame = ClientConnection.cancellationFrame old.stream)
    (own : cancellation.request = request) (held : cancellation.held = true) :
    other.Logged (submissions ++ added) := by
  subst only
  have unreleased := logged.unreleased consistent found live
  have placed : cancellation.frame.header.stream = old.stream := by rw [frame]; rfl
  apply logged.written [cancellation] found other requests accepted stream released owner
  · exact fun active => absurd active inactive
  · simpa using ⟨own, placed⟩
  · right
    intro place object present different same active
    exact different (consistent.distinct place request object old present found
      (logged.unreleased consistent present active) unreleased same)
  · exact fun active => absurd active inactive
  · rw [submissionsOn_append, submissionsOn_same placed]
    obtain ⟨front, submission, trace, earlier, requests, sameRequest⟩ :=
      logged.last request old found live claimed
    have onStream : submission.frame.header.stream = old.stream := by
      have member : submission ∈ submissionsOn submissions old.stream := by
        rw [trace]
        simp
      simpa using (List.mem_filter.mp member).2
    rw [trace, List.append_assoc]
    refine .cancelled earlier requests ?_ (own.trans sameRequest.symm) held
    rw [onStream]
    exact frame

/-- The frame of a suspended request is accepted. -/
theorem Logged.admitted (state : new.operation.state = old.operation.state)
    (removed : new.removed = old.removed) (starting : old.owner = .starting)
    (submission : Submission) (only : added = [submission])
    (framed : RequestFrame submission.frame old.stream) (own : submission.request = request) :
    other.Logged (submissions ++ added) := by
  subst only
  have requesting : submission.frame.isRequest = true := by
    simp [Frame.isRequest, framed.type, framed.flags]
    decide
  have trace : submissionsOn (submissions ++ [submission]) old.stream =
      submissionsOn submissions old.stream ++ [submission] := by
    rw [submissionsOn_append, submissionsOn_same framed.stream]
  apply logged.written [submission] found other requests accepted stream released owner
  · exact fun active => ⟨state ▸ active, removed⟩
  · simpa using ⟨own, framed.stream⟩
  · right
    intro place object present different same active
    have gone := logged.alone request place old object found present (Ne.symm different) starting
      same
    rw [logged.unreleased consistent present active] at gone
    simp at gone
  · intro _ _
    exact ⟨_, submission, trace, logged.paired old.stream, requesting, own⟩
  · rw [trace]
    exact .request (logged.paired old.stream) requesting

end Writes

section Steps

variable [DecidableEq τ] {registry : MessageRegistry τ} {codec : Codec τ ν}
variable {permits : Ledger ν → Change → Prop} {start before after : Ledger ν} {submitter : Nat}

/-- A request that submits a frame is the one on the log, its own frame was accepted,
and it holds its stream if and only if it did at the start. -/
def Stands (start : Ledger ν) (submitter : Nat) (ledger : Ledger ν) (request : Nat) : Prop :=
  request = submitter ∧ ∀ object, ledger.requests[request]? = some object →
    object.owner ≠ .starting ∧ ∃ original, start.requests[request]? = some original ∧
      original.streamReleased = object.streamReleased

/-- What an event must not permit for the cancellations to stay with their requests. -/
structure KeepsUnfinished (permits : Ledger ν → Change → Prop) (start : Ledger ν)
    (submitter : Nat) : Prop where
  registers : ∀ ledger stream, permits ledger (.registers stream) →
    ∀ (request : Nat) (object : PendingRequest ν), ledger.requests[request]? = some object →
      object.owner = .starting → object.stream ≠ stream
  admits : ∀ ledger request, permits ledger (.admits request) → request = submitter
  returns : ∀ ledger request object, permits ledger (.returns request) →
    ledger.requests[request]? = some object → object.operation.state ≠ .active
  abandons : ∀ ledger request, permits ledger (.abandons request) →
    Stands start submitter ledger request
  rejects : ∀ ledger request frame, permits ledger (.rejects request frame) →
    hasFlag frame.header.flags .cancel = true →
    ledger.pending.lookup frame.header.stream = some request →
    Stands start submitter ledger request

/-- A change is recorded: the frames it submits are appended to the log. -/
def Records (start : Ledger ν) (submitter : Nat) (submissions : List Submission)
    (before after : Ledger ν) : Prop :=
  ∃ added, after.accepted = before.accepted ++ added ∧
    after.Logged (submissions ++ added.map (start.submission submitter))

variable {submissions : List Submission}

omit [DecidableEq τ] in
/-- Nothing is submitted. -/
theorem Records.silent (accepted : after.accepted = before.accepted)
    (logged : after.Logged (submissions ++ [])) :
    Records start submitter submissions before after :=
  ⟨[], accepted.trans (List.append_nil _).symm, logged⟩

omit [DecidableEq τ] in
/-- A touched object is as live as before and stays on its stream. -/
theorem Logged.touched {request : Nat} {object new : PendingRequest ν} {aborts : Prop}
    (logged : before.Logged submissions) (sane : object.Sane)
    (found : before.requests[request]? = some object) (touch : object.Touch aborts new) :
    (before.replace request new).Logged (submissions ++ []) := by
  obtain ⟨-, operation, removed, released, owner⟩ := sane.touch touch
  apply logged.written [] found (before.replace request new) rfl (List.append_nil _).symm
    (congrArg Operation.stream operation) (fun gone => released.trans gone)
  · intro starting
    cases touch with
    | timer timer started => exact ⟨starting, fun idle => absurd idle started⟩
    | asyncWait | abortWait => exact ⟨starting, id⟩
    | released => simp at starting
  · rw [operation]
    exact fun active => ⟨active, removed⟩
  · simp
  · exact Or.inl rfl
  · intro active claimed
    rw [List.append_nil]
    refine logged.last request object found (operation ▸ active) ?_
    rcases owner with same | handle
    · exact same ▸ claimed
    · simp [handle]
  · rw [List.append_nil]
    exact logged.paired object.stream

omit [DecidableEq τ] in
/-- A live request is given up, with or without a word to the peer. -/
theorem Logged.abandoned {request : Nat} {old new : PendingRequest ν} {offered : List Frame}
    (logged : before.Logged submissions) (consistent : before.Consistent)
    (found : before.requests[request]? = some old)
    (requests : after.requests = before.requests.set request new)
    (accepted : after.accepted = before.accepted ++ offered)
    (stream : new.stream = old.stream)
    (released : old.streamReleased = true → new.streamReleased = true)
    (owner : new.owner = .starting →
      old.owner = .starting ∧ (old.timer = .idle → new.timer = .idle))
    (inactive : new.operation.state ≠ .active) (live : old.operation.state = .active)
    (kind : offered = [] ∨ offered = [ClientConnection.cancellationFrame old.stream])
    (stands : offered ≠ [] → Stands start submitter before request) :
    Records start submitter submissions before after := by
  rcases kind with rfl | rfl
  · exact .silent (accepted.trans (List.append_nil _))
      (logged.settled [] found after requests accepted stream released owner inactive rfl)
  · obtain ⟨rfl, standing⟩ := stands (by simp)
    obtain ⟨claimed, original, origin, same⟩ := standing old found
    refine ⟨_, accepted, logged.cancelled consistent _ found after requests accepted stream
      released owner inactive live claimed
      (start.submission request (ClientConnection.cancellationFrame old.stream)) rfl rfl rfl ?_⟩
    have unreleased := logged.unreleased consistent found live
    simp [submission, origin, same, unreleased]

/-- Every change an event may make is recorded. -/
theorem Step.logged (step : Step registry codec permits before after)
    (keeping : KeepsUnfinished permits start submitter) (consistent : before.Consistent)
    (logged : before.Logged submissions) :
    Records start submitter submissions before after := by
  have silent : before.Logged (submissions ++ []) := by rwa [List.append_nil]
  have nothing : before.accepted = before.accepted ++ [] := (List.append_nil _).symm
  cases step with
  | allocated kept => exact .silent rfl (silent.same _ rfl rfl)
  | registered stream response deadline permitted allocation =>
    exact .silent rfl (silent.register consistent stream response deadline allocation
      (keeping.registers _ _ permitted))
  | suspended request object frame found starting framed => exact .silent rfl (silent.same _ rfl rfl)
  | admitted request object frame permitted found starting framed =>
    obtain rfl := keeping.admits _ _ permitted
    refine ⟨[frame], rfl, logged.admitted consistent _ found _ rfl rfl
      (PendingRequest.startTimer_stream _) ?_ ?_ (PendingRequest.startTimer_state _)
      (PendingRequest.startTimer_removed _) starting (start.submission request frame) rfl framed
      rfl⟩
    · exact fun gone => (PendingRequest.startTimer_streamReleased _).trans gone
    · intro claimed
      rw [PendingRequest.started, PendingRequest.startTimer_owner] at claimed
      simp at claimed
  | refused request object operation status message found starting fails =>
    exact .silent rfl (logged.settled [] found _ rfl nothing fails.stream
      (fun gone => by simp [refusedObject, PendingRequest.failedWith, gone])
      (fun claimed => by simp [refusedObject] at claimed) fails.inactive rfl)
  | refusedLate request object status message found starting inactive =>
    exact .silent rfl (logged.settled [] found _ rfl nothing rfl
      (fun gone => by simp [refusedObject, gone])
      (fun claimed => by simp [refusedObject] at claimed) inactive rfl)
  | touched request object new found touch =>
    exact .silent rfl (logged.touched (consistent.sane request object found) found touch)
  | abandoned request object operation result release offered permitted found fails kind =>
    exact logged.abandoned consistent found rfl rfl fails.stream
      (fun gone => by simp [PendingRequest.failedWith, gone])
      (fun claimed => ⟨claimed, fun idle => PendingRequest.failedWith_idle idle _ _ _⟩) fails.inactive
      fails.active kind (fun _ => keeping.abandons _ _ permitted)
  | failed after permitted fails =>
    obtain ⟨request, object, operation, result, found, fails, rfl⟩ := fails
    exact .silent rfl (logged.settled [] found _ rfl nothing fails.stream
      (fun gone => by simp [PendingRequest.failedWith, gone])
      (fun claimed => ⟨claimed, fun idle => PendingRequest.failedWith_idle idle _ _ _⟩) fails.inactive
      rfl)
  | dropped request object found handle inactive =>
    exact .silent rfl (logged.settled [] found _ rfl nothing rfl (fun gone => by simp [gone])
      (fun claimed => ⟨claimed, fun idle => PendingRequest.cleaned_idle idle _⟩) inactive rfl)
  | returned request object wait posted permitted found member =>
    exact .silent rfl (logged.settled [] found _ rfl nothing rfl
      (fun gone => by simp [returnedObject, gone])
      (fun claimed => ⟨claimed, fun idle => PendingRequest.cleaned_idle
        (idle : ({ object with resumed := object.resumed.erase (wait, posted) }
          : PendingRequest ν).timer = .idle) true⟩)
      (keeping.returns _ _ object permitted found) rfl)
  | completed request object frame permitted found entry active response open_ plain =>
    exact .silent rfl (logged.settled [] found _ rfl nothing
      (PendingRequest.completedWith_stream object _ frame)
      (fun gone => by simp [PendingRequest.completedWith_streamReleased])
      (fun claimed => ⟨(PendingRequest.completedWith_owner object _ frame) ▸ claimed,
        fun idle => PendingRequest.completedWith_idle idle _ _⟩)
      (by simp [PendingRequest.completedOperation]) rfl)
  | rejected request object operation result release offered frame permitted found entry fails kind
      open_ silent =>
    refine logged.abandoned consistent found rfl rfl fails.stream
      (fun gone => by simp [PendingRequest.failedWith, gone])
      (fun claimed => ⟨claimed, fun idle => PendingRequest.failedWith_idle idle _ _ _⟩) fails.inactive
      fails.active kind ?_
    intro speaks
    rcases silent with ⟨-, quiet⟩ | cancels
    · exact absurd quiet speaks
    · exact keeping.rejects _ _ _ permitted cancels entry
  | accused frame violation permitted => exact .silent rfl (silent.same _ rfl rfl)
  | charged violation permitted => exact .silent rfl (silent.same _ rfl rfl)

/-- All changes of one event are recorded. -/
theorem Steps.logged (steps : Steps registry codec permits before after)
    (keeping : KeepsUnfinished permits start submitter) (consistent : before.Consistent)
    (logged : before.Logged submissions) :
    Records start submitter submissions before after := by
  induction steps with
  | refl => exact .silent rfl (by rwa [List.append_nil])
  | tail earlier step inductionHypothesis =>
    obtain ⟨added, accepted, recorded⟩ := inductionHypothesis
    obtain ⟨more, acceptedMore, recordedMore⟩ :=
      step.logged keeping (Steps.consistent earlier consistent) recorded
    refine ⟨added ++ more, ?_, ?_⟩
    · rw [acceptedMore, accepted, List.append_assoc]
    · rw [List.map_append, ← List.append_assoc]
      exact recordedMore

end Steps

end Ledger

/-- A client connection and the frames its requests submitted. -/
structure SubmissionLog (ν : τ → Type) where
  client : ClientConnection ν
  submissions : List Submission := []

namespace ClientConnection

variable (client : ClientConnection ν)

/-- The request on whose behalf an event runs. -/
def submitter : ClientEvent ν → Nat
  | .startRequest .. => client.requests.length
  | .resumeEnqueue request | .cancel request _ | .timerHandler request | .destroyHandle request =>
    request
  | .dispatchNext =>
    (client.reader.batch.head?.bind fun frame =>
      client.pending.lookup frame.header.stream).getD 0
  | _ => 0

/-- The event keeps what is unfinished: a wait returns only once its operation is over,
a cancelled response reaches no request whose frame is not accepted yet, and a new
request is not given the stream of such a request. -/
def keepsUnfinished : ClientEvent ν → Bool
  | .resumeWait request _ => client.isTerminal request
  | .dispatchNext =>
    client.reader.batch.head?.all fun frame =>
      !hasFlag frame.header.flags .cancel ||
        (client.pending.lookup frame.header.stream).all fun request =>
          client.requests[request]?.all fun object => decide (object.owner ≠ .starting)
  | .startRequest .. =>
    client.isShuttingDown || client.streamIds.allocate.2.stream.all fun stream =>
      client.requests.all fun object =>
        decide (object.owner ≠ .starting) || decide (object.stream ≠ stream)
  | _ => true

/-- A request found in the connection stands for itself. -/
theorem stands_found {request : Nat} {object : PendingRequest ν}
    (found : client.requests[request]? = some object) (claimed : object.owner ≠ .starting) :
    Ledger.Stands client.ledger request client.ledger request := by
  refine ⟨rfl, ?_⟩
  intro other present
  obtain rfl : object = other := Option.some.inj (found.symm.trans present)
  exact ⟨claimed, object, found, rfl⟩

variable {client} [DecidableEq τ] {registry : MessageRegistry τ} {codec : Codec τ ν}

/-- An event that keeps what is unfinished permits nothing that parts a cancellation
from its request. -/
theorem keepsUnfinished_permits {after : ClientConnection ν} {event : ClientEvent ν}
    {submissions : List Submission} (logged : client.ledger.Logged submissions)
    (keepsUnfinished : client.keepsUnfinished event = true) :
    Ledger.KeepsUnfinished (client.Brings registry codec after event) client.ledger
      (client.submitter event) := by
  constructor
  · intro ledger stream brings request object found starting
    cases brings with
    | registers type value response deadline stream serving allocation =>
      have free : ∀ object ∈ client.requests,
          object.owner ≠ .starting ∨ object.stream ≠ stream := by
        simpa [ClientConnection.keepsUnfinished, serving, allocation, StreamIdAllocation.success]
          using keepsUnfinished
      exact (free object (List.mem_of_getElem? found)).resolve_left (not_not.mpr starting)
  · rintro ledger request ⟨⟩
    · rfl
    · rfl
  · rintro ledger request object ⟨⟩ found active
    have terminal : object.operation.isTerminal = true := by
      simpa [ClientConnection.keepsUnfinished, isTerminal,
        show client.requests[request]? = some object from found] using keepsUnfinished
    rw [object.operation.isTerminal_active active] at terminal
    simp at terminal
  · intro ledger request brings
    cases brings with
    | cancels request message object found handle =>
      exact client.stands_found found (by simp [handle])
    | discards request object found handle =>
      exact client.stands_found found (by simp [handle])
    | timesOut request object found expired =>
      refine ⟨rfl, ?_⟩
      intro other present
      obtain rfl : { object with timer := .done } = other := by
        have written := getElem?_set_found { object with timer := .done } found request
        rw [if_pos rfl] at written
        exact Option.some.inj (written.symm.trans present)
      refine ⟨?_, object, found, rfl⟩
      intro starting
      have idle := logged.timers request object found starting
      simp [idle] at expired
  · intro ledger request frame brings cancels entry
    cases brings with
    | rejects frame rest request reading =>
      have entry : client.pending.lookup frame.header.stream = some request := entry
      have same : request = client.submitter .dispatchNext := by
        simp [submitter, reading, Reader.batch, entry]
      refine ⟨same, ?_⟩
      intro object found
      have found : client.requests[request]? = some object := found
      have claimed : object.owner ≠ .starting := by
        simpa [ClientConnection.keepsUnfinished, reading, Reader.batch, cancels, entry, found]
          using keepsUnfinished
      exact ⟨claimed, object, found, rfl⟩

end ClientConnection

namespace SubmissionLog

variable [DecidableEq τ] (registry : MessageRegistry τ) (codec : Codec τ ν)

/-- One step of the connection, with the frames it submits. -/
def step (log : SubmissionLog ν) (event : ClientEvent ν) : Option (SubmissionLog ν) :=
  (log.client.step registry codec event).map fun after => {
    client := after
    submissions := log.submissions ++
      (after.writeQueue.accepted.drop log.client.writeQueue.accepted.length).map
        (log.client.ledger.submission (log.client.submitter event)) }

def create (limits : WriteQueueLimits) (maximumStreamId : UInt64) : SubmissionLog ν where
  client := .create limits maximumStreamId

/-- The states a new connection reaches in the runs a guard allows, with its log. -/
def Reachable (guard : ClientConnection ν → ClientEvent ν → Prop) (limits : WriteQueueLimits)
    (maximumStreamId : UInt64) : SubmissionLog ν → Prop :=
  Reachability.Reaches (step registry codec) (fun log event => guard log.client event)
    (create limits maximumStreamId)

variable {registry codec}

/-- Without its log a run is a run of the connection. -/
theorem Reachable.client {guard : ClientConnection ν → ClientEvent ν → Prop}
    {limits : WriteQueueLimits} {maximumStreamId : UInt64} {log : SubmissionLog ν}
    (reachable : Reachable registry codec guard limits maximumStreamId log) :
    ClientConnection.Reachable registry codec guard limits maximumStreamId log.client := by
  apply Reachability.Reaches.project SubmissionLog.client ?_ reachable
  intro before event after allowed stepped
  obtain ⟨client, moved, rfl⟩ := Option.map_eq_some_iff.mp stepped
  exact ⟨allowed, moved⟩

theorem Reachable.logged {limits : WriteQueueLimits} {maximumStreamId : UInt64}
    {log : SubmissionLog ν}
    (reachable : Reachable registry codec (fun client event => client.keepsUnfinished event = true)
      limits maximumStreamId log) :
    log.client.ledger.Logged log.submissions := by
  apply Reachability.Reaches.invariant_of_reached
    (fun log => log.client.ledger.Logged log.submissions) ?_ ?_ reachable
  · constructor <;> simp [create, ClientConnection.create, ClientConnection.ledger,
      WriteQueue.create, submissionsOn, Paired.nil]
  · intro before event after reached logged allowed stepped
    have earlier : Reachable registry codec
      (fun client event => client.keepsUnfinished event = true) limits maximumStreamId before := reached
    have consistent := earlier.client.consistent
    obtain ⟨client, moved, rfl⟩ := Option.map_eq_some_iff.mp stepped
    obtain ⟨added, accepted, recorded⟩ :=
      (before.client.step_steps event client consistent moved).logged
        (ClientConnection.keepsUnfinished_permits logged allowed) consistent logged
    have accepted : client.writeQueue.accepted = before.client.writeQueue.accepted ++ added :=
      accepted
    simp only [accepted, List.drop_left]
    exact recorded

/-- In every run that keeps what is unfinished the frames accepted on a stream are
requests, each followed by at most one cancellation, which the request before it
submitted while it held the stream. Every submission is that of a request on its stream. -/
theorem cancellations_paired {limits : WriteQueueLimits} {maximumStreamId : UInt64}
    {log : SubmissionLog ν}
    (reachable : Reachable registry codec (fun client event => client.keepsUnfinished event = true)
      limits maximumStreamId log) :
    log.submissions.map Submission.frame = log.client.writeQueue.accepted ∧
    (∀ submission ∈ log.submissions, ∃ object,
      log.client.requests[submission.request]? = some object ∧
        object.operation.stream = submission.frame.header.stream) ∧
    ∀ stream, Paired (submissionsOn log.submissions stream) := by
  have logged := reachable.logged
  exact ⟨logged.history, logged.placed, logged.paired⟩

end SubmissionLog

end Cancels

/-- A cancelled response answers a request that was given to the transport. -/
def ClientConnection.peerReceived {τ : Type} {ν : τ → Type} (client : ClientConnection ν) :
    ClientEvent ν → Bool
  | .dispatchNext =>
    client.reader.batch.head?.all fun frame =>
      !hasFlag frame.header.flags .cancel || client.sent.any fun earlier =>
        earlier.isRequest && decide (earlier.header.stream = frame.header.stream)
  | _ => true

/-- A wait is aborted, its stream goes to a second request, and then the handle is
destroyed. -/
def abortedThenDropped : List (ClientEvent fun _ : Unit => UInt8) :=
  [.run, .startWriter, .startReader, .startRequest () 5 () none, .asyncWait 0, .abortWait 0 0,
    .resumeWait 0 0, .startRequest () 6 () none, .destroyHandle 0]

/-- The dropped handle cancels the second request: its cancellation is submitted on the
stream the second request holds. -/
theorem cancellations_paired_fails :
    ∃ log : SubmissionLog fun _ : Unit => UInt8,
      SubmissionLog.Reachable byteRegistry byteCodec
        (fun client event => client.peerReceived event = true) {} 0xFFFFFFFFFFFFFFFF log ∧
      (submissionsOn log.submissions ⟨1⟩).map Submission.request = [0, 1, 0] ∧
      ¬ Paired (submissionsOn log.submissions ⟨1⟩) := by
  have reads : (Reachability.run (SubmissionLog.step byteRegistry byteCodec)
      (fun log event => log.client.peerReceived event = true)
      (SubmissionLog.create {} 0xFFFFFFFFFFFFFFFF) abortedThenDropped).map
        (fun log => ((submissionsOn log.submissions ⟨1⟩).map Submission.request,
          (submissionsOn log.submissions ⟨1⟩).all fun submission =>
            submission.frame.isRequest || submission.held)) = some ([0, 1, 0], false) := by
    decide +kernel
  obtain ⟨log, reached, facts⟩ := Option.map_eq_some_iff.mp reads
  obtain ⟨requests, unheld⟩ := Prod.mk.inj facts
  refine ⟨log, Reachability.run_reaches _ _ _ _ _ reached, requests, ?_⟩
  intro paired
  rw [List.all_eq_false] at unheld
  obtain ⟨submission, member, foreign⟩ := unheld
  cases requesting : submission.frame.isRequest with
  | true => simp [requesting] at foreign
  | false => simp [paired.holds submission member requesting] at foreign

/-- The same stream is used twice, and each time its own request is cancelled. -/
theorem cancellations_paired_twice :
    ∃ log, Reachability.run (SubmissionLog.step byteRegistry byteCodec)
        (fun log event => log.client.keepsUnfinished event = true)
        (SubmissionLog.create {} 0xFFFFFFFFFFFFFFFF)
        [.run, .startWriter, .startReader, .startRequest () 5 () none, .destroyHandle 0,
          .startRequest () 6 () none, .asyncWait 1, .cancel 1 "operation cancelled"] =
          some log ∧
      (submissionsOn log.submissions ⟨1⟩).map Submission.request = [0, 0, 1, 1] ∧
      Paired (submissionsOn log.submissions ⟨1⟩) := by
  have reads : (Reachability.run (SubmissionLog.step byteRegistry byteCodec)
      (fun log event => log.client.keepsUnfinished event = true)
      (SubmissionLog.create {} 0xFFFFFFFFFFFFFFFF)
      [.run, .startWriter, .startReader, .startRequest () 5 () none, .destroyHandle 0,
        .startRequest () 6 () none, .asyncWait 1, .cancel 1 "operation cancelled"]).map
        (fun log => (submissionsOn log.submissions ⟨1⟩).map Submission.request) =
      some [0, 0, 1, 1] := by
    decide +kernel
  obtain ⟨log, reached, requests⟩ := Option.map_eq_some_iff.mp reads
  obtain ⟨-, -, paired⟩ :=
    SubmissionLog.cancellations_paired (Reachability.run_reaches _ _ _ _ _ reached)
  exact ⟨log, reached, requests, paired ⟨1⟩⟩

end Rillnet
