import Mathlib.Data.List.Find
import Rillnet.ServerEndings
import Rillnet.ClientIsolation

/-!
# Error frames from the server to the client

A server writes error frames in four situations: a request without a message type,
one without a handler, one whose body cannot be decoded, and any frame that arrives
while it is shutting down. The first three carry a status of the serialization band,
which a client reads and fails the operation with as long as its table of codes has
the status; a codec of the application may choose one that the table does not have.
The last carries `connection_closed`, a status the error model keeps local and the
table does not have. A client holds a frame that it cannot read against its peer.
-/

namespace Rillnet

/-- The two bytes of an error frame carry all of a status: put together again they
are its value. -/
theorem status_bytes (value : UInt16) :
    ((value >>> 8) &&& 0xFF).toUInt8.toNat * 256 + (value &&& 0xFF).toUInt8.toNat = value.toNat := by
  have bound : value.toNat < 65536 := value.toNat_lt
  have masked : ∀ number : Nat, number &&& 255 = number % 256 :=
    fun number => Nat.and_two_pow_sub_one_eq_mod number 8
  have high : ((value >>> 8) &&& 0xFF).toUInt8.toNat = value.toNat / 256 := by
    have shifted : (value >>> 8).toNat = value.toNat / 256 := by
      simp [Nat.shiftRight_eq_div_pow]
    rw [UInt16.toNat_toUInt8, UInt16.toNat_and, shifted]
    change (_ &&& 255) % 256 = _
    rw [masked]
    omega
  have low : (value &&& 0xFF).toUInt8.toNat = value.toNat % 256 := by
    rw [UInt16.toNat_toUInt8, UInt16.toNat_and]
    change (_ &&& 255) % 256 = _
    rw [masked]
    omega
  omega

/-- A status is read back from its error frame exactly if the table of codes that
may arrive has it; otherwise nothing is read. -/
theorem decodeErrorStatus_makeErrorFrame (stream : StreamId) (status : StatusCode) :
    decodeErrorStatus (makeErrorFrame stream status) =
      if status ∈ wireStatuses then some status else none := by
  have carried : ∀ code : StatusCode, (code.value.toNat =
      ((status.value >>> 8) &&& 0xFF).toUInt8.toNat * 256 + (status.value &&& 0xFF).toUInt8.toNat) =
        (code = status) := by
    intro code
    rw [status_bytes, UInt16.toNat_inj]
    exact propext ⟨congrArg StatusCode.mk, congrArg StatusCode.value⟩
  have table : decodeErrorStatus (makeErrorFrame stream status) =
      wireStatuses.find? fun code => decide (code = status) :=
    List.find?_congr fun code _ => by simp only [carried code]
  rw [table]
  split
  · rename_i listed
    cases found : wireStatuses.find? fun code => decide (code = status) with
    | none => exact absurd (decide_eq_true rfl) (List.find?_eq_none.mp found status listed)
    | some code =>
      have same := List.find?_some found
      exact congrArg some (of_decide_eq_true same)
  · rename_i missing
    exact List.find?_eq_none.mpr fun code member same => missing (of_decide_eq_true same ▸ member)

/-- The status of a server that is shutting down is not in the table. -/
theorem connectionClosed_unlisted : StatusCode.connectionClosed ∉ wireStatuses := by decide

theorem decodeError_category : statusCategory .decodeError = .serialization := by decide

theorem unknownMessageType_category : statusCategory .unknownMessageType = .serialization := by decide

theorem serialization_sent {status : StatusCode} (category : statusCategory status = .serialization) :
    (errorDisposition status).sendToPeer = true := by
  simp [errorDisposition, category]

/-- The frame carries a status that its receiver can read and that may be sent. -/
def Frame.Readable (frame : Frame) : Prop :=
  ∃ status, decodeErrorStatus frame = some status ∧ (errorDisposition status).sendToPeer = true

/-- An error frame is readable if the table has its status and the error model sends
it to peers. -/
theorem makeErrorFrame_readable (stream : StreamId) {status : StatusCode}
    (listed : status ∈ wireStatuses) (sent : (errorDisposition status).sendToPeer = true) :
    (makeErrorFrame stream status).Readable := by
  refine ⟨status, ?_, sent⟩
  rw [decodeErrorStatus_makeErrorFrame, if_pos listed]

/-- An error frame whose status the table does not have cannot be read. -/
theorem makeErrorFrame_unreadable (stream : StreamId) {status : StatusCode}
    (unlisted : status ∉ wireStatuses) : ¬ (makeErrorFrame stream status).Readable := by
  rintro ⟨read, decoded, -⟩
  simp [decodeErrorStatus_makeErrorFrame, unlisted] at decoded

theorem WriteQueue.taken_eq (queue : WriteQueue) (frame : Frame) :
    queue.taken frame = if queue.hasRoom frame then [frame] else [] := by
  unfold taken tryEnqueue tryEnqueueFrame hasRoom
  by_cases fits : queue.canFit (bytesOf frame) = true
  · cases sent : queue.channel.trySend frame with
    | none => simp [fits, WriteResult.ok, WriteResult.failure]
    | some outcome => simp [fits, WriteResult.ok, WriteResult.success]
  · simp [fits, WriteResult.ok, WriteResult.failure]

section Errors

variable {τ : Type} [DecidableEq τ] {ν : τ → Type}

/-- A body that cannot be decoded is a serialization failure, with any of the statuses
of that category. -/
def Codec.FailsBySerialization (codec : Codec τ ν) : Prop :=
  ∀ type body, (codec.decode type body).ok = false →
    statusCategory (codec.decode type body).status = .serialization

omit [DecidableEq τ] in
/-- The built-in codec reports nothing else. -/
theorem podCodec_serialization (size : τ → Nat) (bytes : (type : τ) → ν type → Buffer)
    (value : (type : τ) → Buffer → ν type) :
    (podCodec size bytes value).FailsBySerialization := by
  intro type body failed
  simp only [podCodec] at failed ⊢
  split
  · exact decodeError_category
  · rename_i fits
    simp [fits, DecodeResult.ok, DecodeResult.success] at failed

/-- Decoding a message adds serialization failures of its own. -/
theorem decodeMessage_serialization (registry : MessageRegistry τ) {codec : Codec τ ν}
    (serializes : codec.FailsBySerialization) (type : τ) (frame : Frame)
    (failed : (decodeMessage registry codec type frame).status ≠ .ok) :
    statusCategory (decodeMessage registry codec type frame).status = .serialization := by
  unfold decodeMessage decodeMessagePayload at failed ⊢
  split
  · exact decodeError_category
  · rename_i peeked
    simp only [peeked] at failed
    split
    · exact unknownMessageType_category
    · rename_i known
      rw [if_neg known] at failed
      exact serializes type _ (by simp [DecodeResult.ok, failed])

omit [DecidableEq τ] in
/-- A reply does not err. -/
theorem ReplyFrame.plain {frame : Frame} {stream : StreamId} (framed : ReplyFrame frame stream) :
    hasFlag frame.header.flags .error = false := by
  rw [framed.flags]
  decide

namespace ServerConnection

variable (server : ServerConnection ν)

/-- The event answers a frame with a status that the client's table does not have: the
frame arrives at a server that is shutting down, or a handler starts on a request that
cannot be decoded and the codec's status is not in the table; and the queue has room for
the answer. -/
def answersUnreadably (registry : MessageRegistry τ) (codec : Codec τ ν) : ServerEvent ν → Bool
  | .dispatchNext => server.reader.batch.head?.any fun frame =>
    server.isShuttingDown &&
      server.writeQueue.hasRoom (makeErrorFrame frame.header.stream .connectionClosed)
  | .startHandler invocation => server.invocations[invocation]?.any fun object =>
    let request := decodeMessage registry codec object.handler.request object.frame
    !request.ok && decide (request.status ∉ wireStatuses) &&
      server.writeQueue.hasRoom (makeErrorFrame object.stream request.status)
  | _ => false

/-- No frame is answered with a status that the client's table does not have. -/
def AnswersReadably (registry : MessageRegistry τ) (codec : Codec τ ν) (server : ServerConnection ν)
    (event : ServerEvent ν) : Prop :=
  server.answersUnreadably registry codec event = false

instance (registry : MessageRegistry τ) (codec : Codec τ ν) (server : ServerConnection ν)
    (event : ServerEvent ν) : Decidable (AnswersReadably registry codec server event) :=
  inferInstanceAs (Decidable (_ = _))

/-- Every error frame the queue has taken can be read. -/
def ErrorsReadable : Prop :=
  ∀ frame ∈ server.writeQueue.accepted, hasFlag frame.header.flags .error = true → frame.Readable

variable {server} {registry : MessageRegistry τ} {codec : Codec τ ν}

/-- A server that is shutting down and answers a frame answers it unreadably. -/
theorem refusal_unreadable {event : ServerEvent ν} {frame answer : Frame}
    (reads : server.Brings registry codec event (.reads frame))
    (concluded : server.Brings registry codec event (.concludes frame.header.stream [answer]))
    (drains : server.isShuttingDown = true) :
    server.answersUnreadably registry codec event = true := by
  cases reads with
  | reads _ rest dispatches reading =>
    subst dispatches
    have refused : server.refusal frame = some .connectionClosed := by simp [refusal, drains]
    cases concluded with
    | concludes _ _ concluded =>
      have taken : server.writeQueue.taken (makeErrorFrame frame.header.stream .connectionClosed) =
          [answer] := by
        simpa [conclusion, reading, Reader.batch, refused] using concluded
      rw [WriteQueue.taken_eq] at taken
      split at taken
      · rename_i room
        simp [answersUnreadably, reading, Reader.batch, drains, room]
      · simp at taken

/-- A handler that rejects its request with a status that the table does not have, by a
frame that the queue took, answers it unreadably. -/
theorem rejection_unreadable {event : ServerEvent ν} {invocation : Nat} {object : Invocation ν}
    {answer : Frame} (found : server.invocations[invocation]? = some object)
    (ended : server.Brings registry codec event (.ends invocation (.rejected [answer])))
    (unlisted : (decodeMessage registry codec object.handler.request object.frame).status ∉
      wireStatuses) : server.answersUnreadably registry codec event = true := by
  obtain ⟨rfl, failed, taken⟩ := ending_rejected (server.brings_ends ended) found
  rw [WriteQueue.taken_eq] at taken
  split at taken
  · rename_i room
    simp [answersUnreadably, found, failed, unlisted, room]
  · simp at taken

/-- A step that answers readably adds readable error frames only. The book names the
three places where error frames come from; the queue took each of them, so it had room. -/
theorem step_readable (serializes : codec.FailsBySerialization) (sound : server.book.Sound)
    (readable : server.ErrorsReadable) {event : ServerEvent ν} {after : ServerConnection ν}
    (stepped : server.step registry codec event = some after)
    (readably : AnswersReadably registry codec server event) : after.ErrorsReadable := by
  have grows (offered : List Frame)
      (accepted : after.writeQueue.accepted = server.writeQueue.accepted ++ offered)
      (fine : ∀ frame ∈ offered, hasFlag frame.header.flags .error = true → frame.Readable) :
      after.ErrorsReadable := by
    intro frame member errs
    rw [accepted] at member
    rcases List.mem_append.mp member with earlier | fresh
    · exact readable frame earlier errs
    · exact fine frame fresh errs
  have stays (same : after.book.accepted = server.book.accepted) : after.ErrorsReadable :=
    grows [] (same.trans (List.append_nil _).symm) (by simp)
  rcases server.step_book sound event after stepped with same | change
  · exact stays (congrArg Book.accepted same)
  · generalize book_eq : after.book = afterBook at change
    have accepted : after.writeQueue.accepted = afterBook.accepted := congrArg Book.accepted book_eq
    cases change with
    | answered frame status offered permitted refuses kind concluded =>
      apply grows offered accepted
      intro error member _
      rcases kind with rfl | rfl
      · simp at member
      · obtain rfl := List.mem_singleton.mp member
        cases refuses with
        | draining drains =>
          have unreadably := refusal_unreadable permitted concluded drains
          simp [AnswersReadably, unreadably] at readably
        | unreadable =>
          exact makeErrorFrame_readable _ (by decide) (serialization_sent decodeError_category)
        | unhandled =>
          exact makeErrorFrame_readable _ (by decide) (serialization_sent unknownMessageType_category)
    | undecodable invocation object status message offered permitted ends found spawned decoded
        failure kind =>
      apply grows offered accepted
      intro error member _
      rcases kind with rfl | rfl
      · simp at member
      · obtain rfl := List.mem_singleton.mp member
        have same : (decodeMessage registry codec object.handler.request object.frame).status =
            status := congrArg DecodeResult.status decoded
        have category := decodeMessage_serialization registry serializes
          object.handler.request object.frame (by rw [same]; exact failure)
        by_cases listed : status ∈ wireStatuses
        · exact makeErrorFrame_readable _ listed (serialization_sent (same ▸ category))
        · have unreadably := rejection_unreadable found ends (same ▸ listed)
          simp [AnswersReadably, unreadably] at readably
    | replied invocation object operation frame permitted ends found ready framed =>
      apply grows [frame] accepted
      intro reply member errs
      obtain rfl := List.mem_singleton.mp member
      simp [framed.plain] at errs
    | spawned | cancelled | accused | started | dropped | refused | suspended | lost =>
      exact stays accepted

omit [DecidableEq τ] in
/-- A frame that is dispatched while the server shuts down, with room for the answer, is
answered with one that cannot be read. -/
theorem dismissal_adds {frame : Frame} {rest : List Frame}
    (drains : server.isShuttingDown = true)
    (room : server.writeQueue.hasRoom (makeErrorFrame frame.header.stream .connectionClosed) = true) :
    makeErrorFrame frame.header.stream .connectionClosed ∈
      (server.dispatchFrame frame rest).writeQueue.accepted := by
  have refused : server.refusal frame = some .connectionClosed := by simp [refusal, drains]
  rw [dispatchFrame_accepted, rejects, refused, Option.elim_some, WriteQueue.taken_eq, if_pos room]
  simp

/-- A request that cannot be decoded is answered with the status of the decoder, if there
is room for the answer. -/
theorem rejection_adds {invocation : Nat} {object : Invocation ν}
    (found : server.invocations[invocation]? = some object)
    (failed : (decodeMessage registry codec object.handler.request object.frame).ok = false)
    (room : server.writeQueue.hasRoom (makeErrorFrame object.stream
      (decodeMessage registry codec object.handler.request object.frame).status) = true) :
    makeErrorFrame object.stream
        (decodeMessage registry codec object.handler.request object.frame).status ∈
      (server.startHandler registry codec invocation object).writeQueue.accepted := by
  unfold startHandler
  dsimp only
  rw [if_neg (by simp [failed])]
  generalize request : decodeMessage registry codec object.handler.request object.frame = result
  rw [request] at room
  let told := (server.callOperation invocation fun operation =>
    operation.fail result.status result.message).1
  have again : told.writeQueue = server.writeQueue := server.callOperation_queue invocation _
  have refound : (told.sendOperationError object.stream result.status).invocations[invocation]? =
      some { object with operation := (object.operation.fail result.status result.message).1 } := by
    change told.invocations[invocation]? = _
    simp only [told, callOperation, found]
    rw [getElem?_set_found _ found, if_pos rfl]
  have ended := congrArg Book.accepted
    ((told.sendOperationError object.stream result.status).finishHandler_book refound)
  have sent := congrArg Book.accepted (told.sendOperationError_book object.stream result.status)
  rw [again, WriteQueue.taken_eq, if_pos room] at sent
  change _ ∈ ((told.sendOperationError object.stream result.status).finishHandler
    invocation).book.accepted
  rw [ended]
  change _ ∈ (told.sendOperationError object.stream result.status).book.accepted
  rw [sent]
  exact List.mem_append_right _ (List.mem_singleton_self _)

/-- An event that answers unreadably adds an error frame that cannot be read. -/
theorem unreadable_added {event : ServerEvent ν} {after : ServerConnection ν}
    (stepped : server.step registry codec event = some after)
    (unreadably : server.answersUnreadably registry codec event = true) :
    ∃ frame ∈ after.writeQueue.accepted, hasFlag frame.header.flags .error = true ∧
      ¬ frame.Readable := by
  cases event with
  | dispatchNext =>
    simp only [answersUnreadably, Option.any_eq_true, Bool.and_eq_true] at unreadably
    obtain ⟨frame, first, drains, room⟩ := unreadably
    obtain ⟨rest, reading⟩ : ∃ rest, server.reader = .dispatching (frame :: rest) := by
      cases reader : server.reader with
      | dispatching batch =>
        cases batch with
        | nil => simp [Reader.batch, reader] at first
        | cons head rest =>
          obtain rfl : head = frame := by simpa [Reader.batch, reader] using first
          exact ⟨rest, rfl⟩
      | _ => simp [Reader.batch, reader] at first
    have moved : after = server.dispatchFrame frame rest := by
      simpa [step, reading] using stepped.symm
    subst moved
    exact ⟨_, dismissal_adds drains room, makeErrorFrame_errs _ _,
      makeErrorFrame_unreadable _ connectionClosed_unlisted⟩
  | startHandler invocation =>
    simp only [answersUnreadably, Option.any_eq_true, Bool.and_eq_true, Bool.not_eq_true',
      decide_eq_true_eq] at unreadably
    obtain ⟨object, found, ⟨failed, unlisted⟩, room⟩ := unreadably
    cases server.step_acts stepped (by simp) with
    | startHandler _ started present spawned =>
      obtain rfl : object = started := Option.some.inj (found.symm.trans present)
      exact ⟨_, rejection_adds found failed room, makeErrorFrame_errs _ _,
        makeErrorFrame_unreadable _ unlisted⟩
  | _ => simp [answersUnreadably] at unreadably

theorem Reachable.readable (serializes : codec.FailsBySerialization) {limits : WriteQueueLimits}
    (reachable : Reachable registry codec (AnswersReadably registry codec) limits server) :
    server.ErrorsReadable := by
  apply Reachability.Reaches.invariant_of_reached ErrorsReadable ?_ ?_ reachable
  · intro frame member
    simp [create] at member
  · intro before event after reached readable readably stepped
    exact step_readable serializes (Reachable.wired reached).sound readable stepped readably

omit [DecidableEq τ] in
/-- The error frames of a server are responses and nothing else. -/
theorem error_frame (sound : server.book.Sound) {frame : Frame}
    (member : frame ∈ server.writeQueue.accepted)
    (errs : hasFlag frame.header.flags .error = true) :
    ∃ stream status, frame = makeErrorFrame stream status := by
  obtain ⟨position, present⟩ := List.mem_iff_getElem?.mp member
  rcases sound.answers position frame present with ⟨request, -, status, rfl⟩ |
    ⟨invocation, object, found, replied⟩
  · exact ⟨_, status, rfl⟩
  · obtain ⟨-, reply, again, framed⟩ := sound.reply invocation object position found replied
    obtain rfl : frame = reply := Option.some.inj (present.symm.trans again)
    simp [framed.plain] at errs

end ServerConnection

end Errors

namespace ClientConnection

variable {τ : Type} {ν : τ → Type}

/-- One operation failed because its peer rejected it, and nothing else happened. -/
structure FailsJust (client : ClientConnection ν) (request : Nat) (stream : StreamId)
    (status : StatusCode) (after : ClientConnection ν) : Prop where
  failed : ∃ object, after.requests[request]? = some object ∧ object.operation.state = .failed ∧
    object.operation.result = some (.failure status "peer rejected the operation")
  confined : Confined request stream false client after
  spared : after.violations = client.violations

variable {client : ClientConnection ν} {request : Nat} {frame : Frame} {status : StatusCode}

/-- A listed operation fails with the status of an error frame. -/
theorem dispatch_rejected (consistent : client.ledger.Consistent)
    (entry : client.pending.lookup frame.header.stream = some request)
    (response : frame.header.type = .response)
    (kept : hasFlag frame.header.flags .cancel = false)
    (errs : hasFlag frame.header.flags .error = true)
    (decoded : decodeErrorStatus frame = some status)
    (unmarked : frame.header.stream ∉ client.terminalStreams) :
    client.FailsJust request frame.header.stream status (client.dispatch frame) := by
  have routed : client.dispatch frame =
      (client.failRequest request status "peer rejected the operation" true).markTerminal frame := by
    simp [dispatch, response, entry, unmarked, kept, errs, decoded]
  obtain ⟨object, found, placed, active, -⟩ := consistent.entry frame.header.stream request entry
  have found : client.requests[request]? = some object := found
  have here : client.streamOf request = frame.header.stream := by simp [streamOf, found, placed]
  have failure := decodeErrorStatus_failure frame status decoded
  obtain ⟨wins, fails⟩ :=
    object.operation.fail_fails status "peer rejected the operation" failure active
  have ledger := client.failed_ledger
    (fun operation => operation.fail status "peer rejected the operation") _ true found
    (consistent.sane request object found) (client.listed_of_consistent consistent found) wins fails
  let rejected := object.failedWith
    (object.operation.fail status "peer rejected the operation").1
    (.failure status "peer rejected the operation") true
  have requests : ((client.failRequest request status "peer rejected the operation"
      true).markTerminal frame).requests = client.requests.set request rejected := by
    refine Eq.trans ?_ (congrArg Ledger.requests ledger)
    unfold markTerminal
    split <;> rfl
  have violations : ((client.failRequest request status "peer rejected the operation"
      true).markTerminal frame).violations = client.violations := by
    refine Eq.trans ?_ (congrArg Ledger.violations ledger)
    unfold markTerminal
    split <;> rfl
  rw [routed]
  have operation : rejected.operation =
      (object.operation.fail status "peer rejected the operation").1 := rfl
  refine ⟨⟨rejected, ?_, ?_, ?_⟩, ?_, violations⟩
  · rw [requests]
    exact (getElem?_set_found _ found request).trans (if_pos rfl)
  · rw [operation, object.operation.fail_eq status _ failure, if_pos active]
  · rw [operation]
    exact fails.committed
  · exact (client.failRequest_confined request _ here status _ true).silently
      (markTerminal_confined request _ _ frame)

/-- A client that reads an error frame for a listed operation fails just this operation,
unless it has read a terminal frame on the stream before. -/
theorem reads_rejection [DecidableEq τ] {registry : MessageRegistry τ} {codec : Codec τ ν}
    {rest : List Frame} {after : ClientConnection ν} (consistent : client.ledger.Consistent)
    (reading : client.reader = .dispatching (frame :: rest))
    (entry : client.pending.lookup frame.header.stream = some request)
    (response : frame.header.type = .response)
    (kept : hasFlag frame.header.flags .cancel = false)
    (errs : hasFlag frame.header.flags .error = true)
    (decoded : decodeErrorStatus frame = some status)
    (stepped : client.step registry codec .dispatchNext = some after) :
    frame.header.stream ∉ client.terminalStreams ↔
      client.FailsJust request frame.header.stream status after := by
  obtain rfl : client.dispatchFrame frame rest = after := by simpa [step, reading] using stepped
  let noted := client.notify
    { type := .messageTransferred, stream := frame.header.stream, inbound := true }
  constructor
  · intro unmarked
    obtain ⟨failed, confined, spared⟩ : noted.FailsJust request frame.header.stream status
        (noted.dispatch frame) :=
      dispatch_rejected consistent entry response kept errs decoded unmarked
    exact ⟨failed, ⟨confined.others, confined.entries, confined.allocated, confined.lifecycle,
      confined.transport, confined.queue, confined.home⟩, spared⟩
  · intro fails marked
    have routed : noted.dispatch frame =
        noted.failConnection .malformedFrame "duplicate terminal frame" := by
      have entry : noted.pending.lookup frame.header.stream = some request := entry
      have marked : frame.header.stream ∈ noted.terminalStreams := marked
      simp [dispatch, response, entry, marked]
    have spared : (noted.dispatch frame).violations = noted.violations := fails.spared
    rw [routed] at spared
    exact noted.failConnection_violations _ _ spared

end ClientConnection

namespace ServerConnection

section Readable

variable {τ : Type} [DecidableEq τ] {ν : τ → Type} {registry : MessageRegistry τ}
variable {codec : Codec τ ν} {limits : WriteQueueLimits} {server : ServerConnection ν}

/-- Error frames that a client can read. As long as no frame is answered with a status that
the client's table does not have, every frame with the error flag that the server enqueues
carries a status that the table has and that may be sent to a peer, whatever the peer and
the registry are, and for any codec that fails with statuses of the serialization category.
A client that reads the frame for a listed operation fails just this operation with the
status, unless a terminal frame was read on the stream before. A step enqueues an error
frame that cannot be read if and only if it answers with a status outside the table. -/
theorem error_frames_readable (serializes : codec.FailsBySerialization)
    (reachable : Reachable registry codec (AnswersReadably registry codec) limits server) :
    (∀ frame ∈ server.writeQueue.accepted, hasFlag frame.header.flags .error = true →
      ∃ status, decodeErrorStatus frame = some status ∧
        (errorDisposition status).sendToPeer = true ∧
        ∀ (σ : Type) [DecidableEq σ] (μ : σ → Type) (clientRegistry : MessageRegistry σ)
          (clientCodec : Codec σ μ) (clientLimits : WriteQueueLimits) (maximumStreamId : UInt64)
          (client after : ClientConnection μ) (request : Nat) (rest : List Frame),
          ClientConnection.Reachable clientRegistry clientCodec Reachability.unguarded clientLimits
            maximumStreamId client →
          client.reader = .dispatching (frame :: rest) →
          client.pending.lookup frame.header.stream = some request →
          client.step clientRegistry clientCodec .dispatchNext = some after →
          (frame.header.stream ∉ client.terminalStreams ↔
            client.FailsJust request frame.header.stream status after)) ∧
    ∀ event after, server.step registry codec event = some after →
      (server.answersUnreadably registry codec event = true ↔
        ∃ frame ∈ after.writeQueue.accepted, hasFlag frame.header.flags .error = true ∧
          ¬ ∃ status, decodeErrorStatus frame = some status ∧
            (errorDisposition status).sendToPeer = true) := by
  constructor
  · intro frame member errs
    obtain ⟨status, decoded, sent⟩ := reachable.readable serializes frame member errs
    refine ⟨status, decoded, sent, ?_⟩
    intro σ _ μ clientRegistry clientCodec clientLimits maximumStreamId client after request rest
      reached reading entry stepped
    obtain ⟨stream, carried, rfl⟩ := error_frame reachable.wired.sound member errs
    have kept : hasFlag (makeErrorFrame stream carried).header.flags .cancel = false := by
      change hasFlag (.error ||| .endOfStream) .cancel = false
      decide
    exact ClientConnection.reads_rejection reached.consistent reading entry rfl kept errs decoded
      stepped
  · intro event after stepped
    constructor
    · exact unreadable_added stepped
    · rintro ⟨frame, member, errs, unreadable⟩
      by_contra listed
      have readably : AnswersReadably registry codec server event := by
        simpa [AnswersReadably] using listed
      have next : Reachable registry codec (AnswersReadably registry codec) limits after :=
        .next reachable readably stepped
      exact unreadable (next.readable serializes frame member errs)

end Readable

/-- A request nobody handles is rejected, and later the server shuts down. -/
def unhandledRequest : Option (ServerConnection fun _ : Unit => UInt8) :=
  Reachability.run (step byteRegistry byteCodec) (AnswersReadably byteRegistry byteCodec) (create {})
    [.run, .startWriter, .startReader,
      .received (FrameGrammar.encodeFrames [byteRequest 1 5 .none]), .dispatchNext, .dispatchNext,
      .shutdown true]

/-- The client has read the rejection of its first request. -/
def rejectionArrived : Option (ClientConnection fun _ : Unit => UInt8) :=
  Reachability.run (ClientConnection.step byteRegistry byteCodec) Reachability.unguarded
    (ClientConnection.create {} 0xFFFFFFFFFFFFFFFF)
    [.run, .startWriter, .startReader, .startRequest () 5 () none, .startRequest () 6 () none,
      .received (encodeFrame (makeErrorFrame ⟨1⟩ .unknownMessageType))]

/-- The client fails the first request with the status the server chose, and no other. -/
theorem error_frames_readable_unhandled :
    ∃ server client after, unhandledRequest = some server ∧
      server.writeQueue.accepted = [makeErrorFrame ⟨1⟩ .unknownMessageType] ∧
      rejectionArrived = some client ∧
      client.step byteRegistry byteCodec .dispatchNext = some after ∧
      client.FailsJust 0 ⟨1⟩ .unknownMessageType after := by
  have sends : unhandledRequest.map (fun server => server.writeQueue.accepted) =
      some [makeErrorFrame ⟨1⟩ .unknownMessageType] := by
    decide +kernel
  have reads : rejectionArrived.bind (fun client =>
      (client.step byteRegistry byteCodec .dispatchNext).map fun _ =>
        (decide (client.reader = .dispatching [makeErrorFrame ⟨1⟩ .unknownMessageType]),
          client.pending.lookup ⟨1⟩, decide (⟨1⟩ ∈ client.terminalStreams))) =
      some (true, some 0, false) := by
    decide +kernel
  obtain ⟨server, served, accepted⟩ := Option.map_eq_some_iff.mp sends
  obtain ⟨client, reached, read⟩ := Option.bind_eq_some_iff.mp reads
  obtain ⟨after, stepped, facts⟩ := Option.map_eq_some_iff.mp read
  obtain ⟨reading, entry, unmarked⟩ : _ ∧ _ ∧ _ := by simpa only [Prod.mk.injEq] using facts
  obtain ⟨status, decoded, -, rejects⟩ :=
    (error_frames_readable (podCodec_serialization _ _ _)
      (Reachability.run_reaches _ _ _ _ _ served)).1
      (makeErrorFrame ⟨1⟩ .unknownMessageType) (by simp [accepted]) (makeErrorFrame_errs _ _)
  obtain rfl : StatusCode.unknownMessageType = status := Option.some.inj decoded
  refine ⟨server, client, after, served, accepted, reached, stepped, ?_⟩
  exact (rejects Unit (fun _ => UInt8) byteRegistry byteCodec {} 0xFFFFFFFFFFFFFFFF client after 0 []
    (Reachability.run_reaches _ _ _ _ _ reached) (of_decide_eq_true reading) entry stepped).mp
    (of_decide_eq_false unmarked)

/-- A handler is still at work when the server is asked to shut down, and another request
arrives. -/
def dismissedRequest : Option (ServerConnection fun _ : Unit => UInt8) :=
  Reachability.run (step byteRegistry byteCodec) Reachability.unguarded (create {})
    (serverReads [byteRequest 1 5 .none] ++ [.dispatchNext, .dispatchNext, .shutdown false,
      .received (FrameGrammar.encodeFrames [byteRequest 3 6 .none]), .dispatchNext])

/-- The second request is answered with an error frame whose status is not to be sent and
is not in the client's table. -/
theorem dismissal_unreadable :
    byteCodec.FailsBySerialization ∧
    ∃ server, Reachable byteRegistry byteCodec Reachability.unguarded {} server ∧
      ∃ frame ∈ server.writeQueue.accepted, frame = makeErrorFrame ⟨3⟩ .connectionClosed ∧
        hasFlag frame.header.flags .error = true ∧ decodeErrorStatus frame = none ∧
        (errorDisposition .connectionClosed).sendToPeer = false := by
  have reads : dismissedRequest.map (fun server => server.writeQueue.accepted) =
      some [makeErrorFrame ⟨3⟩ .connectionClosed] := by
    decide +kernel
  obtain ⟨server, reached, accepted⟩ := Option.map_eq_some_iff.mp reads
  refine ⟨podCodec_serialization _ _ _, server, Reachability.run_reaches _ _ _ _ _ reached,
    makeErrorFrame ⟨3⟩ .connectionClosed, ?_, rfl, makeErrorFrame_errs _ _, rfl, by decide⟩
  simp [accepted]

end ServerConnection

end Rillnet
