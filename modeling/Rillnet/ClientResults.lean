import Rillnet.ClientSteps

/-!
# Results of client operations

An operation is decided by the first of its competing events, and the channel
carries what was decided. Each object is in one of three phases: undecided with
every wait in line, answered with its frame on the way to the first wait, or
failed with a closed channel. Every change of the ledger moves an object within
or between phases, and never back.

Waits aborted by the executor are left out here: an aborted wait cleans up a
request that nobody has decided.
-/

namespace Rillnet

section Results

variable {τ : Type} [DecidableEq τ] {ν : τ → Type}
variable (registry : MessageRegistry τ) (codec : Codec τ ν)

namespace PendingRequest

/-- What the changes of a ledger do to one object. Whether waits may be aborted
and which frames may answer it are parameters. -/
inductive Evolves (aborts : Prop) (answers : Nat → Frame → Prop) (request : PendingRequest ν) :
    PendingRequest ν → Prop where
  | same : Evolves aborts answers request request
  | started (starting : request.owner = .starting) (index : Nat) :
      Evolves aborts answers request (request.started index)
  | refused (starting : request.owner = .starting) (operation : Operation StreamId)
      (status : StatusCode) (message : String)
      (fails : FailsWith request.operation operation (.failure status message)) :
      Evolves aborts answers request (Ledger.refusedObject
        (request.failedWith operation (.failure status message) true) status message)
  | refusedLate (starting : request.owner = .starting) (inactive : request.operation.state ≠ .active)
      (status : StatusCode) (message : String) :
      Evolves aborts answers request
        (Ledger.refusedObject (request.closeChannel.cleaned true) status message)
  | touched (new : PendingRequest ν) (touch : request.Touch aborts new) :
      Evolves aborts answers request new
  | failed (operation : Operation StreamId) (result : OperationResult) (release : Bool)
      (fails : FailsWith request.operation operation result) :
      Evolves aborts answers request (request.failedWith operation result release)
  | dropped (inactive : request.operation.state ≠ .active) :
      Evolves aborts answers request (request.cleaned true)
  | returned (wait : Nat) (posted : Option Frame) (member : (wait, posted) ∈ request.resumed) :
      Evolves aborts answers request (Ledger.returnedObject registry codec request wait posted)
  | completed (active : request.operation.state = .active) (position : Nat) (frame : Frame)
      (answered : answers position frame) :
      Evolves aborts answers request (request.completedWith position frame)

/-- Nothing was decided: the channel is open and empty, and every call of
`async_wait` is still in line. -/
def Undecided (request : PendingRequest ν) : Prop :=
  request.operation.state = .active ∧ request.removed = false ∧ request.operation.result = none ∧
    request.settled = [] ∧ request.delivered = [] ∧ request.resumed = [] ∧
    request.returned = [] ∧ request.channel.closed = false ∧ request.channel.buffer = [] ∧
    request.channel.waiting = List.range request.waits

/-- The frame lies in the channel until somebody waits. -/
def Stored (request : PendingRequest ν) (frame : Frame) : Prop :=
  request.waits = 0 ∧ request.channel.buffer = [frame] ∧ request.resumed = [] ∧
    request.returned = [] ∧
    (request.channel.closed = false ∨ ∃ status message, request.owner = .refused status message)

/-- The frame was handed to the first wait, which has not run yet. -/
def Posted (request : PendingRequest ν) (frame : Frame) : Prop :=
  0 < request.waits ∧ request.channel.closed = false ∧ request.channel.buffer = [] ∧
    request.resumed = [(0, some frame)] ∧ request.returned = []

/-- The first wait returned the decoded frame. -/
def Returned (request : PendingRequest ν) (frame : Frame) : Prop :=
  0 < request.waits ∧ request.channel.closed = false ∧ request.channel.buffer = [] ∧
    request.resumed = [] ∧
    request.returned = [(0, decodeMessage registry codec request.response frame)]

/-- A response won, and its frame is on its way to the first wait. -/
def Answered (request : PendingRequest ν) : Prop :=
  ∃ position frame, request.operation.state = .completed ∧
    request.operation.result = some (.success "response received") ∧
    request.settled = [.success "response received"] ∧
    request.delivered = [(position, frame)] ∧
    (request.Stored frame ∨ request.Posted frame ∨ request.Returned registry codec frame)

/-- Something else won, and every wait learns what. -/
def Failed (request : PendingRequest ν) : Prop :=
  ∃ result : OperationResult,
    (request.operation.state = .failed ∨ request.operation.state = .cancelled) ∧
    request.operation.result = some result ∧ result.status ≠ .ok ∧ request.settled = [result] ∧
    request.delivered = [] ∧ request.channel.closed = true ∧ request.channel.buffer = [] ∧
    (∀ entry ∈ request.resumed, entry.2 = none) ∧
    (∀ entry ∈ request.returned, entry.2 = .failure result.status result.message) ∧
    ∀ wait < request.waits,
      wait ∈ request.resumed.map Prod.fst ∨ wait ∈ request.returned.map Prod.fst

/-- The channel and the operation tell the same story. -/
structure Faithful (request : PendingRequest ν) : Prop where
  capacity : request.channel.capacity = 1
  unstarted : request.owner = .starting → request.waits = 0
  phase : request.Undecided ∨ request.Answered registry codec ∨ request.Failed

section Preservation

variable {registry codec} {request : PendingRequest ν}

omit [DecidableEq τ] in
/-- A new object is undecided. -/
theorem create_undecided (stream : StreamId) (response : τ) (deadline : Option Deadline) :
    (create stream response deadline : PendingRequest ν).Undecided :=
  ⟨rfl, rfl, rfl, rfl, rfl, rfl, rfl, rfl, rfl, rfl⟩

theorem create_faithful (stream : StreamId) (response : τ) (deadline : Option Deadline) :
    (create stream response deadline : PendingRequest ν).Faithful registry codec where
  capacity := rfl
  unstarted := fun _ => rfl
  phase := Or.inl (create_undecided stream response deadline)

/-- An active operation is undecided. -/
theorem Faithful.undecided (faithful : request.Faithful registry codec)
    (active : request.operation.state = .active) : request.Undecided := by
  rcases faithful.phase with undecided | ⟨_, _, completed, -⟩ | ⟨_, failed | cancelled, -⟩
  · exact undecided
  · simp [completed] at active
  · simp [failed] at active
  · simp [cancelled] at active

/-- A settled operation was answered or failed. -/
theorem Faithful.decided (faithful : request.Faithful registry codec)
    (inactive : request.operation.state ≠ .active) :
    request.Answered registry codec ∨ request.Failed := by
  rcases faithful.phase with undecided | decided
  · exact absurd undecided.1 inactive
  · exact decided

/-- Failing an undecided operation closes the channel; every wait in line is
resumed with an error. -/
theorem Faithful.failedWith (faithful : request.Faithful registry codec)
    {operation : Operation StreamId} {result : OperationResult} (release : Bool)
    (fails : FailsWith request.operation operation result) :
    (request.failedWith operation result release).Failed := by
  obtain ⟨-, -, -, settled, delivered, resumed, returned, -, vacant, line⟩ :=
    faithful.undecided fails.active
  refine ⟨result, fails.state, fails.committed, fails.failure, ?_, delivered, rfl, vacant, ?_, ?_,
    ?_⟩
  · change request.settled ++ [result] = [result]
    rw [settled]
    rfl
  · intro entry member
    have posted : entry ∈ request.resumed ++ request.channel.waiting.map fun wait => (wait, none) :=
      member
    rw [resumed, List.nil_append] at posted
    obtain ⟨wait, -, rfl⟩ := List.mem_map.mp posted
    rfl
  · intro entry member
    have before : entry ∈ request.returned := member
    rw [returned] at before
    exact absurd before List.not_mem_nil
  · intro wait begun
    have begun : wait < request.waits := begun
    left
    change wait ∈ (request.resumed ++ request.channel.waiting.map fun wait => (wait, none)).map
      Prod.fst
    simpa [line] using Or.inr begun

omit [DecidableEq τ] in
/-- An open and empty channel takes a frame. -/
theorem trySend_accepted (capacity : request.channel.capacity = 1)
    (notClosed : request.channel.closed = false) (vacant : request.channel.buffer = [])
    (frame : Frame) : ∃ sent, request.channel.trySend frame = some sent := by
  cases sent : request.channel.trySend frame with
  | some taken => exact ⟨taken, rfl⟩
  | none =>
    rcases (request.channel.trySend_refused_iff frame).mp sent with closed | ⟨-, full⟩
    · simp [notClosed] at closed
    · rw [capacity, vacant] at full
      simp at full

/-- A response goes into the channel, or to the first wait in line. -/
theorem Faithful.completedWith (faithful : request.Faithful registry codec)
    (active : request.operation.state = .active) (position : Nat) (frame : Frame) :
    (request.completedWith position frame).Answered registry codec := by
  obtain ⟨-, -, -, settled, delivered, resumed, returned, notClosed, vacant, line⟩ :=
    faithful.undecided active
  obtain ⟨⟨channel, receiver⟩, sent⟩ := trySend_accepted faithful.capacity notClosed vacant frame
  have new_eq : request.completedWith position frame = ({ request with
      operation := request.completedOperation
      settled := request.settled ++ [OperationResult.success "response received"]
      timer := request.timer.cancel
      channel := channel
      resumed := request.resumed ++ receiver.toList.map fun wait => (wait, some frame)
      delivered := request.delivered ++ [(position, frame)] } : PendingRequest ν).cleaned true := by
    unfold PendingRequest.completedWith PendingRequest.trySend
    simp only [sent]
  rw [new_eq]
  refine ⟨position, frame, rfl, rfl, ?_, ?_, ?_⟩
  · simp [cleaned, settled]
  · simp [cleaned, delivered]
  · cases receiver with
    | none =>
      obtain ⟨-, idle, -, buffer, stillOpen, -⟩ := request.channel.trySend_buffered channel frame sent
      have nobody : request.waits = 0 := by
        have lengths := congrArg List.length (idle.symm.trans line)
        simpa using lengths.symm
      left
      refine ⟨nobody, ?_, ?_, returned, Or.inl stillOpen⟩
      · change channel.buffer = [frame]
        rw [buffer, vacant]
        rfl
      · simp [cleaned, resumed]
    | some wait =>
      obtain ⟨-, waiting, -, buffer, stillOpen, -⟩ :=
        request.channel.trySend_handed channel frame wait sent
      have first : wait = 0 ∧ 0 < request.waits := by
        rw [line] at waiting
        cases count : request.waits with
        | zero => simp [count] at waiting
        | succ others =>
          rw [count, List.range_succ_eq_map] at waiting
          exact ⟨(List.cons.inj waiting).1.symm, Nat.succ_pos others⟩
      right
      left
      refine ⟨first.2, stillOpen, buffer, ?_, returned⟩
      simp [cleaned, resumed, first.1]

omit [DecidableEq τ] in
/-- At an open and empty channel a call of `async_wait` joins the line. -/
theorem asyncWait_joins (notClosed : request.channel.closed = false)
    (vacant : request.channel.buffer = []) :
    ∃ channel, request.asyncWait = { request with
        channel := channel
        waits := request.waits + 1
        resumed := request.resumed ++ [] } ∧
      channel.closed = false ∧ channel.buffer = [] ∧
      channel.waiting = request.channel.waiting ++ [request.waits] ∧
      channel.capacity = request.channel.capacity := by
  obtain ⟨channel, asked⟩ := request.channel.receive_vacant request.waits vacant notClosed
  obtain ⟨-, -, buffer, closed, waiting, capacity⟩ :=
    request.channel.receive_suspended channel request.waits asked
  exact ⟨channel, by simp only [asyncWait, asked], closed, buffer, waiting, capacity⟩

/-- A call of `async_wait` joins the line, takes the frame that lies in the
channel, or learns that the channel is closed. -/
theorem Faithful.asyncWait (faithful : request.Faithful registry codec)
    (handle : request.owner = .handle) : request.asyncWait.Faithful registry codec := by
  have unowned : ∀ other : PendingRequest ν, other.owner = request.owner →
      other.owner = .starting → other.waits = 0 := by
    intro other same starting
    rw [same, handle] at starting
    simp at starting
  rcases faithful.phase with
    ⟨active, live, result, settled, delivered, resumed, returned, notClosed, vacant, line⟩ |
    ⟨position, frame, completed, result, settled, delivered, stage⟩ |
    ⟨result, inactive, committed, failure, settled, delivered, closed, vacant, resumed, returned, heard⟩
  · obtain ⟨channel, new_eq, stillOpen, buffer, waiting, capacity⟩ :=
      asyncWait_joins notClosed vacant
    rw [new_eq]
    refine ⟨capacity.trans faithful.capacity, unowned _ rfl, Or.inl ⟨active, live, result, settled,
      delivered, ?_, returned, stillOpen, buffer, ?_⟩⟩
    · simp [resumed]
    · change channel.waiting = List.range (request.waits + 1)
      rw [waiting, line, List.range_succ]
  · rcases stage with ⟨nobody, stored, resumed, returned, stillOpen⟩ |
      ⟨-, notClosed, vacant, resumed, returned⟩ | ⟨-, notClosed, vacant, resumed, returned⟩
    · have notClosed : request.channel.closed = false := by
        rcases stillOpen with notClosed | ⟨status, message, refused⟩
        · exact notClosed
        · simp [handle] at refused
      obtain ⟨channel, asked⟩ := request.channel.receive_buffered frame request.waits [] stored
      obtain ⟨buffered, -, -, closed, capacity⟩ :=
        request.channel.receive_message channel frame request.waits asked
      have new_eq : request.asyncWait = { request with
          channel := channel
          waits := request.waits + 1
          resumed := request.resumed ++ [(request.waits, some frame)] } := by
        simp only [PendingRequest.asyncWait, asked]
      rw [new_eq]
      refine ⟨capacity.trans faithful.capacity, unowned _ rfl, Or.inr (Or.inl ⟨position, frame,
        completed, result, settled, delivered, Or.inr (Or.inl ⟨Nat.succ_pos _,
          closed.trans notClosed, ?_, ?_, returned⟩)⟩)⟩
      · rw [stored] at buffered
        exact (List.cons.inj buffered).2.symm
      · simp [resumed, nobody]
    · obtain ⟨channel, new_eq, stillOpen, buffer, -, capacity⟩ := asyncWait_joins notClosed vacant
      rw [new_eq]
      refine ⟨capacity.trans faithful.capacity, unowned _ rfl, Or.inr (Or.inl ⟨position, frame,
        completed, result, settled, delivered, Or.inr (Or.inl ⟨Nat.succ_pos _, stillOpen, buffer,
          ?_, returned⟩)⟩)⟩
      simp [resumed]
    · obtain ⟨channel, new_eq, stillOpen, buffer, -, capacity⟩ := asyncWait_joins notClosed vacant
      rw [new_eq]
      refine ⟨capacity.trans faithful.capacity, unowned _ rfl, Or.inr (Or.inl ⟨position, frame,
        completed, result, settled, delivered, Or.inr (Or.inr ⟨Nat.succ_pos _, stillOpen, buffer,
          ?_, returned⟩)⟩)⟩
      simp [resumed]
  · have asked := request.channel.receive_ended request.waits vacant closed
    have new_eq : request.asyncWait = { request with
        channel := request.channel
        waits := request.waits + 1
        resumed := request.resumed ++ [(request.waits, none)] } := by
      simp only [PendingRequest.asyncWait, asked]
    rw [new_eq]
    refine ⟨faithful.capacity, unowned _ rfl, Or.inr (Or.inr ⟨result, inactive, committed, failure,
      settled, delivered, closed, vacant, ?_, returned, ?_⟩)⟩
    · intro entry member
      rcases List.mem_append.mp member with before | last
      · exact resumed entry before
      · rw [List.mem_singleton.mp last]
    · intro wait begun
      rcases Nat.lt_succ_iff_lt_or_eq.mp begun with before | rfl
      · rcases heard wait before with posted | returned
        · exact Or.inl (by simpa using Or.inl (by simpa using posted))
        · exact Or.inr returned
      · exact Or.inl (by simp)

/-- A resumed wait returns the decoded frame or the stored failure. -/
theorem Faithful.returned (faithful : request.Faithful registry codec) (wait : Nat)
    (posted : Option Frame) (member : (wait, posted) ∈ request.resumed) :
    (Ledger.returnedObject registry codec request wait posted).Faithful registry codec := by
  refine ⟨faithful.capacity, faithful.unstarted, ?_⟩
  rcases faithful.phase with
    ⟨-, -, -, -, -, resumed, -⟩ | ⟨position, frame, completed, result, settled, delivered, stage⟩ |
    ⟨result, inactive, committed, failure, settled, delivered, closed, vacant, resumed, returned, heard⟩
  · rw [resumed] at member
    exact absurd member List.not_mem_nil
  · right
    left
    rcases stage with ⟨-, -, resumed, -⟩ | ⟨waited, notClosed, vacant, resumed, returned⟩ |
      ⟨-, -, -, resumed, -⟩
    · rw [resumed] at member
      exact absurd member List.not_mem_nil
    · obtain ⟨rfl, rfl⟩ : wait = 0 ∧ posted = some frame := by
        rw [resumed] at member
        simpa using member
      refine ⟨position, frame, completed, result, settled, delivered,
        Or.inr (Or.inr ⟨waited, notClosed, vacant, ?_, ?_⟩)⟩
      · change request.resumed.erase (0, some frame) = []
        rw [resumed]
        simp
      · change request.returned ++ [(0, decodeMessage registry codec request.response frame)] = _
        rw [returned]
        rfl
    · rw [resumed] at member
      exact absurd member List.not_mem_nil
  · right
    right
    have error : posted = none := resumed (wait, posted) member
    subst error
    refine ⟨result, inactive, committed, failure, settled, delivered, closed, vacant, ?_, ?_, ?_⟩
    · intro entry remaining
      exact resumed entry (List.mem_of_mem_erase remaining)
    · intro entry reported
      rcases List.mem_append.mp reported with before | last
      · exact returned entry before
      · rw [List.mem_singleton.mp last]
        change waitOutcome registry codec
          ({ request with resumed := request.resumed.erase (wait, none) }.cleaned true) none = _
        simp only [waitOutcome, PendingRequest.cleaned, committed]
        rfl
    · intro other begun
      have returns : (Ledger.returnedObject registry codec request wait none).returned.map Prod.fst =
          request.returned.map Prod.fst ++ [wait] := List.map_append
      rw [returns]
      rcases heard other begun with posted | returned
      · by_cases same : other = wait
        · exact Or.inr (by simp [same])
        · obtain ⟨entry, present, rfl⟩ := List.mem_map.mp posted
          left
          refine List.mem_map.mpr ⟨entry, ?_, rfl⟩
          exact (List.mem_erase_of_ne (fun eq => same (congrArg Prod.fst eq))).mpr present
      · exact Or.inr (List.mem_append_left _ returned)

/-- The queue refused a request that was settled before: nobody waits, and what
lies in the channel stays there. -/
theorem Faithful.refusedLate (faithful : request.Faithful registry codec)
    (starting : request.owner = .starting) (inactive : request.operation.state ≠ .active)
    (status : StatusCode) (message : String) :
    (Ledger.refusedObject (request.closeChannel.cleaned true) status message).Faithful registry
      codec := by
  have nobody := faithful.unstarted starting
  refine ⟨faithful.capacity, fun _ => nobody, Or.inr ?_⟩
  rcases faithful.decided inactive with
    ⟨position, frame, completed, result, settled, delivered, stage⟩ |
    ⟨result, inactive, committed, failure, settled, delivered, closed, vacant, resumed, returned, heard⟩
  · left
    refine ⟨position, frame, completed, result, settled, delivered, Or.inl ?_⟩
    rcases stage with ⟨-, stored, resumed, returned, -⟩ | ⟨waited, -⟩ | ⟨waited, -⟩
    · refine ⟨nobody, stored, ?_, returned, Or.inr ⟨status, message, rfl⟩⟩
      have idle : request.channel.waiting = [] := by
        rcases request.channel.exclusive with idle | empty
        · exact idle
        · simp [stored] at empty
      simp [Ledger.refusedObject, PendingRequest.cleaned, closeChannel, resumed, idle]
    · omega
    · omega
  · right
    refine ⟨result, inactive, committed, failure, settled, delivered, rfl, vacant, ?_, returned, ?_⟩
    · have idle := request.channel.ended closed
      intro entry member
      apply resumed entry
      simpa [Ledger.refusedObject, PendingRequest.cleaned, closeChannel, idle] using member
    · intro wait begun
      have begun : wait < request.waits := begun
      omega

/-- Who owns an object that was not refused, its timer and its deadline do not
matter. -/
theorem Faithful.reowned (faithful : request.Faithful registry codec)
    (unrefused : ∀ status message, request.owner ≠ .refused status message) (owner : Owner)
    (started : owner ≠ .starting) (index : Option Nat) (timer : Timer)
    (operation : Operation StreamId) (state : operation.state = request.operation.state)
    (same : operation.result = request.operation.result) :
    PendingRequest.Faithful registry codec { request with
      owner := owner, requestIndex := index, timer := timer, operation := operation } := by
  refine ⟨faithful.capacity, fun starting => absurd starting started, ?_⟩
  rcases faithful.phase with
    ⟨active, live, result, story⟩ | ⟨position, frame, completed, result, settled, delivered, stage⟩ |
    ⟨result, inactive, committed, story⟩
  · exact Or.inl ⟨state.trans active, live, same.trans result, story⟩
  · refine Or.inr (Or.inl ⟨position, frame, state.trans completed, same.trans result, settled,
      delivered, ?_⟩)
    rcases stage with ⟨nobody, stored, resumed, returned, stillOpen⟩ | posted | returned
    · refine Or.inl ⟨nobody, stored, resumed, returned, Or.inl ?_⟩
      rcases stillOpen with notClosed | ⟨status, message, refused⟩
      · exact notClosed
      · exact absurd refused (unrefused status message)
    · exact Or.inr (Or.inl posted)
    · exact Or.inr (Or.inr returned)
  · refine Or.inr (Or.inr ⟨result, ?_, same.trans committed, story⟩)
    rcases inactive with failed | cancelled
    · exact Or.inl (state.trans failed)
    · exact Or.inr (state.trans cancelled)

/-- Starting an object gives it to its handle and arms its timer. -/
theorem Faithful.started (faithful : request.Faithful registry codec)
    (starting : request.owner = .starting) (index : Nat) :
    (request.started index).Faithful registry codec := by
  have unrefused : ∀ status message, request.owner ≠ .refused status message := by
    simp [starting]
  unfold PendingRequest.started startTimer
  split
  · exact faithful.reowned unrefused .handle (by simp) (some index) request.timer request.operation
      rfl rfl
  · rename_i deadline _
    refine faithful.reowned unrefused .handle (by simp) (some index) .waiting _ ?_ ?_
    · simp only [Operation.setDeadline]
      split <;> rfl
    · simp only [Operation.setDeadline]
      split <;> rfl

omit [DecidableEq τ] in
theorem completedWith_waits (position : Nat) (frame : Frame) :
    (request.completedWith position frame).waits = request.waits := by
  unfold PendingRequest.completedWith PendingRequest.trySend
  split <;> rfl

omit [DecidableEq τ] in
theorem completedWith_capacity (position : Nat) (frame : Frame) :
    (request.completedWith position frame).channel.capacity = request.channel.capacity := by
  unfold PendingRequest.completedWith PendingRequest.trySend
  split
  · rfl
  · rename_i channel receiver sent
    cases receiver with
    | none => exact (request.channel.trySend_buffered channel frame sent).2.2.2.2.2
    | some wait => exact (request.channel.trySend_handed channel frame wait sent).2.2.2.2.2

/-- No change of the ledger breaks the agreement of channel and operation. -/
theorem Evolves.faithful {answers : Nat → Frame → Prop} {new : PendingRequest ν}
    (evolves : request.Evolves registry codec False answers new)
    (faithful : request.Faithful registry codec) : new.Faithful registry codec := by
  cases evolves with
  | same => exact faithful
  | started starting index => exact faithful.started starting index
  | refused starting operation status message fails =>
    exact ⟨faithful.capacity, by simp [Ledger.refusedObject],
      Or.inr (Or.inr (faithful.failedWith true fails))⟩
  | refusedLate starting inactive status message =>
    exact faithful.refusedLate starting inactive status message
  | touched new touch =>
    cases touch with
    | timer timer started => exact ⟨faithful.capacity, faithful.unstarted, faithful.phase⟩
    | asyncWait handle => exact faithful.asyncWait handle
    | abortWait allowed wait waiting => exact allowed.elim
    | released handle freed =>
      exact faithful.reowned (by simp [handle]) .released (by simp) request.requestIndex
        request.timer request.operation rfl rfl
  | failed operation result release fails =>
    exact ⟨faithful.capacity, faithful.unstarted,
      Or.inr (Or.inr (faithful.failedWith release fails))⟩
  | dropped inactive =>
    exact ⟨faithful.capacity, faithful.unstarted, Or.inr (faithful.decided inactive)⟩
  | returned wait posted member => exact faithful.returned wait posted member
  | completed active position frame answered =>
    refine ⟨?_, ?_, Or.inr (Or.inl (faithful.completedWith active position frame))⟩
    · rw [completedWith_capacity]
      exact faithful.capacity
    · rw [completedWith_owner, completedWith_waits]
      exact faithful.unstarted

/-- Only an answer is delivered, and it completes the operation. -/
theorem Evolves.delivered {aborts : Prop} {answers : Nat → Frame → Prop} {new : PendingRequest ν}
    (evolves : request.Evolves registry codec aborts answers new) :
    new.delivered = request.delivered ∨
      ∃ position frame, request.operation.state = .active ∧ answers position frame ∧
        new.delivered = request.delivered ++ [(position, frame)] ∧
        new.operation.state = .completed := by
  cases evolves with
  | same => exact Or.inl rfl
  | started starting index =>
    unfold PendingRequest.started startTimer
    split <;> exact Or.inl rfl
  | refused starting operation status message fails => exact Or.inl rfl
  | refusedLate starting inactive status message => exact Or.inl rfl
  | touched new touch => cases touch <;> exact Or.inl rfl
  | failed operation result release fails => exact Or.inl rfl
  | dropped inactive => exact Or.inl rfl
  | returned wait posted taken => exact Or.inl rfl
  | completed active position frame answered =>
    have state : (request.completedWith position frame).operation.state = .completed := by
      simp [completedOperation]
    unfold PendingRequest.completedWith PendingRequest.trySend at state ⊢
    split
    · exact Or.inl rfl
    · rename_i sent
      simp only [sent] at state
      exact Or.inr ⟨position, frame, active, answered, rfl, state⟩

/-- Every change leaves an object on its stream. -/
theorem Evolves.stream {aborts : Prop} {answers : Nat → Frame → Prop} {new : PendingRequest ν}
    (evolves : request.Evolves registry codec aborts answers new) : new.stream = request.stream := by
  cases evolves with
  | same => rfl
  | started starting index => exact startTimer_stream _
  | refused starting operation status message fails => exact fails.stream
  | refusedLate starting inactive status message => rfl
  | touched new touch => cases touch <;> rfl
  | failed operation result release fails => exact fails.stream
  | dropped inactive => rfl
  | returned wait posted taken => rfl
  | completed active position frame answered => exact completedWith_stream request position frame

/-- What was decided stays decided. -/
theorem Evolves.decided {aborts : Prop} {answers : Nat → Frame → Prop} {new : PendingRequest ν}
    (evolves : request.Evolves registry codec aborts answers new)
    (inactive : request.operation.state ≠ .active) :
    new.operation.state = request.operation.state ∧
      new.operation.result = request.operation.result ∧ new.settled = request.settled ∧
      new.delivered = request.delivered := by
  cases evolves with
  | same => exact ⟨rfl, rfl, rfl, rfl⟩
  | started starting index =>
    unfold PendingRequest.started startTimer
    split
    · exact ⟨rfl, rfl, rfl, rfl⟩
    · refine ⟨?_, ?_, rfl, rfl⟩
      · simp only [Operation.setDeadline]
        split <;> rfl
      · simp only [Operation.setDeadline]
        split <;> rfl
  | refused starting operation status message fails => exact absurd fails.active inactive
  | refusedLate starting inactive status message => exact ⟨rfl, rfl, rfl, rfl⟩
  | touched new touch =>
    cases touch with
    | timer timer started => exact ⟨rfl, rfl, rfl, rfl⟩
    | asyncWait handle => exact ⟨rfl, rfl, rfl, rfl⟩
    | abortWait allowed wait waiting => exact ⟨rfl, rfl, rfl, rfl⟩
    | released handle => exact ⟨rfl, rfl, rfl, rfl⟩
  | failed operation result release fails => exact absurd fails.active inactive
  | dropped inactive => exact ⟨rfl, rfl, rfl, rfl⟩
  | returned wait posted member => exact ⟨rfl, rfl, rfl, rfl⟩
  | completed active position frame answered => exact absurd active inactive

/-- A result is stored exactly when the operation is over. -/
theorem Faithful.result_none_iff (faithful : request.Faithful registry codec) :
    request.operation.result = none ↔ request.operation.state = .active := by
  constructor
  · intro missing
    by_contra inactive
    rcases faithful.decided inactive with ⟨_, _, -, result, -⟩ | ⟨_, -, result, -⟩
    · simp [missing] at result
    · simp [missing] at result
  · intro active
    exact (faithful.undecided active).2.2.1

/-- At most one result was committed, and it is the one stored. -/
theorem Faithful.committed_once (faithful : request.Faithful registry codec) :
    request.settled.length ≤ 1 ∧ request.operation.result = request.settled.head? := by
  rcases faithful.phase with ⟨-, -, result, settled, -⟩ | ⟨_, _, -, result, settled, -⟩ |
    ⟨_, -, result, -, settled, -⟩
  · simp [result, settled]
  · simp [result, settled]
  · simp [result, settled]

/-- What the first wait returns. -/
theorem Faithful.first_outcome (faithful : request.Faithful registry codec)
    (outcome : DecodeResult (ν request.response)) (member : (0, outcome) ∈ request.returned) :
    (request.operation.state = .completed ∧
      ∃ position frame, request.delivered = [(position, frame)] ∧
        outcome = decodeMessage registry codec request.response frame) ∨
    (request.operation.state ≠ .completed ∧
      ∃ result, request.operation.result = some result ∧
        outcome = .failure result.status result.message) := by
  rcases faithful.phase with
    ⟨-, -, -, -, -, -, returned, -⟩ | ⟨position, frame, completed, -, -, delivered, stage⟩ |
    ⟨result, inactive, committed, -, -, -, -, -, -, returned, -⟩
  · rw [returned] at member
    exact absurd member List.not_mem_nil
  · left
    refine ⟨completed, position, frame, delivered, ?_⟩
    rcases stage with ⟨-, -, -, returned, -⟩ | ⟨-, -, -, -, returned⟩ | ⟨-, -, -, -, returned⟩
    · rw [returned] at member
      exact absurd member List.not_mem_nil
    · rw [returned] at member
      exact absurd member List.not_mem_nil
    · rw [returned] at member
      simpa using member
  · right
    refine ⟨?_, result, committed, returned (0, outcome) member⟩
    rcases inactive with failed | cancelled
    · simp [failed]
    · simp [cancelled]

/-- The first wait on a settled operation was resumed. -/
theorem Faithful.first_heard (faithful : request.Faithful registry codec)
    (inactive : request.operation.result ≠ none) (waited : 0 < request.waits) :
    0 ∈ request.resumed.map Prod.fst ∨ 0 ∈ request.returned.map Prod.fst := by
  rcases faithful.phase with ⟨-, -, result, -⟩ | ⟨_, _, -, -, -, -, stage⟩ |
    ⟨_, -, -, -, -, -, -, -, -, -, heard⟩
  · exact absurd result inactive
  · rcases stage with ⟨nobody, -⟩ | ⟨-, -, -, resumed, -⟩ | ⟨-, -, -, -, returned⟩
    · omega
    · exact Or.inl (by simp [resumed])
    · exact Or.inr (by simp [returned])
  · exact heard 0 waited

/-- No wait is resumed with an error before a result is stored. -/
theorem Faithful.explained (faithful : request.Faithful registry codec) (wait : Nat)
    (member : (wait, none) ∈ request.resumed) : request.operation.result ≠ none := by
  intro missing
  have undecided := faithful.undecided (faithful.result_none_iff.mp missing)
  rw [undecided.2.2.2.2.2.1] at member
  exact absurd member List.not_mem_nil

end Preservation

end PendingRequest

namespace Ledger

/-- A frame answers a request of a ledger: it is a plain response on the stream
of an entry of the map, and it is dispatched there. -/
structure Answers (permits : Ledger ν → Change → Prop) (ledger after : Ledger ν)
    (request position : Nat) (frame : Frame) : Prop where
  permitted : permits ledger (.completes request frame)
  position : position = ledger.dispatched.length
  dispatched : after.dispatched = ledger.dispatched ++ [frame]
  entry : ledger.pending.lookup frame.header.stream = some request
  response : frame.header.type = .response
  plain : hasFlag frame.header.flags .cancel = false ∧ hasFlag frame.header.flags .error = false
  unmarked : frame.header.stream ∉ ledger.terminalStreams

section Heap

variable {registry codec} {permits : Ledger ν → Change → Prop} {before after : Ledger ν}

/-- A change leaves the objects alone, moves one of them on, or creates one. -/
theorem Step.heap (step : Step registry codec permits before after) :
    after.requests = before.requests ∨
    (∃ request object new, before.requests[request]? = some object ∧
      object.Evolves registry codec (permits before (.abortsWait request))
        (before.Answers permits after request) new ∧
      after.requests = before.requests.set request new) ∨
    ∃ stream response deadline,
      after.requests = before.requests ++ [PendingRequest.create stream response deadline] := by
  cases step with
  | allocated kept => exact Or.inl rfl
  | registered stream response deadline permitted allocation =>
    exact Or.inr (Or.inr ⟨stream, response, deadline, rfl⟩)
  | suspended request object frame found starting framed => exact Or.inl rfl
  | admitted request object frame permitted found starting framed =>
    exact Or.inr (Or.inl ⟨request, object, _, found, .started starting _, rfl⟩)
  | refused request object operation status message found starting fails =>
    exact Or.inr (Or.inl ⟨request, object, _, found,
      .refused starting operation status message fails, rfl⟩)
  | refusedLate request object status message found starting inactive =>
    exact Or.inr (Or.inl ⟨request, object, _, found,
      .refusedLate starting inactive status message, rfl⟩)
  | touched request object new found touch =>
    exact Or.inr (Or.inl ⟨request, object, new, found, .touched new touch, rfl⟩)
  | abandoned request object operation result release offered permitted found fails kind =>
    exact Or.inr (Or.inl ⟨request, object, _, found, .failed operation result release fails, rfl⟩)
  | failed after permitted fails =>
    obtain ⟨request, object, operation, result, found, fails, rfl⟩ := fails
    exact Or.inr (Or.inl ⟨request, object, _, found, .failed operation result false fails, rfl⟩)
  | dropped request object found handle inactive =>
    exact Or.inr (Or.inl ⟨request, object, _, found, .dropped inactive, rfl⟩)
  | returned request object wait posted permitted found member =>
    exact Or.inr (Or.inl ⟨request, object, _, found, .returned wait posted member, rfl⟩)
  | completed request object frame permitted found entry active response open_ plain =>
    exact Or.inr (Or.inl ⟨request, object, _, found,
      .completed active _ frame ⟨permitted, rfl, rfl, entry, response, plain, open_⟩, rfl⟩)
  | rejected request object operation result release offered frame permitted found entry fails kind
      open_ silent =>
    exact Or.inr (Or.inl ⟨request, object, _, found, .failed operation result release fails, rfl⟩)
  | accused frame violation permitted => exact Or.inl rfl
  | charged violation permitted => exact Or.inl rfl

/-- No change loses an object. -/
theorem Step.evolves (step : Step registry codec permits before after) {request : Nat}
    {object : PendingRequest ν} (found : before.requests[request]? = some object) :
    ∃ new, after.requests[request]? = some new ∧
      object.Evolves registry codec (permits before (.abortsWait request))
        (before.Answers permits after request) new := by
  rcases step.heap with same | ⟨other, old, new, present, evolves, written⟩ |
    ⟨stream, response, deadline, created⟩
  · exact ⟨object, same ▸ found, .same⟩
  · rw [written]
    by_cases moved : request = other
    · subst moved
      rw [found] at present
      obtain rfl := Option.some.inj present
      exact ⟨new, (getElem?_set_found new found request).trans (if_pos rfl), evolves⟩
    · exact ⟨object, (getElem?_set_found new present request).trans ((if_neg moved).trans found),
        .same⟩
  · rw [created]
    exact ⟨object, getElem?_append_found found, .same⟩

/-- Every object after a change was there before, or is new. -/
theorem Step.origin (step : Step registry codec permits before after) {request : Nat}
    {new : PendingRequest ν} (found : after.requests[request]? = some new) :
    (∃ object, before.requests[request]? = some object ∧
      object.Evolves registry codec (permits before (.abortsWait request))
        (before.Answers permits after request) new) ∨
    ∃ stream response deadline, new = PendingRequest.create stream response deadline := by
  cases present : before.requests[request]? with
  | some object =>
    obtain ⟨other, reread, evolves⟩ := step.evolves present
    rw [found] at reread
    exact Or.inl ⟨object, rfl, Option.some.inj reread ▸ evolves⟩
  | none =>
    right
    rcases step.heap with same | ⟨other, old, moved, foundOld, -, written⟩ |
      ⟨stream, response, deadline, created⟩
    · rw [same, present] at found
      simp at found
    · rw [written] at found
      rcases getElem?_set_cases foundOld found with ⟨rfl, -⟩ | ⟨-, kept⟩
      · simp [foundOld] at present
      · simp [kept] at present
    · rw [created] at found
      rcases getElem?_append_singleton found with before | ⟨-, rfl⟩
      · rw [present] at before
        simp at before
      · exact ⟨stream, response, deadline, rfl⟩

end Heap

/-- Every object tells one story, and the frame it was answered with was
dispatched. -/
structure Faithful (ledger : Ledger ν) : Prop where
  faithful : ∀ (request : Nat) (object : PendingRequest ν),
    ledger.requests[request]? = some object → object.Faithful registry codec
  recorded : ∀ (request : Nat) (object : PendingRequest ν) (position : Nat) (frame : Frame),
    ledger.requests[request]? = some object → (position, frame) ∈ object.delivered →
    ledger.dispatched[position]? = some frame

section Preservation

variable {registry codec} {permits : Ledger ν → Change → Prop} {before after : Ledger ν}

/-- The frames dispatched are never forgotten. -/
theorem Step.dispatched (step : Step registry codec permits before after) :
    before.dispatched <+: after.dispatched := by
  cases step
  case completed => exact List.prefix_append _ _
  case rejected => exact List.prefix_append _ _
  case accused => exact List.prefix_append _ _
  case failed fails =>
    obtain ⟨_, _, _, _, _, _, rfl⟩ := fails
    exact List.prefix_rfl
  all_goals exact List.prefix_rfl

/-- A change that aborts no wait keeps every story. -/
theorem Step.faithful (step : Step registry codec permits before after)
    (unaborted : ∀ request, ¬ permits before (.abortsWait request))
    (faithful : before.Faithful registry codec) : after.Faithful registry codec := by
  constructor
  · intro request new found
    rcases step.origin found with ⟨object, present, evolves⟩ | ⟨stream, response, deadline, rfl⟩
    · rw [eq_false (unaborted request)] at evolves
      exact evolves.faithful (faithful.faithful request object present)
    · exact PendingRequest.create_faithful stream response deadline
  · intro request new position frame found member
    rcases step.origin found with ⟨object, present, evolves⟩ | ⟨stream, response, deadline, rfl⟩
    · rcases evolves.delivered with same | ⟨where_, what, -, answers, joined, -⟩
      · exact getElem?_initial step.dispatched (faithful.recorded request object position frame
          present (same ▸ member))
      · rw [joined] at member
        rcases List.mem_append.mp member with before | last
        · exact getElem?_initial step.dispatched (faithful.recorded request object position frame
            present before)
        · obtain ⟨rfl, rfl⟩ : position = where_ ∧ frame = what := by simpa using last
          rw [answers.dispatched, answers.position]
          simp
    · exact absurd member List.not_mem_nil

theorem Steps.faithful (steps : Steps registry codec permits before after)
    (unaborted : ∀ ledger request, ¬ permits ledger (.abortsWait request))
    (faithful : before.Faithful registry codec) : after.Faithful registry codec := by
  induction steps with
  | refl => exact faithful
  | tail _ step inductionHypothesis => exact step.faithful (unaborted _) inductionHypothesis

/-- Every delivery along a sequence of changes was there before, or is an answer
to a request that was active when it happened. -/
theorem Steps.delivered (steps : Steps registry codec permits before after) {request : Nat}
    {new : PendingRequest ν} {position : Nat} {frame : Frame}
    (found : after.requests[request]? = some new) (member : (position, frame) ∈ new.delivered) :
    (∃ object, before.requests[request]? = some object ∧ (position, frame) ∈ object.delivered) ∨
    ∃ (middle last : Ledger ν) (object : PendingRequest ν),
      middle.requests[request]? = some object ∧ object.operation.state = .active ∧
      middle.Answers permits last request position frame := by
  induction steps generalizing new with
  | refl => exact Or.inl ⟨new, found, member⟩
  | @tail middle last _ step inductionHypothesis =>
    rcases step.origin found with ⟨object, present, evolves⟩ | ⟨stream, response, deadline, rfl⟩
    · rcases evolves.delivered with same | ⟨where_, what, active, answers, joined, -⟩
      · exact inductionHypothesis present (same ▸ member)
      · rw [joined] at member
        rcases List.mem_append.mp member with before | added
        · exact inductionHypothesis present before
        · obtain ⟨rfl, rfl⟩ : position = where_ ∧ frame = what := by simpa using added
          exact Or.inr ⟨middle, last, object, present, active, answers⟩
    · exact absurd member List.not_mem_nil

/-- What was decided before a sequence of changes is decided alike after it. -/
theorem Steps.decided (steps : Steps registry codec permits before after)
    {request : Nat} {object : PendingRequest ν} (found : before.requests[request]? = some object)
    (inactive : object.operation.state ≠ .active) :
    ∃ new, after.requests[request]? = some new ∧
      new.operation.state = object.operation.state ∧
      new.operation.result = object.operation.result ∧ new.settled = object.settled ∧
      new.delivered = object.delivered := by
  induction steps with
  | refl => exact ⟨object, found, rfl, rfl, rfl, rfl⟩
  | tail _ step inductionHypothesis =>
    obtain ⟨middle, present, state, result, settled, delivered⟩ := inductionHypothesis
    obtain ⟨new, reread, evolves⟩ := step.evolves present
    obtain ⟨stateNew, resultNew, settledNew, deliveredNew⟩ := evolves.decided (state ▸ inactive)
    exact ⟨new, reread, stateNew.trans state, resultNew.trans result, settledNew.trans settled,
      deliveredNew.trans delivered⟩

end Preservation

end Ledger

/-- The executor aborts a wait. -/
def ClientEvent.abortsWait : ClientEvent ν → Bool
  | .abortWait _ _ => true
  | _ => false

namespace ClientConnection

open Ledger (Steps Step)

/-- No wait is aborted by its executor. -/
def unaborted (_ : ClientConnection ν) (event : ClientEvent ν) : Prop := event.abortsWait = false

instance (client : ClientConnection ν) (event : ClientEvent ν) :
    Decidable (client.unaborted event) :=
  inferInstanceAs (Decidable (event.abortsWait = false))

variable {registry codec} {client : ClientConnection ν}

/-- Without aborted waits no event brings about an aborted wait. -/
theorem Brings.unaborted {event : ClientEvent ν} (allowed : client.unaborted event)
    (after : ClientConnection ν) (ledger : Ledger ν) (request : Nat) :
    ¬ client.Brings registry codec after event ledger (.abortsWait request) := by
  intro brings
  cases brings
  simp [ClientConnection.unaborted, ClientEvent.abortsWait] at allowed

/-- Every story is kept along runs without aborted waits. -/
theorem Reachable.faithful {limits : WriteQueueLimits} {maximumStreamId : UInt64}
    (reachable : Reachable registry codec unaborted limits maximumStreamId client) :
    client.ledger.Faithful registry codec := by
  apply Reachability.Reaches.invariant_of_reached
    (fun client => client.ledger.Faithful registry codec) ?_ ?_ reachable
  · constructor
    · simp [create, ledger]
    · simp [create, ledger]
  · intro before event after reached faithful allowed stepped
    exact (before.step_steps event after (Reachable.consistent reached) stepped).faithful
      (fun ledger request => Brings.unaborted allowed after ledger request) faithful

/-- The step that completes an operation dispatches the frame delivered to it. -/
theorem Reachable.completing {limits : WriteQueueLimits} {maximumStreamId : UInt64}
    (reachable : Reachable registry codec unaborted limits maximumStreamId client)
    {event : ClientEvent ν} {after : ClientConnection ν} (allowed : client.unaborted event)
    (stepped : client.step registry codec event = some after) {request : Nat}
    {object new : PendingRequest ν} (found : client.requests[request]? = some object)
    (active : object.operation.state = .active) (reread : after.requests[request]? = some new)
    (completed : new.operation.state = .completed) :
    ∃ frame rest, event = .dispatchNext ∧ client.reader = .dispatching (frame :: rest) ∧
      new.delivered = [(client.dispatched.length, frame)] := by
  have steps := client.step_steps event after reachable.consistent stepped
  have faithful : after.ledger.Faithful registry codec :=
    steps.faithful (fun ledger request => Brings.unaborted allowed after ledger request)
      reachable.faithful
  obtain ⟨-, -, -, -, undelivered, -⟩ :=
    (reachable.faithful.faithful request object found).undecided active
  rcases (faithful.faithful request new reread).decided (by simp [completed]) with
    ⟨position, frame, -, -, -, delivered, -⟩ | ⟨_, failed | cancelled, -⟩
  · have member : (position, frame) ∈ new.delivered := by simp [delivered]
    rcases steps.delivered reread member with ⟨old, present, before⟩ |
      ⟨middle, last, old, -, -, answers⟩
    · have same : object = old := Option.some.inj (found.symm.trans present)
      rw [← same, undelivered] at before
      exact absurd before List.not_mem_nil
    · obtain ⟨rest, event_eq, reading, ledger_eq⟩ : ∃ rest, event = .dispatchNext ∧
          client.reader = .dispatching (frame :: rest) ∧ middle = client.ledger := by
        cases answers.permitted with
        | completes frame rest request reading => exact ⟨rest, rfl, reading, rfl⟩
      refine ⟨frame, rest, event_eq, reading, ?_⟩
      rw [delivered, answers.position, ledger_eq]
      rfl
  · simp [completed] at failed
  · simp [completed] at cancelled

/-- A decided operation stays decided in every later state. -/
theorem Reachable.settled_for_good {limits : WriteQueueLimits} {maximumStreamId : UInt64}
    (reachable : Reachable registry codec unaborted limits maximumStreamId client)
    {later : ClientConnection ν}
    (continues : Reachability.Reaches (step registry codec) unaborted client later) {request : Nat}
    {object : PendingRequest ν} (found : client.requests[request]? = some object)
    (inactive : object.operation.state ≠ .active) :
    ∃ new, later.requests[request]? = some new ∧
      new.operation.state = object.operation.state ∧
      new.operation.result = object.operation.result ∧ new.settled = object.settled ∧
      new.delivered = object.delivered := by
  induction continues with
  | start => exact ⟨object, found, rfl, rfl, rfl, rfl⟩
  | @next before after event reached allowed stepped inductionHypothesis =>
    obtain ⟨middle, present, state, result, settled, delivered⟩ := inductionHypothesis
    have earlier : Reachable registry codec unaborted limits maximumStreamId before :=
      Reachability.Reaches.trans reachable reached
    obtain ⟨new, reread, stateNew, resultNew, settledNew, deliveredNew⟩ :=
      (before.step_steps event after earlier.consistent stepped).decided present (state ▸ inactive)
    exact ⟨new, reread, stateNew.trans state, resultNew.trans result, settledNew.trans settled,
      deliveredNew.trans delivered⟩

/-- A resumed wait returns as soon as it runs. -/
theorem resumeWait_returns (consistent : client.ledger.Consistent) {request wait : Nat}
    {object : PendingRequest ν} {posted : Option Frame}
    (found : client.requests[request]? = some object) (member : (wait, posted) ∈ object.resumed)
    (idle : ∀ frames, client.reader ≠ .dispatching frames) :
    ∃ after new, client.step registry codec (.resumeWait request wait) = some after ∧
      after.requests[request]? = some new ∧ wait ∈ new.returned.map Prod.fst := by
  obtain ⟨taken, looked⟩ : ∃ taken, object.resumed.lookup wait = some taken := by
    cases looked : object.resumed.lookup wait with
    | some taken => exact ⟨taken, rfl⟩
    | none =>
      have absent := List.lookup_eq_none_iff.mp looked (wait, posted) member
      simp at absent
  have ledger_eq : (client.resumeWait registry codec request wait taken).ledger = _ :=
    client.resumeWait_ledger wait taken consistent found
  refine ⟨client.resumeWait registry codec request wait taken, _, ?_,
    found_of_retire _ found ledger_eq, ?_⟩
  · rw [client.step_idle _ idle]
    simp [act, found, looked]
  · have returns : (Ledger.returnedObject registry codec object wait taken).returned.map Prod.fst =
        object.returned.map Prod.fst ++ [wait] := List.map_append
    rw [returns]
    simp

variable (registry codec) in
/-- Single winner and faithful result. At most one event fixes the result of a
started operation, it stays fixed in every later state, and a response fixes it
in the step that dispatches the frame then delivered. That frame lies in the
channel, was handed to the first wait, or was returned by it decoded. What the
first wait returns is the decoded frame of a completed operation and the stored
failure of any other; a wait on a settled operation has been resumed or has
returned, a resumed wait returns when it runs, and none is resumed with an error
before a result is stored. -/
theorem single_winner (limits : WriteQueueLimits) (maximumStreamId : UInt64)
    (client : ClientConnection ν)
    (reachable : Reachable registry codec unaborted limits maximumStreamId client) (request : Nat)
    (object : PendingRequest ν) (found : client.requests[request]? = some object)
    (started : object.owner = .handle ∨ object.owner = .released) :
    (object.settled.length ≤ 1 ∧ object.operation.result = object.settled.head? ∧
      (object.operation.result = none ↔ object.operation.state = .active)) ∧
    (∀ (later : ClientConnection ν) (result : OperationResult),
      Reachability.Reaches (step registry codec) unaborted client later →
      object.operation.result = some result →
      ∃ new, later.requests[request]? = some new ∧ new.operation.result = some result ∧
        new.settled = [result]) ∧
    (∀ (event : ClientEvent ν) (after : ClientConnection ν) (new : PendingRequest ν),
      client.unaborted event → client.step registry codec event = some after →
      object.operation.result = none → after.requests[request]? = some new →
      new.operation.state = .completed →
      ∃ frame rest, event = .dispatchNext ∧ client.reader = .dispatching (frame :: rest) ∧
        new.delivered = [(client.dispatched.length, frame)]) ∧
    (object.operation.state = .completed →
      ∃ position frame, object.delivered = [(position, frame)] ∧
        client.dispatched[position]? = some frame ∧
        (object.waits = 0 ∧ object.channel.closed = false ∧ object.channel.buffer = [frame] ∨
          (0, some frame) ∈ object.resumed ∨
          (0, decodeMessage registry codec object.response frame) ∈ object.returned)) ∧
    (∀ outcome, (0, outcome) ∈ object.returned →
      (object.operation.state = .completed ∧
        ∃ position frame, object.delivered = [(position, frame)] ∧
          client.dispatched[position]? = some frame ∧
          outcome = decodeMessage registry codec object.response frame) ∨
      (object.operation.state ≠ .completed ∧
        ∃ result, object.operation.result = some result ∧
          outcome = .failure result.status result.message)) ∧
    (object.operation.result ≠ none → 0 < object.waits →
      0 ∈ object.resumed.map Prod.fst ∨ 0 ∈ object.returned.map Prod.fst) ∧
    (∀ (wait : Nat) (posted : Option Frame), (wait, posted) ∈ object.resumed →
      (∀ frames, client.reader ≠ .dispatching frames) →
      ∃ after new, client.step registry codec (.resumeWait request wait) = some after ∧
        after.requests[request]? = some new ∧ wait ∈ new.returned.map Prod.fst) ∧
    (∀ wait, (wait, none) ∈ object.resumed → object.operation.result ≠ none) := by
  have whole := reachable.faithful
  have faithful := whole.faithful request object found
  refine ⟨⟨faithful.committed_once.1, faithful.committed_once.2, faithful.result_none_iff⟩,
    ?_, ?_, ?_, ?_, faithful.first_heard, ?_, faithful.explained⟩
  · intro later result continues committed
    have inactive : object.operation.state ≠ .active := by
      intro active
      have missing := faithful.result_none_iff.mpr active
      simp [committed] at missing
    obtain ⟨new, reread, -, sameResult, sameSettled, -⟩ :=
      reachable.settled_for_good continues found inactive
    refine ⟨new, reread, sameResult.trans committed, sameSettled.trans ?_⟩
    obtain ⟨once, head⟩ := faithful.committed_once
    rw [committed] at head
    obtain ⟨rest, settled⟩ := List.head?_eq_some_iff.mp head.symm
    rw [settled] at once ⊢
    rw [List.length_eq_zero_iff.mp (Nat.le_zero.mp (Nat.le_of_succ_le_succ once))]
  · intro event after new allowed stepped undecided reread completed
    exact reachable.completing allowed stepped found (faithful.result_none_iff.mp undecided) reread
      completed
  · intro completed
    rcases faithful.decided (by simp [completed]) with
      ⟨position, frame, -, -, -, delivered, stage⟩ | ⟨_, failed | cancelled, -⟩
    · refine ⟨position, frame, delivered,
        whole.recorded request object position frame found (by simp [delivered]), ?_⟩
      rcases stage with ⟨nobody, stored, -, -, stillOpen⟩ | ⟨-, -, -, resumed, -⟩ |
        ⟨-, -, -, -, returned⟩
      · refine Or.inl ⟨nobody, ?_, stored⟩
        rcases stillOpen with notClosed | ⟨status, message, refused⟩
        · exact notClosed
        · simp [refused] at started
      · exact Or.inr (Or.inl (by simp [resumed]))
      · exact Or.inr (Or.inr (by simp [returned]))
    · simp [completed] at failed
    · simp [completed] at cancelled
  · intro outcome member
    rcases faithful.first_outcome outcome member with
      ⟨completed, position, frame, delivered, decoded⟩ | failed
    · exact Or.inl ⟨completed, position, frame, delivered,
        whole.recorded request object position frame found (by simp [delivered]), decoded⟩
    · exact Or.inr failed
  · intro wait posted member idle
    exact resumeWait_returns reachable.consistent found member idle

/-- The message nine as a response on the first stream. -/
def nineOnFirst : Frame where
  header := { type := .response, flags := .endOfStream, stream := ⟨1⟩, payloadSize := 5 }
  payload := [0, 0, 0, 7, 9]

/-- A run in which a response arrives before a cancellation. -/
def answeredFirst : Option (ClientConnection fun _ : Unit => UInt8) :=
  Reachability.run (step byteRegistry byteCodec) unaborted (create {} 0xFFFFFFFFFFFFFFFF)
    [.run, .startWriter, .startReader, .startRequest () 5 () none, .asyncWait 0,
      .received (encodeFrame nineOnFirst), .dispatchNext, .dispatchNext,
      .cancel 0 "operation cancelled", .resumeWait 0 0]

/-- The response won: the wait returned, and nothing later changes the result. -/
theorem single_winner_response :
    ∃ client object, answeredFirst = some client ∧ client.requests[0]? = some object ∧
      object.delivered = [(0, nineOnFirst)] ∧ object.settled.length ≤ 1 ∧
      ∀ later, Reachability.Reaches (step byteRegistry byteCodec) unaborted client later →
        ∃ new, later.requests[0]? = some new ∧
          new.operation.result = some (.success "response received") := by
  have reads : answeredFirst.bind (fun client => client.requests[0]?.map fun object =>
      (object.owner, object.delivered, object.operation.result, object.returned.map Prod.fst)) =
      some (.handle, [(0, nineOnFirst)], some (.success "response received"), [0]) := by
    decide +kernel
  obtain ⟨client, reached, read⟩ := Option.bind_eq_some_iff.mp reads
  obtain ⟨object, found, facts⟩ := Option.map_eq_some_iff.mp read
  obtain ⟨owner, delivered, result, -⟩ : object.owner = .handle ∧
      object.delivered = [(0, nineOnFirst)] ∧
      object.operation.result = some (.success "response received") ∧
      object.returned.map Prod.fst = [0] := by
    simpa using facts
  obtain ⟨⟨once, -⟩, stays, -⟩ := single_winner byteRegistry byteCodec {} 0xFFFFFFFFFFFFFFFF client
    (Reachability.run_reaches _ _ _ _ _ reached) 0 object found (Or.inl owner)
  refine ⟨client, object, reached, found, delivered, once, ?_⟩
  intro later continues
  obtain ⟨new, reread, sameResult, -⟩ := stays later _ continues result
  exact ⟨new, reread, sameResult⟩

end ClientConnection

end Results

end Rillnet
