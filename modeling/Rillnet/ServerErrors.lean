import Rillnet.Accusations
import Rillnet.ServerRoster

/-!
# Errors of a whole server connection

A connection-scoped error is to end every active operation of the connection. A
failed read does so. A violation found in a frame or a header closes the
transport and leaves the operations alone: their handlers run on, complete them
and answer, and a second request on an active stream is not even reported.
-/

namespace Rillnet

section Errors

variable {τ : Type} {ν : τ → Type}

/-- The operation failed or was cancelled before the handler replied. -/
structure Invocation.Silenced (object : Invocation ν) : Prop where
  ended : object.operation.state = .failed ∨ object.operation.state = .cancelled
  quiet : object.stage ≠ .responding
  unanswered : object.reply = none

theorem Invocation.Silenced.inactive {object : Invocation ν} (silenced : object.Silenced) :
    object.operation.state ≠ .active ∧ object.operation.state ≠ .created := by
  rcases silenced.ended with failed | cancelled
  · simp [failed]
  · simp [cancelled]

/-- A silenced handler stays silent. -/
theorem Invocation.Goes.silenced {accepted : Nat} {ends : Ending → Prop} {old new : Invocation ν}
    (goes : old.Goes accepted ends new) (silenced : old.Silenced) : new.Silenced := by
  obtain ⟨inactive, activated⟩ := silenced.inactive
  cases goes with
  | same => exact silenced
  | cancelled =>
    rw [old.operation.cancel_eq _ activated, if_neg inactive]
    exact silenced
  | lost =>
    rw [old.operation.lost_eq activated, if_neg inactive]
    exact silenced
  | started argument spawned => exact ⟨silenced.ended, nofun, silenced.unanswered⟩
  | undecodable status message offered rejects spawned failure =>
    rw [old.operation.fail_eq _ _ failure, if_neg inactive]
    exact ⟨silenced.ended, nofun, silenced.unanswered⟩
  | dropped silent handling => exact ⟨silenced.ended, nofun, silenced.unanswered⟩
  | refused operation refuses ready =>
    rcases ready with ⟨-, active, -⟩ | ⟨responding, -⟩
    · exact absurd active inactive
    · exact absurd responding silenced.quiet
  | suspended handling active => exact absurd active inactive
  | replied operation frame replies framed ready =>
    rcases ready with ⟨-, active, -⟩ | ⟨responding, -⟩
    · exact absurd active inactive
    · exact absurd responding silenced.quiet

namespace ServerConnection

variable (server : ServerConnection ν)

/-- The frame is a second request on a stream that has an operation. -/
def repeats (frame : Frame) : Bool :=
  decide (frame.header.type = .request) && decide (frame.header.stream ∉ server.terminalStreams) &&
    !hasFlag frame.header.flags .cancel && (server.operations.lookup frame.header.stream).isSome

/-- The violations the connection was closed for, and the second requests. -/
def charges : Nat := server.violations.length + server.duplicates.length

/-- The protocol errors reported to the observer. -/
def reports : Nat := server.diagnostics.countP DiagnosticsEvent.accuses

/-- Every operation in the map has ended. -/
def AllTerminal : Prop :=
  ∀ (stream : StreamId) (invocation : Nat) (object : Invocation ν),
    server.operations.lookup stream = some invocation →
    server.invocations[invocation]? = some object → object.operation.isTerminal = true

theorem reports_eq : server.reports = server.accusations.1.length :=
  List.countP_eq_length_filter

theorem charges_eq :
    server.charges = server.accusations.2.1.length + server.accusations.2.2.length := rfl

theorem failConnection_counts (status : StatusCode) (message : String)
    (protocol : statusCategory status = .protocol) :
    (server.failConnection status message).reports = server.reports + 1 ∧
      (server.failConnection status message).charges = server.charges + 1 := by
  unfold failConnection
  rw [if_pos protocol]
  constructor
  · simp [reports, notify, DiagnosticsEvent.accuses]
  · simp [charges, notify]
    omega

/-- What routing a frame holds against the peer. -/
theorem dispatch_accuses (frame : Frame) :
    (server.dispatch frame).accusations = server.accusations ∨
    (server.repeats frame = true ∧ server.dispatch frame = { server with
      transportOpen := false
      duplicates := server.duplicates ++ [frame.header.stream] }) ∨
    (server.repeats frame = false ∧ ∃ status message, statusCategory status = .protocol ∧
      server.dispatch frame = server.failConnection status message) := by
  unfold dispatch
  split
  · exact Or.inl (by simp)
  · split
    · rename_i response
      exact Or.inr (Or.inr ⟨by simp [repeats, response], _, _, by decide, rfl⟩)
    · rename_i request
      split
      · rename_i marked
        exact Or.inr (Or.inr ⟨by simp [repeats, marked], _, _, by decide, rfl⟩)
      · rename_i unmarked
        split
        · rename_i cancels
          split
          · exact Or.inl (by simp)
          · exact Or.inr (Or.inr ⟨by simp [repeats, cancels], _, _, by decide, rfl⟩)
        · rename_i plain
          split
          · exact Or.inl (by simp)
          · split
            · exact Or.inl (by simp)
            · unfold spawnHandler
              split
              · rename_i listed
                refine Or.inr (Or.inl ⟨?_, rfl⟩)
                have isRequest : frame.header.type = .request := not_not.mp request
                simp [repeats, isRequest, unmarked, plain, listed]
              · exact Or.inl (notify_accusations server
                  { type := .requestStarted, stream := frame.header.stream } rfl)

section Steps

variable [DecidableEq τ] (registry : MessageRegistry τ) (codec : Codec τ ν)

/-- Every operation that was active ended and was asked to stop; its handler never
completes it nor replies; every charge against the peer was reported. -/
structure Settles (after : ServerConnection ν) : Prop where
  ended : ∀ (stream : StreamId) (invocation : Nat) (object : Invocation ν),
    server.operations.lookup stream = some invocation →
    server.invocations[invocation]? = some object → object.operation.isTerminal = false →
    ∃ new, after.invocations[invocation]? = some new ∧ new.operation.isTerminal = true ∧
      new.operation.cancellationRequested = true
  silent : ∀ (stream : StreamId) (invocation : Nat) (object : Invocation ν),
    server.operations.lookup stream = some invocation →
    server.invocations[invocation]? = some object → object.operation.isTerminal = false →
    ∀ later, Reachability.Reaches (step registry codec) Reachability.unguarded after later →
    ∃ final, later.invocations[invocation]? = some final ∧
      final.operation.state ≠ .completed ∧ final.reply = none
  reported : after.reports + server.charges = server.reports + after.charges

/-- The step closes the transport for a violation, or a read failed. -/
def Errs (event : ServerEvent ν) (after : ServerConnection ν) : Prop :=
  after.violations ≠ server.violations ∨ after.duplicates ≠ server.duplicates ∨
    ∃ closes, event = .readFailed closes

/-- The read failed; or the frame at hand is not a second request on an active
stream and no operation is active. -/
def Spared (event : ServerEvent ν) : Prop :=
  (∃ closes, event = .readFailed closes) ∨
  ((∀ frame rest, server.reader = .dispatching (frame :: rest) → server.repeats frame = false) ∧
    server.AllTerminal)

variable {registry codec}

/-- A silenced handler stays silent in every run. -/
theorem silenced_later {server later : ServerConnection ν} (wired : server.Wired)
    {invocation : Nat} {object : Invocation ν}
    (found : server.invocations[invocation]? = some object) (silenced : object.Silenced)
    (reached : Reachability.Reaches (step registry codec) Reachability.unguarded server later) :
    ∃ final, later.invocations[invocation]? = some final ∧ final.Silenced := by
  have both : later.Wired ∧
      ∃ final, later.invocations[invocation]? = some final ∧ final.Silenced := by
    apply Reachability.Reaches.invariant (fun later : ServerConnection ν => later.Wired ∧
      ∃ final, later.invocations[invocation]? = some final ∧ final.Silenced) ?_ ?_ reached
    · exact ⟨wired, object, found, silenced⟩
    · rintro before event after ⟨kept, current, present, quiet⟩ _ stepped
      refine ⟨kept.step stepped, ?_⟩
      rcases before.step_book kept.sound event after stepped with same | change
      · have unchanged : after.invocations = before.invocations := congrArg Book.invocations same
        rw [unchanged]
        exact ⟨current, present, quiet⟩
      · obtain ⟨new, moved, goes⟩ := change.goes present
        exact ⟨new, moved, goes.silenced quiet⟩
  exact both.2

omit [DecidableEq τ] in
theorem finishReading_invocations (lost : Bool) :
    (server.finishReading lost).invocations =
      (if lost then server.failOperationsOnConnectionClose else server).invocations := by
  have book_eq : (server.finishReading lost).book =
      (if lost then server.failOperationsOnConnectionClose else server).book := by
    rw [finishReading, notifyClosed_book, transition_book, closeQueueWhenIdle_book]
    rfl
  exact congrArg Book.invocations book_eq

omit [DecidableEq τ] in
/-- A failed read loses every operation in the map. -/
theorem finishReading_lost (sound : server.book.Sound) {stream : StreamId} {invocation : Nat}
    {object : Invocation ν} (listed : server.operations.lookup stream = some invocation)
    (found : server.invocations[invocation]? = some object) :
    (server.finishReading true).invocations[invocation]? =
      some { object with operation := object.operation.lost } := by
  rw [finishReading_invocations, if_pos rfl]
  apply failOperations_lost server.invocations
    (fun place old present => (sound.operation place old present).2.2) found _ server
    (Book.Loses.refl _)
  exact Or.inl ⟨⟨stream, invocation⟩, AList.mem_lookup_iff.mp listed, rfl⟩

omit [DecidableEq τ] in
/-- An active operation is failed and asked to stop when it is lost. -/
theorem lost_silenced {server : ServerConnection ν} (sound : server.book.Sound)
    {invocation : Nat} {object : Invocation ν}
    (found : server.invocations[invocation]? = some object) (running : object.stage ≠ .finished)
    (live : object.operation.isTerminal = false) :
    Invocation.Silenced { object with operation := object.operation.lost } ∧
      object.operation.lost.isTerminal = true ∧
      object.operation.lost.cancellationRequested = true := by
  have activated := (sound.operation invocation object found).2.2
  have active : object.operation.state = .active := by
    cases state : object.operation.state <;> simp_all [Operation.isTerminal]
  rw [object.operation.lost_eq activated, if_pos active]
  refine ⟨⟨Or.inl rfl, ?_, ?_⟩, by simp [Operation.isTerminal], rfl⟩
  · intro responding
    have completed := sound.responding invocation object found responding
    simp [active] at completed
  · have unanswered := sound.unanswered found running
    exact unanswered

omit [DecidableEq τ] in
/-- A step that holds nothing new against the peer closes nothing. -/
theorem fair {server after : ServerConnection ν} (same : after.accusations = server.accusations)
    (violated : after.violations ≠ server.violations ∨ after.duplicates ≠ server.duplicates) :
    False := by
  rcases violated with violation | duplicate
  · exact violation (congrArg (fun accusations => accusations.2.1) same)
  · exact duplicate (congrArg (fun accusations => accusations.2.2) same)

/-- A violation leaves every handler alone. It is reported unless it is a second
request on an active stream. -/
theorem violation_step {server after : ServerConnection ν} {event : ServerEvent ν}
    (stepped : server.step registry codec event = some after)
    (violated : after.violations ≠ server.violations ∨ after.duplicates ≠ server.duplicates) :
    after.invocations = server.invocations ∧ after.charges = server.charges + 1 ∧
    ((∃ frame rest, server.reader = .dispatching (frame :: rest) ∧
        server.repeats frame = true ∧ after.reports = server.reports) ∨
      ((∀ frame rest, server.reader = .dispatching (frame :: rest) →
        server.repeats frame = false) ∧ after.reports = server.reports + 1)) := by
  cases server.step_advances stepped with
  | dispatches frame rest reading =>
    let noted : ServerConnection ν := server.notify
      { type := .messageTransferred, stream := frame.header.stream, inbound := true }
    have counted : noted.reports = server.reports := by
      simp [noted, reports, notify, DiagnosticsEvent.accuses]
    obtain ⟨invocations, charged, reported⟩ :
        (server.dispatchFrame frame rest).invocations = (noted.dispatch frame).invocations ∧
        (server.dispatchFrame frame rest).charges = (noted.dispatch frame).charges ∧
        (server.dispatchFrame frame rest).reports = (noted.dispatch frame).reports :=
      ⟨rfl, rfl, rfl⟩
    rw [invocations, charged, reported]
    rcases noted.dispatch_accuses frame with same | ⟨again, routed⟩ |
      ⟨fresh, status, message, protocol, routed⟩
    · exact (fair (same.trans (notify_accusations server _ rfl)) violated).elim
    · rw [routed]
      refine ⟨rfl, ?_, Or.inl ⟨frame, rest, reading, again, counted⟩⟩
      simp only [charges, List.length_append, List.length_singleton]
      exact (Nat.add_assoc _ _ _).symm
    · obtain ⟨one, another⟩ := noted.failConnection_counts status message protocol
      have kept : (noted.failConnection status message).invocations = server.invocations :=
        congrArg Book.invocations (noted.failConnection_book status message)
      rw [routed]
      refine ⟨kept, another, Or.inr ⟨?_, one.trans (congrArg (· + 1) counted)⟩⟩
      intro other others dispatching
      rw [reading] at dispatching
      obtain ⟨rfl, -⟩ := List.cons.inj (Reader.dispatching.inj dispatching)
      exact fresh
  | leaves reading =>
    unfold endBatch at violated ⊢
    cases found : server.decoder.error with
    | none =>
      rw [found] at violated
      exact (fair (accusations_still.continueReading server) violated).elim
    | some error =>
      dsimp only
      rw [reports_eq, charges_eq, accusations_still.finishReading]
      refine ⟨?_, ?_, Or.inr ⟨by simp [reading], ?_⟩⟩
      · rw [finishReading_invocations]
        rfl
      · simp [accusations, notify, charges]
        omega
      · simp [accusations, notify, reports_eq, DiagnosticsEvent.accuses]
  | acts acts => exact (fair (server.act_accusations event after acts) violated).elim

/-- A failed read settles every operation. -/
theorem readFailed_settles {server after : ServerConnection ν} {closes : Bool}
    (wired : server.Wired) (stepped : server.step registry codec (.readFailed closes) = some after)
    (acted : after = { server with
      transportOpen := server.transportOpen && !closes }.finishReading true) :
    server.Settles registry codec after := by
  have silenced : ∀ (stream : StreamId) (invocation : Nat) (object : Invocation ν),
      server.operations.lookup stream = some invocation →
      server.invocations[invocation]? = some object → object.operation.isTerminal = false →
      after.invocations[invocation]? = some { object with operation := object.operation.lost } ∧
        Invocation.Silenced { object with operation := object.operation.lost } ∧
        object.operation.lost.isTerminal = true ∧
        object.operation.lost.cancellationRequested = true := by
    intro stream invocation object listed found live
    obtain ⟨entry, present, -, running⟩ := wired.sound.entry stream invocation listed
    obtain rfl : object = entry := Option.some.inj (found.symm.trans present)
    have lost := finishReading_lost { server with
      transportOpen := server.transportOpen && !closes } wired.sound listed found
    rw [← acted] at lost
    exact ⟨lost, lost_silenced wired.sound found running live⟩
  constructor
  · intro stream invocation object listed found live
    obtain ⟨present, -, ended, asked⟩ := silenced stream invocation object listed found live
    exact ⟨_, present, ended, asked⟩
  · intro stream invocation object listed found live later reached
    obtain ⟨present, quiet, -⟩ := silenced stream invocation object listed found live
    obtain ⟨final, last, still⟩ := silenced_later (wired.step stepped) present quiet reached
    refine ⟨final, last, ?_, still.unanswered⟩
    rcases still.ended with failed | cancelled
    · simp [failed]
    · simp [cancelled]
  · have same : after.accusations = server.accusations := by
      rw [acted, accusations_still.finishReading]
      rfl
    rw [reports_eq, charges_eq, reports_eq, charges_eq, same]

/-- A connection-scoped error settles every active operation exactly when it is a
failed read, or a violation other than a second request on an active stream that
finds no operation active. -/
theorem connection_errors {limits : WriteQueueLimits} {server after : ServerConnection ν}
    {event : ServerEvent ν}
    (reachable : Reachable registry codec Reachability.unguarded limits server)
    (stepped : server.step registry codec event = some after) (errs : server.Errs event after) :
    server.Settles registry codec after ↔ server.Spared event := by
  have wired := Reachable.wired reachable
  by_cases failed : ∃ closes, event = .readFailed closes
  · refine ⟨fun _ => Or.inl failed, fun _ => ?_⟩
    obtain ⟨closes, rfl⟩ := failed
    apply readFailed_settles wired stepped
    cases server.step_acts stepped (by simp)
    rfl
  · have violated : after.violations ≠ server.violations ∨ after.duplicates ≠ server.duplicates := by
      rcases errs with violation | duplicate | readFailed
      · exact Or.inl violation
      · exact Or.inr duplicate
      · exact absurd readFailed failed
    obtain ⟨same, charged, reported⟩ := violation_step stepped violated
    constructor
    · intro settles
      have counted := settles.reported
      rcases reported with ⟨frame, rest, -, -, silent⟩ | ⟨fresh, -⟩
      · omega
      · refine Or.inr ⟨fresh, ?_⟩
        intro stream invocation object listed found
        by_contra live
        obtain ⟨new, present, ended, -⟩ :=
          settles.ended stream invocation object listed found (by simpa using live)
        rw [same, found] at present
        obtain rfl := Option.some.inj present
        exact live ended
    · rintro (readFailed | ⟨fresh, terminal⟩)
      · exact absurd readFailed failed
      · constructor
        · intro stream invocation object listed found live
          simp [terminal stream invocation object listed found] at live
        · intro stream invocation object listed found live
          simp [terminal stream invocation object listed found] at live
        · rcases reported with ⟨frame, rest, reading, again, -⟩ | ⟨-, told⟩
          · simp [fresh frame rest reading] at again
          · omega

end Steps

end ServerConnection

end Errors

/-- The handler of a request is running, and the frame at hand is a response. -/
def responseArrived : Option (ServerConnection fun _ : Unit => UInt8) :=
  Reachability.run (ServerConnection.step byteRegistry byteCodec) Reachability.unguarded
    (ServerConnection.create {})
    (serverReads [byteRequest 1 5 .none, makeErrorFrame ⟨3⟩ .decodeError] ++
      [.dispatchNext, .startHandler 0])

/-- The violation leaves the operation of the running handler active. -/
theorem connection_errors_fails :
    ∃ (server after : ServerConnection fun _ : Unit => UInt8),
      ServerConnection.Reachable byteRegistry byteCodec Reachability.unguarded {} server ∧
      server.step byteRegistry byteCodec .dispatchNext = some after ∧
      server.Errs .dispatchNext after ∧ ¬ server.Settles byteRegistry byteCodec after := by
  have reads : responseArrived.bind (fun server =>
      (server.step byteRegistry byteCodec .dispatchNext).map fun after =>
        (server.operations.lookup ⟨1⟩, server.invocations.map fun object =>
          object.operation.isTerminal, server.violations.length, after.violations.length,
          after.invocations.map fun object => object.operation.isTerminal)) =
      some (some 0, [false], 0, 1, [false]) := by
    decide +kernel
  obtain ⟨server, reached, read⟩ := Option.bind_eq_some_iff.mp reads
  obtain ⟨after, stepped, facts⟩ := Option.map_eq_some_iff.mp read
  obtain ⟨listed, before, none, one, still⟩ : server.operations.lookup ⟨1⟩ = some 0 ∧
      (server.invocations.map fun object => object.operation.isTerminal) = [false] ∧
      server.violations.length = 0 ∧ after.violations.length = 1 ∧
      (after.invocations.map fun object => object.operation.isTerminal) = [false] := by
    simpa using facts
  refine ⟨server, after, Reachability.run_reaches _ _ _ _ _ reached, stepped, Or.inl ?_, ?_⟩
  · intro same
    rw [same, none] at one
    omega
  · intro settles
    have live : ∀ invocations : List (Invocation fun _ : Unit => UInt8),
        (invocations.map fun object => object.operation.isTerminal) = [false] →
        ∃ object, invocations[0]? = some object ∧ object.operation.isTerminal = false := by
      intro invocations single
      obtain ⟨object, rfl, active⟩ := List.map_eq_singleton_iff.mp single
      exact ⟨object, rfl, active⟩
    obtain ⟨object, found, active⟩ := live _ before
    obtain ⟨later, present, running⟩ := live _ still
    obtain ⟨new, here, ended, -⟩ := settles.ended ⟨1⟩ 0 object listed found active
    obtain rfl : later = new := Option.some.inj (present.symm.trans here)
    simp [running] at ended

/-- The handler of a request is running, and the connection waits for bytes. -/
def requestRunning : Option (ServerConnection fun _ : Unit => UInt8) :=
  Reachability.run (ServerConnection.step byteRegistry byteCodec) Reachability.unguarded
    (ServerConnection.create {})
    (serverReads [byteRequest 1 5 .none] ++ [.dispatchNext, .startHandler 0, .dispatchNext])

/-- A failed read settles the running operation. -/
theorem connection_errors_readFailed :
    ∃ server after, requestRunning = some server ∧ server.activeHandlers = 1 ∧
      server.step byteRegistry byteCodec (.readFailed true) = some after ∧
      server.Settles byteRegistry byteCodec after := by
  have reads : requestRunning.bind (fun server =>
      (server.step byteRegistry byteCodec (.readFailed true)).map fun _ =>
        server.activeHandlers) = some 1 := by
    decide +kernel
  obtain ⟨server, reached, read⟩ := Option.bind_eq_some_iff.mp reads
  obtain ⟨after, stepped, one⟩ := Option.map_eq_some_iff.mp read
  refine ⟨server, after, reached, one, stepped, ?_⟩
  exact (ServerConnection.connection_errors (Reachability.run_reaches _ _ _ _ _ reached) stepped
    (Or.inr (Or.inr ⟨true, rfl⟩))).mpr (Or.inl ⟨true, rfl⟩)

end Rillnet
