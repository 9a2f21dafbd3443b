import Rillnet.SessionServing

/-!
# A session at rest

What is known of a session that can be served no more, while both transports are open: the
queues are idle, everything that was sent was read and dispatched, no call is suspended and
no wait has its result still before it. A request that waits for its answer is then with a
handler of the application, or the server gave it up.
-/

namespace Rillnet

open FrameGrammar (encodeFrames meaning)

section Resting

variable {τ : Type} {ν : τ → Type} [DecidableEq τ]
variable {registry : MessageRegistry τ} {codec : Codec τ ν}

/-- The read loop was started, and it ends only with the transport. -/
structure ConnectionShell.Listens (shell : ConnectionShell) : Prop where
  started : shell.reader ≠ .notStarted
  ends : shell.reader = .finished → shell.transportOpen = false

theorem ConnectionShell.Listens.kept {before after : ConnectionShell} (listens : before.Listens)
    (reader : after.reader = before.reader) (usable : after.transportOpen = before.transportOpen) :
    after.Listens :=
  ⟨reader ▸ listens.started, fun finished => usable ▸ listens.ends (reader ▸ finished)⟩

/-- A read loop that reads or dispatches listens. -/
theorem ConnectionShell.Listens.of_busy {shell : ConnectionShell}
    (busy : shell.reader = .awaiting ∨ ∃ frames, shell.reader = .dispatching frames) :
    shell.Listens := by
  rcases busy with awaiting | ⟨frames, dispatching⟩
  · exact ⟨by simp [awaiting], by simp [awaiting]⟩
  · exact ⟨by simp [dispatching], by simp [dispatching]⟩

/-- A shell that waits for bytes dispatched all the frames that it was fed. -/
theorem ConnectionShell.Fed.all {shell : ConnectionShell} {frames : List Frame}
    (fed : shell.Fed (encodeFrames frames)) (awaiting : shell.reader = .awaiting)
    (valid : ∀ frame ∈ frames, validateFrame frame = .none) : shell.dispatched = frames := by
  have whole := fed.whole (by simp [awaiting]) (by simp [awaiting])
  rw [FrameGrammar.meaning_encoded defaultMaxPayloadSize frames valid, awaiting] at whole
  simpa [Reader.batch] using whole

/-- Nobody is suspended in the queue, and its writer waits for a frame or has returned. -/
def WriteQueue.still (queue : WriteQueue) : Bool :=
  queue.run.isNone && queue.resumeRun.isNone && queue.writeCompleted.isNone &&
    queue.producers.entries.isEmpty

theorem WriteQueue.idle_of_still {queue : WriteQueue} (still : queue.still = true) : queue.Idle := by
  simp only [WriteQueue.still, Bool.and_eq_true, Option.isNone_iff_eq_none, List.isEmpty_iff] at still
  obtain ⟨⟨⟨started, resumed⟩, completed⟩, alone⟩ := still
  refine ⟨started, resumed, completed, fun producer => ?_⟩
  have absent : queue.producers.lookup producer = none := by
    rw [AList.lookup, alone, List.dlookup_nil]
  simp [resumeEnqueue, absent]

namespace ClientConnection

variable {client after : ClientConnection ν}

omit [DecidableEq τ] in
theorem continueReading_listens (client : ClientConnection ν) :
    client.continueReading.shell.Listens := by
  unfold continueReading
  split
  · exact .of_busy (Or.inl rfl)
  · rename_i closed
    rw [finishReading_shell]
    exact ⟨by simp, fun _ => by simpa [shell] using closed⟩

/-- A client that goes on by itself does not stop listening. -/
theorem serves_listens (listens : client.shell.Listens) (sound : client.decoder.error = none)
    {event : ClientEvent ν} (serving : event.serves = true)
    (stepped : client.step registry codec event = some after) : after.shell.Listens := by
  cases client.step_advances stepped with
  | dispatches frame rest reading => exact .of_busy (Or.inr ⟨_, rfl⟩)
  | leaves reading =>
    unfold endBatch
    rw [sound]
    exact client.continueReading_listens
  | acts _ acts =>
    cases acts with
    | startWriter queue started => exact listens.kept rfl rfl
    | startReader spawned => exact client.continueReading_listens
    | resumeEnqueue request queue result resumed =>
      obtain ⟨frame, -, offered⟩ :=
        client.writeQueue.resumeEnqueue_effect request queue result resumed
      rw [client.afterOffer_shell request (queue, result) offered.same_written]
      exact listens
    | resumeWait request wait object posted found listed =>
      rw [client.resumeWait_shell request registry codec wait posted]
      exact listens
    | resumeWriter queue resumed => exact listens.kept rfl rfl
    | writeCompleted queue frame completed => exact listens.kept rfl rfl
    | _ => simp [ClientEvent.serves] at serving

/-- A client that cannot go on by itself. -/
structure Rests (client : ClientConnection ν) : Prop where
  idle : client.writeQueue.Idle
  quiet : ∀ (request : Nat) (object : PendingRequest ν),
    client.requests[request]? = some object → object.resumed = []

theorem rests_of_stuck (awaiting : client.reader = .awaiting)
    (stuck : ∀ event : ClientEvent ν, event.serves = true →
      client.step registry codec event = none) : client.Rests := by
  have acts : ∀ event : ClientEvent ν, event.serves = true →
      client.act registry codec event = none := by
    intro event serving
    rw [← client.step_idle event (by simp [awaiting])]
    exact stuck event serving
  constructor
  · constructor
    · have none := acts .startWriter rfl
      simpa [act, awaiting] using none
    · exact Option.map_eq_none_iff.mp (acts .resumeWriter rfl)
    · exact Option.map_eq_none_iff.mp (acts .writeCompleted rfl)
    · exact fun producer => Option.map_eq_none_iff.mp (acts (.resumeEnqueue producer) rfl)
  · intro request object found
    cases posted : object.resumed with
    | nil => rfl
    | cons entry rest =>
      have none := acts (.resumeWait request entry.1) rfl
      simp [act, found, posted] at none

/-- Nothing serves a resting client that waits for bytes. -/
theorem Rests.stuck (rests : client.Rests) (awaiting : client.reader = .awaiting)
    {event : ClientEvent ν} (serving : event.serves = true) :
    client.step registry codec event = none := by
  rw [client.step_idle event (by simp [awaiting])]
  cases event with
  | startWriter => simp [act, awaiting, rests.idle.started]
  | startReader => simp [act, awaiting]
  | resumeEnqueue request => exact Option.map_eq_none_iff.mpr (rests.idle.resumes request)
  | resumeWait request wait =>
    cases found : client.requests[request]? with
    | none => simp [act, found]
    | some object => simp [act, found, rests.quiet request object found]
  | dispatchNext => rfl
  | resumeWriter => exact Option.map_eq_none_iff.mpr rests.idle.resumed
  | writeCompleted => exact Option.map_eq_none_iff.mpr rests.idle.completed
  | _ => simp [ClientEvent.serves] at serving

end ClientConnection

namespace ServerConnection

variable {server after : ServerConnection ν}

omit [DecidableEq τ] in
theorem continueReading_listens (server : ServerConnection ν) :
    server.continueReading.shell.Listens := by
  unfold continueReading
  split
  · exact .of_busy (Or.inl rfl)
  · rename_i closed
    rw [finishReading_shell]
    exact ⟨by simp, fun _ => by simpa [shell] using closed⟩

/-- A server that goes on by itself does not stop listening. -/
theorem serves_listens (listens : server.shell.Listens) (sound : server.decoder.error = none)
    {event : ServerEvent ν} (serving : event.serves = true)
    (stepped : server.step registry codec event = some after) : after.shell.Listens := by
  cases server.step_advances stepped with
  | dispatches frame rest reading => exact .of_busy (Or.inr ⟨_, rfl⟩)
  | leaves reading =>
    unfold endBatch
    rw [sound]
    exact server.continueReading_listens
  | acts acts =>
    cases acts with
    | startWriter queue started => exact listens.kept rfl rfl
    | startReader spawned => exact server.continueReading_listens
    | startHandler invocation object found spawned =>
      rw [startHandler_shell]
      exact listens
    | resumeEnqueue invocation queue result resumed =>
      obtain ⟨frame, -, offered⟩ :=
        server.writeQueue.resumeEnqueue_effect invocation queue result resumed
      rw [server.afterOffer_shell invocation (queue, result) offered.same_written]
      exact listens
    | resumeWriter queue resumed => exact listens.kept rfl rfl
    | writeCompleted queue frame completed => exact listens.kept rfl rfl
    | _ => simp [ServerEvent.serves] at serving

/-- A server that cannot go on by itself. -/
structure Rests (server : ServerConnection ν) : Prop where
  idle : server.writeQueue.Idle
  started : ∀ (invocation : Nat) (object : Invocation ν),
    server.invocations[invocation]? = some object → object.stage ≠ .spawned

theorem step_awaiting (awaiting : server.reader = .awaiting) (event : ServerEvent ν) :
    server.step registry codec event = server.act registry codec event := by
  simp [step, awaiting]

theorem rests_of_stuck (awaiting : server.reader = .awaiting)
    (stuck : ∀ event : ServerEvent ν, event.serves = true →
      server.step registry codec event = none) : server.Rests := by
  have acts : ∀ event : ServerEvent ν, event.serves = true →
      server.act registry codec event = none := by
    intro event serving
    rw [← server.step_awaiting awaiting event]
    exact stuck event serving
  constructor
  · constructor
    · have none := acts .startWriter rfl
      simpa [act, awaiting] using none
    · exact Option.map_eq_none_iff.mp (acts .resumeWriter rfl)
    · exact Option.map_eq_none_iff.mp (acts .writeCompleted rfl)
    · exact fun producer => Option.map_eq_none_iff.mp (acts (.resumeEnqueue producer) rfl)
  · intro invocation object found spawned
    have none := acts (.startHandler invocation) rfl
    simp [act, found, spawned] at none

/-- Nothing serves a resting server that waits for bytes. -/
theorem Rests.stuck (rests : server.Rests) (awaiting : server.reader = .awaiting)
    {event : ServerEvent ν} (serving : event.serves = true) :
    server.step registry codec event = none := by
  rw [server.step_awaiting awaiting event]
  cases event with
  | startWriter => simp [act, awaiting, rests.idle.started]
  | startReader => simp [act, awaiting]
  | startHandler invocation =>
    cases found : server.invocations[invocation]? with
    | none => simp [act, found]
    | some object => simp [act, found, rests.started invocation object found]
  | resumeEnqueue invocation => exact Option.map_eq_none_iff.mpr (rests.idle.resumes invocation)
  | dispatchNext => rfl
  | resumeWriter => exact Option.map_eq_none_iff.mpr rests.idle.resumed
  | writeCompleted => exact Option.map_eq_none_iff.mpr rests.idle.completed
  | _ => simp [ServerEvent.serves] at serving

end ServerConnection

namespace Survey

variable {survey before after final : Survey ν}
variable {guard : Session ν → SessionEvent ν → Prop} {clientLimits serverLimits : WriteQueueLimits}
variable {maximumStreamId : UInt64}

/-- Both read loops were started, and they end only with their transports. -/
def Listens (survey : Survey ν) : Prop :=
  survey.session.client.shell.Listens ∧ survey.session.server.shell.Listens

theorem Serves.listens (serves : before.Serves registry codec after)
    (reachable : Reachable registry codec guard clientLimits serverLimits maximumStreamId before)
    (listens : before.Listens) : after.Listens := by
  obtain ⟨event, serving, stepped⟩ := serves
  have joined := reachable.session.joined
  have moves := (step_eq stepped).1
  cases event with
  | client event =>
    rw [before.session.client_step serving] at moves
    obtain ⟨client, moved, same⟩ := Option.map_eq_some_iff.mp moves
    rw [Listens, ← same]
    exact ⟨ClientConnection.serves_listens listens.1 joined.down.2 serving moved, listens.2⟩
  | server event =>
    rw [before.session.server_step serving] at moves
    obtain ⟨server, moved, same⟩ := Option.map_eq_some_iff.mp moves
    rw [Listens, ← same]
    exact ⟨listens.1, ServerConnection.serves_listens listens.2 joined.up.2 serving moved⟩
  | serverReads count =>
    obtain ⟨-, read⟩ := Option.ite_none_right_eq_some.mp moves
    obtain ⟨server, moved, same⟩ := Option.map_eq_some_iff.mp read
    rw [Listens, ← same]
    cases before.session.server.step_acts moved (by simp) with
    | received => exact ⟨listens.1, .of_busy (Or.inr ⟨_, rfl⟩)⟩
  | clientReads count =>
    obtain ⟨-, read⟩ := Option.ite_none_right_eq_some.mp moves
    obtain ⟨client, moved, same⟩ := Option.map_eq_some_iff.mp read
    rw [Listens, ← same]
    cases before.session.client.step_advances moved with
    | acts _ acts =>
      cases acts with
      | received => exact ⟨.of_busy (Or.inr ⟨_, rfl⟩), listens.2⟩

/-- A session that can be served no more. -/
structure Rests (survey : Survey ν) : Prop where
  client : survey.session.client.Rests
  server : survey.session.server.Rests
  up : survey.session.upRead = (encodeFrames survey.session.client.sent).length
  down : survey.session.downRead = (encodeFrames survey.session.server.sent).length

/-- Nothing serves it. -/
theorem stuck_of_over (ended : Loop.Over (Serves registry codec) survey) (event : SessionEvent ν)
    (serving : event.serves = true) : survey.session.step registry codec event = none := by
  cases stepped : survey.session.step registry codec event with
  | none => rfl
  | some after =>
    exact absurd ⟨event, serving, by rw [step, stepped, Option.map_some]⟩ (ended _)

theorem client_stuck (ended : Loop.Over (Serves registry codec) survey) (event : ClientEvent ν)
    (serving : event.serves = true) : survey.session.client.step registry codec event = none := by
  have stuck := stuck_of_over ended (.client event) serving
  rw [survey.session.client_step serving] at stuck
  exact Option.map_eq_none_iff.mp stuck

theorem server_stuck (ended : Loop.Over (Serves registry codec) survey) (event : ServerEvent ν)
    (serving : event.serves = true) : survey.session.server.step registry codec event = none := by
  have stuck := stuck_of_over ended (.server event) serving
  rw [survey.session.server_step serving] at stuck
  exact Option.map_eq_none_iff.mp stuck

/-- The readers of a session that can be served no more wait for bytes. -/
theorem awaiting_of_over (ended : Loop.Over (Serves registry codec) survey)
    (listens : survey.Listens) (clientOpen : survey.session.client.transportOpen = true)
    (serverOpen : survey.session.server.transportOpen = true) :
    survey.session.client.reader = .awaiting ∧ survey.session.server.reader = .awaiting := by
  constructor
  · cases reading : survey.session.client.reader with
    | awaiting => rfl
    | notStarted => exact absurd reading listens.1.started
    | finished =>
      have closed := listens.1.ends reading
      change survey.session.client.transportOpen = false at closed
      simp [clientOpen] at closed
    | spawned =>
      -- the writer starts first, and then the reader
      have stuck := client_stuck ended .startReader rfl
      have idle := client_stuck ended .startWriter rfl
      have waits : survey.session.client.writeQueue.writer = .notStarted := by
        simpa [ClientConnection.step, ClientConnection.act, reading] using stuck
      simp [ClientConnection.step, ClientConnection.act, reading, WriteQueue.run, waits] at idle
    | dispatching frames =>
      have stuck := client_stuck ended .dispatchNext rfl
      cases frames <;> simp [ClientConnection.step, reading] at stuck
  · cases reading : survey.session.server.reader with
    | awaiting => rfl
    | notStarted => exact absurd reading listens.2.started
    | finished =>
      have closed := listens.2.ends reading
      change survey.session.server.transportOpen = false at closed
      simp [serverOpen] at closed
    | spawned =>
      -- the writer starts first, and then the reader
      have stuck := server_stuck ended .startReader rfl
      have idle := server_stuck ended .startWriter rfl
      have waits : survey.session.server.writeQueue.writer = .notStarted := by
        simpa [ServerConnection.step, ServerConnection.act, reading] using stuck
      simp [ServerConnection.step, ServerConnection.act, reading, WriteQueue.run, waits] at idle
    | dispatching frames =>
      have stuck := server_stuck ended .dispatchNext rfl
      cases frames <;> simp [ServerConnection.step, reading] at stuck

/-- One byte can be read as long as there is one. -/
theorem transferred_one {frames : List Frame} {read : Nat}
    (more : read < (encodeFrames frames).length) :
    (Session.transferred frames read 1).length = 1 := by
  rw [Session.transferred, List.length_take, List.length_drop]
  omega

theorem rests_of_over (ended : Loop.Over (Serves registry codec) survey)
    (joined : survey.session.Joined) (clientAwaits : survey.session.client.reader = .awaiting)
    (serverAwaits : survey.session.server.reader = .awaiting) : survey.Rests where
  client := ClientConnection.rests_of_stuck clientAwaits (client_stuck ended)
  server := ServerConnection.rests_of_stuck serverAwaits (server_stuck ended)
  up := by
    refine Nat.le_antisymm joined.upBound (Nat.le_of_not_lt fun more => ?_)
    have one := transferred_one more
    have stuck := stuck_of_over ended (.serverReads 1) rfl
    simp [Session.step, one, ServerConnection.step, ServerConnection.act, serverAwaits] at stuck
  down := by
    refine Nat.le_antisymm joined.downBound (Nat.le_of_not_lt fun more => ?_)
    have one := transferred_one more
    have stuck := stuck_of_over ended (.clientReads 1) rfl
    simp [Session.step, one, ClientConnection.step, ClientConnection.act, clientAwaits] at stuck

theorem transferred_all (frames : List Frame) (count : Nat) :
    Session.transferred frames (encodeFrames frames).length count = [] := by
  simp [Session.transferred]

/-- Nothing serves a session at rest whose readers wait for bytes. -/
theorem Rests.over (rests : survey.Rests) (clientAwaits : survey.session.client.reader = .awaiting)
    (serverAwaits : survey.session.server.reader = .awaiting) :
    Loop.Over (Serves registry codec) survey := by
  rintro after ⟨event, serving, stepped⟩
  have moves := (step_eq stepped).1
  cases event with
  | client event =>
    rw [survey.session.client_step serving, rests.client.stuck clientAwaits serving] at moves
    simp at moves
  | server event =>
    rw [survey.session.server_step serving, rests.server.stuck serverAwaits serving] at moves
    simp at moves
  | serverReads count =>
    rw [Session.step, rests.up, transferred_all] at moves
    simp [ServerConnection.step, ServerConnection.act, serverAwaits] at moves
  | clientReads count =>
    rw [Session.step, rests.down, transferred_all] at moves
    simp [ClientConnection.step, ClientConnection.act, clientAwaits] at moves

/-- A run that serves and does nothing else. -/
theorem rounds_of_served (served : Reachability.Reaches (step registry codec)
    (fun _ event => event.serves = true) before after) :
    ∃ count, Loop.Rounds (Serves registry codec) before count after := by
  induction served with
  | start => exact ⟨0, .start⟩
  | next _ serving stepped inductionHypothesis =>
    obtain ⟨count, rounds⟩ := inductionHypothesis
    exact ⟨count + 1, .next rounds ⟨_, serving, stepped⟩⟩

/-- When serving a running session ends with both transports open, the session is at rest. -/
theorem rests_of_ends (admits : ∀ session event, event.serves = true → guard session event)
    (reachable : Reachable registry codec guard clientLimits serverLimits maximumStreamId survey)
    (listens : survey.Listens) {count : Nat}
    (ends : Loop.Ends (Serves registry codec) survey count final)
    (clientOpen : final.session.client.transportOpen = true)
    (serverOpen : final.session.server.transportOpen = true) :
    Reachable registry codec guard clientLimits serverLimits maximumStreamId final ∧
      final.session.client.reader = .awaiting ∧ final.session.server.reader = .awaiting ∧
      final.Rests := by
  obtain ⟨rounds, ended⟩ := ends
  obtain ⟨reached, listening⟩ := rounds.invariant (fun survey =>
    Reachable registry codec guard clientLimits serverLimits maximumStreamId survey ∧
      survey.Listens) ⟨reachable, listens⟩ fun before after both serves =>
        ⟨serves.reachable admits both.1, serves.listens both.1 both.2⟩
  obtain ⟨clientAwaits, serverAwaits⟩ := awaiting_of_over ended listening clientOpen serverOpen
  exact ⟨reached, clientAwaits, serverAwaits,
    rests_of_over ended reached.session.joined clientAwaits serverAwaits⟩

/-- A check that finds a session at rest. -/
def still (survey : Survey ν) : Bool :=
  survey.session.client.writeQueue.still && survey.session.server.writeQueue.still &&
    survey.session.client.requests.all (fun object => object.resumed.isEmpty) &&
    survey.session.server.invocations.all (fun object => object.stage ≠ .spawned) &&
    survey.session.upRead == (encodeFrames survey.session.client.sent).length &&
    survey.session.downRead == (encodeFrames survey.session.server.sent).length

omit [DecidableEq τ] in
theorem rests_of_still (still : survey.still = true) : survey.Rests := by
  simp only [Survey.still, Bool.and_eq_true, List.all_eq_true, List.isEmpty_iff, beq_iff_eq,
    decide_eq_true_iff] at still
  obtain ⟨⟨⟨⟨⟨client, server⟩, quiet⟩, started⟩, up⟩, down⟩ := still
  exact ⟨⟨WriteQueue.idle_of_still client, fun _ object found =>
      quiet object (List.mem_of_getElem? found)⟩,
    ⟨WriteQueue.idle_of_still server, fun _ object found =>
      started object (List.mem_of_getElem? found)⟩, up, down⟩

section Reached

variable (reachable : Reachable registry codec guard clientLimits serverLimits maximumStreamId survey)
variable (clientOpen : survey.session.client.transportOpen = true)
variable (serverOpen : survey.session.server.transportOpen = true)
variable (rests : survey.Rests)
include reachable clientOpen serverOpen rests

/-- At rest everything that was accepted was sent. -/
theorem Rests.sent : survey.session.client.sent = survey.session.client.writeQueue.accepted ∧
    survey.session.server.sent = survey.session.server.writeQueue.accepted := by
  have ready := reachable.session.ready
  have clientWhole : ¬ survey.session.client.writeQueue.broken := by
    intro broken
    have closed := ClientConnection.Reachable.broken_closed reachable.session.clientRun broken
    simp [clientOpen] at closed
  have serverWhole : ¬ survey.session.server.writeQueue.broken := by
    intro broken
    have closed := ServerConnection.Reachable.broken_closed reachable.session.serverRun broken
    simp [serverOpen] at closed
  exact ⟨(ready.joined.client.transmits.usable clientOpen).trans
      (ready.client.idle_written rests.client.idle clientWhole),
    (ready.joined.server.transmits.usable serverOpen).trans
      (ready.server.idle_written rests.server.idle serverWhole)⟩

/-- At rest everything that was accepted was dispatched. -/
theorem Rests.dispatched (clientAwaits : survey.session.client.reader = .awaiting)
    (serverAwaits : survey.session.server.reader = .awaiting) :
    survey.session.server.dispatched = survey.session.client.writeQueue.accepted ∧
      survey.session.client.dispatched = survey.session.server.writeQueue.accepted := by
  have joined := reachable.session.joined
  obtain ⟨clientSent, serverSent⟩ := rests.sent reachable clientOpen serverOpen
  have serverFed := joined.serverFed
  have clientFed := joined.clientFed
  rw [rests.up, List.take_length, clientSent] at serverFed
  rw [rests.down, List.take_length, serverSent] at clientFed
  exact ⟨serverFed.all serverAwaits joined.client_valid,
    clientFed.all clientAwaits joined.server_valid⟩

/-- At rest a request that still waits is with a handler of the application, or was given
up. -/
theorem Rests.attended (clientAwaits : survey.session.client.reader = .awaiting)
    (serverAwaits : survey.session.server.reader = .awaiting) {request : Nat}
    {object : PendingRequest ν} (found : survey.session.client.requests[request]? = some object) :
    object.owner ≠ .starting ∧ (object.removed = false →
      ∃ position, object.requestIndex = some position ∧
        ((∃ (invocation : Nat) (handler : Invocation ν),
          survey.session.server.invocations[invocation]? = some handler ∧
          handler.inbound = position ∧ handler.stage = .handling) ∨
        position ∈ survey.abandoned)) := by
  have ready := reachable.session.ready
  have client := reachable.session.clientRun
  obtain ⟨read, heard⟩ :=
    rests.dispatched reachable clientOpen serverOpen clientAwaits serverAwaits
  have returned : object.owner ≠ .starting := by
    intro starting
    have holds := ClientConnection.Reachable.suspends client request object found starting
    rw [ready.client.idle_held rests.client.idle] at holds
    simp at holds
  refine ⟨returned, ?_⟩
  intro listed
  obtain ⟨position, index⟩ := Option.isSome_iff_exists.mp
    (ClientConnection.Reachable.numbered client request object found listed returned)
  obtain ⟨frame, accepted, -⟩ :=
    (ClientConnection.Reachable.indexed client).framed request object position found index
  refine ⟨position, index, ?_⟩
  cases reachable.located clientOpen serverOpen request object position found listed index with
  | sent undelivered =>
    have bound := (List.getElem?_eq_some_iff.mp accepted).1
    change survey.session.server.dispatched.length ≤ position at undelivered
    change position < survey.session.client.writeQueue.accepted.length at bound
    rw [read] at undelivered
    omega
  | attended invocation handler present inbound unfinished =>
    left
    refine ⟨invocation, handler, present, inbound, ?_⟩
    cases stage : handler.stage with
    | handling => rfl
    | spawned => exact absurd stage (rests.server.started invocation handler present)
    | finished => exact absurd stage unfinished
    | responding =>
      have holds := ServerConnection.Reachable.holds reachable.session.serverRun invocation handler
        present stage
      change (survey.session.server.writeQueue.held invocation).isSome at holds
      rw [ready.server.idle_held rests.server.idle] at holds
      simp at holds
  | answered place frame undelivered answer answers =>
    have bound := (List.getElem?_eq_some_iff.mp answer).1
    change survey.session.client.dispatched.length ≤ place at undelivered
    change place < survey.session.server.writeQueue.accepted.length at bound
    rw [heard] at undelivered
    omega
  | abandoned member => exact Or.inr member

end Reached

variable (registry codec) in
/-- A session that is served comes to rest. From every reachable state the two sides can go on
by themselves and read only so often, whatever goes first, and they can go on until nothing is
left to do. If both were running and both transports are then open, every frame that one side
accepted was dispatched by the other, every `start_request` has returned, every wait has
returned or stands in line at an open channel, and every request in the map of the client is
with a handler of the application or was given up by the server. -/
theorem serving_settles (clientLimits serverLimits : WriteQueueLimits) (maximumStreamId : UInt64)
    (survey : Survey ν)
    (reachable : Reachable registry codec Reachability.unguarded clientLimits serverLimits
      maximumStreamId survey) (listens : survey.Listens) :
    (∀ count later, Loop.Rounds (Serves registry codec) survey count later →
      count ≤ survey.session.load) ∧
    (∃ count final, Loop.Ends (Serves registry codec) survey count final) ∧
    ∀ count final, Loop.Ends (Serves registry codec) survey count final →
      final.session.client.transportOpen = true → final.session.server.transportOpen = true →
      final.session.server.dispatched = final.session.client.writeQueue.accepted ∧
      final.session.client.dispatched = final.session.server.writeQueue.accepted ∧
      ∀ (request : Nat) (object : PendingRequest ν),
        final.session.client.requests[request]? = some object →
        object.owner ≠ .starting ∧
        (∀ wait < object.waits, wait ∈ object.returned.map Prod.fst ∨
          wait ∈ object.channel.waiting ∧ object.channel.closed = false) ∧
        (object.removed = false → ∃ position, object.requestIndex = some position ∧
          ((∃ (invocation : Nat) (handler : Invocation ν),
            final.session.server.invocations[invocation]? = some handler ∧
            handler.inbound = position ∧ handler.stage = .handling) ∨
          position ∈ final.abandoned)) := by
  have admits : ∀ (session : Session ν) (event : SessionEvent ν), event.serves = true →
      Reachability.unguarded session event := fun _ _ _ => trivial
  have preserved : ∀ before after, Reachable registry codec Reachability.unguarded clientLimits
      serverLimits maximumStreamId before → before.Serves registry codec after →
      Reachable registry codec Reachability.unguarded clientLimits serverLimits maximumStreamId
        after :=
    fun before after reached serves => serves.reachable admits reached
  have decreases : ∀ before after, Reachable registry codec Reachability.unguarded clientLimits
      serverLimits maximumStreamId before → before.Serves registry codec after →
      after.session.load < before.session.load :=
    fun before after reached serves => serves.load reached
  refine ⟨?_, ?_, ?_⟩
  · intro count later rounds
    have bounded := rounds.bounded _ (fun survey => survey.session.load) reachable preserved decreases
    omega
  · exact Loop.exists_ends _ (fun survey => survey.session.load) reachable preserved decreases
  · intro count final ends clientOpen serverOpen
    obtain ⟨reached, clientAwaits, serverAwaits, rests⟩ :=
      rests_of_ends admits reachable listens ends clientOpen serverOpen
    have ready := reached.session.ready
    obtain ⟨read, heard⟩ := rests.dispatched reached clientOpen serverOpen clientAwaits serverAwaits
    refine ⟨read, heard, ?_⟩
    intro request object found
    obtain ⟨returned, attended⟩ :=
      rests.attended reached clientOpen serverOpen clientAwaits serverAwaits found
    refine ⟨returned, ?_, attended⟩
    intro wait begun
    rcases (ready.accounted request object found).place begun with line | resumed | heard
    · right
      refine ⟨line, ?_⟩
      by_contra closed
      rw [object.channel.ended (by simpa using closed)] at line
      simp at line
    · simp [rests.client.quiet request object found] at resumed
    · exact Or.inl heard

end Survey

end Resting

namespace Survey

/-- A client that has just sent its first request, to a server that is running. -/
def asked : Option (Survey fun _ : Unit => UInt8) :=
  Reachability.run (step byteRegistry byteCodec)
    (fun survey => Reachability.unguarded survey.session) (create {} {} 0xFFFFFFFFFFFFFFFF)
    [.client .run, .client .startWriter, .client .startReader, .server (.handle () ()), .server .run,
      .server .startWriter, .server .startReader, .client (.startRequest () 5 () none)]

/-- The request is sent, read and dispatched, and its handler starts. -/
def attend (survey : Survey fun _ : Unit => UInt8) : Option (Survey fun _ : Unit => UInt8) :=
  Reachability.run (step byteRegistry byteCodec) (fun _ event => event.serves = true) survey
    [.client .resumeWriter, .client .writeCompleted, .serverReads 23, .server .dispatchNext,
      .server (.startHandler 0), .server .dispatchNext]

/-- When the session of the first request rests, the request is with its handler. -/
theorem serving_settles_asked :
    ∃ survey count final, asked = some survey ∧
      Loop.Ends (Serves byteRegistry byteCodec) survey count final ∧
      count ≤ survey.session.load ∧
      ∃ (invocation : Nat) (handler : Invocation fun _ : Unit => UInt8),
        final.session.server.invocations[invocation]? = some handler ∧
        handler.inbound = 0 ∧ handler.stage = .handling := by
  have reads : asked.bind (fun survey => (attend survey).bind fun final =>
      final.session.client.requests[0]?.map fun object =>
        (decide (survey.session.client.reader = .awaiting ∧
            survey.session.server.reader = .awaiting ∧
            final.session.client.reader = .awaiting ∧ final.session.server.reader = .awaiting ∧
            final.session.client.transportOpen = true ∧ final.session.server.transportOpen = true),
          final.still, final.abandoned, object.removed, object.requestIndex)) =
      some (true, true, [], false, some 0) := by
    decide +kernel
  obtain ⟨survey, started, read⟩ := Option.bind_eq_some_iff.mp reads
  obtain ⟨final, served, read⟩ := Option.bind_eq_some_iff.mp read
  obtain ⟨object, found, facts⟩ := Option.map_eq_some_iff.mp read
  simp only [Prod.mk.injEq, decide_eq_true_iff] at facts
  obtain ⟨⟨client, server, clientAwaits, serverAwaits, clientOpen, serverOpen⟩, still, abandoned,
    listed, index⟩ := facts
  obtain ⟨count, rounds⟩ := rounds_of_served (Reachability.run_reaches _ _ _ _ _ served)
  have ends : Loop.Ends (Serves byteRegistry byteCodec) survey count final :=
    ⟨rounds, (rests_of_still still).over clientAwaits serverAwaits⟩
  obtain ⟨bounded, -, settled⟩ := serving_settles byteRegistry byteCodec {} {} 0xFFFFFFFFFFFFFFFF
    survey (Reachability.run_reaches _ _ _ _ _ started)
    ⟨.of_busy (Or.inl client), .of_busy (Or.inl server)⟩
  obtain ⟨-, -, requests⟩ := settled count final ends clientOpen serverOpen
  obtain ⟨-, -, waits⟩ := requests 0 object found
  obtain ⟨position, same, ⟨invocation, handler, present, inbound, handling⟩ | member⟩ := waits listed
  · obtain rfl : position = 0 := Option.some.inj (same.symm.trans index)
    exact ⟨survey, count, final, started, ends, bounded count final rounds, invocation, handler,
      present, inbound, handling⟩
  · simp [abandoned] at member

end Survey

end Rillnet
