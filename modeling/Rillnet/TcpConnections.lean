import Rillnet.TcpEndpoint
import Rillnet.ConnectionQueues
import Rillnet.Session

/-!
# The connections as endpoints

Client and server connection are endpoints in the same way, and both are lawful: their
own steps do not touch what is being written and wait for a read until its outcome comes,
and the outcomes of the transport change what the transport sees as it expects.
-/

namespace Rillnet

namespace ConnectionShell

variable {vacated : Prop} {input : Buffer} {before after : ConnectionShell}

/-- A read is begun on an open transport only. -/
theorem Turn.begins (turn : Turn vacated before input after) (awaiting : after.reader = .awaiting)
    (fresh : before.reader ≠ .awaiting) : after.transportOpen = true := by
  cases turn with
  | awaits begun sound usable => exact usable
  | run | received | seen | accused | severed | ended | malformed => cases awaiting
  | kept | shutdown | closed | ticked | sent | lost => exact absurd awaiting fresh

/-- Nothing is given to the transport in a step in which the writer takes nothing. -/
theorem Turn.gives_nothing (turn : Turn vacated before input after)
    (written : after.written = before.written) : after.sent = before.sent := by
  cases turn with
  | sent frames =>
    obtain rfl : frames = [] := by simpa using written
    simp
  | kept | run | awaits | received | seen | accused | severed | ended | malformed | shutdown | closed
  | ticked | lost => rfl

end ConnectionShell

section Connections

variable {τ : Type} {ν : τ → Type}

/-- The client's own events: those that are neither outcomes of the transport nor the
writer's. -/
def ClientEvent.isOwn : ClientEvent ν → Bool
  | .received _ | .endOfFile _ | .readFailed _ => false
  | event => !event.drives

def ServerEvent.isOwn : ServerEvent ν → Bool
  | .received _ | .endOfFile _ | .readFailed _ => false
  | event => !event.drives

theorem ClientEvent.isOwn_drives {event : ClientEvent ν} (own : event.isOwn = true) :
    event.drives = false := by
  cases event <;> simp_all [isOwn]

theorem ServerEvent.isOwn_drives {event : ServerEvent ν} (own : event.isOwn = true) :
    event.drives = false := by
  cases event <;> simp_all [isOwn]

variable [DecidableEq τ] (registry : MessageRegistry τ) (codec : Codec τ ν)

def clientEndpoint : Endpoint (ClientConnection ν) (ClientEvent ν) where
  step := ClientConnection.step registry codec
  transportOpen := ClientConnection.transportOpen
  awaiting := fun client => decide (client.reader = .awaiting)
  underWrite := fun client => client.writeQueue.underWrite
  sent := ClientConnection.sent
  completed := fun client => client.writeQueue.completed
  own := ClientEvent.isOwn
  received := .received
  endOfFile := .endOfFile
  readFailed := .readFailed
  resumeWriter := .resumeWriter
  writeCompleted := .writeCompleted
  writeFailed := .writeFailed

def serverEndpoint : Endpoint (ServerConnection ν) (ServerEvent ν) where
  step := ServerConnection.step registry codec
  transportOpen := ServerConnection.transportOpen
  awaiting := fun server => decide (server.reader = .awaiting)
  underWrite := fun server => server.writeQueue.underWrite
  sent := ServerConnection.sent
  completed := fun server => server.writeQueue.completed
  own := ServerEvent.isOwn
  received := .received
  endOfFile := .endOfFile
  readFailed := .readFailed
  resumeWriter := .resumeWriter
  writeCompleted := .writeCompleted
  writeFailed := .writeFailed

variable {registry codec}

namespace ClientConnection

variable {client after : ClientConnection ν}

/-- The connection's own steps leave the read loop in its read. -/
theorem awaiting_kept {event : ClientEvent ν} (own : event.isOwn = true)
    (consistent : client.ledger.Consistent) (awaiting : client.reader = .awaiting)
    (stepped : client.step registry codec event = some after) : after.reader = .awaiting := by
  have same : after.shell.reader = client.shell.reader → after.reader = .awaiting :=
    fun kept => kept.trans awaiting
  cases client.step_advances stepped with
  | dispatches frame rest reading => simp [awaiting] at reading
  | leaves reading => simp [awaiting] at reading
  | acts _ acts =>
    cases acts with
    | run fresh => simp [awaiting] at fresh
    | startReader spawned => simp [awaiting] at spawned
    | startWriter | abortEnqueue => exact awaiting
    | startRequest type value response deadline => exact same (by simp)
    | resumeEnqueue request queue result resumed =>
      obtain ⟨frame, -, offered⟩ :=
        client.writeQueue.resumeEnqueue_effect request queue result resumed
      exact same (by rw [client.afterOffer_shell request (queue, result) offered.same_written])
    | cancel request message => exact same (by simp)
    | timerExpires | timerCancelled | asyncWait | abortWait => exact awaiting
    | timerExpired request => exact same (by simp)
    | destroyHandle request => exact same (by simp)
    | resumeWait request wait object posted => exact same (by simp)
    | received | endOfFile | readFailed | resumeWriter | writeCompleted | writeFailed =>
      simp [ClientEvent.isOwn, ClientEvent.drives] at own
    | shutdown expired =>
      have begun := ({ client with shutdownEntered := true } : ClientConnection ν
        ).beginShutdown_shell
      have agrees : ({ client with shutdownEntered := true } : ClientConnection ν
          ).beginShutdown.ledger.Consistent := by
        rw [beginShutdown_ledger]
        exact consistent
      refine same ?_
      rcases drain_shell _ agrees expired with ⟨-, shell_eq⟩ | shell_eq
      · rw [shutdown, shell_eq, begun]
        rfl
      · rw [shutdown, shell_eq, begun]
        rfl
    | drainTick expired aborted suspended =>
      refine same ?_
      unfold drainTick
      dsimp only
      split
      · rw [finishShutdown_shell]
        rfl
      · rcases drain_shell ({ client with drains := client.drains - 1 } : ClientConnection ν)
          consistent expired with ⟨-, shell_eq⟩ | shell_eq
        · rw [shell_eq]
          rfl
        · rw [shell_eq]
          rfl

/-- A step that does not drive the writer shows it nothing. -/
theorem step_sameWrites {event : ClientEvent ν} (idle : event.drives = false)
    (consistent : client.ledger.Consistent) (conserves : client.writeQueue.Conserves)
    (stepped : client.step registry codec event = some after) :
    (clientEndpoint registry codec).SameWrites client after := by
  have undriven : WriteQueue.Undriven (client.Enqueues registry codec event) _ :=
    WriteQueue.undriven_underWrite client.writeQueue.underWrite client.writeQueue.completed
  obtain ⟨-, underWrite, completed⟩ :=
    client.step_keeps undriven ⟨conserves, rfl, rfl⟩ (fun _ _ => id) idle stepped
  refine ⟨underWrite, ?_, completed⟩
  apply (client.step_turn event after consistent stepped).gives_nothing
  have written : WriteQueue.Undriven (client.Enqueues registry codec event)
      fun queue => queue.written = client.writeQueue.written := WriteQueue.undriven_written _
  exact client.step_keeps written rfl (fun _ _ => id) idle stepped

omit [DecidableEq τ] in
/-- The outcome of a read that returned no bytes ends the read loop. -/
theorem readEnded_effect (closes : Bool) :
    let ended := ({ client with transportOpen := client.transportOpen && !closes } :
      ClientConnection ν).finishReading
    ended.reader = .finished ∧ ended.transportOpen = (client.transportOpen && !closes) := by
  have shell_eq := ({ client with transportOpen := client.transportOpen && !closes } :
    ClientConnection ν).finishReading_shell
  exact ⟨congrArg ConnectionShell.reader shell_eq, congrArg ConnectionShell.transportOpen shell_eq⟩

end ClientConnection

/-- The client connection is lawful. -/
theorem clientEndpoint_lawful (limits : WriteQueueLimits) (maximumStreamId : UInt64) :
    (clientEndpoint registry codec : Endpoint (ClientConnection ν) (ClientEvent ν)).Lawful
      (ClientConnection.Reachable registry codec Reachability.unguarded limits maximumStreamId) where
  kept := fun _ _ _ reachable stepped => .next reachable trivial stepped
  apart := by
    rintro event bytes (own | rfl | rfl | ⟨what, rfl⟩ | ⟨closes, rfl | rfl⟩)
    · rintro rfl
      simp [clientEndpoint, ClientEvent.isOwn] at own
    all_goals simp [clientEndpoint]
  owns := by
    intro before event after reachable own stepped
    have turn := before.step_turn event after reachable.consistent stepped
    refine ⟨ClientConnection.step_sameWrites (ClientEvent.isOwn_drives own) reachable.consistent
      reachable.wired.conserves stepped, ?_, ?_, ?_⟩
    · intro usable
      by_contra shut
      have severed := turn.severs (by simpa [clientEndpoint, ClientConnection.shell] using shut)
      simp [ClientConnection.shell] at severed
      simp [clientEndpoint, severed] at usable
    · intro awaiting
      have awaiting : before.reader = .awaiting := by simpa [clientEndpoint] using awaiting
      simpa [clientEndpoint] using
        ClientConnection.awaiting_kept own reachable.consistent awaiting stepped
    · intro awaiting fresh
      have awaiting : after.reader = .awaiting := by simpa [clientEndpoint] using awaiting
      have fresh : before.reader ≠ .awaiting := by simpa [clientEndpoint] using fresh
      exact turn.begins awaiting fresh
  receives := by
    intro before bytes after reachable stepped
    refine ⟨ClientConnection.step_sameWrites rfl reachable.consistent reachable.wired.conserves
      stepped, ?_⟩
    cases before.step_advances stepped with
    | acts _ acts =>
      cases acts with
      | received bytes awaiting sized => exact ⟨rfl, rfl⟩
  ends := by
    intro before closes after reachable stepped
    rcases stepped with stepped | stepped
    · refine ⟨ClientConnection.step_sameWrites rfl reachable.consistent reachable.wired.conserves
        stepped, ?_⟩
      cases before.step_advances stepped with
      | acts _ acts =>
        cases acts with
        | endOfFile closes awaiting =>
          obtain ⟨finished, usable⟩ := before.readEnded_effect closes
          exact ⟨decide_eq_false (by rw [finished]; decide), usable⟩
    · refine ⟨ClientConnection.step_sameWrites rfl reachable.consistent reachable.wired.conserves
        stepped, ?_⟩
      cases before.step_advances stepped with
      | acts _ acts =>
        cases acts with
        | readFailed closes awaiting =>
          obtain ⟨finished, usable⟩ := before.readEnded_effect closes
          exact ⟨decide_eq_false (by rw [finished]; decide), usable⟩
  resumes := by
    intro before after reachable stepped
    cases before.step_advances stepped with
    | acts _ acts =>
      cases acts with
      | resumeWriter queue resumed =>
        obtain ⟨idle, completed, stage⟩ := WriteQueue.resumeRun_underWrite resumed
        refine ⟨rfl, rfl, completed, idle, ?_⟩
        rcases stage with ⟨none, vacant⟩ | ⟨frame, writing, hand⟩
        · exact Or.inl ⟨none, by simp [clientEndpoint, vacant]⟩
        · exact Or.inr ⟨frame, writing, by rw [hand]; rfl⟩
  completes := by
    intro before after reachable stepped
    cases before.step_advances stepped with
    | acts _ acts =>
      cases acts with
      | writeCompleted queue frame completed =>
        obtain ⟨writing, idle, joined⟩ := reachable.driven.writeCompleted_underWrite completed
        exact ⟨frame, writing, idle, joined, rfl, rfl, rfl⟩
  fails := by
    intro before what after reachable stepped
    cases before.step_advances stepped with
    | acts _ acts =>
      cases acts with
      | writeFailed what queue failed =>
        obtain ⟨idle, completed⟩ := WriteQueue.writeFailed_underWrite failed
        exact ⟨idle, completed, rfl, rfl, rfl⟩

namespace ServerConnection

variable {server after : ServerConnection ν}

/-- The connection's own steps leave the read loop in its read. -/
theorem awaiting_kept {event : ServerEvent ν} (own : event.isOwn = true)
    (awaiting : server.reader = .awaiting)
    (stepped : server.step registry codec event = some after) : after.reader = .awaiting := by
  have same : after.shell.reader = server.shell.reader → after.reader = .awaiting :=
    fun kept => kept.trans awaiting
  cases server.step_advances stepped with
  | dispatches frame rest reading => simp [awaiting] at reading
  | leaves reading => simp [awaiting] at reading
  | acts acts =>
    cases acts with
    | handle request response =>
      refine same ?_
      unfold handle
      split <;> rfl
    | run fresh => simp [awaiting] at fresh
    | startReader spawned => simp [awaiting] at spawned
    | startWriter | abortEnqueue => exact awaiting
    | startHandler invocation object => exact same (by simp)
    | handlerReturns invocation type value object => exact same (by simp)
    | handlerThrows invocation object => exact same (by simp)
    | resumeEnqueue invocation queue result resumed =>
      obtain ⟨frame, -, offered⟩ :=
        server.writeQueue.resumeEnqueue_effect invocation queue result resumed
      exact same (by rw [server.afterOffer_shell invocation (queue, result) offered.same_written])
    | received | endOfFile | readFailed | resumeWriter | writeCompleted | writeFailed =>
      simp [ServerEvent.isOwn, ServerEvent.drives] at own
    | shutdown expired =>
      have begun := ({ server with shutdownEntered := true } : ServerConnection ν
        ).beginShutdown_shell
      refine same ?_
      rcases drain_shell ({ server with shutdownEntered := true } : ServerConnection ν
        ).beginShutdown expired with shell_eq | shell_eq
      · rw [shutdown, shell_eq, begun]
        rfl
      · rw [shutdown, shell_eq, begun]
        rfl
    | drainTick expired aborted suspended =>
      refine same ?_
      unfold drainTick
      dsimp only
      split
      · rw [finishShutdown_shell]
        rfl
      · rcases drain_shell ({ server with drains := server.drains - 1 } : ServerConnection ν)
          expired with shell_eq | shell_eq
        · rw [shell_eq]
          rfl
        · rw [shell_eq]
          rfl

/-- A step that does not drive the writer shows it nothing. -/
theorem step_sameWrites {event : ServerEvent ν} (idle : event.drives = false)
    (conserves : server.writeQueue.Conserves)
    (stepped : server.step registry codec event = some after) :
    (serverEndpoint registry codec).SameWrites server after := by
  have undriven : WriteQueue.Undriven (server.Enqueues registry codec event) _ :=
    WriteQueue.undriven_underWrite server.writeQueue.underWrite server.writeQueue.completed
  obtain ⟨-, underWrite, completed⟩ :=
    server.step_keeps undriven ⟨conserves, rfl, rfl⟩ (fun _ _ => id) idle stepped
  refine ⟨underWrite, ?_, completed⟩
  apply (server.step_turn event after stepped).gives_nothing
  have written : WriteQueue.Undriven (server.Enqueues registry codec event)
      fun queue => queue.written = server.writeQueue.written := WriteQueue.undriven_written _
  exact server.step_keeps written rfl (fun _ _ => id) idle stepped

omit [DecidableEq τ] in
/-- The outcome of a read that returned no bytes ends the read loop. -/
theorem readEnded_effect (usable lost : Bool) :
    let ended := ({ server with transportOpen := usable } : ServerConnection ν).finishReading lost
    ended.reader = .finished ∧ ended.transportOpen = usable := by
  have shell_eq := ({ server with transportOpen := usable } : ServerConnection ν
    ).finishReading_shell lost
  exact ⟨congrArg ConnectionShell.reader shell_eq, congrArg ConnectionShell.transportOpen shell_eq⟩

end ServerConnection

/-- The server connection is lawful. -/
theorem serverEndpoint_lawful (limits : WriteQueueLimits) :
    (serverEndpoint registry codec : Endpoint (ServerConnection ν) (ServerEvent ν)).Lawful
      (ServerConnection.Reachable registry codec Reachability.unguarded limits) where
  kept := fun _ _ _ reachable stepped => .next reachable trivial stepped
  apart := by
    rintro event bytes (own | rfl | rfl | ⟨what, rfl⟩ | ⟨closes, rfl | rfl⟩)
    · rintro rfl
      simp [serverEndpoint, ServerEvent.isOwn] at own
    all_goals simp [serverEndpoint]
  owns := by
    intro before event after reachable own stepped
    have turn := before.step_turn event after stepped
    refine ⟨ServerConnection.step_sameWrites (ServerEvent.isOwn_drives own)
      reachable.wired.conserves stepped, ?_, ?_, ?_⟩
    · intro usable
      by_contra shut
      have severed := turn.severs (by simpa [serverEndpoint, ServerConnection.shell] using shut)
      simp [ServerConnection.shell] at severed
      simp [serverEndpoint, severed] at usable
    · intro awaiting
      have awaiting : before.reader = .awaiting := by simpa [serverEndpoint] using awaiting
      simpa [serverEndpoint] using ServerConnection.awaiting_kept own awaiting stepped
    · intro awaiting fresh
      have awaiting : after.reader = .awaiting := by simpa [serverEndpoint] using awaiting
      have fresh : before.reader ≠ .awaiting := by simpa [serverEndpoint] using fresh
      exact turn.begins awaiting fresh
  receives := by
    intro before bytes after reachable stepped
    refine ⟨ServerConnection.step_sameWrites rfl reachable.wired.conserves stepped, ?_⟩
    cases before.step_advances stepped with
    | acts acts =>
      cases acts with
      | received bytes awaiting sized => exact ⟨rfl, rfl⟩
  ends := by
    intro before closes after reachable stepped
    rcases stepped with stepped | stepped
    · refine ⟨ServerConnection.step_sameWrites rfl reachable.wired.conserves stepped, ?_⟩
      cases before.step_advances stepped with
      | acts acts =>
        cases acts with
        | endOfFile closes awaiting =>
          obtain ⟨finished, usable⟩ :=
            before.readEnded_effect (before.transportOpen && !closes) !(before.transportOpen && !closes)
          exact ⟨decide_eq_false (by rw [finished]; decide), usable⟩
    · refine ⟨ServerConnection.step_sameWrites rfl reachable.wired.conserves stepped, ?_⟩
      cases before.step_advances stepped with
      | acts acts =>
        cases acts with
        | readFailed closes awaiting =>
          obtain ⟨finished, usable⟩ :=
            before.readEnded_effect (before.transportOpen && !closes) true
          exact ⟨decide_eq_false (by rw [finished]; decide), usable⟩
  resumes := by
    intro before after reachable stepped
    cases before.step_advances stepped with
    | acts acts =>
      cases acts with
      | resumeWriter queue resumed =>
        obtain ⟨idle, completed, stage⟩ := WriteQueue.resumeRun_underWrite resumed
        refine ⟨rfl, rfl, completed, idle, ?_⟩
        rcases stage with ⟨none, vacant⟩ | ⟨frame, writing, hand⟩
        · exact Or.inl ⟨none, by simp [serverEndpoint, vacant]⟩
        · exact Or.inr ⟨frame, writing, by rw [hand]; rfl⟩
  completes := by
    intro before after reachable stepped
    cases before.step_advances stepped with
    | acts acts =>
      cases acts with
      | writeCompleted queue frame completed =>
        obtain ⟨writing, idle, joined⟩ := reachable.driven.writeCompleted_underWrite completed
        exact ⟨frame, writing, idle, joined, rfl, rfl, rfl⟩
  fails := by
    intro before what after reachable stepped
    cases before.step_advances stepped with
    | acts acts =>
      cases acts with
      | writeFailed what queue failed =>
        obtain ⟨idle, completed⟩ := WriteQueue.writeFailed_underWrite failed
        exact ⟨idle, completed, rfl, rfl, rfl⟩

end Connections

end Rillnet
