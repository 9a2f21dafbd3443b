import Rillnet.ClientConnection

/-!
# Steps of a client connection

`Acts` lists what the events other than the loop over frames do, each with the
condition under which it can happen; a fact about all of them is proved by cases on it.
-/

namespace Rillnet

namespace ClientConnection

section Acting

variable {τ : Type} [DecidableEq τ] {ν : τ → Type} (registry : MessageRegistry τ)
  (codec : Codec τ ν) (client : ClientConnection ν)

/-- What an event other than the loop over frames does. -/
inductive Acts : ClientEvent ν → ClientConnection ν → Prop where
  | run (fresh : client.reader = .notStarted) : Acts .run client.run
  | startWriter (queue : WriteQueue) (started : client.writeQueue.run = some queue)
      (running : client.reader ≠ .notStarted) :
      Acts .startWriter { client with writeQueue := queue }
  | startReader (spawned : client.reader = .spawned)
      (started : client.writeQueue.writer ≠ .notStarted) : Acts .startReader client.continueReading
  | startRequest (type : τ) (value : ν type) (response : τ) (deadline : Option Deadline) :
      Acts (.startRequest type value response deadline)
        (client.startRequest registry codec type value response deadline)
  | resumeEnqueue (request : Nat) (queue : WriteQueue) (result : Option WriteResult)
      (resumed : client.writeQueue.resumeEnqueue request = some (queue, result)) :
      Acts (.resumeEnqueue request) (client.afterOffer request (queue, result))
  | abortEnqueue (request : Nat) (message : String) (queue : WriteQueue)
      (aborted : client.writeQueue.abortEnqueue request message = some queue) :
      Acts (.abortEnqueue request message) { client with writeQueue := queue }
  | cancel (request : Nat) (message : String) (object : PendingRequest ν)
      (found : client.requests[request]? = some object) (owned : object.owner = .handle) :
      Acts (.cancel request message) (client.cancelPending request message).1
  | timerExpires (request : Nat) (object : PendingRequest ν)
      (found : client.requests[request]? = some object) (waiting : object.timer = .waiting) :
      Acts (.timerExpires request)
        (client.modifyRequest request fun object => { object with timer := .expired })
  | timerExpired (request : Nat) (object : PendingRequest ν)
      (found : client.requests[request]? = some object) (expired : object.timer = .expired) :
      Acts (.timerHandler request)
        ((client.modifyRequest request fun object =>
          { object with timer := .done }).timeoutPending request)
  | timerCancelled (request : Nat) (object : PendingRequest ν)
      (found : client.requests[request]? = some object) (cancelled : object.timer = .cancelled) :
      Acts (.timerHandler request)
        (client.modifyRequest request fun object => { object with timer := .done })
  | destroyHandle (request : Nat) (object : PendingRequest ν)
      (found : client.requests[request]? = some object)
      (idle : object.owner = .handle ∧ object.channel.waiting = [] ∧ object.resumed = []) :
      Acts (.destroyHandle request) ((client.discardPending request).modifyRequest request
        fun object => { object with owner := .released })
  | asyncWait (request : Nat) (object : PendingRequest ν)
      (found : client.requests[request]? = some object) (owned : object.owner = .handle) :
      Acts (.asyncWait request) (client.modifyRequest request PendingRequest.asyncWait)
  | resumeWait (request wait : Nat) (object : PendingRequest ν) (taken : Option Frame)
      (found : client.requests[request]? = some object)
      (listed : object.resumed.lookup wait = some taken) :
      Acts (.resumeWait request wait) (client.resumeWait registry codec request wait taken)
  | abortWait (request wait : Nat) (object : PendingRequest ν)
      (found : client.requests[request]? = some object) (waits : wait ∈ object.channel.waiting) :
      Acts (.abortWait request wait) (client.modifyRequest request fun object =>
        { object with
          channel := object.channel.withdraw wait
          resumed := object.resumed ++ [(wait, none)] })
  | received (bytes : Buffer) (awaiting : client.reader = .awaiting)
      (sized : 0 < bytes.length ∧ bytes.length ≤ 4096) :
      Acts (.received bytes) (client.received bytes)
  | endOfFile (closes : Bool) (awaiting : client.reader = .awaiting) :
      Acts (.endOfFile closes)
        { client with transportOpen := client.transportOpen && !closes }.finishReading
  | readFailed (closes : Bool) (awaiting : client.reader = .awaiting) :
      Acts (.readFailed closes)
        { client with transportOpen := client.transportOpen && !closes }.finishReading
  | shutdown (expired : Bool) : Acts (.shutdown expired) (client.shutdown expired)
  | drainTick (expired aborted : Bool) (suspended : client.drains ≠ 0) :
      Acts (.drainTick expired aborted) (client.drainTick expired aborted)
  | resumeWriter (queue : WriteQueue) (resumed : client.writeQueue.resumeRun = some queue) :
      Acts .resumeWriter { client with
        writeQueue := queue
        sent := if client.transportOpen then client.sent ++ client.writeQueue.inHand
          else client.sent }
  | writeCompleted (queue : WriteQueue) (frame : Frame)
      (completed : client.writeQueue.writeCompleted = some (queue, frame)) :
      Acts .writeCompleted (({ client with writeQueue := queue }.notify
        { type := .bytesTransferred, bytes := (encodeFrame frame).length }).notify
          { type := .messageTransferred, stream := frame.header.stream })
  | writeFailed (what : String) (queue : WriteQueue)
      (failed : client.writeQueue.writeFailed what = some queue) :
      Acts (.writeFailed what) { client with writeQueue := queue, transportOpen := false }

/-- What a step of the connection does. -/
inductive Advances : ClientEvent ν → ClientConnection ν → Prop where
  | dispatches (frame : Frame) (rest : List Frame)
      (reading : client.reader = .dispatching (frame :: rest)) :
      Advances .dispatchNext (client.dispatchFrame frame rest)
  | leaves (reading : client.reader = .dispatching []) : Advances .dispatchNext client.endBatch
  | acts {event : ClientEvent ν} {after : ClientConnection ν}
      (other : ∀ frames, client.reader ≠ .dispatching frames)
      (acts : client.Acts registry codec event after) : Advances event after

variable {registry codec}

/-- There is nothing else an event does. -/
theorem act_acts {event : ClientEvent ν} {after : ClientConnection ν}
    (acted : client.act registry codec event = some after) :
    client.Acts registry codec event after := by
  cases event with
  | run =>
    obtain ⟨fresh, started⟩ := Option.ite_none_right_eq_some.mp acted
    obtain rfl := Option.some.inj started
    exact .run fresh
  | startWriter =>
    obtain ⟨running, begun⟩ := Option.ite_none_left_eq_some.mp acted
    obtain ⟨queue, started, rfl⟩ := Option.map_eq_some_iff.mp begun
    exact .startWriter queue started running
  | startReader =>
    obtain ⟨⟨spawned, started⟩, reads⟩ := Option.ite_none_right_eq_some.mp acted
    obtain rfl := Option.some.inj reads
    exact .startReader spawned started
  | startRequest type value response deadline =>
    obtain rfl := Option.some.inj acted
    exact .startRequest type value response deadline
  | resumeEnqueue request =>
    obtain ⟨⟨queue, result⟩, resumed, rfl⟩ := Option.map_eq_some_iff.mp acted
    exact .resumeEnqueue request queue result resumed
  | abortEnqueue request message =>
    obtain ⟨queue, aborted, rfl⟩ := Option.map_eq_some_iff.mp acted
    exact .abortEnqueue request message queue aborted
  | cancel request message =>
    simp only [act] at acted
    split at acted
    · rename_i object found
      obtain ⟨owned, cancelled⟩ := Option.ite_none_right_eq_some.mp acted
      obtain rfl := Option.some.inj cancelled
      exact .cancel request message object found owned
    · simp at acted
  | timerExpires request =>
    simp only [act] at acted
    split at acted
    · rename_i object found
      obtain ⟨waiting, expired⟩ := Option.ite_none_right_eq_some.mp acted
      obtain rfl := Option.some.inj expired
      exact .timerExpires request object found waiting
    · simp at acted
  | timerHandler request =>
    simp only [act] at acted
    split at acted
    · rename_i object found
      split at acted
      · rename_i expired
        obtain rfl := Option.some.inj acted
        exact .timerExpired request object found expired
      · rename_i cancelled
        obtain rfl := Option.some.inj acted
        exact .timerCancelled request object found cancelled
      · simp at acted
    · simp at acted
  | destroyHandle request =>
    simp only [act] at acted
    split at acted
    · rename_i object found
      obtain ⟨idle, destroyed⟩ := Option.ite_none_right_eq_some.mp acted
      obtain rfl := Option.some.inj destroyed
      exact .destroyHandle request object found idle
    · simp at acted
  | asyncWait request =>
    simp only [act] at acted
    split at acted
    · rename_i object found
      obtain ⟨owned, waits⟩ := Option.ite_none_right_eq_some.mp acted
      obtain rfl := Option.some.inj waits
      exact .asyncWait request object found owned
    · simp at acted
  | resumeWait request wait =>
    simp only [act] at acted
    split at acted
    · rename_i object found
      obtain ⟨taken, listed, rfl⟩ := Option.map_eq_some_iff.mp acted
      exact .resumeWait request wait object taken found listed
    · simp at acted
  | abortWait request wait =>
    simp only [act] at acted
    split at acted
    · rename_i object found
      obtain ⟨waits, aborted⟩ := Option.ite_none_right_eq_some.mp acted
      obtain rfl := Option.some.inj aborted
      exact .abortWait request wait object found waits
    · simp at acted
  | received bytes =>
    obtain ⟨⟨awaiting, sized⟩, pushed⟩ := Option.ite_none_right_eq_some.mp acted
    obtain rfl := Option.some.inj pushed
    exact .received bytes awaiting sized
  | endOfFile closes =>
    obtain ⟨awaiting, ended⟩ := Option.ite_none_right_eq_some.mp acted
    obtain rfl := Option.some.inj ended
    exact .endOfFile closes awaiting
  | readFailed closes =>
    obtain ⟨awaiting, ended⟩ := Option.ite_none_right_eq_some.mp acted
    obtain rfl := Option.some.inj ended
    exact .readFailed closes awaiting
  | dispatchNext => simp [act] at acted
  | shutdown expired =>
    obtain rfl := Option.some.inj acted
    exact .shutdown expired
  | drainTick expired aborted =>
    obtain ⟨suspended, ticked⟩ := Option.ite_none_left_eq_some.mp acted
    obtain rfl := Option.some.inj ticked
    exact .drainTick expired aborted suspended
  | resumeWriter =>
    obtain ⟨queue, resumed, rfl⟩ := Option.map_eq_some_iff.mp acted
    exact .resumeWriter queue resumed
  | writeCompleted =>
    obtain ⟨⟨queue, frame⟩, completed, rfl⟩ := Option.map_eq_some_iff.mp acted
    exact .writeCompleted queue frame completed
  | writeFailed what =>
    obtain ⟨queue, failed, rfl⟩ := Option.map_eq_some_iff.mp acted
    exact .writeFailed what queue failed

/-- There is nothing else a step does. -/
theorem step_advances {event : ClientEvent ν} {after : ClientConnection ν}
    (stepped : client.step registry codec event = some after) :
    client.Advances registry codec event after := by
  unfold step at stepped
  split at stepped
  · rename_i frame rest reading
    obtain rfl := Option.some.inj stepped
    exact .dispatches frame rest reading
  · rename_i reading
    obtain rfl := Option.some.inj stepped
    exact .leaves reading
  · simp at stepped
  · rename_i other _ _
    exact .acts other (client.act_acts stepped)

end Acting

end ClientConnection

end Rillnet
