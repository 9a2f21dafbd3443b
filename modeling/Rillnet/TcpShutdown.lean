import Rillnet.TcpServer
import Mathlib.Data.List.Nodup

/-!
# Draining the registered connections

In every run each call of `shutdown` has a channel with room for the completions of
the coroutines it spawned, and each completion was received or is on its way. What
the call waits for is another matter: the bound of its loop is the size of the vector
of handlers, which others may change. As long as nothing is registered and no other
`shutdown` is called while one waits, the bound is the number of coroutines spawned,
every registered handler is called once, and the vector is cleared of moved-from
functions only.
-/

namespace Rillnet

/-- The coroutines that have called a handler with a deadline. -/
def DrainCoroutine.called (handler : Nat) (deadline : Deadline) (drain : DrainCoroutine) : Bool :=
  decide (drain.handler = some handler) && decide (drain.deadline = deadline) &&
    decide (drain.stage ≠ .spawned)

namespace TcpServer

/-- The coroutines a call has spawned, and those of them that are done. -/
def spawnedBy (server : TcpServer) (call : Nat) : Nat :=
  server.drains.countP fun drain => decide (drain.call = call)

def finishedBy (server : TcpServer) (call : Nat) : Nat :=
  server.drains.countP fun drain => decide (drain.call = call) && decide (drain.stage = .finished)

def unfinishedBy (server : TcpServer) (call : Nat) : Nat :=
  server.drains.countP fun drain => decide (drain.call = call) && decide (drain.stage ≠ .finished)

theorem spawnedBy_eq (server : TcpServer) (call : Nat) :
    server.spawnedBy call = server.finishedBy call + server.unfinishedBy call := by
  simp only [spawnedBy, finishedBy, unfinishedBy]
  induction server.drains with
  | nil => rfl
  | cons drain rest inductionHypothesis =>
    simp only [List.countP_cons]
    by_cases own : drain.call = call
    · by_cases done : drain.stage = .finished
      · simp [own, done, inductionHypothesis]
        omega
      · simp [own, done, inductionHypothesis]
        omega
    · simp [own, inductionHypothesis]

/-- How often a handler was called with a deadline. -/
def invocations (server : TcpServer) (handler : Nat) (deadline : Deadline) : Nat :=
  server.invoked.count (handler, deadline)

/-- Calls and coroutines agree, in every run. -/
structure Counted (server : TcpServer) : Prop where
  keeps : ∀ (index : Nat) (call : ShutdownCall), server.calls[index]? = some call →
    call.Keeps (server.spawnedBy index) (server.finishedBy index)
  linked : ∀ drain ∈ server.drains, ∃ call, server.calls[drain.call]? = some call ∧
    call.deadline = drain.deadline
  sent : ∀ drain ∈ server.drains, drain.stage ≠ .sending
  called : ∀ handler deadline, server.invocations handler deadline =
    server.drains.countP (DrainCoroutine.called handler deadline)

variable {server : TcpServer}

/-- Only the calls, the coroutines and the handlers called matter. -/
theorem Counted.congr (counted : server.Counted) {other : TcpServer}
    (calls : other.calls = server.calls) (drains : other.drains = server.drains)
    (invoked : other.invoked = server.invoked) : other.Counted := by
  constructor
  · intro index call found
    have keeps := counted.keeps index call (calls ▸ found)
    simpa [spawnedBy, finishedBy, drains] using keeps
  · rw [calls, drains]
    exact counted.linked
  · rw [drains]
    exact counted.sent
  · intro handler deadline
    have called := counted.called handler deadline
    simpa [invocations, invoked, drains] using called

/-- A coroutine goes on, and its call with it. -/
theorem Counted.advance (counted : server.Counted) {other : TcpServer} {index : Nat}
    {drain : DrainCoroutine} (new : DrainCoroutine) (found : server.drains[index]? = some drain)
    (drains : other.drains = server.drains.set index new) (call : new.call = drain.call)
    (deadline : new.deadline = drain.deadline) (unsent : new.stage ≠ .sending)
    (keeps : ∀ (place : Nat) (after : ShutdownCall), other.calls[place]? = some after →
      ∃ before, server.calls[place]? = some before ∧
        (before.Keeps (server.spawnedBy place) (server.finishedBy place) →
          after.Keeps (server.spawnedBy place) (other.finishedBy place)))
    (kept : ∀ (place : Nat) (before : ShutdownCall), server.calls[place]? = some before →
      ∃ after, other.calls[place]? = some after ∧ after.deadline = before.deadline)
    (invoked : ∀ handler deadline, other.invocations handler deadline +
      (DrainCoroutine.called handler deadline drain).toNat =
      server.invocations handler deadline + (DrainCoroutine.called handler deadline new).toNat) :
    other.Counted := by
  have member : drain ∈ server.drains := List.mem_of_getElem? found
  have spawned (place : Nat) : other.spawnedBy place = server.spawnedBy place := by
    have counts := countP_set_found new found fun drain => decide (drain.call = place)
    rw [← drains, call] at counts
    simp only [spawnedBy]
    omega
  constructor
  · intro place after present
    obtain ⟨before, earlier, continues⟩ := keeps place after present
    rw [spawned place]
    exact continues (counted.keeps place before earlier)
  · intro another listed
    have reaches (place : Nat) (before : ShutdownCall) (earlier : server.calls[place]? = some before) :=
      kept place before earlier
    rw [drains] at listed
    rcases List.mem_or_eq_of_mem_set listed with old | rfl
    · obtain ⟨before, earlier, same⟩ := counted.linked another old
      obtain ⟨after, present, kept⟩ := reaches _ before earlier
      exact ⟨after, present, kept.trans same⟩
    · obtain ⟨before, earlier, same⟩ := counted.linked drain member
      obtain ⟨after, present, kept⟩ := reaches _ before earlier
      exact ⟨after, call ▸ present, (kept.trans same).trans deadline.symm⟩
  · intro another listed
    rw [drains] at listed
    rcases List.mem_or_eq_of_mem_set listed with old | rfl
    · exact counted.sent another old
    · exact unsent
  · intro handler when
    have counts := countP_set_found new found (DrainCoroutine.called handler when)
    have calls := invoked handler when
    have earlier := counted.called handler when
    rw [drains]
    omega

/-- The same while one call is about to test its loop. -/
structure Testing (server : TcpServer) (index : Nat) (call : ShutdownCall) : Prop where
  found : server.calls[index]? = some call
  tests : call.Tests (server.spawnedBy index) (server.finishedBy index)
  others : ∀ (place : Nat) (other : ShutdownCall), place ≠ index →
    server.calls[place]? = some other →
    other.Keeps (server.spawnedBy place) (server.finishedBy place)
  linked : ∀ drain ∈ server.drains, ∃ call, server.calls[drain.call]? = some call ∧
    call.deadline = drain.deadline
  sent : ∀ drain ∈ server.drains, drain.stage ≠ .sending
  called : ∀ handler deadline, server.invocations handler deadline =
    server.drains.countP (DrainCoroutine.called handler deadline)

/-- Testing the loop settles the call. -/
theorem Testing.settle {index : Nat} {call : ShutdownCall} (testing : server.Testing index call)
    {other : TcpServer} (new : ShutdownCall) (calls : other.calls = server.calls.set index new)
    (drains : other.drains = server.drains) (invoked : other.invoked = server.invoked)
    (keeps : new.Keeps (server.spawnedBy index) (server.finishedBy index))
    (deadline : new.deadline = call.deadline) : other.Counted := by
  have read := getElem?_set_found new testing.found
  constructor
  · intro place after present
    rw [calls, read] at present
    simp only [spawnedBy, finishedBy, drains]
    split at present
    · rename_i same
      obtain rfl := Option.some.inj present
      exact same ▸ keeps
    · rename_i different
      exact testing.others place after different present
  · rw [drains]
    intro drain member
    obtain ⟨before, earlier, same⟩ := testing.linked drain member
    rw [calls, read]
    by_cases here : drain.call = index
    · have before_eq : call = before :=
        Option.some.inj (testing.found.symm.trans (here ▸ earlier))
      exact ⟨new, if_pos here, deadline.trans (before_eq ▸ same)⟩
    · exact ⟨before, (if_neg here).trans earlier, same⟩
  · rw [drains]
    exact testing.sent
  · intro handler when
    have called := testing.called handler when
    simpa [invocations, invoked, drains] using called

theorem Testing.continueShutdown {index : Nat} {call : ShutdownCall}
    (testing : server.Testing index call) : (server.continueShutdown index).Counted := by
  unfold TcpServer.continueShutdown
  rw [testing.found]
  dsimp only
  split
  · exact testing.settle call.receive rfl rfl rfl testing.tests.receive.1 call.receive_deadline
  · exact testing.settle { call with stage := .returned } rfl rfl rfl testing.tests.returns rfl

/-- A completed drain coroutine has told its call. -/
theorem Counted.finishDrain (counted : server.Counted) {index : Nat} {drain : DrainCoroutine}
    (found : server.drains[index]? = some drain) (running : drain.stage ≠ .finished)
    (uncalled : drain.stage = .spawned → drain.handler = none) :
    ∃ before after, server.calls[drain.call]? = some before ∧ before.send = some after ∧
      (after.stage = .returned ↔ before.stage = .returned) ∧ after.index = before.index ∧
      after.spawned = before.spawned ∧
      server.finishDrain index drain = { server with
        drains := server.drains.set index { drain with stage := .finished }
        calls := server.calls.set drain.call after } ∧
      (server.finishDrain index drain).Counted := by
  have member : drain ∈ server.drains := List.mem_of_getElem? found
  obtain ⟨before, earlier, same⟩ := counted.linked drain member
  have keeps := counted.keeps drain.call before earlier
  have more : server.finishedBy drain.call < server.spawnedBy drain.call := by
    have unfinished : 0 < server.unfinishedBy drain.call :=
      List.countP_pos_iff.mpr ⟨drain, member, by simp [running]⟩
    have total := server.spawnedBy_eq drain.call
    omega
  obtain ⟨after, sent, still, deadline, index_eq, returned⟩ := keeps.send more
  have finished : server.finishDrain index drain = { server with
      drains := server.drains.set index { drain with stage := .finished }
      calls := server.calls.set drain.call after } := by
    simp [TcpServer.finishDrain, earlier, sent]
  refine ⟨before, after, earlier, sent, returned, index_eq, ?_, finished, ?_⟩
  · exact still.count.trans keeps.count.symm
  · rw [finished]
    have read := getElem?_set_found after earlier
    have counts (place : Nat) : (server.drains.set index { drain with stage := .finished }).countP
        (fun drain => decide (drain.call = place) && decide (drain.stage = .finished)) =
        server.finishedBy place + (decide (drain.call = place)).toNat := by
      have written := countP_set_found { drain with stage := .finished } found
        fun drain => decide (drain.call = place) && decide (drain.stage = .finished)
      simpa [finishedBy, running] using written
    apply counted.advance { drain with stage := .finished } found rfl rfl rfl (by simp)
    · intro place new present
      dsimp only at present
      rw [read] at present
      split at present
      · rename_i here
        subst here
        obtain rfl := Option.some.inj present
        refine ⟨before, earlier, fun _ => ?_⟩
        simpa [finishedBy, counts] using still
      · rename_i elsewhere
        refine ⟨new, present, fun kept => ?_⟩
        simpa [finishedBy, counts, Ne.symm elsewhere] using kept
    · intro place old present
      dsimp only
      rw [read]
      by_cases here : place = drain.call
      · have old_eq : before = old := Option.some.inj (earlier.symm.trans (here ▸ present))
        exact ⟨after, if_pos here, old_eq ▸ deadline⟩
      · exact ⟨old, (if_neg here).trans present, rfl⟩
    · intro handler when
      have same : DrainCoroutine.called handler when { drain with stage := .finished } =
          DrainCoroutine.called handler when drain := by
        by_cases fresh : drain.stage = .spawned
        · simp [DrainCoroutine.called, uncalled fresh]
        · simp [DrainCoroutine.called, fresh]
      rw [same]
      rfl

/-- A drain coroutine has called its handler. -/
theorem Counted.startDrain (counted : server.Counted) {index handler : Nat} {drain : DrainCoroutine}
    (found : server.drains[index]? = some drain) (spawned : drain.stage = .spawned)
    (present : drain.handler = some handler) : (server.startDrain index drain).Counted := by
  have started : server.startDrain index drain = { server with
      drains := server.drains.set index { drain with stage := .draining }
      invoked := server.invoked ++ [(handler, drain.deadline)] } := by
    simp [TcpServer.startDrain, present]
  rw [started]
  have counts (place : Nat) : (server.drains.set index { drain with stage := .draining }).countP
      (fun drain => decide (drain.call = place) && decide (drain.stage = .finished)) =
      server.finishedBy place := by
    have written := countP_set_found { drain with stage := .draining } found
      fun drain => decide (drain.call = place) && decide (drain.stage = .finished)
    simpa [finishedBy, spawned] using written
  apply counted.advance { drain with stage := .draining } found rfl rfl rfl (by simp)
  · intro place after here
    refine ⟨after, here, fun kept => ?_⟩
    simpa [finishedBy, counts] using kept
  · exact fun place before here => ⟨before, here, rfl⟩
  · intro other when
    have quiet : DrainCoroutine.called other when drain = false := by
      simp [DrainCoroutine.called, spawned]
    have spoken : DrainCoroutine.called other when { drain with stage := .draining } =
        decide ((handler, drain.deadline) = (other, when)) := by
      simp [DrainCoroutine.called, present]
    rw [quiet, spoken]
    by_cases same : (handler, drain.deadline) = (other, when)
    · simp [invocations, same]
    · simp [invocations, List.count_append, same]

theorem Counted.resumeShutdown (counted : server.Counted) {index : Nat} {call : ShutdownCall}
    (found : server.calls[index]? = some call) (resumed : call.stage = .resumed) :
    (server.resumeShutdown index call).Counted := by
  have read := getElem?_set_found { call with index := call.index + 1 } found
  apply Testing.continueShutdown
  refine ⟨(read index).trans (if_pos rfl), (counted.keeps index call found).tests resumed, ?_, ?_,
    counted.sent, counted.called⟩
  · intro place other elsewhere present
    dsimp only at present
    rw [read, if_neg elsewhere] at present
    exact counted.keeps place other present
  · intro drain member
    obtain ⟨before, earlier, same⟩ := counted.linked drain member
    dsimp only
    rw [read]
    by_cases here : drain.call = index
    · have before_eq : call = before := Option.some.inj (found.symm.trans (here ▸ earlier))
      exact ⟨_, if_pos here, before_eq ▸ same⟩
    · exact ⟨before, (if_neg here).trans earlier, same⟩

/-- The server once a call has spawned its coroutines. -/
def spawn (server : TcpServer) (deadline : Deadline) : TcpServer :=
  { server.stop with
    calls := server.calls ++ [{
      deadline := deadline
      completion := Channel.fresh server.connectionShutdownHandlers.length
      spawned := server.connectionShutdownHandlers.length }]
    drains := server.drains ++ server.connectionShutdownHandlers.map fun handler =>
      { handler := handler, call := server.calls.length, deadline := deadline }
    connectionShutdownHandlers := server.connectionShutdownHandlers.map fun _ => none }

theorem shutdown_eq (server : TcpServer) (deadline : Deadline) :
    server.shutdown deadline = (server.spawn deadline).continueShutdown server.calls.length := rfl

theorem Counted.earlier (counted : server.Counted) {drain : DrainCoroutine}
    (member : drain ∈ server.drains) : drain.call < server.calls.length := by
  obtain ⟨call, found, -⟩ := counted.linked drain member
  exact (List.getElem?_eq_some_iff.mp found).1

/-- No coroutine belongs to a call that is yet to come. -/
theorem Counted.unspawned (counted : server.Counted) :
    server.spawnedBy server.calls.length = 0 := by
  apply List.countP_eq_zero.mpr
  intro drain member
  have earlier := counted.earlier member
  simp only [decide_eq_true_eq]
  omega

theorem spawn_spawnedBy (server : TcpServer) (deadline : Deadline) (place : Nat) :
    (server.spawn deadline).spawnedBy place = server.spawnedBy place +
      if server.calls.length = place then server.connectionShutdownHandlers.length else 0 := by
  simp only [spawnedBy, spawn, List.countP_append, List.countP_map]
  by_cases here : server.calls.length = place
  · simp [here, Function.comp_def]
  · simp [here, Function.comp_def]

theorem spawn_finishedBy (server : TcpServer) (deadline : Deadline) (place : Nat) :
    (server.spawn deadline).finishedBy place = server.finishedBy place := by
  simp [finishedBy, spawn, List.countP_map, Function.comp_def]

theorem Counted.spawn (counted : server.Counted) (deadline : Deadline) :
    (server.spawn deadline).Testing server.calls.length {
      deadline := deadline
      completion := Channel.fresh server.connectionShutdownHandlers.length
      spawned := server.connectionShutdownHandlers.length } := by
  have unspawned := counted.unspawned
  have unfinished : server.finishedBy server.calls.length = 0 := by
    have total := server.spawnedBy_eq server.calls.length
    omega
  constructor
  · simp [TcpServer.spawn]
  · rw [spawn_spawnedBy, spawn_finishedBy, unspawned, unfinished, if_pos rfl, Nat.zero_add]
    exact ⟨rfl, rfl, rfl, rfl, rfl⟩
  · intro place other elsewhere present
    rw [spawn_spawnedBy, spawn_finishedBy, if_neg (Ne.symm elsewhere)]
    rcases getElem?_append_singleton present with earlier | ⟨here, -⟩
    · exact counted.keeps place other earlier
    · exact absurd here elsewhere
  · intro drain member
    rcases List.mem_append.mp member with old | new
    · obtain ⟨call, found, same⟩ := counted.linked drain old
      exact ⟨call, getElem?_append_found found, same⟩
    · obtain ⟨handler, -, rfl⟩ := List.mem_map.mp new
      exact ⟨_, List.getElem?_concat_length, rfl⟩
  · intro drain member
    rcases List.mem_append.mp member with old | new
    · exact counted.sent drain old
    · obtain ⟨handler, -, rfl⟩ := List.mem_map.mp new
      simp
  · intro handler when
    have called := counted.called handler when
    have fresh : (server.connectionShutdownHandlers.map fun handler =>
        ({ handler := handler, call := server.calls.length, deadline := deadline } :
          DrainCoroutine)).countP (DrainCoroutine.called handler when) = 0 := by
      apply List.countP_eq_zero.mpr
      intro drain new
      obtain ⟨handler, -, rfl⟩ := List.mem_map.mp new
      simp [DrainCoroutine.called]
    simp only [TcpServer.spawn, List.countP_append, fresh, Nat.add_zero]
    exact called

/-- Registering leaves everything but the vector alone. -/
theorem registerAll_same (registrations : Nat) (server : TcpServer) :
    (Nat.iterate registerConnectionShutdown registrations server).calls = server.calls ∧
    (Nat.iterate registerConnectionShutdown registrations server).drains = server.drains ∧
    (Nat.iterate registerConnectionShutdown registrations server).invoked = server.invoked ∧
    (Nat.iterate registerConnectionShutdown registrations server).discarded = server.discarded := by
  induction registrations generalizing server with
  | zero => exact ⟨rfl, rfl, rfl, rfl⟩
  | succ registrations inductionHypothesis =>
    exact inductionHypothesis server.registerConnectionShutdown

theorem Counted.acceptCompleted (counted : server.Counted) (registrations : Nat) :
    (server.acceptCompleted registrations).Counted := by
  unfold TcpServer.acceptCompleted
  dsimp only
  split
  · obtain ⟨calls, drains, invoked, -⟩ := registerAll_same registrations server
    exact counted.congr calls drains invoked
  · exact counted.congr rfl rfl rfl

theorem Counted.acceptFailed (counted : server.Counted) (aborted : Bool) :
    (server.acceptFailed aborted).Counted := by
  unfold TcpServer.acceptFailed
  split
  · exact counted.congr rfl rfl rfl
  · exact counted.congr rfl rfl rfl

/-- Every step keeps calls and coroutines in agreement. -/
theorem Counted.step (counted : server.Counted) {event : TcpServerEvent} {after : TcpServer}
    (stepped : server.step event = some after) : after.Counted := by
  cases step_acts stepped with
  | onConnection | registerConnectionShutdown | stop => exact counted.congr rfl rfl rfl
  | run => exact counted.congr rfl rfl rfl
  | acceptCompleted registrations => exact counted.acceptCompleted registrations
  | acceptFailed aborted => exact counted.acceptFailed aborted
  | shutdown deadline => exact (counted.spawn deadline).continueShutdown
  | startDrain index drain found spawned =>
    cases present : drain.handler with
    | none =>
      have ends : server.startDrain index drain = server.finishDrain index drain := by
        simp [TcpServer.startDrain, present]
      rw [ends]
      obtain ⟨_, _, _, _, _, _, _, _, finished⟩ :=
        counted.finishDrain found (by simp [spawned]) fun _ => present
      exact finished
    | some handler => exact counted.startDrain found spawned present
  | drainReturns index drain found draining | drainThrows index drain found draining =>
    obtain ⟨_, _, _, _, _, _, _, _, finished⟩ :=
      counted.finishDrain found (by simp [draining]) (by simp [draining])
    exact finished
  | resumeShutdown index call found resumed => exact counted.resumeShutdown found resumed

/-- A call of `shutdown` has not returned yet. -/
def waiting (server : TcpServer) : Bool :=
  server.calls.any fun call => decide (call.stage ≠ .returned)

/-- While a call of `shutdown` waits, a handler is registered or `shutdown` is called
again. -/
def interferes (server : TcpServer) : TcpServerEvent → Bool
  | .registerConnectionShutdown | .shutdown _ => server.waiting
  | .acceptCompleted registrations =>
    server.waiting && server.connectionHandler && decide (registrations ≠ 0)
  | _ => false

def undisturbed (server : TcpServer) (event : TcpServerEvent) : Prop :=
  server.interferes event = false

instance (server : TcpServer) (event : TcpServerEvent) : Decidable (server.undisturbed event) :=
  inferInstanceAs (Decidable (_ = _))

/-- What holds as long as no waiting call is disturbed. Every handler is in the vector
or belongs to one coroutine, in the order of registration. At most one call waits, and
then the vector holds one moved-from function for each of its coroutines. -/
structure Tidy (server : TcpServer) : Prop where
  counted : server.Counted
  handled : ∀ drain ∈ server.drains, drain.handler.isSome
  order : (server.drains.map DrainCoroutine.handler ++
    server.connectionShutdownHandlers).reduceOption = List.range server.registered
  done : ∀ (index : Nat) (call : ShutdownCall), server.calls[index]? = some call →
    call.stage = .returned → call.index = call.spawned
  bound : ∀ (index : Nat) (call : ShutdownCall), server.calls[index]? = some call →
    call.stage ≠ .returned → call.index < call.spawned ∧
      server.connectionShutdownHandlers = List.replicate call.spawned none
  alone : ∀ (index place : Nat) (call other : ShutdownCall), server.calls[index]? = some call →
    call.stage ≠ .returned → server.calls[place]? = some other → other.stage ≠ .returned →
    place = index
  idle : server.waiting = false → ∀ handler ∈ server.connectionShutdownHandlers, handler.isSome
  kept : server.discarded = []

theorem waiting_false_iff :
    server.waiting = false ↔ ∀ call ∈ server.calls, call.stage = .returned := by
  simp [waiting]

/-- Nothing that matters changes. -/
theorem Tidy.congr (tidy : server.Tidy) {other : TcpServer} (calls : other.calls = server.calls)
    (drains : other.drains = server.drains) (invoked : other.invoked = server.invoked)
    (handlers : other.connectionShutdownHandlers = server.connectionShutdownHandlers)
    (registered : other.registered = server.registered)
    (discarded : other.discarded = server.discarded) : other.Tidy := by
  constructor
  · exact tidy.counted.congr calls drains invoked
  · rw [drains]
    exact tidy.handled
  · rw [drains, handlers, registered]
    exact tidy.order
  · rw [calls]
    exact tidy.done
  · rw [calls, handlers]
    exact tidy.bound
  · rw [calls]
    exact tidy.alone
  · unfold waiting
    rw [calls, handlers]
    exact tidy.idle
  · rw [discarded]
    exact tidy.kept

/-- A handler is registered while no call waits. -/
theorem Tidy.registerConnectionShutdown (tidy : server.Tidy) (quiet : server.waiting = false) :
    server.registerConnectionShutdown.Tidy := by
  have returned := waiting_false_iff.mp quiet
  constructor
  · exact tidy.counted.congr rfl rfl rfl
  · exact tidy.handled
  · have order := tidy.order
    simp only [TcpServer.registerConnectionShutdown, List.reduceOption_append, ← List.append_assoc,
      List.range_succ] at order ⊢
    rw [order]
    rfl
  · exact tidy.done
  · intro index call found unreturned
    exact absurd (returned call (List.mem_of_getElem? found)) unreturned
  · exact tidy.alone
  · intro _ handler member
    rcases List.mem_append.mp member with old | new
    · exact tidy.idle quiet handler old
    · obtain rfl := List.mem_singleton.mp new
      rfl
  · exact tidy.kept

theorem Tidy.registerAll (registrations : Nat) (tidy : server.Tidy)
    (quiet : server.waiting = false) :
    (Nat.iterate TcpServer.registerConnectionShutdown registrations server).Tidy := by
  induction registrations generalizing server with
  | zero => exact tidy
  | succ registrations inductionHypothesis =>
    exact inductionHypothesis (tidy.registerConnectionShutdown quiet) quiet

/-- The coroutines keep their handlers. -/
theorem Tidy.handled_of (tidy : server.Tidy) {other : TcpServer}
    (handlers : other.drains.map DrainCoroutine.handler =
      server.drains.map DrainCoroutine.handler) :
    ∀ drain ∈ other.drains, drain.handler.isSome := by
  intro drain member
  have listed : drain.handler ∈ server.drains.map DrainCoroutine.handler :=
    handlers ▸ List.mem_map.mpr ⟨drain, member, rfl⟩
  obtain ⟨old, present, same⟩ := List.mem_map.mp listed
  exact same ▸ tidy.handled old present

/-- One call goes on and neither returns nor comes back. -/
theorem Tidy.write (tidy : server.Tidy) {other : TcpServer} (counted : other.Counted) {index : Nat}
    {old new : ShutdownCall} (found : server.calls[index]? = some old)
    (calls : other.calls = server.calls.set index new)
    (drains : other.drains.map DrainCoroutine.handler = server.drains.map DrainCoroutine.handler)
    (handlers : other.connectionShutdownHandlers = server.connectionShutdownHandlers)
    (registered : other.registered = server.registered)
    (discarded : other.discarded = server.discarded)
    (stage : new.stage = .returned ↔ old.stage = .returned) (spawned : new.spawned = old.spawned)
    (still : new.stage = .returned → new.index = old.index)
    (fewer : new.stage ≠ .returned → new.index < new.spawned) : other.Tidy := by
  have reads (place : Nat) (call : ShutdownCall) (present : other.calls[place]? = some call) :
      (place = index ∧ call = new) ∨ (place ≠ index ∧ server.calls[place]? = some call) :=
    getElem?_set_cases found (calls ▸ present)
  have unreturned (place : Nat) (call : ShutdownCall) (present : other.calls[place]? = some call)
      (waits : call.stage ≠ .returned) :
      ∃ before, server.calls[place]? = some before ∧ before.stage ≠ .returned ∧
        before.spawned = call.spawned := by
    rcases reads place call present with ⟨rfl, rfl⟩ | ⟨-, earlier⟩
    · exact ⟨old, found, fun returned => waits (stage.mpr returned), spawned.symm⟩
    · exact ⟨call, earlier, waits, rfl⟩
  constructor
  · exact counted
  · exact tidy.handled_of drains
  · rw [drains, handlers, registered]
    exact tidy.order
  · intro place call present returned
    rcases reads place call present with ⟨rfl, rfl⟩ | ⟨-, earlier⟩
    · rw [still returned, spawned]
      exact tidy.done place old found (stage.mp returned)
    · exact tidy.done place call earlier returned
  · intro place call present waits
    obtain ⟨before, earlier, waited, same⟩ := unreturned place call present waits
    obtain ⟨less, vector⟩ := tidy.bound place before earlier waited
    refine ⟨?_, by rw [handlers, vector, same]⟩
    rcases reads place call present with ⟨-, rfl⟩ | ⟨-, again⟩
    · exact fewer waits
    · exact (tidy.bound place call again waits).1
  · intro place elsewhere call another present waits presentToo waitsToo
    obtain ⟨before, earlier, waited, -⟩ := unreturned place call present waits
    obtain ⟨beforeToo, earlierToo, waitedToo, -⟩ := unreturned elsewhere another presentToo waitsToo
    exact tidy.alone place elsewhere before beforeToo earlier waited earlierToo waitedToo
  · intro quiet
    rw [handlers]
    apply tidy.idle
    apply waiting_false_iff.mpr
    intro call member
    by_contra waits
    obtain ⟨place, present⟩ := List.mem_iff_getElem?.mp member
    have read := getElem?_set_found new found place
    have all := waiting_false_iff.mp quiet
    rw [calls] at all
    by_cases here : place = index
    · obtain rfl : old = call := Option.some.inj (found.symm.trans (here ▸ present))
      have written := read.trans (if_pos here)
      exact waits (stage.mp (all new (List.mem_of_getElem? written)))
    · have written := (read.trans (if_neg here)).trans present
      exact waits (all call (List.mem_of_getElem? written))
  · rw [discarded]
    exact tidy.kept

/-- The waiting call returns and clears the vector of moved-from functions. -/
theorem Tidy.return (tidy : server.Tidy) {other : TcpServer} (counted : other.Counted) {index : Nat}
    {old new : ShutdownCall} (found : server.calls[index]? = some old)
    (calls : other.calls = server.calls.set index new) (drains : other.drains = server.drains)
    (cleared : other.connectionShutdownHandlers = [])
    (registered : other.registered = server.registered)
    (discarded : other.discarded =
      server.discarded ++ server.connectionShutdownHandlers.reduceOption)
    (waits : old.stage ≠ .returned) (returned : new.stage = .returned)
    (all : new.index = new.spawned) : other.Tidy := by
  obtain ⟨-, vector⟩ := tidy.bound index old found waits
  have empty : server.connectionShutdownHandlers.reduceOption = [] := by
    rw [vector]
    exact List.reduceOption_replicate_none
  have ended (place : Nat) (call : ShutdownCall) (present : other.calls[place]? = some call) :
      call.stage = .returned := by
    rcases getElem?_set_cases found (calls ▸ present) with ⟨-, rfl⟩ | ⟨elsewhere, earlier⟩
    · exact returned
    · by_contra waiting
      exact elsewhere (tidy.alone index place old call found waits earlier waiting)
  constructor
  · exact counted
  · rw [drains]
    exact tidy.handled
  · have order := tidy.order
    rw [List.reduceOption_append, empty, List.append_nil] at order
    rw [drains, cleared, registered, List.append_nil]
    exact order
  · intro place call present _
    rcases getElem?_set_cases found (calls ▸ present) with ⟨-, rfl⟩ | ⟨-, earlier⟩
    · exact all
    · exact tidy.done place call earlier (ended place call present)
  · intro place call present waiting
    exact absurd (ended place call present) waiting
  · intro place elsewhere call another present waiting
    exact absurd (ended place call present) waiting
  · intro _ handler member
    simp [cleared] at member
  · rw [discarded, tidy.kept, empty]
    rfl

/-- Writing back a coroutine with its handler. -/
theorem map_handler_set {drains : List DrainCoroutine} {index : Nat} {drain : DrainCoroutine}
    (new : DrainCoroutine) (found : drains[index]? = some drain)
    (same : new.handler = drain.handler) :
    (drains.set index new).map DrainCoroutine.handler = drains.map DrainCoroutine.handler := by
  rw [List.map_set, same]
  apply set_found
  simp [found]

theorem Tidy.finishDrain (tidy : server.Tidy) {index : Nat} {drain : DrainCoroutine}
    (found : server.drains[index]? = some drain) (draining : drain.stage = .draining) :
    (server.finishDrain index drain).Tidy := by
  obtain ⟨before, after, earlier, -, stage, still, spawned, finished, counted⟩ :=
    tidy.counted.finishDrain found (by simp [draining]) (by simp [draining])
  have handlers := map_handler_set { drain with stage := .finished } found rfl
  rw [finished] at counted ⊢
  apply tidy.write counted earlier rfl handlers rfl rfl rfl stage spawned (fun _ => still)
  intro waits
  rw [still, spawned]
  exact (tidy.bound drain.call before earlier fun returned => waits (stage.mpr returned)).1

theorem Tidy.startDrain (tidy : server.Tidy) {index : Nat} {drain : DrainCoroutine}
    (found : server.drains[index]? = some drain) (spawned : drain.stage = .spawned) :
    (server.startDrain index drain).Tidy := by
  obtain ⟨handler, present⟩ := Option.isSome_iff_exists.mp
    (tidy.handled drain (List.mem_of_getElem? found))
  have counted := tidy.counted.startDrain found spawned present
  have started : server.startDrain index drain = { server with
      drains := server.drains.set index { drain with stage := .draining }
      invoked := server.invoked ++ [(handler, drain.deadline)] } := by
    simp [TcpServer.startDrain, present]
  have handlers := map_handler_set { drain with stage := .draining } found rfl
  rw [started] at counted ⊢
  constructor
  · exact counted
  · exact tidy.handled_of handlers
  · have order := tidy.order
    rw [← handlers] at order
    exact order
  · exact tidy.done
  · exact tidy.bound
  · exact tidy.alone
  · exact tidy.idle
  · exact tidy.kept

theorem Tidy.resumeShutdown (tidy : server.Tidy) {index : Nat} {call : ShutdownCall}
    (found : server.calls[index]? = some call) (resumed : call.stage = .resumed) :
    (server.resumeShutdown index call).Tidy := by
  have waits : call.stage ≠ .returned := by simp [resumed]
  obtain ⟨less, vector⟩ := tidy.bound index call found waits
  have length : server.connectionShutdownHandlers.length = call.spawned := by simp [vector]
  have counted := tidy.counted.resumeShutdown found resumed
  have tests := (tidy.counted.keeps index call found).tests resumed
  have written : (server.calls.set index { call with index := call.index + 1 })[index]? =
      some { call with index := call.index + 1 } :=
    (getElem?_set_found _ found index).trans (if_pos rfl)
  unfold TcpServer.resumeShutdown TcpServer.continueShutdown at counted ⊢
  simp only [written, List.set_set] at counted ⊢
  split at counted
  · rename_i more
    rw [if_pos more]
    apply tidy.write counted found rfl rfl rfl rfl rfl
    · simp [tests.receive.2, waits]
    · rw [ShutdownCall.receive_spawned]
    · exact fun returned => absurd returned tests.receive.2
    · intro _
      rw [ShutdownCall.receive_index, ShutdownCall.receive_spawned]
      dsimp only
      omega
  · rename_i enough
    rw [if_neg enough]
    apply tidy.return counted found rfl rfl rfl rfl rfl waits rfl
    dsimp only
    omega

/-- A new call takes all handlers while no other one waits. -/
theorem Tidy.add (tidy : server.Tidy) (quiet : server.waiting = false) {other : TcpServer}
    (counted : other.Counted) (new : ShutdownCall) (calls : other.calls = server.calls ++ [new])
    (drains : other.drains.map DrainCoroutine.handler =
      server.drains.map DrainCoroutine.handler ++ server.connectionShutdownHandlers)
    (moved : other.connectionShutdownHandlers = List.replicate new.spawned none)
    (registered : other.registered = server.registered)
    (discarded : other.discarded = server.discarded)
    (all : new.stage = .returned → new.index = new.spawned ∧ new.spawned = 0)
    (fewer : new.stage ≠ .returned → new.index < new.spawned) : other.Tidy := by
  have returned := waiting_false_iff.mp quiet
  have fresh (place : Nat) (call : ShutdownCall) (present : other.calls[place]? = some call)
      (waits : call.stage ≠ .returned) : place = server.calls.length ∧ call = new := by
    rcases getElem?_append_singleton (calls ▸ present) with earlier | last
    · exact absurd (returned call (List.mem_of_getElem? earlier)) waits
    · exact last
  constructor
  · exact counted
  · intro drain member
    have listed : drain.handler ∈
        server.drains.map DrainCoroutine.handler ++ server.connectionShutdownHandlers :=
      drains ▸ List.mem_map.mpr ⟨drain, member, rfl⟩
    rcases List.mem_append.mp listed with old | taken
    · obtain ⟨earlier, present, same⟩ := List.mem_map.mp old
      exact same ▸ tidy.handled earlier present
    · exact tidy.idle quiet _ taken
  · rw [drains, moved, registered, List.reduceOption_append, List.reduceOption_replicate_none,
      List.append_nil]
    exact tidy.order
  · intro place call present ended
    rcases getElem?_append_singleton (calls ▸ present) with earlier | ⟨-, rfl⟩
    · exact tidy.done place call earlier ended
    · exact (all ended).1
  · intro place call present waits
    obtain ⟨-, rfl⟩ := fresh place call present waits
    exact ⟨fewer waits, moved⟩
  · intro place elsewhere call another present waits presentToo waitsToo
    obtain ⟨here, -⟩ := fresh place call present waits
    obtain ⟨there, -⟩ := fresh elsewhere another presentToo waitsToo
    exact there.trans here.symm
  · intro idle handler member
    have ended : new.stage = .returned := by
      apply waiting_false_iff.mp idle
      rw [calls]
      simp
    rw [moved, (all ended).2] at member
    simp at member
  · rw [discarded]
    exact tidy.kept

theorem Tidy.shutdown (tidy : server.Tidy) (quiet : server.waiting = false) (deadline : Deadline) :
    (server.shutdown deadline).Tidy := by
  have testing := tidy.counted.spawn deadline
  have counted := testing.continueShutdown
  have handlers : (server.spawn deadline).drains.map DrainCoroutine.handler =
      server.drains.map DrainCoroutine.handler ++ server.connectionShutdownHandlers := by
    simp [TcpServer.spawn, Function.comp_def]
  have moved : (server.spawn deadline).connectionShutdownHandlers =
      List.replicate server.connectionShutdownHandlers.length none := by
    simp [TcpServer.spawn, List.map_const']
  have written (new : ShutdownCall) :
      (server.spawn deadline).calls.set server.calls.length new = server.calls ++ [new] := by
    simp [TcpServer.spawn]
  rw [shutdown_eq]
  unfold TcpServer.continueShutdown at counted ⊢
  rw [testing.found] at counted ⊢
  dsimp only at counted ⊢
  have length : (server.spawn deadline).connectionShutdownHandlers.length =
      server.connectionShutdownHandlers.length := by simp [moved]
  split at counted
  · rename_i more
    rw [if_pos more]
    apply tidy.add quiet counted _ (written _) handlers
    · rw [ShutdownCall.receive_spawned]
      exact moved
    · rfl
    · rfl
    · exact fun ended => absurd ended testing.tests.receive.2
    · intro _
      rw [ShutdownCall.receive_index, ShutdownCall.receive_spawned]
      dsimp only
      omega
  · rename_i unregistered
    rw [if_neg unregistered]
    have empty : server.connectionShutdownHandlers.length = 0 := by omega
    apply tidy.add quiet counted _ (written _) handlers
    · dsimp only
      rw [empty]
      rfl
    · rfl
    · simp [TcpServer.spawn, TcpServer.stop]
    · intro _
      dsimp only
      omega
    · simp

/-- A step that disturbs no waiting call keeps everything tidy. -/
theorem Tidy.step (tidy : server.Tidy) {event : TcpServerEvent} {after : TcpServer}
    (stepped : server.step event = some after) (quiet : server.interferes event = false) :
    after.Tidy := by
  cases step_acts stepped with
  | onConnection | stop => exact tidy.congr rfl rfl rfl rfl rfl rfl
  | registerConnectionShutdown => exact tidy.registerConnectionShutdown quiet
  | run => exact tidy.congr rfl rfl rfl rfl rfl rfl
  | acceptCompleted registrations =>
    unfold TcpServer.acceptCompleted
    dsimp only
    split
    · rename_i handles
      cases registrations with
      | zero => exact tidy.congr rfl rfl rfl rfl rfl rfl
      | succ more =>
        have quiet : server.waiting = false := by simpa [interferes, handles] using quiet
        exact (tidy.registerAll (more + 1) quiet).congr rfl rfl rfl rfl rfl rfl
    · exact tidy.congr rfl rfl rfl rfl rfl rfl
  | acceptFailed aborted =>
    unfold TcpServer.acceptFailed
    split
    · exact tidy.congr rfl rfl rfl rfl rfl rfl
    · exact tidy.congr rfl rfl rfl rfl rfl rfl
  | shutdown deadline => exact tidy.shutdown quiet deadline
  | startDrain index drain found spawned => exact tidy.startDrain found spawned
  | drainReturns index drain found draining | drainThrows index drain found draining =>
    exact tidy.finishDrain found draining
  | resumeShutdown index call found resumed => exact tidy.resumeShutdown found resumed

/-- The deadlines a handler was called with, call by call. -/
def deadlinesOf (server : TcpServer) (handler : Nat) : List Deadline :=
  (server.invoked.filter fun invocation => decide (invocation.1 = handler)).map Prod.snd

theorem count_deadlinesOf (server : TcpServer) (handler : Nat) (deadline : Deadline) :
    (server.deadlinesOf handler).count deadline = server.invocations handler deadline := by
  simp only [deadlinesOf, invocations]
  induction server.invoked with
  | nil => rfl
  | cons invocation rest inductionHypothesis =>
    obtain ⟨other, when⟩ := invocation
    by_cases own : other = handler
    · simp [own, List.count_cons, inductionHypothesis]
    · simp [own, inductionHypothesis]

namespace Tidy

variable (tidy : server.Tidy)
include tidy

/-- Every registered handler is in one place. -/
theorem places (handler : Nat) (registered : handler < server.registered) :
    (server.drains.countP fun drain => decide (drain.handler = some handler)) +
      server.connectionShutdownHandlers.count (some handler) = 1 := by
  have order := congrArg (List.count handler) tidy.order
  rw [count_reduceOption, List.count_append,
    List.count_eq_one_of_mem List.nodup_range (List.mem_range.mpr registered)] at order
  have same : (server.drains.countP fun drain => decide (drain.handler = some handler)) =
      (server.drains.map DrainCoroutine.handler).count (some handler) := by
    rw [List.count, List.countP_map]
    apply List.countP_congr
    intro drain _
    simp
  rw [same]
  exact order

/-- A coroutine calls its handler when it starts, and nobody else does. -/
theorem deadlines {drain : DrainCoroutine} {handler : Nat} (member : drain ∈ server.drains)
    (own : drain.handler = some handler) (registered : handler < server.registered) :
    server.deadlinesOf handler = if drain.stage = .spawned then [] else [drain.deadline] := by
  have positive : 0 < server.drains.countP fun drain => decide (drain.handler = some handler) :=
    List.countP_pos_iff.mpr ⟨drain, member, by simp [own]⟩
  have places := tidy.places handler registered
  have one : (server.drains.countP fun drain => decide (drain.handler = some handler)) = 1 := by
    omega
  have counts (deadline : Deadline) : (server.deadlinesOf handler).count deadline =
      (decide (drain.deadline = deadline) && decide (drain.stage ≠ .spawned)).toNat := by
    rw [count_deadlinesOf, tidy.counted.called, ← countP_only one member (by simp [own])
      fun drain => decide (drain.deadline = deadline) && decide (drain.stage ≠ .spawned)]
    apply List.countP_congr
    intro other _
    simp only [DrainCoroutine.called, Bool.and_eq_true]
    constructor
    · rintro ⟨⟨same, when⟩, called⟩
      exact ⟨⟨when, called⟩, same⟩
    · rintro ⟨⟨when, called⟩, same⟩
      exact ⟨⟨same, when⟩, called⟩
  split
  · rename_i spawned
    apply List.eq_nil_iff_forall_not_mem.mpr
    intro deadline listed
    have absent := counts deadline
    rw [decide_eq_false (not_not.mpr spawned), Bool.and_false] at absent
    exact absurd (List.count_pos_iff.mpr listed) (by simp [absent])
  · rename_i started
    apply List.perm_singleton.mp
    rw [List.perm_iff_count]
    intro deadline
    rw [counts, List.count_singleton, decide_eq_true started, Bool.and_true]
    by_cases same : drain.deadline = deadline
    · simp [same]
    · simp [same]

/-- A call that has returned has left no coroutine behind. -/
theorem returned_finished {index : Nat} {call : ShutdownCall}
    (found : server.calls[index]? = some call) (returned : call.stage = .returned) :
    call.index = call.spawned ∧ server.unfinishedBy index = 0 := by
  have all := tidy.done index call found returned
  have keeps := tidy.counted.keeps index call found
  have total := server.spawnedBy_eq index
  have received := keeps.received
  have count := keeps.count
  exact ⟨all, by omega⟩

/-- Each registered handler waits in the vector and was not called, or a coroutine has it:
then it was called at most once, with the deadline of the call of `shutdown` that spawned
the coroutine, and once if this call has returned. -/
theorem once (handler : Nat) (registered : handler < server.registered) :
    (some handler ∈ server.connectionShutdownHandlers ∧ server.deadlinesOf handler = []) ∨
    ∃ drain ∈ server.drains, drain.handler = some handler ∧
      ∃ call, server.calls[drain.call]? = some call ∧
        (server.deadlinesOf handler = [] ∨ server.deadlinesOf handler = [call.deadline]) ∧
        (call.stage = .returned → server.deadlinesOf handler = [call.deadline]) := by
  have places := tidy.places handler registered
  by_cases stays : some handler ∈ server.connectionShutdownHandlers
  · left
    refine ⟨stays, List.eq_nil_iff_forall_not_mem.mpr ?_⟩
    intro deadline listed
    have called : 0 < server.drains.countP (DrainCoroutine.called handler deadline) := by
      rw [← tidy.counted.called, ← count_deadlinesOf]
      exact List.count_pos_iff.mpr listed
    obtain ⟨drain, member, own⟩ := List.countP_pos_iff.mp called
    have taken : 0 < server.drains.countP fun drain => decide (drain.handler = some handler) := by
      refine List.countP_pos_iff.mpr ⟨drain, member, ?_⟩
      simp only [DrainCoroutine.called, Bool.and_eq_true] at own
      exact own.1.1
    have kept : 0 < server.connectionShutdownHandlers.count (some handler) :=
      List.count_pos_iff.mpr stays
    omega
  · right
    have none := List.count_eq_zero.mpr stays
    obtain ⟨drain, member, own⟩ := List.countP_pos_iff.mp
      (show 0 < server.drains.countP fun drain => decide (drain.handler = some handler) by omega)
    have own : drain.handler = some handler := of_decide_eq_true own
    obtain ⟨call, found, same⟩ := tidy.counted.linked drain member
    have deadlines := tidy.deadlines member own registered
    rw [← same] at deadlines
    refine ⟨drain, member, own, call, found, ?_, ?_⟩
    · split at deadlines
      · exact Or.inl deadlines
      · exact Or.inr deadlines
    · intro returned
      have ended : drain.stage = .finished := by
        by_contra running
        have unfinished : 0 < server.unfinishedBy drain.call :=
          List.countP_pos_iff.mpr ⟨drain, member, by simp [running]⟩
        have ended := (tidy.returned_finished found returned).2
        omega
      rw [deadlines, if_neg (by simp [ended])]

/-- With an empty vector no call waits. -/
theorem all_returned (cleared : server.connectionShutdownHandlers = []) :
    server.waiting = false := by
  apply waiting_false_iff.mpr
  intro call member
  by_contra waits
  obtain ⟨index, found⟩ := List.mem_iff_getElem?.mp member
  obtain ⟨less, vector⟩ := tidy.bound index call found waits
  rw [cleared] at vector
  have empty := congrArg List.length vector
  simp at empty
  omega

end Tidy

/-- The calls of `shutdown` that have returned. -/
def returns (server : TcpServer) : Nat :=
  server.calls.countP fun call => decide (call.stage = .returned)

/-- A call that tests its loop waits, or returns with an empty vector. -/
theorem continueShutdown_returns (server : TcpServer) {index : Nat} {call : ShutdownCall}
    (found : server.calls[index]? = some call) (waits : call.stage ≠ .returned)
    (receives : call.receive.stage ≠ .returned) :
    (server.continueShutdown index).returns = server.returns ∨
      (server.continueShutdown index).connectionShutdownHandlers = [] := by
  unfold continueShutdown
  rw [found]
  dsimp only
  split
  · left
    have counts := countP_set_found call.receive found fun call => decide (call.stage = .returned)
    simpa [returns, waits, receives] using counts
  · exact Or.inr rfl

/-- A step in which a call returns leaves the vector empty. -/
theorem Counted.returning (counted : server.Counted) {event : TcpServerEvent} {after : TcpServer}
    (stepped : server.step event = some after) (more : server.returns < after.returns) :
    after.connectionShutdownHandlers = [] := by
  have finishing (index : Nat) (drain : DrainCoroutine)
      (found : server.drains[index]? = some drain) (running : drain.stage ≠ .finished)
      (uncalled : drain.stage = .spawned → drain.handler = none)
      (ends : after = server.finishDrain index drain) : False := by
    obtain ⟨before, told, earlier, -, stage, -, -, finished, -⟩ :=
      counted.finishDrain found running uncalled
    have counts := countP_set_found told earlier fun call => decide (call.stage = .returned)
    have same : after.returns = server.returns := by
      rw [ends, finished]
      simpa [returns, stage] using counts
    omega
  cases step_acts stepped with
  | onConnection | registerConnectionShutdown | stop => exact absurd more (Nat.lt_irrefl _)
  | run => exact absurd more (Nat.lt_irrefl _)
  | acceptCompleted registrations =>
    have same : (server.acceptCompleted registrations).calls = server.calls := by
      unfold TcpServer.acceptCompleted
      dsimp only
      split
      · exact (registerAll_same registrations server).1
      · rfl
    simp [returns, same] at more
  | acceptFailed aborted =>
    have same : (server.acceptFailed aborted).calls = server.calls := by
      unfold TcpServer.acceptFailed
      split <;> rfl
    simp [returns, same] at more
  | shutdown deadline =>
    have testing := counted.spawn deadline
    rcases continueShutdown_returns _ testing.found (by simp) testing.tests.receive.2 with
      same | cleared
    · have spawned : (server.spawn deadline).returns = server.returns := by
        simp [returns, TcpServer.spawn]
      have equal : (server.shutdown deadline).returns = server.returns := same.trans spawned
      omega
    · exact cleared
  | startDrain index drain found spawned =>
    cases present : drain.handler with
    | none =>
      have ends : server.startDrain index drain = server.finishDrain index drain := by
        simp [TcpServer.startDrain, present]
      exact (finishing index drain found (by simp [spawned]) (fun _ => present) ends).elim
    | some handler => simp [returns, TcpServer.startDrain, present] at more
  | drainReturns index drain found draining | drainThrows index drain found draining =>
    exact (finishing index drain found (by simp [draining]) (by simp [draining]) rfl).elim
  | resumeShutdown index call found resumed =>
    have tests := (counted.keeps index call found).tests resumed
    have written : (server.calls.set index { call with index := call.index + 1 })[index]? =
        some { call with index := call.index + 1 } :=
      (getElem?_set_found _ found index).trans (if_pos rfl)
    have counts := countP_set_found { call with index := call.index + 1 } found
      fun call => decide (call.stage = .returned)
    let moved : TcpServer :=
      { server with calls := server.calls.set index { call with index := call.index + 1 } }
    have same : moved.returns = server.returns := by
      simpa [moved, returns, resumed] using counts
    rcases moved.continueShutdown_returns written (by simp [resumed]) tests.receive.2 with
      waits | cleared
    · have equal : (server.resumeShutdown index call).returns = server.returns := waits.trans same
      omega
    · exact cleared

/-- The states a new server reaches in the runs a guard allows. -/
def Reachable (guard : TcpServer → TcpServerEvent → Prop) : TcpServer → Prop :=
  Reachability.Reaches step guard {}

/-- Completions are not lost in any run: each call of `shutdown` has received, or is about
to receive, one for every coroutine of it that is done. -/
theorem Reachable.counted {guard : TcpServer → TcpServerEvent → Prop}
    (reachable : Reachable guard server) : server.Counted := by
  apply Reachability.Reaches.invariant Counted ?_ ?_ reachable
  · constructor
    · simp
    · simp
    · simp
    · intro handler deadline
      rfl
  · intro before event after counted _ stepped
    exact counted.step stepped

theorem Reachable.tidy (reachable : Reachable undisturbed server) : server.Tidy := by
  apply Reachability.Reaches.invariant Tidy ?_ ?_ reachable
  · have counted : ({} : TcpServer).Counted :=
      Reachable.counted (Reachability.Reaches.start : Reachable undisturbed {})
    constructor
    · exact counted
    all_goals simp
  · intro before event after tidy quiet stepped
    exact tidy.step stepped quiet

/-- Draining every registered connection once. In every run in which nothing is registered
and `shutdown` is not called again while a call of it waits: no handler is discarded; a
waiting call waits for exactly as many completions as it spawned coroutines, all of which
have come or will come, and a call that has returned has received them all; each handler
that was taken out of the vector is called at most once, with the deadline of the call
that took it, and exactly once when this call has returned. When a call returns, every
handler registered so far has been called so. -/
theorem shutdown_drains_once (reachable : Reachable undisturbed server) :
    server.discarded = [] ∧
    (∀ (index : Nat) (call : ShutdownCall), server.calls[index]? = some call →
      call.spawned = server.spawnedBy index ∧
      (call.stage ≠ .returned → server.connectionShutdownHandlers.length = call.spawned ∧
        call.index + call.pending + server.unfinishedBy index = call.spawned) ∧
      (call.stage = .returned → call.index = call.spawned ∧ server.unfinishedBy index = 0)) ∧
    (∀ handler, handler < server.registered →
      (some handler ∈ server.connectionShutdownHandlers ∧ server.deadlinesOf handler = []) ∨
      ∃ drain ∈ server.drains, drain.handler = some handler ∧
        ∃ call, server.calls[drain.call]? = some call ∧
          (server.deadlinesOf handler = [] ∨ server.deadlinesOf handler = [call.deadline]) ∧
          (call.stage = .returned → server.deadlinesOf handler = [call.deadline])) ∧
    ∀ event after, server.step event = some after → server.undisturbed event →
      server.returns < after.returns →
      ∀ handler, handler < after.registered →
        ∃ drain ∈ after.drains, drain.handler = some handler ∧
          ∃ call, after.calls[drain.call]? = some call ∧ call.stage = .returned ∧
            after.deadlinesOf handler = [call.deadline] := by
  have tidy := reachable.tidy
  refine ⟨tidy.kept, ?_, tidy.once, ?_⟩
  · intro index call found
    have keeps := tidy.counted.keeps index call found
    refine ⟨keeps.count, ?_, tidy.returned_finished found⟩
    intro waits
    obtain ⟨-, vector⟩ := tidy.bound index call found waits
    have total := server.spawnedBy_eq index
    have received := keeps.received
    have count := keeps.count
    exact ⟨by simp [vector], by omega⟩
  · intro event after stepped quiet more handler registered
    have next : Reachable undisturbed after := .next reachable quiet stepped
    have cleared := tidy.counted.returning stepped more
    have returned := waiting_false_iff.mp (next.tidy.all_returned cleared)
    rcases next.tidy.once handler registered with ⟨stays, -⟩ |
      ⟨drain, member, own, call, found, -, once⟩
    · simp [cleared] at stays
    · have ended := returned call (List.mem_of_getElem? found)
      exact ⟨drain, member, own, call, found, ended, once ended⟩

/-- Two handlers are drained by one call, and a third one, of an accept that completed after
the server was stopped, by another call; the drain of the first throws. -/
def drainedTwice : Option TcpServer :=
  Reachability.run step undisturbed {}
    [.onConnection, .run, .registerConnectionShutdown, .registerConnectionShutdown, .shutdown 10,
      .startDrain 1, .startDrain 0, .drainThrows 0, .resumeShutdown 0, .drainReturns 1,
      .resumeShutdown 0, .acceptCompleted 1, .shutdown 20, .startDrain 2, .drainReturns 2]

/-- The last completion is on its way; when the second call returns, every handler was
called once, with the deadline of its call. -/
theorem shutdown_drains_once_twice :
    ∃ server after, drainedTwice = some server ∧
      server.step (.resumeShutdown 1) = some after ∧ after.discarded = [] ∧
      after.returns = 2 ∧ after.registered = 3 ∧
      ∀ handler, handler < 3 → ∃ call ∈ after.calls, call.stage = .returned ∧
        after.deadlinesOf handler = [call.deadline] := by
  have reads : drainedTwice.bind (fun server =>
      (server.step (.resumeShutdown 1)).map fun after =>
        (decide (server.undisturbed (.resumeShutdown 1)), server.returns, after.returns,
          after.registered)) = some (true, 1, 2, 3) := by
    decide +kernel
  obtain ⟨server, reached, read⟩ := Option.bind_eq_some_iff.mp reads
  obtain ⟨after, stepped, facts⟩ := Option.map_eq_some_iff.mp read
  obtain ⟨quiet, one, two, three⟩ : _ ∧ _ ∧ _ ∧ _ := by simpa only [Prod.mk.injEq] using facts
  have quiet := of_decide_eq_true quiet
  have reachable : Reachable undisturbed server := Reachability.run_reaches _ _ _ _ _ reached
  obtain ⟨-, -, -, drains⟩ := shutdown_drains_once reachable
  obtain ⟨kept, -⟩ := shutdown_drains_once (.next reachable quiet stepped)
  refine ⟨server, after, reached, stepped, kept, two, three, ?_⟩
  intro handler registered
  obtain ⟨drain, -, -, call, found, returned, once⟩ :=
    drains (.resumeShutdown 1) after stepped quiet (by omega) handler (three ▸ registered)
  exact ⟨call, List.mem_of_getElem? found, returned, once⟩

/-- A handler is registered while a call waits for the drain of another one. -/
def registeredLate : Option TcpServer :=
  Reachability.run step Reachability.unguarded {}
    [.registerConnectionShutdown, .shutdown 10, .registerConnectionShutdown, .startDrain 0,
      .drainReturns 0, .resumeShutdown 0]

/-- A second call of `shutdown` clears the vector below the first one. -/
def calledTwice : Option TcpServer :=
  Reachability.run step Reachability.unguarded {}
    [.registerConnectionShutdown, .registerConnectionShutdown, .shutdown 10, .shutdown 20,
      .startDrain 2, .startDrain 3, .resumeShutdown 1, .resumeShutdown 1,
      .registerConnectionShutdown, .startDrain 0, .drainReturns 0, .resumeShutdown 0]

/-- In the first run the call has received a completion from the only coroutine it spawned
and goes on waiting for another one. In the second the first call returns after one of two
completions and discards a handler that was never called. -/
theorem shutdown_disturbed :
    (∃ server, Reachable Reachability.unguarded server ∧
      ∃ call, server.calls[0]? = some call ∧ call.stage = .receiving ∧ call.spawned = 1 ∧
        call.index = 1 ∧ server.unfinishedBy 0 = 0) ∧
    ∃ server, Reachable Reachability.unguarded server ∧ server.discarded = [2] ∧
      server.deadlinesOf 2 = [] ∧
      ∃ call, server.calls[0]? = some call ∧ call.stage = .returned ∧ call.spawned = 2 ∧
        call.index = 1 := by
  have late : registeredLate.map (fun server => (server.unfinishedBy 0,
      server.calls[0]?.map fun call => (call.stage, call.spawned, call.index))) =
      some (0, some (.receiving, 1, 1)) := by
    decide +kernel
  have twice : calledTwice.map (fun server => (server.discarded, server.deadlinesOf 2,
      server.calls[0]?.map fun call => (call.stage, call.spawned, call.index))) =
      some ([2], [], some (.returned, 2, 1)) := by
    decide +kernel
  constructor
  · obtain ⟨server, reached, facts⟩ := Option.map_eq_some_iff.mp late
    obtain ⟨unfinished, read⟩ := Prod.mk.inj facts
    obtain ⟨call, found, parts⟩ := Option.map_eq_some_iff.mp read
    obtain ⟨stage, spawned, received⟩ : _ ∧ _ ∧ _ := by simpa only [Prod.mk.injEq] using parts
    exact ⟨server, Reachability.run_reaches _ _ _ _ _ reached, call, found, stage, spawned,
      received, unfinished⟩
  · obtain ⟨server, reached, facts⟩ := Option.map_eq_some_iff.mp twice
    obtain ⟨discarded, uncalled, read⟩ : _ ∧ _ ∧ _ := by simpa only [Prod.mk.injEq] using facts
    obtain ⟨call, found, parts⟩ := Option.map_eq_some_iff.mp read
    obtain ⟨stage, spawned, received⟩ : _ ∧ _ ∧ _ := by simpa only [Prod.mk.injEq] using parts
    exact ⟨server, Reachability.run_reaches _ _ _ _ _ reached, discarded, uncalled, call, found,
      stage, spawned, received⟩

end TcpServer

end Rillnet
