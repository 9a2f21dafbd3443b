import Rillnet.ClientConnection
import Rillnet.FrameGrammar

/-!
# The shell of a connection

The part of a connection that requests do not touch: the transport, the decoder,
the lifecycle, the read loop, the calls of `shutdown`, and the frames given to
the transport and dispatched. Client and server turn their shells in the same few
ways, and what holds of every shell is proved once here.
-/

namespace Rillnet

/-- The members that requests leave alone. -/
structure ConnectionShell where
  transportOpen : Bool
  decoder : FrameDecoder
  lifecycle : ConnectionState
  reader : Reader
  drains : Nat
  shutdownEntered : Bool
  written : List Frame
  sent : List Frame
  dispatched : List Frame
  violations : List (StatusCode × String)

/-- The peer broke the protocol, and the transport is closed. -/
def ConnectionShell.fail (shell : ConnectionShell) (violation : StatusCode × String) : ConnectionShell :=
  { shell with transportOpen := false, violations := shell.violations ++ [violation] }

/-- The frame at the head of the batch was dispatched. -/
def ConnectionShell.seen (shell : ConnectionShell) (frame : Frame) (rest : List Frame) : ConnectionShell :=
  { shell with
    dispatched := shell.dispatched ++ [frame]
    reader := .dispatching (if shell.transportOpen then rest else []) }

/-- The lifecycle once `shutdown` has begun. -/
def ConnectionState.drained : ConnectionState → ConnectionState
  | .created | .active => .draining
  | state => state

/-- Everything a step of a connection does to its shell, with the bytes it reads.
At a client the lifecycle is closed only where the map was vacated. -/
inductive ConnectionShell.Turn (vacated : Prop) (shell : ConnectionShell) :
    Buffer → ConnectionShell → Prop where
  | kept : Turn vacated shell [] shell
  | run (fresh : shell.reader = .notStarted) :
      Turn vacated shell [] { shell with
        reader := .spawned
        lifecycle := if shell.lifecycle = .created then .active else shell.lifecycle }
  | awaits (begun : shell.reader = .spawned ∨ shell.reader = .dispatching [])
      (sound : shell.reader = .dispatching [] → shell.decoder.error = none)
      (usable : shell.transportOpen = true) :
      Turn vacated shell [] { shell with reader := .awaiting }
  | received (bytes : Buffer) (awaiting : shell.reader = .awaiting) :
      Turn vacated shell bytes { shell with
        decoder := (shell.decoder.push bytes).1
        reader := .dispatching (shell.decoder.push bytes).2 }
  | seen (frame : Frame) (rest : List Frame) (reading : shell.reader = .dispatching (frame :: rest)) :
      Turn vacated shell [] (shell.seen frame rest)
  | accused (frame : Frame) (rest : List Frame) (violation : StatusCode × String)
      (reading : shell.reader = .dispatching (frame :: rest)) :
      Turn vacated shell [] ((shell.fail violation).seen frame rest)
  | severed (frame : Frame) (rest : List Frame)
      (reading : shell.reader = .dispatching (frame :: rest)) :
      Turn vacated shell [] ({ shell with transportOpen := false }.seen frame rest)
  | ended (begun : shell.reader = .spawned ∨ shell.reader = .awaiting ∨ shell.reader = .dispatching [])
      (usable : Bool) (loses : usable = true → shell.transportOpen = true) (empty : vacated) :
      Turn vacated shell [] { shell with
        transportOpen := usable
        reader := .finished
        lifecycle := (shell.lifecycle.transition .closed).1 }
  | malformed (violation : StatusCode × String) (reading : shell.reader = .dispatching [])
      (error : shell.decoder.error ≠ none) (empty : vacated) :
      Turn vacated shell [] { shell.fail violation with
        reader := .finished
        lifecycle := (shell.lifecycle.transition .closed).1 }
  | shutdown :
      Turn vacated shell [] { shell with
        shutdownEntered := true
        lifecycle := shell.lifecycle.drained
        drains := shell.drains + 1 }
  | closed (empty : vacated) :
      Turn vacated shell [] { shell with
        shutdownEntered := true
        lifecycle := (shell.lifecycle.drained.transition .closed).1
        transportOpen := false }
  | ticked (suspended : shell.drains ≠ 0) (empty : vacated) :
      Turn vacated shell [] { shell with
        lifecycle := (shell.lifecycle.transition .closed).1
        transportOpen := false
        drains := shell.drains - 1 }
  | sent (frames : List Frame) :
      Turn vacated shell [] { shell with
        written := shell.written ++ frames
        sent := if shell.transportOpen then shell.sent ++ frames else shell.sent }
  | lost : Turn vacated shell [] { shell with transportOpen := false }

/-- The frames of one read that are still to be dispatched. -/
def Reader.batch : Reader → List Frame
  | .dispatching frames => frames
  | _ => []

namespace ConnectionShell

/-- The lifecycle, the read loop and the calls of `shutdown` agree, and after a
violation or a malformed header nothing more is read. -/
structure Orderly (shell : ConnectionShell) : Prop where
  stage : shell.lifecycle = .created ∨ shell.lifecycle = .active ∨ shell.lifecycle = .draining ∨
    shell.lifecycle = .closed
  begun : shell.reader ≠ .notStarted → shell.lifecycle ≠ .created
  entered : shell.shutdownEntered = true →
    shell.lifecycle = .draining ∨ shell.lifecycle = .closed
  ended : shell.reader = .finished → shell.lifecycle = .closed
  suspended : shell.drains ≠ 0 → shell.shutdownEntered = true
  halted : shell.violations ≠ [] → shell.transportOpen = false ∧
    (shell.reader = .dispatching [] ∨ shell.reader = .finished)
  erred : shell.decoder.error ≠ none →
    shell.reader = .finished ∨ ∃ frames, shell.reader = .dispatching frames

variable {vacated : Prop} {input : Buffer} {before after : ConnectionShell}

/-- A lifecycle that has begun can be closed. -/
theorem Orderly.closes (orderly : before.Orderly) (begun : before.lifecycle ≠ .created) :
    (before.lifecycle.transition .closed).1 = .closed := by
  rcases orderly.stage with created | active | draining | closed
  · exact absurd created begun
  · simp [ConnectionState.transition, ConnectionState.canTransition, active]
  · simp [ConnectionState.transition, ConnectionState.canTransition, draining]
  · simp [ConnectionState.transition, ConnectionState.canTransition, closed]

/-- A lifecycle that `shutdown` has begun to drain is draining or closed. -/
theorem Orderly.drains (orderly : before.Orderly) :
    before.lifecycle.drained = .draining ∨ before.lifecycle.drained = .closed := by
  rcases orderly.stage with created | active | draining | closed
  · exact Or.inl (by rw [created]; rfl)
  · exact Or.inl (by rw [active]; rfl)
  · exact Or.inl (by rw [draining]; rfl)
  · exact Or.inr (by rw [closed]; rfl)

/-- A reader that has more to do has found no violation. -/
theorem Orderly.unviolated (orderly : before.Orderly) (more : before.reader ≠ .dispatching [])
    (going : before.reader ≠ .finished) : before.violations = [] := by
  by_contra violated
  rcases (orderly.halted violated).2 with empty | finished
  · exact more empty
  · exact going finished

/-- No step breaks the order. -/
theorem Turn.orderly (turn : Turn vacated before input after) (orderly : before.Orderly) :
    after.Orderly := by
  cases turn with
  | kept => exact orderly
  | run fresh =>
    refine ⟨?_, ?_, ?_, ?_, orderly.suspended, ?_, ?_⟩
    · dsimp only
      split
      · exact Or.inr (Or.inl rfl)
      · exact orderly.stage
    · intro _
      dsimp only
      split
      · simp
      · assumption
    · intro entered
      rcases orderly.entered entered with draining | closed
      · exact Or.inl (by simp [draining])
      · exact Or.inr (by simp [closed])
    · simp
    · intro violated
      exact absurd (orderly.unviolated (by simp [fresh]) (by simp [fresh])) violated
    · intro error
      rcases orderly.erred error with finished | ⟨frames, reading⟩
      · simp [fresh] at finished
      · simp [fresh] at reading
  | awaits begun sound usable =>
    refine ⟨orderly.stage, ?_, orderly.entered, by simp, orderly.suspended, ?_, ?_⟩
    · intro _
      apply orderly.begun
      rcases begun with spawned | dispatched
      · simp [spawned]
      · simp [dispatched]
    · intro violated
      have lost := (orderly.halted violated).1
      simp [usable] at lost
    · intro error
      rcases begun with spawned | dispatched
      · rcases orderly.erred error with finished | ⟨frames, reading⟩
        · simp [spawned] at finished
        · simp [spawned] at reading
      · exact absurd (sound dispatched) error
  | received bytes awaiting =>
    refine ⟨orderly.stage, fun _ => orderly.begun (by simp [awaiting]), orderly.entered, by simp,
      orderly.suspended, ?_, fun _ => Or.inr ⟨_, rfl⟩⟩
    intro violated
    exact absurd (orderly.unviolated (by simp [awaiting]) (by simp [awaiting])) violated
  | seen frame rest reading =>
    refine ⟨orderly.stage, fun _ => orderly.begun (by simp [reading]), orderly.entered, nofun,
      orderly.suspended, ?_, fun _ => Or.inr ⟨_, rfl⟩⟩
    intro violated
    exact absurd (orderly.unviolated (by simp [reading]) (by simp [reading])) violated
  | accused frame rest violation reading =>
    exact ⟨orderly.stage, fun _ => orderly.begun (by simp [reading]), orderly.entered, nofun,
      orderly.suspended, fun _ => ⟨rfl, Or.inl rfl⟩, fun _ => Or.inr ⟨_, rfl⟩⟩
  | severed frame rest reading =>
    refine ⟨orderly.stage, fun _ => orderly.begun (by simp [reading]), orderly.entered, nofun,
      orderly.suspended, ?_, fun _ => Or.inr ⟨_, rfl⟩⟩
    intro violated
    exact absurd (orderly.unviolated (by simp [reading]) (by simp [reading])) violated
  | ended begun usable loses empty =>
    have closes := orderly.closes (orderly.begun (by
      rcases begun with spawned | awaiting | dispatched
      · simp [spawned]
      · simp [awaiting]
      · simp [dispatched]))
    refine ⟨Or.inr (Or.inr (Or.inr closes)), fun _ => by simp [closes], fun _ => Or.inr closes,
      fun _ => closes, orderly.suspended, ?_, fun _ => Or.inl rfl⟩
    intro violated
    refine ⟨?_, Or.inr rfl⟩
    have lost := (orderly.halted violated).1
    cases usable with
    | false => rfl
    | true => simp [loses rfl] at lost
  | malformed violation reading error empty =>
    have closes := orderly.closes (orderly.begun (by simp [reading]))
    exact ⟨Or.inr (Or.inr (Or.inr closes)), fun _ => by simp [closes],
      fun _ => Or.inr closes, fun _ => closes, orderly.suspended, fun _ => ⟨rfl, Or.inr rfl⟩,
      fun _ => Or.inl rfl⟩
  | shutdown =>
    refine ⟨?_, ?_, fun _ => orderly.drains, ?_, fun _ => rfl, orderly.halted, orderly.erred⟩
    · rcases orderly.drains with draining | closed
      · exact Or.inr (Or.inr (Or.inl draining))
      · exact Or.inr (Or.inr (Or.inr closed))
    · intro _
      rcases orderly.drains with draining | closed
      · simp [draining]
      · simp [closed]
    · intro finished
      have closed := orderly.ended finished
      simp [closed, ConnectionState.drained]
  | closed empty =>
    have closes : (before.lifecycle.drained.transition .closed).1 = .closed := by
      rcases orderly.drains with draining | closed
      · simp [ConnectionState.transition, ConnectionState.canTransition, draining]
      · simp [ConnectionState.transition, ConnectionState.canTransition, closed]
    exact ⟨Or.inr (Or.inr (Or.inr closes)), fun _ => by simp [closes], fun _ => Or.inr closes,
      fun _ => closes, fun _ => rfl, fun violated => ⟨rfl, (orderly.halted violated).2⟩,
      orderly.erred⟩
  | ticked suspended empty =>
    have entered := orderly.suspended suspended
    have closes := orderly.closes (by
      rcases orderly.entered entered with draining | closed
      · simp [draining]
      · simp [closed])
    exact ⟨Or.inr (Or.inr (Or.inr closes)), fun _ => by simp [closes], fun _ => Or.inr closes,
      fun _ => closes, fun _ => entered, fun violated => ⟨rfl, (orderly.halted violated).2⟩,
      orderly.erred⟩
  | sent frames =>
    exact ⟨orderly.stage, orderly.begun, orderly.entered, orderly.ended, orderly.suspended,
      orderly.halted, orderly.erred⟩
  | lost =>
    exact ⟨orderly.stage, orderly.begun, orderly.entered, orderly.ended, orderly.suspended,
      fun violated => ⟨rfl, (orderly.halted violated).2⟩, orderly.erred⟩

/-- Only a step that empties the map closes the lifecycle. -/
theorem Turn.vacates (turn : Turn vacated before input after) (closed : after.lifecycle = .closed) :
    before.lifecycle = .closed ∨ vacated := by
  cases turn with
  | run fresh =>
    left
    dsimp only at closed
    split at closed
    · simp at closed
    · exact closed
  | ended begun usable loses empty => exact Or.inr empty
  | malformed violation reading error empty => exact Or.inr empty
  | shutdown =>
    left
    cases state : before.lifecycle <;> simp_all [ConnectionState.drained]
  | closed empty => exact Or.inr empty
  | ticked suspended empty => exact Or.inr empty
  | kept | awaits | received | seen | accused | severed | sent | lost => exact Or.inl closed

/-- A finished read loop stays finished. -/
theorem Turn.finished (turn : Turn vacated before input after)
    (finished : before.reader = .finished) : after.reader = .finished := by
  cases turn with
  | run fresh => simp [fresh] at finished
  | awaits begun sound usable => simp [finished] at begun
  | received bytes awaiting => simp [awaiting] at finished
  | seen frame rest reading => simp [reading] at finished
  | accused frame rest violation reading => simp [reading] at finished
  | severed frame rest reading => simp [reading] at finished
  | ended | malformed => rfl
  | kept | shutdown | closed | ticked | sent | lost => exact finished

/-- A shutdown is never forgotten, and a finished read loop stays finished. -/
theorem Turn.closing (turn : Turn vacated before input after)
    (closing : before.shutdownEntered = true ∨ before.reader = .finished) :
    after.shutdownEntered = true ∨ after.reader = .finished := by
  rcases closing with entered | finished
  · left
    cases turn with
    | shutdown | closed => rfl
    | kept | run | awaits | received | seen | accused | severed | ended | malformed | ticked | sent
    | lost => exact entered
  · exact Or.inr (turn.finished finished)

/-- A closed transport stays closed. -/
theorem Turn.severs (turn : Turn vacated before input after)
    (severed : before.transportOpen = false) : after.transportOpen = false := by
  cases turn with
  | ended begun usable loses empty =>
    cases usable with
    | false => rfl
    | true => simp [loses rfl] at severed
  | accused | severed | malformed | closed | ticked | lost => rfl
  | kept | run | awaits | received | seen | shutdown | sent => exact severed

/-- A read loop that is over and a closed transport do not come back. -/
theorem Turn.stops (turn : Turn vacated before input after)
    (stopped : before.reader = .finished ∨ before.transportOpen = false) :
    after.reader = .finished ∨ after.transportOpen = false := by
  rcases stopped with finished | severed
  · exact Or.inl (turn.finished finished)
  · exact Or.inr (turn.severs severed)

/-- A lifecycle that came to its shutdown does not go back. -/
theorem Turn.winds (turn : Turn vacated before input after)
    (winding : before.lifecycle = .draining ∨ before.lifecycle = .closing ∨
      before.lifecycle = .closed) :
    after.lifecycle = .draining ∨ after.lifecycle = .closing ∨ after.lifecycle = .closed := by
  have closes : ∀ state : ConnectionState, state = .draining ∨ state = .closing ∨ state = .closed →
      (state.transition .closed).1 = .closed := by
    rintro state (rfl | rfl | rfl) <;> decide
  have drained : before.lifecycle.drained = before.lifecycle := by
    rcases winding with state | state | state <;> simp [state, ConnectionState.drained]
  cases turn with
  | run fresh =>
    dsimp only
    split
    · rename_i created
      simp [created] at winding
    · exact winding
  | ended | malformed | ticked => exact Or.inr (Or.inr (closes _ winding))
  | shutdown =>
    dsimp only
    rw [drained]
    exact winding
  | closed empty =>
    dsimp only
    rw [drained]
    exact Or.inr (Or.inr (closes _ winding))
  | kept | awaits | received | seen | accused | severed | sent | lost => exact winding

/-- A closed lifecycle stays closed. -/
theorem Turn.stays_closed (turn : Turn vacated before input after)
    (closed : before.lifecycle = .closed) : after.lifecycle = .closed := by
  cases turn with
  | run fresh => simp [closed]
  | ended | malformed | ticked =>
    simp [closed, ConnectionState.transition, ConnectionState.canTransition]
  | shutdown => simp [closed, ConnectionState.drained]
  | closed empty =>
    simp [closed, ConnectionState.drained, ConnectionState.transition,
      ConnectionState.canTransition]
  | kept | awaits | received | seen | accused | severed | sent | lost => exact closed

/-- Violations are never taken back. -/
theorem Turn.violations (turn : Turn vacated before input after) (violated : before.violations ≠ []) :
    after.violations ≠ [] := by
  cases turn with
  | accused frame rest violation reading =>
    exact List.append_ne_nil_of_right_ne_nil _ (List.cons_ne_nil violation [])
  | malformed violation reading error empty => simp [fail]
  | kept | run | awaits | received | seen | severed | ended | shutdown | closed | ticked | sent
  | lost => exact violated

/-- After a malformed header only the frames decoded ahead of it are left. -/
theorem Turn.batch (turn : Turn vacated before input after) (orderly : before.Orderly)
    (error : before.decoder.error ≠ none) :
    after.decoder.error ≠ none ∧ after.reader.batch ⊆ before.reader.batch := by
  cases turn with
  | run fresh => exact ⟨error, List.nil_subset _⟩
  | awaits begun sound usable => exact ⟨error, List.nil_subset _⟩
  | received bytes awaiting =>
    rcases orderly.erred error with finished | ⟨frames, reading⟩
    · simp [awaiting] at finished
    · simp [awaiting] at reading
  | seen frame rest reading =>
    refine ⟨error, ?_⟩
    rw [reading]
    dsimp only [ConnectionShell.seen, Reader.batch]
    split
    · exact List.subset_cons_self frame rest
    · exact List.nil_subset _
  | accused frame rest violation reading => exact ⟨error, List.nil_subset _⟩
  | severed frame rest reading => exact ⟨error, List.nil_subset _⟩
  | ended begun usable loses empty => exact ⟨error, List.nil_subset _⟩
  | malformed violation reading found empty => exact ⟨error, List.nil_subset _⟩
  | kept | shutdown | closed | ticked | sent | lost => exact ⟨error, List.Subset.refl _⟩

/-- What was given to the transport while it was open: all the writer gave it, or
the initial part up to the end of the transport. -/
structure Transmits (shell : ConnectionShell) : Prop where
  initial : shell.sent <+: shell.written
  usable : shell.transportOpen = true → shell.sent = shell.written

/-- What was sent stays sent. -/
theorem Turn.sent_grows (turn : Turn vacated before input after) : before.sent <+: after.sent := by
  cases turn with
  | sent frames =>
    dsimp only
    split
    · exact List.prefix_append _ _
    · exact List.prefix_rfl
  | kept | run | awaits | received | seen | accused | severed | ended | malformed | shutdown | closed
  | ticked | lost => exact List.prefix_rfl

theorem Turn.transmits (turn : Turn vacated before input after) (transmits : before.Transmits) :
    after.Transmits := by
  cases turn with
  | accused frame rest violation reading => exact ⟨transmits.initial, nofun⟩
  | severed frame rest reading => exact ⟨transmits.initial, nofun⟩
  | ended begun usable loses empty =>
    exact ⟨transmits.initial, fun still => transmits.usable (loses still)⟩
  | malformed violation reading error empty => exact ⟨transmits.initial, nofun⟩
  | closed empty => exact ⟨transmits.initial, nofun⟩
  | ticked suspended empty => exact ⟨transmits.initial, nofun⟩
  | sent frames =>
    constructor
    · dsimp only
      split
      · rename_i usable
        rw [transmits.usable usable]
      · exact transmits.initial.trans (List.prefix_append _ _)
    · intro usable
      have usable : before.transportOpen = true := usable
      dsimp only
      rw [if_pos usable, transmits.usable usable]
  | lost => exact ⟨transmits.initial, nofun⟩
  | kept | run | awaits | received | seen | shutdown => exact ⟨transmits.initial, transmits.usable⟩

open FrameGrammar (Represents meaning)

/-- The frames dispatched and about to be dispatched are the ones in the bytes
read so far; some may be missing once the connection is over. -/
structure Fed (shell : ConnectionShell) (bytes : Buffer) : Prop where
  represented : Represents defaultMaxPayloadSize shell.decoder (meaning defaultMaxPayloadSize bytes).1
  initial : shell.dispatched ++ shell.reader.batch <+: (meaning defaultMaxPayloadSize bytes).2
  whole : shell.reader ≠ .finished →
    (shell.reader = .dispatching [] → shell.transportOpen = true) →
    shell.dispatched ++ shell.reader.batch = (meaning defaultMaxPayloadSize bytes).2

/-- A fed shell whose decoder, dispatched frames and batch stay is still fed, if
it was not waiting for the transport to be closed. -/
theorem Fed.kept {bytes : Buffer} (fed : before.Fed bytes) (decoder : after.decoder = before.decoder)
    (dispatched : after.dispatched = before.dispatched)
    (batch : after.reader.batch = before.reader.batch)
    (whole : after.reader ≠ .finished →
      (after.reader = .dispatching [] → after.transportOpen = true) →
      before.reader ≠ .finished ∧
        (before.reader = .dispatching [] → before.transportOpen = true)) :
    after.Fed bytes := by
  refine ⟨decoder ▸ fed.represented, ?_, ?_⟩
  · rw [dispatched, batch]
    exact fed.initial
  · intro running usable
    obtain ⟨earlier, usableEarlier⟩ := whole running usable
    rw [dispatched, batch]
    exact fed.whole earlier usableEarlier

/-- Dispatching the head of a batch keeps the rest, or drops it with the
transport. -/
theorem Fed.seen {bytes : Buffer} (fed : before.Fed bytes) (frame : Frame) (rest : List Frame)
    (reading : before.reader = .dispatching (frame :: rest)) :
    (before.seen frame rest).Fed bytes := by
  have whole := fed.whole (by simp [reading]) (by simp [reading])
  rw [reading] at whole
  refine ⟨fed.represented, ?_, ?_⟩
  · rw [← whole]
    dsimp only [ConnectionShell.seen, Reader.batch]
    split
    · simp
    · simp
  · intro _ usable
    rw [← whole]
    dsimp only [ConnectionShell.seen, Reader.batch] at usable ⊢
    by_cases usable' : before.transportOpen = true
    · simp [usable']
    · simp [usable'] at usable

/-- Every turn feeds the shell exactly the bytes it reads. -/
theorem Turn.fed (turn : Turn vacated before input after) {bytes : Buffer}
    (fed : before.Fed bytes) : after.Fed (bytes ++ input) := by
  cases turn with
  | kept =>
    rw [List.append_nil]
    exact fed
  | run fresh =>
    rw [List.append_nil]
    exact fed.kept rfl rfl (by simp [fresh, Reader.batch]) (by simp [fresh])
  | awaits begun sound usable =>
    rw [List.append_nil]
    refine fed.kept rfl rfl ?_ ?_
    · rcases begun with spawned | dispatched
      · simp [spawned, Reader.batch]
      · simp [dispatched, Reader.batch]
    · intro _ _
      refine ⟨?_, fun _ => usable⟩
      rcases begun with spawned | dispatched
      · simp [spawned]
      · simp [dispatched]
  | received _ awaiting =>
    obtain ⟨frames, represented⟩ := FrameGrammar.push_refines defaultMaxPayloadSize before.decoder _
      input fed.represented
    have whole : before.dispatched = (meaning defaultMaxPayloadSize bytes).2 := by
      simpa [awaiting, Reader.batch] using fed.whole (by simp [awaiting]) (by simp [awaiting])
    have split := Transducer.feed_append (FrameGrammar.Progress.step defaultMaxPayloadSize)
      (.inHeader []) bytes input
    have emitted : before.dispatched ++ (before.decoder.push input).2 =
        (meaning defaultMaxPayloadSize (bytes ++ input)).2 := by
      rw [meaning, split, frames, whole]
      rfl
    refine ⟨?_, ?_, ?_⟩
    · rw [meaning, split]
      exact represented
    · rw [← emitted]
      exact List.prefix_rfl
    · intro _ _
      exact emitted
  | seen frame rest reading =>
    rw [List.append_nil]
    exact fed.seen frame rest reading
  | accused frame rest violation reading =>
    rw [List.append_nil]
    have failed : (before.fail violation).Fed bytes :=
      fed.kept rfl rfl rfl (fun _ _ => ⟨by simp [reading], by simp [reading]⟩)
    exact failed.seen frame rest reading
  | severed frame rest reading =>
    rw [List.append_nil]
    have severed : ({ before with transportOpen := false } : ConnectionShell).Fed bytes :=
      fed.kept rfl rfl rfl (fun _ _ => ⟨by simp [reading], by simp [reading]⟩)
    exact severed.seen frame rest reading
  | ended begun usable loses empty =>
    rw [List.append_nil]
    refine fed.kept rfl rfl ?_ (by simp)
    rcases begun with spawned | awaiting | dispatched
    · simp [spawned, Reader.batch]
    · simp [awaiting, Reader.batch]
    · simp [dispatched, Reader.batch]
  | malformed violation reading error empty =>
    rw [List.append_nil]
    exact fed.kept rfl rfl (by simp [reading, Reader.batch]) (by simp)
  | shutdown =>
    rw [List.append_nil]
    exact fed.kept rfl rfl rfl fun running usable => ⟨running, usable⟩
  | closed empty =>
    rw [List.append_nil]
    exact fed.kept rfl rfl rfl fun running usable =>
      ⟨running, fun reading => by simpa using usable reading⟩
  | ticked suspended empty =>
    rw [List.append_nil]
    exact fed.kept rfl rfl rfl fun running usable =>
      ⟨running, fun reading => by simpa using usable reading⟩
  | sent frames =>
    rw [List.append_nil]
    exact fed.kept rfl rfl rfl fun running usable => ⟨running, usable⟩
  | lost =>
    rw [List.append_nil]
    exact fed.kept rfl rfl rfl fun running usable =>
      ⟨running, fun reading => by simpa using usable reading⟩

end ConnectionShell

end Rillnet
