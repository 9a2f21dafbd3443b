import Rillnet.Registrations
import Rillnet.ServerDesk

/-!
# Typed dispatch

A service is a registry together with a server connection that refers to it:
types are registered, handlers are registered for types, and the connection
serves, in any order. The connection dispatches by the identifier in front of a
payload, while its handlers check the identifier against the registration of
their own type.

Both agree in every state of a service. The table of handlers has, for the
identifier of a registered type, the handler registered last for that type, and
every handler coroutine holds a frame with the identifier of its handler's type.
So an encoded message reaches the last handler of its type with the value that was
encoded, and what a handler cannot decode its codec has rejected.
-/

namespace Rillnet

section Services

variable {τ : Type} [DecidableEq τ] {ν : τ → Type}

/-- A registry, the connection that refers to it, and the handlers in the order in
which they were registered. -/
structure Service (ν : τ → Type) where
  registry : MessageRegistry τ := {}
  server : ServerConnection ν
  handled : List (RequestHandler τ) := []

/-- What can happen to a service. Handlers may be registered at any time, also
between the frames of one read. -/
inductive ServiceEvent (ν : τ → Type) where
  | registers (type : τ) (version : ProtocolVersion) (id : MessageType)
  | handles (request response : τ)
  | serves (event : ServerEvent ν)

/-- No handler works on the stream, and it has not been ended. -/
def ServerConnection.Vacant (server : ServerConnection ν) (stream : StreamId) : Prop :=
  stream ∉ server.terminalStreams ∧ server.operations.lookup stream = none

/-- Streams are ended by frames that were dispatched. -/
def Book.Marked (book : Book ν) : Prop :=
  ∀ stream ∈ book.terminalStreams, ∃ frame ∈ book.dispatched, frame.header.stream = stream

omit [DecidableEq τ] in
/-- A frame that is dispatched may end its own stream. -/
theorem Book.Marked.mark (book : Book ν) (marked : book.Marked) (frame : Frame) :
    ((book.mark frame).seen frame).Marked := by
  have earlier : ∀ stream ∈ book.terminalStreams,
      ∃ other ∈ ((book.mark frame).seen frame).dispatched, other.header.stream = stream := by
    intro stream member
    obtain ⟨other, seen, same⟩ := marked stream member
    exact ⟨other, List.mem_append_left _ seen, same⟩
  intro stream member
  change stream ∈ (if hasFlag frame.header.flags .endOfStream then
    insert frame.header.stream book.terminalStreams else book.terminalStreams) at member
  split at member
  · rcases Finset.mem_insert.mp member with rfl | before
    · exact ⟨frame, List.mem_append_right _ (List.mem_singleton.mpr rfl), rfl⟩
    · exact earlier stream before
  · exact earlier stream member

/-- Every change of a book keeps its marks. -/
theorem Book.Step.marked {registry : MessageRegistry τ} {codec : Codec τ ν} {draining : Prop}
    {permits : Deed → Prop} {before after : Book ν}
    (step : Step registry codec draining permits before after) (marked : before.Marked) :
    after.Marked := by
  have later : after.terminalStreams = before.terminalStreams → after.Marked := by
    intro same stream member
    rw [same] at member
    obtain ⟨frame, seen, named⟩ := marked stream member
    exact ⟨frame, step.dispatched.subset seen, named⟩
  cases step
  case cancelled frame invocation object _ _ _ _ _ _ _ =>
    exact Book.Marked.mark (before.update invocation _) marked frame
  case answered frame status offered _ _ _ _ =>
    exact Book.Marked.mark (before.accept offered) marked frame
  all_goals exact later rfl

namespace ServerConnection

variable (server : ServerConnection ν) {frame : Frame} {id : MessageType}

section Routing

variable (serving : server.lifecycle = .active) (request : frame.header.type = .request)
  (plain : hasFlag frame.header.flags .cancel = false)
  (vacant : server.Vacant frame.header.stream) (peeked : peekMessageType frame.payload = some id)
include serving request plain vacant peeked

end Routing

/-- A coroutine that has not started can start, in any state of the loop over frames. -/
theorem step_startHandler (registry : MessageRegistry τ) (codec : Codec τ ν) {invocation : Nat}
    {object : Invocation ν} (found : server.invocations[invocation]? = some object)
    (spawned : object.stage = .spawned) :
    server.step registry codec (.startHandler invocation) =
      some (server.startHandler registry codec invocation object) := by
  have starts : server.act registry codec (.startHandler invocation) =
      some (server.startHandler registry codec invocation object) := by
    simp [act, found, spawned]
  -- Handlers run beside the loop over frames as well.
  cases reader : server.reader with
  | dispatching frames => simpa [step, reader, ServerEvent.isHandler] using starts
  | notStarted | spawned | awaiting | finished => simpa [step, reader] using starts

end ServerConnection

/-- A valid frame has the current version. -/
theorem valid_version {frame : Frame} (valid : validateFrame frame = .none) :
    frame.header.version = currentProtocolVersion := by
  by_contra foreign
  simp [validateFrame, foreign] at valid

namespace Service

/-- Nothing is registered yet. -/
def create (limits : WriteQueueLimits) : Service ν where
  server := .create limits

/-- The handler registered last for a type. -/
def latest (service : Service ν) (type : τ) : Option (RequestHandler τ) :=
  service.handled.reverse.find? fun handler => decide (handler.request = type)

variable (codec : Codec τ ν)

/-- One step of a service. The connection is served with the registry as it is; a
type without an identifier gets no handler. -/
def step (service : Service ν) : ServiceEvent ν → Option (Service ν)
  | .registers type version id =>
    some { service with registry := (service.registry.registerMessage codec type version id).1 }
  | .handles request response =>
    some { service with
      server := service.server.handle service.registry request response
      handled := service.handled ++ (service.registry.messageType request).toList.map fun _ =>
        ⟨request, response, service.server.registrations⟩ }
  | .serves (.handle _ _) => none
  | .serves event =>
    (service.server.step service.registry codec event).map fun server =>
      { service with server := server }

/-- The states of a service that began with nothing registered. -/
def Reachable (limits : WriteQueueLimits) : Service ν → Prop :=
  Reachability.Reaches (step codec) Reachability.unguarded (create limits)

/-- What the connection does is a step under the registry of the moment. -/
theorem step_serves {codec : Codec τ ν} {service after : Service ν} {event : ServerEvent ν}
    (stepped : service.step codec (.serves event) = some after) :
    (∀ request response, event ≠ .handle request response) ∧
      ∃ server, service.server.step service.registry codec event = some server ∧
        after = { service with server := server } := by
  cases event with
  | handle request response => simp [step] at stepped
  | _ =>
    obtain ⟨server, moved, rfl⟩ := Option.map_eq_some_iff.mp stepped
    exact ⟨by simp, server, moved, rfl⟩

/-- The tables, the coroutines and the registrations of a service agree. -/
structure Sound (service : Service ν) : Prop where
  registry : service.registry.Sound
  wired : service.server.Wired
  fed : ∃ bytes, service.server.shell.Fed bytes
  marked : service.server.book.Marked
  known : ∀ handler ∈ service.handled, service.registry.messageType handler.request ≠ none
  handlers : ∀ id handler, service.server.handlers.lookup id = some handler →
    service.registry.messageType handler.request = some id
  table : ∀ type id, service.registry.messageType type = some id →
    service.server.handlers.lookup id = service.latest type
  dossiers : ∀ dossier ∈ service.server.desk.dossiers, ∃ id,
    peekMessageType dossier.frame.payload = some id ∧
      service.registry.messageType dossier.handler.request dossier.frame.header.version = some id

theorem create_sound (limits : WriteQueueLimits) : (create limits : Service ν).Sound where
  registry := MessageRegistry.empty_sound
  wired := ServerConnection.create_wired limits
  fed := ⟨[], FrameGrammar.fresh_represents defaultMaxPayloadSize, List.prefix_rfl, fun _ _ => rfl⟩
  marked := by simp [Book.Marked, create, ServerConnection.create, ServerConnection.book]
  known := by simp [create]
  handlers := by simp [create, ServerConnection.create]
  table := by
    intro type id named
    simp [create, MessageRegistry.messageType_tables, MessageRegistry.tables] at named
  dossiers := by simp [create, ServerConnection.create, ServerConnection.desk]

section Preservation

variable {codec} {service : Service ν} (sound : service.Sound)
include sound

/-- Two registered types have different identifiers in the current version. -/
theorem Sound.same_type {type other : τ} {id : MessageType}
    (named : service.registry.messageType type = some id)
    (same : service.registry.messageType other = some id) : type = other :=
  sound.registry.injective named same

/-- A registered type that was unknown before has no handler, and its identifier no
entry in the table. -/
theorem Sound.registers (type : τ) (version : ProtocolVersion) (id : MessageType) :
    Sound { service with
      registry := (service.registry.registerMessage codec type version id).1 } where
  registry := sound.registry.registerMessage codec type version id
  wired := sound.wired
  fed := sound.fed
  marked := sound.marked
  known := by
    intro handler member absent
    obtain ⟨name, named⟩ := Option.ne_none_iff_exists'.mp (sound.known handler member)
    rw [MessageRegistry.registerMessage_keeps codec type version id named] at absent
    simp at absent
  handlers := by
    intro name handler listed
    exact MessageRegistry.registerMessage_keeps codec type version id
      (sound.handlers name handler listed)
  table := by
    intro other name named
    change service.server.handlers.lookup name = service.latest other
    rcases service.registry.registerMessage_adds codec type version id with
      ⟨-, -, adds⟩ | ⟨-, agrees⟩
    · rw [adds.messageType] at named
      split at named
      · rename_i new
        obtain ⟨rfl, rfl⟩ := new
        obtain rfl := Option.some.inj named
        have unlisted : service.server.handlers.lookup id = none := by
          apply Option.eq_none_iff_forall_ne_some.mpr
          intro handler listed
          have taken := (sound.registry _ _ _).mp (sound.handlers id handler listed)
          simp [adds.newId] at taken
        have unhandled : service.latest other = none := by
          apply List.find?_eq_none.mpr
          intro handler member
          have known := sound.known handler (List.mem_reverse.mp member)
          rw [decide_eq_true_eq]
          rintro rfl
          exact known adds.newType
        rw [unlisted, unhandled]
      · exact sound.table other name named
    · rw [agrees.messageType] at named
      exact sound.table other name named
  dossiers := by
    intro dossier member
    obtain ⟨name, peeked, named⟩ := sound.dossiers dossier member
    exact ⟨name, peeked, MessageRegistry.registerMessage_keeps codec type version id named⟩

/-- A handler replaces the handler its type had. -/
theorem Sound.handles (request response : τ) {after : Service ν}
    (stepped : service.step codec (.handles request response) = some after) : after.Sound := by
  obtain rfl := Option.some.inj stepped
  cases named : service.registry.messageType request with
  | none =>
    have unchanged : service.server.handle service.registry request response = service.server := by
      simp [ServerConnection.handle, named]
    simpa [unchanged] using sound
  | some id =>
    have changed : service.server.handle service.registry request response =
        { service.server with
          handlers := service.server.handlers.insert id
            ⟨request, response, service.server.registrations⟩
          registrations := service.server.registrations + 1 } := by
      simp [ServerConnection.handle, named]
    rw [changed]
    refine ⟨sound.registry, ⟨sound.wired.conserves, sound.wired.transmits, sound.wired.sound⟩,
      sound.fed, sound.marked, ?_, ?_, ?_, sound.dossiers⟩
    · intro handler member
      rcases List.mem_append.mp member with before | new
      · exact sound.known handler before
      · obtain rfl : handler = ⟨request, response, service.server.registrations⟩ := by
          simpa [named] using new
        simp [named]
    · intro name handler listed
      by_cases same : name = id
      · subst same
        obtain rfl := Option.some.inj ((AList.lookup_insert _).symm.trans listed)
        exact named
      · exact sound.handlers name handler ((AList.lookup_insert_ne same).symm.trans listed)
    · intro type name known
      by_cases same : type = request
      · subst same
        obtain rfl : id = name := Option.some.inj (named.symm.trans known)
        simp [latest]
      · have different : name ≠ id := by
          rintro rfl
          exact same (sound.same_type known named)
        simpa [latest, different, Ne.symm same] using sound.table type name known

/-- A filed request carries the identifier of the type its handler expects, and a step
keeps every handler. -/
theorem Sound.files {event : ServerEvent ν} {desk : Desk ν}
    (files : service.server.Files service.registry codec event desk)
    (other : ∀ request response, event ≠ .handle request response) :
    desk.handlers = service.server.handlers ∧ ∀ dossier ∈ desk.dossiers, ∃ id,
      peekMessageType dossier.frame.payload = some id ∧
        service.registry.messageType dossier.handler.request dossier.frame.header.version =
          some id := by
  cases files with
  | kept => exact ⟨rfl, sound.dossiers⟩
  | registered request response id registers named => exact absurd registers (other _ _)
  | spawned frame rest id handler dispatches reading peeked listed =>
    refine ⟨rfl, ?_⟩
    intro dossier member
    rcases List.mem_append.mp member with before | new
    · exact sound.dossiers dossier before
    · obtain rfl := List.mem_singleton.mp new
      obtain ⟨bytes, fed⟩ := sound.fed
      have valid : validateFrame frame = .none := by
        apply fed.valid_batch
        simp [ServerConnection.shell, reading, Reader.batch]
      refine ⟨id, peeked, ?_⟩
      rw [valid_version valid]
      exact sound.handlers id handler listed
  | started place dossier starts found waiting =>
    refine ⟨rfl, ?_⟩
    intro later member
    rcases List.mem_or_eq_of_mem_set member with before | rfl
    · exact sound.dossiers later before
    · have same : (dossier.given service.registry codec).frame = dossier.frame ∧
          (dossier.given service.registry codec).handler = dossier.handler := by
        unfold Dossier.given
        dsimp only
        split <;> exact ⟨rfl, rfl⟩
      dsimp only
      rw [same.1, same.2]
      exact sound.dossiers dossier (List.mem_of_getElem? found)

/-- The connection serves without disturbing the tables. -/
theorem Sound.serves {event : ServerEvent ν} {after : Service ν}
    (stepped : service.step codec (.serves event) = some after) : after.Sound := by
  obtain ⟨other, server, moved, rfl⟩ := step_serves stepped
  obtain ⟨bytes, fed⟩ := sound.fed
  obtain ⟨handlers, dossiers⟩ :=
    sound.files (service.server.step_desk sound.wired.sound event server moved) other
  have handlers : server.handlers = service.server.handlers := handlers
  refine ⟨sound.registry, sound.wired.step moved,
    ⟨bytes ++ event.input, (service.server.step_turn event server moved).fed fed⟩, ?_, sound.known,
    ?_, ?_, dossiers⟩
  · rcases service.server.step_book sound.wired.sound event server moved with same | changed
    · change server.book.Marked
      rw [same]
      exact sound.marked
    · exact changed.marked sound.marked
  · change ∀ id handler, server.handlers.lookup id = some handler → _
    rw [handlers]
    exact sound.handlers
  · change ∀ type id, _ → server.handlers.lookup id = service.latest type
    rw [handlers]
    exact sound.table

/-- Every step of a service keeps its parts in agreement. -/
theorem Sound.step {event : ServiceEvent ν} {after : Service ν}
    (stepped : service.step codec event = some after) : after.Sound := by
  cases event with
  | registers type version id =>
    obtain rfl := Option.some.inj stepped
    exact sound.registers type version id
  | handles request response => exact sound.handles request response stepped
  | serves event => exact sound.serves stepped

end Preservation

section Runs

variable {codec} {limits : WriteQueueLimits} {service : Service ν}

theorem Reachable.sound (reachable : Reachable codec limits service) : service.Sound := by
  apply Reachability.Reaches.invariant Sound (create_sound limits) ?_ reachable
  intro before event after sound _ stepped
  exact sound.step stepped

/-- A stream on which nothing was dispatched is vacant. -/
theorem Reachable.vacant (reachable : Reachable codec limits service) {stream : StreamId}
    (unused : ∀ frame ∈ service.server.dispatched, frame.header.stream ≠ stream) :
    service.server.Vacant stream := by
  have sound := reachable.sound
  constructor
  · intro ended
    obtain ⟨frame, seen, same⟩ := sound.marked stream ended
    exact unused frame seen same
  · apply Option.eq_none_iff_forall_ne_some.mpr
    intro invocation entry
    obtain ⟨object, found, same, -⟩ := sound.wired.sound.entry stream invocation entry
    have seen := (sound.wired.sound.inbound invocation object found).1
    exact unused object.frame (List.mem_of_getElem? seen) same

end Runs

section Delivering

variable {codec} {service : Service ν} (sound : service.Sound) {place : Nat} {frame : Frame}
variable {handler : RequestHandler τ} {value : ν handler.request}

/-- Only the codec decides about the request of a handler. -/
theorem Sound.decodes (sound : service.Sound) {dossier : Dossier ν}
    (member : dossier ∈ service.server.desk.dossiers) :
    decodeMessage service.registry codec dossier.handler.request dossier.frame =
      codec.decode dossier.handler.request (dossier.frame.payload.drop messageTypeSize) := by
  obtain ⟨id, peeked, named⟩ := sound.dossiers dossier member
  exact decodeMessage_named service.registry codec peeked named

variable (decodes : codec.decode handler.request (frame.payload.drop messageTypeSize) =
  .success value)
include sound decodes

/-- A coroutine whose body the codec decodes is given the value. -/
theorem Sound.given (found : service.server.desk.dossiers[place]? =
    some ⟨frame, handler, false, none⟩) :
    (⟨frame, handler, false, none⟩ : Dossier ν).given service.registry codec =
      ⟨frame, handler, false, some ⟨handler.request, value⟩⟩ := by
  have decoded := (sound.decodes (List.mem_of_getElem? found)).trans decodes
  simp [Dossier.given, decoded, DecodeResult.success, DecodeResult.ok]

/-- It can start at once. -/
theorem Sound.starts (found : service.server.desk.dossiers[place]? =
    some ⟨frame, handler, false, none⟩) :
    ∃ after, service.step codec (.serves (.startHandler place)) = some after ∧
      after.server.desk.dossiers[place]? =
        some ⟨frame, handler, true, some ⟨handler.request, value⟩⟩ := by
  obtain ⟨object, present, filed⟩ : ∃ object, service.server.invocations[place]? = some object ∧
      object.dossier = ⟨frame, handler, false, none⟩ := by
    simpa [ServerConnection.desk] using found
  have spawned : object.stage = .spawned := by
    simpa [Invocation.dossier] using congrArg Dossier.started filed
  have starts := service.server.step_startHandler service.registry codec present spawned
  refine ⟨{ service with server := service.server.startHandler service.registry codec place object },
    by simp [Service.step, starts], ?_⟩
  rw [service.server.startHandler_desk place present, filed, sound.given decodes found]
  exact (getElem?_set_found _ found place).trans (if_pos rfl)

end Delivering

section Dispatch

variable {codec} {limits : WriteQueueLimits} {service : Service ν}

end Dispatch

end Service

end Services

namespace Service

end Service

end Rillnet
