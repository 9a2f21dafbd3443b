import Rillnet.ClientCancels

/-!
# One exchange on a stream

As long as no identifier is handed out a second time after a request went out on it,
and no wait gives up a request that is still live, a client submits at most one
request on a stream and after it at most one cancellation. The request is the last
frame on its stream as long as it is live, and a request that waits for the queue has
nothing on its stream yet.
-/

namespace Rillnet

/-- The frames on one stream. -/
def framesOn (frames : List Frame) (stream : StreamId) : List Frame :=
  frames.filter fun frame => decide (frame.header.stream = stream)

theorem framesOn_append (front back : List Frame) (stream : StreamId) :
    framesOn (front ++ back) stream = framesOn front stream ++ framesOn back stream :=
  List.filter_append front back

theorem framesOn_same {frame : Frame} {stream : StreamId} (same : frame.header.stream = stream) :
    framesOn [frame] stream = [frame] := by
  simp [framesOn, same]

theorem mem_framesOn {frames : List Frame} {stream : StreamId} {frame : Frame} :
    frame ∈ framesOn frames stream ↔ frame ∈ frames ∧ frame.header.stream = stream := by
  simp [framesOn]

theorem framesOn_other {frames : List Frame} {stream : StreamId}
    (different : ∀ frame ∈ frames, frame.header.stream ≠ stream) : framesOn frames stream = [] :=
  List.filter_eq_nil_iff.mpr fun frame member => by simpa using different frame member

/-- What a client submits on a stream that it uses once. -/
inductive Exchange (stream : StreamId) : List Frame → Prop where
  | unused : Exchange stream []
  | asked {frame : Frame} (framed : RequestFrame frame stream) : Exchange stream [frame]
  | withdrawn {frame : Frame} (framed : RequestFrame frame stream) :
      Exchange stream [frame, ClientConnection.cancellationFrame stream]

/-- The next frame of an exchange is its request, or the cancellation after it. -/
theorem Exchange.next {stream : StreamId} {seen rest : List Frame} {frame : Frame}
    (exchange : Exchange stream (seen ++ frame :: rest)) :
    (seen = [] ∧ RequestFrame frame stream) ∨
      (∃ request, seen = [request] ∧ RequestFrame request stream ∧
        frame = ClientConnection.cancellationFrame stream ∧ rest = []) := by
  generalize whole : seen ++ frame :: rest = frames at exchange
  cases exchange with
  | unused => simp at whole
  | asked framed =>
    obtain ⟨rfl, same⟩ : seen = [] ∧ frame :: rest = [_] := by
      cases seen with
      | nil => exact ⟨rfl, whole⟩
      | cons first others => simp at whole
    obtain ⟨rfl, -⟩ := List.cons.inj same
    exact Or.inl ⟨rfl, framed⟩
  | withdrawn framed =>
    cases seen with
    | nil =>
      obtain ⟨rfl, -⟩ := List.cons.inj whole
      exact Or.inl ⟨rfl, framed⟩
    | cons first others =>
      obtain ⟨rfl, tail⟩ := List.cons.inj whole
      cases others with
      | nil =>
        obtain ⟨rfl, rfl⟩ := List.cons.inj tail
        exact Or.inr ⟨first, rfl, framed, rfl, rfl⟩
      | cons second more => simp at tail

section Exchanges

variable {τ : Type} {ν : τ → Type}

/-- Nobody has done anything with a request that waits for the queue. -/
structure PendingRequest.Dormant (request : PendingRequest ν) : Prop where
  timer : request.timer = .idle
  resumed : request.resumed = []
  waiting : request.channel.waiting = []
  unreleased : request.streamReleased = false

namespace Ledger

/-- Every stream carries at most one exchange, and a request that is live or waits for
the queue is the one of its stream. -/
structure Exchanged (ledger : Ledger ν) : Prop where
  shape : ∀ stream, Exchange stream (framesOn ledger.accepted stream)
  dormant : ∀ (request : Nat) (object : PendingRequest ν), ledger.requests[request]? = some object →
    object.owner = .starting → object.Dormant ∧ framesOn ledger.accepted object.stream = []
  listed : ∀ (request : Nat) (object : PendingRequest ν), ledger.requests[request]? = some object →
    object.operation.state = .active → object.removed = false
  asked : ∀ (request : Nat) (object : PendingRequest ν), ledger.requests[request]? = some object →
    object.operation.state = .active → object.owner ≠ .starting →
    ∃ frame, RequestFrame frame object.stream ∧
      framesOn ledger.accepted object.stream = [frame]

section Writes

variable {ledger : Ledger ν} (exchanged : ledger.Exchanged)
include exchanged

/-- What does not touch the objects and the queue. -/
theorem Exchanged.same (other : Ledger ν) (requests : other.requests = ledger.requests)
    (accepted : other.accepted = ledger.accepted) : other.Exchanged := by
  constructor
  · rw [accepted]
    exact exchanged.shape
  · rw [requests, accepted]
    exact exchanged.dormant
  · rw [requests]
    exact exchanged.listed
  · rw [requests, accepted]
    exact exchanged.asked

/-- A registered request has nothing on its stream yet. -/
theorem Exchanged.register (stream : StreamId) (response : τ) (deadline : Option Deadline)
    (unused : framesOn ledger.accepted stream = []) :
    (ledger.register stream response deadline).Exchanged := by
  constructor
  · exact exchanged.shape
  · intro request object present
    rcases getElem?_append_singleton present with before | ⟨-, rfl⟩
    · exact exchanged.dormant request object before
    · exact fun _ => ⟨⟨rfl, rfl, rfl, rfl⟩, unused⟩
  · intro request object present
    rcases getElem?_append_singleton present with before | ⟨-, rfl⟩
    · exact exchanged.listed request object before
    · exact fun _ => rfl
  · intro request object present
    rcases getElem?_append_singleton present with before | ⟨-, rfl⟩
    · exact exchanged.asked request object before
    · exact fun _ claimed => absurd rfl claimed

/-- A request that is live or waits for the queue holds its stream. -/
theorem Exchanged.unreleased (consistent : ledger.Consistent) {request : Nat}
    {object : PendingRequest ν} (found : ledger.requests[request]? = some object)
    (holds : object.operation.state = .active ∨ object.owner = .starting) :
    object.streamReleased = false := by
  rcases holds with active | starting
  · exact (consistent.listed request object found
      (exchanged.listed request object found active)).2
  · exact (exchanged.dormant request object found starting).1.unreleased

/-- Only one request on a stream is live or waits for the queue. -/
theorem Exchanged.alone (consistent : ledger.Consistent) {first second : Nat}
    {one other : PendingRequest ν} (foundOne : ledger.requests[first]? = some one)
    (foundOther : ledger.requests[second]? = some other)
    (holds : one.operation.state = .active ∨ one.owner = .starting)
    (different : second ≠ first) (same : other.stream = one.stream) :
    other.operation.state ≠ .active ∧ other.owner ≠ .starting := by
  have unreleased := exchanged.unreleased consistent foundOne holds
  have elsewhere : ¬ (other.operation.state = .active ∨ other.owner = .starting) := by
    intro both
    exact different (consistent.distinct second first other one foundOther foundOne
      (exchanged.unreleased consistent foundOther both) unreleased same)
  exact not_or.mp elsewhere

variable {request : Nat} {old new : PendingRequest ν} (added : List Frame)
variable (found : ledger.requests[request]? = some old) (other : Ledger ν)
variable (requests : other.requests = ledger.requests.set request new)
variable (accepted : other.accepted = ledger.accepted ++ added)
variable (stream : new.stream = old.stream)
include found requests accepted stream

/-- One object is written and frames are submitted on its stream. -/
theorem Exchanged.written
    (dormant : new.owner = .starting → old.owner = .starting ∧ added = [] ∧ new.Dormant)
    (active : new.operation.state = .active → old.operation.state = .active ∧
      new.removed = old.removed)
    (streams : ∀ frame ∈ added, frame.header.stream = old.stream)
    (others : added = [] ∨ ∀ (place : Nat) (object : PendingRequest ν),
      ledger.requests[place]? = some object → place ≠ request → object.stream = old.stream →
      object.operation.state ≠ .active ∧ object.owner ≠ .starting)
    (asked : new.operation.state = .active → new.owner ≠ .starting →
      ∃ frame, RequestFrame frame old.stream ∧ framesOn other.accepted old.stream = [frame])
    (shape : Exchange old.stream (framesOn other.accepted old.stream)) : other.Exchanged := by
  have reading : ∀ place object, other.requests[place]? = some object →
      place = request ∧ object = new ∨ place ≠ request ∧ ledger.requests[place]? = some object := by
    intro place object present
    rw [requests] at present
    exact getElem?_set_cases found present
  have elsewhere : ∀ key, key ≠ old.stream →
      framesOn other.accepted key = framesOn ledger.accepted key := by
    intro key different
    have absent : framesOn added key = [] := by
      apply framesOn_other
      intro frame member
      rw [streams frame member]
      exact Ne.symm different
    rw [accepted, framesOn_append, absent, List.append_nil]
  have kept : added = [] → other.accepted = ledger.accepted := by
    intro nothing
    rw [accepted, nothing, List.append_nil]
  constructor
  · intro key
    by_cases same : key = old.stream
    · rw [same]
      exact shape
    · rw [elsewhere key same]
      exact exchanged.shape key
  · intro place object present starting
    rcases reading place object present with ⟨rfl, rfl⟩ | ⟨different, before⟩
    · obtain ⟨earlier, nothing, quiet⟩ := dormant starting
      rw [kept nothing, stream]
      exact ⟨quiet, (exchanged.dormant place old found earlier).2⟩
    · obtain ⟨quiet, unused⟩ := exchanged.dormant place object before starting
      refine ⟨quiet, ?_⟩
      by_cases same : object.stream = old.stream
      · rcases others with nothing | settled
        · rw [kept nothing]
          exact unused
        · exact absurd starting (settled place object before different same).2
      · rw [elsewhere _ same]
        exact unused
  · intro place object present live
    rcases reading place object present with ⟨rfl, rfl⟩ | ⟨-, before⟩
    · obtain ⟨earlier, removed⟩ := active live
      rw [removed]
      exact exchanged.listed place old found earlier
    · exact exchanged.listed place object before live
  · intro place object present live claimed
    rcases reading place object present with ⟨rfl, rfl⟩ | ⟨different, before⟩
    · rw [stream]
      exact asked live claimed
    · by_cases same : object.stream = old.stream
      · rcases others with nothing | settled
        · rw [kept nothing]
          exact exchanged.asked place object before live claimed
        · exact absurd live (settled place object before different same).1
      · rw [elsewhere _ same]
        exact exchanged.asked place object before live claimed

/-- An object is written that is not live any more. -/
theorem Exchanged.settled (nothing : added = [])
    (dormant : new.owner = .starting → old.owner = .starting ∧ new.Dormant)
    (inactive : new.operation.state ≠ .active) : other.Exchanged := by
  have kept : other.accepted = ledger.accepted := by rw [accepted, nothing, List.append_nil]
  apply exchanged.written added found other requests accepted stream
  · intro starting
    obtain ⟨earlier, quiet⟩ := dormant starting
    exact ⟨earlier, nothing, quiet⟩
  · exact fun active => absurd active inactive
  · simp [nothing]
  · exact Or.inl nothing
  · exact fun active => absurd active inactive
  · rw [kept]
    exact exchanged.shape old.stream

variable (consistent : ledger.Consistent)
include consistent

/-- A live request whose frame was accepted submits its cancellation. -/
theorem Exchanged.withdrawn (only : added = [ClientConnection.cancellationFrame old.stream])
    (live : old.operation.state = .active) (claimed : old.owner ≠ .starting)
    (owner : new.owner = old.owner) (inactive : new.operation.state ≠ .active) :
    other.Exchanged := by
  have placed : (ClientConnection.cancellationFrame old.stream).header.stream = old.stream := rfl
  apply exchanged.written added found other requests accepted stream
  · intro starting
    exact absurd (owner ▸ starting) claimed
  · exact fun active => absurd active inactive
  · intro frame member
    rw [only] at member
    rw [List.mem_singleton.mp member]
    exact placed
  · right
    intro place object present different same
    exact exchanged.alone consistent found present (Or.inl live) different same
  · exact fun active => absurd active inactive
  · obtain ⟨frame, framed, asked⟩ := exchanged.asked request old found live claimed
    rw [accepted, only, framesOn_append, framesOn_same placed, asked]
    exact .withdrawn framed

/-- The frame of a request that waited for the queue is accepted. -/
theorem Exchanged.admitted {frame : Frame} (only : added = [frame])
    (framed : RequestFrame frame old.stream) (starting : old.owner = .starting)
    (owner : new.owner = .handle) (state : new.operation.state = old.operation.state)
    (removed : new.removed = old.removed) : other.Exchanged := by
  have trace : framesOn other.accepted old.stream = [frame] := by
    rw [accepted, only, framesOn_append, framesOn_same framed.stream,
      (exchanged.dormant request old found starting).2, List.nil_append]
  apply exchanged.written added found other requests accepted stream
  · intro again
    simp [owner] at again
  · exact fun active => ⟨state ▸ active, removed⟩
  · intro submitted member
    rw [only] at member
    rw [List.mem_singleton.mp member]
    exact framed.stream
  · right
    intro place object present different same
    exact exchanged.alone consistent found present (Or.inr starting) different same
  · exact fun _ _ => ⟨frame, framed, trace⟩
  · rw [trace]
    exact .asked framed

end Writes

/-- A request that waits for the queue and is failed stays dormant. -/
theorem Exchanged.failed_dormant {object : PendingRequest ν} (dormant : object.Dormant)
    (operation : Operation StreamId) (result : OperationResult) :
    (object.failedWith operation result false).Dormant := by
  refine ⟨PendingRequest.failedWith_idle dormant.timer _ _ _, ?_, ?_, ?_⟩
  · simp [PendingRequest.failedWith, PendingRequest.cleaned, PendingRequest.closeChannel,
      dormant.resumed, dormant.waiting, Channel.close]
  · simp [PendingRequest.failedWith, PendingRequest.cleaned, PendingRequest.closeChannel,
      Channel.close_waiting]
  · simp [PendingRequest.failedWith, dormant.unreleased]

/-- A touched object is as live as before, and a dormant one is not touched. -/
theorem Exchanged.touched {ledger : Ledger ν} (exchanged : ledger.Exchanged) {request : Nat}
    {object new : PendingRequest ν} {aborts : Prop} (sane : object.Sane)
    (found : ledger.requests[request]? = some object) (touch : object.Touch aborts new) :
    (ledger.replace request new).Exchanged := by
  obtain ⟨-, operation, removed, -, owner⟩ := sane.touch touch
  have awake : object.owner ≠ .starting := by
    intro starting
    have dormant := (exchanged.dormant request object found starting).1
    cases touch with
    | timer timer started => exact started dormant.timer
    | asyncWait handle => simp [starting] at handle
    | abortWait allowed wait waiting => simp [dormant.waiting] at waiting
    | released handle => simp [starting] at handle
  apply exchanged.written [] found (ledger.replace request new) rfl (List.append_nil _).symm
    (congrArg Operation.stream operation)
  · intro starting
    rcases owner with same | handle
    · exact absurd (same.symm.trans starting) awake
    · cases touch with
      | timer | asyncWait | abortWait => exact absurd starting awake
      | released => simp at starting
  · rw [operation]
    exact fun active => ⟨active, removed⟩
  · simp
  · exact Or.inl rfl
  · intro active _
    exact exchanged.asked request object found (operation ▸ active) awake
  · exact exchanged.shape object.stream

section Steps

variable [DecidableEq τ] {registry : MessageRegistry τ} {codec : Codec τ ν}
variable {permits : Ledger ν → Change → Prop} {before after : Ledger ν}

/-- What an event must not permit: a stream that carried a request is handed out again, a
wait returns from a live request, and a request that waits for the queue is answered or
given up. A response never asks to cancel. -/
structure KeepsExchanges (permits : Ledger ν → Change → Prop) (ledger : Ledger ν) : Prop where
  registers : ∀ stream, permits ledger (.registers stream) → framesOn ledger.accepted stream = []
  returns : ∀ request object, permits ledger (.returns request) →
    ledger.requests[request]? = some object → object.operation.state ≠ .active
  abandons : ∀ request object, permits ledger (.abandons request) →
    ledger.requests[request]? = some object → object.owner ≠ .starting
  completes : ∀ request object frame, permits ledger (.completes request frame) →
    ledger.requests[request]? = some object →
    ledger.pending.lookup frame.header.stream = some request → object.owner ≠ .starting
  rejects : ∀ request object frame, permits ledger (.rejects request frame) →
    ledger.requests[request]? = some object →
    ledger.pending.lookup frame.header.stream = some request →
    object.owner ≠ .starting ∧ hasFlag frame.header.flags .cancel = false

/-- Every such change keeps one exchange on a stream. -/
theorem Step.exchanged (step : Step registry codec permits before after)
    (keeping : KeepsExchanges permits before) (consistent : before.Consistent)
    (exchanged : before.Exchanged) : after.Exchanged := by
  have nothing : before.accepted = before.accepted ++ [] := (List.append_nil _).symm
  cases step with
  | allocated kept => exact exchanged.same _ rfl rfl
  | registered stream response deadline permitted allocation =>
    exact exchanged.register stream response deadline (keeping.registers stream permitted)
  | suspended request object frame found starting framed => exact exchanged.same _ rfl rfl
  | admitted request object frame permitted found starting framed =>
    exact exchanged.admitted [frame] found _ rfl rfl (PendingRequest.startTimer_stream _)
      consistent rfl framed starting (PendingRequest.startTimer_owner _)
      (PendingRequest.startTimer_state _) (PendingRequest.startTimer_removed _)
  | refused request object operation status message found starting fails =>
    exact exchanged.settled [] found _ rfl nothing fails.stream rfl
      (fun claimed => by simp [refusedObject] at claimed) fails.inactive
  | refusedLate request object status message found starting inactive =>
    exact exchanged.settled [] found _ rfl nothing rfl rfl
      (fun claimed => by simp [refusedObject] at claimed) inactive
  | touched request object new found touch =>
    exact exchanged.touched (consistent.sane request object found) found touch
  | abandoned request object operation result release offered permitted found fails kind =>
    have claimed := keeping.abandons request object permitted found
    rcases kind with rfl | rfl
    · exact exchanged.settled [] found _ rfl rfl fails.stream rfl
        (fun starting => absurd starting claimed) fails.inactive
    · exact exchanged.withdrawn _ found _ rfl rfl fails.stream consistent rfl fails.active claimed
        rfl fails.inactive
  | failed after permitted fails =>
    obtain ⟨request, object, operation, result, found, fails, rfl⟩ := fails
    refine exchanged.settled [] found _ rfl nothing fails.stream rfl ?_ fails.inactive
    intro starting
    exact ⟨starting,
      Exchanged.failed_dormant (exchanged.dormant request object found starting).1 _ _⟩
  | dropped request object found handle inactive =>
    refine exchanged.settled [] found _ rfl nothing rfl rfl ?_ inactive
    intro starting
    have starting : object.owner = .starting := starting
    simp [handle] at starting
  | returned request object wait posted permitted found member =>
    refine exchanged.settled [] found _ rfl nothing rfl rfl ?_
      (keeping.returns request object permitted found)
    intro starting
    have resumed := (exchanged.dormant request object found starting).1.resumed
    simp [resumed] at member
  | completed request object frame permitted found entry active response open_ plain =>
    refine exchanged.settled [] found _ rfl nothing
      (PendingRequest.completedWith_stream object _ frame) rfl ?_
      (by simp [PendingRequest.completedOperation])
    intro starting
    rw [PendingRequest.completedWith_owner] at starting
    exact absurd starting (keeping.completes request object frame permitted found entry)
  | rejected request object operation result release offered frame permitted found entry fails kind
      open_ silent =>
    obtain ⟨claimed, plain⟩ := keeping.rejects request object frame permitted found entry
    obtain ⟨-, rfl⟩ := silent.resolve_right (by simp [plain])
    exact exchanged.settled [] found _ rfl rfl fails.stream rfl
      (fun starting => absurd starting claimed) fails.inactive
  | accused frame violation permitted => exact exchanged.same _ rfl rfl
  | charged violation permitted => exact exchanged.same _ rfl rfl

end Steps

end Ledger

end Exchanges

end Rillnet
