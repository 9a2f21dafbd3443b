import Rillnet.ClientResults

/-!
# Where the waits of a request are

The waits of a request are numbered in the order of the calls of `async_wait`. A wait stands
in line at the channel, has been resumed, or has returned, and it is in exactly one of these
places in every reachable state.
-/

namespace Rillnet

/-- Every wait that was begun is in one place: in line, resumed or returned. -/
def Placed (line resumed heard : List Nat) (waits : Nat) : Prop :=
  (line ++ resumed ++ heard).Perm (List.range waits)

namespace Placed

variable {line resumed heard rest : List Nat} {wait waits : Nat}

/-- How often a wait is found in the three places. -/
theorem counts (placed : Placed line resumed heard waits) (wait : Nat) :
    line.count wait + resumed.count wait + heard.count wait = (List.range waits).count wait := by
  rw [← placed.count_eq, List.count_append, List.count_append]

/-- Waits are placed if each of those begun is counted in exactly one place. -/
theorem of_counts (counts : ∀ wait, line.count wait + resumed.count wait + heard.count wait =
    (List.range waits).count wait) : Placed line resumed heard waits := by
  refine List.perm_iff_count.mpr fun wait => ?_
  rw [List.count_append, List.count_append]
  exact counts wait

/-- The waits of the line are resumed. -/
theorem released (placed : Placed line resumed heard waits) :
    Placed [] (resumed ++ line) heard waits := by
  refine of_counts fun other => ?_
  have counted := placed.counts other
  rw [List.count_append, List.count_nil]
  omega

/-- A wait leaves the line and is resumed. -/
theorem handed (placed : Placed line resumed heard waits) (taken : line.Perm (wait :: rest)) :
    Placed rest (resumed ++ [wait]) heard waits := by
  refine of_counts fun other => ?_
  have counted := placed.counts other
  rw [taken.count_eq, List.count_cons] at counted
  rw [List.count_append, List.count_singleton]
  omega

/-- A new wait joins the line. -/
theorem joins (placed : Placed line resumed heard waits) :
    Placed (line ++ [waits]) resumed heard (waits + 1) := by
  refine of_counts fun other => ?_
  have counted := placed.counts other
  rw [List.range_succ, List.count_append, List.count_append]
  omega

/-- A new wait is resumed at once. -/
theorem posts (placed : Placed line resumed heard waits) :
    Placed line (resumed ++ [waits]) heard (waits + 1) := by
  refine of_counts fun other => ?_
  have counted := placed.counts other
  rw [List.range_succ, List.count_append, List.count_append]
  omega

/-- A resumed wait returns. -/
theorem returns (placed : Placed line resumed heard waits) (taken : resumed.Perm (wait :: rest)) :
    Placed line rest (heard ++ [wait]) waits := by
  refine of_counts fun other => ?_
  have counted := placed.counts other
  rw [taken.count_eq, List.count_cons] at counted
  rw [List.count_append, List.count_singleton]
  omega

/-- The places together hold as many waits as were begun. -/
theorem lengths (placed : Placed line resumed heard waits) :
    line.length + resumed.length + heard.length = waits := by
  have lengths := placed.length_eq
  rw [List.length_append, List.length_append, List.length_range] at lengths
  exact lengths

/-- Every wait that was begun is in one of the places. -/
theorem place (placed : Placed line resumed heard waits) (begun : wait < waits) :
    wait ∈ line ∨ wait ∈ resumed ∨ wait ∈ heard := by
  have member := placed.mem_iff.mpr (List.mem_range.mpr begun)
  rw [List.mem_append, List.mem_append, or_assoc] at member
  exact member

end Placed

section Waits

variable {τ : Type} {ν : τ → Type}

/-- The calls of `async_wait` that have returned. -/
def PendingRequest.heard (request : PendingRequest ν) : List Nat := request.returned.map Prod.fst

namespace PendingRequest

/-- The waits of a request are where they belong. -/
def Accounted (request : PendingRequest ν) : Prop :=
  Placed request.channel.waiting (request.resumed.map Prod.fst) request.heard request.waits

section Accounts

variable {request : PendingRequest ν}

/-- A new object has no waits. -/
theorem create_accounted (stream : StreamId) (response : τ) (deadline : Option Deadline) :
    (create stream response deadline : PendingRequest ν).Accounted := .nil

/-- Closing the channel moves the waiting ones to those that were resumed. -/
theorem Accounted.closeChannel (accounted : request.Accounted) : request.closeChannel.Accounted := by
  have waits : (request.channel.close.2.map fun wait => (wait, (none : Option Frame))).map Prod.fst =
      request.channel.waiting := by
    rw [List.map_map]
    exact List.map_id _
  have released := Placed.released accounted
  unfold Accounted PendingRequest.closeChannel
  rw [List.map_append, waits]
  exact released

/-- A response moves the first that waits to those that were resumed, or none. -/
theorem Accounted.trySend (accounted : request.Accounted) (position : Nat) (frame : Frame) :
    (request.trySend position frame).Accounted := by
  unfold PendingRequest.trySend
  split
  · exact accounted
  · rename_i channel receiver sent
    cases receiver with
    | none =>
      obtain ⟨-, idle, still, -⟩ := request.channel.trySend_buffered channel frame sent
      unfold Accounted at accounted ⊢
      rw [idle] at accounted
      rw [still, List.map_append, Option.toList_none, List.map_nil, List.map_nil, List.append_nil]
      exact accounted
    | some receiver =>
      obtain ⟨-, waiting, -⟩ := request.channel.trySend_handed channel frame receiver sent
      unfold Accounted
      rw [List.map_append]
      exact accounted.handed (waiting ▸ .rfl)

/-- A new wait joins those that wait, or is resumed at once. -/
theorem Accounted.asyncWait (accounted : request.Accounted) : request.asyncWait.Accounted := by
  unfold PendingRequest.asyncWait Accounted
  cases asked : request.channel.receive request.waits with
  | mk channel reception =>
    rw [List.map_append]
    cases reception with
    | suspended =>
      obtain ⟨-, -, -, -, joined, -⟩ := request.channel.receive_suspended channel _ asked
      rw [joined, List.map_nil, List.append_nil]
      exact accounted.joins
    | message frame =>
      obtain ⟨-, idle, still, -⟩ := request.channel.receive_message channel frame _ asked
      have posted := accounted.posts
      rw [idle] at posted
      rw [still]
      exact posted
    | closed =>
      obtain ⟨rfl, -, -⟩ := request.channel.receive_closed channel _ asked
      exact accounted.posts

/-- A wait that returns is heard, and resumed no more. -/
theorem Accounted.returned [DecidableEq τ] (registry : MessageRegistry τ) (codec : Codec τ ν)
    (accounted : request.Accounted) {wait : Nat} {posted : Option Frame}
    (member : (wait, posted) ∈ request.resumed) :
    (Ledger.returnedObject registry codec request wait posted).Accounted := by
  have joined : (Ledger.returnedObject registry codec request wait posted).heard =
      request.heard ++ [wait] := List.map_append
  have returns := accounted.returns ((List.perm_cons_erase member).map Prod.fst)
  unfold Accounted
  rw [joined]
  exact returns

/-- A wait that is aborted leaves the line, and is resumed. -/
theorem Accounted.withdrawn (accounted : request.Accounted) {wait : Nat}
    (waits : wait ∈ request.channel.waiting) :
    ({ request with
      channel := request.channel.withdraw wait
      resumed := request.resumed ++ [(wait, none)] } : PendingRequest ν).Accounted := by
  unfold Accounted
  rw [List.map_append]
  exact accounted.handed (List.perm_cons_erase waits)

/-- Whatever happens to an object, its waits stay accounted for. -/
theorem Evolves.accounted [DecidableEq τ] {registry : MessageRegistry τ} {codec : Codec τ ν}
    {aborts : Prop} {answers : Nat → Frame → Prop} {new : PendingRequest ν}
    (evolves : request.Evolves registry codec aborts answers new) (accounted : request.Accounted) :
    new.Accounted := by
  cases evolves with
  | same | dropped => exact accounted
  | started starting index =>
    unfold PendingRequest.started startTimer
    split <;> exact accounted
  | refused | refusedLate | failed =>
    have closed := accounted.closeChannel
    exact closed
  | touched new touch =>
    cases touch with
    | timer | released => exact accounted
    | asyncWait => exact accounted.asyncWait
    | abortWait aborts wait waits => exact accounted.withdrawn waits
  | returned wait posted member => exact accounted.returned registry codec member
  | completed active position frame answered =>
    let settled : PendingRequest ν := { request with
      operation := request.completedOperation
      settled := request.settled ++ [OperationResult.success "response received"]
      timer := request.timer.cancel }
    have same : settled.Accounted := accounted
    have sent := same.trySend position frame
    exact sent

end Accounts

end PendingRequest

/-- The waits of all requests of a ledger are accounted for. -/
theorem Ledger.Steps.accounted [DecidableEq τ] {registry : MessageRegistry τ} {codec : Codec τ ν}
    {permits : Ledger ν → Change → Prop} {before after : Ledger ν}
    (steps : Ledger.Steps registry codec permits before after)
    (accounted : ∀ (request : Nat) (object : PendingRequest ν),
      before.requests[request]? = some object → object.Accounted) :
    ∀ (request : Nat) (object : PendingRequest ν),
      after.requests[request]? = some object → object.Accounted := by
  induction steps with
  | refl => exact accounted
  | tail _ step inductionHypothesis =>
    intro request new found
    rcases step.origin found with ⟨object, present, evolves⟩ | ⟨stream, response, deadline, rfl⟩
    · exact evolves.accounted (inductionHypothesis request object present)
    · exact PendingRequest.create_accounted stream response deadline

variable [DecidableEq τ] {registry : MessageRegistry τ} {codec : Codec τ ν}

/-- In every reachable state the waits of all requests are where they belong. -/
theorem ClientConnection.Reachable.placed
    {guard : ClientConnection ν → ClientEvent ν → Prop} {limits : WriteQueueLimits}
    {maximumStreamId : UInt64} {client : ClientConnection ν}
    (reachable : ClientConnection.Reachable registry codec guard limits maximumStreamId client) :
    ∀ (request : Nat) (object : PendingRequest ν), client.requests[request]? = some object →
      object.Accounted := by
  apply Reachability.Reaches.invariant_of_reached (fun client : ClientConnection ν =>
    ∀ (request : Nat) (object : PendingRequest ν), client.requests[request]? = some object →
      object.Accounted) ?_ ?_ reachable
  · intro request object found
    simp [create] at found
  · intro before event after reached accounted _ stepped
    exact (before.step_steps event after (Reachable.consistent reached) stepped).accounted accounted

end Waits

end Rillnet
