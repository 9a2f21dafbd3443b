import Rillnet.ServerDesk
import Rillnet.ServerReplies

/-!
# The values of a server

A handler coroutine stands between two values: the one that was decoded from its request
and given to the application's handler, and the one that the handler returned and that is
sent in its reply. A coroutine returns at most once, and the frame accepted at the
position it records is the encoding of what it returned.
-/

namespace Rillnet

section Servers

variable {τ : Type} [DecidableEq τ] {ν : τ → Type} {registry : MessageRegistry τ} {codec : Codec τ ν}

section Books

variable {draining : Prop} {permits : Deed → Prop} {before after : Book ν}

/-- A reply is recorded where its frame is accepted. -/
theorem Book.Step.replies (step : Step registry codec draining permits before after)
    {invocation position : Nat} {new : Invocation ν}
    (found : after.invocations[invocation]? = some new) (replied : new.reply = some position) :
    (∃ object, before.invocations[invocation]? = some object ∧ object.reply = some position) ∨
    ∃ frame, permits (.ends invocation (.replied frame)) ∧ position = before.accepted.length ∧
      after.accepted = before.accepted ++ [frame] := by
  have moved : ∀ (place : Nat) (old other : Invocation ν), before.invocations[place]? = some old →
      after.invocations = before.invocations.set place other → other.reply = old.reply →
      ∃ object, before.invocations[invocation]? = some object ∧ object.reply = some position := by
    intro place old other present written same
    rw [written] at found
    rcases getElem?_set_cases present found with ⟨rfl, rfl⟩ | ⟨-, kept⟩
    · exact ⟨old, present, same.symm.trans replied⟩
    · exact ⟨new, kept, replied⟩
  cases step with
  | spawned frame handler permitted request plain unmarked free serving =>
    rcases getElem?_append_singleton found with kept | ⟨-, rfl⟩
    · exact Or.inl ⟨new, kept, replied⟩
    · simp [Invocation.spawn] at replied
  | answered | accused => exact Or.inl ⟨new, found, replied⟩
  | cancelled frame place old permitted request present entry cancels unmarked serving =>
    exact Or.inl (moved place old _ present rfl rfl)
  | started place old argument present spawned decoded =>
    exact Or.inl (moved place old _ present rfl rfl)
  | undecodable place old status message offered permitted ends present spawned decoded failure
      kind =>
    exact Or.inl (moved place old _ present rfl rfl)
  | dropped place old permitted ends present handling =>
    exact Or.inl (moved place old _ present rfl rfl)
  | refused place old operation permitted ends present ready =>
    exact Or.inl (moved place old _ present rfl rfl)
  | suspended place old frame waits present handling active framed =>
    exact Or.inl (moved place old _ present rfl rfl)
  | replied place old operation frame permitted ends present ready framed =>
    rcases getElem?_set_cases present found with ⟨rfl, rfl⟩ | ⟨-, kept⟩
    · exact Or.inr ⟨frame, ends, (Option.some.inj replied).symm, rfl⟩
    · exact Or.inl ⟨new, kept, replied⟩
  | lost others length each =>
    have bound : invocation < before.invocations.length :=
      length ▸ (List.getElem?_eq_some_iff.mp found).1
    have old := List.getElem?_eq_getElem bound
    refine Or.inl ⟨_, old, ?_⟩
    rcases each invocation _ old with same | lost
    · obtain rfl := Option.some.inj (same.symm.trans found)
      exact replied
    · obtain rfl := Option.some.inj (lost.symm.trans found)
      exact replied

/-- What was accepted stays accepted. -/
theorem Book.Step.accepts (step : Step registry codec draining permits before after) :
    before.accepted <+: after.accepted := by
  cases step with
  | answered | undecodable | replied => exact List.prefix_append _ _
  | spawned | cancelled | accused | started | dropped | refused | suspended | lost =>
    exact List.prefix_rfl

omit [DecidableEq τ] in
/-- What a handler coroutine keeps: its request and its handler. -/
theorem Invocation.Goes.constant {accepted : Nat} {ends : Ending → Prop} {old new : Invocation ν}
    (goes : old.Goes accepted ends new) : new.frame = old.frame ∧ new.handler = old.handler := by
  cases goes <;> exact ⟨rfl, rfl⟩

end Books

/-- A coroutine that has started was given what its request decodes to, if it does. -/
def Dossier.Sourced (registry : MessageRegistry τ) (codec : Codec τ ν) (dossier : Dossier ν) : Prop :=
  dossier.received =
    if dossier.started && (decodeMessage registry codec dossier.handler.request dossier.frame).ok then
      (decodeMessage registry codec dossier.handler.request dossier.frame).value.map
        (Sigma.mk dossier.handler.request)
    else none

/-- A coroutine is given its value when it starts. -/
theorem ServerConnection.Files.sourced {server : ServerConnection ν} {event : ServerEvent ν}
    {desk : Desk ν} (files : server.Files registry codec event desk)
    (sourced : ∀ dossier ∈ server.desk.dossiers, dossier.Sourced registry codec) :
    ∀ dossier ∈ desk.dossiers, dossier.Sourced registry codec := by
  intro dossier member
  cases files with
  | kept => exact sourced dossier member
  | registered => exact sourced dossier member
  | spawned frame rest id handler =>
    rcases List.mem_append.mp member with before | new
    · exact sourced dossier before
    · rw [List.mem_singleton.mp new]
      simp [Dossier.Sourced]
  | started place old starts found waiting =>
    rcases List.mem_or_eq_of_mem_set member with before | rfl
    · exact sourced dossier before
    · have nothing : old.received = none := by
        have filed := sourced old (List.mem_of_getElem? found)
        rwa [Dossier.Sourced, waiting, Bool.false_and, if_neg Bool.false_ne_true] at filed
      by_cases ok : (decodeMessage registry codec old.handler.request old.frame).ok = true
      · have given : old.given registry codec = _ := if_pos ok
        rw [given]
        simp [Dossier.Sourced, ok]
      · have given : old.given registry codec = old := if_neg ok
        rw [given]
        simp [Dossier.Sourced, ok, nothing]

namespace Invocation

variable {object new : Invocation ν}

variable (registry codec) in
/-- The request of a coroutine can be decoded. -/
def Readable (object : Invocation ν) : Prop :=
  (decodeMessage registry codec object.handler.request object.frame).ok = true

/-- The value of a coroutine that has started on a readable request. -/
theorem argument_of_sourced (sourced : object.dossier.Sourced registry codec)
    (readable : object.Readable registry codec) (started : object.stage ≠ .spawned) :
    object.argument = (decodeMessage registry codec object.handler.request object.frame).value := by
  have readable : (decodeMessage registry codec object.dossier.handler.request
      object.dossier.frame).ok = true := readable
  have begun : object.dossier.started = true := by simp [dossier, started]
  rw [Dossier.Sourced, begun, readable, Bool.true_and, if_pos rfl] at sourced
  exact Option.map_injective sigma_mk_injective sourced

/-- A value that was given is what the request decodes to. -/
theorem value_of_sourced (sourced : object.dossier.Sourced registry codec)
    {value : ν object.handler.request} (given : object.argument = some value) :
    (decodeMessage registry codec object.handler.request object.frame).value = some value := by
  have filed : object.dossier.received = some ⟨object.handler.request, value⟩ := by
    simp [dossier, given]
  rw [Dossier.Sourced] at sourced
  split at sourced
  · have same := sourced.symm.trans filed
    obtain ⟨other, decoded, equal⟩ := Option.map_eq_some_iff.mp same
    obtain rfl := sigma_mk_injective equal
    exact decoded
  · rw [sourced] at filed
    simp at filed

theorem replyFrame_constant (frame : new.frame = object.frame) {type : τ} {value : ν type} :
    new.replyFrame registry codec type value = object.replyFrame registry codec type value := by
  simp only [replyFrame, Invocation.stream, frame]

end Invocation

variable (registry codec) in
/-- The values that handlers returned, each with the place of its coroutine: a coroutine is
past its handler, and the response it holds or has had accepted is the encoding of the
value. -/
structure ServerConnection.Answers (server : ServerConnection ν) (answered : List (Nat × Sigma ν)) :
    Prop where
  handling : ∀ (invocation : Nat) (object : Invocation ν),
    server.invocations[invocation]? = some object → object.stage = .handling →
    object.Readable registry codec
  returned : ∀ entry ∈ answered, ∃ object, server.invocations[entry.1]? = some object ∧
    object.stage ≠ .spawned ∧ object.stage ≠ .handling ∧ object.Readable registry codec ∧
    entry.2.1 = object.handler.response
  once : (answered.map Prod.fst).Nodup
  held : ∀ (invocation : Nat) (frame : Frame), server.writeQueue.held invocation = some frame →
    ∃ object call, server.invocations[invocation]? = some object ∧ (invocation, call) ∈ answered ∧
      object.replyFrame registry codec call.1 call.2 = some frame
  replied : ∀ (invocation : Nat) (object : Invocation ν) (position : Nat),
    server.invocations[invocation]? = some object → object.reply = some position →
    ∃ frame call, server.writeQueue.accepted[position]? = some frame ∧
      (invocation, call) ∈ answered ∧ object.replyFrame registry codec call.1 call.2 = some frame

namespace ServerConnection

variable {server after : ServerConnection ν} {event : ServerEvent ν}

variable (registry codec) in
/-- A coroutine whose handler returned is past it. -/
theorem handlerReturns_past {invocation : Nat} {object : Invocation ν}
    (found : server.invocations[invocation]? = some object) (type : τ) (value : ν type) :
    ∃ new, (server.handlerReturns registry codec invocation object type value).invocations[
        invocation]? = some new ∧ new.stage ≠ .spawned ∧ new.stage ≠ .handling := by
  have bound := (List.getElem?_eq_some_iff.mp found).1
  have ended : ∀ {later : ServerConnection ν}, later.HasEnded invocation →
      ∃ new, later.invocations[invocation]? = some new ∧ new.stage ≠ .spawned ∧
        new.stage ≠ .handling := by
    rintro later ⟨new, reread, finished⟩
    exact ⟨new, reread, by simp [finished], by simp [finished]⟩
  unfold handlerReturns
  split
  · exact ended (server.finishHandler_ended invocation bound)
  · dsimp only
    have called := server.callOperation_length invocation
      fun operation => operation.complete "response ready"
    split
    · rename_i frame encoded committed
      generalize (server.callOperation invocation fun operation =>
        operation.complete "response ready").1 = current at called
      generalize outcome : current.writeQueue.enqueue invocation _ = offered
      cases answered : offered.2 with
      | some result => exact ended (current.afterOffer_ended invocation answered (by omega))
      | none =>
        have present := List.getElem?_eq_getElem (by omega : invocation < current.invocations.length)
        refine ⟨{ current.invocations[invocation] with stage := .responding }, ?_, by simp, by simp⟩
        simp [afterOffer, answered, modifyInvocation, present]
    · exact ended (finishHandler_ended _ invocation (by omega))

/-- A coroutine keeps its request and its handler, and does not go back to its handler. -/
theorem step_constant (sound : server.book.Sound)
    (stepped : server.step registry codec event = some after) {invocation : Nat}
    {object : Invocation ν} (found : server.invocations[invocation]? = some object) :
    ∃ new, after.invocations[invocation]? = some new ∧ new.frame = object.frame ∧
      new.handler = object.handler ∧
      (new.stage = .spawned ∨ new.stage = .handling →
        object.stage = .spawned ∨ object.stage = .handling) := by
  rcases server.step_book sound event after stepped with same | step
  · have kept : after.invocations = server.invocations := congrArg Book.invocations same
    exact ⟨object, kept ▸ found, rfl, rfl, id⟩
  · obtain ⟨new, reread, goes⟩ := step.goes found
    obtain ⟨frame, handler⟩ := goes.constant
    exact ⟨new, reread, frame, handler,
      fun early => (goes.early_stage (sound.operation invocation object found).2.2 early).1⟩

/-- The application's handler is called on a readable request. -/
theorem Answers.handling_step {answered : List (Nat × Sigma ν)}
    (answers : server.Answers registry codec answered) (sound : server.book.Sound)
    (stepped : server.step registry codec event = some after) {invocation : Nat}
    {new : Invocation ν} (found : after.invocations[invocation]? = some new)
    (handling : new.stage = .handling) : new.Readable registry codec := by
  rcases server.step_book sound event after stepped with same | step
  · have kept : after.invocations = server.invocations := congrArg Book.invocations same
    exact answers.handling invocation new (kept ▸ found) handling
  · rcases step.comes found with ⟨object, present, goes⟩ | ⟨frame, handler, -, -, -, rfl⟩
    · obtain ⟨frame, handler⟩ := goes.constant
      have readable : object.Readable registry codec := by
        rcases (goes.early_stage (sound.operation invocation object present).2.2
          (Or.inr handling)).1 with spawned | already
        · exact step.starts present spawned found handling
        · exact answers.handling invocation object present already
      unfold Invocation.Readable
      rw [frame, handler]
      exact readable
    · simp [Invocation.spawn] at handling

/-- The values recorded after a step: one that a handler returned joins them. -/
def recordReturn (event : ServerEvent ν) (answered : List (Nat × Sigma ν)) : List (Nat × Sigma ν) :=
  match event with
  | .handlerReturns invocation type value => answered ++ [(invocation, ⟨type, value⟩)]
  | _ => answered

omit [DecidableEq τ] in
theorem recordReturn_grows (answered : List (Nat × Sigma ν)) :
    answered <+: recordReturn event answered := by
  unfold recordReturn
  split
  · exact List.prefix_append _ _
  · exact List.prefix_rfl

/-- A response that was enqueued is the encoding of a value that was returned. -/
theorem Answers.step_held {answered : List (Nat × Sigma ν)}
    (answers : server.Answers registry codec answered) {invocation : Nat} {frame : Frame}
    (holds : server.writeQueue.held invocation = some frame ∨
      server.Brings registry codec event (.waits invocation frame)) :
    ∃ object call, server.invocations[invocation]? = some object ∧
      (invocation, call) ∈ recordReturn event answered ∧
      object.replyFrame registry codec call.1 call.2 = some frame := by
  rcases holds with before | waits
  · obtain ⟨object, call, found, member, sends⟩ := answers.held invocation frame before
    exact ⟨object, call, found, (recordReturn_grows answered).subset member, sends⟩
  · cases waits with
    | waits invocation object type value frame returns found sends =>
      refine ⟨object, ⟨type, value⟩, found, ?_, sends⟩
      simp [recordReturn, returns]

/-- A reply that was accepted is the encoding of a value that was returned. -/
theorem Answers.step_replied {answered : List (Nat × Sigma ν)}
    (answers : server.Answers registry codec answered) {invocation : Nat} {frame : Frame}
    (ends : server.Brings registry codec event (.ends invocation (.replied frame))) :
    ∃ object call, server.invocations[invocation]? = some object ∧
      (invocation, call) ∈ recordReturn event answered ∧
      object.replyFrame registry codec call.1 call.2 = some frame := by
  have sent : ∀ {result : WriteResult} {other : Frame},
      Ending.replied frame = (if result.ok then .replied other else .refused) → other = frame := by
    intro result other outcome
    split at outcome
    · exact (Ending.replied.inj outcome).symm
    · simp at outcome
  cases ends with
  | ends invocation ending ended =>
    rcases server.ending_answered ended (Or.inr ⟨frame, rfl⟩) with
      ⟨type, value, object, other, result, rfl, found, sends, -, outcome⟩ |
      ⟨other, queue, result, rfl, holds, -, outcome⟩
    · obtain rfl := sent outcome
      exact ⟨object, ⟨type, value⟩, found, by simp [recordReturn], sends⟩
    · obtain rfl := sent outcome
      exact answers.held invocation other holds

/-- A handler that returned its value is past. -/
theorem Answers.returned_step {answered : List (Nat × Sigma ν)}
    (answers : server.Answers registry codec answered) (sound : server.book.Sound)
    (stepped : server.step registry codec event = some after) {entry : Nat × Sigma ν}
    (member : entry ∈ recordReturn event answered) :
    ∃ new, after.invocations[entry.1]? = some new ∧ new.stage ≠ .spawned ∧ new.stage ≠ .handling ∧
      new.Readable registry codec ∧ entry.2.1 = new.handler.response := by
  have past : ∀ {object : Invocation ν}, server.invocations[entry.1]? = some object →
      object.Readable registry codec → entry.2.1 = object.handler.response →
      (∀ new, after.invocations[entry.1]? = some new → new.stage ≠ .spawned ∧ new.stage ≠ .handling) →
      ∃ new, after.invocations[entry.1]? = some new ∧ new.stage ≠ .spawned ∧
        new.stage ≠ .handling ∧ new.Readable registry codec ∧ entry.2.1 = new.handler.response := by
    intro object found readable typed later
    obtain ⟨new, reread, frame, handler, -⟩ := step_constant sound stepped found
    obtain ⟨begun, beyond⟩ := later new reread
    refine ⟨new, reread, begun, beyond, ?_, ?_⟩
    · unfold Invocation.Readable
      rw [frame, handler]
      exact readable
    · rw [handler]
      exact typed
  have earlier : entry ∈ answered → ∃ new, after.invocations[entry.1]? = some new ∧
      new.stage ≠ .spawned ∧ new.stage ≠ .handling ∧ new.Readable registry codec ∧
      entry.2.1 = new.handler.response := by
    intro before
    obtain ⟨object, found, begun, beyond, readable, typed⟩ := answers.returned entry before
    refine past found readable typed ?_
    intro new reread
    obtain ⟨other, same, -, -, early⟩ := step_constant sound stepped found
    obtain rfl : new = other := Option.some.inj (reread.symm.trans same)
    constructor
    · exact fun spawned => (early (Or.inl spawned)).elim begun beyond
    · exact fun handling => (early (Or.inr handling)).elim begun beyond
  unfold recordReturn at member
  split at member
  · rename_i invocation type value
    rcases List.mem_append.mp member with before | last
    · exact earlier before
    · obtain rfl := List.mem_singleton.mp last
      cases server.step_acts stepped (by simp) with
      | handlerReturns _ _ _ object found handling responds =>
        refine past found (answers.handling invocation object found handling) responds ?_
        intro new reread
        obtain ⟨other, same, stages⟩ :=
          handlerReturns_past registry codec found type value
        obtain rfl : new = other := Option.some.inj (reread.symm.trans same)
        exact stages
  · exact earlier member

/-- A handler returns once. -/
theorem Answers.once_step {answered : List (Nat × Sigma ν)}
    (answers : server.Answers registry codec answered)
    (stepped : server.step registry codec event = some after) :
    ((recordReturn event answered).map Prod.fst).Nodup := by
  unfold recordReturn
  split
  · rename_i invocation type value
    rw [List.map_append, List.map_singleton, List.nodup_append]
    refine ⟨answers.once, List.nodup_singleton _, ?_⟩
    intro place earlier other last
    obtain ⟨entry, member, rfl⟩ := List.mem_map.mp earlier
    rw [List.mem_singleton.mp last]
    rintro rfl
    obtain ⟨old, present, -, past, -⟩ := answers.returned entry member
    cases server.step_acts stepped (by simp) with
    | handlerReturns _ _ _ object found handling responds =>
      obtain rfl : object = old := Option.some.inj (found.symm.trans present)
      exact past handling
  · exact answers.once

/-- Every step keeps the values and the frames together. -/
theorem Answers.step {answered : List (Nat × Sigma ν)}
    (answers : server.Answers registry codec answered) (sound : server.book.Sound)
    (stepped : server.step registry codec event = some after) :
    after.Answers registry codec (recordReturn event answered) := by
  have grows : answered <+: recordReturn event answered := recordReturn_grows answered
  -- A frame that a coroutine sends is the frame it sends after the step.
  have later : ∀ {invocation : Nat} {frame : Frame}, (∃ object call,
      server.invocations[invocation]? = some object ∧ (invocation, call) ∈ recordReturn event answered ∧
      object.replyFrame registry codec call.1 call.2 = some frame) →
      ∃ new call, after.invocations[invocation]? = some new ∧
        (invocation, call) ∈ recordReturn event answered ∧
        new.replyFrame registry codec call.1 call.2 = some frame := by
    rintro invocation frame ⟨object, call, found, member, sends⟩
    obtain ⟨new, reread, same, -⟩ := step_constant sound stepped found
    exact ⟨new, call, reread, member, (Invocation.replyFrame_constant same).trans sends⟩
  constructor
  · intro invocation new found handling
    exact answers.handling_step sound stepped found handling
  · exact fun entry member => answers.returned_step sound stepped member
  · exact answers.once_step stepped
  · intro invocation frame holds
    apply later
    apply answers.step_held
    rcases server.step_book sound event after stepped with same | step
    · have kept : after.writeQueue.held = server.writeQueue.held := congrArg Book.held same
      exact Or.inl (kept ▸ holds)
    · exact step.holds holds
  · intro invocation new position found replied
    have earlier : server.writeQueue.accepted <+: after.writeQueue.accepted →
        ∀ object, server.invocations[invocation]? = some object → object.reply = some position →
        ∃ frame call, after.writeQueue.accepted[position]? = some frame ∧
          (invocation, call) ∈ recordReturn event answered ∧
          new.replyFrame registry codec call.1 call.2 = some frame := by
      intro extended object present before
      obtain ⟨frame, call, accepted, member, sends⟩ :=
        answers.replied invocation object position present before
      obtain ⟨other, call, reread, member, sends⟩ :=
        later ⟨object, call, present, grows.subset member, sends⟩
      obtain rfl : new = other := Option.some.inj (found.symm.trans reread)
      exact ⟨frame, call, getElem?_initial extended accepted, member, sends⟩
    rcases server.step_book sound event after stepped with same | step
    · have kept : after.invocations = server.invocations := congrArg Book.invocations same
      have history : after.writeQueue.accepted = server.writeQueue.accepted :=
        congrArg Book.accepted same
      exact earlier (history ▸ List.prefix_rfl) new (kept ▸ found) replied
    · rcases step.replies found replied with ⟨object, present, before⟩ | ⟨frame, ends, rfl, joined⟩
      · exact earlier step.accepts object present before
      · obtain ⟨other, call, reread, member, sends⟩ := later (answers.step_replied ends)
        obtain rfl : new = other := Option.some.inj (found.symm.trans reread)
        have joined : after.writeQueue.accepted = server.writeQueue.accepted ++ [frame] := joined
        refine ⟨frame, call, ?_, member, sends⟩
        rw [joined]
        exact List.getElem?_concat_length

theorem create_answers (limits : WriteQueueLimits) :
    (create limits : ServerConnection ν).Answers registry codec [] where
  handling := by simp [create]
  returned := nofun
  once := List.nodup_nil
  held := by simp [create, WriteQueue.create, WriteQueue.held]
  replied := by simp [create]

end ServerConnection

end Servers

end Rillnet
