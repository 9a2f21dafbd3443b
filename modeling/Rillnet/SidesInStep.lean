import Rillnet.ClientExchanges
import Rillnet.Correlation
import Rillnet.ServerErrors

/-!
# Two endpoints that do not accuse each other

Each side keeps its own notion of a live, an unknown and an ended stream, and the two
are out of step while frames are on their way. As long as no cancellation crosses an
answer and no identifier is used a second time, what is on its way always finds the
other side ready for it: a cancellation finds the operation it cancels, and an answer
finds the request it answers.
-/

namespace Rillnet

/-- The frames one side accepted that the other has not dispatched yet. -/
def underway (accepted dispatched : List Frame) : List Frame := accepted.drop dispatched.length

theorem underway_append {accepted dispatched : List Frame} (added : List Frame)
    (initial : dispatched <+: accepted) :
    underway (accepted ++ added) dispatched = underway accepted dispatched ++ added :=
  List.drop_append_of_le_length initial.length_le

theorem underway_next {accepted dispatched : List Frame} {frame : Frame}
    (next : dispatched ++ [frame] <+: accepted) :
    underway accepted dispatched = frame :: underway accepted (dispatched ++ [frame]) := by
  obtain ⟨rest, rfl⟩ := next
  simp [underway]

theorem mem_underway_seen {accepted dispatched seen : List Frame} {frame : Frame}
    (member : frame ∈ underway accepted (dispatched ++ seen)) :
    frame ∈ underway accepted dispatched := by
  rw [underway, List.length_append, ← List.drop_drop] at member
  exact List.mem_of_mem_drop member

theorem framesOn_underway {accepted dispatched : List Frame} (initial : dispatched <+: accepted)
    (stream : StreamId) :
    framesOn accepted stream =
      framesOn dispatched stream ++ framesOn (underway accepted dispatched) stream := by
  obtain ⟨rest, rfl⟩ := initial
  rw [framesOn_append, underway, List.drop_left]

/-- An error frame carries a status that a peer may send. -/
def Frame.readable (frame : Frame) : Bool :=
  !hasFlag frame.header.flags .error || (decodeErrorStatus frame).isSome

theorem RequestFrame.plain {frame : Frame} {stream : StreamId} (framed : RequestFrame frame stream) :
    hasFlag frame.header.flags .cancel = false := by
  rw [framed.flags]
  decide

theorem RequestFrame.open_ended {frame : Frame} {stream : StreamId}
    (framed : RequestFrame frame stream) : hasFlag frame.header.flags .endOfStream = false := by
  rw [framed.flags]
  decide

section InStep

variable {τ : Type} {ν : τ → Type}

/-- An accepted frame answers a frame that was dispatched on its stream. -/
theorem Book.Sound.answering {book : Book ν} (sound : book.Sound) {frame : Frame}
    (member : frame ∈ book.accepted) :
    framesOn book.dispatched frame.header.stream ≠ [] ∧ frame.header.type = .response ∧
      hasFlag frame.header.flags .cancel = false := by
  obtain ⟨position, present⟩ := List.mem_iff_getElem?.mp member
  rcases sound.answers position frame present with ⟨request, dispatched, status, rfl⟩ |
    ⟨invocation, object, found, replied⟩
  · refine ⟨List.ne_nil_of_mem (mem_framesOn.mpr ⟨dispatched, rfl⟩), rfl, ?_⟩
    change hasFlag (.error ||| .endOfStream) .cancel = false
    decide
  · obtain ⟨-, reply, accepted, framed⟩ := sound.reply invocation object position found replied
    obtain rfl : frame = reply := Option.some.inj (present.symm.trans accepted)
    have seen := List.mem_of_getElem? (sound.inbound invocation object found).1
    refine ⟨List.ne_nil_of_mem (mem_framesOn.mpr ⟨seen, framed.stream.symm⟩), framed.type, ?_⟩
    rw [framed.flags]
    decide

/-- An operation stands for a request that was dispatched on its stream. -/
theorem Book.Sound.operating {book : Book ν} (sound : book.Sound) {stream : StreamId}
    (listed : (book.operations.lookup stream).isSome) : framesOn book.dispatched stream ≠ [] := by
  obtain ⟨invocation, entry⟩ := Option.isSome_iff_exists.mp listed
  obtain ⟨object, found, same, -⟩ := sound.entry stream invocation entry
  have seen := List.mem_of_getElem? (sound.inbound invocation object found).1
  exact List.ne_nil_of_mem (mem_framesOn.mpr ⟨seen, same⟩)

/-- What holds between a client and a server while they are in step: marks come from
frames that were dispatched; a cancellation on its way finds its operation, unless the
server attends to nothing any more; an answer on its way is the only one on its stream
and finds a listed request, unless the client does not listen any more. -/
structure InStep (draining deaf : Prop) (ledger : Ledger ν) (book : Book ν) : Prop where
  exchanged : ledger.Exchanged
  observed : ∀ stream ∈ ledger.terminalStreams, framesOn ledger.dispatched stream ≠ []
  marked : ∀ stream ∈ book.terminalStreams, ∃ frame ∈ framesOn book.dispatched stream,
    hasFlag frame.header.flags .endOfStream = true
  fresh : ∀ stream, (ledger.pending.lookup stream).isSome → framesOn ledger.dispatched stream = []
  served : ¬ draining → ∀ stream,
    ClientConnection.cancellationFrame stream ∈ underway ledger.accepted book.dispatched →
    framesOn book.dispatched stream ≠ [] → (book.operations.lookup stream).isSome
  welcome : ¬ deaf → ∀ frame ∈ underway book.accepted ledger.dispatched,
    (ledger.pending.lookup frame.header.stream).isSome ∧ frame.readable = true ∧
      framesOn (underway book.accepted ledger.dispatched) frame.header.stream = [frame]

/-- The frames of each side reach the other in order, and each side is sound. -/
structure Linked (ledger : Ledger ν) (book : Book ν) : Prop where
  consistent : ledger.Consistent
  sound : book.Sound
  up : book.dispatched <+: ledger.accepted
  down : ledger.dispatched <+: book.accepted

section Blame

variable {draining deaf : Prop} {ledger : Ledger ν} {book : Book ν}
variable (inStep : InStep draining deaf ledger book) (linked : Linked ledger book)
include linked

omit inStep in
/-- Nothing comes back on a stream on which nothing was submitted. -/
theorem Linked.unused {stream : StreamId} (unused : framesOn ledger.accepted stream = []) :
    framesOn book.accepted stream = [] ∧ framesOn ledger.dispatched stream = [] := by
  have silent : framesOn book.accepted stream = [] := by
    apply framesOn_other
    rintro frame member rfl
    have answered := (linked.sound.answering member).1
    rw [framesOn_underway linked.up] at unused
    exact answered (List.append_eq_nil_iff.mp unused).1
  refine ⟨silent, ?_⟩
  rw [framesOn_underway linked.down] at silent
  exact (List.append_eq_nil_iff.mp silent).1

include inStep

/-- The next frame finds the client ready for it. -/
theorem InStep.client_blameless (listening : ¬ deaf) {frame : Frame}
    (next : ledger.dispatched ++ [frame] <+: book.accepted) : ¬ ledger.Blames frame := by
  have member : frame ∈ underway book.accepted ledger.dispatched := by
    rw [underway_next next]
    exact List.mem_cons_self
  obtain ⟨listed, readable, -⟩ := inStep.welcome listening frame member
  have response := (linked.sound.answering (List.mem_of_mem_drop member)).2.1
  rintro (other | unknown | ended | ⟨errs, unreadable⟩)
  · exact other response
  · simp [unknown] at listed
  · exact inStep.observed _ ended (inStep.fresh _ listed)
  · simp [Frame.readable, errs, unreadable] at readable

/-- The next frame finds the server ready for it. -/
theorem InStep.server_blameless (attending : ¬ draining) {frame : Frame}
    (next : book.dispatched ++ [frame] <+: ledger.accepted) : ¬ book.Blames frame := by
  have split : framesOn ledger.accepted frame.header.stream =
      framesOn book.dispatched frame.header.stream ++ frame ::
        framesOn (underway ledger.accepted (book.dispatched ++ [frame])) frame.header.stream := by
    rw [framesOn_underway ((List.prefix_append _ _).trans next), underway_next next]
    simp [framesOn]
  have unmarked : (∀ seen ∈ framesOn book.dispatched frame.header.stream,
      hasFlag seen.header.flags .endOfStream = false) →
      frame.header.stream ∉ book.terminalStreams := by
    intro open_ended marked
    obtain ⟨seen, member, ends⟩ := inStep.marked _ marked
    simp [open_ended seen member] at ends
  -- the request comes first on its stream, before any mark and any operation
  have first : RequestFrame frame frame.header.stream →
      framesOn book.dispatched frame.header.stream = [] → ¬ book.Blames frame := by
    intro framed unseen
    rintro (other | ended | ⟨cancels, -⟩ | ⟨-, listed⟩)
    · exact other framed.type
    · exact unmarked (by simp [unseen]) ended
    · simp [framed.plain] at cancels
    · exact linked.sound.operating listed unseen
  have shape := inStep.exchanged.shape frame.header.stream
  rw [split] at shape
  rcases shape.next with ⟨unseen, framed⟩ | ⟨request, asked, framed, cancels, -⟩
  · exact first framed unseen
  · have member : ClientConnection.cancellationFrame frame.header.stream ∈
        underway ledger.accepted book.dispatched := by
      rw [← cancels, underway_next next]
      exact List.mem_cons_self
    have listed := inStep.served attending _ member (by simp [asked])
    have flagged : hasFlag frame.header.flags .cancel = true := by
      rw [cancels]
      exact ClientConnection.cancellationFrame_cancels _
    rintro (other | ended | ⟨-, unknown⟩ | ⟨plain, -⟩)
    · exact other (by rw [cancels]; rfl)
    · exact unmarked (by simp [asked, framed.open_ended]) ended
    · simp [unknown] at listed
    · simp [flagged] at plain

end Blame

/-- Less is asked of a server that drains and of a client that does not listen. -/
theorem InStep.mono {draining deaf later deafer : Prop} {ledger : Ledger ν} {book : Book ν}
    (inStep : InStep draining deaf ledger book) (drains : draining → later)
    (deafens : deaf → deafer) : InStep later deafer ledger book where
  exchanged := inStep.exchanged
  observed := inStep.observed
  marked := inStep.marked
  fresh := inStep.fresh
  served := fun attending => inStep.served fun draining => attending (drains draining)
  welcome := fun listening => inStep.welcome fun deaf => listening (deafens deaf)

section ClientSide

variable {draining deaf : Prop} {before : Ledger ν} {book : Book ν}
variable (inStep : InStep draining deaf before book) (linked : Linked before book)
include inStep linked

/-- The client dispatches nothing: it may submit frames, list a request on a stream on
which nothing came back, and give up a request on which nothing is on its way. -/
theorem InStep.quiet (after : Ledger ν) (added : List Frame) (exchanged : after.Exchanged)
    (terminal : after.terminalStreams = before.terminalStreams)
    (dispatched : after.dispatched = before.dispatched)
    (accepted : after.accepted = before.accepted ++ added)
    (cancels : ¬ draining → ∀ stream, ClientConnection.cancellationFrame stream ∈ added →
      framesOn book.dispatched stream ≠ [] → (book.operations.lookup stream).isSome)
    (lists : ∀ stream, (after.pending.lookup stream).isSome →
      (before.pending.lookup stream).isSome ∨ framesOn before.dispatched stream = [])
    (keeps : ¬ deaf → ∀ frame ∈ underway book.accepted before.dispatched,
      (before.pending.lookup frame.header.stream).isSome →
      (after.pending.lookup frame.header.stream).isSome) : InStep draining deaf after book where
  exchanged := exchanged
  observed := by
    rw [terminal, dispatched]
    exact inStep.observed
  marked := inStep.marked
  fresh := by
    intro stream listed
    rw [dispatched]
    rcases lists stream listed with earlier | unseen
    · exact inStep.fresh stream earlier
    · exact unseen
  served := by
    intro attending stream member asked
    rw [accepted, underway_append added linked.up] at member
    rcases List.mem_append.mp member with earlier | late
    · exact inStep.served attending stream earlier asked
    · exact cancels attending stream late asked
  welcome := by
    intro listening frame member
    rw [dispatched] at member ⊢
    obtain ⟨listed, readable, alone⟩ := inStep.welcome listening frame member
    exact ⟨keeps listening frame member listed, readable, alone⟩

/-- The client gives up a request, and no answer to it is on its way. -/
theorem InStep.retired {request : Nat} {old : PendingRequest ν}
    (after : Ledger ν) (added : List Frame) (exchanged : after.Exchanged)
    (found : before.requests[request]? = some old)
    (terminal : after.terminalStreams = before.terminalStreams)
    (dispatched : after.dispatched = before.dispatched)
    (accepted : after.accepted = before.accepted ++ added)
    (pending : after.pending = (before.retire request old old false).pending)
    (cancels : ¬ draining → ∀ stream, ClientConnection.cancellationFrame stream ∈ added →
      framesOn book.dispatched stream ≠ [] → (book.operations.lookup stream).isSome)
    (settled : old.operation.state ≠ .active ∨ deaf ∨
      framesOn (underway book.accepted before.dispatched) old.stream = []) :
    InStep draining deaf after book := by
  apply inStep.quiet linked after added exchanged terminal dispatched accepted cancels
  · intro stream listed
    left
    rw [pending] at listed
    obtain ⟨other, entry⟩ := Option.isSome_iff_exists.mp listed
    obtain ⟨earlier, -⟩ := Ledger.retire_entry linked.consistent found stream other entry
    exact Option.isSome_iff_exists.mpr ⟨other, earlier⟩
  · intro listening frame member listed
    have spared : frame.header.stream ≠ old.stream ∨ old.removed = true := by
      rcases settled with inactive | deaf | silent
      · right
        by_contra kept
        have entry := (linked.consistent.listed request old found (by simpa using kept)).1
        obtain ⟨object, present, -, active, -⟩ := linked.consistent.entry old.stream request entry
        obtain rfl : old = object := Option.some.inj (found.symm.trans present)
        exact inactive active
      · exact absurd deaf listening
      · left
        intro same
        have member := mem_framesOn.mpr ⟨member, same⟩
        simp [silent] at member
    rw [pending, Ledger.retire_lookup _ spared]
    exact listed

/-- The client dispatches an answer to a listed request, which leaves the map. -/
theorem InStep.routed {request : Nat} {old : PendingRequest ν} {frame : Frame}
    (after : Ledger ν) (exchanged : after.Exchanged)
    (found : before.requests[request]? = some old)
    (entry : before.pending.lookup frame.header.stream = some request)
    (terminal : after.terminalStreams = (before.observe frame).terminalStreams)
    (dispatched : after.dispatched = before.dispatched ++ [frame])
    (accepted : after.accepted = before.accepted)
    (pending : after.pending = (before.retire request old old false).pending)
    (next : before.dispatched ++ [frame] <+: book.accepted) : InStep draining deaf after book := by
  obtain ⟨object, present, same, -, kept⟩ :=
    linked.consistent.entry frame.header.stream request entry
  obtain rfl : old = object := Option.some.inj (found.symm.trans present)
  have gone : after.pending.lookup frame.header.stream = none := by
    simp [pending, Ledger.retire, kept, same]
  have others : ∀ stream, stream ≠ frame.header.stream →
      after.pending.lookup stream = before.pending.lookup stream := by
    intro stream different
    rw [pending]
    exact Ledger.retire_lookup stream (Or.inl (same ▸ different))
  have elsewhere : ∀ stream, stream ≠ frame.header.stream →
      framesOn after.dispatched stream = framesOn before.dispatched stream := by
    intro stream different
    have absent : framesOn [frame] stream = [] := framesOn_other (by simpa using Ne.symm different)
    rw [dispatched, framesOn_append, absent, List.append_nil]
  have arrived : framesOn after.dispatched frame.header.stream ≠ [] := by
    rw [dispatched, framesOn_append, framesOn_same rfl]
    simp
  constructor
  · exact exchanged
  · intro stream member
    by_cases own : stream = frame.header.stream
    · rw [own]
      exact arrived
    · rw [elsewhere stream own]
      apply inStep.observed
      rw [terminal] at member
      unfold Ledger.observe at member
      dsimp only at member
      split at member
      · exact (Finset.mem_insert.mp member).resolve_left own
      · exact member
  · exact inStep.marked
  · intro stream listed
    have different : stream ≠ frame.header.stream := by
      rintro rfl
      simp [gone] at listed
    rw [elsewhere stream different]
    rw [others stream different] at listed
    exact inStep.fresh stream listed
  · rw [accepted]
    exact inStep.served
  · intro listening other member
    have split := underway_next next
    rw [dispatched] at member ⊢
    obtain ⟨listed, readable, alone⟩ := inStep.welcome listening other (by
      rw [split]
      exact List.mem_cons_of_mem frame member)
    rw [split] at alone
    -- the frame dispatched was the only one on its stream
    have different : other.header.stream ≠ frame.header.stream := by
      intro own
      have head : framesOn [frame] other.header.stream = [frame] := framesOn_same own.symm
      have tail := mem_framesOn.mpr ⟨member, rfl⟩
      have joined : framesOn [frame] other.header.stream ++ framesOn
          (underway book.accepted (before.dispatched ++ [frame])) other.header.stream = [other] := by
        rw [← framesOn_append]
        exact alone
      rw [head] at joined
      have empty : framesOn (underway book.accepted (before.dispatched ++ [frame]))
          other.header.stream = [] := (List.cons.inj joined).2
      rw [empty] at tail
      simp at tail
    refine ⟨?_, readable, ?_⟩
    · rw [others _ different]
      exact listed
    · rw [← alone]
      have absent : framesOn [frame] other.header.stream = [] :=
        framesOn_other (by simpa using Ne.symm different)
      have joined := framesOn_append [frame]
        (underway book.accepted (before.dispatched ++ [frame])) other.header.stream
      rw [absent] at joined
      exact joined.symm

/-- An answer on its way is to a request that was accepted. -/
theorem InStep.claimed {request : Nat} {object : PendingRequest ν} {frame : Frame}
    (found : before.requests[request]? = some object)
    (entry : before.pending.lookup frame.header.stream = some request)
    (next : before.dispatched ++ [frame] <+: book.accepted) :
    object.owner ≠ .starting ∧ hasFlag frame.header.flags .cancel = false := by
  have member : frame ∈ book.accepted := next.subset (by simp)
  obtain ⟨asked, -, plain⟩ := linked.sound.answering member
  refine ⟨?_, plain⟩
  intro starting
  obtain ⟨listed, present, same, -⟩ := linked.consistent.entry frame.header.stream request entry
  obtain rfl : object = listed := Option.some.inj (found.symm.trans present)
  have unused := (inStep.exchanged.dormant request object found starting).2
  rw [same, framesOn_underway linked.up] at unused
  exact asked (List.append_eq_nil_iff.mp unused).1

end ClientSide

/-- What an event of the client must not permit: a stream that carried a request is handed
out again; a wait returns from a live request; a live request is given up that was
answered or that the server has done with; a frame is dispatched that the server did not
send next; a request is failed by a client that goes on listening. -/
structure ClientKeepsStep (draining deaf : Prop) (book : Book ν)
    (permits : Ledger ν → Change → Prop) (ledger : Ledger ν) : Prop where
  registers : ∀ stream, permits ledger (.registers stream) → framesOn ledger.accepted stream = []
  returns : ∀ request object, permits ledger (.returns request) →
    ledger.requests[request]? = some object → object.operation.state ≠ .active
  abandons : ∀ request object, permits ledger (.abandons request) →
    ledger.requests[request]? = some object → object.owner ≠ .starting ∧
    (object.operation.state = .active →
      framesOn (underway book.accepted ledger.dispatched) object.stream = [] ∧
      (draining ∨ framesOn (underway ledger.accepted book.dispatched) object.stream ≠ [] ∨
        (book.operations.lookup object.stream).isSome))
  reads : ∀ request frame,
    permits ledger (.completes request frame) ∨ permits ledger (.rejects request frame) →
    ledger.dispatched ++ [frame] <+: book.accepted
  fails : permits ledger .fails → deaf
  accuses : ∀ frame, ¬ permits ledger (.accuses frame)

section ClientSteps

variable [DecidableEq τ] {registry : MessageRegistry τ} {codec : Codec τ ν}
variable {permits : Ledger ν → Change → Prop} {draining deaf : Prop}
variable {before after : Ledger ν} {book : Book ν}

omit [DecidableEq τ] in
theorem ClientKeepsStep.exchanges (keeping : ClientKeepsStep draining deaf book permits before)
    (inStep : InStep draining deaf before book) (linked : Linked before book) :
    Ledger.KeepsExchanges permits before where
  registers := keeping.registers
  returns := keeping.returns
  abandons := fun request object permitted found =>
    (keeping.abandons request object permitted found).1
  completes := fun request _ frame permitted found entry =>
    (inStep.claimed linked found entry (keeping.reads request frame (Or.inl permitted))).1
  rejects := fun request _ frame permitted found entry =>
    inStep.claimed linked found entry (keeping.reads request frame (Or.inr permitted))

/-- Every change the client may make leaves the sides in step. -/
theorem InStep.clientStep (inStep : InStep draining deaf before book)
    (linked : Linked before book) (step : Ledger.Step registry codec permits before after)
    (keeping : ClientKeepsStep draining deaf book permits before) :
    InStep draining deaf after book := by
  have exchanged := step.exchanged (keeping.exchanges inStep linked) linked.consistent
    inStep.exchanged
  have nothing : before.accepted = before.accepted ++ [] := (List.append_nil _).symm
  have silent : ¬ draining → ∀ stream, ClientConnection.cancellationFrame stream ∈ ([] : List Frame) →
      framesOn book.dispatched stream ≠ [] → (book.operations.lookup stream).isSome := by
    intro _ stream member
    simp at member
  cases step with
  | allocated kept | suspended request object frame found starting framed
  | touched request object new found touch | charged violation permitted =>
    exact inStep.quiet linked _ [] exchanged rfl rfl nothing silent (fun _ => Or.inl)
      (fun _ _ _ => id)
  | registered stream response deadline permitted allocation =>
    have unseen := (linked.unused (keeping.registers stream permitted)).2
    apply inStep.quiet linked _ [] exchanged rfl rfl nothing silent
    · intro other listed
      by_cases same : other = stream
      · right
        rw [same]
        exact unseen
      · left
        simp only [Ledger.register] at listed
        split at listed
        · exact listed
        · rw [AList.lookup_insert_ne same] at listed
          exact listed
    · intro _ frame _ listed
      simp only [Ledger.register]
      split
      · exact listed
      · by_cases same : frame.header.stream = stream
        · rw [same, AList.lookup_insert]
          rfl
        · rw [AList.lookup_insert_ne same]
          exact listed
  | admitted request object frame permitted found starting framed =>
    apply inStep.quiet linked _ [frame] exchanged rfl rfl rfl ?_ (fun _ => Or.inl)
      (fun _ _ _ => id)
    intro _ stream member
    have cancels := ClientConnection.cancellationFrame_cancels stream
    rw [List.mem_singleton.mp member, framed.plain] at cancels
    simp at cancels
  | refused request object operation status message found starting fails =>
    refine inStep.retired linked _ [] exchanged found rfl rfl nothing rfl silent ?_
    have unused := (linked.unused (inStep.exchanged.dormant request object found starting).2).1
    rw [framesOn_underway linked.down] at unused
    exact Or.inr (Or.inr (List.append_eq_nil_iff.mp unused).2)
  | refusedLate request object status message found starting inactive =>
    exact inStep.retired linked _ [] exchanged found rfl rfl nothing rfl silent (Or.inl inactive)
  | abandoned request object operation result release offered permitted found fails kind =>
    obtain ⟨claimed, guarded⟩ := keeping.abandons request object permitted found
    obtain ⟨unanswered, attended⟩ := guarded fails.active
    refine inStep.retired linked _ offered exchanged found rfl rfl rfl rfl ?_
      (Or.inr (Or.inr unanswered))
    intro attending stream member asked
    rcases kind with rfl | rfl
    · simp at member
    · obtain rfl : stream = object.stream :=
        congrArg (fun frame => frame.header.stream) (List.mem_singleton.mp member)
      rcases attended with draining | underway | listed
      · exact absurd draining attending
      · obtain ⟨frame, -, only⟩ :=
          inStep.exchanged.asked request object found fails.active claimed
        rw [framesOn_underway linked.up] at only
        rcases List.append_eq_singleton_iff.mp only with ⟨none, -⟩ | ⟨-, none⟩
        · exact absurd none asked
        · exact absurd none underway
      · exact listed
  | failed after permitted fails =>
    obtain ⟨request, object, operation, result, found, fails, rfl⟩ := fails
    exact inStep.retired linked _ [] exchanged found rfl rfl nothing rfl silent
      (Or.inr (Or.inl (keeping.fails permitted)))
  | dropped request object found handle inactive =>
    exact inStep.retired linked _ [] exchanged found rfl rfl nothing rfl silent (Or.inl inactive)
  | returned request object wait posted permitted found member =>
    exact inStep.retired linked _ [] exchanged found rfl rfl nothing rfl silent
      (Or.inl (keeping.returns request object permitted found))
  | completed request object frame permitted found entry active response open_ plain =>
    exact inStep.routed linked _ exchanged found entry rfl rfl rfl rfl
      (keeping.reads request frame (Or.inl permitted))
  | rejected request object operation result release offered frame permitted found entry fails kind
      open_ spoken =>
    have next := keeping.reads request frame (Or.inr permitted)
    have plain := (inStep.claimed linked found entry next).2
    obtain ⟨-, rfl⟩ := spoken.resolve_right (by simp [plain])
    exact inStep.routed linked _ exchanged found entry rfl rfl nothing.symm rfl next
  | accused frame violation permitted => exact absurd permitted (keeping.accuses frame)

/-- The frames submitted are never forgotten. -/
theorem Ledger.Step.submits (step : Ledger.Step registry codec permits before after) :
    before.accepted <+: after.accepted := by
  rcases step.accepted with same | ⟨request, object, frame, -, -, -, rfl⟩ | ⟨request, object, -, joined⟩
  · rw [same]
  · exact List.prefix_append _ _
  · rw [joined]
    exact List.prefix_append _ _

/-- All changes of one event of the client leave the sides in step. -/
theorem InStep.clientSteps (inStep : InStep draining deaf before book)
    (linked : Linked before book) (steps : Ledger.Steps registry codec permits before after)
    (down : after.dispatched <+: book.accepted)
    (keeping : ∀ ledger, ClientKeepsStep draining deaf book permits ledger) :
    InStep draining deaf after book := by
  -- the frames submitted so far are still there, and those dispatched were dispatched by the end
  suffices both : InStep draining deaf after book ∧ before.accepted <+: after.accepted from both.1
  induction steps with
  | refl => exact ⟨inStep, List.prefix_rfl⟩
  | tail earlier step inductionHypothesis =>
    have downEarlier := step.dispatched.trans down
    obtain ⟨kept, grown⟩ := inductionHypothesis downEarlier
    have linkedEarlier : Linked _ book := ⟨Ledger.Steps.consistent earlier linked.consistent,
      linked.sound, linked.up.trans grown, downEarlier⟩
    exact ⟨kept.clientStep linkedEarlier step (keeping _), grown.trans step.submits⟩

end ClientSteps

section ServerSide

variable {draining deaf : Prop} {ledger : Ledger ν} {before : Book ν}
variable (inStep : InStep draining deaf ledger before) (linked : Linked ledger before)
include inStep linked

/-- What the server submits on a stream finds its request. -/
theorem InStep.answering {stream : StreamId} {offered : List Frame}
    (placed : ∀ frame ∈ offered, frame.header.stream = stream) (single : offered.length ≤ 1)
    (answers : offered = [] ∨ deaf ∨ ((ledger.pending.lookup stream).isSome ∧
      framesOn (underway before.accepted ledger.dispatched) stream = [] ∧
      ∀ frame ∈ offered, frame.readable = true)) (listening : ¬ deaf) :
    ∀ frame ∈ underway (before.accepted ++ offered) ledger.dispatched,
      (ledger.pending.lookup frame.header.stream).isSome ∧ frame.readable = true ∧
        framesOn (underway (before.accepted ++ offered) ledger.dispatched) frame.header.stream =
          [frame] := by
  rw [underway_append offered linked.down]
  intro frame member
  rw [framesOn_append]
  rcases answers with rfl | deaf | ⟨listed, free, readable⟩
  · rw [List.append_nil] at member
    have absent : framesOn [] frame.header.stream = [] := rfl
    rw [absent, List.append_nil]
    exact inStep.welcome listening frame member
  · exact absurd deaf listening
  · rcases List.mem_append.mp member with earlier | late
    · obtain ⟨listed, readable, alone⟩ := inStep.welcome listening frame earlier
      refine ⟨listed, readable, ?_⟩
      have different : frame.header.stream ≠ stream := by
        intro same
        have present := mem_framesOn.mpr ⟨earlier, same⟩
        rw [free] at present
        simp at present
      rw [alone, framesOn_other, List.append_nil]
      intro other member same
      exact different (same.symm.trans (placed other member))
    · have same := placed frame late
      obtain ⟨only, rfl⟩ : ∃ only, offered = [only] := by
        apply List.length_eq_one_iff.mp
        have positive := List.length_pos_of_mem late
        omega
      obtain rfl := List.mem_singleton.mp late
      rw [framesOn_same rfl, same, free]
      exact ⟨listed, readable frame late, rfl⟩

/-- The server works on one stream: it may dispatch a frame on it, mark it, start or end its
operation, and answer. -/
theorem InStep.attended (after : Book ν) (stream : StreamId) (seen offered : List Frame)
    (dispatched : after.dispatched = before.dispatched ++ seen)
    (accepted : after.accepted = before.accepted ++ offered)
    (arrived : ∀ frame ∈ seen, frame.header.stream = stream)
    (placed : ∀ frame ∈ offered, frame.header.stream = stream) (single : offered.length ≤ 1)
    (marked : ∀ key ∈ after.terminalStreams, key ∈ before.terminalStreams ∨
      ∃ frame ∈ framesOn seen key, hasFlag frame.header.flags .endOfStream = true)
    (others : ∀ key, key ≠ stream → after.operations.lookup key = before.operations.lookup key)
    (own : ¬ draining →
      ClientConnection.cancellationFrame stream ∈ underway ledger.accepted before.dispatched →
      framesOn after.dispatched stream ≠ [] → (after.operations.lookup stream).isSome)
    (answers : offered = [] ∨ deaf ∨ ((ledger.pending.lookup stream).isSome ∧
      framesOn (underway before.accepted ledger.dispatched) stream = [] ∧
      ∀ frame ∈ offered, frame.readable = true)) : InStep draining deaf ledger after where
  exchanged := inStep.exchanged
  observed := inStep.observed
  marked := by
    intro key member
    rw [dispatched, framesOn_append]
    rcases marked key member with earlier | ⟨frame, late, ends⟩
    · obtain ⟨frame, earlier, ends⟩ := inStep.marked key earlier
      exact ⟨frame, List.mem_append_left _ earlier, ends⟩
    · exact ⟨frame, List.mem_append_right _ late, ends⟩
  fresh := inStep.fresh
  served := by
    intro attending key member asked
    have earlier : ClientConnection.cancellationFrame key ∈
        underway ledger.accepted before.dispatched := by
      rw [dispatched] at member
      exact mem_underway_seen member
    by_cases same : key = stream
    · rw [same] at earlier asked ⊢
      exact own attending earlier asked
    · rw [others key same]
      apply inStep.served attending key earlier
      have absent : framesOn seen key = [] :=
        framesOn_other fun frame member equal => same (equal.symm.trans (arrived frame member))
      rw [dispatched, framesOn_append, absent, List.append_nil] at asked
      exact asked
  welcome := by
    rw [accepted]
    exact inStep.answering linked placed single answers

end ServerSide

/-- What an event of the server must not permit: a frame is dispatched that the client did
not send next; the work on a stream ends while its cancellation is on its way; an answer
does not find its request. -/
structure ServerKeepsStep (draining deaf : Prop) (ledger : Ledger ν) (book : Book ν)
    (permits : Deed → Prop) : Prop where
  reads : ∀ frame, permits (.reads frame) → book.dispatched ++ [frame] <+: ledger.accepted
  attends : ∀ stream offered, permits (.concludes stream offered) → draining ∨
    ClientConnection.cancellationFrame stream ∉ underway ledger.accepted book.dispatched
  answers : ∀ stream offered, permits (.concludes stream offered) →
    offered = [] ∨ deaf ∨ ((ledger.pending.lookup stream).isSome ∧
      framesOn (underway book.accepted ledger.dispatched) stream = [] ∧
      ∀ frame ∈ offered, frame.readable = true)

section ServerSteps

variable [DecidableEq τ] {registry : MessageRegistry τ} {codec : Codec τ ν}
variable {permits : Deed → Prop} {draining deaf : Prop}
variable {ledger : Ledger ν} {before after : Book ν}

omit [DecidableEq τ] in
/-- A handler coroutine ends, with an answer or without. -/
theorem InStep.finished (inStep : InStep draining deaf ledger before)
    (linked : Linked ledger before) (keeping : ServerKeepsStep draining deaf ledger before permits)
    (after : Book ν) (stream : StreamId) (offered : List Frame)
    (permitted : permits (.concludes stream offered))
    (dispatched : after.dispatched = before.dispatched)
    (accepted : after.accepted = before.accepted ++ offered)
    (terminal : after.terminalStreams = before.terminalStreams)
    (operations : after.operations = before.operations.erase stream)
    (placed : ∀ frame ∈ offered, frame.header.stream = stream) (single : offered.length ≤ 1) :
    InStep draining deaf ledger after := by
  apply inStep.attended linked after stream [] offered
  · rw [dispatched, List.append_nil]
  · exact accepted
  · simp
  · exact placed
  · exact single
  · intro key member
    exact Or.inl (terminal ▸ member)
  · intro key different
    rw [operations, AList.lookup_erase_ne different]
  · intro attending member
    rcases keeping.attends stream offered permitted with draining | absent
    · exact absurd draining attending
    · exact absurd member absent
  · exact keeping.answers stream offered permitted

omit [DecidableEq τ] in
/-- A frame the queue may have taken. -/
theorem offered_placed {stream : StreamId} {offered : List Frame} {frame : Frame}
    (placed : frame.header.stream = stream) (kind : offered = [] ∨ offered = [frame]) :
    (∀ other ∈ offered, other.header.stream = stream) ∧ offered.length ≤ 1 := by
  rcases kind with rfl | rfl
  · simp
  · simp [placed]

omit [DecidableEq τ] in
/-- A mark that is new is that of the frame at hand. -/
theorem Book.mark_new {book : Book ν} {frame : Frame} {key : StreamId}
    (member : key ∈ (book.mark frame).terminalStreams) :
    key ∈ book.terminalStreams ∨
      ∃ seen ∈ framesOn [frame] key, hasFlag seen.header.flags .endOfStream = true := by
  simp only [Book.mark] at member
  split at member
  · rename_i ends
    rcases Finset.mem_insert.mp member with rfl | earlier
    · exact Or.inr ⟨frame, by simp [framesOn], ends⟩
    · exact Or.inl earlier
  · exact Or.inl member

/-- Every change the server may make leaves the sides in step. -/
theorem InStep.serverStep (inStep : InStep draining deaf ledger before)
    (linked : Linked ledger before)
    (step : Book.Step registry codec draining permits before after)
    (keeping : ServerKeepsStep draining deaf ledger before permits) :
    InStep draining deaf ledger after := by
  have nothing : before.accepted = before.accepted ++ [] := (List.append_nil _).symm
  cases step with
  | spawned frame handler permitted request plain unmarked free serving =>
    refine inStep.attended linked _ frame.header.stream [frame] [] rfl nothing ?_ ?_ ?_ ?_ ?_ ?_ ?_
    · simp
    · simp
    · simp
    · exact fun key => Or.inl
    · intro key different
      exact AList.lookup_insert_ne different
    · intro _ _ _
      simp [Book.spawn, Book.seen]
    · exact Or.inl rfl
  | cancelled frame invocation object permitted request found entry cancels unmarked serving =>
    refine inStep.attended linked _ frame.header.stream [frame] [] rfl nothing ?_ ?_ ?_ ?_ ?_ ?_ ?_
    · simp
    · simp
    · simp
    · exact fun key => Book.mark_new
    · exact fun key _ => rfl
    · intro _ _ _
      exact Option.isSome_iff_exists.mpr ⟨invocation, entry⟩
    · exact Or.inl rfl
  | answered frame status offered permitted refuses kind concluded =>
    obtain ⟨placed, single⟩ := offered_placed
      (show (makeErrorFrame frame.header.stream status).header.stream = frame.header.stream from rfl)
      kind
    refine inStep.attended linked _ frame.header.stream [frame] offered rfl rfl ?_ ?_ ?_ ?_ ?_ ?_ ?_
    · simp
    · exact placed
    · exact single
    · exact fun key => Book.mark_new
    · exact fun key _ => rfl
    · intro attending member
      rcases keeping.attends _ _ concluded with draining | absent
      · exact absurd draining attending
      · exact absurd member absent
    · exact keeping.answers _ _ concluded
  | accused frame permitted blames serving =>
    exact absurd blames (inStep.server_blameless linked serving (keeping.reads frame permitted))
  | started invocation object argument found spawned decoded =>
    exact ⟨inStep.exchanged, inStep.observed, inStep.marked, inStep.fresh, inStep.served,
      inStep.welcome⟩
  | undecodable invocation object status message offered permitted ends found spawned decoded failure
      kind =>
    obtain ⟨placed, single⟩ := offered_placed
      (show (makeErrorFrame object.stream status).header.stream = object.stream from rfl) kind
    exact inStep.finished linked keeping _ object.stream offered permitted rfl rfl rfl rfl placed
      single
  | dropped invocation object permitted ends found handling =>
    exact inStep.finished linked keeping _ object.stream [] permitted rfl nothing rfl rfl
      (by simp) (by simp)
  | refused invocation object operation permitted ends found ready =>
    exact inStep.finished linked keeping _ object.stream [] permitted rfl nothing rfl rfl
      (by simp) (by simp)
  | suspended invocation object frame waits found handling active framed =>
    exact ⟨inStep.exchanged, inStep.observed, inStep.marked, inStep.fresh, inStep.served,
      inStep.welcome⟩
  | replied invocation object operation frame permitted ends found ready framed =>
    obtain ⟨placed, single⟩ := offered_placed framed.stream (Or.inr rfl)
    exact inStep.finished linked keeping _ object.stream [frame] permitted rfl rfl rfl rfl placed
      single
  | lost others length each =>
    exact ⟨inStep.exchanged, inStep.observed, inStep.marked, inStep.fresh, inStep.served,
      inStep.welcome⟩

end ServerSteps

end InStep

end Rillnet
