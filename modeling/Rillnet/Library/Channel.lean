import Mathlib.Data.List.Basic

/-!
# Bounded message channels with suspended receivers

A channel buffers at most `capacity` messages. A receiver that finds no message
waits in arrival order; a sender hands its message to the longest waiting
receiver, otherwise buffers it, otherwise fails. Closing releases the waiting
receivers with an error and refuses further messages, while messages already
buffered stay receivable. Completions are posted: the operations report which
receiver is to be resumed and never run it.

The three facts every operation relies on are fields of the structure, so a
channel that buffers beyond its capacity, keeps receivers waiting beside
buffered messages or keeps receivers after closing cannot be built.
-/

universe u v

/-- A channel of messages `α` whose receivers are named by `ρ`. -/
structure Channel (α : Type u) (ρ : Type v) where
  capacity : Nat
  buffer : List α
  waiting : List ρ
  closed : Bool
  bounded : buffer.length ≤ capacity
  exclusive : waiting = [] ∨ buffer = []
  ended : closed = true → waiting = []

namespace Channel

variable {α : Type u} {ρ : Type v}

/-- What a receiver learns when it asks: it has to wait, it gets the oldest
message, or the channel is closed and drained. -/
inductive Reception (α : Type u) where
  | suspended : Reception α
  | message : α → Reception α
  | closed : Reception α

/-- An open channel without messages or receivers. -/
def fresh (capacity : Nat) : Channel α ρ where
  capacity := capacity
  buffer := []
  waiting := []
  closed := false
  bounded := Nat.zero_le capacity
  exclusive := Or.inl rfl
  ended := by intro; rfl

/-- Send without waiting: refused by a closed or full channel, otherwise handed
to the first waiting receiver, whose name is reported, or buffered. -/
def trySend (channel : Channel α ρ) (message : α) : Option (Channel α ρ × Option ρ) :=
  if notClosed : channel.closed = true then none
  else
    match receivers : channel.waiting with
    | receiver :: others =>
      some ({ channel with
        waiting := others
        exclusive := Or.inr (by
          rcases channel.exclusive with none | vacant
          · simp [receivers] at none
          · exact vacant)
        ended := fun isClosed => absurd isClosed notClosed }, some receiver)
    | [] =>
      if room : channel.buffer.length < channel.capacity then
        some ({ channel with
          buffer := channel.buffer ++ [message]
          bounded := by
            rw [List.length_append, List.length_singleton]
            exact room
          exclusive := Or.inl receivers }, none)
      else none

/-- Ask for a message: the oldest buffered one, an error after closing, or a
place at the end of the waiting receivers. -/
def receive (channel : Channel α ρ) (receiver : ρ) : Channel α ρ × Reception α :=
  match messages : channel.buffer with
  | message :: others =>
    ({ channel with
      buffer := others
      bounded := by
        have bounded := channel.bounded
        rw [messages] at bounded
        exact Nat.le_of_succ_le bounded
      exclusive := Or.inl (by
        rcases channel.exclusive with none | vacant
        · exact none
        · simp [messages] at vacant) }, .message message)
  | [] =>
    if isClosed : channel.closed = true then (channel, .closed)
    else
      ({ channel with
        waiting := channel.waiting ++ [receiver]
        exclusive := Or.inr messages
        ended := fun closed => absurd closed isClosed }, .suspended)

/-- Refuse further messages and release every waiting receiver. -/
def close (channel : Channel α ρ) : Channel α ρ × List ρ :=
  ({ channel with
    closed := true
    waiting := []
    exclusive := Or.inl rfl
    ended := by intro; rfl }, channel.waiting)

/-- A waiting receiver gives up its place. -/
def withdraw [DecidableEq ρ] (channel : Channel α ρ) (receiver : ρ) : Channel α ρ :=
  { channel with
    waiting := channel.waiting.erase receiver
    exclusive := by
      rcases channel.exclusive with none | vacant
      · exact Or.inl (by simp [none])
      · exact Or.inr vacant
    ended := fun isClosed => by simp [channel.ended isClosed] }

section Laws

variable (channel after : Channel α ρ) (message : α) (receiver : ρ)

/-- A message handed over goes to the longest waiting receiver and is not
buffered. -/
theorem trySend_handed (sent : channel.trySend message = some (after, some receiver)) :
    channel.closed = false ∧ channel.waiting = receiver :: after.waiting ∧
      channel.buffer = [] ∧ after.buffer = [] ∧ after.closed = false ∧
      after.capacity = channel.capacity := by
  unfold trySend at sent
  split at sent
  · simp at sent
  · rename_i notClosed
    split at sent
    · rename_i first others receivers
      obtain ⟨rfl, rfl⟩ : _ = after ∧ first = receiver := by simpa using sent
      have vacant : channel.buffer = [] := by
        rcases channel.exclusive with none | vacant
        · simp [receivers] at none
        · exact vacant
      simp [notClosed, receivers, vacant]
    · split at sent <;> simp at sent

/-- A buffered message joins the end of the buffer; no receiver was waiting. -/
theorem trySend_buffered (sent : channel.trySend message = some (after, none)) :
    channel.closed = false ∧ channel.waiting = [] ∧ after.waiting = [] ∧
      after.buffer = channel.buffer ++ [message] ∧ after.closed = false ∧
      after.capacity = channel.capacity := by
  unfold trySend at sent
  split at sent
  · simp at sent
  · rename_i notClosed
    split at sent
    · simp at sent
    · rename_i receivers
      split at sent
      · obtain rfl : _ = after := by simpa using sent
        simp [notClosed, receivers]
      · simp at sent

/-- Sending fails exactly on a closed channel, or a full one without receivers. -/
theorem trySend_refused_iff :
    channel.trySend message = none ↔
      channel.closed = true ∨ channel.waiting = [] ∧ channel.capacity ≤ channel.buffer.length := by
  unfold trySend
  split
  · rename_i isClosed
    simp [isClosed]
  · rename_i notClosed
    split
    · rename_i receivers
      simp [notClosed, receivers]
    · rename_i receivers
      split
      · rename_i room
        simp [notClosed, receivers, Nat.not_le.mpr room]
      · rename_i full
        simp [notClosed, receivers, Nat.le_of_not_lt full]

/-- A receiver waits only at an open, empty channel, behind those before it. -/
theorem receive_suspended (asked : channel.receive receiver = (after, .suspended)) :
    channel.buffer = [] ∧ channel.closed = false ∧ after.buffer = [] ∧ after.closed = false ∧
      after.waiting = channel.waiting ++ [receiver] ∧ after.capacity = channel.capacity := by
  unfold receive at asked
  split at asked
  · simp at asked
  · rename_i messages
    split at asked
    · simp at asked
    · rename_i notClosed
      obtain rfl : _ = after := by simpa using asked
      simp [messages, notClosed]

/-- A received message is the oldest buffered one, and it leaves the buffer. -/
theorem receive_message (asked : channel.receive receiver = (after, .message message)) :
    channel.buffer = message :: after.buffer ∧ channel.waiting = [] ∧ after.waiting = [] ∧
      after.closed = channel.closed ∧ after.capacity = channel.capacity := by
  unfold receive at asked
  split at asked
  · rename_i first others messages
    obtain ⟨rfl, rfl⟩ : _ = after ∧ first = message := by simpa using asked
    have idle : channel.waiting = [] := by
      rcases channel.exclusive with none | vacant
      · exact none
      · simp [messages] at vacant
    simp [messages, idle]
  · split at asked <;> simp at asked

/-- The closing error appears only once the buffer is drained. -/
theorem receive_closed (asked : channel.receive receiver = (after, .closed)) :
    after = channel ∧ channel.buffer = [] ∧ channel.closed = true := by
  unfold receive at asked
  split at asked
  · simp at asked
  · rename_i messages
    split at asked
    · rename_i isClosed
      obtain rfl : channel = after := by simpa using asked
      exact ⟨rfl, messages, isClosed⟩
    · simp at asked

/-- At an open, empty channel a receiver waits. -/
theorem receive_vacant (vacant : channel.buffer = []) (notClosed : channel.closed = false) :
    ∃ joined, channel.receive receiver = (joined, .suspended) := by
  cases asked : channel.receive receiver with
  | mk joined reception =>
    cases reception with
    | suspended => exact ⟨joined, rfl⟩
    | message received =>
      have buffered := (channel.receive_message joined received receiver asked).1
      simp [vacant] at buffered
    | closed =>
      have closed := (channel.receive_closed joined receiver asked).2.2
      simp [notClosed] at closed

/-- A buffered message is received at once. -/
theorem receive_buffered (others : List α) (buffered : channel.buffer = message :: others) :
    ∃ taken, channel.receive receiver = (taken, .message message) := by
  cases asked : channel.receive receiver with
  | mk taken reception =>
    cases reception with
    | suspended =>
      have vacant := (channel.receive_suspended taken receiver asked).1
      simp [buffered] at vacant
    | message received =>
      have front := (channel.receive_message taken received receiver asked).1
      rw [buffered] at front
      exact ⟨taken, by rw [(List.cons.inj front).1]⟩
    | closed =>
      have vacant := (channel.receive_closed taken receiver asked).2.1
      simp [buffered] at vacant

/-- A closed and drained channel answers with the closing error. -/
theorem receive_ended (vacant : channel.buffer = []) (isClosed : channel.closed = true) :
    channel.receive receiver = (channel, .closed) := by
  cases asked : channel.receive receiver with
  | mk same reception =>
    cases reception with
    | suspended =>
      have stillOpen := (channel.receive_suspended same receiver asked).2.1
      simp [isClosed] at stillOpen
    | message received =>
      have buffered := (channel.receive_message same received receiver asked).1
      simp [vacant] at buffered
    | closed =>
      obtain ⟨rfl, -⟩ := channel.receive_closed same receiver asked
      rfl

end Laws

@[simp] theorem close_waiting (channel : Channel α ρ) : channel.close.1.waiting = [] := rfl
@[simp] theorem close_closed (channel : Channel α ρ) : channel.close.1.closed = true := rfl
@[simp] theorem close_buffer (channel : Channel α ρ) : channel.close.1.buffer = channel.buffer := rfl
@[simp] theorem receive_capacity (channel : Channel α ρ) (receiver : ρ) :
    (channel.receive receiver).1.capacity = channel.capacity := by
  unfold receive
  split
  · rfl
  · split <;> rfl

@[simp] theorem close_capacity (channel : Channel α ρ) :
    channel.close.1.capacity = channel.capacity := rfl
@[simp] theorem close_released (channel : Channel α ρ) : channel.close.2 = channel.waiting := rfl

@[simp] theorem withdraw_buffer [DecidableEq ρ] (channel : Channel α ρ) (receiver : ρ) :
    (channel.withdraw receiver).buffer = channel.buffer := rfl
@[simp] theorem withdraw_closed [DecidableEq ρ] (channel : Channel α ρ) (receiver : ρ) :
    (channel.withdraw receiver).closed = channel.closed := rfl
@[simp] theorem withdraw_waiting [DecidableEq ρ] (channel : Channel α ρ) (receiver : ρ) :
    (channel.withdraw receiver).waiting = channel.waiting.erase receiver := rfl

@[simp] theorem fresh_buffer (capacity : Nat) : (fresh capacity : Channel α ρ).buffer = [] := rfl
@[simp] theorem fresh_waiting (capacity : Nat) : (fresh capacity : Channel α ρ).waiting = [] := rfl
@[simp] theorem fresh_closed (capacity : Nat) : (fresh capacity : Channel α ρ).closed = false := rfl

end Channel
