import Mathlib.Logic.Basic

/-!
# Loops as sequences of rounds

A loop is given by the relation between the states before and after one round of
its body. It is over in a state from which no round starts. Nothing bounds the
number of rounds: that a loop ends is proved with a measure that every round
decreases, as long as an invariant holds. A round may be free to choose, so a loop
may have several runs, and the rules speak about all of them.
-/

namespace Loop

universe u
variable {σ : Type u}

/-- The given number of rounds, one after the other. -/
inductive Rounds (round : σ → σ → Prop) (start : σ) : Nat → σ → Prop where
  | start : Rounds round start 0 start
  | next {count : Nat} {before after : σ} (earlier : Rounds round start count before)
      (last : round before after) : Rounds round start (count + 1) after

/-- No round starts here. -/
def Over (round : σ → σ → Prop) (state : σ) : Prop := ∀ after, ¬ round state after

/-- The loop ends here after the given number of rounds. -/
def Ends (round : σ → σ → Prop) (start : σ) (count : Nat) (final : σ) : Prop :=
  Rounds round start count final ∧ Over round final

section Rules

variable {round : σ → σ → Prop} {start final : σ} {count : Nat}

/-- What holds at first and after every round holds all the time. -/
theorem Rounds.invariant (property : σ → Prop) (initial : property start)
    (preserved : ∀ before after, property before → round before after → property after)
    (rounds : Rounds round start count final) : property final := by
  induction rounds with
  | start => exact initial
  | next _ last inductionHypothesis => exact preserved _ _ inductionHypothesis last

/-- A round may be put in front. -/
theorem Rounds.first {second : σ} (leading : round start second)
    (rounds : Rounds round second count final) : Rounds round start (count + 1) final := by
  induction rounds with
  | start => exact .next .start leading
  | next _ last inductionHypothesis => exact .next inductionHypothesis last

/-- There are at most as many rounds as the measure allows at the start. -/
theorem Rounds.bounded (property : σ → Prop) (measure : σ → Nat) (initial : property start)
    (preserved : ∀ before after, property before → round before after → property after)
    (decreases : ∀ before after, property before → round before after →
      measure after < measure before)
    (rounds : Rounds round start count final) : count + measure final ≤ measure start := by
  induction rounds with
  | start => omega
  | next earlier last inductionHypothesis =>
    have less := decreases _ _ (earlier.invariant property initial preserved) last
    omega

/-- If every round decreases the measure by one, the measure counts the rounds. -/
theorem Rounds.counted (property : σ → Prop) (measure : σ → Nat) (initial : property start)
    (preserved : ∀ before after, property before → round before after → property after)
    (decreases : ∀ before after, property before → round before after →
      measure after + 1 = measure before)
    (rounds : Rounds round start count final) : count + measure final = measure start := by
  induction rounds with
  | start => omega
  | next earlier last inductionHypothesis =>
    have less := decreases _ _ (earlier.invariant property initial preserved) last
    omega

/-- A loop whose rounds decrease a measure can be run to its end. -/
theorem exists_ends (property : σ → Prop) (measure : σ → Nat) (initial : property start)
    (preserved : ∀ before after, property before → round before after → property after)
    (decreases : ∀ before after, property before → round before after →
      measure after < measure before) : ∃ count final, Ends round start count final := by
  induction bound : measure start using Nat.strongRecOn generalizing start with
  | ind bound inductionHypothesis =>
    by_cases ended : Over round start
    · exact ⟨0, start, .start, ended⟩
    · obtain ⟨second, leading⟩ := not_forall_not.mp ended
      have less := decreases start second initial leading
      obtain ⟨count, final, rounds, ended⟩ := inductionHypothesis _ (bound ▸ less)
        (preserved start second initial leading) rfl
      exact ⟨count + 1, final, rounds.first leading, ended⟩

end Rules

end Loop
