import Mathlib.Logic.Basic

/-!
# Guarded runs of a transition function

A system is a function from a state and an event to the next state, absent when
the event cannot happen there. A run is a finite list of events taken in order.
The guard restricts which events a run may contain in which state; the guard
that allows everything describes every run of the system.

An invariant is proved once per event and then holds in every reached state.
Executable runs give explicit reached states without a separate derivation.
-/

namespace Reachability

universe u v
variable {σ : Type u} {ε : Type v}

/-- The states reached from `start` by events allowed in the state where they
happen. -/
inductive Reaches (step : σ → ε → Option σ) (guard : σ → ε → Prop) (start : σ) : σ → Prop where
  | start : Reaches step guard start start
  | next {before after : σ} {event : ε} (reached : Reaches step guard start before)
      (allowed : guard before event) (stepped : step before event = some after) :
      Reaches step guard start after

/-- No event is excluded. -/
def unguarded (_ : σ) (_ : ε) : Prop := True

instance (state : σ) (event : ε) : Decidable (unguarded state event) := isTrue trivial

/-- A property of the initial state that every allowed event preserves holds in
every reached state. -/
theorem Reaches.invariant {step : σ → ε → Option σ} {guard : σ → ε → Prop} {start state : σ}
    (property : σ → Prop) (initial : property start)
    (preserved : ∀ before event after, property before → guard before event →
      step before event = some after → property after)
    (reached : Reaches step guard start state) : property state := by
  induction reached with
  | start => exact initial
  | next _ allowed stepped inductionHypothesis =>
    exact preserved _ _ _ inductionHypothesis allowed stepped

/-- Preservation may use that the state before the event was itself reached. -/
theorem Reaches.invariant_of_reached {step : σ → ε → Option σ} {guard : σ → ε → Prop}
    {start state : σ} (property : σ → Prop) (initial : property start)
    (preserved : ∀ before event after, Reaches step guard start before → property before →
      guard before event → step before event = some after → property after)
    (reached : Reaches step guard start state) : property state := by
  induction reached with
  | start => exact initial
  | next earlier allowed stepped inductionHypothesis =>
    exact preserved _ _ _ earlier inductionHypothesis allowed stepped

/-- A run may be continued from the state it reached. -/
theorem Reaches.trans {step : σ → ε → Option σ} {guard : σ → ε → Prop} {start middle state : σ}
    (first : Reaches step guard start middle) (second : Reaches step guard middle state) :
    Reaches step guard start state := by
  induction second with
  | start => exact first
  | next _ allowed stepped inductionHypothesis => exact .next inductionHypothesis allowed stepped

/-- A run under a stronger guard is a run under a weaker one. -/
theorem Reaches.weaken {step : σ → ε → Option σ} {guard weaker : σ → ε → Prop} {start state : σ}
    (weakens : ∀ before event, guard before event → weaker before event)
    (reached : Reaches step guard start state) : Reaches step weaker start state := by
  induction reached with
  | start => exact .start
  | next _ allowed stepped inductionHypothesis =>
    exact .next inductionHypothesis (weakens _ _ allowed) stepped

/-- What a run projects to is a run, if every step projects to a step. -/
theorem Reaches.project {ρ : Type*} {step : σ → ε → Option σ} {guard : σ → ε → Prop} {start state : σ}
    {other : ρ → ε → Option ρ} {allows : ρ → ε → Prop} (view : σ → ρ)
    (projects : ∀ before event after, guard before event → step before event = some after →
      allows (view before) event ∧ other (view before) event = some (view after))
    (reached : Reaches step guard start state) :
    Reaches other allows (view start) (view state) := by
  induction reached with
  | start => exact .start
  | next _ allowed stepped inductionHypothesis =>
    obtain ⟨permitted, same⟩ := projects _ _ _ allowed stepped
    exact .next inductionHypothesis permitted same

/-- Execute the events in order; the run is refused at the first event that is
not allowed or cannot happen. -/
def run (step : σ → ε → Option σ) (guard : σ → ε → Prop)
    [∀ state event, Decidable (guard state event)] : σ → List ε → Option σ
  | state, [] => some state
  | state, event :: rest =>
    if guard state event then
      match step state event with
      | some next => run step guard next rest
      | none => none
    else none

/-- A completed execution is a guarded run. -/
theorem run_reaches (step : σ → ε → Option σ) (guard : σ → ε → Prop)
    [∀ state event, Decidable (guard state event)] (start state : σ) (events : List ε)
    (completed : run step guard start events = some state) : Reaches step guard start state := by
  induction events generalizing start with
  | nil =>
    have same : start = state := Option.some.inj completed
    exact same ▸ .start
  | cons event rest inductionHypothesis =>
    by_cases allowed : guard start event
    · cases stepped : step start event with
      | none => simp [run, allowed, stepped] at completed
      | some next =>
        have remaining : run step guard next rest = some state := by
          simpa [run, allowed, stepped] using completed
        exact Reaches.trans (.next .start allowed stepped) (inductionHypothesis next remaining)
    · simp [run, allowed] at completed

end Reachability
