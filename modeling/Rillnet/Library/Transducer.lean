import Mathlib.Data.List.Basic

/-!
# Letter-by-letter transducers

A transducer consumes one input letter at a time, changes its state and may
produce output. Feeding a word is the left-to-right composition of its letters,
so the state and the whole output depend only on the word and never on how it
was cut into pieces.
-/

namespace Transducer

universe u v w
variable {σ : Type u} {α : Type v} {β : Type w}

/-- Feed a word, collecting the output in order. -/
def feed (step : σ → α → σ × List β) : σ → List α → σ × List β
  | state, [] => (state, [])
  | state, letter :: rest =>
    let first := step state letter
    let others := feed step first.1 rest
    (others.1, first.2 ++ others.2)

/-- Feeding two words in turn is feeding their concatenation. -/
theorem feed_append (step : σ → α → σ × List β) (state : σ) (left right : List α) :
    feed step state (left ++ right) =
      ((feed step (feed step state left).1 right).1,
        (feed step state left).2 ++ (feed step (feed step state left).1 right).2) := by
  induction left generalizing state with
  | nil => simp [feed]
  | cons letter rest inductionHypothesis => simp [feed, inductionHypothesis, List.append_assoc]

/-- One further letter. -/
theorem feed_concat (step : σ → α → σ × List β) (state : σ) (word : List α) (letter : α) :
    feed step state (word ++ [letter]) =
      ((step (feed step state word).1 letter).1,
        (feed step state word).2 ++ (step (feed step state word).1 letter).2) := by
  rw [feed_append]
  simp [feed]

/-- Output is never withdrawn: what an initial part produced begins the output
of the whole word. -/
theorem feed_output_mono (step : σ → α → σ × List β) (state : σ) (left right : List α) :
    (feed step state left).2 <+: (feed step state (left ++ right)).2 := by
  rw [feed_append]
  exact List.prefix_append _ _

/-- A state that absorbs every letter silently absorbs every word silently. -/
theorem feed_absorbing (step : σ → α → σ × List β) (state : σ)
    (absorbs : ∀ letter, step state letter = (state, [])) (word : List α) :
    feed step state word = (state, []) := by
  induction word with
  | nil => rfl
  | cons letter rest inductionHypothesis => simp [feed, absorbs, inductionHypothesis]

end Transducer
