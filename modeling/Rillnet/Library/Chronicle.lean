import Mathlib.Data.List.Basic
import Mathlib.Logic.Relation

/-!
# Chronicles of lives under reusable names

Lives begin under a name and end with a result, and each beginning and each end
is entered in a chronicle. A name may be used again, but only once the life that
had it is over. The entries under a name are then the stories of its lives, one
after the other, and no initial part of the chronicle reports more ends than
beginnings.
-/

universe u v

/-- A line of a chronicle. -/
inductive Entry (κ : Type u) (ρ : Type v) where
  | opened (key : κ)
  | ended (key : κ) (result : ρ)
deriving DecidableEq, Repr

/-- Lives in the order of their beginnings, with the results of those that are
over, and what was entered about them. -/
structure Chronicle (κ : Type u) (ρ : Type v) where
  lives : List (κ × Option ρ)
  entries : List (Entry κ ρ)
deriving DecidableEq, Repr

variable {κ : Type u} {ρ : Type v}

/-- The name an entry is about. -/
def Entry.key : Entry κ ρ → κ
  | .opened key => key
  | .ended key _ => key

/-- Whether an entry reports a beginning. -/
def Entry.opens : Entry κ ρ → Bool
  | .opened _ => true
  | .ended _ _ => false

@[simp] theorem Entry.key_opened (key : κ) : (Entry.opened key : Entry κ ρ).key = key := rfl
@[simp] theorem Entry.key_ended (key : κ) (result : ρ) : (Entry.ended key result).key = key := rfl
@[simp] theorem Entry.opens_opened (key : κ) : (Entry.opened key : Entry κ ρ).opens = true := rfl
@[simp] theorem Entry.opens_ended (key : κ) (result : ρ) :
    (Entry.ended key result).opens = false := rfl

namespace Chronicle

/-- What a chronicle has to say about one life. -/
def story (life : κ × Option ρ) : List (Entry κ ρ) :=
  .opened life.1 :: life.2.toList.map (Entry.ended life.1)

/-- A life begins under a name nobody has, or ends. -/
inductive Step (before : Chronicle κ ρ) : Chronicle κ ρ → Prop where
  | opens (key : κ) (free : ∀ life ∈ before.lives, life.1 = key → life.2 ≠ none) :
      Step before ⟨before.lives ++ [(key, none)], before.entries ++ [.opened key]⟩
  | ends (index : Nat) (key : κ) (result : ρ) (live : before.lives[index]? = some (key, none)) :
      Step before ⟨before.lives.set index (key, some result),
        before.entries ++ [.ended key result]⟩

/-- Any number of such steps. -/
def Steps : Chronicle κ ρ → Chronicle κ ρ → Prop := Relation.ReflTransGen Step

variable [DecidableEq κ]

/-- The lives under one name, in their order. -/
def livesOn (chronicle : Chronicle κ ρ) (key : κ) : List (κ × Option ρ) :=
  chronicle.lives.filter fun life => decide (life.1 = key)

/-- What was entered under one name, in the order of the entries. -/
def entriesOn (entries : List (Entry κ ρ)) (key : κ) : List (Entry κ ρ) :=
  entries.filter fun entry => decide (entry.key = key)

/-- The entries under a name are the stories of its lives, and only the last life
under a name may still go on. -/
structure Balanced (chronicle : Chronicle κ ρ) : Prop where
  stories : ∀ key, entriesOn chronicle.entries key = (chronicle.livesOn key).flatMap story
  successive : chronicle.lives.Pairwise fun earlier later =>
    earlier.1 = later.1 → earlier.2 ≠ none

/-- Where nobody lived, nothing is entered. -/
theorem balanced_empty : Balanced (⟨[], []⟩ : Chronicle κ ρ) where
  stories := fun _ => rfl
  successive := List.Pairwise.nil

variable {before after chronicle : Chronicle κ ρ}

/-- A life may begin under a name whose earlier lives are over. -/
theorem Balanced.opens (balanced : before.Balanced) (key : κ)
    (free : ∀ life ∈ before.lives, life.1 = key → life.2 ≠ none) :
    Balanced ⟨before.lives ++ [(key, none)], before.entries ++ [.opened key]⟩ where
  stories := by
    intro other
    have earlier := balanced.stories other
    simp only [entriesOn, livesOn] at earlier ⊢
    rw [List.filter_append, List.filter_append, List.flatMap_append, earlier]
    by_cases same : key = other
    · simp [same, story]
    · simp [same]
  successive := by
    rw [List.pairwise_append]
    refine ⟨balanced.successive, List.pairwise_singleton _ _, ?_⟩
    intro earlier member later last same
    obtain rfl := List.mem_singleton.mp last
    exact free earlier member same

/-- The life that ends is the last one under its name, so its end belongs behind
everything entered under that name. -/
theorem Balanced.ends (balanced : before.Balanced) (index : Nat) (key : κ) (result : ρ)
    (live : before.lives[index]? = some (key, none)) :
    Balanced ⟨before.lives.set index (key, some result),
      before.entries ++ [.ended key result]⟩ := by
  obtain ⟨within, read⟩ := List.getElem?_eq_some_iff.mp live
  have split : before.lives =
      before.lives.take index ++ (key, none) :: before.lives.drop (index + 1) := by
    rw [← read, List.getElem_cons_drop, List.take_append_drop]
  have written : before.lives.set index (key, some result) =
      before.lives.take index ++ (key, some result) :: before.lives.drop (index + 1) :=
    List.set_eq_take_append_cons_drop.trans (if_pos within)
  obtain ⟨front, later, apart⟩ := List.pairwise_append.mp (split ▸ balanced.successive)
  obtain ⟨last, later⟩ := List.pairwise_cons.mp later
  have absent : (before.lives.drop (index + 1)).filter (fun life => decide (life.1 = key)) = [] := by
    apply List.filter_eq_nil_iff.mpr
    intro life member same
    exact last life member (of_decide_eq_true same).symm rfl
  constructor
  · intro other
    have earlier := balanced.stories other
    simp only [entriesOn, livesOn] at earlier ⊢
    rw [split] at earlier
    rw [written, List.filter_append, earlier]
    by_cases same : key = other
    · subst same
      simp [absent, story]
    · simp [same]
  · dsimp only
    rw [written]
    refine List.pairwise_append.mpr ⟨front, List.pairwise_cons.mpr ⟨?_, later⟩, ?_⟩
    · intro life _ _
      exact Option.some_ne_none result
    · intro earlier member life listed same
      rcases List.mem_cons.mp listed with rfl | listed
      · exact apart earlier member (key, none) (List.mem_cons_self ..) same
      · exact apart earlier member life (List.mem_cons_of_mem _ listed) same

/-- A chronicle stays balanced. -/
theorem Steps.balanced (steps : Steps before after) (balanced : before.Balanced) :
    after.Balanced := by
  induction steps with
  | refl => exact balanced
  | tail _ step inductionHypothesis =>
    cases step with
    | opens key free => exact inductionHypothesis.opens key free
    | ends index key result live => exact inductionHypothesis.ends index key result live

/-- The beginnings and the ends among some entries. -/
def openings (entries : List (Entry κ ρ)) : Nat := entries.countP Entry.opens
def endings (entries : List (Entry κ ρ)) : Nat := entries.countP fun entry => !entry.opens

omit [DecidableEq κ] in
/-- No initial part of the stories of some lives has more ends than beginnings. -/
theorem stories_initial (lives : List (κ × Option ρ)) (front : List (Entry κ ρ))
    (initial : front <+: lives.flatMap story) : endings front ≤ openings front := by
  induction lives generalizing front with
  | nil =>
    obtain rfl : front = [] := by simpa using initial
    exact Nat.le_refl _
  | cons life rest inductionHypothesis =>
    obtain ⟨key, result⟩ := life
    cases front with
    | nil => exact Nat.le_refl _
    | cons first front =>
      cases result with
      | none =>
        obtain ⟨rfl, remaining⟩ : first = .opened key ∧ front <+: rest.flatMap story := by
          simpa [story] using initial
        have more := inductionHypothesis front remaining
        simp only [endings, openings, Entry.opens_opened, List.countP_cons, Bool.not_true,
          Bool.false_eq_true, if_false, if_true] at more ⊢
        omega
      | some result =>
        obtain ⟨rfl, remaining⟩ : first = .opened key ∧
            front <+: .ended key result :: rest.flatMap story := by
          simpa [story] using initial
        cases front with
        | nil => simp [endings, openings]
        | cons second front =>
          obtain ⟨rfl, others⟩ : second = .ended key result ∧ front <+: rest.flatMap story := by
            simpa using remaining
          have more := inductionHypothesis front others
          simp only [endings, openings, Entry.opens_opened, Entry.opens_ended, List.countP_cons,
            Bool.not_true, Bool.not_false, Bool.false_eq_true, if_false, if_true] at more ⊢
          omega

/-- At no point of a balanced chronicle are there more ends than beginnings under
a name. -/
theorem Balanced.never_ahead (balanced : chronicle.Balanced) (key : κ)
    (front : List (Entry κ ρ)) (initial : front <+: chronicle.entries) :
    endings (entriesOn front key) ≤ openings (entriesOn front key) := by
  apply stories_initial (chronicle.livesOn key)
  rw [← balanced.stories key]
  exact List.IsPrefix.filter _ initial

end Chronicle
