import Mathlib.Data.Option.Basic

/-! The shape every service's state machine shares: a step that may refuse an action, the
states reached from an initial predicate, and runs of a list of actions. -/

namespace AuraLogic

variable {S A : Type}

/-- The states `step` reaches from a state satisfying `init`. -/
inductive Reach (init : S → Prop) (step : S → A → Option S) : S → Prop where
  | init {s : S} : init s → Reach init step s
  | step {s s' : S} (a : A) : Reach init step s → step s a = some s' → Reach init step s'

/-- Apply the actions of a list in order, stopping at the first one the step refuses. -/
def runSteps (step : S → A → Option S) (s : S) : List A → Option S
  | [] => some s
  | a :: as => (step s a).bind (runSteps step · as)

section
variable {init : S → Prop} {step : S → A → Option S}

@[simp] theorem runSteps_nil (s : S) : runSteps step s [] = some s := rfl

@[simp] theorem runSteps_cons (s : S) (a : A) (as : List A) :
    runSteps step s (a :: as) = (step s a).bind (runSteps step · as) := rfl

theorem runSteps_append (s : S) (as bs : List A) :
    runSteps step s (as ++ bs) = (runSteps step s as).bind (runSteps step · bs) := by
  induction as generalizing s with
  | nil => rfl
  | cons a as ih => simp only [List.cons_append, runSteps_cons, ih, Option.bind_assoc]

/-- What holds initially and is kept by every step holds in every reached state. -/
theorem Reach.invariant {I : S → Prop} (base : ∀ s, init s → I s)
    (keep : ∀ s a s', I s → step s a = some s' → I s') {s : S} (reach : Reach init step s) :
    I s := by
  induction reach with
  | init h => exact base _ h
  | step a _ stepped ih => exact keep _ a _ ih stepped

/-- A run from a reached state ends in a reached state. -/
theorem Reach.runSteps {s s' : S} {as : List A} (reach : Reach init step s)
    (ran : runSteps step s as = some s') : Reach init step s' := by
  induction as generalizing s with
  | nil => cases ran; exact reach
  | cons a as ih =>
    obtain ⟨mid, stepped, rest⟩ := Option.bind_eq_some.1 ran
    exact ih (reach.step a stepped) rest

/-- A run no action of which is refused gives its end state. -/
theorem runSteps_getD {s : S} {as : List A} (ran : (runSteps step s as).isSome) :
    runSteps step s as = some ((runSteps step s as).getD s) := by
  cases h : runSteps step s as with
  | none => simp [h] at ran
  | some s' => rfl

end

end AuraLogic
