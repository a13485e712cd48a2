import FlashTicketing.Transition

namespace Transition

/-!
# Forward simulation

A concrete system refines an abstract one through a map of states if every
concrete step from an invariant state is a finite abstract execution between
the images of its ends.  The labels of that execution stand for the concrete
label: `Stands label actions` says in which sense.
-/

variable {State Label Abstract Action : Type}

/-- Every step from a state with the property is an abstract execution. -/
structure Simulates
    (step : State → Label → State → Prop)
    (abstractStep : Abstract → Action → Abstract → Prop)
    (property : State → Prop)
    (image : State → Abstract)
    (Stands : Label → List Action → Prop) : Prop where
  kept :
    ∀ {before label after},
      property before →
      step before label after →
      property after
  simulated :
    ∀ {before label after},
      property before →
      step before label after →
      ∃ actions,
        Stands label actions ∧
          Run abstractStep (image before) actions (image after)

variable
  {step : State → Label → State → Prop}
  {abstractStep : Abstract → Action → Abstract → Prop}
  {property : State → Prop}
  {image : State → Abstract}
  {Stands : Label → List Action → Prop}

/-- A run of the concrete system is an abstract run, label by label. -/
theorem Simulates.run
    (simulates : Simulates step abstractStep property image Stands)
    {before after : State}
    {labels : List Label}
    (run : Run step before labels after)
    (holds : property before) :
    ∃ groups,
      List.Forall₂ Stands labels groups ∧
        Run abstractStep (image before) groups.flatten (image after) := by
  induction run with
  | nil state =>
      exact ⟨[], .nil, .nil (image state)⟩
  | cons taken _ inductionHypothesis =>
      obtain ⟨actions, stands, first⟩ := simulates.simulated holds taken
      obtain ⟨groups, standsRest, rest⟩ :=
        inductionHypothesis (simulates.kept holds taken)
      refine ⟨actions :: groups, .cons stands standsRest, ?_⟩
      rw [List.flatten_cons]
      exact first.append rest

end Transition
