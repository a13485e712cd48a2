import Mathlib

namespace Transition

/-!
# Runs of labelled transition systems

A system is a relation `step before label after`.  `Run` is its finite
execution relation.  The rules below turn what one step preserves into what a
whole run preserves; clients prove step lemmas and never induct over a run.
-/

variable {State Label Abstract : Type}

/-- A finite execution, with its labels in execution order. -/
inductive Run
    (step : State → Label → State → Prop) :
    State → List Label → State → Prop where
  | nil (state : State) :
      Run step state [] state
  | cons
      {before middle after : State}
      {label : Label}
      {labels : List Label} :
      step before label middle →
      Run step middle labels after →
      Run step before (label :: labels) after

namespace Run

variable {step : State → Label → State → Prop}

/-- One step is a run. -/
theorem single
    {before after : State}
    {label : Label}
    (taken : step before label after) :
    Run step before [label] after :=
  .cons taken (.nil after)

/-- Runs compose. -/
theorem append
    {first second third : State}
    {early late : List Label}
    (earlyRun : Run step first early second)
    (lateRun : Run step second late third) :
    Run step first (early ++ late) third := by
  induction earlyRun with
  | nil =>
      exact lateRun
  | cons taken _ inductionHypothesis =>
      exact .cons taken (inductionHypothesis lateRun)

/-- A property kept by every step is kept by every run. -/
theorem invariant
    {property : State → Prop}
    {before after : State}
    {labels : List Label}
    (run : Run step before labels after)
    (holds : property before)
    (preserved :
      ∀ {before label after},
        property before →
        step before label after →
        property after) :
    property after := by
  induction run with
  | nil =>
      exact holds
  | cons taken _ inductionHypothesis =>
      exact inductionHypothesis (preserved holds taken)

/-- A property of the labels so far and the current state. -/
theorem history
    {property : List Label → State → Prop}
    {before after : State}
    {labels : List Label}
    (run : Run step before labels after)
    (holds : property [] before)
    (extended :
      ∀ {past before label after},
        property past before →
        step before label after →
        property (past ++ [label]) after) :
    property labels after := by
  have fromPast :
      ∀ past, property past before → property (past ++ labels) after := by
    clear holds
    induction run with
    | nil =>
        intro past pastHolds
        simpa using pastHolds
    | cons taken _ inductionHypothesis =>
        intro past pastHolds
        have rest := inductionHypothesis _ (extended pastHolds taken)
        simpa using rest
  exact fromPast [] holds

/--
A reflexive, transitive relation between the states around every step from an
invariant state relates the ends of every run from such a state.
-/
theorem relates
    (property : State → Prop)
    {relation : State → State → Prop}
    {before after : State}
    {labels : List Label}
    (run : Run step before labels after)
    (holds : property before)
    (preserved :
      ∀ {before label after},
        property before →
        step before label after →
        property after)
    (reflexive : ∀ state, relation state state)
    (transitive :
      ∀ {first second third},
        relation first second →
        relation second third →
        relation first third)
    (related :
      ∀ {before label after},
        property before →
        step before label after →
        relation before after) :
    relation before after := by
  induction run with
  | nil state =>
      exact reflexive state
  | cons taken _ inductionHypothesis =>
      exact transitive (related holds taken)
        (inductionHypothesis (preserved holds taken))

/-- A property of all labels can be asked of every step. -/
theorem restrict
    {allowed : Label → Prop}
    {before after : State}
    {labels : List Label}
    (run : Run step before labels after)
    (all : ∀ label ∈ labels, allowed label) :
    Run (fun before label after => step before label after ∧ allowed label)
      before labels after := by
  induction run with
  | nil state =>
      exact .nil state
  | cons taken _ inductionHypothesis =>
      have first := all _ List.mem_cons_self
      exact .cons ⟨taken, first⟩
        (inductionHypothesis fun label member =>
          all label (List.mem_cons_of_mem _ member))

/-- Every step of a stronger system is a step of a weaker one. -/
theorem mono
    {weaker : State → Label → State → Prop}
    {before after : State}
    {labels : List Label}
    (run : Run step before labels after)
    (included :
      ∀ {before label after},
        step before label after →
        weaker before label after) :
    Run weaker before labels after := by
  induction run with
  | nil state =>
      exact .nil state
  | cons taken _ inductionHypothesis =>
      exact .cons (included taken) inductionHypothesis

/--
A numeric measure that each step raises by its own cost, and that an invariant
bounds, bounds the total cost of every run.
-/
theorem totalCost_le
    (property : State → Prop)
    (cost : Label → Nat)
    {measure : State → Nat}
    {bound : Nat}
    {before after : State}
    {labels : List Label}
    (run : Run step before labels after)
    (holds : property before)
    (preserved :
      ∀ {before label after},
        property before →
        step before label after →
        property after)
    (paid :
      ∀ {before label after},
        property before →
        step before label after →
        measure before + cost label ≤ measure after)
    (bounded : ∀ {state}, property state → measure state ≤ bound) :
    measure before + (labels.map cost).sum ≤ bound := by
  induction run with
  | nil =>
      simpa using bounded holds
  | @cons before middle after label labels taken _ inductionHypothesis =>
      have rest := inductionHypothesis (preserved holds taken)
      have first := paid holds taken
      simp only [List.map_cons, List.sum_cons]
      omega

end Run

end Transition
