import Mathlib

/-!
# Search in sorted rows

Rows of a bound and a value, sorted by their bounds.  The first row that reaches
a target has the least bound among those that reach it, both for the values
themselves and for their running sum.
-/

namespace Cumulative

variable {Bound Value : Type} [LinearOrder Bound]

/-- Each bound occurs once, and smaller bounds come first. -/
def Increasing (rows : List (Bound × Value)) : Prop :=
  rows.Pairwise fun first second => first.1 < second.1

/-- The first row that satisfies a condition has the least such bound. -/
theorem isLeast_of_find?
    {rows : List (Bound × Value)}
    {condition : Bound × Value → Bool}
    {row : Bound × Value}
    (increasing : Increasing rows)
    (found : rows.find? condition = some row) :
    IsLeast { bound | ∃ value, (bound, value) ∈ rows ∧
      condition (bound, value) = true } row.1 := by
  have member := List.mem_of_find?_eq_some found
  have satisfied := List.find?_some found
  refine ⟨⟨row.2, member, satisfied⟩, ?_⟩
  rintro bound ⟨value, isRow, holds⟩
  obtain ⟨_, earlier, later, isRows, none⟩ :=
    List.find?_eq_some_iff_append.mp found
  rw [isRows] at isRow increasing
  rcases List.mem_append.mp isRow with before | after
  · have fails := none (bound, value) before
    rw [holds] at fails
    cases fails
  · rcases List.mem_cons.mp after with same | behind
    · exact le_of_eq (congrArg Prod.fst same.symm)
    · have ordered := (List.pairwise_append.mp increasing).2.1
      exact le_of_lt ((List.pairwise_cons.mp ordered).1 _ behind)

/-- Rows sorted by bound, then by value. -/
def sortRows [LinearOrder Value] (rows : List (Bound × Value)) :
    List (Bound × Value) :=
  rows.insertionSort fun first second => toLex first ≤ toLex second

theorem sortRows_perm
    [LinearOrder Value]
    (rows : List (Bound × Value)) :
    (sortRows rows).Perm rows :=
  List.perm_insertionSort _ rows

/-- Distinct bounds leave nothing to the second comparison. -/
theorem increasing_sortRows
    [LinearOrder Value]
    {rows : List (Bound × Value)}
    (distinct : (rows.map Prod.fst).Nodup) :
    Increasing (sortRows rows) := by
  have sorted :
      (sortRows rows).Pairwise fun first second =>
        toLex first ≤ toLex second :=
    List.pairwise_insertionSort _ rows
  have different :
      (sortRows rows).Pairwise fun first second => first.1 ≠ second.1 := by
    rw [← List.pairwise_map]
    exact ((sortRows_perm rows).map Prod.fst).nodup_iff.mpr distinct
  apply (sorted.and different).imp
  rintro first second ⟨ordered, differs⟩
  rcases Prod.Lex.le_iff.mp ordered with below | ⟨same, _⟩
  · exact below
  · exact absurd same differs

variable [AddCommMonoid Value] [LE Value] [DecidableLE Value]

/-- The sum of the values up to a bound. -/
def upTo (rows : List (Bound × Value)) (bound : Bound) : Value :=
  ((rows.filter fun row => decide (row.1 ≤ bound)).map Prod.snd).sum

/-- The first bound at which the running sum reaches the target. -/
def search (target : Value) : Value → List (Bound × Value) → Option Bound
  | _, [] => none
  | sum, (bound, value) :: rest =>
      if target ≤ sum + value then
        some bound
      else
        search target (sum + value) rest

omit [LE Value] [DecidableLE Value] in
theorem upTo_perm
    {rows others : List (Bound × Value)}
    (same : rows.Perm others)
    (bound : Bound) :
    upTo rows bound = upTo others bound :=
  ((same.filter _).map _).sum_eq

omit [LE Value] [DecidableLE Value] in
theorem upTo_cons
    (first : Bound × Value)
    (rest : List (Bound × Value))
    (bound : Bound) :
    upTo (first :: rest) bound =
      (if first.1 ≤ bound then first.2 else 0) + upTo rest bound := by
  unfold upTo
  by_cases below : first.1 ≤ bound
  · simp [below]
  · simp [below]

omit [LE Value] [DecidableLE Value] in
/-- Rows without a value can be left out. -/
theorem upTo_filter
    {rows : List (Bound × Value)}
    {keep : Bound × Value → Bool}
    (dropped : ∀ row ∈ rows, keep row = false → row.2 = 0)
    (bound : Bound) :
    upTo (rows.filter keep) bound = upTo rows bound := by
  induction rows with
  | nil => rfl
  | cons first rest inductionHypothesis =>
      have others :=
        inductionHypothesis fun row member =>
          dropped row (List.mem_cons_of_mem first member)
      rw [upTo_cons]
      cases kept : keep first with
      | true => rw [List.filter_cons_of_pos kept, upTo_cons, others]
      | false =>
          have nothing := dropped first List.mem_cons_self kept
          rw [List.filter_cons_of_neg (by simp [kept]), others, nothing,
            ite_self, zero_add]

omit [LE Value] [DecidableLE Value] in
/-- Nothing lies below the bound of the first row. -/
theorem upTo_cons_self
    {first : Bound × Value}
    {rest : List (Bound × Value)}
    (increasing : Increasing (first :: rest)) :
    upTo (first :: rest) first.1 = first.2 := by
  have above : ∀ row ∈ rest, first.1 < row.1 :=
    (List.pairwise_cons.mp increasing).1
  have none : (rest.filter fun row => decide (row.1 ≤ first.1)) = [] := by
    rw [List.filter_eq_nil_iff]
    intro row member
    simpa using above row member
  simp [upTo, none]

/-- The running sum reaches the target at the least bound that allows it. -/
theorem search_isLeast
    {target sum : Value}
    {rows : List (Bound × Value)}
    (increasing : Increasing rows)
    (reached : ∃ row ∈ rows, target ≤ sum + upTo rows row.1) :
    ∃ bound,
      search target sum rows = some bound ∧
        IsLeast { bound | ∃ value, (bound, value) ∈ rows ∧
          target ≤ sum + upTo rows bound } bound := by
  induction rows generalizing sum with
  | nil =>
      obtain ⟨row, member, _⟩ := reached
      cases member
  | cons first rest inductionHypothesis =>
      obtain ⟨above, ordered⟩ := List.pairwise_cons.mp increasing
      have here := upTo_cons_self increasing
      have shifted (row : Bound × Value) (member : row ∈ rest) :
          sum + upTo (first :: rest) row.1 =
            sum + first.2 + upTo rest row.1 := by
        rw [upTo_cons, if_pos (le_of_lt (above row member)), add_assoc]
      by_cases enough : target ≤ sum + first.2
      · refine ⟨first.1, if_pos enough, ⟨first.2, List.mem_cons_self, ?_⟩, ?_⟩
        · rw [here]
          exact enough
        · rintro bound ⟨value, member, _⟩
          rcases List.mem_cons.mp member with same | behind
          · exact le_of_eq (congrArg Prod.fst same.symm)
          · exact le_of_lt (above _ behind)
      · have later :
            ∃ row ∈ rest, target ≤ sum + first.2 + upTo rest row.1 := by
          obtain ⟨row, member, reaches⟩ := reached
          rcases List.mem_cons.mp member with rfl | behind
          · rw [here] at reaches
            exact absurd reaches enough
          · exact ⟨row, behind, shifted row behind ▸ reaches⟩
        obtain ⟨bound, found, ⟨value, member, reaches⟩, least⟩ :=
          inductionHypothesis ordered later
        refine ⟨bound, ?_, ⟨value, List.mem_cons_of_mem _ member, ?_⟩, ?_⟩
        · rw [search, if_neg enough]
          exact found
        · rw [shifted _ member]
          exact reaches
        · rintro other ⟨otherValue, isOther, otherReaches⟩
          rcases List.mem_cons.mp isOther with same | behind
          · cases same
            rw [here] at otherReaches
            exact absurd otherReaches enough
          · rw [shifted _ behind] at otherReaches
            exact least ⟨otherValue, behind, otherReaches⟩

end Cumulative
