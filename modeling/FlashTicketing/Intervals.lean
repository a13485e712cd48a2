import Mathlib

/-!
# Overlaps by a running maximum

Rows are half-open intervals at places.  Along rows that are sorted by their
starts, a row starts before the latest end so far exactly if it overlaps an
earlier row, so counting such rows stands in for comparing all pairs.
-/

namespace Intervals

variable {Row Place : Type} [DecidableEq Place]

section Definitions

variable
  (place : Row → Place)
  (starts ends : Row → Int)

/-- The latest end among the earlier rows of the same place. -/
def priorEnd (earlier : List Row) (row : Row) : Option Int :=
  ((earlier.filter fun other => decide (place other = place row)).map
    ends).max?

/-- The rows that start before the latest end so far. -/
def countLate : List Row → List Row → Nat
  | _, [] => 0
  | earlier, row :: rest =>
      (if (priorEnd place ends earlier row).any fun latest =>
          decide (starts row < latest) then 1 else 0) +
        countLate (row :: earlier) rest

/-- Two half-open intervals have a moment in common. -/
def Overlap (first second : Row) : Prop :=
  starts first < ends second ∧ starts second < ends first

/-- The earlier row of a place ends before the later one starts. -/
def Follows (first second : Row) : Prop :=
  place first = place second → ends first ≤ starts second

end Definitions

variable
  {place : Row → Place}
  {starts ends : Row → Int}

theorem any_priorEnd
    {earlier : List Row}
    {row : Row} :
    ((priorEnd place ends earlier row).any fun latest =>
        decide (starts row < latest)) = true ↔
      ∃ other ∈ earlier, ¬ Follows place starts ends other row := by
  unfold priorEnd Follows
  cases isMax :
      ((earlier.filter fun other => decide (place other = place row)).map
        ends).max? with
  | none =>
      have empty := List.max?_eq_none_iff.mp isMax
      rw [List.map_eq_nil_iff, List.filter_eq_nil_iff] at empty
      simp only [Option.any_none, Bool.false_eq_true, false_iff]
      rintro ⟨other, member, late⟩
      exact late fun same => absurd (decide_eq_true same) (empty other member)
  | some latest =>
      obtain ⟨isEnd, greatest⟩ := List.max?_eq_some_iff.mp isMax
      simp only [Option.any_some, decide_eq_true_eq]
      constructor
      · intro late
        obtain ⟨other, selected, rfl⟩ := List.mem_map.mp isEnd
        obtain ⟨member, same⟩ := List.mem_filter.mp selected
        refine ⟨other, member, ?_⟩
        intro follows
        exact absurd (follows (of_decide_eq_true same)) (not_le.mpr late)
      · rintro ⟨other, member, late⟩
        rw [Classical.not_imp, not_le] at late
        apply lt_of_lt_of_le late.2
        apply greatest
        apply List.mem_map_of_mem
        exact List.mem_filter.mpr ⟨member, decide_eq_true late.1⟩

/-- Nothing is counted if every row follows those before it. -/
theorem countLate_eq_zero_iff
    {earlier rows : List Row} :
    countLate place starts ends earlier rows = 0 ↔
      (∀ first ∈ earlier, ∀ second ∈ rows,
        Follows place starts ends first second) ∧
      rows.Pairwise (Follows place starts ends) := by
  induction rows generalizing earlier with
  | nil => simp [countLate]
  | cons row rest inductionHypothesis =>
      have here :
          (if (priorEnd place ends earlier row).any fun latest =>
              decide (starts row < latest) then 1 else 0) = 0 ↔
            ∀ first ∈ earlier, Follows place starts ends first row := by
        rw [ite_eq_right_iff, any_priorEnd]
        simp
      rw [countLate, Nat.add_eq_zero_iff, here, inductionHypothesis,
        List.pairwise_cons]
      simp only [List.forall_mem_cons]
      constructor
      · rintro ⟨first, ⟨own, others⟩, ordered⟩
        exact ⟨fun other member => ⟨first other member, others other member⟩,
          own, ordered⟩
      · rintro ⟨others, own, ordered⟩
        exact ⟨fun other member => (others other member).1,
          ⟨own, fun other member => (others other member).2⟩, ordered⟩

omit [DecidableEq Place] in
/-- Of two proper intervals the later start decides. -/
theorem follows_iff
    {first second : Row}
    (ordered : starts first ≤ starts second)
    (proper : starts second < ends second) :
    Follows place starts ends first second ↔
      (place first = place second → ¬ Overlap starts ends first second) := by
  unfold Follows Overlap
  constructor
  · rintro follows same ⟨_, late⟩
    exact absurd (follows same) (not_le.mpr late)
  · intro apart same
    rw [← not_lt]
    intro late
    exact apart same ⟨lt_of_le_of_lt ordered proper, late⟩

/-- The count is zero exactly if no two rows of a place overlap. -/
theorem countLate_eq_zero_iff_apart
    {rows sorted : List Row}
    (distinct : rows.Nodup)
    (proper : ∀ row ∈ rows, starts row < ends row)
    (same : sorted.Perm rows)
    (ordered : sorted.Pairwise fun first second =>
      starts first ≤ starts second) :
    countLate place starts ends [] sorted = 0 ↔
      ∀ first ∈ rows, ∀ second ∈ rows,
        first ≠ second →
        place first = place second →
        ¬ Overlap starts ends first second := by
  have symmetric :
      Std.Symm fun first second =>
        place first = place second →
          ¬ Overlap starts ends first second := by
    constructor
    intro first second apart samePlace overlap
    exact apart samePlace.symm ⟨overlap.2, overlap.1⟩
  have pairs :
      sorted.Pairwise (Follows place starts ends) ↔
        sorted.Pairwise fun first second =>
          place first = place second →
            ¬ Overlap starts ends first second := by
    constructor
    · intro follows
      apply (follows.and ordered).imp_of_mem
      rintro first second _ isSecond ⟨follow, order⟩
      exact (follows_iff order
        (proper second (same.mem_iff.mp isSecond))).mp follow
    · intro apart
      apply (apart.and ordered).imp_of_mem
      rintro first second _ isSecond ⟨isApart, order⟩
      exact (follows_iff order
        (proper second (same.mem_iff.mp isSecond))).mpr isApart
  rw [countLate_eq_zero_iff, pairs, same.pairwise_iff (symmetric.symm _ _)]
  constructor
  · rintro ⟨_, apart⟩ first isFirst second isSecond differ
    exact apart.forall isFirst isSecond differ
  · intro apart
    exact ⟨nofun, distinct.pairwise_of_forall_ne apart⟩

end Intervals
