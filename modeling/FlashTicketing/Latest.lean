import Mathlib

/-!
# Latest rows

Rows carry a key and a rank.  A view shows one row per key; it merges some rows
if it shows, for every key, a row that no other row with that key is ahead of.
Such a view depends only on the set of rows, not on the order in which they
arrived.
-/

namespace Latest

variable
  {Row Key Rank : Type}
  [LinearOrder Rank]
  {key : Row → Key}
  {rank : Row → Rank}

/-- No row with the same key is ahead of this one. -/
structure IsLatest
    (key : Row → Key)
    (rank : Row → Rank)
    (rows : Set Row)
    (row : Row) : Prop where
  member : row ∈ rows
  greatest :
    ∀ other ∈ rows, key other = key row → rank other ≤ rank row

/-- A key and a rank determine the row. -/
def Determined
    (key : Row → Key)
    (rank : Row → Rank)
    (rows : Set Row) : Prop :=
  ∀ first ∈ rows, ∀ second ∈ rows,
    key first = key second → rank first = rank second → first = second

/-- The view shows rows only, and none of them is ahead of what it shows. -/
structure Merges
    (key : Row → Key)
    (rank : Row → Rank)
    (rows : Set Row)
    (view : Key → Option Row) : Prop where
  shown : ∀ {name row}, view name = some row → row ∈ rows ∧ key row = name
  ahead :
    ∀ row ∈ rows,
      ∃ kept, view (key row) = some kept ∧ rank row ≤ rank kept

namespace Merges

variable
  {rows : Set Row}
  {view next : Key → Option Row}

theorem empty : Merges key rank ∅ fun _ => none :=
  ⟨nofun, nofun⟩

theorem isLatest
    {name : Key}
    {row : Row}
    (merges : Merges key rank rows view)
    (shown : view name = some row) :
    IsLatest key rank rows row := by
  obtain ⟨member, isName⟩ := merges.shown shown
  refine ⟨member, ?_⟩
  intro other otherMember sameKey
  obtain ⟨kept, keptShown, behind⟩ := merges.ahead other otherMember
  rw [sameKey, isName, shown] at keptShown
  cases keptShown
  exact behind

/-- Two views that merge the same rows are equal. -/
theorem eq
    (merges : Merges key rank rows view)
    (nextMerges : Merges key rank rows next)
    (determined : Determined key rank rows) :
    view = next := by
  have agree :
      ∀ {first second : Key → Option Row} {name : Key} {row : Row},
        Merges key rank rows first →
        Merges key rank rows second →
        first name = some row →
        second name = some row := by
    intro first second name row firstMerges secondMerges shown
    obtain ⟨member, isName⟩ := firstMerges.shown shown
    obtain ⟨kept, keptShown, behind⟩ := secondMerges.ahead row member
    obtain ⟨keptMember, keptName⟩ := secondMerges.shown keptShown
    have isKept : row = kept := by
      apply determined row member kept keptMember keptName.symm
      exact le_antisymm behind
        ((firstMerges.isLatest shown).greatest kept keptMember keptName)
    subst isKept
    rw [← isName]
    exact keptShown
  funext name
  apply Option.ext
  intro row
  exact ⟨agree merges nextMerges, agree nextMerges merges⟩

end Merges

/-! ## Merging -/

section Merge

variable
  [DecidableEq Key]
  {view : Key → Option Row}
  {rows : List Row}

/-- A row gives way to one with a greater rank only. -/
def newer (rank : Row → Rank) (old : Option Row) (row : Row) : Row :=
  match old with
  | none => row
  | some old => if rank old < rank row then row else old

/-- Rows with distinct keys arrive at a view. -/
def merge
    (key : Row → Key)
    (rank : Row → Rank)
    (view : Key → Option Row)
    (rows : List Row) : Key → Option Row :=
  fun name =>
    match rows.find? fun row => decide (key row = name) with
    | none => view name
    | some row => some (newer rank (view name) row)

theorem merge_of_mem
    {row : Row}
    (distinct : (rows.map key).Nodup)
    (member : row ∈ rows) :
    merge key rank view rows (key row) =
      some (newer rank (view (key row)) row) := by
  have found :
      rows.find? (fun other => decide (key other = key row)) = some row := by
    cases arrived :
        rows.find? fun other => decide (key other = key row) with
    | none =>
        have absent := List.find?_eq_none.mp arrived row member
        simp at absent
    | some other =>
        have sameKey : key other = key row := by
          simpa using List.find?_some arrived
        rw [List.inj_on_of_nodup_map distinct
          (List.mem_of_find?_eq_some arrived) member sameKey]
  rw [merge, found]

theorem merge_of_not_mem
    {name : Key}
    (absent : name ∉ rows.map key) :
    merge key rank view rows name = view name := by
  have missing :
      (rows.find? fun row => decide (key row = name)) = none := by
    rw [List.find?_eq_none]
    intro row member isName
    exact absent (List.mem_map.mpr ⟨row, member, by simpa using isName⟩)
  rw [merge, missing]

theorem rank_le_newer (old : Option Row) (row : Row) :
    rank row ≤ rank (newer rank old row) := by
  unfold newer
  split
  · exact le_rfl
  · split
    · exact le_rfl
    · rename_i notBehind
      exact not_lt.mp notBehind

/-- A row that was shown stays, or gives way to one ahead of it. -/
theorem merge_kept
    (key : Row → Key)
    (rank : Row → Rank)
    (rows : List Row)
    {name : Key}
    {row : Row}
    (shown : view name = some row) :
    ∃ later,
      merge key rank view rows name = some later ∧
        (later = row ∨ rank row < rank later) := by
  unfold merge
  split
  · exact ⟨row, shown, Or.inl rfl⟩
  · rename_i arrived _
    refine ⟨_, rfl, ?_⟩
    rw [shown, newer]
    split
    · rename_i ahead
      exact Or.inr ahead
    · exact Or.inl rfl

/-- What is shown was shown before or has arrived. -/
theorem merge_shown
    {name : Key}
    {row : Row}
    (shown : merge key rank view rows name = some row) :
    view name = some row ∨ (row ∈ rows ∧ key row = name) := by
  unfold merge at shown
  split at shown
  · exact Or.inl shown
  · rename_i arrived found
    have member := List.mem_of_find?_eq_some found
    have isName : key arrived = name := by
      simpa using List.find?_some found
    cases old : view name with
    | none =>
        rw [old] at shown
        cases shown
        exact Or.inr ⟨member, isName⟩
    | some oldRow =>
        rw [old, newer] at shown
        split at shown
        · cases shown
          exact Or.inr ⟨member, isName⟩
        · exact Or.inl shown

/-- Merging arrived rows merges the union. -/
theorem Merges.merge
    {received : Set Row}
    (merges : Merges key rank received view)
    (distinct : (rows.map key).Nodup) :
    Merges key rank (received ∪ { row | row ∈ rows })
      (merge key rank view rows) := by
  constructor
  · intro name row shown
    rcases merge_shown shown with old | ⟨arrived, isName⟩
    · obtain ⟨member, isName⟩ := merges.shown old
      exact ⟨Or.inl member, isName⟩
    · exact ⟨Or.inr arrived, isName⟩
  · rintro row (old | arrived)
    · obtain ⟨shownRow, shown, behind⟩ := merges.ahead row old
      obtain ⟨later, laterShown, isLater⟩ := merge_kept key rank rows shown
      refine ⟨later, laterShown, behind.trans ?_⟩
      rcases isLater with rfl | further
      · exact le_rfl
      · exact further.le
    · exact ⟨_, merge_of_mem distinct arrived, rank_le_newer _ row⟩

end Merge

end Latest
