import Mathlib

namespace Relational

/-!
# Finite tables with a primary key

A table is a list of rows whose keys are pairwise distinct, so a second row
under an existing key cannot be represented.  Clients reason about a table
through two views only: the lookup function `find?` and row membership.  Every
operation below states its effect on both views.
-/

/-- Rows identified by a primary key. -/
class Keyed (Row : Type) (Key : outParam Type) where
  key : Row → Key

/-- A finite relation whose primary keys are pairwise distinct. -/
structure Table (Row : Type) {Key : Type} [Keyed Row Key] where
  rows : List Row
  keysNodup : (rows.map Keyed.key).Nodup

namespace Table

variable {Row Key : Type} [Keyed Row Key]

instance : Membership Row (Table Row) where
  mem table row := row ∈ table.rows

theorem mem_def
    {table : Table Row}
    {row : Row} :
    row ∈ table ↔ row ∈ table.rows :=
  Iff.rfl

instance
    [DecidableEq Row]
    (row : Row)
    (table : Table Row) :
    Decidable (row ∈ table) :=
  inferInstanceAs (Decidable (row ∈ table.rows))

instance
    (table : Table Row)
    (condition : Row → Prop)
    [DecidablePred condition] :
    Decidable (∀ row ∈ table, condition row) :=
  inferInstanceAs (Decidable (∀ row ∈ table.rows, condition row))

/-- The table without rows. -/
def empty : Table Row where
  rows := []
  keysNodup := by simp

instance : Inhabited (Table Row) :=
  ⟨empty⟩

@[simp] theorem not_mem_empty
    (row : Row) :
    row ∉ (empty : Table Row) := by
  simp [mem_def, empty]

/-- Rows of one table with the same key are the same row. -/
theorem eq_of_key_eq
    {table : Table Row}
    {first second : Row}
    (firstMember : first ∈ table)
    (secondMember : second ∈ table)
    (sameKey : Keyed.key first = Keyed.key second) :
    first = second :=
  List.inj_on_of_nodup_map table.keysNodup
    firstMember secondMember sameKey

/-- The rows satisfying a filter, in table order. -/
def select
    (table : Table Row)
    (condition : Row → Bool) :
    List Row :=
  table.rows.filter condition

@[simp] theorem mem_select
    {table : Table Row}
    {condition : Row → Bool}
    {row : Row} :
    row ∈ table.select condition ↔
      row ∈ table ∧ condition row = true :=
  List.mem_filter

/-- The keys of the selected rows are still pairwise distinct. -/
theorem select_keysNodup
    (table : Table Row)
    (condition : Row → Bool) :
    ((table.select condition).map Keyed.key).Nodup :=
  (List.filter_sublist.map Keyed.key).nodup table.keysNodup

/-- Rewrite the rows satisfying a filter without touching their keys. -/
def modify
    (table : Table Row)
    (condition : Row → Bool)
    (update : Row → Row)
    (keepsKey : ∀ row, Keyed.key (update row) = Keyed.key row :=
      by intro row; rfl) :
    Table Row where
  rows :=
    table.rows.map fun row =>
      if condition row then update row else row
  keysNodup := by
    have sameKeys :
        (table.rows.map fun row =>
            if condition row then update row else row).map Keyed.key =
          table.rows.map Keyed.key := by
      rw [List.map_map]
      apply List.map_congr_left
      intro row _
      simp only [Function.comp]
      split
      · exact keepsKey row
      · rfl
    rw [sameKeys]
    exact table.keysNodup

/-- An update that meets no row changes nothing. -/
theorem modify_of_forall_false
    {table : Table Row}
    {condition : Row → Bool}
    {update : Row → Row}
    (keepsKey : ∀ row, Keyed.key (update row) = Keyed.key row)
    (unmet : ∀ row ∈ table, condition row = false) :
    table.modify condition update keepsKey = table := by
  have sameRows :
      (table.rows.map fun row =>
        if condition row then update row else row) = table.rows := by
    conv_rhs => rw [← List.map_id table.rows]
    apply List.map_congr_left
    intro row member
    simp [unmet row member]
  cases table
  unfold modify
  congr

/-- Exactly one row makes the claim, and it has the property. -/
def Sole
    (table : Table Row)
    (claim property : Row → Prop) : Prop :=
  ∃ row ∈ table,
    claim row ∧ property row ∧ ∀ other ∈ table, claim other → other = row

/-- A table with the same claiming rows has the same sole row. -/
theorem Sole.congr
    {table next : Table Row}
    {claim property : Row → Prop}
    (sole : table.Sole claim property)
    (same : ∀ row, claim row → (row ∈ next ↔ row ∈ table)) :
    next.Sole claim property := by
  obtain ⟨row, member, claims, holds, alone⟩ := sole
  refine ⟨row, (same row claims).mpr member, claims, holds, ?_⟩
  intro other otherMember otherClaims
  exact alone other ((same other otherClaims).mp otherMember) otherClaims

variable [DecidableEq Key]

/-- The row stored under a key, if any. -/
def find?
    (table : Table Row)
    (key : Key) :
    Option Row :=
  table.rows.find? fun row => decide (Keyed.key row = key)

/-- Lookup and membership describe the same rows. -/
theorem find?_eq_some_iff
    {table : Table Row}
    {key : Key}
    {row : Row} :
    table.find? key = some row ↔
      row ∈ table ∧ Keyed.key row = key := by
  constructor
  · intro found
    exact ⟨List.mem_of_find?_eq_some found, by
      simpa using List.find?_some found⟩
  · rintro ⟨member, sameKey⟩
    cases found : table.find? key with
    | none =>
        have absent := List.find?_eq_none.mp found row member
        simp [sameKey] at absent
    | some other =>
        have otherMember : other ∈ table :=
          List.mem_of_find?_eq_some found
        have otherKey : Keyed.key other = key := by
          simpa using List.find?_some found
        rw [eq_of_key_eq otherMember member
          (otherKey.trans sameKey.symm)]

/-- A found row carries the key it was looked up under. -/
theorem key_of_find?
    {table : Table Row}
    {key : Key}
    {row : Row}
    (found : table.find? key = some row) :
    Keyed.key row = key :=
  (find?_eq_some_iff.mp found).2

theorem mem_of_find?
    {table : Table Row}
    {key : Key}
    {row : Row}
    (found : table.find? key = some row) :
    row ∈ table :=
  (find?_eq_some_iff.mp found).1

/-- Every row is found under its own key. -/
theorem find?_key
    {table : Table Row}
    {row : Row}
    (member : row ∈ table) :
    table.find? (Keyed.key row) = some row :=
  find?_eq_some_iff.mpr ⟨member, rfl⟩

theorem find?_eq_none_iff
    {table : Table Row}
    {key : Key} :
    table.find? key = none ↔
      ∀ row ∈ table, Keyed.key row ≠ key := by
  simp [find?, List.find?_eq_none, mem_def]

/-- Lookup after a rewrite rewrites the row that was found before. -/
@[simp] theorem find?_modify
    (table : Table Row)
    (condition : Row → Bool)
    (update : Row → Row)
    (keepsKey : ∀ row, Keyed.key (update row) = Keyed.key row)
    (key : Key) :
    (table.modify condition update keepsKey).find? key =
      (table.find? key).map fun row =>
        if condition row then update row else row := by
  have sameKey :
      ∀ row : Row,
        Keyed.key (if condition row then update row else row) =
          Keyed.key row := by
    intro row
    split
    · exact keepsKey row
    · rfl
  have sameSearch :
      ((fun row => decide (Keyed.key row = key)) ∘ fun row =>
          if condition row then update row else row) =
        fun row : Row => decide (Keyed.key row = key) := by
    funext row
    simp only [Function.comp, sameKey]
  change List.find? _ (List.map _ table.rows) = _
  rw [List.find?_map, sameSearch]
  rfl

/-- Delete the rows satisfying a filter. -/
def remove
    (table : Table Row)
    (condition : Row → Bool) :
    Table Row where
  rows := table.rows.filter fun row => !condition row
  keysNodup :=
    (List.filter_sublist.map Keyed.key).nodup table.keysNodup

/-- Lookup after a deletion. -/
theorem find?_remove
    (table : Table Row)
    (condition : Row → Bool)
    (key : Key) :
    (table.remove condition).find? key =
      (table.find? key).filter fun row => !condition row := by
  apply Option.ext
  intro row
  rw [Option.filter_eq_some_iff, find?_eq_some_iff, find?_eq_some_iff]
  change row ∈ table.rows.filter _ ∧ _ ↔ _
  rw [List.mem_filter, mem_def]
  constructor
  · rintro ⟨⟨member, kept⟩, isKey⟩
    exact ⟨⟨member, isKey⟩, kept⟩
  · rintro ⟨⟨member, isKey⟩, kept⟩
    exact ⟨⟨member, kept⟩, isKey⟩

/-- Append a row, refusing a key that is already present. -/
def insert?
    (table : Table Row)
    (row : Row) :
    Option (Table Row) :=
  if present : Keyed.key row ∈ table.rows.map Keyed.key then
    none
  else
    some {
      rows := table.rows ++ [row]
      keysNodup := by
        rw [List.map_append, List.map_singleton]
        exact table.keysNodup.append
          (List.nodup_singleton _)
          (by simpa using present) }

/-- What an accepted insertion requires and produces. -/
theorem insert?_eq_some
    {table next : Table Row}
    {row : Row}
    (accepted : table.insert? row = some next) :
    table.find? (Keyed.key row) = none ∧
      next.rows = table.rows ++ [row] := by
  unfold insert? at accepted
  split at accepted
  · cases accepted
  · rename_i absent
    cases accepted
    refine ⟨find?_eq_none_iff.mpr ?_, rfl⟩
    intro other member sameKey
    exact absent (List.mem_map.mpr ⟨other, member, sameKey⟩)

/-- An insertion under an absent key is accepted. -/
theorem insert?_isSome
    {table : Table Row}
    {row : Row}
    (absent : table.find? (Keyed.key row) = none) :
    ∃ next, table.insert? row = some next := by
  have notPresent : Keyed.key row ∉ table.rows.map Keyed.key := by
    intro present
    obtain ⟨other, member, sameKey⟩ := List.mem_map.mp present
    exact find?_eq_none_iff.mp absent other member sameKey
  exact ⟨_, by rw [insert?, dif_neg notPresent]⟩

/-- A key that is present rejects the insertion. -/
theorem insert?_eq_none_of_find?
    {table : Table Row}
    {row other : Row}
    (found : table.find? (Keyed.key row) = some other) :
    table.insert? row = none := by
  rw [insert?, dif_pos]
  exact List.mem_map.mpr
    ⟨other, mem_of_find? found, key_of_find? found⟩

theorem mem_of_insert?
    {table next : Table Row}
    {row : Row}
    (accepted : table.insert? row = some next)
    {other : Row} :
    other ∈ next ↔ other ∈ table ∨ other = row := by
  simp [mem_def, (insert?_eq_some accepted).2]

/-- Lookup after an accepted insertion. -/
theorem find?_of_insert?
    {table next : Table Row}
    {row : Row}
    (accepted : table.insert? row = some next)
    (key : Key) :
    next.find? key =
      if key = Keyed.key row then some row else table.find? key := by
  split
  · rename_i sameKey
    subst sameKey
    exact find?_key ((mem_of_insert? accepted).mpr (Or.inr rfl))
  · rename_i differentKey
    have unchanged :
        ∀ other,
          next.find? key = some other ↔
            table.find? key = some other := by
      intro other
      rw [find?_eq_some_iff, find?_eq_some_iff,
        mem_of_insert? accepted]
      constructor
      · rintro ⟨member | isRow, otherKey⟩
        · exact ⟨member, otherKey⟩
        · subst other
          exact (differentKey otherKey.symm).elim
      · rintro ⟨member, otherKey⟩
        exact ⟨Or.inl member, otherKey⟩
    exact Option.ext unchanged

/-- Lookup after an insertion that keeps an existing row on conflict. -/
theorem find?_insert?_getD
    (table : Table Row)
    (row : Row)
    (key : Key) :
    ((table.insert? row).getD table).find? key =
      if key = Keyed.key row ∧ table.find? key = none then
        some row
      else
        table.find? key := by
  cases accepted : table.insert? row with
  | none =>
      have present : table.find? (Keyed.key row) ≠ none := by
        intro absent
        obtain ⟨next, inserted⟩ := insert?_isSome absent
        rw [accepted] at inserted
        cases inserted
      rw [Option.getD_none, if_neg]
      rintro ⟨rfl, absent⟩
      exact present absent
  | some next =>
      rw [Option.getD_some, find?_of_insert? accepted]
      by_cases sameKey : key = Keyed.key row
      · subst sameKey
        rw [if_pos rfl,
          if_pos ⟨rfl, (insert?_eq_some accepted).1⟩]
      · rw [if_neg sameKey, if_neg fun both => sameKey both.1]

/-- Append several rows in order, refusing the first key clash. -/
def insertAll? :
    Table Row →
      List Row →
      Option (Table Row)
  | table, [] =>
      some table
  | table, row :: rest =>
      (table.insert? row).bind fun next => next.insertAll? rest

/-- An accepted bulk insertion appends exactly the given rows. -/
theorem rows_of_insertAll?
    {table next : Table Row}
    {added : List Row}
    (accepted : table.insertAll? added = some next) :
    next.rows = table.rows ++ added := by
  induction added generalizing table with
  | nil =>
      simp only [insertAll?, Option.some.injEq] at accepted
      simp [accepted]
  | cons row rest inductionHypothesis =>
      simp only [insertAll?, Option.bind_eq_some_iff] at accepted
      obtain ⟨middle, headAccepted, restAccepted⟩ := accepted
      rw [inductionHypothesis restAccepted,
        (insert?_eq_some headAccepted).2]
      simp

/-- A bulk insertion of distinct absent keys is accepted. -/
theorem insertAll?_isSome
    {table : Table Row}
    {added : List Row}
    (nodup : (added.map (Keyed.key : Row → Key)).Nodup)
    (absent : ∀ row ∈ added, table.find? (Keyed.key row) = none) :
    ∃ next, table.insertAll? added = some next := by
  induction added generalizing table with
  | nil =>
      exact ⟨table, rfl⟩
  | cons row rest inductionHypothesis =>
      rw [List.map_cons, List.nodup_cons] at nodup
      obtain ⟨middle, inserted⟩ :=
        insert?_isSome (absent row List.mem_cons_self)
      have stillAbsent :
          ∀ other ∈ rest, middle.find? (Keyed.key other) = none := by
        intro other member
        rw [find?_of_insert? inserted, if_neg]
        · exact absent other (List.mem_cons_of_mem row member)
        · intro sameKey
          apply nodup.1
          rw [← sameKey]
          exact List.mem_map_of_mem member
      obtain ⟨next, accepted⟩ := inductionHypothesis nodup.2 stillAbsent
      exact ⟨next, by rw [insertAll?, inserted]; exact accepted⟩

theorem mem_of_insertAll?
    {table next : Table Row}
    {added : List Row}
    (accepted : table.insertAll? added = some next)
    {row : Row} :
    row ∈ next ↔ row ∈ table ∨ row ∈ added := by
  simp [mem_def, rows_of_insertAll? accepted]

/-- Replace the row under a key, or append it when the key is new. -/
def upsert
    (table : Table Row)
    (row : Row) :
    Table Row :=
  if present : Keyed.key row ∈ table.rows.map Keyed.key then
    { rows :=
        table.rows.map fun other =>
          if Keyed.key other = Keyed.key row then row else other
      keysNodup := by
        have sameKeys :
            (table.rows.map fun other =>
                if Keyed.key other = Keyed.key row then
                  row
                else
                  other).map Keyed.key =
              table.rows.map Keyed.key := by
          rw [List.map_map]
          apply List.map_congr_left
          intro other _
          simp only [Function.comp]
          split
          · rename_i sameKey
            exact sameKey.symm
          · rfl
        rw [sameKeys]
        exact table.keysNodup }
  else
    { rows := table.rows ++ [row]
      keysNodup := by
        rw [List.map_append, List.map_singleton]
        exact table.keysNodup.append
          (List.nodup_singleton _)
          (by simpa using present) }

theorem mem_upsert
    {table : Table Row}
    {row other : Row} :
    other ∈ table.upsert row ↔
      other = row ∨
        (other ∈ table ∧ Keyed.key other ≠ Keyed.key row) := by
  unfold upsert
  split
  · rename_i present
    obtain ⟨old, oldMember, oldKey⟩ := List.mem_map.mp present
    simp only [mem_def, List.mem_map]
    constructor
    · rintro ⟨before, beforeMember, rfl⟩
      split
      · exact Or.inl rfl
      · rename_i differentKey
        exact Or.inr ⟨beforeMember, differentKey⟩
    · rintro (isRow | ⟨member, differentKey⟩)
      · exact ⟨old, oldMember, by simp [oldKey, isRow]⟩
      · exact ⟨other, member, by simp [differentKey]⟩
  · rename_i absent
    simp only [mem_def, List.mem_append, List.mem_singleton]
    constructor
    · rintro (member | isRow)
      · refine Or.inr ⟨member, ?_⟩
        intro sameKey
        exact absent (List.mem_map.mpr ⟨other, member, sameKey⟩)
      · exact Or.inl isRow
    · rintro (isRow | ⟨member, _⟩)
      · exact Or.inr isRow
      · exact Or.inl member

/-- Lookup after an upsert. -/
@[simp] theorem find?_upsert
    (table : Table Row)
    (row : Row)
    (key : Key) :
    (table.upsert row).find? key =
      if key = Keyed.key row then some row else table.find? key := by
  split
  · rename_i sameKey
    subst sameKey
    exact find?_key (mem_upsert.mpr (Or.inl rfl))
  · rename_i differentKey
    apply Option.ext
    intro other
    simp only [find?_eq_some_iff, mem_upsert]
    constructor
    · rintro ⟨isRow | ⟨member, _⟩, otherKey⟩
      · subst other
        exact (differentKey otherKey.symm).elim
      · exact ⟨member, otherKey⟩
    · rintro ⟨member, otherKey⟩
      refine ⟨Or.inr ⟨member, ?_⟩, otherKey⟩
      rw [otherKey]
      exact differentKey

/-- Lookup after a stored row was replaced. -/
theorem find?_replaced
    {table : Table Row}
    {old new : Row}
    {oldKey : Key}
    (stored : table.find? oldKey = some old)
    (sameKey : Keyed.key new = Keyed.key old)
    (key : Key) :
    (table.upsert new).find? key =
      if key = oldKey then some new else table.find? key := by
  rw [find?_upsert, sameKey, key_of_find? stored]

theorem find?_replaced_cases
    {table : Table Row}
    {old new next : Row}
    {oldKey key : Key}
    (stored : table.find? oldKey = some old)
    (found : (table.upsert new).find? key = some next)
    (sameKey : Keyed.key new = Keyed.key old) :
    (key = oldKey ∧ next = new) ∨
      (key ≠ oldKey ∧ table.find? key = some next) := by
  rw [find?_replaced stored sameKey] at found
  split at found
  · rename_i isKey
    cases found
    exact Or.inl ⟨isKey, rfl⟩
  · rename_i otherKey
    exact Or.inr ⟨otherKey, found⟩

/-- Insert or replace rows one after another. -/
def upsertAll (table : Table Row) (rows : List Row) : Table Row :=
  rows.foldl upsert table

/-- Lookup of a key that no upserted row has. -/
theorem find?_upsertAll_of_forall_ne
    {table : Table Row}
    {rows : List Row}
    {key : Key}
    (absent : ∀ row ∈ rows, key ≠ Keyed.key row) :
    (table.upsertAll rows).find? key = table.find? key := by
  induction rows generalizing table with
  | nil =>
      rfl
  | cons row rest inductionHypothesis =>
      have rest :
          ((table.upsert row).upsertAll rest).find? key =
            (table.upsert row).find? key :=
        inductionHypothesis fun other member =>
          absent other (List.mem_cons_of_mem _ member)
      rw [upsertAll, List.foldl_cons]
      refine rest.trans ?_
      rw [find?_upsert, if_neg (absent row List.mem_cons_self)]

/-- A lookup after upserts finds one of the rows, or what it found before. -/
theorem find?_upsertAll_cases
    (table : Table Row)
    (rows : List Row)
    (key : Key) :
    (table.upsertAll rows).find? key = table.find? key ∨
      ∃ row ∈ rows,
        Keyed.key row = key ∧
          (table.upsertAll rows).find? key = some row := by
  induction rows generalizing table with
  | nil =>
      exact Or.inl rfl
  | cons row rest inductionHypothesis =>
      rcases inductionHypothesis (table.upsert row) with
        kept | ⟨other, member, sameKey, found⟩
      · have step :
            (table.upsertAll (row :: rest)).find? key =
              (table.upsert row).find? key :=
          kept
        rw [step, find?_upsert]
        split
        · rename_i isKey
          exact Or.inr ⟨row, List.mem_cons_self, isKey.symm, rfl⟩
        · exact Or.inl rfl
      · exact Or.inr
          ⟨other, List.mem_cons_of_mem _ member, sameKey, found⟩

/-- Upserts remove no key. -/
theorem find?_upsertAll_ne_none
    {table : Table Row}
    {rows : List Row}
    {key : Key}
    (present : table.find? key ≠ none) :
    (table.upsertAll rows).find? key ≠ none := by
  rcases table.find?_upsertAll_cases rows key with
    kept | ⟨row, _, _, found⟩
  · rw [kept]
    exact present
  · rw [found]
    simp

/-- Upserts add the keys of their rows. -/
theorem find?_upsertAll_ne_none_of_mem
    {table : Table Row}
    {rows : List Row}
    {row : Row}
    (member : row ∈ rows) :
    (table.upsertAll rows).find? (Keyed.key row) ≠ none := by
  induction rows generalizing table with
  | nil =>
      cases member
  | cons head rest inductionHypothesis =>
      rcases List.mem_cons.mp member with rfl | later
      · have present : (table.upsert row).find? (Keyed.key row) ≠ none := by
          simp
        rw [upsertAll, List.foldl_cons]
        exact find?_upsertAll_ne_none present
      · exact inductionHypothesis later

/-- Lookup of an upserted row with a key of its own. -/
theorem find?_upsertAll_of_mem
    {table : Table Row}
    {rows : List Row}
    {row : Row}
    (nodup : (rows.map Keyed.key).Nodup)
    (member : row ∈ rows) :
    (table.upsertAll rows).find? (Keyed.key row) = some row := by
  induction rows generalizing table with
  | nil =>
      cases member
  | cons head rest inductionHypothesis =>
      rw [List.map_cons, List.nodup_cons] at nodup
      rcases List.mem_cons.mp member with rfl | later
      · have kept :
            ((table.upsert row).upsertAll rest).find? (Keyed.key row) =
              (table.upsert row).find? (Keyed.key row) := by
          refine find?_upsertAll_of_forall_ne ?_
          intro other otherMember sameKey
          exact nodup.1 (List.mem_map.mpr ⟨other, otherMember, sameKey.symm⟩)
        rw [upsertAll, List.foldl_cons]
        exact kept.trans (by rw [find?_upsert, if_pos rfl])
      · exact inductionHypothesis nodup.2 later

/-- The rows whose keys an earlier table lacks. -/
def newRows (before after : Table Row) : List Row :=
  after.select fun row => (before.find? (Keyed.key row)).isNone

@[simp] theorem newRows_self (table : Table Row) :
    newRows table table = [] := by
  refine List.filter_eq_nil_iff.mpr ?_
  intro row member
  have found : table.find? (Keyed.key row) = some row := find?_key member
  simp [found]

/-- The rows of a table that gained one key. -/
theorem mem_of_gained
    {before after : Table Row}
    {row : Row}
    (unused : before.find? (Keyed.key row) = none)
    (gained :
      ∀ key,
        after.find? key =
          if key = Keyed.key row then some row else before.find? key)
    (other : Row) :
    other ∈ after ↔ other ∈ before ∨ other = row := by
  constructor
  · intro member
    have found := find?_key member
    rw [gained] at found
    split at found
    · exact Or.inr (Option.some.inj found).symm
    · exact Or.inl (mem_of_find? found)
  · rintro (member | rfl)
    · have found := find?_key member
      have kept : after.find? (Keyed.key other) = some other := by
        rw [gained, if_neg, found]
        intro sameKey
        rw [sameKey, unused] at found
        cases found
      exact mem_of_find? kept
    · have stored : after.find? (Keyed.key other) = some other := by
        rw [gained, if_pos rfl]
      exact mem_of_find? stored

/-- A table that gained one key has at most one new row. -/
theorem length_newRows_le_one
    {before after : Table Row}
    {row : Row}
    (gained :
      ∀ key,
        after.find? key =
          if key = Keyed.key row then some row else before.find? key) :
    (newRows before after).length ≤ 1 := by
  have isRow : ∀ other ∈ newRows before after, other = row := by
    intro other selected
    obtain ⟨member, absent⟩ := mem_select.mp selected
    have found : after.find? (Keyed.key other) = some other :=
      find?_key member
    rw [gained] at found
    split at found
    · exact (Option.some.inj found).symm
    · rw [found] at absent
      cases absent
  have nodup : (newRows before after).Nodup :=
    (select_keysNodup after _).of_map _
  match shape : newRows before after with
  | [] => simp
  | [_] => simp
  | first :: second :: rest =>
      rw [shape] at isRow nodup
      have same : first = second :=
        (isRow first (by simp)).trans (isRow second (by simp)).symm
      simp [same] at nodup

end Table

end Relational
