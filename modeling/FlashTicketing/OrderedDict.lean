import Mathlib

/-!
# Ordered dictionaries

Items in the order in which their keys were inserted, oldest first.
-/

/-- A dictionary that remembers the order of its keys. -/
structure OrderedDict (Key Value : Type) where
  items : List (Key × Value)
  keysNodup : (items.map Prod.fst).Nodup

namespace OrderedDict

variable {Key Value : Type}

/-- A dictionary without items. -/
def empty : OrderedDict Key Value where
  items := []
  keysNodup := List.nodup_nil

/-- `dict[key] = value` for a key that the dictionary lacks. -/
def append
    (dict : OrderedDict Key Value)
    (key : Key)
    (value : Value)
    (absent : ∀ item ∈ dict.items, item.1 ≠ key) :
    OrderedDict Key Value where
  items := dict.items ++ [(key, value)]
  keysNodup := by
    rw [List.map_append, List.nodup_append]
    refine ⟨dict.keysNodup, List.nodup_singleton key, ?_⟩
    intro old isOld new isNew
    obtain ⟨item, member, rfl⟩ := List.mem_map.mp isOld
    rw [List.mem_singleton.mp isNew]
    exact absent item member

/-- `popitem(last=False)`, or `none` for an empty dictionary. -/
def popFirst? (dict : OrderedDict Key Value) :
    Option ((Key × Value) × OrderedDict Key Value) :=
  match dict with
  | ⟨[], _⟩ => none
  | ⟨item :: rest, keysNodup⟩ =>
      some (item, ⟨rest, (List.nodup_cons.mp keysNodup).2⟩)

/-- The sum of the sizes of the values. -/
def total (size : Value → Nat) (dict : OrderedDict Key Value) : Nat :=
  (dict.items.map fun item => size item.2).sum

theorem total_append
    (size : Value → Nat)
    (dict : OrderedDict Key Value)
    (key : Key)
    (value : Value)
    (absent : ∀ item ∈ dict.items, item.1 ≠ key) :
    (dict.append key value absent).total size =
      dict.total size + size value := by
  simp [total, append]

theorem popFirst?_eq_some
    {dict rest : OrderedDict Key Value}
    {item : Key × Value}
    (popped : dict.popFirst? = some (item, rest)) :
    dict.items = item :: rest.items := by
  obtain ⟨items, keysNodup⟩ := dict
  cases items with
  | nil => cases popped
  | cons first others =>
      cases popped
      rfl

theorem popFirst?_eq_none
    {dict : OrderedDict Key Value}
    (popped : dict.popFirst? = none) :
    dict.items = [] := by
  obtain ⟨items, keysNodup⟩ := dict
  cases items with
  | nil => rfl
  | cons first others => cases popped

section Keys

variable [DecidableEq Key]

/-- `get(key)`. -/
def get? (dict : OrderedDict Key Value) (key : Key) : Option Value :=
  (dict.items.find? fun item => decide (item.1 = key)).map Prod.snd

/-- What `pop(key, None)` leaves. -/
def pop (dict : OrderedDict Key Value) (key : Key) :
    OrderedDict Key Value where
  items := dict.items.filter fun item => decide (item.1 ≠ key)
  keysNodup := (List.filter_sublist.map Prod.fst).nodup dict.keysNodup

theorem pop_absent
    (dict : OrderedDict Key Value)
    (key : Key) :
    ∀ item ∈ (dict.pop key).items, item.1 ≠ key := by
  intro item member
  simpa using (List.mem_filter.mp member).2

/-- `pop(key, None)` and `dict[key] = value`. -/
def refresh
    (dict : OrderedDict Key Value)
    (key : Key)
    (value : Value) : OrderedDict Key Value :=
  (dict.pop key).append key value (dict.pop_absent key)

/-- `move_to_end(key)` if the key is there. -/
def moveToEnd
    (dict : OrderedDict Key Value)
    (key : Key) : OrderedDict Key Value :=
  match dict.get? key with
  | some value => dict.refresh key value
  | none => dict

theorem mem_of_get?
    {dict : OrderedDict Key Value}
    {key : Key}
    {value : Value}
    (found : dict.get? key = some value) :
    (key, value) ∈ dict.items := by
  obtain ⟨item, itemFound, rfl⟩ := Option.map_eq_some_iff.mp found
  have isKey : item.1 = key := by
    simpa using List.find?_some itemFound
  subst isKey
  exact List.mem_of_find?_eq_some itemFound

/-- The value of an item is the value of its key. -/
theorem get?_of_mem
    {dict : OrderedDict Key Value}
    {item : Key × Value}
    (member : item ∈ dict.items) :
    dict.get? item.1 = some item.2 := by
  cases found : dict.get? item.1 with
  | none =>
      have absent := List.find?_eq_none.mp (Option.map_eq_none_iff.mp found)
      exact absurd (decide_eq_true rfl) (absent item member)
  | some value =>
      have same : item = (item.1, value) :=
        List.inj_on_of_nodup_map dict.keysNodup member (mem_of_get? found) rfl
      exact congrArg some (congrArg Prod.snd same).symm

theorem get?_ne_none_of_mem
    {dict : OrderedDict Key Value}
    {item : Key × Value}
    (member : item ∈ dict.items) :
    dict.get? item.1 ≠ none := by
  rw [get?_of_mem member]
  exact nofun

theorem mem_refresh
    {dict : OrderedDict Key Value}
    {key : Key}
    {value : Value}
    {item : Key × Value}
    (member : item ∈ (dict.refresh key value).items) :
    item ∈ dict.items ∨ item = (key, value) := by
  rcases List.mem_append.mp member with old | new
  · exact Or.inl (List.mem_filter.mp old).1
  · exact Or.inr (List.mem_singleton.mp new)

/-- The items of a dictionary are those of other keys and that of the key. -/
theorem perm_refresh
    {dict : OrderedDict Key Value}
    {key : Key}
    {value : Value}
    (found : dict.get? key = some value) :
    (dict.refresh key value).items.Perm dict.items := by
  have nodup : (dict.refresh key value).items.Nodup :=
    (dict.refresh key value).keysNodup.of_map
  apply (List.perm_ext_iff_of_nodup nodup dict.keysNodup.of_map).mpr
  intro item
  constructor
  · intro member
    rcases mem_refresh member with old | rfl
    · exact old
    · exact mem_of_get? found
  · intro member
    by_cases isKey : item.1 = key
    · have same : item = (key, value) :=
        List.inj_on_of_nodup_map dict.keysNodup member (mem_of_get? found)
          isKey
      rw [same]
      exact List.mem_append_right _ List.mem_cons_self
    · apply List.mem_append_left
      exact List.mem_filter.mpr ⟨member, by simpa using isKey⟩

theorem perm_moveToEnd
    (dict : OrderedDict Key Value)
    (key : Key) :
    (dict.moveToEnd key).items.Perm dict.items := by
  unfold moveToEnd
  cases found : dict.get? key with
  | none => exact List.Perm.refl _
  | some value => exact perm_refresh found

theorem mem_moveToEnd
    {dict : OrderedDict Key Value}
    {key : Key}
    {item : Key × Value}
    (member : item ∈ (dict.moveToEnd key).items) :
    item ∈ dict.items := by
  exact (dict.perm_moveToEnd key).mem_iff.mp member

/-- A popped value no longer counts. -/
theorem total_pop
    (size : Value → Nat)
    (dict : OrderedDict Key Value)
    (key : Key) :
    dict.total size =
      (dict.pop key).total size + ((dict.get? key).map size).getD 0 := by
  obtain ⟨items, keysNodup⟩ := dict
  unfold total pop get?
  induction items with
  | nil => rfl
  | cons item rest inductionHypothesis =>
      have rested := inductionHypothesis (List.nodup_cons.mp keysNodup).2
      by_cases isKey : item.1 = key
      · have others : ∀ other ∈ rest, other.1 ≠ key := by
          intro other member sameKey
          apply (List.nodup_cons.mp keysNodup).1
          rw [isKey, ← sameKey]
          exact List.mem_map_of_mem member
        have unchanged :
            (rest.filter fun other => !decide (other.1 = key)) = rest := by
          rw [List.filter_eq_self]
          simpa using others
        simp [isKey, unchanged, Nat.add_comm]
      · simp [isKey] at rested ⊢
        omega

theorem total_moveToEnd
    (size : Value → Nat)
    (dict : OrderedDict Key Value)
    (key : Key) :
    (dict.moveToEnd key).total size = dict.total size := by
  exact ((dict.perm_moveToEnd key).map _).sum_eq

end Keys

end OrderedDict
