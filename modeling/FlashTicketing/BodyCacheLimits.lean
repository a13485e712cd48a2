import FlashTicketing.BodyCache

namespace FlashTicketing

open Transition

/-!
# The limits of the body cache

Calls of any number of threads reach the cache only through their lookups and
insertions under the lock, so a run is any sequence of these.
-/

abbrev CacheKey := Uuid × Representation

/-- One locked section. -/
inductive CacheAction where
  | lookup (key : CacheKey)
  | insert (key : CacheKey) (tag : String) (encoded : Encoded)

namespace CacheAction

def key : CacheAction → CacheKey
  | .lookup key => key
  | .insert key _ _ => key

/-- When a key was used last, by a history with its newest action first. -/
def latestUse (wanted : CacheKey) : List CacheAction → Nat
  | [] => 0
  | action :: earlier =>
      if action.key = wanted then
        earlier.length + 1
      else
        latestUse wanted earlier

/-- The position of the last action on the key, or zero. -/
def lastUse (actions : List CacheAction) (wanted : CacheKey) : Nat :=
  latestUse wanted actions.reverse

theorem latestUse_le
    (wanted : CacheKey)
    (history : List CacheAction) :
    latestUse wanted history ≤ history.length := by
  induction history with
  | nil => exact Nat.le_refl 0
  | cons action earlier inductionHypothesis =>
      rw [latestUse]
      split
      · exact Nat.le_refl _
      · exact Nat.le_succ_of_le inductionHypothesis

theorem lastUse_le
    (actions : List CacheAction)
    (wanted : CacheKey) :
    lastUse actions wanted ≤ actions.length := by
  have bounded := latestUse_le wanted actions.reverse
  rwa [List.length_reverse] at bounded

theorem lastUse_snoc_self
    (actions : List CacheAction)
    (action : CacheAction) :
    lastUse (actions ++ [action]) action.key = actions.length + 1 := by
  simp [lastUse, latestUse]

theorem lastUse_snoc_of_ne
    {actions : List CacheAction}
    {action : CacheAction}
    {wanted : CacheKey}
    (other : wanted ≠ action.key) :
    lastUse (actions ++ [action]) wanted = lastUse actions wanted := by
  simp [lastUse, latestUse, other.symm]

end CacheAction

open CacheAction

namespace BodyCache

/-- A locked section; `none` if `popitem` raises. -/
def perform
    (limits : BrowseLimits)
    (cache : BodyCache) : CacheAction → Option BodyCache
  | .lookup key => some (cache.lookup key).2
  | .insert key tag encoded => cache.insert limits key tag encoded

/-- A locked section and the cache that it leaves. -/
def Step
    (limits : BrowseLimits)
    (cache : BodyCache)
    (action : CacheAction)
    (after : BodyCache) : Prop :=
  cache.perform limits action = some after

/-! ## The order of use -/

/-- Items that were used longer ago come first. -/
def ByUse
    (actions : List CacheAction)
    (items : List (CacheKey × (String × Encoded))) : Prop :=
  items.Pairwise fun older newer =>
    lastUse actions older.1 < lastUse actions newer.1

variable
  {actions : List CacheAction}
  {action : CacheAction}
  {items : List (CacheKey × (String × Encoded))}

/-- Items of other keys keep their order. -/
theorem ByUse.others
    (byUse : ByUse actions items)
    (others : ∀ item ∈ items, item.1 ≠ action.key) :
    ByUse (actions ++ [action]) items := by
  apply List.Pairwise.imp_of_mem ?_ byUse
  intro older newer isOlder isNewer before
  rw [lastUse_snoc_of_ne (others older isOlder),
    lastUse_snoc_of_ne (others newer isNewer)]
  exact before

/-- The used key goes to the end. -/
theorem ByUse.used
    (byUse : ByUse actions items)
    (others : ∀ item ∈ items, item.1 ≠ action.key)
    (cached : String × Encoded) :
    ByUse (actions ++ [action]) (items ++ [(action.key, cached)]) := by
  apply List.pairwise_append.mpr
  refine ⟨byUse.others others, List.pairwise_singleton _ _, ?_⟩
  intro older isOlder newer isNewer
  rw [List.mem_singleton.mp isNewer, lastUse_snoc_self,
    lastUse_snoc_of_ne (others older isOlder)]
  exact Nat.lt_succ_of_le (lastUse_le actions older.1)

/-- What holds between any two locked sections. -/
structure Kept
    (limits : BrowseLimits)
    (actions : List CacheAction)
    (cache : BodyCache) : Prop where
  counted : cache.Counted
  allowed : Allowed limits cache.bodies.items
  byUse : ByUse actions cache.bodies.items

variable
  {limits : BrowseLimits}
  {cache after : BodyCache}

theorem kept_empty : Kept limits [] empty :=
  ⟨counted_empty, ⟨Nat.zero_le _, Nat.zero_le _⟩, .nil⟩

theorem Kept.byUse_pop
    (kept : cache.Kept limits actions)
    (action : CacheAction) :
    ByUse (actions ++ [action]) (cache.bodies.pop action.key).items :=
  ByUse.others (kept.byUse.sublist List.filter_sublist)
    (cache.bodies.pop_absent action.key)

theorem Kept.byUse_refresh
    (kept : cache.Kept limits actions)
    (action : CacheAction)
    (cached : String × Encoded) :
    ByUse (actions ++ [action])
      (cache.bodies.refresh action.key cached).items :=
  ByUse.used (kept.byUse.sublist List.filter_sublist)
    (cache.bodies.pop_absent action.key) cached

/-- A lookup only moves the key. -/
theorem perm_lookup
    (cache : BodyCache)
    (key : CacheKey) :
    (cache.lookup key).2.bodies.items.Perm cache.bodies.items :=
  OrderedDict.perm_moveToEnd cache.bodies key

theorem Kept.lookup
    (kept : cache.Kept limits actions)
    (key : CacheKey) :
    (cache.lookup key).2.Kept limits (actions ++ [.lookup key]) where
  counted := kept.counted.lookup key
  allowed := kept.allowed.perm (cache.perm_lookup key)
  byUse := by
    change ByUse _ (cache.bodies.moveToEnd key).items
    unfold OrderedDict.moveToEnd
    cases found : cache.bodies.get? key with
    | none =>
        apply kept.byUse.others
        intro item member isKey
        exact OrderedDict.get?_ne_none_of_mem member (isKey ▸ found)
    | some cached => exact kept.byUse_refresh (.lookup key) cached

/-- The entry that a call inserts is allowed on its own. -/
theorem allowed_single
    {tag : String}
    {encoded : Encoded}
    (key : CacheKey)
    (stored : limits.entries ≠ 0 ∧ encoded.length ≤ limits.bytes) :
    Allowed limits [(key, (tag, encoded))] := by
  constructor
  · exact Nat.one_le_iff_ne_zero.mpr stored.1
  · simpa using stored.2

/-- The eviction loop spares the last item if that is allowed on its own. -/
theorem Evicted.spares
    {item : CacheKey × (String × Encoded)}
    {gone : List (CacheKey × (String × Encoded))}
    (evicted : Evicted limits cache after gone)
    (isLast : cache.bodies.items = items ++ [item])
    (alone : Allowed limits [item]) :
    ∃ left, items = gone ++ left ∧ after.bodies.items = left ++ [item] := by
  have whole : items ++ [item] = gone ++ after.bodies.items :=
    isLast.symm.trans evicted.items
  rcases after.bodies.items.eq_nil_or_concat' with
    isEmpty | ⟨left, last, isAfter⟩
  · rw [isEmpty, List.append_nil] at whole
    have required := evicted.required items [item] whole.symm nofun
    rw [isEmpty] at required
    exact absurd alone required
  · rw [isAfter, ← List.append_assoc] at whole
    cases List.append_inj_right' whole rfl
    exact ⟨left, List.append_inj_left' whole rfl, isAfter⟩

/-- The limits allow the cache without a key. -/
theorem Kept.allowed_pop
    (kept : cache.Kept limits actions)
    (key : CacheKey) :
    Allowed limits (cache.bodies.pop key).items := by
  have popped :=
    cache.bodies.total_pop (fun cached => cached.2.length) key
  have bounded :
      cache.bodies.total (fun cached => cached.2.length) ≤ limits.bytes :=
    kept.allowed.2
  constructor
  · exact Nat.le_trans (List.length_filter_le _ _) kept.allowed.1
  · change (cache.bodies.pop key).total (fun cached => cached.2.length) ≤ _
    omega

/-- What an insertion leaves. -/
structure Inserted
    (limits : BrowseLimits)
    (actions : List CacheAction)
    (cache : BodyCache)
    (key : CacheKey)
    (tag : String)
    (encoded : Encoded)
    (after : BodyCache) : Prop where
  /-- The least recently used entries make room for the new one. -/
  stored :
    limits.entries ≠ 0 →
    encoded.length ≤ limits.bytes →
    ∃ gone left,
      (cache.bodies.pop key).items = gone ++ left ∧
        after.bodies.items = left ++ [(key, (tag, encoded))] ∧
        (∀ older ∈ gone, ∀ newer ∈ left,
          lastUse actions older.1 < lastUse actions newer.1) ∧
        ∀ earlier later,
          gone = earlier ++ later →
          later ≠ [] →
          ¬ Allowed limits (later ++ after.bodies.items)
  /-- A body that is not kept costs no other key its entry. -/
  refused :
    limits.entries = 0 ∨ limits.bytes < encoded.length →
    after.bodies.items = (cache.bodies.pop key).items

theorem Kept.insert
    (kept : cache.Kept limits actions)
    (key : CacheKey)
    (tag : String)
    (encoded : Encoded) :
    ∃ after,
      cache.insert limits key tag encoded = some after ∧
        after.Kept limits (actions ++ [.insert key tag encoded]) ∧
        Inserted limits actions cache key tag encoded after := by
  obtain ⟨after, inserted, isAfter⟩ :=
    kept.counted.insert limits key tag encoded
  refine ⟨after, inserted, ?_⟩
  by_cases stored : limits.entries ≠ 0 ∧ encoded.length ≤ limits.bytes
  · rw [if_pos stored] at isAfter
    obtain ⟨gone, appended, isAppended, evicted⟩ := isAfter
    have isLast :
        appended.bodies.items =
          (cache.bodies.pop key).items ++ [(key, (tag, encoded))] := by
      rw [isAppended]
      rfl
    obtain ⟨left, isPopped, isLeft⟩ :=
      evicted.spares isLast (allowed_single key stored)
    have ordered :
        ByUse actions (gone ++ left) := by
      rw [← isPopped]
      exact kept.byUse.sublist List.filter_sublist
    refine ⟨⟨evicted.counted, evicted.allowed, ?_⟩, ?_, ?_⟩
    · have refreshed :=
        kept.byUse_refresh (.insert key tag encoded) (tag, encoded)
      change ByUse _ (cache.bodies.refresh key (tag, encoded)).items
        at refreshed
      rw [← isAppended, evicted.items] at refreshed
      exact (List.pairwise_append.mp refreshed).2.1
    · intro _ _
      exact ⟨gone, left, isPopped, isLeft,
        (List.pairwise_append.mp ordered).2.2, evicted.required⟩
    · intro unstored
      omega
  · rw [if_neg stored] at isAfter
    refine ⟨⟨isAfter.1, ?_, ?_⟩, ?_, ?_⟩
    · rw [isAfter.2]
      exact kept.allowed_pop key
    · rw [isAfter.2]
      exact kept.byUse_pop (.insert key tag encoded)
    · intro entries fitting
      exact absurd ⟨entries, fitting⟩ stored
    · intro _
      rw [isAfter.2]

theorem Kept.step
    (kept : cache.Kept limits actions)
    (step : Step limits cache action after) :
    after.Kept limits (actions ++ [action]) := by
  cases action with
  | lookup key =>
      cases step
      exact kept.lookup key
  | insert key tag encoded =>
      obtain ⟨left, inserted, isKept, _⟩ := kept.insert key tag encoded
      cases inserted.symm.trans step
      exact isKept

theorem kept_of_run
    (run : Run (Step limits) empty actions cache) :
    cache.Kept limits actions :=
  run.history kept_empty fun holds step => holds.step step

/--
The count is the size of the retained bodies, both limits hold, and every
locked section ends: a lookup drops nothing, and an insertion drops the least
recently used entries that it has to, never its own.
-/
theorem body_cache_accounting
    (run : Run (Step limits) empty actions cache) :
    cache.bytes =
        (cache.bodies.items.map fun item => item.2.2.length).sum ∧
      cache.bodies.items.length ≤ limits.entries ∧
      cache.bytes ≤ limits.bytes ∧
      ByUse actions cache.bodies.items ∧
      (∀ key,
        (cache.lookup key).2.bodies.items.Perm cache.bodies.items) ∧
      ∀ key tag encoded,
        ∃ after,
          cache.insert limits key tag encoded = some after ∧
            Inserted limits actions cache key tag encoded after := by
  have kept : cache.Kept limits actions := kept_of_run run
  have counted : cache.bytes = _ := kept.counted
  refine ⟨counted, kept.allowed.1, ?_, kept.byUse, cache.perm_lookup, ?_⟩
  · rw [counted]
    exact Int.ofNat_le.mpr kept.allowed.2
  · intro key tag encoded
    obtain ⟨after, inserted, _, isAfter⟩ := kept.insert key tag encoded
    exact ⟨after, inserted, isAfter⟩

/-- Room for two entries. -/
def twoEntries : BrowseLimits where
  entries := 2
  bytes := 16

/-- The availability of an event, as the entry of the cache. -/
def threeBytes (eventId : Uuid) : CacheKey × (String × Encoded) :=
  ((eventId, .availability), ("tag", [34, 97, 34]))

/-- Two events of which the older one was looked up last. -/
def twoBodies : BodyCache where
  bodies := ⟨[threeBytes 2, threeBytes 1], by decide⟩
  bytes := 6

/-- The third event takes the place of the second, not of the first. -/
theorem body_cache_accounting_twoBodies :
    Run (Step twoEntries) empty
        [.insert (1, .availability) "tag" [34, 97, 34],
          .insert (2, .availability) "tag" [34, 97, 34],
          .lookup (1, .availability)] twoBodies ∧
      ∃ after,
        twoBodies.insert twoEntries (3, .availability) "tag" [34, 97, 34] =
            some after ∧
          after.bodies.items = [threeBytes 1, threeBytes 3] ∧
          after.bodies.items.length ≤ twoEntries.entries := by
  have run :
      Run (Step twoEntries) empty
        [.insert (1, .availability) "tag" [34, 97, 34],
          .insert (2, .availability) "tag" [34, 97, 34],
          .lookup (1, .availability)] twoBodies :=
    .cons rfl (.cons rfl (.cons rfl (.nil _)))
  obtain ⟨_, _, _, _, _, inserts⟩ := body_cache_accounting run
  obtain ⟨after, inserted, isAfter⟩ :=
    inserts (3, .availability) "tag" [34, 97, 34]
  have kept : after.bodies.items = [threeBytes 1, threeBytes 3] := by
    cases inserted
    rfl
  refine ⟨run, after, inserted, kept, ?_⟩
  rw [kept]
  exact Nat.le_refl 2

end BodyCache

/-! ## The cache of interleaved calls -/

section Calls

variable
  {texts : TagTexts}
  {encode : BrowseBody → Encoded}
  {limits : BrowseLimits}
  {bodyOf : Uuid × Representation → String → BrowseBody}
  {world after : EncodedWorld}

/-- The cache is what some sequence of locked sections leaves. -/
def EncodedWorld.Cached
    (limits : BrowseLimits)
    (world : EncodedWorld) : Prop :=
  ∃ actions, Run (BodyCache.Step limits) .empty actions world.cache

theorem EncodedWorld.Cached.step
    {action : EncodedAction}
    (cached : world.Cached limits)
    (step :
      EncodedWorld.Step texts encode limits bodyOf world action after) :
    after.Cached limits := by
  obtain ⟨actions, run⟩ := cached
  cases step with
  | @lookup slot request _ =>
      have locked :
          BodyCache.Step limits world.cache (.lookup request.key)
            (world.cache.lookup request.key).2 :=
        rfl
      exact ⟨_, run.append (.single locked)⟩
  | browse => exact ⟨actions, run⟩
  | @insert slot request map tag encoded cache _ inserted =>
      have locked :
          BodyCache.Step limits world.cache (.insert request.key tag encoded)
            cache :=
        inserted
      exact ⟨_, run.append (.single locked)⟩
  | @insertFails slot request map tag encoded cache _ failed =>
      obtain ⟨kept, inserted, _⟩ :=
        (BodyCache.kept_of_run run).insert request.key tag encoded
      cases failed.symm.trans inserted
  | change => exact ⟨actions, run⟩

/-- Interleaved calls reach the cache through locked sections only. -/
theorem EncodedWorld.cached_of_run
    {actions : List EncodedAction}
    (initial : world.Initial texts bodyOf)
    (run :
      Run (EncodedWorld.Step texts encode limits bodyOf) world actions
        after) :
    after.Cached limits := by
  have start : world.Cached limits := by
    refine ⟨[], ?_⟩
    rw [initial.cache]
    exact .nil _
  exact run.invariant start fun holds step => holds.step step

end Calls

end FlashTicketing
