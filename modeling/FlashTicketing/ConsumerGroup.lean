import Mathlib

namespace ConsumerGroup

/-!
# Consumer groups of a log

A log hands every entry to some consumer of a group.  The group remembers the
last entry it has handed out and which ones are pending: handed out, and not
acknowledged.  A pending entry whose last delivery is old enough can be claimed
by another consumer.  Entries are their identifiers, which only grow.

`Accounts` says where an entry can be: acknowledged, pending, or not handed out
yet.  Every operation keeps it, so that nothing is ever out of reach.
-/

/-- An entry that was handed out, and when that was last done. -/
structure Pending where
  id : Nat
  deliveredAt : Int
  deriving Repr, DecidableEq

structure Group where
  lastDelivered : Nat := 0
  /-- In the order of the identifiers. -/
  pending : List Pending := []
  deriving Repr, DecidableEq

/--
Look for old deliveries among the pending ones, at most so many of them and
until so many replies are found.  One that the log has dropped is forgotten.
-/
def scan
    (ids : List Nat)
    (minIdle now : Int) :
    Nat → Nat → List Pending → List Nat × List Pending
  | attempts + 1, count + 1, pending :: rest =>
      if pending.id ∉ ids then
        scan ids minIdle now attempts count rest
      else if now - pending.deliveredAt < minIdle then
        let found := scan ids minIdle now attempts (count + 1) rest
        (found.1, pending :: found.2)
      else
        let found := scan ids minIdle now attempts count rest
        (pending.id :: found.1, { pending with deliveredAt := now } :: found.2)
  | _, _, rest => ([], rest)

namespace Group

/-- Claim entries that have been pending for long, from the first one on. -/
def claim
    (ids : List Nat)
    (count : Nat)
    (minIdle now : Int)
    (group : Group) : List Nat × Group :=
  let found := scan ids minIdle now (count * 10) count group.pending
  (found.1, { group with pending := found.2 })

/-- The entries that come next. -/
def next
    (ids : List Nat)
    (count : Nat)
    (group : Group) : List Nat :=
  (ids.filter fun id => decide (group.lastDelivered < id)).take count

/-- Hand out entries for the first time. -/
def read
    (ids : List Nat)
    (count : Nat)
    (now : Int)
    (group : Group) : List Nat × Group :=
  (group.next ids count, {
    lastDelivered :=
      (group.next ids count).getLast?.getD group.lastDelivered
    pending :=
      group.pending ++ (group.next ids count).map fun id => ⟨id, now⟩ })

def acknowledge (id : Nat) (group : Group) : Group :=
  { group with
    pending := group.pending.filter fun pending => decide (pending.id ≠ id) }

end Group

/-! ## Where an entry can be -/

/-- The log, its last identifier, what was acknowledged, and the group. -/
structure Accounts
    (ids : List Nat)
    (lastId : Nat)
    (acknowledged : List Nat)
    (group : Group) : Prop where
  increasing : ids.Pairwise (· < ·)
  within : ∀ id ∈ ids, id ≤ lastId
  bounded : group.lastDelivered ≤ lastId
  listed : ∀ pending ∈ group.pending, pending.id ∈ ids
  unacknowledged : ∀ pending ∈ group.pending, pending.id ∉ acknowledged
  delivered : ∀ pending ∈ group.pending, pending.id ≤ group.lastDelivered
  acknowledgedBefore : ∀ id ∈ acknowledged, id ≤ group.lastDelivered
  accounted :
    ∀ id ∈ ids,
      id ≤ group.lastDelivered →
      id ∈ acknowledged ∨ id ∈ group.pending.map Pending.id
  nodup : (group.pending.map Pending.id).Nodup

section Scan

variable
  {ids : List Nat}
  {minIdle now : Int}

/-- A scan of entries that the log still has keeps all of them pending. -/
theorem scan_pending
    {attempts count : Nat}
    {pending : List Pending}
    (listed : ∀ entry ∈ pending, entry.id ∈ ids) :
    (scan ids minIdle now attempts count pending).2.map Pending.id =
      pending.map Pending.id := by
  induction pending generalizing attempts count with
  | nil => cases attempts <;> cases count <;> rfl
  | cons entry rest inductionHypothesis =>
      have restListed : ∀ other ∈ rest, other.id ∈ ids :=
        fun other member => listed other (List.mem_cons_of_mem _ member)
      have isListed : ¬ entry.id ∉ ids :=
        not_not.mpr (listed entry List.mem_cons_self)
      cases attempts with
      | zero => cases count <;> rfl
      | succ attempts =>
          cases count with
          | zero => rfl
          | succ count =>
              rw [scan, if_neg isListed]
              split
              · simp only [List.map_cons, inductionHypothesis restListed]
              · simp only [List.map_cons, inductionHypothesis restListed]

/-- What a scan returns was pending, and for long. -/
theorem scan_claimed
    {attempts count : Nat}
    {pending : List Pending}
    {id : Nat}
    (member : id ∈ (scan ids minIdle now attempts count pending).1) :
    ∃ entry ∈ pending,
      entry.id = id ∧ id ∈ ids ∧ minIdle ≤ now - entry.deliveredAt := by
  induction pending generalizing attempts count with
  | nil => cases attempts <;> cases count <;> cases member
  | cons entry rest inductionHypothesis =>
      cases attempts with
      | zero => cases count <;> cases member
      | succ attempts =>
          cases count with
          | zero => cases member
          | succ count =>
              rw [scan] at member
              split at member
              · obtain ⟨other, isOther, facts⟩ := inductionHypothesis member
                exact ⟨other, List.mem_cons_of_mem _ isOther, facts⟩
              · rename_i isListed
                split at member
                · obtain ⟨other, isOther, facts⟩ :=
                    inductionHypothesis member
                  exact ⟨other, List.mem_cons_of_mem _ isOther, facts⟩
                · rename_i isIdle
                  rcases List.mem_cons.mp member with isEntry | later
                  · subst isEntry
                    exact ⟨entry, List.mem_cons_self, rfl,
                      not_not.mp isListed, not_lt.mp isIdle⟩
                  · obtain ⟨other, isOther, facts⟩ :=
                      inductionHypothesis later
                    exact ⟨other, List.mem_cons_of_mem _ isOther, facts⟩

/-- A delivery that a scan leaves alone is as old as before. -/
theorem scan_kept
    {attempts count : Nat}
    {pending : List Pending}
    {entry : Pending}
    (member : entry ∈ (scan ids minIdle now attempts count pending).2) :
    entry ∈ pending ∨
      entry.deliveredAt = now ∧
        entry.id ∈ (scan ids minIdle now attempts count pending).1 := by
  induction pending generalizing attempts count with
  | nil => cases attempts <;> cases count <;> cases member
  | cons first rest inductionHypothesis =>
      cases attempts with
      | zero => cases count <;> exact Or.inl member
      | succ attempts =>
          cases count with
          | zero => exact Or.inl member
          | succ count =>
              rw [scan] at member ⊢
              split at member
              · rename_i dropped
                rw [if_pos dropped]
                exact (inductionHypothesis member).imp
                  (List.mem_cons_of_mem _) id
              · rename_i isListed
                rw [if_neg isListed]
                split at member
                · rename_i young
                  rw [if_pos young]
                  rcases List.mem_cons.mp member with isFirst | later
                  · exact Or.inl (isFirst ▸ List.mem_cons_self)
                  · exact (inductionHypothesis later).imp
                      (List.mem_cons_of_mem _) id
                · rename_i old
                  rw [if_neg old]
                  rcases List.mem_cons.mp member with isFirst | later
                  · rw [isFirst]
                    exact Or.inr ⟨rfl, List.mem_cons_self⟩
                  · exact (inductionHypothesis later).imp
                      (List.mem_cons_of_mem _)
                      (And.imp_right (List.mem_cons_of_mem _))

/-- Where every delivery is old, a scan finds something unless all is done. -/
theorem scan_ne_nil
    {attempts count : Nat}
    {pending : List Pending}
    (listed : ∀ entry ∈ pending, entry.id ∈ ids)
    (idle : ∀ entry ∈ pending, minIdle ≤ now - entry.deliveredAt)
    (nonempty : pending ≠ []) :
    (scan ids minIdle now (attempts + 1) (count + 1) pending).1 ≠ [] := by
  cases pending with
  | nil => exact absurd rfl nonempty
  | cons entry rest =>
      rw [scan, if_neg (not_not.mpr (listed entry List.mem_cons_self)),
        if_neg (not_lt.mpr (idle entry List.mem_cons_self))]
      exact List.cons_ne_nil _ _

end Scan

namespace Accounts

variable
  {ids acknowledged : List Nat}
  {lastId : Nat}
  {group : Group}

/-- Nobody has been handed an entry of an empty log. -/
theorem empty : Accounts [] 0 [] {} :=
  ⟨.nil, by simp, Nat.le_refl 0, by simp, by simp, by simp, by simp, by simp,
    List.nodup_nil⟩

/-- What is not acknowledged is pending or was not handed out. -/
theorem outstanding_iff
    {id : Nat}
    (accounts : Accounts ids lastId acknowledged group) :
    id ∈ ids ∧ id ∉ acknowledged ↔
      id ∈ group.pending.map Pending.id ∨
        id ∈ ids ∧ group.lastDelivered < id := by
  constructor
  · intro outstanding
    by_cases new : group.lastDelivered < id
    · exact Or.inr ⟨outstanding.1, new⟩
    · have accounted :=
        accounts.accounted id outstanding.1 (Nat.not_lt.mp new)
      exact Or.inl (accounted.resolve_left outstanding.2)
  · intro waiting
    rcases waiting with pending | ⟨listed, new⟩
    · obtain ⟨entry, isEntry, isId⟩ := List.mem_map.mp pending
      subst isId
      exact ⟨accounts.listed entry isEntry,
        accounts.unacknowledged entry isEntry⟩
    · refine ⟨listed, fun isAcknowledged => ?_⟩
      exact absurd new
        (Nat.not_lt.mpr (accounts.acknowledgedBefore id isAcknowledged))

/-- An entry is appended. -/
theorem append
    (accounts : Accounts ids lastId acknowledged group) :
    Accounts (ids ++ [lastId + 1]) (lastId + 1) acknowledged group where
  increasing := by
    rw [List.pairwise_append]
    refine ⟨accounts.increasing, List.pairwise_singleton _ _, ?_⟩
    intro id member other isLast
    rw [List.mem_singleton.mp isLast]
    exact Nat.lt_succ_of_le (accounts.within id member)
  within := by
    intro id member
    rcases List.mem_append.mp member with old | new
    · exact Nat.le_succ_of_le (accounts.within id old)
    · rw [List.mem_singleton.mp new]
  bounded := Nat.le_succ_of_le accounts.bounded
  listed := fun pending member =>
    List.mem_append_left _ (accounts.listed pending member)
  unacknowledged := accounts.unacknowledged
  delivered := accounts.delivered
  acknowledgedBefore := accounts.acknowledgedBefore
  accounted := by
    intro id member before
    rcases List.mem_append.mp member with old | new
    · exact accounts.accounted id old before
    · have isLast := List.mem_singleton.mp new
      have bounded := accounts.bounded
      omega
  nodup := accounts.nodup

/-- Pending entries change at most the time of their last delivery. -/
theorem samePending
    {pending : List Pending}
    (accounts : Accounts ids lastId acknowledged group)
    (same : pending.map Pending.id = group.pending.map Pending.id) :
    Accounts ids lastId acknowledged { group with pending := pending } := by
  have earlier {entry : Pending} (member : entry ∈ pending) :
      ∃ old ∈ group.pending, old.id = entry.id := by
    have isId : entry.id ∈ pending.map Pending.id :=
      List.mem_map_of_mem member
    rw [same] at isId
    exact List.mem_map.mp isId
  refine ⟨accounts.increasing, accounts.within, accounts.bounded, ?_, ?_, ?_,
    accounts.acknowledgedBefore, ?_, ?_⟩
  · intro entry member
    obtain ⟨old, isOld, sameId⟩ := earlier member
    exact sameId ▸ accounts.listed old isOld
  · intro entry member
    obtain ⟨old, isOld, sameId⟩ := earlier member
    exact sameId ▸ accounts.unacknowledged old isOld
  · intro entry member
    obtain ⟨old, isOld, sameId⟩ := earlier member
    exact sameId ▸ accounts.delivered old isOld
  · intro id member before
    simp only [same]
    exact accounts.accounted id member before
  · simp only [same]
    exact accounts.nodup

theorem claim
    (accounts : Accounts ids lastId acknowledged group)
    (count : Nat)
    (minIdle now : Int) :
    Accounts ids lastId acknowledged
      (group.claim ids count minIdle now).2 :=
  accounts.samePending (scan_pending accounts.listed)

/-- What is claimed was pending. -/
theorem mem_claim
    {count id : Nat}
    {minIdle now : Int}
    (accounts : Accounts ids lastId acknowledged group)
    (member : id ∈ (group.claim ids count minIdle now).1) :
    id ∈ ids ∧ id ∉ acknowledged ∧ id ≤ group.lastDelivered := by
  obtain ⟨entry, isEntry, isId, listed, _⟩ := scan_claimed member
  subst isId
  exact ⟨listed, accounts.unacknowledged entry isEntry,
    accounts.delivered entry isEntry⟩

theorem mem_next
    {count id : Nat}
    (member : id ∈ group.next ids count) :
    id ∈ ids ∧ group.lastDelivered < id := by
  have isNew := List.mem_of_mem_take member
  simpa using List.mem_filter.mp isNew

/-- The last entry of what comes next is not before any other one. -/
theorem le_lastDelivered
    {count id : Nat}
    {now : Int}
    (accounts : Accounts ids lastId acknowledged group)
    (member : id ∈ group.next ids count) :
    id ≤ (group.read ids count now).2.lastDelivered := by
  have increasing : (group.next ids count).Pairwise (· < ·) :=
    (accounts.increasing.filter _).sublist (List.take_sublist _ _)
  obtain ⟨front, last, isNext⟩ :=
    List.eq_nil_or_concat (group.next ids count) |>.resolve_left
      (List.ne_nil_of_mem member)
  simp only [Group.read]
  rw [isNext] at member increasing ⊢
  rw [List.concat_eq_append] at member increasing ⊢
  rw [List.getLast?_append, List.getLast?_singleton]
  rw [List.pairwise_append] at increasing
  rcases List.mem_append.mp member with before | isLast
  · exact Nat.le_of_lt (increasing.2.2 id before last (by simp))
  · rw [List.mem_singleton.mp isLast]
    rfl

/-- Entries are handed out without a gap. -/
theorem mem_next_of_le
    {count id : Nat}
    {now : Int}
    (accounts : Accounts ids lastId acknowledged group)
    (member : id ∈ ids)
    (new : group.lastDelivered < id)
    (before : id ≤ (group.read ids count now).2.lastDelivered) :
    id ∈ group.next ids count := by
  have isNew : id ∈ ids.filter fun id => decide (group.lastDelivered < id) :=
    List.mem_filter.mpr ⟨member, by simpa using new⟩
  rw [← List.take_append_drop count
    (ids.filter fun id => decide (group.lastDelivered < id))] at isNew
  rcases List.mem_append.mp isNew with taken | later
  · exact taken
  -- Otherwise all that is handed out stands before the entry.
  have increasing := accounts.increasing.filter
    fun id => decide (group.lastDelivered < id)
  rw [← List.take_append_drop count
    (ids.filter fun id => decide (group.lastDelivered < id)),
    List.pairwise_append] at increasing
  have isLast :
      (group.read ids count now).2.lastDelivered =
        (group.next ids count).getLast?.getD group.lastDelivered := rfl
  cases last : (group.next ids count).getLast? with
  | none =>
      rw [isLast, last, Option.getD_none] at before
      exact absurd new (Nat.not_lt.mpr before)
  | some final =>
      rw [isLast, last, Option.getD_some] at before
      have isFinal : final ∈ group.next ids count :=
        List.mem_of_getLast? last
      exact absurd (increasing.2.2 final isFinal id later)
        (Nat.not_lt.mpr before)

theorem lastDelivered_le_read
    (accounts : Accounts ids lastId acknowledged group)
    (count : Nat)
    (now : Int) :
    group.lastDelivered ≤ (group.read ids count now).2.lastDelivered ∧
      (group.read ids count now).2.lastDelivered ≤ lastId := by
  have isLast :
      (group.read ids count now).2.lastDelivered =
        (group.next ids count).getLast?.getD group.lastDelivered := rfl
  cases last : (group.next ids count).getLast? with
  | none =>
      rw [isLast, last, Option.getD_none]
      exact ⟨Nat.le_refl _, accounts.bounded⟩
  | some final =>
      rw [isLast, last, Option.getD_some]
      obtain ⟨listed, new⟩ := mem_next (List.mem_of_getLast? last)
      exact ⟨Nat.le_of_lt new, accounts.within final listed⟩

theorem read
    (accounts : Accounts ids lastId acknowledged group)
    (count : Nat)
    (now : Int) :
    Accounts ids lastId acknowledged (group.read ids count now).2 := by
  obtain ⟨grows, bounded⟩ := accounts.lastDelivered_le_read count now
  have cases_ {entry : Pending}
      (member : entry ∈ (group.read ids count now).2.pending) :
      entry ∈ group.pending ∨ entry.id ∈ group.next ids count := by
    rcases List.mem_append.mp member with old | new
    · exact Or.inl old
    · obtain ⟨id, isNext, isEntry⟩ := List.mem_map.mp new
      exact Or.inr (isEntry ▸ isNext)
  have pendingIds :
      (group.read ids count now).2.pending.map Pending.id =
        group.pending.map Pending.id ++ group.next ids count := by
    simp [Group.read, Function.comp_def]
  refine ⟨accounts.increasing, accounts.within, bounded, ?_, ?_, ?_, ?_, ?_,
    ?_⟩
  · intro entry member
    rcases cases_ member with old | new
    · exact accounts.listed entry old
    · exact (mem_next new).1
  · intro entry member isAcknowledged
    rcases cases_ member with old | new
    · exact accounts.unacknowledged entry old isAcknowledged
    · exact absurd (mem_next new).2
        (Nat.not_lt.mpr (accounts.acknowledgedBefore _ isAcknowledged))
  · intro entry member
    rcases cases_ member with old | new
    · exact Nat.le_trans (accounts.delivered entry old) grows
    · exact accounts.le_lastDelivered new
  · intro id isAcknowledged
    exact Nat.le_trans (accounts.acknowledgedBefore id isAcknowledged) grows
  · intro id member before
    rw [pendingIds]
    by_cases new : group.lastDelivered < id
    · exact Or.inr (List.mem_append_right _
        (accounts.mem_next_of_le member new before))
    · exact (accounts.accounted id member (Nat.not_lt.mp new)).imp_right
        (List.mem_append_left _)
  · rw [pendingIds, List.nodup_append]
    refine ⟨accounts.nodup, ?_, ?_⟩
    · exact ((accounts.increasing.imp Nat.ne_of_lt).filter _).sublist
        (List.take_sublist _ _)
    · intro id isPending other isNext same
      obtain ⟨entry, isEntry, isId⟩ := List.mem_map.mp isPending
      have before := accounts.delivered entry isEntry
      have after := (mem_next isNext).2
      omega

theorem acknowledge
    {id : Nat}
    (accounts : Accounts ids lastId acknowledged group)
    (before : id ≤ group.lastDelivered) :
    Accounts ids lastId (id :: acknowledged) (group.acknowledge id) := by
  have earlier {entry : Pending}
      (member : entry ∈ (group.acknowledge id).pending) :
      entry ∈ group.pending ∧ entry.id ≠ id := by
    simpa [Group.acknowledge] using member
  refine ⟨accounts.increasing, accounts.within, accounts.bounded, ?_, ?_, ?_,
    ?_, ?_, ?_⟩
  · intro entry member
    exact accounts.listed entry (earlier member).1
  · intro entry member isAcknowledged
    rcases List.mem_cons.mp isAcknowledged with isId | old
    · exact (earlier member).2 isId
    · exact accounts.unacknowledged entry (earlier member).1 old
  · intro entry member
    exact accounts.delivered entry (earlier member).1
  · intro other isAcknowledged
    rcases List.mem_cons.mp isAcknowledged with isId | old
    · exact isId ▸ before
    · exact accounts.acknowledgedBefore other old
  · intro other member otherBefore
    by_cases same : other = id
    · exact Or.inl (List.mem_cons.mpr (Or.inl same))
    · rcases accounts.accounted other member otherBefore with old | pending
      · exact Or.inl (List.mem_cons_of_mem _ old)
      · obtain ⟨entry, isEntry, isOther⟩ := List.mem_map.mp pending
        refine Or.inr (List.mem_map.mpr ⟨entry, ?_, isOther⟩)
        simpa [Group.acknowledge, isEntry, isOther] using same
  · exact accounts.nodup.sublist ((List.filter_sublist).map _)

/-- An entry that was acknowledged is dropped from the log. -/
theorem delete
    {id : Nat}
    (accounts : Accounts ids lastId acknowledged group)
    (isAcknowledged : id ∈ acknowledged) :
    Accounts (ids.filter fun other => decide (other ≠ id)) lastId
      acknowledged group := by
  refine ⟨accounts.increasing.filter _, ?_, accounts.bounded, ?_,
    accounts.unacknowledged, accounts.delivered, accounts.acknowledgedBefore,
    ?_, accounts.nodup⟩
  · intro other member
    exact accounts.within other (List.mem_filter.mp member).1
  · intro entry member
    refine List.mem_filter.mpr ⟨accounts.listed entry member, ?_⟩
    have other : entry.id ≠ id := by
      intro same
      exact accounts.unacknowledged entry member (same ▸ isAcknowledged)
    simpa using other
  · intro other member
    exact accounts.accounted other (List.mem_filter.mp member).1

end Accounts

end ConsumerGroup
