import FlashTicketing.PostgresSchema
import FlashTicketing.Transition

namespace FlashTicketing

open Relational Transition

/-!
# The reconciliation schedule

`event_reconciliation` tells the maintenance workers which event to publish
next.  A worker claims a batch of due rows under a token of its own, takes a
snapshot of each event outside any transaction, and then completes or defers
the row, if the row still carries its token.

Every transaction is one step with one clock reading; `maintain_schedule`, whose
statements are far apart, has one for each of its two.  The inventory is what
the statement sees, and the rows that `SKIP LOCKED` passes over are arbitrary.
-/

/-! ## Rows -/

/-- One row of `event_reconciliation`. -/
structure ScheduleRow where
  eventId : Uuid
  nextDueAt : Int
  lastReconciledAt : Option Int := none
  consecutiveFailures : Nat := 0
  leaseUntil : Option Int := none
  leaseToken : Option Uuid := none
  claimedAt : Option Int := none
  deriving Repr, DecidableEq

instance : Keyed ScheduleRow Uuid := ⟨ScheduleRow.eventId⟩

/-- The settings of the reconciler. -/
structure ReconcileSettings where
  windowSeconds : Nat := 300
  batchSize : Nat := 8
  leaseSeconds : Nat := 30
  intervalSeconds : Nat := 20
  backoffMs : Nat := 1000
  seedBatch : Nat := 200

/-- `BACKOFF_SHIFT_CAP`. -/
def backoffShiftCap : Nat := 5

/-- Microseconds in one millisecond. -/
def millisecond : Int := 1000

/-- `ACTIVE_WINDOW`. -/
def ReconcileSettings.active
    (settings : ReconcileSettings)
    (event : Event)
    (now : Int) : Bool :=
  decide (event.saleStarts ≤ addSeconds now settings.windowSeconds ∧
    now - settings.windowSeconds * second < event.saleEnds)

namespace ScheduleRow

/-- `lease_until IS NULL OR lease_until < clock_timestamp()`. -/
def unleased (row : ScheduleRow) (now : Int) : Bool :=
  match row.leaseUntil with
  | none => true
  | some deadline => decide (deadline < now)

/-- `ORDER BY next_due_at, event_id`. -/
def dueBefore (first second : ScheduleRow) : Prop :=
  first.nextDueAt < second.nextDueAt ∨
    (first.nextDueAt = second.nextDueAt ∧ first.eventId ≤ second.eventId)

instance : DecidableRel dueBefore :=
  fun first second =>
    inferInstanceAs (Decidable
      (first.nextDueAt < second.nextDueAt ∨
        (first.nextDueAt = second.nextDueAt ∧
          first.eventId ≤ second.eventId)))

/-- The row that is seeded for an event. -/
def seeded (eventId : Uuid) (now : Int) : ScheduleRow where
  eventId := eventId
  nextDueAt := now

/-- The `SET` clause of `claim_due_events`. -/
def claim
    (row : ScheduleRow)
    (settings : ReconcileSettings)
    (token : Uuid)
    (now : Int) : ScheduleRow :=
  { row with
    leaseToken := some token
    leaseUntil := some (addSeconds now settings.leaseSeconds)
    claimedAt := some now }

/-- The `SET` clause of `complete_reconciliation`. -/
def complete
    (row : ScheduleRow)
    (settings : ReconcileSettings)
    (now : Int) : ScheduleRow :=
  { row with
    lastReconciledAt := some now
    nextDueAt := addSeconds now settings.intervalSeconds
    consecutiveFailures := 0
    leaseUntil := none
    leaseToken := none }

/-- The `SET` clause of `defer_reconciliation`. -/
def defer
    (row : ScheduleRow)
    (settings : ReconcileSettings)
    (now : Int) : ScheduleRow :=
  { row with
    consecutiveFailures := row.consecutiveFailures + 1
    nextDueAt :=
      now + (min
        (settings.backoffMs *
          2 ^ min row.consecutiveFailures backoffShiftCap)
        (settings.backoffMs * 2 ^ backoffShiftCap) : Nat) * millisecond
    leaseUntil := none
    leaseToken := none }

/-- The `SET` clause of the release at the deadline. -/
def release (row : ScheduleRow) : ScheduleRow :=
  { row with
    leaseUntil := none
    leaseToken := none }

variable
  (settings : ReconcileSettings)
  (token : Uuid)
  (now : Int)
  (row : ScheduleRow)

theorem key_claim :
    Keyed.key (row.claim settings token now) = Keyed.key row :=
  rfl

theorem key_complete :
    Keyed.key (row.complete settings now) = Keyed.key row :=
  rfl

theorem key_defer :
    Keyed.key (row.defer settings now) = Keyed.key row :=
  rfl

theorem key_release :
    Keyed.key row.release = Keyed.key row :=
  rfl

end ScheduleRow

/-! ## Statements -/

abbrev Schedule := Table ScheduleRow

namespace Schedule

/-- The events that `maintain_schedule` seeds. -/
def seedIds
    (schedule : Schedule)
    (settings : ReconcileSettings)
    (events : Table Event)
    (now : Int) : List Uuid :=
  (((events.select fun event =>
      settings.active event now &&
        (schedule.find? event.id).isNone).insertionSort
    fun first second => first.saleStarts ≤ second.saleStarts).map
      Event.id).take settings.seedBatch

/-- `INSERT ... ON CONFLICT DO NOTHING`. -/
def seed
    (schedule : Schedule)
    (ids : List Uuid)
    (now : Int) : Schedule :=
  ids.foldl
    (fun schedule id =>
      (schedule.insert? (ScheduleRow.seeded id now)).getD schedule)
    schedule

/-- The rows that `maintain_schedule` selects for deletion. -/
def pruneIds
    (schedule : Schedule)
    (settings : ReconcileSettings)
    (events : Table Event)
    (skipped : List Uuid)
    (now : Int) : List Uuid :=
  (((schedule.select fun row =>
      (events.find? row.eventId).any
          (fun event => !settings.active event now) &&
        row.unleased now && decide (row.eventId ∉ skipped)).map
    ScheduleRow.eventId).insertionSort (· ≤ ·)).take settings.seedBatch

/-- `DELETE ... WHERE event_id = ANY(...) AND ...`. -/
def prune
    (schedule : Schedule)
    (ids : List Uuid)
    (now : Int) : Schedule :=
  schedule.remove fun row =>
    decide (row.eventId ∈ ids) && row.unleased now

/-- The two statements of `maintain_schedule`. -/
def maintain
    (schedule : Schedule)
    (settings : ReconcileSettings)
    (seedEvents : Table Event)
    (seedAt : Int)
    (pruneEvents : Table Event)
    (skipped : List Uuid)
    (pruneAt : Int) : Schedule :=
  let seeded :=
    schedule.seed (schedule.seedIds settings seedEvents seedAt) seedAt
  seeded.prune (seeded.pruneIds settings pruneEvents skipped pruneAt) pruneAt

/-- The rows that `claim_due_events` returns. -/
def dueIds
    (schedule : Schedule)
    (settings : ReconcileSettings)
    (events : Table Event)
    (skipped : List Uuid)
    (now : Int) : List Uuid :=
  (((schedule.select fun row =>
      decide (row.nextDueAt ≤ now) && row.unleased now &&
        (events.find? row.eventId).any
          (fun event => settings.active event now) &&
        decide (row.eventId ∉ skipped)).insertionSort
    ScheduleRow.dueBefore).map ScheduleRow.eventId).take settings.batchSize

/-- The `UPDATE` of `claim_due_events`. -/
def claim
    (schedule : Schedule)
    (settings : ReconcileSettings)
    (ids : List Uuid)
    (token : Uuid)
    (now : Int) : Schedule :=
  schedule.modify (fun row => decide (row.eventId ∈ ids))
    (·.claim settings token now)
    (ScheduleRow.key_claim settings token now)

/-- `WHERE event_id=... AND lease_token=...`. -/
def leasedTo (event token : Uuid) (row : ScheduleRow) : Bool :=
  decide (row.eventId = event ∧ row.leaseToken = some token)

/-- `complete_reconciliation(db, settings, event_id, token)`. -/
def completeReconciliation
    (schedule : Schedule)
    (settings : ReconcileSettings)
    (event token : Uuid)
    (now : Int) : Bool × Schedule :=
  (decide ((schedule.select (leasedTo event token)).length = 1),
    schedule.modify (leasedTo event token) (·.complete settings now)
      (ScheduleRow.key_complete settings now))

/-- `defer_reconciliation(db, settings, event_id, token)`. -/
def deferReconciliation
    (schedule : Schedule)
    (settings : ReconcileSettings)
    (event token : Uuid)
    (now : Int) : Schedule :=
  schedule.modify (leasedTo event token) (·.defer settings now)
    (ScheduleRow.key_defer settings now)

/-- The release of the rest of a batch at the deadline. -/
def releaseRemaining
    (schedule : Schedule)
    (events : List Uuid)
    (token : Uuid) : Schedule :=
  schedule.modify
    (fun row =>
      decide (row.eventId ∈ events ∧ row.leaseToken = some token))
    ScheduleRow.release ScheduleRow.key_release

/-- The row of the event carries the token. -/
def Carries
    (schedule : Schedule)
    (event token : Uuid) : Prop :=
  ∃ row, schedule.find? event = some row ∧ row.leaseToken = some token

instance
    (schedule : Schedule)
    (event token : Uuid) :
    Decidable (schedule.Carries event token) :=
  decidable_of_iff
    ((schedule.find? event).any
      (fun row => decide (row.leaseToken = some token)) = true) <| by
    simp [Carries, Option.any_eq_true]

/-- A `WHERE` clause on event and token finds the row that carries it. -/
theorem rowcount_eq_one_iff
    {schedule : Schedule}
    {event token : Uuid} :
    (schedule.select (leasedTo event token)).length = 1 ↔
      schedule.Carries event token := by
  constructor
  · intro one
    obtain ⟨row, isRow⟩ := List.length_eq_one_iff.mp one
    have member : row ∈ schedule.select (leasedTo event token) := by
      rw [isRow]
      exact List.mem_singleton_self row
    obtain ⟨stored, selected⟩ := Table.mem_select.mp member
    obtain ⟨isEvent, isToken⟩ := of_decide_eq_true selected
    refine ⟨row, ?_, isToken⟩
    rw [← isEvent]
    exact Table.find?_key stored
  · rintro ⟨row, found, isToken⟩
    have isEvent : row.eventId = event := Table.key_of_find? found
    have member : row ∈ schedule.select (leasedTo event token) :=
      Table.mem_select.mpr
        ⟨Table.mem_of_find? found, decide_eq_true ⟨isEvent, isToken⟩⟩
    have alone :
        ∀ other ∈ schedule.select (leasedTo event token), other = row := by
      intro other selected
      obtain ⟨stored, isLeased⟩ := Table.mem_select.mp selected
      apply Table.eq_of_key_eq stored (Table.mem_of_find? found)
      exact (of_decide_eq_true isLeased).1.trans isEvent.symm
    have distinct : (schedule.select (leasedTo event token)).Nodup :=
      (Table.select_keysNodup _ _).of_map _
    rw [List.length_eq_one_iff]
    refine ⟨row, ?_⟩
    exact (List.perm_singleton.mp
      ((List.perm_ext_iff_of_nodup distinct
        (List.nodup_singleton row)).mpr fun other => by
          rw [List.mem_singleton]
          exact ⟨alone other, fun same => same ▸ member⟩))

/-! ### Lookups -/

variable
  {schedule : Schedule}
  {settings : ReconcileSettings}
  {now : Int}

/-- Seeding adds rows for its events and rewrites none. -/
theorem find?_seed
    (schedule : Schedule)
    (ids : List Uuid)
    (now : Int)
    (event : Uuid) :
    (schedule.seed ids now).find? event =
      if event ∈ ids ∧ schedule.find? event = none then
        some (ScheduleRow.seeded event now)
      else
        schedule.find? event := by
  induction ids generalizing schedule with
  | nil => simp [seed]
  | cons id rest inductionHypothesis =>
      change (Schedule.seed _ rest now).find? event = _
      rw [inductionHypothesis, Table.find?_insert?_getD]
      have isKey : Keyed.key (ScheduleRow.seeded id now) = id := rfl
      rw [isKey]
      by_cases here : event = id ∧ schedule.find? event = none
      · obtain ⟨rfl, absent⟩ := here
        simp [absent]
      · rw [if_neg here]
        by_cases later : event ∈ rest ∧ schedule.find? event = none
        · rw [if_pos later, if_pos ⟨List.mem_cons_of_mem id later.1, later.2⟩]
        · rw [if_neg later, if_neg]
          rintro ⟨member, absent⟩
          rcases List.mem_cons.mp member with rfl | isLater
          · exact here ⟨rfl, absent⟩
          · exact later ⟨isLater, absent⟩

/-- Only events without a row are seeded. -/
theorem absent_of_mem_seedIds
    {events : Table Event}
    {event : Uuid}
    (member : event ∈ schedule.seedIds settings events now) :
    schedule.find? event = none := by
  obtain ⟨row, isRow, rfl⟩ := List.mem_map.mp (List.mem_of_mem_take member)
  obtain ⟨_, selected⟩ :=
    Table.mem_select.mp ((List.mem_insertionSort _).mp isRow)
  rw [Bool.and_eq_true] at selected
  exact Option.isNone_iff_eq_none.mp selected.2

/-- Pruning deletes rows without a live lease, and changes none. -/
theorem find?_prune_cases
    (ids : List Uuid)
    (event : Uuid) :
    (schedule.prune ids now).find? event = schedule.find? event ∨
      ∃ row,
        schedule.find? event = some row ∧
          row.unleased now = true ∧
          (schedule.prune ids now).find? event = none := by
  rw [prune, Table.find?_remove]
  cases found : schedule.find? event with
  | none => exact Or.inl rfl
  | some row =>
      rw [Option.filter_some]
      cases dropped : decide (row.eventId ∈ ids) && row.unleased now with
      | false => exact Or.inl rfl
      | true =>
          rw [Bool.and_eq_true] at dropped
          exact Or.inr ⟨row, rfl, dropped.2, rfl⟩

/-- A claim gives its token to the rows that it returns. -/
theorem find?_claim
    (ids : List Uuid)
    (token event : Uuid) :
    (schedule.claim settings ids token now).find? event =
      (schedule.find? event).map fun row =>
        if event ∈ ids then row.claim settings token now else row := by
  rw [claim, Table.find?_modify]
  cases found : schedule.find? event with
  | none => rfl
  | some row =>
      have isEvent : row.eventId = event := Table.key_of_find? found
      simp [isEvent]

theorem dueIds_nodup
    (schedule : Schedule)
    (settings : ReconcileSettings)
    (events : Table Event)
    (skipped : List Uuid)
    (now : Int) :
    (schedule.dueIds settings events skipped now).Nodup := by
  apply List.Nodup.sublist (List.take_sublist _ _)
  exact ((List.perm_insertionSort _ _).map ScheduleRow.eventId).nodup_iff.mpr
    (schedule.select_keysNodup _)

/-- An update on event and token changes the row that carries the token. -/
theorem find?_leasedTo
    (update : ScheduleRow → ScheduleRow)
    (keepsKey : ∀ row, Keyed.key (update row) = Keyed.key row)
    (event token other : Uuid) :
    (schedule.modify (leasedTo event token) update keepsKey).find? other =
      if other = event ∧ schedule.Carries event token then
        (schedule.find? other).map update
      else
        schedule.find? other := by
  rw [Table.find?_modify]
  split
  · rename_i both
    obtain ⟨rfl, row, found, isToken⟩ := both
    have isEvent : row.eventId = other := Table.key_of_find? found
    simp [found, leasedTo, isEvent, isToken]
  · rename_i neither
    cases found : schedule.find? other with
    | none => rfl
    | some row =>
        have isEvent : row.eventId = other := Table.key_of_find? found
        rw [Option.map_some, if_neg]
        intro leased
        obtain ⟨sameEvent, isToken⟩ := of_decide_eq_true leased
        have sameId : other = event := isEvent.symm.trans sameEvent
        exact neither ⟨sameId, row, sameId ▸ found, isToken⟩

/-- The release changes the rows of the batch that still carry its token. -/
theorem find?_releaseRemaining
    (events : List Uuid)
    (token other : Uuid) :
    (schedule.releaseRemaining events token).find? other =
      if other ∈ events ∧ schedule.Carries other token then
        (schedule.find? other).map ScheduleRow.release
      else
        schedule.find? other := by
  rw [releaseRemaining, Table.find?_modify]
  split
  · rename_i both
    obtain ⟨listed, row, found, isToken⟩ := both
    have isEvent : row.eventId = other := Table.key_of_find? found
    simp [found, isEvent, isToken, listed]
  · rename_i neither
    cases found : schedule.find? other with
    | none => rfl
    | some row =>
        have isEvent : row.eventId = other := Table.key_of_find? found
        rw [Option.map_some, if_neg]
        intro leased
        obtain ⟨listed, isToken⟩ := of_decide_eq_true leased
        rw [isEvent] at listed
        exact neither ⟨listed, row, found, isToken⟩

end Schedule

/-! ## Reconcilers -/

/-- Where `reconcile_batch` stands in its loop. -/
inductive BatchStage where
  | looping
  | snapshotting (event : Uuid)
  | acknowledging (event : Uuid)
  | deferring (event : Uuid)
  | returned
  deriving Repr, DecidableEq

/--
One call of `reconcile_batch` after its claim.  The lists record what it has
done: the events whose snapshot it started, those whose snapshot succeeded, and
those it released at the deadline.  `quiet` says that no database exception was
caught.
-/
structure Batch where
  token : Uuid
  claimed : List Uuid
  remaining : List Uuid
  attempted : List Uuid := []
  succeeded : List Uuid := []
  released : List Uuid := []
  stage : BatchStage := .looping
  quiet : Bool := true

/-- How a transaction ends: an exception may come before or after the commit. -/
inductive TransactionEnd where
  | returned
  | raised
  | lost
  deriving Repr, DecidableEq

def TransactionEnd.commits : TransactionEnd → Bool
  | .returned | .lost => true
  | .raised => false

/-- The schedule, the batches under way and the tokens that were drawn. -/
structure ReconcileWorld where
  schedule : Schedule := .empty
  batches : Nat → Option Batch := fun _ => none
  tokens : List Uuid := []
  clock : Int

namespace ReconcileWorld

def setBatch
    (world : ReconcileWorld)
    (slot : Nat)
    (batch : Option Batch) : ReconcileWorld :=
  { world with batches := Function.update world.batches slot batch }

end ReconcileWorld

/--
What a step did.  `accepted` tells whether the statement found its row, and
`seeded` lists the new rows.
-/
inductive ReconcileAction where
  | maintain (seeded : List Uuid)
  | claim (slot : Nat) (token : Uuid)
  | loseClaim (token : Uuid)
  | start (slot : Nat) (event : Uuid)
  | succeed (slot : Nat) (event : Uuid)
  | fail (slot : Nat) (event : Uuid)
  | complete (slot : Nat) (event : Uuid) (accepted : Bool)
  | defer (slot : Nat) (event : Uuid) (accepted : Bool)
  | release (slot : Nat)
  | finish (slot : Nat)
  | stop (slot : Nat)
  deriving Repr, DecidableEq

/-- An action with its clock reading. -/
structure ReconcileLabel where
  time : Int
  action : ReconcileAction

namespace Batch

/-- `token, event_ids = claim_due_events(db, settings)`. -/
def opened (token : Uuid) (ids : List Uuid) : Batch where
  token := token
  claimed := ids
  remaining := ids

/-- `processed += 1`, and the snapshot of the next event begins. -/
def start (batch : Batch) (event : Uuid) (rest : List Uuid) : Batch :=
  { batch with
    remaining := rest
    attempted := batch.attempted ++ [event]
    stage := .snapshotting event }

/-- The snapshot returned. -/
def succeed (batch : Batch) (event : Uuid) : Batch :=
  { batch with
    succeeded := batch.succeeded ++ [event]
    stage := .acknowledging event }

/-- The next round of the loop, after a statement that ended in some way. -/
def next (batch : Batch) (ended : TransactionEnd) : Batch :=
  { batch with
    stage := .looping
    quiet := batch.quiet && decide (ended = TransactionEnd.returned) }

/-- The deadline passed and the rest of the batch was released. -/
def release (batch : Batch) : Batch :=
  { batch with
    remaining := []
    released := batch.remaining
    stage := .returned }

end Batch

/--
One step of `maintain_schedule`, of a `reconcile_batch`, or of its process.  An
exception of the claim or of the release ends the call, one of the other two
statements is caught.
-/
inductive ReconcileWorld.Step
    (settings : ReconcileSettings)
    (world : ReconcileWorld) :
    ReconcileLabel → ReconcileWorld → Prop where
  | maintain
      {seedAt pruneAt : Int}
      {seedEvents pruneEvents : Table Event}
      {skipped : List Uuid}
      (ordered : world.clock ≤ pruneAt)
      (seedFirst : seedAt ≤ pruneAt) :
      Step settings world
        ⟨pruneAt,
          .maintain (world.schedule.seedIds settings seedEvents seedAt)⟩
        { world with
          schedule :=
            world.schedule.maintain settings seedEvents seedAt pruneEvents
              skipped pruneAt
          clock := pruneAt }
  | claim
      {slot : Nat}
      {token : Uuid}
      {now : Int}
      {events : Table Event}
      {skipped : List Uuid}
      (ordered : world.clock ≤ now)
      (idle : world.batches slot = none)
      (fresh : token ∉ world.tokens) :
      Step settings world ⟨now, .claim slot token⟩
        ({ world with
            schedule :=
              world.schedule.claim settings
                (world.schedule.dueIds settings events skipped now) token
                now
            tokens := token :: world.tokens
            clock := now }.setBatch slot
          (some (Batch.opened token
            (world.schedule.dueIds settings events skipped now))))
  | loseClaim
      {token : Uuid}
      {now : Int}
      {events : Table Event}
      {skipped : List Uuid}
      (ordered : world.clock ≤ now)
      (fresh : token ∉ world.tokens) :
      Step settings world ⟨now, .loseClaim token⟩
        { world with
          schedule :=
            world.schedule.claim settings
              (world.schedule.dueIds settings events skipped now) token now
          tokens := token :: world.tokens
          clock := now }
  | start
      {slot : Nat}
      {batch : Batch}
      {event : Uuid}
      {rest : List Uuid}
      {now : Int}
      (ordered : world.clock ≤ now)
      (working : world.batches slot = some batch)
      (stage : batch.stage = .looping)
      (isNext : batch.remaining = event :: rest) :
      Step settings world ⟨now, .start slot event⟩
        ({ world with clock := now }.setBatch slot
          (some (batch.start event rest)))
  | succeed
      {slot : Nat}
      {batch : Batch}
      {event : Uuid}
      {now : Int}
      (ordered : world.clock ≤ now)
      (working : world.batches slot = some batch)
      (stage : batch.stage = .snapshotting event) :
      Step settings world ⟨now, .succeed slot event⟩
        ({ world with clock := now }.setBatch slot
          (some (batch.succeed event)))
  | fail
      {slot : Nat}
      {batch : Batch}
      {event : Uuid}
      {now : Int}
      (ordered : world.clock ≤ now)
      (working : world.batches slot = some batch)
      (stage : batch.stage = .snapshotting event) :
      Step settings world ⟨now, .fail slot event⟩
        ({ world with clock := now }.setBatch slot
          (some { batch with stage := .deferring event }))
  | complete
      {slot : Nat}
      {batch : Batch}
      {event : Uuid}
      {ended : TransactionEnd}
      {now : Int}
      (ordered : world.clock ≤ now)
      (working : world.batches slot = some batch)
      (stage : batch.stage = .acknowledging event) :
      Step settings world
        ⟨now, .complete slot event
          (ended.commits &&
            (world.schedule.completeReconciliation settings event
              batch.token now).1)⟩
        ({ world with
            schedule :=
              if ended.commits then
                (world.schedule.completeReconciliation settings event
                  batch.token now).2
              else
                world.schedule
            clock := now }.setBatch slot (some (batch.next ended)))
  | defer
      {slot : Nat}
      {batch : Batch}
      {event : Uuid}
      {ended : TransactionEnd}
      {now : Int}
      (ordered : world.clock ≤ now)
      (working : world.batches slot = some batch)
      (stage : batch.stage = .deferring event) :
      Step settings world
        ⟨now, .defer slot event
          (ended.commits &&
            decide (world.schedule.Carries event batch.token))⟩
        ({ world with
            schedule :=
              if ended.commits then
                world.schedule.deferReconciliation settings event
                  batch.token now
              else
                world.schedule
            clock := now }.setBatch slot (some (batch.next ended)))
  | release
      {slot : Nat}
      {batch : Batch}
      {ended : TransactionEnd}
      {now : Int}
      (ordered : world.clock ≤ now)
      (working : world.batches slot = some batch)
      (stage : batch.stage = .looping)
      (unfinished : batch.remaining ≠ []) :
      Step settings world ⟨now, .release slot⟩
        ({ world with
            schedule :=
              if ended.commits then
                world.schedule.releaseRemaining batch.remaining batch.token
              else
                world.schedule
            clock := now }.setBatch slot
          (if ended = TransactionEnd.returned then some batch.release
            else none))
  | finish
      {slot : Nat}
      {batch : Batch}
      {now : Int}
      (ordered : world.clock ≤ now)
      (working : world.batches slot = some batch)
      (stage : batch.stage = .looping)
      (finished : batch.remaining = []) :
      Step settings world ⟨now, .finish slot⟩
        ({ world with clock := now }.setBatch slot
          (some { batch with stage := .returned }))
  | stop
      {slot : Nat}
      {now : Int}
      (ordered : world.clock ≤ now) :
      Step settings world ⟨now, .stop slot⟩
        ({ world with clock := now }.setBatch slot none)

end FlashTicketing
