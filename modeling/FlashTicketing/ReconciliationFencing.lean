import FlashTicketing.ReconciliationSchedule

namespace FlashTicketing

open Relational Transition

/-!
# Fenced reconciliation

A token is drawn once and given to rows by one claim only, and every statement
that follows a snapshot names it.  So a worker whose row was taken over, pruned
or seeded anew changes nothing, and a batch that meets no database exception
leaves none of its rows leased.
-/

/-! ## What a step does to a row -/

/-- How an action moves the number of deferrals since the last fresh start. -/
def ReconcileAction.counted
    (event : Uuid)
    (count : Nat) : ReconcileAction → Nat
  | .maintain seeded => if event ∈ seeded then 0 else count
  | .complete _ other true => if other = event then 0 else count
  | .defer _ other true => if other = event then count + 1 else count
  | _ => count

/-- The accepted deferrals since the row was seeded or last completed. -/
def deferralsSince (event : Uuid) (trace : List ReconcileLabel) : Nat :=
  trace.foldl (fun count label => label.action.counted event count) 0

/-- The token that an action draws. -/
def ReconcileAction.drawn : ReconcileAction → List Uuid
  | .claim _ token => [token]
  | .loseClaim token => [token]
  | _ => []

/-- Every way in which a step leaves the row of an event. -/
inductive ReconcileWorld.RowMove
    (settings : ReconcileSettings)
    (world : ReconcileWorld)
    (label : ReconcileLabel)
    (event : Uuid) :
    Option ScheduleRow → Option ScheduleRow → Prop where
  | kept
      {row : Option ScheduleRow}
      (uncounted :
        row ≠ none →
        ∀ count, label.action.counted event count = count) :
      RowMove settings world label event row row
  | seeded
      {seeds : List Uuid}
      {seedAt : Int}
      (isSeed : label.action = .maintain seeds)
      (listed : event ∈ seeds) :
      RowMove settings world label event none
        (some (ScheduleRow.seeded event seedAt))
  | pruned
      {row : ScheduleRow}
      {seeds : List Uuid}
      (isMaintain : label.action = .maintain seeds)
      (unleased : row.unleased label.time = true) :
      RowMove settings world label event (some row) none
  | claimed
      {row : ScheduleRow}
      {token : Uuid}
      (fresh : token ∉ world.tokens)
      (isDrawn : token ∈ label.action.drawn)
      (uncounted : ∀ count, label.action.counted event count = count) :
      RowMove settings world label event (some row)
        (some (row.claim settings token label.time))
  | completed
      {slot : Nat}
      {batch : Batch}
      {row : ScheduleRow}
      (working : world.batches slot = some batch)
      (stage : batch.stage = .acknowledging event)
      (current : row.leaseToken = some batch.token)
      (isComplete : label.action = .complete slot event true) :
      RowMove settings world label event (some row)
        (some (row.complete settings label.time))
  | deferred
      {slot : Nat}
      {batch : Batch}
      {row : ScheduleRow}
      (working : world.batches slot = some batch)
      (stage : batch.stage = .deferring event)
      (current : row.leaseToken = some batch.token)
      (isDefer : label.action = .defer slot event true) :
      RowMove settings world label event (some row)
        (some (row.defer settings label.time))
  | released
      {slot : Nat}
      {batch : Batch}
      {row : ScheduleRow}
      (working : world.batches slot = some batch)
      (listed : event ∈ batch.remaining)
      (current : row.leaseToken = some batch.token)
      (isRelease : label.action = .release slot) :
      RowMove settings world label event (some row) (some row.release)

namespace ReconcileWorld

variable
  {settings : ReconcileSettings}
  {world after : ReconcileWorld}
  {label : ReconcileLabel}

theorem rowMove_maintain
    {seedAt pruneAt : Int}
    {seedEvents pruneEvents : Table Event}
    {skipped : List Uuid}
    (event : Uuid) :
    RowMove settings world
      ⟨pruneAt, .maintain (world.schedule.seedIds settings seedEvents seedAt)⟩
      event (world.schedule.find? event)
      ((world.schedule.maintain settings seedEvents seedAt pruneEvents skipped
        pruneAt).find? event) := by
  rw [Schedule.maintain]
  cases found : world.schedule.find? event with
  | none =>
      by_cases listed :
          event ∈ world.schedule.seedIds settings seedEvents seedAt
      · have seeded :=
          world.schedule.find?_seed
            (world.schedule.seedIds settings seedEvents seedAt) seedAt event
        rw [if_pos ⟨listed, found⟩] at seeded
        rcases Schedule.find?_prune_cases _ event with
          same | ⟨row, _, _, gone⟩
        · rw [same, seeded]
          exact .seeded rfl listed
        · rw [gone]
          exact .kept nofun
      · have unseeded :=
          world.schedule.find?_seed
            (world.schedule.seedIds settings seedEvents seedAt) seedAt event
        rw [if_neg fun both => listed both.1, found] at unseeded
        rcases Schedule.find?_prune_cases _ event with
          same | ⟨row, stored, _, _⟩
        · rw [same, unseeded]
          exact .kept nofun
        · cases unseeded.symm.trans stored
  | some row =>
      have unlisted :
          event ∉ world.schedule.seedIds settings seedEvents seedAt := by
        intro listed
        cases (Schedule.absent_of_mem_seedIds listed).symm.trans found
      have unseeded :=
        world.schedule.find?_seed
          (world.schedule.seedIds settings seedEvents seedAt) seedAt event
      rw [if_neg fun both => unlisted both.1, found] at unseeded
      rcases Schedule.find?_prune_cases _ event with
        same | ⟨stored, isStored, unleased, gone⟩
      · rw [same, unseeded]
        exact .kept fun _ _ => if_neg unlisted
      · cases unseeded.symm.trans isStored
        rw [gone]
        exact .pruned rfl unleased

theorem rowMove_claim
    {action : ReconcileAction}
    {token : Uuid}
    {now : Int}
    (ids : List Uuid)
    (fresh : token ∉ world.tokens)
    (isDrawn : token ∈ action.drawn)
    (event : Uuid)
    (uncounted : ∀ count, action.counted event count = count) :
    RowMove settings world ⟨now, action⟩ event (world.schedule.find? event)
      ((world.schedule.claim settings ids token now).find? event) := by
  rw [Schedule.find?_claim]
  cases world.schedule.find? event with
  | none => exact .kept nofun
  | some row =>
      rw [Option.map_some]
      split
      · exact .claimed fresh isDrawn uncounted
      · exact .kept fun _ => uncounted

theorem rowMove_complete
    {slot : Nat}
    {batch : Batch}
    {own : Uuid}
    {ended : TransactionEnd}
    {now : Int}
    (working : world.batches slot = some batch)
    (stage : batch.stage = .acknowledging own)
    (event : Uuid) :
    RowMove settings world
      ⟨now, .complete slot own
        (ended.commits &&
          (world.schedule.completeReconciliation settings own batch.token
            now).1)⟩
      event (world.schedule.find? event)
      ((if ended.commits then
          (world.schedule.completeReconciliation settings own batch.token
            now).2
        else
          world.schedule).find? event) := by
  cases ended.commits with
  | false => exact .kept fun _ _ => rfl
  | true =>
      rw [if_pos rfl, Bool.true_and, Schedule.completeReconciliation,
        Schedule.find?_leasedTo]
      split
      · rename_i both
        obtain ⟨rfl, row, found, current⟩ := both
        have accepted :
            decide ((world.schedule.select
              (Schedule.leasedTo event batch.token)).length = 1) = true :=
          decide_eq_true
            (Schedule.rowcount_eq_one_iff.mpr ⟨row, found, current⟩)
        rw [found, accepted]
        exact .completed working stage current rfl
      · rename_i neither
        apply RowMove.kept
        intro _ count
        by_cases one :
            (world.schedule.select
              (Schedule.leasedTo own batch.token)).length = 1
        · rw [decide_eq_true one]
          apply if_neg
          rintro rfl
          exact neither ⟨rfl, Schedule.rowcount_eq_one_iff.mp one⟩
        · rw [decide_eq_false one]
          rfl

theorem rowMove_defer
    {slot : Nat}
    {batch : Batch}
    {own : Uuid}
    {ended : TransactionEnd}
    {now : Int}
    (working : world.batches slot = some batch)
    (stage : batch.stage = .deferring own)
    (event : Uuid) :
    RowMove settings world
      ⟨now, .defer slot own
        (ended.commits &&
          decide (world.schedule.Carries own batch.token))⟩
      event (world.schedule.find? event)
      ((if ended.commits then
          world.schedule.deferReconciliation settings own batch.token now
        else
          world.schedule).find? event) := by
  cases ended.commits with
  | false => exact .kept fun _ _ => rfl
  | true =>
      rw [if_pos rfl, Bool.true_and, Schedule.deferReconciliation,
        Schedule.find?_leasedTo]
      split
      · rename_i both
        obtain ⟨rfl, row, found, current⟩ := both
        rw [found, decide_eq_true ⟨row, found, current⟩]
        exact .deferred working stage current rfl
      · rename_i neither
        apply RowMove.kept
        intro _ count
        by_cases carries : world.schedule.Carries own batch.token
        · rw [decide_eq_true carries]
          apply if_neg
          rintro rfl
          exact neither ⟨rfl, carries⟩
        · rw [decide_eq_false carries]
          rfl

theorem rowMove_release
    {slot : Nat}
    {batch : Batch}
    {ended : TransactionEnd}
    {now : Int}
    (working : world.batches slot = some batch)
    (event : Uuid) :
    RowMove settings world ⟨now, .release slot⟩ event
      (world.schedule.find? event)
      ((if ended.commits then
          world.schedule.releaseRemaining batch.remaining batch.token
        else
          world.schedule).find? event) := by
  cases ended.commits with
  | false => exact .kept fun _ _ => rfl
  | true =>
      rw [if_pos rfl, Schedule.find?_releaseRemaining]
      split
      · rename_i both
        obtain ⟨listed, row, found, current⟩ := both
        rw [found]
        exact .released working listed current rfl
      · exact .kept fun _ _ => rfl

/-- What a step does to each row. -/
theorem Step.rowMove
    (step : Step settings world label after)
    (event : Uuid) :
    RowMove settings world label event (world.schedule.find? event)
      (after.schedule.find? event) := by
  cases step with
  | maintain => exact rowMove_maintain event
  | claim _ _ fresh =>
      exact rowMove_claim _ fresh (List.mem_singleton_self _) event
        fun _ => rfl
  | loseClaim _ fresh =>
      exact rowMove_claim _ fresh (List.mem_singleton_self _) event
        fun _ => rfl
  | complete _ working stage => exact rowMove_complete working stage event
  | defer _ working stage => exact rowMove_defer working stage event
  | release _ working => exact rowMove_release working event
  | start | succeed | fail | finish | stop => exact .kept fun _ _ => rfl

/-! ## Failure counts -/

theorem deferralsSince_snoc
    (event : Uuid)
    (trace : List ReconcileLabel)
    (label : ReconcileLabel) :
    deferralsSince event (trace ++ [label]) =
      label.action.counted event (deferralsSince event trace) := by
  rw [deferralsSince, List.foldl_append]
  rfl

/-- Every row counts the deferrals accepted since its fresh start. -/
def FailuresCounted
    (trace : List ReconcileLabel)
    (world : ReconcileWorld) : Prop :=
  ∀ event row,
    world.schedule.find? event = some row →
    row.consecutiveFailures = deferralsSince event trace

theorem FailuresCounted.step
    {trace : List ReconcileLabel}
    (counted : FailuresCounted trace world)
    (step : Step settings world label after) :
    FailuresCounted (trace ++ [label]) after := by
  intro event later isLater
  have move := step.rowMove event
  rw [isLater] at move
  rw [deferralsSince_snoc]
  generalize found : world.schedule.find? event = stored at move
  cases move with
  | kept uncounted =>
      rw [uncounted nofun]
      exact counted event later found
  | seeded isSeed listed =>
      rw [isSeed]
      exact (if_pos listed).symm
  | claimed _ _ uncounted =>
      rw [uncounted]
      have earlier := counted event _ found
      exact earlier
  | completed _ _ _ isComplete =>
      rw [isComplete]
      exact (if_pos rfl).symm
  | deferred _ _ _ isDefer =>
      rw [isDefer, ← counted event _ found]
      exact (if_pos rfl).symm
  | released _ _ _ isRelease =>
      rw [isRelease]
      have earlier := counted event _ found
      exact earlier

/-- The cap of the backoff is never below its exponential. -/
theorem nextDueAt_defer
    (row : ScheduleRow)
    (settings : ReconcileSettings)
    (now : Int) :
    (row.defer settings now).nextDueAt =
      now + (settings.backoffMs *
        2 ^ min row.consecutiveFailures backoffShiftCap : Nat) *
          millisecond := by
  have capped :
      settings.backoffMs * 2 ^ min row.consecutiveFailures backoffShiftCap ≤
        settings.backoffMs * 2 ^ backoffShiftCap := by
    apply Nat.mul_le_mul_left
    apply Nat.pow_le_pow_right Nat.two_pos
    exact Nat.min_le_right _ _
  rw [ScheduleRow.defer, Nat.min_eq_left capped]

/-! ## What a step does to a batch -/

/-- An update that clears the token leaves nobody with it. -/
theorem not_carries_leasedTo
    {schedule : Schedule}
    {update : ScheduleRow → ScheduleRow}
    (keepsKey : ∀ row, Keyed.key (update row) = Keyed.key row)
    {event token : Uuid}
    (clears : ∀ row, (update row).leaseToken = none) :
    ¬ Schedule.Carries
      (schedule.modify (Schedule.leasedTo event token) update keepsKey)
      event token := by
  rintro ⟨row, found, current⟩
  rw [Schedule.find?_leasedTo] at found
  split at found
  · obtain ⟨stored, _, rfl⟩ := Option.map_eq_some_iff.mp found
    rw [clears] at current
    cases current
  · rename_i neither
    exact neither ⟨rfl, row, found, current⟩

theorem not_carries_releaseRemaining
    {schedule : Schedule}
    {events : List Uuid}
    {event token : Uuid}
    (listed : event ∈ events) :
    ¬ (schedule.releaseRemaining events token).Carries event token := by
  rintro ⟨row, found, current⟩
  rw [Schedule.find?_releaseRemaining] at found
  split at found
  · obtain ⟨stored, _, rfl⟩ := Option.map_eq_some_iff.mp found
    cases current
  · rename_i neither
    exact neither ⟨listed, row, found, current⟩

end ReconcileWorld

/-- The event that a batch works on. -/
def BatchStage.current : BatchStage → Option Uuid
  | .snapshotting event => some event
  | .acknowledging event => some event
  | .deferring event => some event
  | _ => none

/-- The events that a batch has yet to complete, defer or release. -/
def Batch.pending (batch : Batch) : List Uuid :=
  batch.stage.current.toList ++ batch.remaining

/-- Every way in which a step leaves the batch of a slot. -/
inductive ReconcileWorld.BatchMove
    (world after : ReconcileWorld)
    (slot : Nat) :
    Option Batch → Option Batch → Prop where
  | kept {batch : Option Batch} :
      BatchMove world after slot batch batch
  | dropped {batch : Option Batch} :
      BatchMove world after slot batch none
  | opened
      {token : Uuid}
      {ids : List Uuid}
      (fresh : token ∉ world.tokens)
      (drawn : token ∈ after.tokens)
      (distinct : ids.Nodup)
      (only :
        ∀ event,
          after.schedule.Carries event token →
          world.schedule.Carries event token ∨ event ∈ ids) :
      BatchMove world after slot none (some (.opened token ids))
  | started
      {batch : Batch}
      {event : Uuid}
      {rest : List Uuid}
      (stage : batch.stage = .looping)
      (isNext : batch.remaining = event :: rest) :
      BatchMove world after slot (some batch) (some (batch.start event rest))
  | succeeded
      {batch : Batch}
      {event : Uuid}
      (stage : batch.stage = .snapshotting event) :
      BatchMove world after slot (some batch) (some (batch.succeed event))
  | failed
      {batch : Batch}
      {event : Uuid}
      (stage : batch.stage = .snapshotting event) :
      BatchMove world after slot (some batch)
        (some { batch with stage := .deferring event })
  | moved
      {batch : Batch}
      {event : Uuid}
      {ended : TransactionEnd}
      (current : batch.stage.current = some event)
      (cleared :
        ended = .returned →
        ¬ after.schedule.Carries event batch.token) :
      BatchMove world after slot (some batch) (some (batch.next ended))
  | released
      {batch : Batch}
      (stage : batch.stage = .looping)
      (cleared :
        ∀ event ∈ batch.remaining,
          ¬ after.schedule.Carries event batch.token) :
      BatchMove world after slot (some batch) (some batch.release)
  | finished
      {batch : Batch}
      (stage : batch.stage = .looping)
      (done : batch.remaining = []) :
      BatchMove world after slot (some batch)
        (some { batch with stage := .returned })

namespace ReconcileWorld

variable
  {settings : ReconcileSettings}
  {world after : ReconcileWorld}
  {label : ReconcileLabel}

/-- Only the slot of the step moves. -/
theorem batchMove_update
    {own : Nat}
    {later : Option Batch}
    (moves : BatchMove world after own (world.batches own) later)
    (slot : Nat)
    (isUpdate : after.batches = Function.update world.batches own later) :
    BatchMove world after slot (world.batches slot) (after.batches slot) := by
  rw [isUpdate]
  by_cases isOwn : slot = own
  · subst isOwn
    rw [Function.update_self]
    exact moves
  · rw [Function.update_of_ne isOwn]
    exact .kept

/-- What a step does to the batch of each slot. -/
theorem Step.batchMove
    (step : Step settings world label after)
    (slot : Nat) :
    BatchMove world after slot (world.batches slot)
      (after.batches slot) := by
  cases step with
  | maintain | loseClaim => exact .kept
  | claim _ idle fresh =>
      apply batchMove_update _ slot rfl
      rw [idle]
      apply BatchMove.opened fresh List.mem_cons_self
      · exact Schedule.dueIds_nodup _ _ _ _ _
      · rintro event ⟨row, found, current⟩
        have claimed := found
        change Table.find? (Schedule.claim _ _ _ _ _) event = _ at claimed
        rw [Schedule.find?_claim] at claimed
        obtain ⟨stored, isStored, rfl⟩ := Option.map_eq_some_iff.mp claimed
        split at current
        · rename_i listed
          exact Or.inr listed
        · exact Or.inl ⟨stored, isStored, current⟩
  | start _ working stage isNext =>
      apply batchMove_update _ slot rfl
      rw [working]
      exact .started stage isNext
  | succeed _ working stage =>
      apply batchMove_update _ slot rfl
      rw [working]
      exact .succeeded stage
  | fail _ working stage =>
      apply batchMove_update _ slot rfl
      rw [working]
      exact .failed stage
  | complete _ working stage =>
      apply batchMove_update _ slot rfl
      rw [working]
      apply BatchMove.moved (congrArg BatchStage.current stage)
      rintro rfl
      exact not_carries_leasedTo
        (ScheduleRow.key_complete settings _) fun _ => rfl
  | defer _ working stage =>
      apply batchMove_update _ slot rfl
      rw [working]
      apply BatchMove.moved (congrArg BatchStage.current stage)
      rintro rfl
      exact not_carries_leasedTo
        (ScheduleRow.key_defer settings _) fun _ => rfl
  | @release _ _ ended _ _ working stage =>
      apply batchMove_update _ slot rfl
      rw [working]
      cases ended with
      | returned =>
          apply BatchMove.released stage
          intro event listed
          exact not_carries_releaseRemaining listed
      | raised | lost => exact .dropped
  | finish _ working stage finished =>
      apply batchMove_update _ slot rfl
      rw [working]
      exact .finished stage finished
  | stop => exact batchMove_update .dropped slot rfl

theorem Step.tokens_eq
    (step : Step settings world label after) :
    after.tokens = label.action.drawn ++ world.tokens := by
  cases step <;> rfl

theorem Step.time_eq
    (step : Step settings world label after) :
    world.clock ≤ label.time ∧ after.clock = label.time := by
  cases step <;> exact ⟨by assumption, rfl⟩

/-! ## Batches -/

end ReconcileWorld

/--
A batch accounts for the events that it claimed: it has snapshotted some, in
their order, and released the others if it was cut short.
-/
structure Batch.Accounts (batch : Batch) : Prop where
  partition :
    batch.attempted ++ batch.remaining ++ batch.released = batch.claimed
  distinct : batch.claimed.Nodup
  finished : batch.stage = .returned → batch.remaining = []
  unreleased : batch.stage ≠ .returned → batch.released = []
  started : ∀ event, batch.stage.current = some event → event ∈ batch.attempted
  snapshotted :
    ∀ event, batch.stage = .acknowledging event → event ∈ batch.succeeded

namespace ReconcileWorld

theorem BatchMove.accounts
    {world after : ReconcileWorld}
    {slot : Nat}
    {before : Option Batch}
    {later : Batch}
    (move : BatchMove world after slot before (some later))
    (accounts : ∀ batch, before = some batch → batch.Accounts) :
    later.Accounts := by
  cases move with
  | kept => exact accounts _ rfl
  | opened _ _ distinct =>
      exact {
        partition := by simp [Batch.opened]
        distinct := distinct
        finished := nofun
        unreleased := fun _ => rfl
        started := nofun
        snapshotted := nofun }
  | started stage isNext =>
      have old := accounts _ rfl
      exact {
        partition := by
          have parts := old.partition
          rw [isNext] at parts
          simpa [Batch.start] using parts
        distinct := old.distinct
        finished := nofun
        unreleased := fun _ => old.unreleased (by simp [stage])
        started := by
          rintro event ⟨⟩
          simp [Batch.start]
        snapshotted := nofun }
  | succeeded stage =>
      have old := accounts _ rfl
      exact {
        partition := old.partition
        distinct := old.distinct
        finished := nofun
        unreleased := fun _ => old.unreleased (by simp [stage])
        started := by
          rintro event ⟨⟩
          exact old.started _ (by rw [stage]; rfl)
        snapshotted := by
          rintro event ⟨⟩
          simp [Batch.succeed] }
  | failed stage =>
      have old := accounts _ rfl
      exact {
        partition := old.partition
        distinct := old.distinct
        finished := nofun
        unreleased := fun _ => old.unreleased (by simp [stage])
        started := by
          rintro event ⟨⟩
          exact old.started _ (by rw [stage]; rfl)
        snapshotted := nofun }
  | moved current =>
      have old := accounts _ rfl
      exact {
        partition := old.partition
        distinct := old.distinct
        finished := nofun
        unreleased := by
          intro _
          apply old.unreleased
          intro isReturned
          rw [isReturned] at current
          cases current
        started := nofun
        snapshotted := nofun }
  | released stage =>
      have old := accounts _ rfl
      exact {
        partition := by
          have parts := old.partition
          rw [old.unreleased (by simp [stage])] at parts
          simpa [Batch.release] using parts
        distinct := old.distinct
        finished := fun _ => rfl
        unreleased := fun unreturned => absurd rfl unreturned
        started := nofun
        snapshotted := nofun }
  | finished stage done =>
      have old := accounts _ rfl
      exact {
        partition := old.partition
        distinct := old.distinct
        finished := fun _ => done
        unreleased := fun unreturned => absurd rfl unreturned
        started := nofun
        snapshotted := nofun }

end ReconcileWorld

/-- An event of a returned batch was snapshotted once, or released. -/
theorem Batch.Accounts.once_or_released
    {batch : Batch}
    (accounts : batch.Accounts)
    (isReturned : batch.stage = .returned)
    {event : Uuid}
    (member : event ∈ batch.claimed) :
    (batch.attempted.count event = 1 ∧ event ∉ batch.released) ∨
      (event ∉ batch.attempted ∧ event ∈ batch.released) := by
  have parts := accounts.partition
  rw [accounts.finished isReturned, List.append_nil] at parts
  have distinct := accounts.distinct
  rw [← parts] at distinct member
  obtain ⟨once, _, apart⟩ := List.nodup_append.mp distinct
  rcases List.mem_append.mp member with isAttempted | isReleased
  · refine Or.inl ⟨List.count_eq_one_of_mem once isAttempted, ?_⟩
    intro isReleased
    exact apart event isAttempted event isReleased rfl
  · refine Or.inr ⟨?_, isReleased⟩
    intro isAttempted
    exact apart event isAttempted event isReleased rfl

/-! ## The invariant -/

/--
Tokens are drawn once, and a batch without a database exception holds leases on
nothing but the events that it has yet to deal with.
-/
structure ReconcileWorld.Fenced (world : ReconcileWorld) : Prop where
  leased :
    ∀ event token,
      world.schedule.Carries event token →
      token ∈ world.tokens
  drawn :
    ∀ slot batch,
      world.batches slot = some batch →
      batch.token ∈ world.tokens
  accounts :
    ∀ slot batch,
      world.batches slot = some batch →
      batch.Accounts
  bound :
    ∀ slot batch,
      world.batches slot = some batch →
      batch.quiet = true →
      ∀ event,
        world.schedule.Carries event batch.token →
        event ∈ batch.pending
  past :
    ∀ event row time,
      world.schedule.find? event = some row →
      row.lastReconciledAt = some time →
      time ≤ world.clock
  paired :
    ∀ event row,
      world.schedule.find? event = some row →
      (row.leaseUntil = none ↔ row.leaseToken = none)

namespace ReconcileWorld

variable
  {settings : ReconcileSettings}
  {world after : ReconcileWorld}
  {label : ReconcileLabel}

theorem Fenced.initial (origin : Int) :
    Fenced { clock := origin } where
  leased := nofun
  drawn := nofun
  accounts := nofun
  bound := nofun
  past := nofun
  paired := nofun

/-- A row carries a token that it carried before, or one that was drawn. -/
theorem Step.carries_cases
    (step : Step settings world label after)
    {event token : Uuid}
    (carries : after.schedule.Carries event token) :
    world.schedule.Carries event token ∨
      (token ∉ world.tokens ∧ token ∈ label.action.drawn) := by
  obtain ⟨row, found, current⟩ := carries
  have move := step.rowMove event
  rw [found] at move
  generalize stored : world.schedule.find? event = before at move
  cases move with
  | kept => exact Or.inl ⟨row, stored, current⟩
  | claimed fresh isDrawn =>
      cases current
      exact Or.inr ⟨fresh, isDrawn⟩
  | seeded | completed | deferred | released => cases current

/-- No step gives away a token that was drawn before. -/
theorem Step.carried
    (step : Step settings world label after)
    {event token : Uuid}
    (known : token ∈ world.tokens)
    (carries : after.schedule.Carries event token) :
    world.schedule.Carries event token := by
  rcases step.carries_cases carries with before | ⟨fresh, _⟩
  · exact before
  · exact absurd known fresh

theorem Fenced.leased_step
    (fenced : Fenced world)
    (step : Step settings world label after)
    (event token : Uuid)
    (carries : after.schedule.Carries event token) :
    token ∈ after.tokens := by
  rw [step.tokens_eq]
  rcases step.carries_cases carries with before | ⟨_, isDrawn⟩
  · exact List.mem_append_right _ (fenced.leased event token before)
  · exact List.mem_append_left _ isDrawn

theorem Fenced.drawn_step
    (fenced : Fenced world)
    (step : Step settings world label after)
    (slot : Nat)
    (batch : Batch)
    (working : after.batches slot = some batch) :
    batch.token ∈ after.tokens := by
  have move := step.batchMove slot
  rw [working] at move
  generalize isBefore : world.batches slot = before at move
  have kept :
      ∀ earlier,
        world.batches slot = some earlier →
        earlier.token ∈ after.tokens := by
    intro earlier isEarlier
    rw [step.tokens_eq]
    exact List.mem_append_right _ (fenced.drawn slot earlier isEarlier)
  cases move with
  | opened _ drawn => exact drawn
  | kept => exact kept _ isBefore
  | started | succeeded | failed | moved | released | finished =>
      have earlier := kept _ isBefore
      exact earlier

theorem Fenced.bound_step
    (fenced : Fenced world)
    (step : Step settings world label after)
    (slot : Nat)
    (batch : Batch)
    (working : after.batches slot = some batch)
    (quiet : batch.quiet = true)
    (event : Uuid)
    (carries : after.schedule.Carries event batch.token) :
    event ∈ batch.pending := by
  have move := step.batchMove slot
  rw [working] at move
  generalize isBefore : world.batches slot = before at move
  -- The rows of an older batch carried its token before the step.
  have pending :
      ∀ earlier,
        world.batches slot = some earlier →
        earlier.quiet = true →
        after.schedule.Carries event earlier.token →
        event ∈ earlier.pending := by
    intro earlier isEarlier wasQuiet still
    apply fenced.bound slot earlier isEarlier wasQuiet
    exact step.carried (fenced.drawn slot earlier isEarlier) still
  cases move with
  | kept => exact pending _ isBefore quiet carries
  | opened fresh _ _ only =>
      rcases only event carries with known | listed
      · exact absurd (fenced.leased _ _ known) fresh
      · exact listed
  | started stage isNext =>
      have listed := pending _ isBefore quiet carries
      rw [Batch.pending, stage, isNext] at listed
      exact listed
  | succeeded stage | failed stage =>
      have listed := pending _ isBefore quiet carries
      rw [Batch.pending, stage] at listed
      exact listed
  | @moved earlier own ended current cleared =>
      obtain ⟨wasQuiet, isReturned⟩ :
          earlier.quiet = true ∧ ended = .returned := by
        simpa [Batch.next] using quiet
      have listed := pending earlier isBefore wasQuiet carries
      rw [Batch.pending, current] at listed
      rcases List.mem_cons.mp listed with rfl | isRemaining
      · exact absurd carries (cleared isReturned)
      · exact isRemaining
  | @released earlier stage cleared =>
      have listed := pending earlier isBefore quiet carries
      rw [Batch.pending, stage] at listed
      exact absurd carries (cleared event listed)
  | finished stage =>
      have listed := pending _ isBefore quiet carries
      rw [Batch.pending, stage] at listed
      exact listed

theorem Fenced.past_step
    (fenced : Fenced world)
    (step : Step settings world label after)
    (event : Uuid)
    (row : ScheduleRow)
    (time : Int)
    (found : after.schedule.find? event = some row)
    (isTime : row.lastReconciledAt = some time) :
    time ≤ after.clock := by
  obtain ⟨ordered, isClock⟩ := step.time_eq
  rw [isClock]
  have move := step.rowMove event
  rw [found] at move
  generalize isStored : world.schedule.find? event = before at move
  have earlier :
      ∀ stored,
        world.schedule.find? event = some stored →
        stored.lastReconciledAt = some time →
        time ≤ label.time :=
    fun stored isRow isPast =>
      (fenced.past event stored time isRow isPast).trans ordered
  cases move with
  | kept => exact earlier row isStored isTime
  | seeded => cases isTime
  | completed =>
      cases isTime
      exact le_rfl
  | claimed | deferred | released => exact earlier _ isStored isTime

/-- No statement violates the check that pairs deadline and token. -/
theorem Fenced.paired_step
    (fenced : Fenced world)
    (step : Step settings world label after)
    (event : Uuid)
    (row : ScheduleRow)
    (found : after.schedule.find? event = some row) :
    row.leaseUntil = none ↔ row.leaseToken = none := by
  have move := step.rowMove event
  rw [found] at move
  generalize isStored : world.schedule.find? event = before at move
  cases move with
  | kept => exact fenced.paired event row isStored
  | claimed => exact ⟨nofun, nofun⟩
  | seeded | completed | deferred | released => exact ⟨fun _ => rfl, fun _ => rfl⟩

theorem Fenced.step
    (fenced : Fenced world)
    (step : Step settings world label after) :
    Fenced after where
  leased := fenced.leased_step step
  drawn := fenced.drawn_step step
  accounts slot batch working := by
    have move := step.batchMove slot
    rw [working] at move
    exact move.accounts (fenced.accounts slot)
  bound := fenced.bound_step step
  past := fenced.past_step step
  paired := fenced.paired_step step

/-! ## Fencing -/

/-- A token that the row does not carry changes nothing. -/
theorem modify_leasedTo_of_stale
    {schedule : Schedule}
    {update : ScheduleRow → ScheduleRow}
    (keepsKey : ∀ row, Keyed.key (update row) = Keyed.key row)
    {event token : Uuid}
    (stale : ¬ schedule.Carries event token) :
    schedule.modify (Schedule.leasedTo event token) update keepsKey =
      schedule := by
  apply Table.modify_of_forall_false keepsKey
  intro row member
  apply decide_eq_false
  rintro ⟨isEvent, current⟩
  apply stale
  refine ⟨row, ?_, current⟩
  rw [← isEvent]
  exact Table.find?_key member

theorem completeReconciliation_of_stale
    {schedule : Schedule}
    {event token : Uuid}
    (stale : ¬ schedule.Carries event token)
    (settings : ReconcileSettings)
    (now : Int) :
    schedule.completeReconciliation settings event token now =
      (false, schedule) := by
  have missed :
      ¬ (schedule.select (Schedule.leasedTo event token)).length = 1 :=
    fun one => stale (Schedule.rowcount_eq_one_iff.mp one)
  rw [Schedule.completeReconciliation, decide_eq_false missed,
    modify_leasedTo_of_stale _ stale]

/-- A new time of reconciliation comes from an accepted completion. -/
theorem Fenced.completed
    (fenced : Fenced world)
    (step : Step settings world label after)
    {event : Uuid}
    {later : ScheduleRow}
    {time : Int}
    (found : after.schedule.find? event = some later)
    (isTime : later.lastReconciledAt = some time)
    (isNew :
      ∀ row,
        world.schedule.find? event = some row →
        row.lastReconciledAt ≠ some time) :
    time = label.time ∧
      ∃ slot batch row,
        label.action = .complete slot event true ∧
          world.batches slot = some batch ∧
          event ∈ batch.attempted ∧
          event ∈ batch.succeeded ∧
          world.schedule.find? event = some row ∧
          row.leaseToken = some batch.token ∧
          ∀ earlier, row.lastReconciledAt = some earlier → earlier ≤ time := by
  have move := step.rowMove event
  rw [found] at move
  generalize isStored : world.schedule.find? event = before at move
  cases move with
  | kept => exact absurd isTime (isNew later isStored)
  | seeded => cases isTime
  | @completed slot batch row working stage current isComplete =>
      cases isTime
      have accounts := fenced.accounts slot batch working
      refine ⟨rfl, slot, batch, row, isComplete, working, ?_, ?_, rfl,
        current, ?_⟩
      · exact accounts.started event (congrArg BatchStage.current stage)
      · exact accounts.snapshotted event stage
      · intro earlier isEarlier
        exact (fenced.past event row earlier isStored isEarlier).trans
          step.time_eq.1
  | claimed | deferred | released =>
      have differs := isNew _ isStored
      exact absurd isTime differs

/-- An accepted deferral backs off by the number of those before it. -/
theorem Fenced.deferred
    {trace : List ReconcileLabel}
    {slot : Nat}
    {event : Uuid}
    (fenced : Fenced world)
    (counted : FailuresCounted trace world)
    (step : Step settings world label after)
    (isDefer : label.action = .defer slot event true) :
    ∃ batch row later,
      world.batches slot = some batch ∧
        event ∈ batch.attempted ∧
        world.schedule.find? event = some row ∧
        row.leaseToken = some batch.token ∧
        after.schedule.find? event = some later ∧
        later.consecutiveFailures = deferralsSince event trace + 1 ∧
        later.nextDueAt =
          label.time + (settings.backoffMs *
            2 ^ min (deferralsSince event trace) 5 : Nat) * millisecond := by
  cases step with
  | @defer slot batch own ended now ordered working stage =>
      injection isDefer with sameSlot sameEvent accepted
      subst sameSlot sameEvent
      rw [Bool.and_eq_true, decide_eq_true_eq] at accepted
      obtain ⟨commits, row, found, current⟩ := accepted
      have accounts := fenced.accounts slot batch working
      refine ⟨batch, row, row.defer settings now, working, ?_, found, current,
        ?_, ?_, ?_⟩
      · exact accounts.started own (congrArg BatchStage.current stage)
      · change Table.find? (ite _ _ _) own = _
        rw [if_pos commits, Schedule.deferReconciliation,
          Schedule.find?_leasedTo, if_pos ⟨rfl, row, found, current⟩, found]
        rfl
      · rw [← counted own row found]
        rfl
      · rw [nextDueAt_defer, counted own row found]
        rfl
  | maintain | claim | loseClaim | start | succeed | fail | complete
    | release | finish | stop => cases isDefer

/-- A row that disappears was not under a live lease. -/
theorem Fenced.pruned
    (fenced : Fenced world)
    (step : Step settings world label after)
    {event : Uuid}
    {row : ScheduleRow}
    (found : world.schedule.find? event = some row)
    (gone : after.schedule.find? event = none) :
    (row.leaseToken = none ∧ row.leaseUntil = none) ∨
      ∃ deadline, row.leaseUntil = some deadline ∧ deadline < label.time := by
  have move := step.rowMove event
  rw [found, gone] at move
  cases move with
  | pruned _ unleased =>
      unfold ScheduleRow.unleased at unleased
      cases deadline : row.leaseUntil with
      | none =>
          exact Or.inl ⟨(fenced.paired event row found).mp deadline, rfl⟩
      | some time =>
          rw [deadline] at unleased
          exact Or.inr ⟨time, rfl, of_decide_eq_true unleased⟩

/-- A release at the deadline clears leases and nothing else. -/
theorem Step.released
    (step : Step settings world label after)
    {slot : Nat}
    (isRelease : label.action = .release slot)
    {event : Uuid}
    {row : ScheduleRow}
    (found : world.schedule.find? event = some row) :
    after.schedule.find? event = some row ∨
      after.schedule.find? event =
        some { row with leaseUntil := none, leaseToken := none } := by
  have move := step.rowMove event
  rw [found] at move
  generalize isLater : after.schedule.find? event = later at move
  cases move with
  | kept => exact Or.inl rfl
  | pruned isMaintain => cases isRelease.symm.trans isMaintain
  | released => exact Or.inr rfl
  | claimed _ isDrawn =>
      rw [isRelease] at isDrawn
      cases isDrawn
  | completed _ _ _ isComplete => cases isRelease.symm.trans isComplete
  | deferred _ _ _ isDefer => cases isRelease.symm.trans isDefer

end ReconcileWorld

open ReconcileWorld

/--
Whatever the workers, the deadlines and the failures: a stale token changes
nothing, `last_reconciled_at` advances by an accepted completion after a
snapshot that its token holder made, the failures of a row are its accepted
deferrals and each deferral backs off by them, pruning spares live leases, and
a batch that returns without a database exception has dealt with every event
that it claimed and holds no lease.
-/
theorem reconciliation_fenced
    {settings : ReconcileSettings}
    {origin : Int}
    {trace : List ReconcileLabel}
    {world : ReconcileWorld}
    (run : Run (Step settings) { clock := origin } trace world) :
    (∀ event token now,
      ¬ world.schedule.Carries event token →
      world.schedule.completeReconciliation settings event token now =
          (false, world.schedule) ∧
        world.schedule.deferReconciliation settings event token now =
          world.schedule ∧
        ∀ events,
          (world.schedule.releaseRemaining events token).find? event =
            world.schedule.find? event) ∧
    (∀ label after event later time,
      Step settings world label after →
      after.schedule.find? event = some later →
      later.lastReconciledAt = some time →
      (∀ row,
        world.schedule.find? event = some row →
        row.lastReconciledAt ≠ some time) →
      time = label.time ∧
        ∃ slot batch row,
          label.action = .complete slot event true ∧
            world.batches slot = some batch ∧
            event ∈ batch.attempted ∧
            event ∈ batch.succeeded ∧
            world.schedule.find? event = some row ∧
            row.leaseToken = some batch.token ∧
            ∀ earlier,
              row.lastReconciledAt = some earlier →
              earlier ≤ time) ∧
    (∀ event row,
      world.schedule.find? event = some row →
      row.consecutiveFailures = deferralsSince event trace) ∧
    (∀ label after slot event,
      Step settings world label after →
      label.action = .defer slot event true →
      ∃ batch row later,
        world.batches slot = some batch ∧
          event ∈ batch.attempted ∧
          world.schedule.find? event = some row ∧
          row.leaseToken = some batch.token ∧
          after.schedule.find? event = some later ∧
          later.consecutiveFailures = deferralsSince event trace + 1 ∧
          later.nextDueAt =
            label.time + (settings.backoffMs *
              2 ^ min (deferralsSince event trace) 5 : Nat) * millisecond) ∧
    (∀ label after event row,
      Step settings world label after →
      world.schedule.find? event = some row →
      after.schedule.find? event = none →
      (row.leaseToken = none ∧ row.leaseUntil = none) ∨
        ∃ deadline,
          row.leaseUntil = some deadline ∧ deadline < label.time) ∧
    (∀ slot batch,
      world.batches slot = some batch →
      batch.stage = .returned →
      batch.quiet = true →
      (∀ event, ¬ world.schedule.Carries event batch.token) ∧
        ∀ event ∈ batch.claimed,
          (batch.attempted.count event = 1 ∧ event ∉ batch.released) ∨
            (event ∉ batch.attempted ∧ event ∈ batch.released)) ∧
    ∀ label after slot event row,
      Step settings world label after →
      label.action = .release slot →
      world.schedule.find? event = some row →
      after.schedule.find? event = some row ∨
        after.schedule.find? event =
          some { row with leaseUntil := none, leaseToken := none } := by
  have fenced : Fenced world :=
    run.invariant (Fenced.initial origin) Fenced.step
  have counted : FailuresCounted trace world :=
    run.history nofun FailuresCounted.step
  refine ⟨?_, ?_, counted, ?_, ?_, ?_, ?_⟩
  · intro event token now stale
    refine ⟨completeReconciliation_of_stale stale settings now, ?_, ?_⟩
    · exact modify_leasedTo_of_stale (ScheduleRow.key_defer settings now) stale
    · intro events
      rw [Schedule.find?_releaseRemaining, if_neg fun both => stale both.2]
  · intro label after event later time step found isTime isNew
    exact fenced.completed step found isTime isNew
  · intro label after slot event step isDefer
    exact fenced.deferred counted step isDefer
  · intro label after event row step found gone
    exact fenced.pruned step found gone
  · intro slot batch working isReturned quiet
    have accounts := fenced.accounts slot batch working
    constructor
    · intro event carries
      have listed := fenced.bound slot batch working quiet event carries
      rw [Batch.pending, isReturned, accounts.finished isReturned] at listed
      cases listed
    · intro event member
      exact accounts.once_or_released isReturned member
  · intro label after slot event row step isRelease found
    exact step.released isRelease found

/-- One event on sale, in the inventory that the statements see. -/
def smallInventory : Table Event where
  rows := [{
    id := 1
    currency := "THB"
    saleStarts := 0
    saleEnds := 1000 * second }]
  keysNodup := by decide

/-- The schedule of one row. -/
def smallSchedule (row : ScheduleRow) : Schedule where
  rows := [row]
  keysNodup := by simp

/-- The event is seeded and claimed, its snapshot fails, and it is deferred. -/
def smallTrace : List ReconcileLabel :=
  [⟨0, .maintain [1]⟩, ⟨0, .claim 0 10⟩, ⟨0, .start 0 1⟩, ⟨0, .fail 0 1⟩,
    ⟨0, .defer 0 1 true⟩, ⟨0, .finish 0⟩]

/-- The batch of the small run at its end. -/
def smallBatch : Batch where
  token := 10
  claimed := [1]
  remaining := []
  attempted := [1]
  stage := .returned

theorem smallTrace_run :
    ∃ world,
      Run (Step {}) { clock := 0 } smallTrace world ∧
        world.schedule =
          smallSchedule
            (((ScheduleRow.seeded 1 0).claim {} 10 0).defer {} 0) ∧
        world.batches 0 = some smallBatch := by
  have seeds :
      Step {} { clock := 0 } ⟨0, .maintain [1]⟩
        { schedule := smallSchedule (ScheduleRow.seeded 1 0), clock := 0 } :=
    @Step.maintain {} { clock := 0 } 0 0 smallInventory smallInventory []
      le_rfl le_rfl
  have claims :
      Step {} { schedule := smallSchedule (ScheduleRow.seeded 1 0), clock := 0 }
        ⟨0, .claim 0 10⟩
        (({ schedule :=
              smallSchedule ((ScheduleRow.seeded 1 0).claim {} 10 0)
            tokens := [10]
            clock := 0 } : ReconcileWorld).setBatch 0
          (some (Batch.opened 10 [1]))) :=
    @Step.claim {} _ 0 10 0 smallInventory [] le_rfl rfl (by decide)
  have run :=
    Run.cons seeds <| Run.cons claims <|
      Run.cons (@Step.start {} _ 0 _ 1 [] 0 le_rfl rfl rfl rfl) <|
        Run.cons (@Step.fail {} _ 0 _ 1 0 le_rfl rfl rfl) <|
          Run.cons (@Step.defer {} _ 0 _ 1 .returned 0 le_rfl rfl rfl) <|
            Run.single (@Step.finish {} _ 0 _ 0 le_rfl rfl rfl rfl)
  exact ⟨_, run, rfl, rfl⟩

/-- The small run leaves no lease and counts one failure. -/
theorem reconciliation_fenced_smallTrace :
    ∃ world,
      Run (Step {}) { clock := 0 } smallTrace world ∧
        (∀ row,
          world.schedule.find? 1 = some row →
          row.consecutiveFailures = 1) ∧
        (∀ event, ¬ world.schedule.Carries event 10) ∧
        smallBatch.attempted.count 1 = 1 := by
  obtain ⟨world, run, _, working⟩ := smallTrace_run
  obtain ⟨_, _, counted, _, _, returned, _⟩ := reconciliation_fenced run
  obtain ⟨unleased, accounted⟩ := returned 0 smallBatch working rfl rfl
  refine ⟨world, run, ?_, unleased, ?_⟩
  · intro row found
    exact counted 1 row found
  · rcases accounted 1 (by decide) with ⟨once, _⟩ | ⟨_, released⟩
    · exact once
    · cases released

end FlashTicketing
