import FlashTicketing.CommandDurability

namespace FlashTicketing

open Relational Checked Transition

/-!
# Failed commands

A rejected command has no trace in PostgreSQL when `mark_failed` records the
rejection.  Nothing keeps a later delivery of the same entry from being
persisted after all: `persist_reservation_command` judges the tables of the
moment and does not read the status in Redis.
-/

variable {Hash : Type}

/-! ## Rejected commands -/

/-- PostgreSQL would grant the command at this time. -/
structure Grantable
    (db : Database Hash)
    (payload : CommandPayload Hash)
    (now : Int) : Prop where
  unrecorded : db.reservationCommands.find? payload.commandId = none
  unclaimed :
    db.idempotencyRecords.find?
      (payload.actor, Operation.hold, payload.idempotencyKey) = none
  onSale :
    ∃ sale,
      db.events.find? payload.eventId = some sale ∧
        sale.saleStarts ≤ now ∧ now < sale.saleEnds
  seated :
    (seatRows db payload.eventId (sortedSeats payload.seatIds)).length =
      payload.seatIds.length
  unexpired : now < payload.expiresAt
  free :
    ∀ row ∈ seatRows db payload.eventId (sortedSeats payload.seatIds),
      row.unavailableTo now payload.holdId = false

/-- A call that stores a trace of a command found it grantable. -/
theorem Untraced.grantable
    [DecidableEq Hash]
    {self : PostgresReservations Hash}
    {db after : Database Hash}
    {payload : CommandPayload Hash}
    {reply : CommandResponse}
    {ambient : Ambient}
    {result : Result}
    (untraced : Untraced db payload)
    (responded : Responded db)
    (answered :
      self.transaction (.persistReservationCommand payload reply) ambient
        db = (.ok result, after)) :
    Grantable db payload ambient.now := by
  have accepted := PostgresReservations.body_of_transaction answered
  simp only [PostgresReservations.body,
    PostgresReservations.persistReservationCommand, bind_eq_ok,
    ensure_eq_ok, Prod.exists] at accepted
  obtain ⟨_, _, ⟨_, _, rest⟩, _⟩ := accepted
  split at rest
  · -- A stored command would be a trace.
    rename_i row found
    exact absurd (Or.inl (Table.key_of_find? found))
      (untraced.command row (Table.mem_of_find? found))
  · rename_i unrecorded
    simp only [bind_eq_ok, Prod.exists] at rest
    obtain ⟨replay, claimed, idemAccepted, decided⟩ := rest
    rcases idem_eq_ok idemAccepted with
      ⟨rfl, records, inserted, rfl⟩ | ⟨record, found, _, rfl, rfl⟩
    · simp only [PostgresReservations.persistBody, bind_eq_ok,
        require_eq_ok, ensure_eq_ok] at decided
      obtain ⟨sale, saleFound, _, onSale, _, seated, _, unexpired, _, free,
        _⟩ := decided
      exact ⟨unrecorded, (Table.insert?_eq_some inserted).1,
        ⟨sale, saleFound, onSale⟩, seated, unexpired, free⟩
    · -- So would a stored response with the identifiers of the command.
      obtain ⟨stored, isStored⟩ :=
        Option.ne_none_iff_exists'.mp (responded found)
      simp only [isStored, bind_eq_ok, ensure_eq_ok] at decided
      obtain ⟨_, sameIds, _⟩ := decided
      refine absurd ?_ (untraced.record record (Table.mem_of_find? found))
      rw [CommandPayload.NamedBy, isStored]
      exact sameIds.1

/-- The command was rejected by a delivery, or its failure is recorded. -/
inductive World.Condemned
    (world : World Hash)
    (eventId commandId : Uuid) : Prop where
  | failed
      (command : CommandHash Hash)
      (found :
        world.redis.commands.find? (eventId, commandId) = some command)
      (status : command.status = .failed)
  | rejected
      (slot : Nat)
      (writer : Writer Hash)
      (code : FailureCode)
      (working : world.writers slot = some writer)
      (subject :
        writer.stream = eventId ∧ writer.entry.commandId = commandId)
      (stage : writer.stage = .rejected code)

/-- The delivery of a condemned command is not granted. -/
def World.Upholds (world : World Hash) : Action Hash → Prop
  | .persist slot ambient =>
      ∀ writer,
        world.writers slot = some writer →
        world.Condemned writer.stream writer.entry.commandId →
        ¬ Grantable world.db writer.entry.payload ambient.now
  | _ => True

/-- Condemned commands have no trace in PostgreSQL. -/
structure World.Upheld
    (intake : RedisReservationIntake Hash)
    (world : World Hash) : Prop where
  sound : world.Sound intake
  untraced :
    ∀ {eventId commandId payload response},
      world.redis.issue? eventId commandId = some (payload, response) →
      world.Condemned eventId commandId →
      Untraced world.db payload

namespace World

theorem Initial.upheld
    {world : World Hash}
    (initial : world.Initial)
    (intake : RedisReservationIntake Hash) :
    world.Upheld intake := by
  refine ⟨initial.sound intake, ?_⟩
  intro eventId commandId payload response isIssued
  rw [initial.redis] at isIssued
  cases isIssued

variable
  [DecidableEq Hash]
  {self : PostgresReservations Hash}
  {intake : RedisReservationIntake Hash}
  {world after : World Hash}
  {action : Action Hash}

/-- A step at which no condemned command is granted. -/
def UpholdingStep
    (self : PostgresReservations Hash)
    (intake : RedisReservationIntake Hash)
    (world : World Hash)
    (action : Action Hash)
    (after : World Hash) : Prop :=
  Step self intake world action after ∧ world.Upholds action

/-- A command that is rejected now has no trace. -/
theorem Sound.untraced_of_rejected
    {slot : Nat}
    {writer : Writer Hash}
    {ambient : Ambient}
    {failure : Failure}
    {db : Database Hash}
    (sound : world.Sound intake)
    (sameDigest : intake.digest = self.digest)
    (working : world.writers slot = some writer)
    (answered :
      self.transaction writer.call ambient world.db =
        (.error (.failure failure), db)) :
    Untraced world.db writer.entry.payload := by
  have writerIssue := sound.linked.writer_issue working
  obtain ⟨_, _, _, _, _, honest⟩ := sound.linked.issue_ids writerIssue
  rw [sameDigest] at honest
  refine (sound.complete writerIssue).resolve_right fun stored => ?_
  obtain ⟨result, returned⟩ := stored.persist_isOk honest
  have same := answered.symm.trans returned
  cases same

/-- A command is condemned by an earlier step or rejected by this one. -/
theorem Step.condemned_before
    {eventId commandId : Uuid}
    (linked : world.Linked intake)
    (step : Step self intake world action after)
    (condemned : after.Condemned eventId commandId) :
    world.Condemned eventId commandId ∨
    ∃ slot writer ambient failure,
      world.writers slot = some writer ∧
        writer.stream = eventId ∧
        writer.entry.commandId = commandId ∧
        self.transaction writer.call ambient world.db =
          (.error (.failure failure), after.db) := by
  cases condemned with
  | failed command found status =>
      cases step.restated linked found with
      | kept found => exact Or.inl (.failed command found status)
      | failed slot writer code _ working stage subject =>
          exact Or.inl (.rejected slot writer code working subject stage)
      | durable _ _ _ _ _ _ _ _ isNext =>
          rw [isNext] at status
          cases status
      | issued _ _ _ _ _ _ _ pending =>
          rw [pending] at status
          cases status
  | rejected slot writer code working subject stage =>
      cases step.proceeds working with
      | kept working =>
          exact Or.inl (.rejected slot writer code working subject stage)
      | rejected old ambient failure working isNext answered =>
          rw [isNext] at subject
          exact Or.inr ⟨slot, old, ambient, failure, working, subject.1,
            subject.2, answered⟩
      | delivered fresh =>
          rw [fresh] at stage
          cases stage
      | persisted _ _ _ _ isNext =>
          rw [isNext] at stage
          cases stage
      | markedFailed _ _ _ _ isNext =>
          rw [isNext] at stage
          cases stage
      | markedDurable _ _ _ isNext =>
          rw [isNext] at stage
          cases stage
      | settled _ _ _ _ isNext later =>
          rw [isNext] at stage
          dsimp only at stage
          rw [stage] at later
          cases later

/-- An untraced command that is not granted stays untraced. -/
theorem Upheld.untraced_after
    {eventId commandId : Uuid}
    {payload : CommandPayload Hash}
    {response : CommandResponse}
    (upheld : world.Upheld intake)
    (step : UpholdingStep self intake world action after)
    (isIssued :
      world.redis.issue? eventId commandId = some (payload, response))
    (condemned : world.Condemned eventId commandId) :
    Untraced after.db payload := by
  obtain ⟨taken, upholds⟩ := step
  have untraced := upheld.untraced isIssued condemned
  rcases upheld.sound.respects_or_persisted taken isIssued with
    respects |
    ⟨slot, writer, ambient, result, working, rfl, rfl, answered, _⟩
  · exact respects.untraced untraced
  · have writerIssue := upheld.sound.linked.writer_issue working
    obtain ⟨rfl, rfl⟩ :=
      upheld.sound.linked.distinct writerIssue isIssued
        (Or.inr (Or.inl rfl))
    exact absurd (untraced.grantable upheld.sound.responded answered)
      (upholds writer working condemned)

theorem Upheld.step
    (sameDigest : intake.digest = self.digest)
    (upheld : world.Upheld intake)
    (step : UpholdingStep self intake world action after) :
    after.Upheld intake := by
  have sound := upheld.sound
  refine ⟨sound.step step.1, ?_⟩
  intro eventId commandId payload response isIssued condemned
  have condemnedBefore :
      world.redis.issue? eventId commandId = some (payload, response) →
      Untraced after.db payload := by
    intro issuedBefore
    rcases step.1.condemned_before sound.linked condemned with
      before |
      ⟨slot, writer, ambient, failure, working, rfl, rfl, answered⟩
    · exact upheld.untraced_after step issuedBefore before
    · have untraced :=
        sound.untraced_of_rejected sameDigest working answered
      have writerIssue := sound.linked.writer_issue working
      rw [issuedBefore] at writerIssue
      cases writerIssue
      rw [PostgresReservations.unchanged_of_transaction answered]
      exact untraced
  rcases step.1.calm_or_accepted with
    calm | ⟨command, now, sale, version, selected, unissued, _, _, isAfter⟩
  · rw [calm.issue] at isIssued
    exact condemnedBefore isIssued
  · rw [isAfter, issue?_accepted] at isIssued
    split at isIssued
    · cases isIssued
      rw [isAfter]
      exact unissued.untraced intake
    · exact condemnedBefore isIssued

/-- The failure of a command is recorded. -/
def FailedAs
    (eventId commandId : Uuid)
    (payload : CommandPayload Hash)
    (world : World Hash) : Prop :=
  ∃ command,
    world.redis.commands.find? (eventId, commandId) = some command ∧
      command.status = .failed ∧ command.payload = payload

/-- A failed command stays failed. -/
theorem FailedAs.step
    {eventId commandId : Uuid}
    {payload : CommandPayload Hash}
    (failed : FailedAs eventId commandId payload world)
    (linked : world.Linked intake)
    (step : Step self intake world action after) :
    FailedAs eventId commandId payload after := by
  obtain ⟨command, found, status, isPayload⟩ := failed
  have isIssued := Redis.issue?_of_find? found
  have later :
      after.redis.issue? eventId commandId =
        some (command.payload, command.response) := by
    rcases step.calm_or_accepted with
      calm | ⟨new, now, sale, version, selected, unissued, _, _, rfl⟩
    · rw [calm.issue]
      exact isIssued
    · rw [issue?_accepted, if_neg]
      · exact isIssued
      · intro sameKey
        exact (unissued.issue_ne isIssued).1 (congrArg Prod.snd sameKey)
  obtain ⟨next, foundLater, isNext⟩ := Option.map_eq_some_iff.mp later
  have samePayload : next.payload = payload :=
    (congrArg Prod.fst isNext).trans isPayload
  refine ⟨next, foundLater, ?_, samePayload⟩
  cases step.restated linked foundLater with
  | kept foundBefore =>
      rw [found] at foundBefore
      cases foundBefore
      exact status
  | failed _ _ _ _ _ _ _ _ _ isNext => rw [isNext]
  | durable _ _ _ _ _ _ foundBefore notFailed =>
      rw [found] at foundBefore
      cases foundBefore
      exact absurd status notFailed
  | issued _ _ _ _ _ unissued subject =>
      exact absurd subject.2 (unissued.issue_ne isIssued).1

/-- The invariant together with the failure of one command. -/
structure Settled
    (intake : RedisReservationIntake Hash)
    (eventId commandId : Uuid)
    (payload : CommandPayload Hash)
    (world : World Hash) : Prop where
  upheld : world.Upheld intake
  failed : FailedAs eventId commandId payload world

omit [DecidableEq Hash] in
theorem Settled.untraced
    {eventId commandId : Uuid}
    {payload : CommandPayload Hash}
    (settled : Settled intake eventId commandId payload world) :
    Untraced world.db payload := by
  obtain ⟨command, found, status, rfl⟩ := settled.failed
  exact settled.upheld.untraced (Redis.issue?_of_find? found)
    (.failed command found status)

/--
In every run in which no delivery of a rejected command finds it grantable, a
command that is `FAILED` has no command row, hold or order with its
identifiers, neither then nor in any later state.
-/
theorem failed_commands
    {start middle final : World Hash}
    {early late : List (Action Hash)}
    (sameDigest : intake.digest = self.digest)
    (initial : start.Initial)
    (earlyRun : Run (UpholdingStep self intake) start early middle)
    (lateRun : Run (UpholdingStep self intake) middle late final) :
    ∀ command ∈ middle.redis.commands,
      command.status = .failed →
      command.payload.commandId = command.commandId ∧
        command.payload.holdId = command.response.holdId ∧
        command.payload.orderId = command.response.orderId ∧
        Untraced middle.db command.payload ∧
        Untraced final.db command.payload := by
  intro command member failed
  have upheld : middle.Upheld intake :=
    earlyRun.invariant (initial.upheld intake)
      fun holds step => holds.step sameDigest step
  have found :
      middle.redis.commands.find? (command.eventId, command.commandId) =
        some command :=
    Table.find?_key member
  have settled :
      Settled intake command.eventId command.commandId command.payload
        middle :=
    ⟨upheld, command, found, failed, rfl⟩
  have settledLater :
      Settled intake command.eventId command.commandId command.payload
        final :=
    lateRun.invariant settled fun holds step =>
      ⟨holds.upheld.step sameDigest step,
        holds.failed.step holds.upheld.sound.linked step.1⟩
  obtain ⟨_, sameId, sameHold, sameOrder, _⟩ :=
    upheld.sound.linked.issue_ids (Redis.issue?_of_find? found)
  exact ⟨sameId, sameHold.symm, sameOrder.symm, settled.untraced,
    settledLater.untraced⟩

end World

/-! ## A verdict that is judged again -/

/-- The command comes while PostgreSQL still holds its seat for another. -/
def heldWorld : World Request :=
  { mappedWorld with
    db :=
      (smallStore.transaction (.reserve "alice" 1 ["A1"] "first")
        (smallAmbient 1 600) mappedWorld.db).2 }

def judgedRequest : NewCommand := smallRequest "bob" "A1" 500 50

def judgedEntry : StreamEntry Request := smallEntry judgedRequest 1 50

def judgedAccepted : World Request := heldWorld.enqueued judgedRequest 50

def judgedDelivered : World Request := judgedAccepted.delivered 0 judgedEntry

def judgedRejected : World Request :=
  judgedDelivered.persistedAs 0 judgedEntry (smallAmbient 51 610)
    (.rejected .seatUnavailable)

def judgedFailed : World Request :=
  { judgedRejected with
    redis :=
      (judgedRejected.redis.markFailed 1 500 ["A1"]
        .seatUnavailable).2 }.advance 0
    { stream := 1, entry := judgedEntry, stage := .rejected .seatUnavailable }
    .markedFailed

/-- The writer stops before it acknowledges the entry. -/
def judgedCrashed : World Request := judgedFailed.setWriter 0 none

def judgedAgain : World Request := judgedCrashed.delivered 1 judgedEntry

/-- The hold of the other customer has run out. -/
def judgedGranted : World Request :=
  judgedAgain.persistedAs 1 judgedEntry (smallAmbient 130 620) .persisted

/-- The steps until the failure is recorded. -/
def judgedTrace : List (Action Request) :=
  [.project 0 smallSnapshot, .putProjection 0 700,
    .transact (.reserve "alice" 1 ["A1"] "first") (smallAmbient 1 600),
    .enqueue judgedRequest 50, .deliver 0 1 judgedEntry,
    .persist 0 (smallAmbient 51 610), .markFailed 0]

theorem run_judgedTrace :
    Run (World.UpholdingStep smallStore smallIntake) smallWorld judgedTrace
      judgedFailed := by
  have held :
      World.Step smallStore smallIntake mappedWorld
        (.transact (.reserve "alice" 1 ["A1"] "first")
          (smallAmbient 1 600))
        heldWorld := by
    refine .transact rfl ?_
    intro command member
    cases member
  have accepted :
      World.Step smallStore smallIntake heldWorld
        (.enqueue judgedRequest 50) judgedAccepted :=
    .enqueue (by decide)
  have delivered :
      World.Step smallStore smallIntake judgedAccepted
        (.deliver 0 1 judgedEntry) judgedDelivered :=
    .deliver rfl (by decide) (by decide)
  have rejected :
      World.Step smallStore smallIntake judgedDelivered
        (.persist 0 (smallAmbient 51 610)) judgedRejected := by
    have working :
        judgedDelivered.writers 0 =
          some { stream := 1, entry := judgedEntry } :=
      rfl
    have raises :
        (smallStore.transaction
            (.persistReservationCommand judgedEntry.payload
              judgedEntry.response)
            (smallAmbient 51 610) judgedDelivered.db).1 =
          .error (fail .seatUnavailable) := by
      decide
    exact .rejected_of_error working rfl raises
  have failed :
      World.Step smallStore smallIntake judgedRejected (.markFailed 0)
        judgedFailed := by
    have working :
        judgedRejected.writers 0 =
          some
            { stream := 1
              entry := judgedEntry
              stage := .rejected .seatUnavailable } :=
      rfl
    exact .markFailed working rfl
  have upholds :
      judgedDelivered.Upholds (.persist 0 (smallAmbient 51 610)) := by
    intro writer working _ grantable
    cases working
    exact absurd grantable.free (by decide)
  exact
    .cons ⟨step_readWorld, trivial⟩ <|
    .cons ⟨step_mappedWorld, trivial⟩ <|
    .cons ⟨held, trivial⟩ <|
    .cons ⟨accepted, trivial⟩ <|
    .cons ⟨delivered, trivial⟩ <|
    .cons ⟨rejected, upholds⟩ <|
    .single ⟨failed, trivial⟩

theorem step_judgedCrashed :
    World.Step smallStore smallIntake judgedFailed (.crash 0)
      judgedCrashed :=
  .crash

theorem step_judgedAgain :
    World.Step smallStore smallIntake judgedCrashed
      (.deliver 1 1 judgedEntry) judgedAgain :=
  .deliver rfl (by decide) (by decide)

/-- The failed command has no trace while its entry is delivered again. -/
theorem failed_commands_judgedAgain :
    Untraced judgedFailed.db judgedEntry.payload ∧
      Untraced judgedAgain.db judgedEntry.payload := by
  have later :
      Run (World.UpholdingStep smallStore smallIntake) judgedFailed
        [.crash 0, .deliver 1 1 judgedEntry] judgedAgain :=
    .cons ⟨step_judgedCrashed, trivial⟩ <|
    .single ⟨step_judgedAgain, trivial⟩
  exact (World.failed_commands rfl smallWorld_initial run_judgedTrace later
    { smallHash judgedRequest 50 with
      status := .failed
      errorCode := some .seatUnavailable }
    (by decide) rfl).2.2.2

/--
A writer stops after `mark_failed`; the next delivery of the entry finds the
seat free and stores the reservation of a command that is `FAILED`.
-/
theorem failed_command_stored :
    ∃ trace final command,
      smallWorld.Initial ∧
      Run (World.Step smallStore smallIntake) smallWorld trace final ∧
      command ∈ final.redis.commands ∧
      command.status = .failed ∧
      final.db.reservationCommands.find? command.commandId ≠ none ∧
      final.db.holds.find? command.response.holdId ≠ none ∧
      final.db.orders.find? command.response.orderId ≠ none := by
  have granted :
      World.Step smallStore smallIntake judgedAgain
        (.persist 1 (smallAmbient 130 620)) judgedGranted := by
    have working :
        judgedAgain.writers 1 = some { stream := 1, entry := judgedEntry } :=
      rfl
    refine .persisted_of_isOk working rfl ?_
    decide
  have later :
      Run (World.Step smallStore smallIntake) judgedFailed
        [.crash 0, .deliver 1 1 judgedEntry,
          .persist 1 (smallAmbient 130 620)]
        judgedGranted :=
    .cons step_judgedCrashed (.cons step_judgedAgain (.single granted))
  refine ⟨_, judgedGranted,
    { smallHash judgedRequest 50 with
      status := .failed
      errorCode := some .seatUnavailable },
    smallWorld_initial,
    (run_judgedTrace.mono fun step => step.1).append later, ?_⟩
  decide

end FlashTicketing
