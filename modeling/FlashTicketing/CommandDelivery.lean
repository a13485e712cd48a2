import FlashTicketing.CommandDurability

namespace FlashTicketing

open Relational Checked Transition

/-!
# No accepted command is lost, and each is written once

A pending command keeps its entry in the stream: an entry is acknowledged only
by a writer whose command is settled.  A durable command is stored completely.
The rows that a command leaves are paid for by its row in
`reservation_commands`, which is inserted at most once.
-/

variable {Hash : Type}

/-- Pending commands wait in the stream and durable ones are stored. -/
structure World.Tended (world : World Hash) : Prop where
  waiting :
    ∀ {eventId commandId command},
      world.redis.commands.find? (eventId, commandId) = some command →
      command.status = .pending →
      ∃ entry ∈ (world.redis.streams eventId).entries,
        entry.commandId = commandId ∧
          entry.messageId ∉ (world.redis.streams eventId).acknowledged
  acknowledged :
    ∀ eventId,
      ∀ messageId ∈ (world.redis.streams eventId).acknowledged,
        messageId ≤ (world.redis.streams eventId).lastId
  durable :
    ∀ {eventId commandId command},
      world.redis.commands.find? (eventId, commandId) = some command →
      command.status = .durable →
      Durable world.db command.payload
  persisted :
    ∀ {slot writer},
      world.writers slot = some writer →
      writer.stage = .persisted →
      Durable world.db writer.entry.payload
  settled :
    ∀ {slot writer},
      world.writers slot = some writer →
      writer.stage.settled = true →
      ∀ {command},
        world.redis.commands.find?
            (writer.stream, writer.entry.commandId) = some command →
        command.status ≠ .pending

namespace World

variable
  [DecidableEq Hash]
  {self : PostgresReservations Hash}
  {intake : RedisReservationIntake Hash}
  {world after : World Hash}
  {action : Action Hash}

/-- A settled command does not become pending again. -/
theorem Step.pending_before
    {slot : Nat}
    {writer : Writer Hash}
    {next : CommandHash Hash}
    (linked : world.Linked intake)
    (step : Step self intake world action after)
    (working : world.writers slot = some writer)
    (found :
      after.redis.commands.find?
        (writer.stream, writer.entry.commandId) = some next)
    (pending : next.status = .pending) :
    world.redis.commands.find?
      (writer.stream, writer.entry.commandId) = some next := by
  cases step.restated linked found with
  | kept found => exact found
  | failed _ _ _ _ _ _ _ _ _ isNext =>
      rw [isNext] at pending
      cases pending
  | durable _ _ _ _ _ _ _ _ isNext =>
      rw [isNext] at pending
      cases pending
  | issued command _ _ _ _ unissued subject =>
      exact absurd subject.2
        (unissued.issue_ne (linked.writer_issue working)).1

theorem Tended.waiting_after
    {eventId commandId : Uuid}
    {command : CommandHash Hash}
    (tended : world.Tended)
    (linked : world.Linked intake)
    (step : Step self intake world action after)
    (found :
      after.redis.commands.find? (eventId, commandId) = some command)
    (pending : command.status = .pending) :
    ∃ entry ∈ (after.redis.streams eventId).entries,
      entry.commandId = commandId ∧
        entry.messageId ∉ (after.redis.streams eventId).acknowledged := by
  cases step.restated linked found with
  | kept foundBefore =>
      obtain ⟨entry, listed, ofCommand, unacknowledged⟩ :=
        tended.waiting foundBefore pending
      rcases step.stream_cases eventId with
        same | ⟨new, added⟩ |
        ⟨slot, writer, working, settled, rfl, acknowledged⟩
      · rw [same]
        exact ⟨entry, listed, ofCommand, unacknowledged⟩
      · rw [added]
        exact ⟨entry, List.mem_append_left _ listed, ofCommand,
          unacknowledged⟩
      · -- The writer's command is settled, so its entry is another one.
        have otherId : entry.messageId ≠ writer.entry.messageId := by
          intro sameId
          have sameEntry : entry = writer.entry :=
            linked.numbered (Or.inl listed)
              (Or.inr ⟨slot, writer, working, rfl, rfl⟩) sameId
          rw [← ofCommand, sameEntry] at foundBefore
          exact tended.settled working settled foundBefore pending
        rcases acknowledged with isAck | isDelete
        · rw [isAck]
          refine ⟨entry, listed, ofCommand, ?_⟩
          simp only [Stream.ack, List.mem_cons, not_or]
          exact ⟨otherId, unacknowledged⟩
        · rw [isDelete]
          refine ⟨entry, ?_, ofCommand, unacknowledged⟩
          simp only [Stream.delete, List.mem_filter, decide_eq_true_eq]
          exact ⟨listed, otherId⟩
  | failed _ _ _ _ _ _ _ _ _ isNext =>
      rw [isNext] at pending
      cases pending
  | durable _ _ _ _ _ _ _ _ isNext =>
      rw [isNext] at pending
      cases pending
  | issued new now sale version selected _ subject _ isAfter =>
      obtain ⟨rfl, rfl⟩ := subject
      have isStream :=
        Redis.streams_setStream world.redis new.eventId new.eventId
          ((world.redis.streams new.eventId).add fun messageId =>
            { messageId := messageId
              commandId := new.commandId
              payload := intake.payload new
              response :=
                (intake.accept new now sale version selected
                  world.redis).1
              createdAtEpoch := now })
      rw [if_pos rfl] at isStream
      have afterStream :
          after.redis.streams new.eventId =
            (world.redis.streams new.eventId).add fun messageId =>
              { messageId := messageId
                commandId := new.commandId
                payload := intake.payload new
                response :=
                  (intake.accept new now sale version selected
                    world.redis).1
                createdAtEpoch := now } := by
        rw [isAfter]
        exact isStream
      rw [afterStream]
      refine ⟨_, List.mem_append_right _ List.mem_cons_self, rfl, ?_⟩
      intro reused
      have bounded := tended.acknowledged new.eventId _ reused
      dsimp only at bounded
      omega

theorem Tended.acknowledged_after
    (tended : world.Tended)
    (linked : world.Linked intake)
    (step : Step self intake world action after)
    (eventId : Uuid)
    (messageId : Nat)
    (acknowledged :
      messageId ∈ (after.redis.streams eventId).acknowledged) :
    messageId ≤ (after.redis.streams eventId).lastId := by
  rcases step.stream_cases eventId with
    same | ⟨entry, added⟩ |
    ⟨slot, writer, working, _, rfl, isAck | isDelete⟩
  · rw [same] at acknowledged ⊢
    exact tended.acknowledged eventId messageId acknowledged
  · rw [added] at acknowledged ⊢
    exact (tended.acknowledged eventId messageId acknowledged).trans
      (Nat.le_succ _)
  · rw [isAck] at acknowledged ⊢
    rcases List.mem_cons.mp acknowledged with rfl | old
    · exact (linked.belongs (Or.inr ⟨slot, writer, working, rfl, rfl⟩)).2
    · exact tended.acknowledged _ messageId old
  · rw [isDelete] at acknowledged ⊢
    exact tended.acknowledged _ messageId acknowledged

/-- A command that Redis reports durable is stored. -/
theorem Tended.durable_after
    {eventId commandId : Uuid}
    {command : CommandHash Hash}
    (tended : world.Tended)
    (sound : world.Sound intake)
    (step : Step self intake world action after)
    (found :
      after.redis.commands.find? (eventId, commandId) = some command)
    (isDurable : command.status = .durable) :
    Durable after.db command.payload := by
  cases step.restated sound.linked found with
  | kept foundBefore =>
      exact sound.durable_after step (Redis.issue?_of_find? foundBefore)
        (tended.durable foundBefore isDurable)
  | failed _ _ _ _ _ _ _ _ _ isNext =>
      rw [isNext] at isDurable
      cases isDurable
  | durable slot writer old working stage subject foundBefore _ isNext =>
      obtain ⟨rfl, rfl⟩ := subject
      have writerIssue := sound.linked.writer_issue working
      have samePayload : old.payload = writer.entry.payload := by
        rw [Redis.issue?, foundBefore] at writerIssue
        exact congrArg Prod.fst (Option.some.inj writerIssue)
      rw [isNext]
      change Durable after.db old.payload
      rw [samePayload]
      exact sound.durable_after step writerIssue
        (tended.persisted working stage)
  | issued _ _ _ _ _ _ _ pending =>
      rw [pending] at isDurable
      cases isDurable

/-- A writer that has persisted its command finds it stored. -/
theorem Tended.persisted_after
    {slot : Nat}
    {next : Writer Hash}
    (tended : world.Tended)
    (sound : world.Sound intake)
    (step : Step self intake world action after)
    (working : after.writers slot = some next)
    (isPersisted : next.stage = .persisted) :
    Durable after.db next.entry.payload := by
  have linked := sound.linked
  cases step.proceeds working with
  | kept working =>
      exact sound.durable_after step (linked.writer_issue working)
        (tended.persisted working isPersisted)
  | persisted writer ambient result working isNext answered =>
      obtain ⟨_, _, hold, order, _⟩ :=
        linked.issue_ids (linked.writer_issue working)
      have answeredStep :
          self.AnsweredStep world.db
            ⟨writer.call, ambient, .ok result⟩ after.db :=
        answered
      have complete := sound.complete (linked.writer_issue working)
      rw [isNext]
      exact answeredStep.durable_of_persist sound.responded
        sound.references rfl ⟨hold, order⟩ complete rfl
  | delivered stage =>
      rw [stage] at isPersisted
      cases isPersisted
  | rejected _ _ _ _ isNext =>
      rw [isNext] at isPersisted
      cases isPersisted
  | markedFailed _ _ _ _ isNext =>
      rw [isNext] at isPersisted
      cases isPersisted
  | markedDurable _ _ _ isNext =>
      rw [isNext] at isPersisted
      cases isPersisted
  | settled _ stage _ _ isNext later =>
      rw [isNext] at isPersisted
      dsimp only at isPersisted
      rw [isPersisted] at later
      cases later

/-- A settled command is not pending. -/
theorem Tended.settled_after
    {slot : Nat}
    {next : Writer Hash}
    {command : CommandHash Hash}
    (tended : world.Tended)
    (linked : world.Linked intake)
    (step : Step self intake world action after)
    (working : after.writers slot = some next)
    (isSettled : next.stage.settled = true)
    (found :
      after.redis.commands.find? (next.stream, next.entry.commandId) =
        some command) :
    command.status ≠ .pending := by
  intro pending
  cases step.proceeds working with
  | kept working =>
      exact tended.settled working isSettled
        (step.pending_before linked working found pending) pending
  | delivered stage =>
      rw [stage] at isSettled
      cases isSettled
  | persisted _ _ _ _ isNext =>
      rw [isNext] at isSettled
      cases isSettled
  | rejected _ _ _ _ isNext =>
      rw [isNext] at isSettled
      cases isSettled
  | markedFailed writer code working stage isNext marked =>
      obtain ⟨sameEvent, sameId⟩ := linked.writer_key working
      rw [sameEvent, sameId] at marked
      rw [isNext, marked] at found
      exact Redis.not_pending_of_markFailed found pending
  | markedDurable writer working stage isNext marked =>
      obtain ⟨sameEvent, sameId⟩ := linked.writer_key working
      rw [sameEvent, sameId] at marked
      rw [isNext] at found
      exact Redis.not_pending_of_markDurable marked found pending
  | settled writer stage working before isNext =>
      rw [isNext] at found
      exact tended.settled working before
        (step.pending_before linked working found pending) pending

theorem Tended.step
    (tended : world.Tended)
    (sound : world.Sound intake)
    (step : Step self intake world action after) :
    after.Tended where
  waiting := tended.waiting_after sound.linked step
  acknowledged := tended.acknowledged_after sound.linked step
  durable := tended.durable_after sound step
  persisted := tended.persisted_after sound step
  settled := fun working isSettled =>
    tended.settled_after sound.linked step working isSettled

omit [DecidableEq Hash] in
theorem Initial.tended
    (initial : world.Initial) :
    world.Tended := by
  refine ⟨?_, ?_, ?_, ?_, ?_⟩
  · intro eventId commandId command found
    rw [initial.redis] at found
    cases found
  · intro eventId messageId acknowledged
    rw [initial.redis] at acknowledged
    cases acknowledged
  · intro eventId commandId command found
    rw [initial.redis] at found
    cases found
  · intro slot writer working
    rw [initial.idle] at working
    cases working
  · intro slot writer working
    rw [initial.idle] at working
    cases working

/-- The invariant of delivery. -/
structure Delivering
    (intake : RedisReservationIntake Hash)
    (world : World Hash) : Prop where
  sound : world.Sound intake
  tended : world.Tended

theorem Delivering.step
    (delivering : world.Delivering intake)
    (step : Step self intake world action after) :
    after.Delivering intake :=
  ⟨delivering.sound.step step,
    delivering.tended.step delivering.sound step⟩

end World

/-! ## What the processing of a command leaves -/

/-- The version of a seat, zero when there is no such seat. -/
def Database.versionAt (db : Database Hash) (place : Place) : Nat :=
  ((db.eventSeats.find? place).map EventSeat.version).getD 0

/-- A step together with the outbox rows and version increments it made. -/
structure Observed (Hash : Type) where
  action : Action Hash
  /-- The event and the command that a writer persists. -/
  subject : Option (Uuid × Uuid)
  announced : Nat
  raised : Place → Nat

/-- The outbox rows made by processing a command. -/
def Observed.announcedBy
    (key : Uuid × Uuid)
    (label : Observed Hash) : Nat :=
  if label.subject = some key then label.announced else 0

/-- The increments of a seat's version made by processing a command. -/
def Observed.raisedBy
    (key : Uuid × Uuid)
    (place : Place)
    (label : Observed Hash) : Nat :=
  if label.subject = some key then label.raised place else 0

/-- The command of the entry that a step persists. -/
def World.subject
    (world : World Hash) : Action Hash → Option (Uuid × Uuid)
  | .persist slot _ =>
      (world.writers slot).map fun writer =>
        (writer.stream, writer.entry.commandId)
  | _ => none

/-- Everything that can be observed of a step. -/
def World.observe
    (world : World Hash)
    (action : Action Hash)
    (after : World Hash) : Observed Hash where
  action := action
  subject := world.subject action
  announced :=
    (Table.newRows world.db.outboxEvents after.db.outboxEvents).length
  raised := fun place => after.db.versionAt place - world.db.versionAt place

/-- The row of a command pays for what its processing leaves. -/
def commandCount (commandId : Uuid) (db : Database Hash) : Nat :=
  if db.reservationCommands.find? commandId = none then 0 else 1

/-- One announcement is one new outbox row. -/
theorem Announces.length_newRows_le_one
    {row : OutboxEvent}
    {db after : Database Hash}
    (announces : Announces [row] db after) :
    (Table.newRows db.outboxEvents after.outboxEvents).length ≤ 1 := by
  have gained :
      ∀ id,
        after.outboxEvents.find? id =
          if id = row.id then some row else db.outboxEvents.find? id := by
    intro id
    have stored : row ∈ after.outboxEvents :=
      (announces.rows row).mpr (Or.inr (List.mem_singleton.mpr rfl))
    by_cases same : id = row.id
    · rw [if_pos same, same]
      exact Table.find?_key stored
    · rw [if_neg same]
      refine Option.ext fun other => ?_
      simp only [Table.find?_eq_some_iff, announces.rows,
        List.mem_singleton]
      constructor
      · rintro ⟨old | rfl, isKey⟩
        · exact ⟨old, isKey⟩
        · exact absurd isKey.symm same
      · rintro ⟨old, isKey⟩
        exact ⟨Or.inl old, isKey⟩
  exact Table.length_newRows_le_one gained

/-- Placing a hold raises the version of a seat at most once. -/
theorem Placed.versionAt_le
    {now : Int}
    {hold : Hold}
    {order : Order}
    {rows : List EventSeat}
    {seats : List SeatId}
    {announcement : Uuid}
    {db after : Database Hash}
    (placed : Placed now hold order rows seats announcement db after)
    (place : Place) :
    after.versionAt place - db.versionAt place ≤ 1 := by
  unfold Database.versionAt
  rw [placed.seatsHeld]
  cases db.eventSeats.find? place with
  | none => simp
  | some seat =>
      simp only [Option.map_some, Option.getD_some]
      split
      · simp [EventSeat.hold]
      · simp

section Observation

variable
  [DecidableEq Hash]
  {self : PostgresReservations Hash}
  {intake : RedisReservationIntake Hash}

/-- Rows of `reservation_commands` are never deleted. -/
theorem PostgresReservations.AnsweredStep.commandCount_le
    {db after : Database Hash}
    {label : Answered Hash}
    (responded : Responded db)
    (step : self.AnsweredStep db label after)
    (commandId : Uuid) :
    commandCount commandId db ≤ commandCount commandId after := by
  unfold commandCount
  rcases step.cases responded with
    ⟨_, rfl⟩ | ⟨_, _, _, _, answers⟩ | ⟨_, same⟩
  · exact Nat.le_refl _
  · cases answers with
    | replayed _ _ _ _ _ _ _ _ _ unchanged => rw [unchanged]
    | recalled _ _ _ _ _ _ _ _ unchanged => rw [unchanged]
    | claimed _ _ _ _ _ commands => rw [commands]
    | persisted _ _ _ _ _ _ _ _ _ _ _ _ _ _ commands =>
        rw [commands]
        by_cases isNew : commandId = ‹CommandPayload Hash›.commandId
        · rw [if_pos isNew]
          split <;> simp
        · rw [if_neg isNew]
  · rw [same.commands]

/-- What one call for a command leaves is paid for by the command's row. -/
theorem PostgresReservations.AnsweredStep.persist_paid
    {db after : Database Hash}
    {label : Answered Hash}
    {payload : CommandPayload Hash}
    {reply : CommandResponse}
    (responded : Responded db)
    (step : self.AnsweredStep db label after)
    (called : label.call = .persistReservationCommand payload reply) :
    commandCount payload.commandId db +
          (Table.newRows db.outboxEvents after.outboxEvents).length ≤
        commandCount payload.commandId after ∧
      ∀ place,
        commandCount payload.commandId db +
            (after.versionAt place - db.versionAt place) ≤
          commandCount payload.commandId after := by
  rcases step.cases responded with
    ⟨_, rfl⟩ | ⟨_, _, _, _, answers⟩ | ⟨unkeyed, _⟩
  · simp
  · cases answers with
    | replayed _ _ _ _ _ _ _ _ _ unchanged =>
        rw [unchanged]
        simp
    | recalled _ _ _ _ _ _ _ _ unchanged =>
        rw [unchanged]
        simp
    | claimed _ _ _ _ _ _ _ direct =>
        rw [called] at direct
        cases direct
    | persisted other _ _ _ _ _ otherCalled _ _ _ _ _ placed unrecorded
        commands =>
        rw [called] at otherCalled
        cases otherCalled
        have countBefore : commandCount payload.commandId db = 0 := by
          simp [commandCount, unrecorded]
        have countAfter : commandCount payload.commandId after = 1 := by
          simp [commandCount, commands]
        have announced := placed.announces.length_newRows_le_one
        have raised := placed.versionAt_le
        rw [countBefore, countAfter]
        refine ⟨by omega, ?_⟩
        intro place
        have raisedHere := raised place
        omega
  · rw [called] at unkeyed
    cases unkeyed

namespace World

variable {world after : World Hash}

/-- A step whose effects are recorded in its label. -/
def ObservedStep
    (self : PostgresReservations Hash)
    (intake : RedisReservationIntake Hash)
    (world : World Hash)
    (label : Observed Hash)
    (after : World Hash) : Prop :=
  Step self intake world label.action after ∧
    label = world.observe label.action after

theorem Step.observed
    {action : Action Hash}
    (step : Step self intake world action after) :
    ObservedStep self intake world (world.observe action after) after :=
  ⟨step, rfl⟩

/-- The transaction of a writer. -/
theorem Step.answered_of_persist
    {slot : Nat}
    {ambient : Ambient}
    (step : Step self intake world (.persist slot ambient) after) :
    ∃ writer answer,
      world.writers slot = some writer ∧
        self.AnsweredStep world.db ⟨writer.call, ambient, answer⟩
          after.db := by
  cases step with
  | persisted working _ answered => exact ⟨_, _, working, answered⟩
  | rejected working _ answered => exact ⟨_, _, working, answered⟩
  | raised working _ _ answered => exact ⟨_, _, working, answered⟩

theorem Sound.commandCount_le
    {action : Action Hash}
    (sound : world.Sound intake)
    (step : Step self intake world action after)
    (commandId : Uuid) :
    commandCount commandId world.db ≤ commandCount commandId after.db := by
  rcases step.db_cases with
    same | ⟨_, _, _, answered⟩ | ⟨_, _, _, _, _, _, answered⟩
  · rw [same]
  · exact answered.commandCount_le sound.responded commandId
  · exact answered.commandCount_le sound.responded commandId

/-- The row of a command pays for every step that processes it. -/
theorem Sound.paid
    {label : Observed Hash}
    (sound : world.Sound intake)
    (step : ObservedStep self intake world label after)
    (key : Uuid × Uuid) :
    commandCount key.2 world.db + label.announcedBy key ≤
        commandCount key.2 after.db ∧
      ∀ place,
        commandCount key.2 world.db + label.raisedBy key place ≤
          commandCount key.2 after.db := by
  obtain ⟨taken, isLabel⟩ := step
  unfold Observed.announcedBy Observed.raisedBy
  by_cases subject : label.subject = some key
  · simp only [if_pos subject]
    rw [isLabel] at subject ⊢
    have isPersist :
        ∃ slot ambient, label.action = .persist slot ambient := by
      cases isAction : label.action with
      | persist slot ambient => exact ⟨slot, ambient, rfl⟩
      | transact | enqueue | deliver | markFailed | readSnapshot
      | putSnapshot | markDurable | acknowledge | delete | crash | project
      | putProjection | abandon =>
          rw [isAction] at subject
          cases subject
    obtain ⟨slot, ambient, isAction⟩ := isPersist
    rw [isAction] at taken subject
    obtain ⟨writer, answer, working, answered⟩ := taken.answered_of_persist
    have isKey : (writer.stream, writer.entry.commandId) = key := by
      simpa [observe, World.subject, working] using subject
    have sameId := (sound.linked.writer_key working).2
    have paid := answered.persist_paid sound.responded rfl
    rw [← isKey]
    rw [sameId] at paid
    exact paid
  · have grows := sound.commandCount_le taken key.2
    simp only [if_neg subject]
    exact ⟨grows, fun _ => grows⟩

/--
In every reachable state a pending command has its entry in the stream, and a
durable one is stored exactly once with the identifiers that the intake
returned.  However often its entry is processed, a command adds at most one row
to the outbox and raises the version of a seat at most once.
-/
theorem command_delivery
    {start final : World Hash}
    {trace : List (Observed Hash)}
    (initial : start.Initial)
    (run : Run (ObservedStep self intake) start trace final) :
    (∀ command ∈ final.redis.commands,
      command.status = .pending →
      ∃ entry ∈ (final.redis.streams command.eventId).entries,
        entry.commandId = command.commandId ∧
          entry.payload = command.payload) ∧
    (∀ command ∈ final.redis.commands,
      command.status = .durable →
      Durable final.db command.payload ∧
        command.payload.commandId = command.commandId ∧
        command.payload.holdId = command.response.holdId ∧
        command.payload.orderId = command.response.orderId ∧
        command.payload.seatIds = command.response.seats) ∧
    ∀ key,
      (trace.map (Observed.announcedBy key)).sum ≤ 1 ∧
        ∀ place,
          (trace.map (Observed.raisedBy key place)).sum ≤ 1 := by
  have delivering : final.Delivering intake :=
    run.invariant ⟨initial.sound intake, initial.tended⟩
      fun holds step => holds.step step.1
  obtain ⟨sound, tended⟩ := delivering
  have issueOf :
      ∀ command ∈ final.redis.commands,
        final.redis.commands.find?
            (command.eventId, command.commandId) = some command ∧
          final.redis.issue? command.eventId command.commandId =
            some (command.payload, command.response) := by
    intro command member
    have found :
        final.redis.commands.find?
          (command.eventId, command.commandId) = some command :=
      Table.find?_key member
    exact ⟨found, Redis.issue?_of_find? found⟩
  refine ⟨?_, ?_, ?_⟩
  · intro command member pending
    obtain ⟨found, isIssued⟩ := issueOf command member
    obtain ⟨entry, listed, ofCommand, _⟩ := tended.waiting found pending
    have carried := (sound.linked.belongs (Or.inl listed)).1
    rw [ofCommand, isIssued] at carried
    exact ⟨entry, listed, ofCommand,
      (congrArg Prod.fst (Option.some.inj carried)).symm⟩
  · intro command member isDurable
    obtain ⟨found, isIssued⟩ := issueOf command member
    obtain ⟨_, sameId, sameHold, sameOrder, sameSeats, _⟩ :=
      sound.linked.issue_ids isIssued
    exact ⟨tended.durable found isDurable, sameId, sameHold.symm,
      sameOrder.symm, sameSeats.symm⟩
  · intro key
    have count_le_one :
        ∀ state : World Hash, commandCount key.2 state.db ≤ 1 := by
      intro state
      unfold commandCount
      split <;> omega
    have announced :=
      run.totalCost_le (Sound intake) (Observed.announcedBy key)
        (initial.sound intake)
        (fun sound step => sound.step step.1)
        (fun sound step => (sound.paid step key).1)
        (fun _ => count_le_one _)
    refine ⟨by omega, ?_⟩
    intro place
    have raised :=
      run.totalCost_le (Sound intake) (Observed.raisedBy key place)
        (initial.sound intake)
        (fun sound step => sound.step step.1)
        (fun sound step => (sound.paid step key).2 place)
        (fun _ => count_le_one _)
    omega

end World

end Observation

/-! ## An entry processed twice -/

/-- A command that is accepted and delivered to two writers. -/
def twiceRequest : NewCommand := smallRequest "alice" "A1" 500 1

def twiceEntry : StreamEntry Request := smallEntry twiceRequest 1 1

def twiceAccepted : World Request := mappedWorld.enqueued twiceRequest 1

def onceDelivered : World Request := twiceAccepted.delivered 0 twiceEntry

def twiceDelivered : World Request := onceDelivered.delivered 1 twiceEntry

/-- Both writers persist it, and one records that. -/
def oncePersisted : World Request :=
  twiceDelivered.persistedAs 0 twiceEntry (smallAmbient 3 600) .persisted

def twicePersisted : World Request :=
  oncePersisted.persistedAs 1 twiceEntry (smallAmbient 4 610) .persisted

def twiceDurable : World Request :=
  { twicePersisted with
    redis := (twicePersisted.redis.markDurable 1 500).2 }.advance 1
    { stream := 1, entry := twiceEntry, stage := .persisted } .acknowledging

/-- The labels of that run. -/
def twiceObserved : List (Observed Request) :=
  [smallWorld.observe (.project 0 smallSnapshot) readWorld,
    readWorld.observe (.putProjection 0 700) mappedWorld,
    mappedWorld.observe (.enqueue twiceRequest 1) twiceAccepted,
    twiceAccepted.observe (.deliver 0 1 twiceEntry) onceDelivered,
    onceDelivered.observe (.deliver 1 1 twiceEntry) twiceDelivered,
    twiceDelivered.observe (.persist 0 (smallAmbient 3 600)) oncePersisted,
    oncePersisted.observe (.persist 1 (smallAmbient 4 610)) twicePersisted,
    twicePersisted.observe (.markDurable 1) twiceDurable]

theorem run_twiceObserved :
    Run (World.ObservedStep smallStore smallIntake) smallWorld
      twiceObserved twiceDurable := by
  have accepted :
      World.Step smallStore smallIntake mappedWorld
        (.enqueue twiceRequest 1) twiceAccepted :=
    .enqueue (by decide)
  have first :
      World.Step smallStore smallIntake twiceAccepted
        (.deliver 0 1 twiceEntry) onceDelivered :=
    .deliver rfl (by decide) (by decide)
  have second :
      World.Step smallStore smallIntake onceDelivered
        (.deliver 1 1 twiceEntry) twiceDelivered :=
    .deliver rfl (by decide) (by decide)
  have firstPersisted :
      World.Step smallStore smallIntake twiceDelivered
        (.persist 0 (smallAmbient 3 600)) oncePersisted := by
    have working :
        twiceDelivered.writers 0 =
          some { stream := 1, entry := twiceEntry } :=
      rfl
    refine .persisted_of_isOk working rfl ?_
    decide
  have secondPersisted :
      World.Step smallStore smallIntake oncePersisted
        (.persist 1 (smallAmbient 4 610)) twicePersisted := by
    have working :
        oncePersisted.writers 1 =
          some { stream := 1, entry := twiceEntry } :=
      rfl
    refine .persisted_of_isOk working rfl ?_
    decide
  have durable :
      World.Step smallStore smallIntake twicePersisted (.markDurable 1)
        twiceDurable :=
    .markedDurable rfl rfl rfl
  exact
    .cons step_readWorld.observed <|
    .cons step_mappedWorld.observed <|
    .cons accepted.observed <|
    .cons first.observed <|
    .cons second.observed <|
    .cons firstPersisted.observed <|
    .cons secondPersisted.observed <|
    .single durable.observed

/-- Both deliveries of the command together leave one announcement. -/
theorem command_delivery_twiceObserved :
    Durable twiceDurable.db (smallIntake.payload twiceRequest) ∧
      (twiceObserved.map (Observed.announcedBy (1, 500))).sum ≤ 1 ∧
      (twiceObserved.map
        (Observed.raisedBy (1, 500) (1, "A1"))).sum ≤ 1 := by
  obtain ⟨_, durable, once⟩ :=
    World.command_delivery smallWorld_initial run_twiceObserved
  refine ⟨?_, (once (1, 500)).1, (once (1, 500)).2 (1, "A1")⟩
  exact (durable { smallHash twiceRequest 1 with status := .durable }
    (by decide) rfl).1

example :
    twiceObserved.map (Observed.announcedBy (1, 500)) =
      [0, 0, 0, 0, 0, 1, 0, 0] := by
  decide

end FlashTicketing
