import FlashTicketing.RedisFirst

namespace FlashTicketing

open Relational Checked Transition

/-!
# What a step of the Redis-first system can do

Each theorem below says for one part of the state how it can change in a step:
the database, a stream, a command hash, a writer.  Invariants are proved
against these alternatives.
-/

variable {Hash : Type}

/-- The stages that a writer reaches after it has recorded its verdict. -/
def Stage.settled : Stage → Bool
  | .delivered | .persisted | .rejected _ => false
  | .markedFailed | .snapshotRead _ _ | .acknowledging | .deleting => true

/-! ## Commands and their entries -/

/-- The payload and the response with which a command was issued. -/
def Redis.issue?
    (redis : Redis Hash)
    (eventId commandId : Uuid) :
    Option (CommandPayload Hash × CommandResponse) :=
  (redis.commands.find? (eventId, commandId)).map fun command =>
    (command.payload, command.response)

theorem Redis.issue?_of_find?
    {redis : Redis Hash}
    {eventId commandId : Uuid}
    {command : CommandHash Hash}
    (found : redis.commands.find? (eventId, commandId) = some command) :
    redis.issue? eventId commandId =
      some (command.payload, command.response) := by
  rw [Redis.issue?, found]
  rfl

/-- The entry is in the stream or in the hands of a writer. -/
def World.Known
    (world : World Hash)
    (stream : Uuid)
    (entry : StreamEntry Hash) : Prop :=
  entry ∈ (world.redis.streams stream).entries ∨
    ∃ slot writer,
      world.writers slot = some writer ∧
        writer.stream = stream ∧ writer.entry = entry

/-- Commands come from the intake and every entry carries its command. -/
structure World.Linked
    (intake : RedisReservationIntake Hash)
    (world : World Hash) : Prop where
  issued :
    ∀ {eventId commandId payload response},
      world.redis.issue? eventId commandId = some (payload, response) →
      ∃ command now total currency,
        command.eventId = eventId ∧
          command.commandId = commandId ∧
          payload = intake.payload command ∧
          response = intake.response command now total currency
  distinct :
    ∀ {firstEvent firstId secondEvent secondId first second},
      world.redis.issue? firstEvent firstId = some first →
      world.redis.issue? secondEvent secondId = some second →
      firstId = secondId ∨
        first.1.holdId = second.1.holdId ∨
        first.1.orderId = second.1.orderId →
      firstEvent = secondEvent ∧ firstId = secondId
  belongs :
    ∀ {stream entry},
      world.Known stream entry →
      world.redis.issue? stream entry.commandId =
          some (entry.payload, entry.response) ∧
        entry.messageId ≤ (world.redis.streams stream).lastId
  numbered :
    ∀ {stream first second},
      world.Known stream first →
      world.Known stream second →
      first.messageId = second.messageId →
      first = second

/-- A step that neither issues a command nor makes an entry known. -/
structure World.Calm (world after : World Hash) : Prop where
  issue :
    ∀ eventId commandId,
      after.redis.issue? eventId commandId =
        world.redis.issue? eventId commandId
  known :
    ∀ {stream entry},
      after.Known stream entry →
      world.Known stream entry
  lastId :
    ∀ stream,
      (after.redis.streams stream).lastId =
        (world.redis.streams stream).lastId

namespace World

variable {world after : World Hash}

theorem Calm.refl (world : World Hash) : world.Calm world :=
  ⟨fun _ _ => rfl, fun known => known, fun _ => rfl⟩

theorem Calm.linked
    {intake : RedisReservationIntake Hash}
    (calm : world.Calm after)
    (linked : world.Linked intake) :
    after.Linked intake := by
  refine ⟨?_, ?_, ?_, ?_⟩
  · intro eventId commandId payload response
    rw [calm.issue]
    exact linked.issued
  · intro firstEvent firstId secondEvent secondId first second
    rw [calm.issue, calm.issue]
    exact linked.distinct
  · intro stream entry known
    rw [calm.issue, calm.lastId]
    exact linked.belongs (calm.known known)
  · intro stream first second firstKnown secondKnown
    exact linked.numbered (calm.known firstKnown) (calm.known secondKnown)

/-- A slot may take a writer whose entry is known. -/
theorem Calm.setWriter
    {slot : Nat}
    {writer? : Option (Writer Hash)}
    (calm : world.Calm after)
    (isKnown :
      ∀ writer,
        writer? = some writer →
        world.Known writer.stream writer.entry) :
    world.Calm (after.setWriter slot writer?) := by
  refine ⟨calm.issue, ?_, calm.lastId⟩
  rintro stream entry (listed | ⟨other, writer, working, rfl, rfl⟩)
  · exact calm.known (Or.inl listed)
  · simp only [World.setWriter, Function.update_apply] at working
    split at working
    · exact isKnown writer working
    · exact calm.known (Or.inr ⟨other, writer, working, rfl, rfl⟩)

theorem Calm.stop
    {slot : Nat}
    (calm : world.Calm after) :
    world.Calm (after.setWriter slot none) :=
  calm.setWriter fun _ isWriter => nomatch isWriter

/-- A writer keeps its entry as it proceeds. -/
theorem Calm.advance
    {slot : Nat}
    {writer : Writer Hash}
    {stage : Stage}
    (calm : world.Calm after)
    (working : world.writers slot = some writer) :
    world.Calm (after.advance slot writer stage) := by
  refine calm.setWriter ?_
  rintro _ ⟨⟩
  exact Or.inr ⟨slot, writer, working, rfl, rfl⟩

/-- Redis may restate a command, replace maps and drop entries. -/
theorem Calm.ofRedis
    {redis : Redis Hash}
    (issue :
      ∀ eventId commandId,
        redis.issue? eventId commandId =
          world.redis.issue? eventId commandId)
    (entries :
      ∀ stream,
        (redis.streams stream).entries ⊆
          (world.redis.streams stream).entries)
    (lastId :
      ∀ stream,
        (redis.streams stream).lastId =
          (world.redis.streams stream).lastId) :
    world.Calm { world with redis := redis } := by
  refine ⟨issue, ?_, lastId⟩
  rintro stream entry (listed | held)
  · exact Or.inl (entries stream listed)
  · exact Or.inr held

end World

/-- Restating a command does not change what was issued. -/
theorem Redis.issue?_upsert
    {redis : Redis Hash}
    {eventId commandId : Uuid}
    {command next : CommandHash Hash}
    (found : redis.commands.find? (eventId, commandId) = some command)
    (sameKey : Keyed.key next = Keyed.key command)
    (sameIssue :
      next.payload = command.payload ∧ next.response = command.response)
    (otherEvent otherId : Uuid) :
    ((redis.commands.upsert next).find? (otherEvent, otherId)).map
        (fun command => (command.payload, command.response)) =
      redis.issue? otherEvent otherId := by
  have isKey : Keyed.key next = (eventId, commandId) :=
    sameKey.trans (Table.key_of_find? found)
  rw [Redis.issue?, Table.find?_upsert]
  split
  · rename_i atKey
    rw [atKey, isKey, found, Option.map_some, Option.map_some, sameIssue.1,
      sameIssue.2]
  · rfl

namespace World

variable
  {world after : World Hash}
  {action : Action Hash}

theorem Calm.markFailed
    (world : World Hash)
    (eventId commandId : Uuid)
    (seatIds : List SeatId)
    (code : FailureCode) :
    world.Calm
      { world with
        redis :=
          (world.redis.markFailed eventId commandId seatIds code).2 } := by
  rcases world.redis.markFailed_cases eventId commandId seatIds code with
    ⟨refused, _⟩ | ⟨command, found, _, marked⟩
  · rw [refused]
    exact .refl world
  · rw [marked]
    exact .ofRedis (Redis.issue?_upsert found rfl ⟨rfl, rfl⟩)
      (fun _ _ member => member) (fun _ => rfl)

theorem Calm.markDurable
    {eventId commandId : Uuid}
    {reply : MarkReply}
    {redis : Redis Hash}
    (marked :
      world.redis.markDurable eventId commandId = (reply, redis)) :
    world.Calm { world with redis := redis } := by
  rcases Redis.markDurable_cases marked with
    ⟨_, rfl⟩ | ⟨command, found, _, _, rfl⟩
  · exact .refl world
  · exact .ofRedis (Redis.issue?_upsert found rfl ⟨rfl, rfl⟩)
      (fun _ _ member => member) (fun _ => rfl)

theorem Calm.setStream
    {stream : Uuid}
    {next : Stream Hash}
    (entries : next.entries ⊆ (world.redis.streams stream).entries)
    (lastId : next.lastId = (world.redis.streams stream).lastId) :
    world.Calm { world with redis := world.redis.setStream stream next } := by
  refine .ofRedis (fun _ _ => rfl) ?_ ?_
  · intro other
    simp only [Redis.setStream, Function.update_apply]
    split
    · rename_i same
      subst same
      exact entries
    · exact fun _ member => member
  · intro other
    simp only [Redis.setStream, Function.update_apply]
    split
    · rename_i same
      subst same
      exact lastId
    · rfl

/-- The state after an accepted command. -/
def accepted
    (intake : RedisReservationIntake Hash)
    (world : World Hash)
    (command : NewCommand)
    (now : Int)
    (sale : SaleWindow)
    (version : Nat)
    (selected : List SeatEntry) : World Hash :=
  { world with
    redis :=
      (intake.accept command now sale version selected world.redis).2 }

section Steps

variable
  [DecidableEq Hash]
  {self : PostgresReservations Hash}
  {intake : RedisReservationIntake Hash}

/-- Every step is calm, or it accepts a command. -/
theorem Step.calm_or_accepted
    (step : Step self intake world action after) :
    world.Calm after ∨
    ∃ command now sale version selected,
      world.Unissued command ∧
        action = .enqueue command now ∧
        intake.Accepts command now world.redis sale version selected ∧
        after = accepted intake world command now sale version selected := by
  cases step with
  | transact => exact Or.inl ⟨fun _ _ => rfl, id, fun _ => rfl⟩
  | @enqueue command now unissued =>
      rcases intake.enqueue_cases command now world.redis with
        ⟨refused, _⟩ | ⟨sale, version, selected, accepts, isAccepted⟩
      · rw [refused]
        exact Or.inl (.refl world)
      · exact Or.inr ⟨command, now, sale, version, selected, unissued, rfl,
          accepts, by rw [isAccepted]; rfl⟩
  | deliver _ listed =>
      refine Or.inl ((Calm.refl world).setWriter ?_)
      rintro _ ⟨⟩
      exact Or.inl listed
  | persisted working =>
      exact Or.inl (Calm.advance ⟨fun _ _ => rfl, id, fun _ => rfl⟩ working)
  | rejected working =>
      exact Or.inl (Calm.advance ⟨fun _ _ => rfl, id, fun _ => rfl⟩ working)
  | raised => exact Or.inl (Calm.stop ⟨fun _ _ => rfl, id, fun _ => rfl⟩)
  | markFailed working =>
      exact Or.inl ((Calm.markFailed world _ _ _ _).advance working)
  | readSnapshot working => exact Or.inl ((Calm.refl world).advance working)
  | putSnapshot working =>
      exact Or.inl (Calm.advance ⟨fun _ _ => rfl, id, fun _ => rfl⟩ working)
  | markedDurable working _ marked =>
      exact Or.inl ((Calm.markDurable marked).advance working)
  | notMarkedDurable _ _ _ marked =>
      exact Or.inl (Calm.markDurable marked).stop
  | acknowledge working =>
      refine Or.inl (Calm.advance (Calm.setStream ?_ rfl) working)
      exact fun _ member => member
  | delete =>
      refine Or.inl (Calm.stop (Calm.setStream ?_ rfl))
      exact List.filter_sublist.subset
  | crash => exact Or.inl (Calm.refl world).stop
  | project => exact Or.inl ⟨fun _ _ => rfl, id, fun _ => rfl⟩
  | putProjection => exact Or.inl ⟨fun _ _ => rfl, id, fun _ => rfl⟩
  | abandon => exact Or.inl ⟨fun _ _ => rfl, id, fun _ => rfl⟩

omit [DecidableEq Hash] in
/-- What an accepted command adds to the issued ones. -/
theorem issue?_accepted
    {command : NewCommand}
    {now : Int}
    {sale : SaleWindow}
    {version : Nat}
    {selected : List SeatEntry}
    (eventId commandId : Uuid) :
    (accepted intake world command now sale version selected).redis.issue?
        eventId commandId =
      if (eventId, commandId) = (command.eventId, command.commandId) then
        some (intake.payload command,
          (intake.accept command now sale version selected world.redis).1)
      else
        world.redis.issue? eventId commandId := by
  simp only [Redis.issue?, accepted, RedisReservationIntake.accept,
    Redis.setMap, Redis.setStream, Redis.addExpiry, Table.find?_upsert]
  split
  · rename_i atKey
    rw [if_pos (by exact atKey)]
    rfl
  · rename_i otherKey
    rw [if_neg (by exact otherKey)]

omit [DecidableEq Hash] in
/-- What an accepted command adds to the known entries. -/
theorem known_accepted
    {command : NewCommand}
    {now : Int}
    {sale : SaleWindow}
    {version : Nat}
    {selected : List SeatEntry}
    {stream : Uuid}
    {entry : StreamEntry Hash}
    (known :
      (accepted intake world command now sale version selected).Known
        stream entry) :
    world.Known stream entry ∨
      (stream = command.eventId ∧
        entry = {
          messageId := (world.redis.streams stream).lastId + 1
          commandId := command.commandId
          payload := intake.payload command
          response :=
            (intake.accept command now sale version selected
              world.redis).1
          createdAtEpoch := now }) := by
  rcases known with listed | held
  · simp only [accepted, RedisReservationIntake.accept, Redis.setMap,
      Redis.setStream, Function.update_apply] at listed
    split at listed
    · rename_i same
      subst same
      rcases List.mem_append.mp listed with old | isNew
      · exact Or.inl (Or.inl old)
      · exact Or.inr ⟨rfl, List.mem_singleton.mp isNew⟩
    · exact Or.inl (Or.inl listed)
  · exact Or.inl (Or.inr held)

omit [DecidableEq Hash] in
theorem lastId_accepted
    {command : NewCommand}
    {now : Int}
    {sale : SaleWindow}
    {version : Nat}
    {selected : List SeatEntry}
    (stream : Uuid) :
    ((accepted intake world command now sale version
        selected).redis.streams stream).lastId =
      if stream = command.eventId then
        (world.redis.streams stream).lastId + 1
      else
        (world.redis.streams stream).lastId := by
  simp only [accepted, RedisReservationIntake.accept, Redis.setMap,
    Redis.setStream, Function.update_apply]
  split
  · rename_i same
    rw [same]
    rfl
  · rfl

omit [DecidableEq Hash] in
/-- A new command shares no identifier with an issued one. -/
theorem Unissued.issue_ne
    {command : NewCommand}
    {eventId commandId : Uuid}
    {issue : CommandPayload Hash × CommandResponse}
    (unissued : world.Unissued command)
    (isIssued : world.redis.issue? eventId commandId = some issue) :
    commandId ≠ command.commandId ∧
      issue.1.holdId ≠ command.holdId ∧
      issue.1.orderId ≠ command.orderId := by
  obtain ⟨other, found, rfl⟩ := Option.map_eq_some_iff.mp isIssued
  have sameKey : (other.eventId, other.commandId) = (eventId, commandId) :=
    Table.key_of_find? found
  cases sameKey
  exact unissued.redis other (Table.mem_of_find? found)

omit [DecidableEq Hash] in
theorem Linked.accepted
    {command : NewCommand}
    {now : Int}
    {sale : SaleWindow}
    {version : Nat}
    {selected : List SeatEntry}
    (linked : world.Linked intake)
    (unissued : world.Unissued command) :
    (World.accepted intake world command now sale version
      selected).Linked intake := by
  refine ⟨?_, ?_, ?_, ?_⟩
  · intro eventId commandId payload response isIssued
    rw [issue?_accepted] at isIssued
    split at isIssued
    · rename_i same
      cases same
      cases isIssued
      exact ⟨command, now, _, _, rfl, rfl, rfl, rfl⟩
    · exact linked.issued isIssued
  · intro firstEvent firstId secondEvent secondId first second
      firstIssued secondIssued shared
    rw [issue?_accepted] at firstIssued secondIssued
    split at firstIssued
    · rename_i firstNew
      split at secondIssued
      · rename_i secondNew
        rw [← secondNew] at firstNew
        exact Prod.mk.inj firstNew
      · cases firstNew
        cases firstIssued
        obtain ⟨differentId, differentHold, differentOrder⟩ :=
          unissued.issue_ne secondIssued
        rcases shared with same | same | same
        · exact absurd same.symm differentId
        · exact absurd same.symm differentHold
        · exact absurd same.symm differentOrder
    · split at secondIssued
      · rename_i secondNew
        cases secondNew
        cases secondIssued
        obtain ⟨differentId, differentHold, differentOrder⟩ :=
          unissued.issue_ne firstIssued
        rcases shared with same | same | same
        · exact absurd same differentId
        · exact absurd same differentHold
        · exact absurd same differentOrder
      · exact linked.distinct firstIssued secondIssued shared
  · intro stream entry known
    rw [issue?_accepted, lastId_accepted]
    rcases known_accepted known with old | ⟨rfl, rfl⟩
    · obtain ⟨isIssued, bounded⟩ := linked.belongs old
      have other :
          (stream, entry.commandId) ≠
            (command.eventId, command.commandId) := by
        intro same
        exact (unissued.issue_ne isIssued).1 (congrArg Prod.snd same)
      rw [if_neg other]
      refine ⟨isIssued, ?_⟩
      split <;> omega
    · rw [if_pos rfl, if_pos rfl]
      exact ⟨rfl, le_rfl⟩
  · intro stream first second firstKnown secondKnown sameId
    rcases known_accepted firstKnown with firstOld | ⟨rfl, rfl⟩
    · rcases known_accepted secondKnown with secondOld | ⟨rfl, rfl⟩
      · exact linked.numbered firstOld secondOld sameId
      · have bounded := (linked.belongs firstOld).2
        dsimp only at sameId
        omega
    · rcases known_accepted secondKnown with secondOld | ⟨_, rfl⟩
      · have bounded := (linked.belongs secondOld).2
        dsimp only at sameId
        omega
      · rfl

omit [DecidableEq Hash] in
/-- The entry in the hands of a writer names its stream and command. -/
theorem Linked.writer_key
    {slot : Nat}
    {writer : Writer Hash}
    (linked : world.Linked intake)
    (working : world.writers slot = some writer) :
    writer.entry.payload.eventId = writer.stream ∧
      writer.entry.payload.commandId = writer.entry.commandId := by
  obtain ⟨isIssued, _⟩ :=
    linked.belongs (Or.inr ⟨slot, writer, working, rfl, rfl⟩)
  obtain ⟨command, _, _, _, sameEvent, sameId, isPayload, _⟩ :=
    linked.issued isIssued
  rw [isPayload]
  exact ⟨sameEvent, sameId⟩

/-- How a command hash came to be as it is after a step. -/
inductive Restated
    (intake : RedisReservationIntake Hash)
    (world : World Hash)
    (action : Action Hash)
    (after : World Hash)
    (eventId commandId : Uuid)
    (next : CommandHash Hash) : Prop where
  | kept
      (found :
        world.redis.commands.find? (eventId, commandId) = some next)
  | failed
      (slot : Nat)
      (writer : Writer Hash)
      (code : FailureCode)
      (old : CommandHash Hash)
      (working : world.writers slot = some writer)
      (stage : writer.stage = .rejected code)
      (subject :
        writer.stream = eventId ∧ writer.entry.commandId = commandId)
      (found : world.redis.commands.find? (eventId, commandId) = some old)
      (notDurable : old.status ≠ .durable)
      (isNext :
        next = { old with status := .failed, errorCode := some code })
  | durable
      (slot : Nat)
      (writer : Writer Hash)
      (old : CommandHash Hash)
      (working : world.writers slot = some writer)
      (stage : writer.stage = .persisted)
      (subject :
        writer.stream = eventId ∧ writer.entry.commandId = commandId)
      (found : world.redis.commands.find? (eventId, commandId) = some old)
      (notFailed : old.status ≠ .failed)
      (isNext : next = { old with status := .durable })
  | issued
      (command : NewCommand)
      (now : Int)
      (sale : SaleWindow)
      (version : Nat)
      (selected : List SeatEntry)
      (unissued : world.Unissued command)
      (subject :
        eventId = command.eventId ∧ commandId = command.commandId)
      (pending : next.status = .pending)
      (isAfter :
        after =
          accepted intake world command now sale version selected)

/-- Only the marking scripts and `ENQUEUE` write command hashes. -/
theorem Step.restated
    {eventId commandId : Uuid}
    {next : CommandHash Hash}
    (linked : world.Linked intake)
    (step : Step self intake world action after)
    (found :
      after.redis.commands.find? (eventId, commandId) = some next) :
    Restated intake world action after eventId commandId next := by
  cases step with
  | @enqueue command now unissued =>
      rcases intake.enqueue_cases command now world.redis with
        ⟨refused, _⟩ | ⟨sale, version, selected, accepts, isAccepted⟩
      · rw [refused] at found
        exact .kept found
      · rw [isAccepted] at found
        change (Table.upsert _ _).find? _ = _ at found
        rw [Table.find?_upsert] at found
        split at found
        · rename_i isKey
          cases found
          refine .issued command now sale version selected unissued
            ⟨congrArg Prod.fst isKey, congrArg Prod.snd isKey⟩ rfl ?_
          rw [isAccepted]
          rfl
        · exact .kept found
  | @markFailed slot writer code working stage =>
      obtain ⟨sameEvent, sameId⟩ := linked.writer_key working
      rw [sameEvent, sameId] at found
      rcases world.redis.markFailed_cases writer.stream
          writer.entry.commandId writer.entry.payload.seatIds code with
        ⟨refused, _⟩ | ⟨old, oldFound, notDurable, marked⟩
      · change (Redis.markFailed _ _ _ _ _).2.commands.find? _ = _ at found
        rw [refused] at found
        exact .kept found
      · change (Redis.markFailed _ _ _ _ _).2.commands.find? _ = _ at found
        rw [marked] at found
        change (Table.upsert _ _).find? _ = _ at found
        rcases Table.find?_replaced_cases oldFound found rfl with
          ⟨isKey, rfl⟩ | ⟨_, found⟩
        · cases isKey
          exact .failed slot writer code old working stage ⟨rfl, rfl⟩
            oldFound notDurable rfl
        · exact .kept found
  | @markedDurable slot writer redis working stage marked =>
      obtain ⟨sameEvent, sameId⟩ := linked.writer_key working
      rw [sameEvent, sameId] at marked
      rcases Redis.markDurable_cases marked with
        ⟨notDone, _⟩ | ⟨old, oldFound, notFailed, _, rfl⟩
      · exact absurd rfl notDone
      · change (Table.upsert _ _).find? _ = _ at found
        rcases Table.find?_replaced_cases oldFound found rfl with
          ⟨isKey, rfl⟩ | ⟨_, found⟩
        · cases isKey
          exact .durable slot writer old working stage ⟨rfl, rfl⟩
            oldFound notFailed rfl
        · exact .kept found
  | @notMarkedDurable slot writer reply redis working stage notDone
      marked =>
      rcases Redis.markDurable_cases marked with
        ⟨_, rfl⟩ | ⟨_, _, _, isDone, _⟩
      · exact .kept found
      · exact absurd isDone notDone
  | transact | deliver | persisted | rejected | raised | readSnapshot
  | putSnapshot | acknowledge | delete | crash | project | putProjection
  | abandon => exact .kept found

theorem Linked.step
    (linked : world.Linked intake)
    (step : Step self intake world action after) :
    after.Linked intake := by
  rcases step.calm_or_accepted with
    calm | ⟨command, now, sale, version, selected, unissued, _, _, rfl⟩
  · exact calm.linked linked
  · exact linked.accepted unissued

omit [DecidableEq Hash] in
theorem Initial.linked
    (initial : world.Initial)
    (intake : RedisReservationIntake Hash) :
    world.Linked intake := by
  have unknown : ∀ {stream entry}, ¬ world.Known stream entry := by
    rintro stream entry (listed | ⟨slot, writer, working, _⟩)
    · rw [initial.redis] at listed
      cases listed
    · rw [initial.idle] at working
      cases working
  have unissued :
      ∀ eventId commandId, world.redis.issue? eventId commandId = none := by
    intro eventId commandId
    rw [initial.redis]
    rfl
  refine ⟨?_, ?_, fun known => (unknown known).elim,
    fun known => (unknown known).elim⟩
  · intro eventId commandId payload response isIssued
    rw [unissued] at isIssued
    cases isIssued
  · intro firstEvent firstId secondEvent secondId first second isIssued
    rw [unissued] at isIssued
    cases isIssued

omit [DecidableEq Hash] in
/-- The identifiers of an issued command, in all its documents. -/
theorem Linked.issue_ids
    {eventId commandId : Uuid}
    {payload : CommandPayload Hash}
    {response : CommandResponse}
    (linked : world.Linked intake)
    (isIssued :
      world.redis.issue? eventId commandId = some (payload, response)) :
    payload.eventId = eventId ∧
      payload.commandId = commandId ∧
      response.holdId = payload.holdId ∧
      response.orderId = payload.orderId ∧
      response.seats = payload.seatIds ∧
      intake.digest payload.request = payload.requestHash := by
  obtain ⟨command, now, total, currency, rfl, rfl, rfl, rfl⟩ :=
    linked.issued isIssued
  exact ⟨rfl, rfl, rfl, rfl, rfl,
    congrArg intake.digest (request_payload intake command)⟩

omit [DecidableEq Hash] in
/-- The entry of a writer carries an issued command. -/
theorem Linked.writer_issue
    {slot : Nat}
    {writer : Writer Hash}
    (linked : world.Linked intake)
    (working : world.writers slot = some writer) :
    world.redis.issue? writer.stream writer.entry.commandId =
      some (writer.entry.payload, writer.entry.response) :=
  (linked.belongs (Or.inr ⟨slot, writer, working, rfl, rfl⟩)).1

/-! ## What a step can change -/

/-- The database changes by a call of the store or by a writer's call. -/
theorem Step.db_cases
    (step : Step self intake world action after) :
    after.db = world.db ∨
    (∃ label : Answered Hash,
      label.call.isPersist = false ∧
        world.Undrawn label.ambient ∧
        self.AnsweredStep world.db label after.db) ∨
    ∃ slot writer ambient answer,
      world.writers slot = some writer ∧
        action = .persist slot ambient ∧
        self.AnsweredStep world.db ⟨writer.call, ambient, answer⟩
          after.db := by
  cases step with
  | @transact call ambient other undrawn =>
      exact Or.inr (Or.inl
        ⟨⟨call, ambient, (self.transaction call ambient world.db).1⟩, other,
          undrawn, rfl⟩)
  | @persisted slot writer ambient _ _ working _ answered =>
      exact Or.inr (Or.inr ⟨slot, writer, ambient, _, working, rfl,
        answered⟩)
  | @rejected slot writer ambient _ _ working _ answered =>
      exact Or.inr (Or.inr ⟨slot, writer, ambient, _, working, rfl,
        answered⟩)
  | @raised slot writer ambient _ _ working _ _ answered =>
      exact Or.inr (Or.inr ⟨slot, writer, ambient, _, working, rfl,
        answered⟩)
  | enqueue | deliver | markFailed | readSnapshot | putSnapshot
  | markedDurable | notMarkedDurable | acknowledge | delete | crash
  | project | putProjection | abandon => exact Or.inl rfl

/-- How one step changes a stream. -/
theorem Step.stream_cases
    (step : Step self intake world action after)
    (stream : Uuid) :
    after.redis.streams stream = world.redis.streams stream ∨
    (∃ entry,
      after.redis.streams stream = (world.redis.streams stream).add entry) ∨
    ∃ slot writer,
      world.writers slot = some writer ∧
        writer.stage.settled = true ∧
        writer.stream = stream ∧
        (after.redis.streams stream =
            (world.redis.streams stream).ack writer.entry.messageId ∨
          after.redis.streams stream =
            (world.redis.streams stream).delete
              writer.entry.messageId) := by
  cases step with
  | @enqueue command now unissued =>
      rcases intake.enqueue_cases command now world.redis with
        ⟨refused, _⟩ | ⟨sale, version, selected, _, isAccepted⟩
      · rw [refused]
        exact Or.inl rfl
      · rw [isAccepted]
        have isStream :=
          Redis.streams_setStream world.redis command.eventId stream
            ((world.redis.streams command.eventId).add fun messageId =>
              { messageId := messageId
                commandId := command.commandId
                payload := intake.payload command
                response :=
                  (intake.accept command now sale version selected
                    world.redis).1
                createdAtEpoch := now })
        split at isStream
        · rename_i same
          subst same
          exact Or.inr (Or.inl ⟨_, isStream⟩)
        · exact Or.inl isStream
  | markFailed => exact Or.inl (congrFun (Redis.streams_markFailed _ _ _ _ _) _)
  | markedDurable _ _ marked =>
      exact Or.inl (congrFun (Redis.streams_markDurable marked) _)
  | notMarkedDurable _ _ _ marked =>
      exact Or.inl (congrFun (Redis.streams_markDurable marked) _)
  | @acknowledge slot writer working stage =>
      have isStream :=
        Redis.streams_setStream world.redis writer.stream stream
          ((world.redis.streams writer.stream).ack writer.entry.messageId)
      split at isStream
      · rename_i same
        subst same
        exact Or.inr (Or.inr ⟨slot, writer, working, by rw [stage]; rfl,
          rfl, Or.inl isStream⟩)
      · exact Or.inl isStream
  | @delete slot writer working stage =>
      have isStream :=
        Redis.streams_setStream world.redis writer.stream stream
          ((world.redis.streams writer.stream).delete writer.entry.messageId)
      split at isStream
      · rename_i same
        subst same
        exact Or.inr (Or.inr ⟨slot, writer, working, by rw [stage]; rfl,
          rfl, Or.inr isStream⟩)
      · exact Or.inl isStream
  | transact | deliver | persisted | rejected | raised | readSnapshot
  | putSnapshot | crash | project | putProjection | abandon =>
      exact Or.inl rfl

omit [DecidableEq Hash] in
theorem writers_setWriter
    {slot other : Nat}
    {writer? : Option (Writer Hash)}
    {writer : Writer Hash}
    (working : (world.setWriter slot writer?).writers other = some writer) :
    (other = slot ∧ writer? = some writer) ∨
      world.writers other = some writer := by
  simp only [setWriter, Function.update_apply] at working
  split at working
  · rename_i same
    exact Or.inl ⟨same, working⟩
  · exact Or.inr working

omit [DecidableEq Hash] in
theorem writers_advance
    {slot other : Nat}
    {writer next : Writer Hash}
    {stage : Stage}
    (working :
      (world.advance slot writer stage).writers other = some next) :
    (other = slot ∧ { writer with stage := stage } = next) ∨
      world.writers other = some next :=
  (writers_setWriter working).imp_left
    (And.imp_right Option.some.inj)

/-- How a writer came to be where it is after a step. -/
inductive Proceeds
    (self : PostgresReservations Hash)
    (world : World Hash)
    (action : Action Hash)
    (after : World Hash)
    (slot : Nat)
    (next : Writer Hash) : Prop where
  | kept (working : world.writers slot = some next)
  | delivered (stage : next.stage = .delivered)
  | persisted
      (writer : Writer Hash)
      (ambient : Ambient)
      (result : Result)
      (working : world.writers slot = some writer)
      (isNext : next = { writer with stage := .persisted })
      (answered :
        self.transaction writer.call ambient world.db =
          (.ok result, after.db))
  | rejected
      (writer : Writer Hash)
      (ambient : Ambient)
      (failure : Failure)
      (working : world.writers slot = some writer)
      (isNext : next = { writer with stage := .rejected failure.code })
      (answered :
        self.transaction writer.call ambient world.db =
          (.error (.failure failure), after.db))
  | markedFailed
      (writer : Writer Hash)
      (code : FailureCode)
      (working : world.writers slot = some writer)
      (stage : writer.stage = .rejected code)
      (isNext : next = { writer with stage := .markedFailed })
      (marked :
        after.redis =
          (world.redis.markFailed writer.entry.payload.eventId
            writer.entry.payload.commandId writer.entry.payload.seatIds
            code).2)
  | markedDurable
      (writer : Writer Hash)
      (working : world.writers slot = some writer)
      (stage : writer.stage = .persisted)
      (isNext : next = { writer with stage := .acknowledging })
      (marked :
        world.redis.markDurable writer.entry.payload.eventId
          writer.entry.payload.commandId = (.done, after.redis))
  | settled
      (writer : Writer Hash)
      (stage : Stage)
      (working : world.writers slot = some writer)
      (before : writer.stage.settled = true)
      (isNext : next = { writer with stage := stage })
      (later : stage.settled = true)

theorem Step.proceeds
    {slot : Nat}
    {next : Writer Hash}
    (step : Step self intake world action after)
    (working : after.writers slot = some next) :
    Proceeds self world action after slot next := by
  cases step with
  | deliver =>
      rcases writers_setWriter working with ⟨_, isNew⟩ | old
      · cases isNew
        exact .delivered rfl
      · exact .kept old
  | @persisted _ writer ambient result _ was _ answered =>
      rcases writers_advance working with ⟨rfl, rfl⟩ | old
      · exact .persisted writer ambient result was rfl answered
      · exact .kept old
  | @rejected _ writer ambient failure _ was _ answered =>
      rcases writers_advance working with ⟨rfl, rfl⟩ | old
      · exact .rejected writer ambient failure was rfl answered
      · exact .kept old
  | @markFailed _ writer code was stage =>
      rcases writers_advance working with ⟨rfl, rfl⟩ | old
      · exact .markedFailed writer code was stage rfl rfl
      · exact .kept old
  | @readSnapshot _ writer _ was stage =>
      rcases writers_advance working with ⟨rfl, rfl⟩ | old
      · exact .settled writer _ was (by rw [stage]; rfl) rfl rfl
      · exact .kept old
  | @putSnapshot _ writer _ _ _ was stage =>
      rcases writers_advance working with ⟨rfl, rfl⟩ | old
      · exact .settled writer _ was (by rw [stage]; rfl) rfl rfl
      · exact .kept old
  | @markedDurable _ writer redis was stage marked =>
      rcases writers_advance working with ⟨rfl, rfl⟩ | old
      · exact .markedDurable writer was stage rfl marked
      · exact .kept old
  | @acknowledge _ writer was stage =>
      rcases writers_advance working with ⟨rfl, rfl⟩ | old
      · exact .settled writer _ was (by rw [stage]; rfl) rfl rfl
      · exact .kept old
  | raised | notMarkedDurable | delete | crash =>
      rcases writers_setWriter working with ⟨_, gone⟩ | old
      · cases gone
      · exact .kept old
  | transact | enqueue | project | putProjection | abandon =>
      exact .kept working

end Steps

end World

end FlashTicketing
