import FlashTicketing.ReservationIntake
import FlashTicketing.SeatProjection
import FlashTicketing.Transition

namespace FlashTicketing

open Relational Checked Transition

/-!
# Replaying a reservation command

`enqueue` answers a request whose key is known with the command that it stands
for.  The script looks at the sale window before it looks at the key, so a
replay is answered while the window is open and refused outside it.

Between the calls anything can happen to seat maps and streams: scripts, writer
verdicts, complete and interrupted `PUT`s with any sale window, and losses.
-/

variable {Hash : Type}

/-! ## The two reads of a replay -/

/-- A command as `status` shows it. -/
structure CommandView where
  response : CommandResponse
  errorCode : Option FailureCode := none
  deriving Repr, DecidableEq

/-- What `enqueue` raises. -/
inductive EnqueueError where
  | refused (failure : IntakeFailure)
  | commandNotFound
  | durabilityUnknown
  deriving Repr, DecidableEq

namespace RedisReservationIntake

/-- `status(event_id, command_id, actor)`. -/
def status
    (eventId commandId : Uuid)
    (actor : Option Actor)
    (redis : Redis Hash) :
    Except EnqueueError CommandView := do
  let row ← require (redis.commands.find? (eventId, commandId))
    .commandNotFound
  ensure (∀ name ∈ actor, row.payload.actor = name) .commandNotFound
  pure {
    response := { row.response with persistenceStatus := row.status }
    errorCode := row.errorCode }

/-- Too few replicas have acknowledged the script. -/
def waited
    (replicaAcks acknowledged : Nat)
    (view : CommandView) :
    Except EnqueueError CommandView := do
  ensure (replicaAcks ≤ acknowledged) .durabilityUnknown
  pure view

/--
`enqueue(actor, event_id, seat_ids, key)`: the script on `redis`, and for a
replay the status in `reading`, which is Redis when the status is read.
-/
def answer
    [DecidableEq Hash]
    (self : RedisReservationIntake Hash)
    (replicaAcks acknowledged : Nat)
    (command : NewCommand)
    (now : Int)
    (redis reading : Redis Hash) :
    Except EnqueueError CommandView :=
  match (self.enqueue command now redis).1 with
  | .refused failure => throw (.refused failure)
  | .accepted response =>
      waited replicaAcks acknowledged { response := response }
  | .replayed response => do
      let view ← status command.eventId response.commandId none reading
      waited replicaAcks acknowledged view

end RedisReservationIntake

/-! ## What happens between the calls -/

inductive RedisAction where
  | enqueue (command : NewCommand) (now : Int)
  | markDurable (eventId commandId : Uuid)
  | markFailed
      (eventId commandId : Uuid)
      (seatIds : List SeatId)
      (code : FailureCode)
  | put (eventId : Uuid) (mode : PutMode) (rows : List SeatState)
      (commands : Nat)
  | loseMap (eventId : Uuid)
  | setStream (eventId : Uuid)

/-- One step.  Full `PUT`s bring a sale window, as those of `snapshot` do. -/
inductive RedisStep
    [DecidableEq Hash]
    (intake : RedisReservationIntake Hash)
    (redis : Redis Hash) :
    RedisAction → Redis Hash → Prop where
  | enqueue
      {command : NewCommand}
      {now : Int}
      (fresh :
        redis.commands.find? (command.eventId, command.commandId) = none) :
      RedisStep intake redis (.enqueue command now)
        (intake.enqueue command now redis).2
  | markDurable
      {eventId commandId : Uuid} :
      RedisStep intake redis (.markDurable eventId commandId)
        (redis.markDurable eventId commandId).2
  | markFailed
      {eventId commandId : Uuid}
      {seatIds : List SeatId}
      {code : FailureCode} :
      RedisStep intake redis (.markFailed eventId commandId seatIds code)
        (redis.markFailed eventId commandId seatIds code).2
  | put
      {eventId : Uuid}
      {mode : PutMode}
      {rows : List SeatState}
      {commands : Nat}
      {writes : List HashWrite}
      (accepted : (redis.maps eventId).put mode rows = some writes)
      (onSale : ∀ published, mode = .full published → published.sale ≠ none) :
      RedisStep intake redis (.put eventId mode rows commands)
        (redis.setMap eventId
          ((redis.maps eventId).perform (writes.take commands)))
  | loseMap
      {eventId : Uuid} :
      RedisStep intake redis (.loseMap eventId) (redis.setMap eventId {})
  -- `XACK`, `XDEL` and whatever else is done to the stream.
  | setStream
      {eventId : Uuid}
      {stream : Stream Hash} :
      RedisStep intake redis (.setStream eventId)
        (redis.setStream eventId stream)

/-- What one step can do to the map of an event. -/
inductive SeatMap.Moves (map : SeatMap) : RedisAction → SeatMap → Prop where
  | kept {action : RedisAction} :
      Moves map action map
  | taken
      {command : NewCommand}
      {now : Int}
      {version : Nat}
      {selected : List SeatEntry}
      (response : CommandResponse)
      (onSale : map.sale ≠ none)
      (found :
        ∀ entry ∈ selected, map.seats.find? entry.seatId = some entry) :
      Moves map (.enqueue command now)
        (map.takeSeats response version selected)
  | freed
      {eventId commandId : Uuid}
      {code : FailureCode}
      (holdId : Uuid)
      (seatIds : List SeatId) :
      Moves map (.markFailed eventId commandId seatIds code)
        (seatIds.foldl (Redis.freeSeat holdId) map)
  | put
      {eventId : Uuid}
      {mode : PutMode}
      {rows : List SeatState}
      {commands : Nat}
      {writes : List HashWrite}
      (accepted : map.put mode rows = some writes)
      (onSale : ∀ published, mode = .full published → published.sale ≠ none) :
      Moves map (.put eventId mode rows commands)
        (map.perform (writes.take commands))
  | lost {eventId : Uuid} :
      Moves map (.loseMap eventId) {}

/-- The map of the changed event moves, and the others are kept. -/
theorem Redis.moves_setMap
    {redis : Redis Hash}
    {changed : Uuid}
    {map : SeatMap}
    {action : RedisAction}
    (moves : (redis.maps changed).Moves action map)
    (eventId : Uuid) :
    (redis.maps eventId).Moves action
      ((redis.setMap changed map).maps eventId) := by
  rw [Redis.maps_setMap]
  split
  · rename_i same
    rw [same]
    exact moves
  · exact .kept

theorem RedisStep.moves
    [DecidableEq Hash]
    {intake : RedisReservationIntake Hash}
    {redis after : Redis Hash}
    {action : RedisAction}
    (step : RedisStep intake redis action after)
    (eventId : Uuid) :
    (redis.maps eventId).Moves action (after.maps eventId) := by
  cases step with
  | @enqueue command now _ =>
      rcases intake.enqueue_cases command now redis with
        ⟨same, _⟩ | ⟨sale, version, selected, accepts, isAccept⟩
      · rw [same]
        exact .kept
      · rw [isAccept]
        have onSale : (redis.maps command.eventId).sale ≠ none :=
          ne_of_eq_of_ne accepts.onSale.1 nofun
        exact Redis.moves_setMap
          (.taken _ onSale fun entry member => (accepts.free entry member).1)
          eventId
  | @markDurable commandEvent commandId =>
      cases marked : redis.markDurable commandEvent commandId with
      | mk reply next =>
          rcases Redis.markDurable_cases marked with
            ⟨_, rfl⟩ | ⟨_, _, _, _, rfl⟩
          · exact .kept
          · exact .kept
  | @markFailed commandEvent commandId seatIds code =>
      rcases redis.markFailed_cases commandEvent commandId seatIds code with
        ⟨same, _⟩ | ⟨stored, _, _, marked⟩
      · rw [same]
        exact .kept
      · rw [marked]
        exact Redis.moves_setMap (.freed _ seatIds) eventId
  | put accepted onSale =>
      exact Redis.moves_setMap (.put accepted onSale) eventId
  | loseMap => exact Redis.moves_setMap .lost eventId
  | setStream => exact .kept

/-! ## Maps keep their sale window -/

/-- A map that can be read has its sale window. -/
def SeatMap.Whole (map : SeatMap) : Prop :=
  map.updating = true ∨ map.sale ≠ none ∨ map = {}

namespace SeatMap

variable {map : SeatMap}

theorem Whole.sale
    (whole : map.Whole)
    (present : map.version ≠ none)
    (readable : map.updating = false) :
    ∃ sale, map.sale = some sale := by
  rcases whole with updating | onSale | rfl
  · rw [readable] at updating
    cases updating
  · exact Option.ne_none_iff_exists'.mp onSale
  · exact absurd rfl present

theorem Whole.afterPut
    {mode : PutMode}
    {rows : List SeatState}
    (whole : map.Whole)
    (onSale : ∀ published, mode = .full published → published.sale ≠ none) :
    (map.afterPut mode rows).Whole := by
  cases mode with
  | full published =>
      rw [afterPut_full]
      obtain ⟨sale, isSale⟩ :=
        Option.ne_none_iff_exists'.mp (onSale published rfl)
      exact Or.inr (Or.inl (by simp [isSale]))
  | patch =>
      cases accepted : map.put .patch rows with
      | none =>
          rw [afterPut_refused accepted]
          exact whole
      | some writes =>
          obtain ⟨present, readable⟩ := (put_eq_some accepted).2 rfl
          obtain ⟨sale, isSale⟩ := whole.sale present readable
          rw [afterPut_patch present readable]
          exact Or.inr (Or.inl (by simp [isSale]))

theorem Whole.perform
    {mode : PutMode}
    {rows : List SeatState}
    {writes : List HashWrite}
    (whole : map.Whole)
    (accepted : map.put mode rows = some writes)
    (onSale : ∀ published, mode = .full published → published.sale ≠ none)
    (commands : Nat) :
    (map.perform (writes.take commands)).Whole := by
  rcases perform_take accepted commands with same | complete | ⟨updating, _⟩
  · rw [same]
    exact whole
  · rw [complete]
    exact whole.afterPut onSale
  · exact Or.inl updating

theorem Whole.freeSeats
    (whole : map.Whole)
    (holdId : Uuid)
    (seatIds : List SeatId) :
    (seatIds.foldl (Redis.freeSeat holdId) map).Whole := by
  induction seatIds generalizing map with
  | nil => exact whole
  | cons seatId rest inductionHypothesis =>
      apply inductionHypothesis
      unfold Redis.freeSeat
      split
      · exact whole
      · rename_i seat found
        split
        · rcases whole with updating | onSale | rfl
          · exact Or.inl updating
          · exact Or.inr (Or.inl onSale)
          · cases found
        · exact whole

end SeatMap

/-! ## What Redis remembers of an accepted command -/

/-- The key leads to the response, and the response to its command. -/
structure Redis.Remembers
    (eventId : Uuid)
    (identity : String)
    (requestHash : Hash)
    (response : CommandResponse)
    (redis : Redis Hash) : Prop where
  idem :
    redis.idems.find? (eventId, identity) =
      some {
        eventId := eventId
        identity := identity
        requestHash := requestHash
        response := response }
  command :
    ∃ row,
      redis.commands.find? (eventId, response.commandId) = some row ∧
        row.response = response

namespace Redis.Remembers

variable
  {redis after : Redis Hash}
  {eventId : Uuid}
  {identity : String}
  {requestHash : Hash}
  {response : CommandResponse}

theorem of_eq
    (remembers : redis.Remembers eventId identity requestHash response)
    (idems : after.idems = redis.idems)
    (commands : after.commands = redis.commands) :
    after.Remembers eventId identity requestHash response :=
  ⟨idems ▸ remembers.idem, commands ▸ remembers.command⟩

/-- A verdict leaves the response of its command alone. -/
theorem settle
    {stored row : CommandHash Hash}
    {commandEvent commandId : Uuid}
    (remembers : redis.Remembers eventId identity requestHash response)
    (found : redis.commands.find? (commandEvent, commandId) = some stored)
    (commands : after.commands = redis.commands.upsert row)
    (idems : after.idems = redis.idems)
    (sameEvent : row.eventId = stored.eventId)
    (sameId : row.commandId = stored.commandId)
    (sameResponse : row.response = stored.response) :
    after.Remembers eventId identity requestHash response := by
  refine ⟨idems ▸ remembers.idem, ?_⟩
  obtain ⟨old, oldFound, isResponse⟩ := remembers.command
  rw [commands,
    Table.find?_replaced found (Prod.ext sameEvent sameId)]
  split
  · rename_i same
    rw [same, found] at oldFound
    cases oldFound
    exact ⟨row, rfl, sameResponse.trans isResponse⟩
  · exact ⟨old, oldFound, isResponse⟩

/-- A new command has another key and another identifier. -/
theorem accept
    {intake : RedisReservationIntake Hash}
    {command : NewCommand}
    {now : Int}
    {sale : SaleWindow}
    {version : Nat}
    {selected : List SeatEntry}
    (remembers : redis.Remembers eventId identity requestHash response)
    (unused :
      redis.idems.find? (command.eventId, command.identity) = none)
    (fresh :
      redis.commands.find? (command.eventId, command.commandId) = none) :
    (intake.accept command now sale version selected redis).2.Remembers
      eventId identity requestHash response := by
  obtain ⟨row, found, isResponse⟩ := remembers.command
  constructor
  · change (redis.idems.upsert _).find? _ = _
    rw [Table.find?_upsert, if_neg]
    · exact remembers.idem
    · intro same
      have isKey : (eventId, identity) =
          (command.eventId, command.identity) :=
        same
      have idem := remembers.idem
      rw [isKey, unused] at idem
      cases idem
  · refine ⟨row, ?_, isResponse⟩
    change (redis.commands.upsert _).find? _ = _
    rw [Table.find?_upsert, if_neg]
    · exact found
    · intro same
      have isKey : (eventId, response.commandId) =
          (command.eventId, command.commandId) :=
        same
      rw [isKey, fresh] at found
      cases found

variable [DecidableEq Hash]

theorem step
    {intake : RedisReservationIntake Hash}
    {action : RedisAction}
    (remembers : redis.Remembers eventId identity requestHash response)
    (step : RedisStep intake redis action after) :
    after.Remembers eventId identity requestHash response := by
  cases step with
  | @enqueue command now fresh =>
      rcases intake.enqueue_cases command now redis with
        ⟨same, _⟩ | ⟨sale, version, selected, accepts, isAccept⟩
      · rw [same]
        exact remembers
      · rw [isAccept]
        exact remembers.accept accepts.keyUnused fresh
  | @markDurable commandEvent commandId =>
      cases marked : redis.markDurable commandEvent commandId with
      | mk reply next =>
          rcases Redis.markDurable_cases marked with
            ⟨_, rfl⟩ | ⟨stored, found, _, _, rfl⟩
          · exact remembers
          · exact remembers.settle found rfl rfl rfl rfl rfl
  | @markFailed commandEvent commandId seatIds code =>
      rcases redis.markFailed_cases commandEvent commandId seatIds code with
        ⟨same, _⟩ | ⟨stored, found, _, marked⟩
      · rw [same]
        exact remembers
      · rw [marked]
        exact remembers.settle found rfl rfl rfl rfl rfl
  | put | loseMap | setStream => exact remembers.of_eq rfl rfl

end Redis.Remembers

/-- Every map that can be read has its sale window. -/
def Redis.Whole (redis : Redis Hash) : Prop :=
  ∀ eventId, (redis.maps eventId).Whole

theorem Redis.Whole.step
    [DecidableEq Hash]
    {intake : RedisReservationIntake Hash}
    {redis after : Redis Hash}
    {action : RedisAction}
    (whole : redis.Whole)
    (step : RedisStep intake redis action after) :
    after.Whole := by
  intro eventId
  have moves := step.moves eventId
  generalize after.maps eventId = map at moves
  cases moves with
  | kept => exact whole eventId
  | taken _ onSale _ => exact Or.inr (Or.inl onSale)
  | freed holdId seatIds => exact (whole eventId).freeSeats holdId seatIds
  | put accepted onSale => exact (whole eventId).perform accepted onSale _
  | lost => exact Or.inr (Or.inr rfl)

/-! ## Requests -/

/-- The same seats in another order make the same request. -/
theorem NewCommand.seats_eq_iff
    {first second : NewCommand} :
    first.seats = second.seats ↔
      ∀ seatId, seatId ∈ first.seatIds ↔ seatId ∈ second.seatIds := by
  constructor
  · intro same seatId
    have listed : seatId ∈ first.seats ↔ seatId ∈ second.seats := by
      rw [same]
    simpa [NewCommand.seats] using listed
  · intro same
    apply List.Perm.eq_of_pairwise'
      (List.pairwise_insertionSort _ _) (List.pairwise_insertionSort _ _)
    apply (List.perm_insertionSort _ _).trans
    apply List.Perm.trans _ (List.perm_insertionSort _ _).symm
    apply (List.perm_ext_iff_of_nodup (List.nodup_dedup _)
      (List.nodup_dedup _)).mpr
    simpa using same

namespace RedisReservationIntake

variable
  [DecidableEq Hash]
  {self : RedisReservationIntake Hash}

theorem remembers_of_accepted
    {command : NewCommand}
    {now : Int}
    {response : CommandResponse}
    {redis after : Redis Hash}
    (accepted :
      self.enqueue command now redis = (.accepted response, after)) :
    after.Remembers command.eventId command.identity
        (self.digest command.request) response ∧
      response.commandId = command.commandId := by
  rcases self.enqueue_cases command now redis with
    ⟨_, refused⟩ | ⟨sale, version, selected, _, isAccept⟩
  · rw [accepted] at refused
    exact absurd rfl (refused response)
  · cases accepted.symm.trans isAccept
    constructor
    · constructor
      · change (redis.idems.upsert _).find? _ = _
        rw [Table.find?_upsert]
        exact if_pos rfl
      · refine ⟨{
          eventId := command.eventId
          commandId := command.commandId
          status := .pending
          response :=
            (self.accept command now sale version selected redis).1
          payload := self.payload command
          createdAtEpoch := now }, ?_, rfl⟩
        change (redis.commands.upsert _).find? _ = _
        rw [Table.find?_upsert]
        exact if_pos rfl
    · rfl

/-- The window of the sale is open at the second `now`. -/
def SaleOpen (map : SeatMap) (now : Int) : Prop :=
  ∃ sale,
    map.sale = some sale ∧
      sale.startsEpoch ≤ now * second ∧ now * second < sale.endsEpoch

theorem saleOpen_iff
    {map : SeatMap}
    {sale : SaleWindow}
    (onSale : map.sale = some sale)
    (now : Int) :
    SaleOpen map now ↔
      ¬ (now * second < sale.startsEpoch ∨ sale.endsEpoch ≤ now * second) := by
  constructor
  · rintro ⟨other, isOther, started, unended⟩
    cases isOther.symm.trans onSale
    omega
  · intro opened
    exact ⟨sale, onSale, by omega, by omega⟩

omit [DecidableEq Hash] in
/-- The status of a command that Redis remembers. -/
theorem status_remembered
    {eventId : Uuid}
    {identity : String}
    {requestHash : Hash}
    {response : CommandResponse}
    {redis : Redis Hash}
    (remembers :
      redis.Remembers eventId identity requestHash response) :
    ∃ row,
      redis.commands.find? (eventId, response.commandId) = some row ∧
        status eventId response.commandId none redis =
          .ok {
            response := { response with persistenceStatus := row.status }
            errorCode := row.errorCode } := by
  obtain ⟨row, found, isResponse⟩ := remembers.command
  subst isResponse
  refine ⟨row, found, ?_⟩
  simp [status, found, ensure, bind, Except.bind]

/-- The reply of the script to a key that Redis remembers. -/
theorem enqueue_remembered
    {command : NewCommand}
    {now : Int}
    {requestHash : Hash}
    {response : CommandResponse}
    {redis : Redis Hash}
    {version : Nat}
    {sale : SaleWindow}
    (remembers :
      redis.Remembers command.eventId command.identity requestHash response)
    (versioned : (redis.maps command.eventId).version = some version)
    (readable : (redis.maps command.eventId).updating = false)
    (onSale : (redis.maps command.eventId).sale = some sale) :
    self.enqueue command now redis =
      (if now * second < sale.startsEpoch ∨ sale.endsEpoch ≤ now * second then
        .refused .saleClosed
      else if requestHash = self.digest command.request then
        .replayed response
      else
        .refused .idempotencyMismatch, redis) := by
  simp only [enqueue, versioned, readable, onSale, remembers.idem]
  split
  · rfl
  · split
    · rfl
    · rfl

/-- A refusal of the script is raised. -/
theorem answer_refused
    {command : NewCommand}
    {now : Int}
    {failure : IntakeFailure}
    {redis : Redis Hash}
    (refused : self.enqueue command now redis = (.refused failure, redis))
    (replicaAcks acknowledged : Nat)
    (reading : Redis Hash) :
    self.answer replicaAcks acknowledged command now redis reading =
      .error (.refused failure) := by
  rw [answer, refused]
  rfl

omit [DecidableEq Hash] in
/-- An answer is returned exactly when enough replicas have acknowledged. -/
theorem waited_eq_ok
    {replicaAcks acknowledged : Nat}
    {view answered : CommandView} :
    waited replicaAcks acknowledged view = .ok answered ↔
      replicaAcks ≤ acknowledged ∧ view = answered := by
  simp only [waited, bind_eq_ok, ensure_eq_ok, pure_eq_ok, exists_const]

omit [DecidableEq Hash] in
/-- Requests with one digest name the same seats. -/
theorem digest_request_iff
    {command replay : NewCommand}
    (injective : Function.Injective self.digest)
    (sameEvent : replay.eventId = command.eventId) :
    self.digest command.request = self.digest replay.request ↔
      ∀ seatId, seatId ∈ replay.seatIds ↔ seatId ∈ command.seatIds := by
  rw [injective.eq_iff, ← NewCommand.seats_eq_iff, NewCommand.request,
    NewCommand.request, Request.hold.injEq, sameEvent]
  exact ⟨fun same => same.2.symm, fun same => ⟨rfl, same.symm⟩⟩

end RedisReservationIntake

/-! ## Replays -/

section Replays

variable [DecidableEq Hash]

/--
Once a command is accepted, a call with its event, actor, key and seats returns
the command with its current status, and one with other seats is refused as a
mismatch, exactly while the sale window is open; Redis does not change.
-/
theorem replay_returns_command
    {intake : RedisReservationIntake Hash}
    {before after redis reading : Redis Hash}
    {early late between : List RedisAction}
    {command : NewCommand}
    {now : Int}
    {response : CommandResponse}
    (injective : Function.Injective intake.digest)
    (earlyRun :
      Run (RedisStep intake) { maps := fun _ => {} } early before)
    (fresh :
      before.commands.find? (command.eventId, command.commandId) = none)
    (accepted :
      intake.enqueue command now before = (.accepted response, after))
    (lateRun : Run (RedisStep intake) after late redis)
    (readRun : Run (RedisStep intake) redis between reading)
    (replay : NewCommand)
    (later : Int)
    (sameEvent : replay.eventId = command.eventId)
    (sameActor : replay.actor = command.actor)
    (sameKey : replay.key = command.key)
    (present : (redis.maps command.eventId).version ≠ none)
    (readable : (redis.maps command.eventId).updating = false)
    (replicaAcks acknowledged : Nat) :
    (intake.enqueue replay later redis).2 = redis ∧
    ((∀ seatId, seatId ∈ replay.seatIds ↔ seatId ∈ command.seatIds) →
      ((∃ row,
          reading.commands.find? (command.eventId, command.commandId) =
              some row ∧
            intake.answer replicaAcks acknowledged replay later redis
                reading =
              .ok {
                response :=
                  { response with persistenceStatus := row.status }
                errorCode := row.errorCode }) ↔
        RedisReservationIntake.SaleOpen (redis.maps command.eventId)
            later ∧
          replicaAcks ≤ acknowledged)) ∧
    ((¬ ∀ seatId, seatId ∈ replay.seatIds ↔ seatId ∈ command.seatIds) →
      (intake.answer replicaAcks acknowledged replay later redis reading =
          .error (.refused .idempotencyMismatch) ↔
        RedisReservationIntake.SaleOpen (redis.maps command.eventId)
          later)) := by
  obtain ⟨remembered, isCommand⟩ :=
    RedisReservationIntake.remembers_of_accepted accepted
  have remembers :
      redis.Remembers command.eventId command.identity
        (intake.digest command.request) response :=
    lateRun.invariant remembered fun holds step => holds.step step
  have stillRemembers :
      reading.Remembers command.eventId command.identity
        (intake.digest command.request) response :=
    readRun.invariant remembers fun holds step => holds.step step
  have whole : redis.Whole := by
    have start : ({ maps := fun _ => {} } : Redis Hash).Whole :=
      fun _ => Or.inr (Or.inr rfl)
    have wholeBefore : before.Whole :=
      earlyRun.invariant start fun holds step => holds.step step
    have isAfter : (intake.enqueue command now before).2 = after := by
      rw [accepted]
    have enqueued : RedisStep intake before (.enqueue command now) after :=
      isAfter ▸ .enqueue fresh
    exact lateRun.invariant (wholeBefore.step enqueued) fun holds step =>
      holds.step step
  have sameIdentity : replay.identity = command.identity := by
    rw [NewCommand.identity, NewCommand.identity, sameActor, sameKey]
  have sameRequest := intake.digest_request_iff injective sameEvent
  obtain ⟨version, versioned⟩ := Option.ne_none_iff_exists'.mp present
  obtain ⟨sale, onSale⟩ := (whole command.eventId).sale present readable
  rw [RedisReservationIntake.saleOpen_iff onSale]
  rw [← sameEvent] at versioned readable onSale
  have replied :
      intake.enqueue replay later redis =
        (if later * second < sale.startsEpoch ∨
            sale.endsEpoch ≤ later * second then
          .refused .saleClosed
        else if intake.digest command.request =
            intake.digest replay.request then
          .replayed response
        else
          .refused .idempotencyMismatch, redis) := by
    apply RedisReservationIntake.enqueue_remembered _ versioned readable
      onSale
    rw [sameEvent, sameIdentity]
    exact remembers
  obtain ⟨row, found, isStatus⟩ :=
    RedisReservationIntake.status_remembered stillRemembers
  rw [isCommand] at found
  refine ⟨by rw [replied], fun same => ?_, fun differs => ?_⟩
  · by_cases closed :
        later * second < sale.startsEpoch ∨ sale.endsEpoch ≤ later * second
    · rw [if_pos closed] at replied
      rw [intake.answer_refused replied]
      simp [closed]
    · rw [if_neg closed, if_pos (sameRequest.mpr same)] at replied
      have answered :
          intake.answer replicaAcks acknowledged replay later redis reading =
            RedisReservationIntake.waited replicaAcks acknowledged {
              response := { response with persistenceStatus := row.status }
              errorCode := row.errorCode } := by
        rw [RedisReservationIntake.answer, replied, sameEvent]
        simp only [isStatus]
        rfl
      simp only [answered, RedisReservationIntake.waited_eq_ok]
      constructor
      · rintro ⟨_, _, enough, _⟩
        exact ⟨closed, enough⟩
      · rintro ⟨_, enough⟩
        exact ⟨row, found, enough, rfl⟩
  · by_cases closed :
        later * second < sale.startsEpoch ∨ sale.endsEpoch ≤ later * second
    · rw [if_pos closed] at replied
      rw [intake.answer_refused replied]
      simp [closed]
    · rw [if_neg closed, if_neg fun same => differs (sameRequest.mp same)]
        at replied
      rw [intake.answer_refused replied]
      simp [closed]

end Replays

/-! ## A replay after the sale -/

/-- The map of a small event before any command. -/
def openMap : SeatMap :=
  SeatMap.afterPut {} (.full (publication smallEvent
    (snapshotRows smallSale 1) 700)) (snapshotRows smallSale 1)

/-- Redis once the map of a small event is published. -/
def openRedis : Redis Request :=
  Redis.setMap { maps := fun _ => {} } 1 openMap

/-- Redis once a small command is accepted. -/
def heldRedis : Redis Request :=
  (smallIntake.enqueue smallCommand 1 openRedis).2

theorem openRedis_run :
    Run (RedisStep smallIntake) { maps := fun _ => {} }
      [.put 1 (.full (publication smallEvent (snapshotRows smallSale 1)
        700)) (snapshotRows smallSale 1) 100]
      openRedis :=
  .cons (.put rfl (by simp [publication])) (.nil _)

/-- The same seats in another order. -/
def smallReplay : NewCommand :=
  { smallCommand with
    seatIds := ["A2", "A1"]
    commandId := 600
    holdId := 601
    orderId := 602 }

theorem smallCommand_accepted :
    smallIntake.enqueue smallCommand 1 openRedis =
      (.accepted (smallIntake.response smallCommand 1 1000 "THB"),
        heldRedis) :=
  rfl

/-- During the sale the replay shows the pending command. -/
theorem replay_returns_command_duringSale :
    RedisReservationIntake.SaleOpen (heldRedis.maps 1) 2 ∧
      ∃ row,
        heldRedis.commands.find? (1, 500) = some row ∧
          smallIntake.answer 0 0 smallReplay 2 heldRedis heldRedis =
            .ok {
              response :=
                { smallIntake.response smallCommand 1 1000 "THB" with
                  persistenceStatus := row.status }
              errorCode := row.errorCode } := by
  have opened : RedisReservationIntake.SaleOpen (heldRedis.maps 1) 2 :=
    ⟨{ startsEpoch := 0, endsEpoch := 1000 * second, currency := "THB" },
      rfl, by decide, by decide⟩
  have replays :=
    replay_returns_command Function.injective_id openRedis_run rfl
      smallCommand_accepted (.nil heldRedis) (.nil heldRedis) smallReplay 2
      rfl rfl rfl nofun rfl 0 0
  have sameSeats :
      ∀ seatId,
        seatId ∈ smallReplay.seatIds ↔ seatId ∈ smallCommand.seatIds := by
    simp [smallReplay, smallCommand, or_comm]
  exact ⟨opened, (replays.2.1 sameSeats).mpr ⟨opened, Nat.le_refl 0⟩⟩

/-- After the sale the same request is refused, although Redis remembers it. -/
theorem replay_refused_afterSale :
    Run (RedisStep smallIntake) { maps := fun _ => {} }
        [.put 1 (.full (publication smallEvent (snapshotRows smallSale 1)
          700)) (snapshotRows smallSale 1) 100]
        openRedis ∧
      smallIntake.enqueue smallCommand 1 openRedis =
        (.accepted (smallIntake.response smallCommand 1 1000 "THB"),
          heldRedis) ∧
      (heldRedis.maps 1).version ≠ none ∧
      (heldRedis.maps 1).updating = false ∧
      smallReplay.eventId = smallCommand.eventId ∧
      smallReplay.identity = smallCommand.identity ∧
      smallReplay.seats = smallCommand.seats ∧
      smallIntake.answer 0 0 smallReplay 1000 heldRedis heldRedis =
        .error (.refused .saleClosed) :=
  ⟨openRedis_run, smallCommand_accepted, nofun, rfl, rfl, rfl, by decide, rfl⟩

end FlashTicketing
