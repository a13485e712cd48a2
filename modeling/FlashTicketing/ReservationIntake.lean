import FlashTicketing.PostgresTransactions
import FlashTicketing.SeatMap

namespace FlashTicketing

open Relational Checked

/-!
# The Redis-first intake

`ENQUEUE` takes seats provisionally in the seat map and appends a command to
the event's stream; `MARK_DURABLE` and `MARK_FAILED` record the writer's
verdict.  Each script is one atomic function on the Redis state.

The expiry index of commands is written and never read.  Retention of command
and idempotency hashes is not represented: nothing here expires.
-/

variable {Hash : Type}

/-! ## The Redis state -/

/-- The value of `reservation-command:{event}:<id>`. -/
structure CommandHash (Hash : Type) where
  eventId : Uuid
  commandId : Uuid
  status : PersistenceStatus
  response : CommandResponse
  payload : CommandPayload Hash
  createdAtEpoch : Int
  errorCode : Option FailureCode := none
  deriving Repr, DecidableEq

instance : Keyed (CommandHash Hash) (Uuid × Uuid) :=
  ⟨fun command => (command.eventId, command.commandId)⟩

/-- The value of `reservation-idem:{event}:<identity>`. -/
structure IdemHash (Hash : Type) where
  eventId : Uuid
  identity : String
  requestHash : Hash
  response : CommandResponse
  deriving Repr, DecidableEq

instance : Keyed (IdemHash Hash) (Uuid × String) :=
  ⟨fun idem => (idem.eventId, idem.identity)⟩

/-- One entry of `reservation-stream:{event}`. -/
structure StreamEntry (Hash : Type) where
  messageId : Nat
  commandId : Uuid
  payload : CommandPayload Hash
  response : CommandResponse
  createdAtEpoch : Int
  deriving Repr, DecidableEq

/-- A stream, its last generated id and the ids its group has acknowledged. -/
structure Stream (Hash : Type) where
  entries : List (StreamEntry Hash) := []
  lastId : Nat := 0
  acknowledged : List Nat := []

structure Redis (Hash : Type) where
  maps : Uuid → SeatMap
  commands : Table (CommandHash Hash) := .empty
  idems : Table (IdemHash Hash) := .empty
  streams : Uuid → Stream Hash := fun _ => {}
  /-- `reservation-expiry:{event}`: the score of each member. -/
  expiry : Uuid → Uuid → Option Int := fun _ _ => none

/-- The seat map of one event is replaced. -/
def Redis.setMap
    (redis : Redis Hash)
    (eventId : Uuid)
    (map : SeatMap) : Redis Hash :=
  { redis with maps := Function.update redis.maps eventId map }

/-- One stream is replaced. -/
def Redis.setStream
    (redis : Redis Hash)
    (eventId : Uuid)
    (stream : Stream Hash) : Redis Hash :=
  { redis with streams := Function.update redis.streams eventId stream }

/-- `ZADD key score member`. -/
def Redis.addExpiry
    (redis : Redis Hash)
    (eventId commandId : Uuid)
    (score : Int) : Redis Hash :=
  { redis with
    expiry := Function.update redis.expiry eventId
      (Function.update (redis.expiry eventId) commandId (some score)) }

/-- `ZREM key member`. -/
def Redis.removeExpiry
    (redis : Redis Hash)
    (eventId commandId : Uuid) : Redis Hash :=
  { redis with
    expiry := Function.update redis.expiry eventId
      (Function.update (redis.expiry eventId) commandId none) }

/-- `XADD key * ...`. -/
def Stream.add
    (stream : Stream Hash)
    (entry : Nat → StreamEntry Hash) : Stream Hash :=
  { stream with
    entries := stream.entries ++ [entry (stream.lastId + 1)]
    lastId := stream.lastId + 1 }

/-- `XACK key group id`. -/
def Stream.ack (stream : Stream Hash) (messageId : Nat) : Stream Hash :=
  { stream with acknowledged := messageId :: stream.acknowledged }

/-- `XDEL key id`. -/
def Stream.delete (stream : Stream Hash) (messageId : Nat) : Stream Hash :=
  { stream with
    entries := stream.entries.filter fun entry =>
      decide (entry.messageId ≠ messageId) }

/-! ## Commands as the API builds them -/

/-- What one call of `enqueue` receives, generates and reads from its clock. -/
structure NewCommand where
  actor : Actor
  eventId : Uuid
  seatIds : List SeatId
  key : IdempotencyKey
  commandId : Uuid
  holdId : Uuid
  orderId : Uuid
  requestedAt : Int
  deriving Repr, DecidableEq

namespace NewCommand

/-- `sorted(set(seat_ids))`. -/
def seats (command : NewCommand) : List SeatId :=
  sortedSeats command.seatIds.dedup

/-- `{"event_id": event, "seats": seats}`. -/
def request (command : NewCommand) : Request :=
  .hold command.eventId command.seats

/-- The text whose SHA-256 names the idempotency hash. -/
def identity (command : NewCommand) : String :=
  command.actor ++ "\x00" ++ command.key

end NewCommand

/-- What `Reservations.reserve` admits to either store. -/
def Reservations.admits (seatIds : List SeatId) : Prop :=
  (1 ≤ seatIds.length ∧ seatIds.length ≤ 8 ∧
    seatIds.dedup.length = seatIds.length) ∧
    ∀ seat ∈ seatIds, seat ≠ "" ∧ seat.length ≤ 64

instance (seatIds : List SeatId) :
    Decidable (Reservations.admits seatIds) :=
  inferInstanceAs (Decidable (_ ∧ _))

/-- The intake; `digest` stands for SHA-256 over the sorted JSON text. -/
structure RedisReservationIntake (Hash : Type) where
  digest : Request → Hash
  holdSeconds : Nat := 120
  maxBacklog : Nat := 10000

/-- The negative replies of `ENQUEUE`. -/
inductive IntakeFailure where
  | seatmapWarming
  | saleClosed
  | idempotencyMismatch
  | backlogFull
  | seatNotFound
  | seatUnavailable
  deriving Repr, DecidableEq

/-- The replies of `ENQUEUE`. -/
inductive EnqueueReply where
  | refused (failure : IntakeFailure)
  | replayed (response : CommandResponse)
  | accepted (response : CommandResponse)
  deriving Repr, DecidableEq

namespace SeatEntry

/-- `status == 'HELD' and reserved_until_epoch <= now`. -/
def expired (entry : SeatEntry) (now : Int) : Bool :=
  decide (entry.status = .held ∧
    entry.reservedUntilEpoch.getD 0 ≤ now * second)

/-- The seat check of `ENQUEUE`. -/
def taken (entry : SeatEntry) (now : Int) : Bool :=
  decide (entry.status = .sold ∨
    (entry.status = .held ∧ entry.expired now = false))

/-- The seat while a command owns it provisionally. -/
def provisional
    (entry : SeatEntry)
    (response : CommandResponse)
    (version : Nat) : SeatEntry :=
  { entry with
    status := .held
    holdId := some response.holdId
    reservedUntil := some (.iso response.expiresAt)
    reservedUntilEpoch := some (response.expiresAtEpoch * second)
    version := version }

/-- The seat that `MARK_FAILED` gives back. -/
def freed (entry : SeatEntry) (version : Nat) : SeatEntry :=
  { entry with
    status := .available
    holdId := none
    reservedUntil := none
    reservedUntilEpoch := none
    version := version }

end SeatEntry

/-- The first loop of `ENQUEUE`: read and check the seats in order. -/
def SeatMap.selectSeats
    (map : SeatMap)
    (seats : List SeatId)
    (now : Int) :
    Except IntakeFailure (List SeatEntry) :=
  seats.mapM fun seatId => do
    let seat ← require (map.seats.find? seatId) IntakeFailure.seatNotFound
    ensure (seat.taken now = false) IntakeFailure.seatUnavailable
    pure seat

/-- The second loop of `ENQUEUE`: take the seats, one version each. -/
def SeatMap.takeSeats
    (map : SeatMap)
    (response : CommandResponse)
    (version : Nat)
    (selected : List SeatEntry) : SeatMap :=
  { map with
    version := some (version + selected.length)
    seats := map.seats.upsertAll (selected.zipIdx.map fun indexed =>
      indexed.1.provisional response (version + indexed.2 + 1)) }

namespace RedisReservationIntake

variable (self : RedisReservationIntake Hash)

/-- The `payload` document of `enqueue`. -/
def payload (command : NewCommand) : CommandPayload Hash where
  commandId := command.commandId
  actor := command.actor
  idempotencyKey := command.key
  requestHash := self.digest command.request
  eventId := command.eventId
  seatIds := command.seats
  holdId := command.holdId
  orderId := command.orderId
  expiresAt := addSeconds command.requestedAt self.holdSeconds

/-- The `response` document of `enqueue`, as the script completes it. -/
def response
    (command : NewCommand)
    (now : Int)
    (total : Nat)
    (currency : Currency) : CommandResponse where
  commandId := command.commandId
  holdId := command.holdId
  orderId := command.orderId
  seats := command.seats
  total := total
  currency := currency
  expiresAtEpoch := now + self.holdSeconds
  expiresAt := addSeconds command.requestedAt self.holdSeconds
  persistenceStatus := .pending

/-- The writes of `ENQUEUE` once every check has passed. -/
def accept
    (command : NewCommand)
    (now : Int)
    (sale : SaleWindow)
    (version : Nat)
    (selected : List SeatEntry)
    (redis : Redis Hash) :
    CommandResponse × Redis Hash :=
  let response :=
    self.response command now (selected.map SeatEntry.price).sum
      sale.currency
  let redis :=
    redis.setMap command.eventId
      ((redis.maps command.eventId).takeSeats response version selected)
  let redis :=
    redis.addExpiry command.eventId command.commandId
      response.expiresAtEpoch
  let redis :=
    redis.setStream command.eventId
      ((redis.streams command.eventId).add fun messageId =>
        { messageId := messageId
          commandId := command.commandId
          payload := self.payload command
          response := response
          createdAtEpoch := now })
  (response, { redis with
    idems := redis.idems.upsert {
      eventId := command.eventId
      identity := command.identity
      requestHash := self.digest command.request
      response := response }
    commands := redis.commands.upsert {
      eventId := command.eventId
      commandId := command.commandId
      status := .pending
      response := response
      payload := self.payload command
      createdAtEpoch := now } })

/-- The checks of `ENQUEUE` after the replay, in the order of the script. -/
def tryAccept
    (command : NewCommand)
    (now : Int)
    (sale : SaleWindow)
    (version : Nat)
    (redis : Redis Hash) :
    Except IntakeFailure (CommandResponse × Redis Hash) := do
  ensure ((redis.streams command.eventId).entries.length <
    self.maxBacklog) IntakeFailure.backlogFull
  let selected ←
    (redis.maps command.eventId).selectSeats command.seats now
  pure (self.accept command now sale version selected redis)

/-- The `ENQUEUE` script at the second `now`. -/
def enqueue
    [DecidableEq Hash]
    (command : NewCommand)
    (now : Int)
    (redis : Redis Hash) :
    EnqueueReply × Redis Hash :=
  let map := redis.maps command.eventId
  match map.version, map.updating, map.sale with
  | some version, false, some sale =>
      if now * second < sale.startsEpoch ∨ sale.endsEpoch ≤ now * second then
        (.refused .saleClosed, redis)
      else
        match redis.idems.find? (command.eventId, command.identity) with
        | some previous =>
            if previous.requestHash = self.digest command.request then
              (.replayed previous.response, redis)
            else
              (.refused .idempotencyMismatch, redis)
        | none =>
            match self.tryAccept command now sale version redis with
            | .ok (response, redis) => (.accepted response, redis)
            | .error failure => (.refused failure, redis)
  | _, _, _ => (.refused .seatmapWarming, redis)

end RedisReservationIntake

/-! ## The writer's verdicts -/

/-- The replies of the two marking scripts: 0, -1 and 1. -/
inductive MarkReply where
  | missing
  | refused
  | done
  deriving Repr, DecidableEq

namespace Redis

/-- `MARK_DURABLE`. -/
def markDurable
    (redis : Redis Hash)
    (eventId commandId : Uuid) :
    MarkReply × Redis Hash :=
  match redis.commands.find? (eventId, commandId) with
  | none => (.missing, redis)
  | some command =>
      if command.status = .failed then
        (.refused, redis)
      else
        (.done, { redis with
          commands := redis.commands.upsert
            { command with status := .durable } })

/-- One round of the loop of `MARK_FAILED`. -/
def freeSeat
    (holdId : Uuid)
    (map : SeatMap)
    (seatId : SeatId) : SeatMap :=
  match map.seats.find? seatId with
  | none => map
  | some seat =>
      if seat.holdId = some holdId then
        let version := map.version.getD 0 + 1
        { map with
          version := some version
          seats := map.seats.upsert (seat.freed version) }
      else
        map

/-- `MARK_FAILED`. -/
def markFailed
    (redis : Redis Hash)
    (eventId commandId : Uuid)
    (seatIds : List SeatId)
    (code : FailureCode) :
    MarkReply × Redis Hash :=
  match redis.commands.find? (eventId, commandId) with
  | none => (.missing, redis)
  | some command =>
      if command.status = .durable then
        (.refused, redis)
      else
        let redis :=
          redis.setMap eventId
            (seatIds.foldl (freeSeat command.response.holdId)
              (redis.maps eventId))
        let redis :=
          redis.removeExpiry eventId command.response.commandId
        (.done, { redis with
          commands := redis.commands.upsert
            { command with
              status := .failed
              errorCode := some code } })

end Redis

/-! ## What the scripts do -/

/-- The selected entries are the free entries of the named seats, in order. -/
theorem SeatMap.selectSeats_eq_ok
    {map : SeatMap}
    {seats : List SeatId}
    {now : Int}
    {selected : List SeatEntry}
    (accepted : map.selectSeats seats now = .ok selected) :
    selected.map SeatEntry.seatId = seats ∧
      ∀ entry ∈ selected,
        map.seats.find? entry.seatId = some entry ∧
          entry.taken now = false := by
  unfold selectSeats at accepted
  induction seats generalizing selected with
  | nil =>
      simp only [List.mapM_nil, pure_eq_ok] at accepted
      subst accepted
      simp
  | cons seatId rest inductionHypothesis =>
      simp only [List.mapM_cons, bind_eq_ok, require_eq_ok, ensure_eq_ok,
        pure_eq_ok] at accepted
      obtain ⟨entry, ⟨seat, found, _, free, rfl⟩, others, restAccepted,
        rfl⟩ := accepted
      obtain ⟨sameSeats, allFree⟩ := inductionHypothesis restAccepted
      have sameSeat : seat.seatId = seatId := Table.key_of_find? found
      refine ⟨by rw [List.map_cons, sameSeats, sameSeat], ?_⟩
      intro other member
      rcases List.mem_cons.mp member with rfl | later
      · exact ⟨by rw [sameSeat]; exact found, free⟩
      · exact allFree other later

/-- The checks that an accepted command passed. -/
structure RedisReservationIntake.Accepts
    (intake : RedisReservationIntake Hash)
    (command : NewCommand)
    (now : Int)
    (redis : Redis Hash)
    (sale : SaleWindow)
    (version : Nat)
    (selected : List SeatEntry) : Prop where
  versioned : (redis.maps command.eventId).version = some version
  readable : (redis.maps command.eventId).updating = false
  onSale :
    (redis.maps command.eventId).sale = some sale ∧
      sale.startsEpoch ≤ now * second ∧ now * second < sale.endsEpoch
  keyUnused : redis.idems.find? (command.eventId, command.identity) = none
  backlog :
    (redis.streams command.eventId).entries.length < intake.maxBacklog
  seats : selected.map SeatEntry.seatId = command.seats
  free :
    ∀ entry ∈ selected,
      (redis.maps command.eventId).seats.find? entry.seatId = some entry ∧
        entry.taken now = false

/-- `ENQUEUE` changes Redis exactly when it accepts the command. -/
theorem RedisReservationIntake.enqueue_cases
    [DecidableEq Hash]
    (self : RedisReservationIntake Hash)
    (command : NewCommand)
    (now : Int)
    (redis : Redis Hash) :
    ((self.enqueue command now redis).2 = redis ∧
      ∀ response, (self.enqueue command now redis).1 ≠ .accepted response) ∨
    ∃ sale version selected,
      self.Accepts command now redis sale version selected ∧
        self.enqueue command now redis =
          (.accepted
            (self.accept command now sale version selected redis).1,
          (self.accept command now sale version selected redis).2) := by
  unfold enqueue
  dsimp only
  split
  · rename_i version sale versioned readable saleFound
    split
    · exact Or.inl ⟨rfl, by simp⟩
    · rename_i onSale
      split
      · split
        · exact Or.inl ⟨rfl, by simp⟩
        · exact Or.inl ⟨rfl, by simp⟩
      · rename_i keyUnused
        split
        · rename_i response after accepted
          simp only [tryAccept, bind_eq_ok, ensure_eq_ok,
            pure_eq_ok] at accepted
          obtain ⟨_, backlog, selected, selectedIs, isAccept⟩ := accepted
          obtain ⟨seats, free⟩ := SeatMap.selectSeats_eq_ok selectedIs
          refine Or.inr ⟨sale, version, selected,
            ⟨versioned, readable, ⟨saleFound, ?_⟩, keyUnused, backlog,
              seats, free⟩, by rw [isAccept]⟩
          rw [not_or] at onSale
          exact ⟨Int.not_lt.mp onSale.1, Int.not_le.mp onSale.2⟩
        · exact Or.inl ⟨rfl, by simp⟩
  · exact Or.inl ⟨rfl, by simp⟩

/-- The map of another event is not touched. -/
theorem Redis.maps_setMap
    (redis : Redis Hash)
    (eventId otherId : Uuid)
    (map : SeatMap) :
    (redis.setMap eventId map).maps otherId =
      if otherId = eventId then map else redis.maps otherId := by
  simp only [setMap, Function.update_apply]

/-- The other streams are not touched. -/
theorem Redis.streams_setStream
    (redis : Redis Hash)
    (eventId otherId : Uuid)
    (stream : Stream Hash) :
    (redis.setStream eventId stream).streams otherId =
      if otherId = eventId then stream else redis.streams otherId := by
  simp only [setStream, Function.update_apply]

/-- `MARK_FAILED` refuses, or frees the seats and records the verdict. -/
theorem Redis.markFailed_cases
    (redis : Redis Hash)
    (eventId commandId : Uuid)
    (seatIds : List SeatId)
    (code : FailureCode) :
    ((redis.markFailed eventId commandId seatIds code).2 = redis ∧
      ∀ command,
        redis.commands.find? (eventId, commandId) = some command →
        command.status = .durable) ∨
    ∃ command,
      redis.commands.find? (eventId, commandId) = some command ∧
        command.status ≠ .durable ∧
        (redis.markFailed eventId commandId seatIds code).2 =
          { (redis.setMap eventId
              (seatIds.foldl (freeSeat command.response.holdId)
                (redis.maps eventId))).removeExpiry eventId
                  command.response.commandId with
            commands := redis.commands.upsert
              { command with
                status := .failed
                errorCode := some code } } := by
  unfold markFailed
  split
  · rename_i missing
    refine Or.inl ⟨rfl, ?_⟩
    intro command found
    rw [missing] at found
    cases found
  · rename_i command found
    split
    · rename_i isDurable
      refine Or.inl ⟨rfl, ?_⟩
      intro other otherFound
      rw [found] at otherFound
      cases otherFound
      exact isDurable
    · rename_i notDurable
      exact Or.inr ⟨command, found, notDurable, rfl⟩

/-- `MARK_DURABLE` refuses, or records that the command is durable. -/
theorem Redis.markDurable_cases
    {redis after : Redis Hash}
    {eventId commandId : Uuid}
    {reply : MarkReply}
    (marked : redis.markDurable eventId commandId = (reply, after)) :
    (reply ≠ .done ∧ after = redis) ∨
    ∃ command,
      redis.commands.find? (eventId, commandId) = some command ∧
        command.status ≠ .failed ∧
        reply = .done ∧
        after =
          { redis with
            commands := redis.commands.upsert
              { command with status := .durable } } := by
  unfold markDurable at marked
  split at marked
  · cases marked
    exact Or.inl ⟨by simp, rfl⟩
  · rename_i command found
    split at marked
    · cases marked
      exact Or.inl ⟨by simp, rfl⟩
    · rename_i notFailed
      cases marked
      exact Or.inr ⟨command, found, notFailed, rfl, rfl⟩

theorem Redis.streams_markFailed
    (redis : Redis Hash)
    (eventId commandId : Uuid)
    (seatIds : List SeatId)
    (code : FailureCode) :
    (redis.markFailed eventId commandId seatIds code).2.streams =
      redis.streams := by
  rcases redis.markFailed_cases eventId commandId seatIds code with
    ⟨refused, _⟩ | ⟨_, _, _, marked⟩
  · rw [refused]
  · rw [marked]
    rfl

/-- The command that `MARK_FAILED` was called for is not pending. -/
theorem Redis.not_pending_of_markFailed
    {redis : Redis Hash}
    {eventId commandId : Uuid}
    {seatIds : List SeatId}
    {code : FailureCode}
    {next : CommandHash Hash}
    (found :
      (redis.markFailed eventId commandId seatIds code).2.commands.find?
        (eventId, commandId) = some next) :
    next.status ≠ .pending := by
  rcases redis.markFailed_cases eventId commandId seatIds code with
    ⟨refused, isDurable⟩ | ⟨command, commandFound, _, marked⟩
  · rw [refused] at found
    rw [isDurable next found]
    nofun
  · rw [marked] at found
    rcases Table.find?_replaced_cases commandFound found rfl with
      ⟨_, rfl⟩ | ⟨otherKey, _⟩
    · nofun
    · exact absurd rfl otherKey

/-- Nor is the one that `MARK_DURABLE` has marked. -/
theorem Redis.not_pending_of_markDurable
    {redis after : Redis Hash}
    {eventId commandId : Uuid}
    {next : CommandHash Hash}
    (marked : redis.markDurable eventId commandId = (.done, after))
    (found : after.commands.find? (eventId, commandId) = some next) :
    next.status ≠ .pending := by
  rcases markDurable_cases marked with
    ⟨notDone, _⟩ | ⟨command, commandFound, _, _, rfl⟩
  · exact absurd rfl notDone
  · rcases Table.find?_replaced_cases commandFound found rfl with
      ⟨_, rfl⟩ | ⟨otherKey, _⟩
    · nofun
    · exact absurd rfl otherKey

theorem Redis.streams_markDurable
    {redis after : Redis Hash}
    {eventId commandId : Uuid}
    {reply : MarkReply}
    (marked : redis.markDurable eventId commandId = (reply, after)) :
    after.streams = redis.streams := by
  rcases markDurable_cases marked with ⟨_, rfl⟩ | ⟨_, _, _, _, rfl⟩
  · rfl
  · rfl

/-! ### Seat entries -/

theorem takeSeats_keys
    (response : CommandResponse)
    (version : Nat)
    (selected : List SeatEntry) :
    (selected.zipIdx.map fun indexed =>
        indexed.1.provisional response (version + indexed.2 + 1)).map
          Keyed.key =
      selected.map SeatEntry.seatId := by
  rw [List.map_map]
  calc
    _ = selected.zipIdx.map (SeatEntry.seatId ∘ Prod.fst) := rfl
    _ = selected.map SeatEntry.seatId := by
      rw [← List.map_map, List.zipIdx_map_fst]

/-- A taken seat is held by the command. -/
theorem SeatMap.find?_takeSeats_of_mem
    {map : SeatMap}
    {response : CommandResponse}
    {version : Nat}
    {selected : List SeatEntry}
    {entry : SeatEntry}
    (nodup : (selected.map SeatEntry.seatId).Nodup)
    (member : entry ∈ selected) :
    ∃ count,
      (map.takeSeats response version selected).seats.find? entry.seatId =
        some (entry.provisional response count) := by
  obtain ⟨index, indexed⟩ : ∃ index, (entry, index) ∈ selected.zipIdx := by
    rw [← List.zipIdx_map_fst 0 selected] at member
    obtain ⟨⟨_, index⟩, indexed, rfl⟩ := List.mem_map.mp member
    exact ⟨index, indexed⟩
  refine ⟨version + index + 1, ?_⟩
  have written :
      entry.provisional response (version + index + 1) ∈
        selected.zipIdx.map fun indexed =>
          indexed.1.provisional response (version + indexed.2 + 1) :=
    List.mem_map.mpr ⟨_, indexed, rfl⟩
  exact Table.find?_upsertAll_of_mem
    (by rw [takeSeats_keys]; exact nodup) written

/-- The other seats are as before. -/
theorem SeatMap.find?_takeSeats_of_not_mem
    {map : SeatMap}
    {response : CommandResponse}
    {version : Nat}
    {selected : List SeatEntry}
    {seatId : SeatId}
    (absent : seatId ∉ selected.map SeatEntry.seatId) :
    (map.takeSeats response version selected).seats.find? seatId =
      map.seats.find? seatId := by
  refine Table.find?_upsertAll_of_forall_ne ?_
  intro row written sameKey
  refine absent ?_
  rw [← takeSeats_keys response version selected, sameKey]
  exact List.mem_map_of_mem written

/-- `MARK_FAILED` does not touch an entry of another hold. -/
theorem Redis.find?_freeSeats_of_ne
    {holdId : Uuid}
    {map : SeatMap}
    {seatIds : List SeatId}
    {seatId : SeatId}
    {entry : SeatEntry}
    (found : map.seats.find? seatId = some entry)
    (other : entry.holdId ≠ some holdId) :
    (seatIds.foldl (freeSeat holdId) map).seats.find? seatId =
      some entry := by
  induction seatIds generalizing map with
  | nil =>
      exact found
  | cons freed rest inductionHypothesis =>
      refine inductionHypothesis ?_
      unfold freeSeat
      split
      · exact found
      · rename_i seat seatFound
        split
        · rename_i owned
          rw [Table.find?_upsert, if_neg]
          · exact found
          · intro same
            have seatKey : seat.seatId = freed :=
              Table.key_of_find? seatFound
            have sameSeat : seatId = freed := same.trans seatKey
            rw [sameSeat, seatFound] at found
            cases found
            exact other owned
        · exact found

/-! ## A small intake -/

/-- An intake whose digest is the request itself. -/
def smallIntake : RedisReservationIntake Request where
  digest := id

/-- A command for both seats of a small event. -/
def smallCommand : NewCommand where
  actor := "alice"
  eventId := 1
  seatIds := ["A1", "A2"]
  key := "first"
  commandId := 500
  holdId := 501
  orderId := 502
  requestedAt := 1 * second

end FlashTicketing
