import FlashTicketing.IdempotencyKeys
import FlashTicketing.SeatProjection

namespace FlashTicketing

open Relational Checked Transition

/-!
# The Redis-first system

`ENQUEUE` appends commands to a stream; writers take them from there, persist
them in PostgreSQL and record the outcome in Redis; projectors copy seat rows
into the map.  Every transaction, every script and every stream command is one
step, so that a writer can stop, or be overtaken, between any two of them.

A writer slot handles one delivery; a process that received several entries is
several slots.  An entry that is not acknowledged may be delivered again at any
time, which includes what `XAUTOCLAIM` does after its idle time.
-/

variable {Hash : Type}

/-! ## State -/

/-- How far `persist_reservation_batch` has come with one entry. -/
inductive Stage where
  | delivered
  | persisted
  | rejected (code : FailureCode)
  | markedFailed
  | snapshotRead (sale : Event) (rows : List SeatState)
  | acknowledging
  | deleting
  deriving Repr, DecidableEq

/-- One delivery of a stream entry. -/
structure Writer (Hash : Type) where
  stream : Uuid
  entry : StreamEntry Hash
  stage : Stage := .delivered

structure World (Hash : Type) where
  db : Database Hash
  redis : Redis Hash
  writers : Nat → Option (Writer Hash) := fun _ => none
  projectors : Nat → Option Projection := fun _ => none

inductive Action (Hash : Type) where
  | transact (call : Call Hash) (ambient : Ambient)
  | enqueue (command : NewCommand) (now : Int)
  | deliver (slot : Nat) (stream : Uuid) (entry : StreamEntry Hash)
  | persist (slot : Nat) (ambient : Ambient)
  | markFailed (slot : Nat)
  | readSnapshot (slot : Nat)
  | putSnapshot (slot : Nat) (incarnation : Uuid)
  | markDurable (slot : Nat)
  | acknowledge (slot : Nat)
  | delete (slot : Nat)
  | crash (slot : Nat)
  | project (slot : Nat) (projection : Projection)
  | putProjection (slot : Nat) (incarnation : Uuid)
  | abandon (slot : Nat)

namespace World

variable (world : World Hash)

def setWriter (slot : Nat) (writer : Option (Writer Hash)) : World Hash :=
  { world with writers := Function.update world.writers slot writer }

/-- The writer in a slot proceeds. -/
def advance (slot : Nat) (writer : Writer Hash) (stage : Stage) :
    World Hash :=
  world.setWriter slot (some { writer with stage := stage })

def setProjector (slot : Nat) (projection : Option Projection) :
    World Hash :=
  { world with
    projectors := Function.update world.projectors slot projection }

/-- A complete `PUT` into the map of an event. -/
def put (eventId : Uuid) (mode : PutMode) (rows : List SeatState) :
    World Hash :=
  { world with
    redis :=
      world.redis.setMap eventId
        ((world.redis.maps eventId).afterPut mode rows) }

end World

/-! ## Fresh identifiers -/

/-- No hold, order, command or stored response has the identifier. -/
structure Database.Lacks (db : Database Hash) (id : Uuid) : Prop where
  hold : db.holds.find? id = none
  order : db.orders.find? id = none
  command :
    ∀ row ∈ db.reservationCommands,
      row.commandId ≠ id ∧ row.holdId ≠ id ∧ row.orderId ≠ id
  record :
    ∀ row ∈ db.idempotencyRecords,
      row.response.bind Response.holdId? ≠ some id

instance (db : Database Hash) (id : Uuid) : Decidable (db.Lacks id) :=
  decidable_of_iff
    (db.holds.find? id = none ∧
      db.orders.find? id = none ∧
      (∀ row ∈ db.reservationCommands,
        row.commandId ≠ id ∧ row.holdId ≠ id ∧ row.orderId ≠ id) ∧
      ∀ row ∈ db.idempotencyRecords,
        row.response.bind Response.holdId? ≠ some id)
    ⟨fun ⟨hold, order, command, record⟩ => ⟨hold, order, command, record⟩,
      fun lacks => ⟨lacks.hold, lacks.order, lacks.command, lacks.record⟩⟩

/-- `uuid4()` gave the command identifiers that neither store has. -/
structure World.Unissued (world : World Hash) (command : NewCommand) :
    Prop where
  commandId : world.db.Lacks command.commandId
  holdId : world.db.Lacks command.holdId
  orderId : world.db.Lacks command.orderId
  redis :
    ∀ other ∈ world.redis.commands,
      other.commandId ≠ command.commandId ∧
        other.payload.holdId ≠ command.holdId ∧
        other.payload.orderId ≠ command.orderId

instance (world : World Hash) (command : NewCommand) :
    Decidable (world.Unissued command) :=
  decidable_of_iff
    (world.db.Lacks command.commandId ∧
      world.db.Lacks command.holdId ∧
      world.db.Lacks command.orderId ∧
      ∀ other ∈ world.redis.commands,
        other.commandId ≠ command.commandId ∧
          other.payload.holdId ≠ command.holdId ∧
          other.payload.orderId ≠ command.orderId)
    ⟨fun ⟨command, hold, order, redis⟩ => ⟨command, hold, order, redis⟩,
      fun unissued => ⟨unissued.commandId, unissued.holdId,
        unissued.orderId, unissued.redis⟩⟩

/-- `uuid4()` returns no identifier of a command. -/
def World.Undrawn (world : World Hash) (ambient : Ambient) : Prop :=
  ∀ command ∈ world.redis.commands,
    ∀ draw,
      ambient.uuid4 draw ≠ command.payload.holdId ∧
        ambient.uuid4 draw ≠ command.payload.orderId

/-! ## Steps -/

section Steps

variable [DecidableEq Hash]

/-- The call with which a writer persists its entry. -/
def Writer.call (writer : Writer Hash) : Call Hash :=
  .persistReservationCommand writer.entry.payload writer.entry.response

/--
One step.  A writer whose call raises a `Failure` rejects the command; any
other exception ends the delivery.
-/
inductive World.Step
    (self : PostgresReservations Hash)
    (intake : RedisReservationIntake Hash)
    (world : World Hash) :
    Action Hash → World Hash → Prop where
  | transact
      {call : Call Hash}
      {ambient : Ambient}
      (other : call.isPersist = false)
      (undrawn : world.Undrawn ambient) :
      Step self intake world (.transact call ambient)
        { world with db := (self.transaction call ambient world.db).2 }
  | enqueue
      {command : NewCommand}
      {now : Int}
      (unissued : world.Unissued command) :
      Step self intake world (.enqueue command now)
        { world with redis := (intake.enqueue command now world.redis).2 }
  | deliver
      {slot : Nat}
      {stream : Uuid}
      {entry : StreamEntry Hash}
      (idle : world.writers slot = none)
      (listed : entry ∈ (world.redis.streams stream).entries)
      (pending :
        entry.messageId ∉ (world.redis.streams stream).acknowledged) :
      Step self intake world (.deliver slot stream entry)
        (world.setWriter slot (some { stream := stream, entry := entry }))
  | persisted
      {slot : Nat}
      {writer : Writer Hash}
      {ambient : Ambient}
      {result : Result}
      {after : Database Hash}
      (working : world.writers slot = some writer)
      (stage : writer.stage = .delivered)
      (answered :
        self.transaction writer.call ambient world.db =
          (.ok result, after)) :
      Step self intake world (.persist slot ambient)
        ({ world with db := after }.advance slot writer .persisted)
  | rejected
      {slot : Nat}
      {writer : Writer Hash}
      {ambient : Ambient}
      {failure : Failure}
      {after : Database Hash}
      (working : world.writers slot = some writer)
      (stage : writer.stage = .delivered)
      (answered :
        self.transaction writer.call ambient world.db =
          (.error (.failure failure), after)) :
      Step self intake world (.persist slot ambient)
        ({ world with db := after }.advance slot writer
          (.rejected failure.code))
  | raised
      {slot : Nat}
      {writer : Writer Hash}
      {ambient : Ambient}
      {error : Error}
      {after : Database Hash}
      (working : world.writers slot = some writer)
      (stage : writer.stage = .delivered)
      (unexpected : ∀ failure, error ≠ .failure failure)
      (answered :
        self.transaction writer.call ambient world.db =
          (.error error, after)) :
      Step self intake world (.persist slot ambient)
        ({ world with db := after }.setWriter slot none)
  | markFailed
      {slot : Nat}
      {writer : Writer Hash}
      {code : FailureCode}
      (working : world.writers slot = some writer)
      (stage : writer.stage = .rejected code) :
      -- The reply of the script is not looked at.
      Step self intake world (.markFailed slot)
        ({ world with
            redis :=
              (world.redis.markFailed writer.entry.payload.eventId
                writer.entry.payload.commandId
                writer.entry.payload.seatIds code).2 }.advance
          slot writer .markedFailed)
  | readSnapshot
      {slot : Nat}
      {writer : Writer Hash}
      {sale : Event}
      (working : world.writers slot = some writer)
      (stage : writer.stage = .markedFailed)
      (found :
        world.db.events.find? writer.entry.payload.eventId = some sale) :
      Step self intake world (.readSnapshot slot)
        (world.advance slot writer (.snapshotRead sale
          (snapshotRows world.db writer.entry.payload.eventId)))
  | putSnapshot
      {slot : Nat}
      {writer : Writer Hash}
      {sale : Event}
      {rows : List SeatState}
      {incarnation : Uuid}
      (working : world.writers slot = some writer)
      (stage : writer.stage = .snapshotRead sale rows) :
      Step self intake world (.putSnapshot slot incarnation)
        ((world.put writer.entry.payload.eventId
            (.full (publication sale rows incarnation)) rows).advance
          slot writer .acknowledging)
  | markedDurable
      {slot : Nat}
      {writer : Writer Hash}
      {redis : Redis Hash}
      (working : world.writers slot = some writer)
      (stage : writer.stage = .persisted)
      (marked :
        world.redis.markDurable writer.entry.payload.eventId
          writer.entry.payload.commandId = (.done, redis)) :
      Step self intake world (.markDurable slot)
        ({ world with redis := redis }.advance slot writer .acknowledging)
  | notMarkedDurable
      {slot : Nat}
      {writer : Writer Hash}
      {reply : MarkReply}
      {redis : Redis Hash}
      (working : world.writers slot = some writer)
      (stage : writer.stage = .persisted)
      (notDone : reply ≠ .done)
      (marked :
        world.redis.markDurable writer.entry.payload.eventId
          writer.entry.payload.commandId = (reply, redis)) :
      -- `raise RuntimeError`
      Step self intake world (.markDurable slot)
        ({ world with redis := redis }.setWriter slot none)
  | acknowledge
      {slot : Nat}
      {writer : Writer Hash}
      (working : world.writers slot = some writer)
      (stage : writer.stage = .acknowledging) :
      Step self intake world (.acknowledge slot)
        ({ world with
            redis :=
              world.redis.setStream writer.stream
                ((world.redis.streams writer.stream).ack
                  writer.entry.messageId) }.advance
          slot writer .deleting)
  | delete
      {slot : Nat}
      {writer : Writer Hash}
      (working : world.writers slot = some writer)
      (stage : writer.stage = .deleting) :
      Step self intake world (.delete slot)
        ({ world with
            redis :=
              world.redis.setStream writer.stream
                ((world.redis.streams writer.stream).delete
                  writer.entry.messageId) }.setWriter
          slot none)
  | crash
      {slot : Nat} :
      Step self intake world (.crash slot) (world.setWriter slot none)
  | project
      {slot : Nat}
      {projection : Projection}
      (idle : world.projectors slot = none)
      (read : projection.ReadFrom world.db) :
      Step self intake world (.project slot projection)
        (world.setProjector slot (some projection))
  | putProjection
      {slot : Nat}
      {projection : Projection}
      {incarnation : Uuid}
      (holding : world.projectors slot = some projection) :
      Step self intake world (.putProjection slot incarnation)
        ((world.put projection.eventId (projection.mode incarnation)
          projection.rows).setProjector slot none)
  | abandon
      {slot : Nat} :
      Step self intake world (.abandon slot)
        (world.setProjector slot none)

end Steps

/-- Events with free seats, and nothing in Redis. -/
structure World.Initial (world : World Hash) : Prop where
  db : world.db.Initial
  redis : world.redis = { maps := fun _ => {} }
  idle : world.writers = fun _ => none
  unread : world.projectors = fun _ => none

/-! ## A small system -/

/-- A transaction that returns. -/
theorem World.Step.persisted_of_isOk
    [DecidableEq Hash]
    {self : PostgresReservations Hash}
    {intake : RedisReservationIntake Hash}
    {world : World Hash}
    {slot : Nat}
    {writer : Writer Hash}
    {ambient : Ambient}
    (working : world.writers slot = some writer)
    (stage : writer.stage = .delivered)
    (returns :
      (self.transaction writer.call ambient world.db).1.isOk = true) :
    World.Step self intake world (.persist slot ambient)
      ({ world with
          db := (self.transaction writer.call ambient world.db).2 }.advance
        slot writer .persisted) := by
  cases answered : self.transaction writer.call ambient world.db with
  | mk answer after =>
      rw [answered] at returns
      cases answer with
      | error => cases returns
      | ok result => exact .persisted working stage answered

/-- A transaction that raises a `Failure`. -/
theorem World.Step.rejected_of_error
    [DecidableEq Hash]
    {self : PostgresReservations Hash}
    {intake : RedisReservationIntake Hash}
    {world : World Hash}
    {slot : Nat}
    {writer : Writer Hash}
    {ambient : Ambient}
    {failure : Failure}
    (working : world.writers slot = some writer)
    (stage : writer.stage = .delivered)
    (raises :
      (self.transaction writer.call ambient world.db).1 =
        .error (.failure failure)) :
    World.Step self intake world (.persist slot ambient)
      ({ world with
          db := (self.transaction writer.call ambient world.db).2 }.advance
        slot writer (.rejected failure.code)) :=
  .rejected working stage (Prod.ext raises rfl)

/-- The small sale before anything is in Redis. -/
def smallWorld : World Request where
  db := smallSale
  redis := { maps := fun _ => {} }

theorem smallWorld_initial : smallWorld.Initial :=
  ⟨smallSale_initial, rfl, rfl, rfl⟩

/-- The snapshot that first publishes the map. -/
def smallSnapshot : Projection :=
  .full 1 smallEvent (snapshotRows smallSale 1)

/-- A command for one seat, with its three identifiers in a row. -/
def smallRequest
    (actor : Actor)
    (seatId : SeatId)
    (firstId : Uuid)
    (seconds : Nat) : NewCommand where
  actor := actor
  eventId := 1
  seatIds := [seatId]
  key := "key"
  commandId := firstId
  holdId := firstId + 1
  orderId := firstId + 2
  requestedAt := seconds * second

/-- The stream entry of such a command. -/
def smallEntry
    (command : NewCommand)
    (messageId : Nat)
    (now : Int) : StreamEntry Request where
  messageId := messageId
  commandId := command.commandId
  payload := smallIntake.payload command
  response := smallIntake.response command now 500 "THB"
  createdAtEpoch := now

/-- The hash of such a command while it is pending. -/
def smallHash (command : NewCommand) (now : Int) : CommandHash Request where
  eventId := 1
  commandId := command.commandId
  status := .pending
  response := smallIntake.response command now 500 "THB"
  payload := smallIntake.payload command
  createdAtEpoch := now

/-- The small system while its first snapshot is on the way. -/
def readWorld : World Request :=
  smallWorld.setProjector 0 (some smallSnapshot)

/-- The small system with a published map. -/
def mappedWorld : World Request :=
  (readWorld.put smallSnapshot.eventId (smallSnapshot.mode 700)
    smallSnapshot.rows).setProjector 0 none

/-- A script, a delivery and a transaction of the small system. -/
def World.enqueued
    (world : World Request)
    (command : NewCommand)
    (now : Int) : World Request :=
  { world with redis := (smallIntake.enqueue command now world.redis).2 }

def World.delivered
    (world : World Request)
    (slot : Nat)
    (entry : StreamEntry Request) : World Request :=
  world.setWriter slot (some { stream := 1, entry := entry })

def World.persistedAs
    (world : World Request)
    (slot : Nat)
    (entry : StreamEntry Request)
    (ambient : Ambient)
    (stage : Stage) : World Request :=
  { world with
    db :=
      (smallStore.transaction
        (.persistReservationCommand entry.payload entry.response)
        ambient world.db).2 }.advance
    slot { stream := 1, entry := entry } stage

theorem step_readWorld :
    World.Step smallStore smallIntake smallWorld (.project 0 smallSnapshot)
      readWorld :=
  .project rfl (.full rfl)

theorem step_mappedWorld :
    World.Step smallStore smallIntake readWorld (.putProjection 0 700)
      mappedWorld := by
  have holding : readWorld.projectors 0 = some smallSnapshot := rfl
  exact .putProjection holding

end FlashTicketing
