import FlashTicketing.PostgresSchema

namespace FlashTicketing

open Relational Checked

/-!
# The PostgreSQL transactions

Each function below is one transaction body of the store or of a worker.  It
returns the new database with its result, or the error that rolls it back.
What a body reads from outside the database is an argument: the clock, the
generated identifiers and, for the expiry query, the rows it locked.

A `NOWAIT` lock that is not available aborts the transaction without a trace
and is not represented; a committed transaction is one atomic step.
-/

/-- Clock readings and generated identifiers used by one transaction. -/
structure Ambient where
  /-- `SELECT clock_timestamp()` after the row locks. -/
  now : Int
  /-- The reading taken by a `DEFAULT clock_timestamp()` column. -/
  insertedAt : Int
  /-- The identifiers returned by successive `uuid4()` calls. -/
  uuid4 : Nat → Uuid

variable {Hash : Type} [DecidableEq Hash]

/-- An insertion that a key or `UNIQUE` constraint may reject. -/
def unique {Value : Type} (inserted : Option Value) : Except Error Value :=
  require inserted .uniqueViolation

@[simp] theorem unique_eq_ok
    {Value : Type}
    {inserted : Option Value}
    {value : Value} :
    unique inserted = .ok value ↔ inserted = some value :=
  require_eq_ok

/-- `event(conn, aggregate, kind, payload)`. -/
def event
    (id : Uuid)
    (aggregate : Uuid)
    (message : Message)
    (db : Database Hash) :
    Except Error (Database Hash) := do
  let outboxEvents ← unique (db.outboxEvents.insert? {
    id := id
    aggregateId := aggregate
    message := message })
  pure { db with outboxEvents := outboxEvents }

/-- `idem(conn, actor, operation, key, request)`. -/
def idem
    (digest : Request → Hash)
    (actor : Actor)
    (operation : Operation)
    (key : IdempotencyKey)
    (request : Request)
    (db : Database Hash) :
    Except Error (Option Response × Database Hash) :=
  match db.idempotencyRecords.insert? {
      actor := actor
      operation := operation
      key := key
      requestHash := digest request } with
  | some records =>
      .ok (none, { db with idempotencyRecords := records })
  | none => do
      let previous ←
        require (db.idempotencyRecords.find? (actor, operation, key))
          .typeError
      ensure (previous.requestHash = digest request)
        (fail .idempotencyMismatch)
      -- A null response reads as `None`, which callers take for "not seen".
      pure (previous.response, db)

/-- `remember(conn, actor, operation, key, response)`. -/
def remember
    (actor : Actor)
    (operation : Operation)
    (key : IdempotencyKey)
    (response : Response)
    (db : Database Hash) :
    Database Hash :=
  { db with
    idempotencyRecords :=
      db.idempotencyRecords.modify
        (fun record =>
          decide (Keyed.key record = (actor, operation, key)))
        (fun record => { record with response := some response }) }

/--
The frame shared by `reserve`, `checkout` and `initiate_payment`: replay the
stored response, or run the body and remember what it answers.
-/
def idempotent
    (digest : Request → Hash)
    (actor : Actor)
    (operation : Operation)
    (key : IdempotencyKey)
    (request : Request)
    (body : Database Hash → Except Error (Response × Database Hash))
    (db : Database Hash) :
    Except Error (Response × Database Hash) := do
  let (replay, db) ← idem digest actor operation key request db
  match replay with
  | some response =>
      pure (response, db)
  | none => do
      let (response, db) ← body db
      pure (response, remember actor operation key response db)

namespace EventSeat

/-- `row["reserved_until"] and row["reserved_until"] > now`. -/
def reservedAfter (seat : EventSeat) (now : Int) : Bool :=
  match seat.reservedUntil with
  | some deadline => decide (now < deadline)
  | none => false

/-- The seat check of `reserve`. -/
def unavailable (seat : EventSeat) (now : Int) : Bool :=
  seat.bookedOrderId.isSome || seat.reservedAfter now

/-- The seat check of the writer, which exempts the command's own hold. -/
def unavailableTo
    (seat : EventSeat)
    (now : Int)
    (holdId : Uuid) : Bool :=
  seat.bookedOrderId.isSome ||
    (seat.reservedAfter now && decide (seat.holdId ≠ some holdId))

/-- `WHERE hold_id=... AND booked_order_id IS NULL`. -/
def releasable (seat : EventSeat) (holdId : Uuid) : Bool :=
  decide (seat.holdId = some holdId ∧ seat.bookedOrderId = none)

/-- `SET hold_id=...,reserved_until=...,version=version+1`. -/
def hold
    (seat : EventSeat)
    (holdId : Uuid)
    (expires : Int) : EventSeat :=
  { seat with
    holdId := some holdId
    reservedUntil := some expires
    version := seat.version + 1 }

/-- `SET hold_id=NULL,reserved_until=NULL,version=version+1`. -/
def clear (seat : EventSeat) : EventSeat :=
  { seat with
    holdId := none
    reservedUntil := none
    version := seat.version + 1 }

/-- `SET booked_order_id=...,hold_id=NULL,reserved_until=NULL,version=version+1`. -/
def book (seat : EventSeat) (orderId : Uuid) : EventSeat :=
  { seat with
    bookedOrderId := some orderId
    holdId := none
    reservedUntil := none
    version := seat.version + 1 }

theorem key_hold
    (holdId : Uuid)
    (expires : Int)
    (seat : EventSeat) :
    Keyed.key (seat.hold holdId expires) = Keyed.key seat :=
  rfl

theorem key_clear (seat : EventSeat) :
    Keyed.key seat.clear = Keyed.key seat :=
  rfl

theorem key_book (orderId : Uuid) (seat : EventSeat) :
    Keyed.key (seat.book orderId) = Keyed.key seat :=
  rfl

end EventSeat

/-- `ORDER BY seat_id`. -/
def orderBySeat (seats : List EventSeat) : List EventSeat :=
  seats.insertionSort fun first second => first.seatId ≤ second.seatId

/-- The `event_seats` row is one of the named seats of the event. -/
def EventSeat.requested
    (seat : EventSeat)
    (eventId : Uuid)
    (seats : List SeatId) : Bool :=
  decide (seat.eventId = eventId ∧ seat.seatId ∈ seats)

/-- `SELECT * FROM event_seats WHERE event_id=... AND seat_id=ANY(...)`. -/
def seatRows
    (db : Database Hash)
    (eventId : Uuid)
    (seats : List SeatId) :
    List EventSeat :=
  orderBySeat (db.eventSeats.select (·.requested eventId seats))

/-- The rows of a new hold without its announcement. -/
def placeRows
    (hold : Hold)
    (order : Order)
    (rows : List EventSeat)
    (seats : List SeatId)
    (db : Database Hash) :
    Except Error (Database Hash) := do
  let holds ← unique (db.holds.insert? hold)
  ensure (∀ other ∈ db.orders.rows, other.holdId ≠ order.holdId)
    .uniqueViolation
  let orders ← unique (db.orders.insert? order)
  let orderItems ← unique (db.orderItems.insertAll? (rows.map fun row => {
    orderId := order.id
    eventId := hold.eventId
    seatId := row.seatId
    price := row.price }))
  pure { db with
    holds := holds
    orders := orders
    eventSeats :=
      db.eventSeats.modify (·.requested hold.eventId seats)
        (·.hold hold.id hold.expiresAt)
        (EventSeat.key_hold hold.id hold.expiresAt)
    orderItems := orderItems }

/--
The writes that `reserve` and `persist_reservation_command` share: the hold,
its pending order, the seat update, the order items and the announcement.
-/
def placeHold
    (hold : Hold)
    (order : Order)
    (rows : List EventSeat)
    (seats : List SeatId)
    (announcement : Uuid)
    (db : Database Hash) :
    Except Error (Database Hash) := do
  let db ← placeRows hold order rows seats db
  event announcement order.id (.seatsChanged hold.eventId (some seats)) db

/--
`_release(conn, order, state)`: clear the unbooked seats that still carry the
order's hold, close the hold and the order where they are open, announce.
-/
def releaseInTransaction
    (order : Order)
    (state : HoldStatus)
    (announcement : Uuid)
    (db : Database Hash) :
    Except Error (Database Hash) :=
  let released := db.eventSeats.select (·.releasable order.holdId)
  event announcement order.id
    (.seatsChanged order.eventId (some (released.map EventSeat.seatId)))
    { db with
      eventSeats :=
        db.eventSeats.modify (·.releasable order.holdId) EventSeat.clear
          EventSeat.key_clear
      holds :=
        db.holds.modify
          (fun hold =>
            decide (hold.id = order.holdId ∧ hold.status = .active))
          (fun hold => { hold with status := state })
      orders :=
        db.orders.modify
          (fun row => decide (row.id = order.id ∧ row.status = .pending))
          (fun row => { row with status := .expired }) }

/-- What a reservation command carries from the intake to the writer. -/
structure CommandPayload (Hash : Type) where
  commandId : Uuid
  actor : Actor
  idempotencyKey : IdempotencyKey
  requestHash : Hash
  eventId : Uuid
  seatIds : List SeatId
  holdId : Uuid
  orderId : Uuid
  expiresAt : Int
  deriving Repr, DecidableEq

/-- `{"event_id": payload["event_id"], "seats": sorted(payload["seat_ids"])}`. -/
def CommandPayload.request (payload : CommandPayload Hash) : Request :=
  .hold payload.eventId (sortedSeats payload.seatIds)

/-- The hold that the writer inserts for a command. -/
def CommandPayload.hold (payload : CommandPayload Hash) : Hold where
  id := payload.holdId
  actor := payload.actor
  eventId := payload.eventId
  expiresAt := payload.expiresAt
  status := .active

/-- The store; `digest` stands for SHA-256 over the sorted JSON text. -/
structure PostgresReservations (Hash : Type) where
  digest : Request → Hash
  holdSeconds : Nat := 120

namespace PostgresReservations

variable (self : PostgresReservations Hash)

/-- The part of `reserve` that runs when the key is new. -/
def reserveBody
    (actor : Actor)
    (eventId : Uuid)
    (seats : List SeatId)
    (ambient : Ambient)
    (db : Database Hash) :
    Except Error (Response × Database Hash) := do
  let sale ← require (db.events.find? eventId) (fail .eventNotFound 404)
  let rows := seatRows db eventId seats
  let now := ambient.now
  ensure (sale.saleStarts ≤ now ∧ now < sale.saleEnds) (fail .saleClosed)
  ensure (rows.length = seats.length) (fail .seatNotFound 404)
  ensure (∀ row ∈ rows, row.unavailable now = false)
    (fail .seatUnavailable)
  let hold := ambient.uuid4 0
  let order := ambient.uuid4 1
  let expires := addSeconds now self.holdSeconds
  let total := (rows.map EventSeat.price).sum
  let db ← placeHold
    { id := hold
      actor := actor
      eventId := eventId
      expiresAt := expires
      status := .active }
    { id := order
      actor := actor
      holdId := hold
      eventId := eventId
      total := total
      currency := sale.currency
      status := .pending
      createdAt := ambient.insertedAt }
    rows seats (ambient.uuid4 2) db
  pure (.reserved hold order expires total sale.currency seats, db)

/-- The canonical request of `reserve`, or `none` for an invalid seat list. -/
def reserveRequest
    (eventId : Uuid)
    (seatIds : List SeatId) :
    Option Request :=
  let seats := sortedSeats seatIds.dedup
  if seats.length = seatIds.length ∧
      1 ≤ seats.length ∧ seats.length ≤ 8 then
    some (.hold eventId seats)
  else
    none

/-- `reserve(actor, event_id, seat_ids, key)` after its Redis shield. -/
def reserve
    (actor : Actor)
    (eventId : Uuid)
    (seatIds : List SeatId)
    (key : IdempotencyKey)
    (ambient : Ambient)
    (db : Database Hash) :
    Except Error (Response × Database Hash) := do
  let request ←
    require (reserveRequest eventId seatIds) (fail .invalidSeats 422)
  idempotent self.digest actor .hold key request
    (self.reserveBody actor eventId (sortedSeats seatIds.dedup) ambient)
    db

/-- The part of `persist_reservation_command` that creates the reservation. -/
def persistBody
    (payload : CommandPayload Hash)
    (response : CommandResponse)
    (ambient : Ambient)
    (db : Database Hash) :
    Except Error (Response × Database Hash) := do
  let sale ←
    require (db.events.find? payload.eventId) (fail .eventNotFound 404)
  let seats := sortedSeats payload.seatIds
  let rows := seatRows db payload.eventId seats
  let now := ambient.now
  ensure (sale.saleStarts ≤ now ∧ now < sale.saleEnds) (fail .saleClosed)
  ensure (rows.length = payload.seatIds.length) (fail .seatNotFound 404)
  ensure (now < payload.expiresAt) (fail .holdExpired)
  ensure (∀ row ∈ rows, row.unavailableTo now payload.holdId = false)
    (fail .seatUnavailable)
  let total := (rows.map EventSeat.price).sum
  let durable : Response := .command { response with
    total := total
    currency := sale.currency
    expiresAt := payload.expiresAt
    persistenceStatus := .durable }
  let db ← placeHold payload.hold
    { id := payload.orderId
      actor := payload.actor
      holdId := payload.holdId
      eventId := payload.eventId
      total := total
      currency := sale.currency
      status := .pending
      createdAt := ambient.insertedAt }
    rows seats (ambient.uuid4 0) db
  let db :=
    remember payload.actor .hold payload.idempotencyKey durable db
  ensure
    (∀ command ∈ db.reservationCommands.rows,
      command.holdId ≠ payload.holdId ∧
        command.orderId ≠ payload.orderId)
    .uniqueViolation
  let reservationCommands ← unique (db.reservationCommands.insert? {
    commandId := payload.commandId
    actor := payload.actor
    idempotencyKey := payload.idempotencyKey
    requestHash := payload.requestHash
    eventId := payload.eventId
    holdId := payload.holdId
    orderId := payload.orderId
    response := durable })
  pure (durable, { db with reservationCommands := reservationCommands })

/-- `persist_reservation_command(payload, response)`. -/
def persistReservationCommand
    (payload : CommandPayload Hash)
    (response : CommandResponse)
    (ambient : Ambient)
    (db : Database Hash) :
    Except Error (Response × Database Hash) := do
  ensure (self.digest payload.request = payload.requestHash)
    (fail .reservationCommandMismatch 422)
  match db.reservationCommands.find? payload.commandId with
  | some previous => do
      ensure (previous.requestHash = payload.requestHash)
        (fail .reservationCommandMismatch)
      pure (previous.response, db)
  | none => do
      let (replay, db) ←
        idem self.digest payload.actor .hold payload.idempotencyKey
          payload.request db
      match replay with
      | some replay => do
          ensure
            (replay.holdId? = some payload.holdId ∧
              replay.orderId = payload.orderId)
            (fail .reservationCommandMismatch)
          pure (replay, db)
      | none =>
          persistBody payload response ambient db

/-- The part of `checkout` that runs when the key is new. -/
def checkoutBody
    (actor : Actor)
    (holdId : Uuid)
    (ambient : Ambient)
    (db : Database Hash) :
    Except Error (Response × Database Hash) := do
  let row ←
    require
      (db.orders.rows.find? fun order =>
        decide (order.holdId = holdId ∧ order.actor = actor))
      (fail .holdNotFound 404)
  let hold ← require (db.holds.find? holdId) .typeError
  ensure (¬ (row.status = .pending ∧ hold.expiresAt ≤ ambient.now))
    (fail .holdExpired)
  pure (.order row.id row.status row.total row.currency, db)

/-- `checkout(actor, hold_id, key)`. -/
def checkout
    (actor : Actor)
    (holdId : Uuid)
    (key : IdempotencyKey)
    (ambient : Ambient)
    (db : Database Hash) :
    Except Error (Response × Database Hash) :=
  idempotent self.digest actor .order key (.order holdId)
    (checkoutBody actor holdId ambient) db

/-- `release(actor, hold_id)`. -/
def release
    (actor : Actor)
    (holdId : Uuid)
    (ambient : Ambient)
    (db : Database Hash) :
    Except Error (Database Hash) := do
  let order ←
    require
      (db.orders.rows.find? fun order =>
        decide (order.holdId = holdId ∧ order.actor = actor))
      (fail .holdNotFound 404)
  ensure (order.status.isPaid = false) (fail .alreadyBooked)
  releaseInTransaction order .released (ambient.uuid4 0) db

/--
The orders that the expiry query returns out of the rows it could lock.  The
query joins `holds` without locking it, so a hold may have left `ACTIVE` since
the statement's snapshot; its deadline is immutable.
-/
def expiryRows
    (limit : Nat)
    (locked : List Uuid)
    (now : Int)
    (db : Database Hash) :
    List Order :=
  let candidates := locked.dedup.filterMap db.orders.find?
  let due := candidates.filter fun order =>
    match db.holds.find? order.holdId with
    | some hold => decide (hold.expiresAt ≤ now)
    | none => false
  due.take limit

/-- `expire_batch(limit)`, over the order rows that were not skipped as locked. -/
def expireBatch
    (limit : Nat)
    (locked : List Uuid)
    (ambient : Ambient)
    (db : Database Hash) :
    Except Error (Nat × Database Hash) := do
  ensure (1 ≤ limit ∧ limit ≤ 100)
    (.valueError "Expiry batch limit must be between 1 and 100")
  let orders := expiryRows limit locked ambient.now db
  let db ← orders.zipIdx.foldlM
    (fun db indexed =>
      releaseInTransaction indexed.1 .expired (ambient.uuid4 indexed.2) db)
    db
  pure (orders.length, db)

/-- The part of `initiate_payment` that runs when the key is new. -/
def initiatePaymentBody
    (actor : Actor)
    (orderId : Uuid)
    (outcome : Outcome)
    (delaySeconds : Nat)
    (duplicates : Nat)
    (ambient : Ambient)
    (db : Database Hash) :
    Except Error (Response × Database Hash) := do
  let order ←
    require
      (db.orders.rows.find? fun order =>
        decide (order.id = orderId ∧ order.actor = actor))
      (fail .orderNotFound 404)
  match db.paymentAttempts.rows.find? fun payment =>
      decide (payment.orderId = orderId) with
  | some existing =>
      pure (.payment existing.id orderId, db)
  | none => do
      let hold ← require (db.holds.find? order.holdId) .typeError
      ensure (order.status = .pending ∧ ambient.now < hold.expiresAt)
        (fail .orderNotPayable)
      ensure (1 ≤ duplicates ∧ duplicates ≤ 10) .checkViolation
      let payments ← unique (db.paymentAttempts.insert? {
        id := ambient.uuid4 0
        orderId := orderId
        status := .pending
        outcome := outcome
        dueAt := addSeconds ambient.now delaySeconds
        targetDeliveries := duplicates })
      pure (.payment (ambient.uuid4 0) orderId,
        { db with paymentAttempts := payments })

/-- `initiate_payment(actor, order_id, key, outcome, delay_seconds, duplicates)`. -/
def initiatePayment
    (actor : Actor)
    (orderId : Uuid)
    (key : IdempotencyKey)
    (outcome : Outcome)
    (delaySeconds : Nat)
    (duplicates : Nat)
    (ambient : Ambient)
    (db : Database Hash) :
    Except Error (Response × Database Hash) :=
  idempotent self.digest actor .payment key
    (.payment orderId outcome delaySeconds duplicates)
    (initiatePaymentBody actor orderId outcome delaySeconds duplicates
      ambient)
    db

end PostgresReservations

/-! ## Payment callbacks -/

/-- The strings returned by `payment_decision`. -/
inductive Decision where
  | unchanged
  | failed
  | book
  | refund
  deriving Repr, DecidableEq

/-- A financial success is never discarded, even after a failed/expired checkout. -/
def paymentDecision
    (orderStatus : OrderStatus)
    (validHold : Bool)
    (outcome : Outcome) : Decision :=
  if orderStatus.isPaid then
    .unchanged
  else if outcome = .failed then
    if orderStatus = .pending then .failed else .unchanged
  else if orderStatus = .pending ∧ validHold = true then
    .book
  else
    .refund

/-- The `status` returned by `callback`. -/
inductive CallbackStatus where
  | duplicate
  | decided (decision : Decision)
  deriving Repr, DecidableEq

/-- Insert one booking under its key and its `UNIQUE(event_id,seat_id)`. -/
def insertBooking
    (bookings : Table Booking)
    (booking : Booking) :
    Except Error (Table Booking) := do
  ensure (∀ other ∈ bookings.rows, other.place ≠ booking.place)
    .uniqueViolation
  unique (bookings.insert? booking)

/-- The seats joined with the items of an order. -/
def orderSeats
    (db : Database Hash)
    (order : Order) :
    List EventSeat :=
  orderBySeat (db.eventSeats.select fun seat =>
    db.orderItems.rows.any fun item =>
      decide (item.orderId = order.id ∧ item.place = seat.place))

/-- Whether the hold still owns every seat of the order. -/
def validHold
    (hold : Hold)
    (seats : List EventSeat)
    (now : Int) : Bool :=
  !seats.isEmpty &&
    decide (hold.status = .active ∧ now < hold.expiresAt) &&
    seats.all fun seat =>
      decide (seat.holdId = some hold.id ∧ seat.bookedOrderId = none) &&
        seat.reservedAfter now

/-- The writes of a `BOOK` decision. -/
def bookOrder
    (order : Order)
    (hold : Hold)
    (seats : List EventSeat)
    (uuid4 : Nat → Uuid)
    (db : Database Hash) :
    Except Error (Database Hash) := do
  let bookings ← (seats.zipIdx.map fun indexed => {
      id := uuid4 indexed.2
      eventId := order.eventId
      seatId := indexed.1.seatId
      orderId := order.id : Booking }).foldlM insertBooking db.bookings
  event (uuid4 seats.length) order.id (.orderPaid order.id)
    { db with
      bookings := bookings
      eventSeats :=
        db.eventSeats.modify
          (fun seat => decide (seat.holdId = some hold.id))
          (·.book order.id)
          (EventSeat.key_book order.id)
      holds :=
        db.holds.modify (fun row => decide (row.id = hold.id))
          (fun row => { row with status := .consumed })
      orders :=
        db.orders.modify (fun row => decide (row.id = order.id))
          (fun row => { row with status := .paid }) }

/-- `UPDATE orders SET status=... WHERE id=...`. -/
def setOrderStatus
    (orderId : Uuid)
    (status : OrderStatus)
    (db : Database Hash) : Database Hash :=
  { db with
    orders :=
      db.orders.modify (fun row => decide (row.id = orderId))
        (fun row => { row with status := status }) }

/-- The writes of a `FAILED` decision. -/
def failOrder
    (order : Order)
    (uuid4 : Nat → Uuid)
    (db : Database Hash) :
    Except Error (Database Hash) := do
  let db ← releaseInTransaction order .released (uuid4 0) db
  pure (setOrderStatus order.id .failed db)

/-- The writes of a `REFUND` decision. -/
def refundOrder
    (payment : PaymentAttempt)
    (order : Order)
    (uuid4 : Nat → Uuid)
    (db : Database Hash) :
    Except Error (Database Hash) := do
  let db ← releaseInTransaction order .expired (uuid4 0) db
  let db := setOrderStatus order.id .refundPending db
  let refund : RefundRequest :=
    { paymentId := payment.id, orderId := order.id, status := .pending }
  event (uuid4 1) order.id (.refundRequested payment.id order.id)
    { db with
      -- `ON CONFLICT DO NOTHING`
      refundRequests :=
        (db.refundRequests.insert? refund).getD db.refundRequests }

/-- The number of identifiers drawn before the final announcement. -/
def Decision.draws (decision : Decision) (seats : Nat) : Nat :=
  match decision with
  | .book => seats + 1
  | .refund => 2
  | .failed => 1
  | .unchanged => 0

/-- The writes of a decision, before its final announcement. -/
def applyDecision
    (decision : Decision)
    (payment : PaymentAttempt)
    (order : Order)
    (hold : Hold)
    (seats : List EventSeat)
    (uuid4 : Nat → Uuid)
    (db : Database Hash) :
    Except Error (Database Hash) :=
  match decision with
  | .book => bookOrder order hold seats uuid4 db
  | .refund => refundOrder payment order uuid4 db
  | .failed => failOrder order uuid4 db
  | .unchanged => pure db

/-- Decide a callback of a payment that has not succeeded, and apply it. -/
def settle
    (payment : PaymentAttempt)
    (order : Order)
    (payload : CallbackPayload)
    (ambient : Ambient)
    (db : Database Hash) :
    Except Error (Decision × Database Hash) := do
  let hold ← require (db.holds.find? order.holdId) .typeError
  let seats := orderSeats db order
  let valid := validHold hold seats ambient.now
  let decision := paymentDecision order.status valid payload.outcome
  let db := { db with
    paymentAttempts :=
      db.paymentAttempts.modify (fun row => decide (row.id = payment.id))
        (fun row => { row with status := payload.outcome.status }) }
  let db ←
    applyDecision decision payment order hold seats ambient.uuid4 db
  let db ← event (ambient.uuid4 (decision.draws seats.length)) order.id
    (.seatsChanged order.eventId (some (seats.map EventSeat.seatId))) db
  pure (decision, db)

namespace PostgresReservations

variable (self : PostgresReservations Hash)

/-- `callback(payload)`. -/
def callback
    (payload : CallbackPayload)
    (ambient : Ambient)
    (db : Database Hash) :
    Except Error (CallbackStatus × Database Hash) := do
  let payment ←
    require (db.paymentAttempts.find? payload.paymentId)
      (fail .paymentNotFound 404)
  let order ← require (db.orders.find? payment.orderId) .typeError
  ensure
    (order.id = payload.orderId ∧
      order.total = payload.amount ∧
      order.currency = payload.currency)
    (fail .paymentMismatch 422)
  match db.paymentCallbacks.find? payload.callbackId with
  | some previous => do
      ensure (previous.payloadHash = self.digest (.callback payload))
        (fail .callbackMismatch)
      pure (.duplicate, db)
  | none => do
      let callbacks ← unique (db.paymentCallbacks.insert? {
        id := payload.callbackId
        paymentId := payload.paymentId
        payloadHash := self.digest (.callback payload) })
      let db := { db with paymentCallbacks := callbacks }
      if payment.status = .succeeded then
        pure (.duplicate, db)
      else do
        let (decision, db) ← settle payment order payload ambient db
        pure (.decided decision, db)

end PostgresReservations

/-! ## The event consumer -/

/-- `ON CONFLICT(event_id) DO UPDATE SET ...` of `request_refresh`. -/
def SeatRefreshRequest.request
    (row : SeatRefreshRequest)
    (seatIds : Option (List SeatId))
    (now : Int) : SeatRefreshRequest :=
  { row with
    generation := row.generation + 1
    seatIds :=
      if row.generation = row.completedGeneration then
        seatIds
      else
        match row.seatIds, seatIds with
        | some stored, some added => some (stored ++ added).dedup
        | _, _ => none
    requestedAt :=
      if row.generation = row.completedGeneration then
        now
      else
        row.requestedAt }

/-- The row that `request_refresh` leaves. -/
def requestedRow
    (eventId : Uuid)
    (seatIds : Option (List SeatId))
    (now : Int)
    (requests : Table SeatRefreshRequest) : SeatRefreshRequest :=
  match requests.find? eventId with
  | none =>
      { eventId := eventId
        requestedAt := now
        nextAttemptAt := now
        seatIds := seatIds }
  | some row =>
      row.request seatIds now

/-- `request_refresh(conn, event_id, seat_ids=None)`. -/
def requestRefresh
    (eventId : Uuid)
    (seatIds : Option (List SeatId))
    (now : Int)
    (db : Database Hash) :
    Except Error (Database Hash) := do
  ensure ((db.events.find? eventId).isSome = true) .foreignKeyViolation
  pure { db with
    seatRefreshRequests :=
      db.seatRefreshRequests.upsert
        (requestedRow eventId seatIds now db.seatRefreshRequests) }

/-- What a Kafka message carries to the consumer. -/
structure Envelope where
  eventId : Uuid
  schemaVersion : Nat := 1
  message : Message
  deriving Repr, DecidableEq

/-- The envelope that `publish_batch` makes of an outbox row. -/
def OutboxEvent.envelope (row : OutboxEvent) : Envelope where
  eventId := row.id
  message := row.message

/-- `INSERT INTO tickets ... ON CONFLICT DO NOTHING`. -/
def issueTicket (tickets : Table Ticket) (ticket : Ticket) : Table Ticket :=
  if tickets.rows.any fun other => decide (other.bookingId = ticket.bookingId)
  then
    tickets
  else
    (tickets.insert? ticket).getD tickets

/-- The `OrderPaid` branch of `consume_event`. -/
def fulfilOrder
    (orderId : Uuid)
    (ambient : Ambient)
    (db : Database Hash) :
    Except Error (Database Hash) := do
  let order ← require (db.orders.find? orderId) .typeError
  ensure (order.status.isPaid = true)
    (.valueError "OrderPaid has no paid order")
  let bookings :=
    db.bookings.select fun booking => decide (booking.orderId = order.id)
  let tickets := bookings.zipIdx.foldl
    (fun tickets indexed => issueTicket tickets {
      id := ambient.uuid4 indexed.2
      bookingId := indexed.1.id })
    db.tickets
  event (ambient.uuid4 bookings.length) order.id (.ticketsIssued order.id)
    (setOrderStatus order.id .fulfilled { db with tickets := tickets })

/-- The `RefundRequested` branch of `consume_event`. -/
def completeRefund
    (paymentId : Uuid)
    (orderId : Uuid)
    (db : Database Hash) : Database Hash :=
  { db with
    refundRequests :=
      db.refundRequests.modify
        (fun refund => decide (refund.paymentId = paymentId))
        (fun refund => { refund with status := .refunded })
    orders :=
      db.orders.modify
        (fun row =>
          decide (row.id = orderId ∧ row.status = .refundPending))
        (fun row => { row with status := .refunded }) }

/-- `consume_event(db, cache, envelope)`. -/
def consumeEvent
    (envelope : Envelope)
    (ambient : Ambient)
    (db : Database Hash) :
    Except Error (Database Hash) := do
  ensure (envelope.schemaVersion = 1)
    (.valueError "Unsupported event schema")
  match db.consumerInbox.insert? { eventId := envelope.eventId } with
  | none =>
      pure db
  | some inbox =>
      let db := { db with consumerInbox := inbox }
      match envelope.message with
      | .seatsChanged eventId seats =>
          requestRefresh eventId seats ambient.now db
      | .orderPaid orderId =>
          fulfilOrder orderId ambient db
      | .refundRequested paymentId orderId =>
          pure (completeRefund paymentId orderId db)
      | .ticketsIssued _ =>
          pure db
      | .unknown _ =>
          throw (.valueError "Unknown event type")

/-! ## Calls and their transactions -/

/-- One call of a store operation or of the event consumer. -/
inductive Call (Hash : Type) where
  | reserve
      (actor : Actor)
      (eventId : Uuid)
      (seatIds : List SeatId)
      (key : IdempotencyKey)
  | persistReservationCommand
      (payload : CommandPayload Hash)
      (response : CommandResponse)
  | checkout (actor : Actor) (holdId : Uuid) (key : IdempotencyKey)
  | release (actor : Actor) (holdId : Uuid)
  | expireBatch (limit : Nat) (locked : List Uuid)
  | initiatePayment
      (actor : Actor)
      (orderId : Uuid)
      (key : IdempotencyKey)
      (outcome : Outcome)
      (delaySeconds : Nat)
      (duplicates : Nat)
  | callback (payload : CallbackPayload)
  | consumeEvent (envelope : Envelope)

/-- What a committed call returns. -/
inductive Result where
  | response (response : Response)
  | released
  | expired (count : Nat)
  | callback (status : CallbackStatus)
  | consumed
  deriving Repr, DecidableEq

namespace PostgresReservations

variable (self : PostgresReservations Hash)

/-- The transaction body of a call. -/
def body
    (call : Call Hash)
    (ambient : Ambient)
    (db : Database Hash) :
    Except Error (Result × Database Hash) :=
  match call with
  | .reserve actor eventId seatIds key => do
      let (response, db) ←
        self.reserve actor eventId seatIds key ambient db
      pure (.response response, db)
  | .persistReservationCommand payload response => do
      let (response, db) ←
        self.persistReservationCommand payload response ambient db
      pure (.response response, db)
  | .checkout actor holdId key => do
      let (response, db) ← self.checkout actor holdId key ambient db
      pure (.response response, db)
  | .release actor holdId => do
      let db ← release actor holdId ambient db
      pure (.released, db)
  | .expireBatch limit locked => do
      let (count, db) ← expireBatch limit locked ambient db
      pure (.expired count, db)
  | .initiatePayment actor orderId key outcome delaySeconds duplicates => do
      let (response, db) ←
        self.initiatePayment actor orderId key outcome delaySeconds
          duplicates ambient db
      pure (.response response, db)
  | .callback payload => do
      let (status, db) ← self.callback payload ambient db
      pure (.callback status, db)
  | .consumeEvent envelope => do
      let db ← FlashTicketing.consumeEvent envelope ambient db
      pure (.consumed, db)

/-- Run a call in a transaction: commit its writes, or roll them back. -/
def transaction
    (call : Call Hash)
    (ambient : Ambient)
    (db : Database Hash) :
    Except Error Result × Database Hash :=
  match self.body call ambient db with
  | .ok (result, after) => (.ok result, after)
  | .error error => (.error error, db)

end PostgresReservations

end FlashTicketing
