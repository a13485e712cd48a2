import FlashTicketing.Table
import FlashTicketing.Checked

namespace FlashTicketing

open Relational

/-!
# The PostgreSQL schema

Rows, keys and value domains of the tables that the reservation transactions
read and write.  A `uuid` is a number, a `timestamptz` is a signed count of
microseconds since the epoch, money is an integer number of minor units, and a nullable column
is an `Option`.  Enumerations that the migrations state as `CHECK(... IN ...)`
are inductive types.

SHA-256 digests are values of an arbitrary type `Hash`: no table depends on
their text.
-/

abbrev Uuid := Nat
abbrev SeatId := String
abbrev Actor := String
abbrev IdempotencyKey := String
abbrev Currency := String

/-- Microseconds in one second. -/
def second : Int := 1000000

/-- `now + timedelta(seconds=seconds)`. -/
def addSeconds (now : Int) (seconds : Nat) : Int :=
  now + seconds * second

/-- `sorted(...)` on seat identifiers. -/
def sortedSeats (seats : List SeatId) : List SeatId :=
  seats.insertionSort (· ≤ ·)

@[simp] theorem mem_sortedSeats
    {seats : List SeatId}
    {seat : SeatId} :
    seat ∈ sortedSeats seats ↔ seat ∈ seats :=
  List.mem_insertionSort _

@[simp] theorem length_sortedSeats
    (seats : List SeatId) :
    (sortedSeats seats).length = seats.length :=
  List.length_insertionSort _ _

/-! ## Failures -/

/-- The codes of `Failure` raised by the store. -/
inductive FailureCode where
  | invalidSeats
  | eventNotFound
  | saleClosed
  | seatNotFound
  | seatUnavailable
  | idempotencyMismatch
  | reservationCommandMismatch
  | holdExpired
  | holdNotFound
  | alreadyBooked
  | orderNotFound
  | orderNotPayable
  | paymentNotFound
  | paymentMismatch
  | callbackMismatch
  deriving Repr, DecidableEq

/-- `Failure(code, status=409)`. -/
structure Failure where
  code : FailureCode
  status : Nat := 409
  deriving Repr, DecidableEq

/-- Everything that can abort a transaction body and roll it back. -/
inductive Error where
  | failure : Failure → Error
  | valueError : String → Error
  | typeError : Error
  | uniqueViolation : Error
  | foreignKeyViolation : Error
  | checkViolation : Error
  deriving Repr, DecidableEq

/-- `raise Failure(code, status)`. -/
def fail (code : FailureCode) (status : Nat := 409) : Error :=
  .failure { code := code, status := status }

/-! ## Inventory -/

/-- One row of `events`. -/
structure Event where
  id : Uuid
  currency : Currency
  saleStarts : Int
  saleEnds : Int
  deriving Repr, DecidableEq

instance : Keyed Event Uuid := ⟨Event.id⟩

/-- One row of `event_seats`. -/
structure EventSeat where
  eventId : Uuid
  seatId : SeatId
  price : Nat
  holdId : Option Uuid := none
  reservedUntil : Option Int := none
  bookedOrderId : Option Uuid := none
  version : Nat := 0
  deriving Repr, DecidableEq

/-- A seat is identified by its event and its name. -/
abbrev Place := Uuid × SeatId

def EventSeat.place (seat : EventSeat) : Place :=
  (seat.eventId, seat.seatId)

instance : Keyed EventSeat Place := ⟨EventSeat.place⟩

/-! ## Holds, orders and bookings -/

inductive HoldStatus where
  | active
  | released
  | expired
  | consumed
  deriving Repr, DecidableEq

/-- One row of `holds`. -/
structure Hold where
  id : Uuid
  actor : Actor
  eventId : Uuid
  expiresAt : Int
  status : HoldStatus
  deriving Repr, DecidableEq

instance : Keyed Hold Uuid := ⟨Hold.id⟩

inductive OrderStatus where
  | pending
  | failed
  | expired
  | refundPending
  | refunded
  | paid
  | fulfilled
  deriving Repr, DecidableEq

/-- `status in {"PAID", "FULFILLED"}`. -/
def OrderStatus.isPaid : OrderStatus → Bool
  | .paid | .fulfilled => true
  | _ => false

/-- One row of `orders`. -/
structure Order where
  id : Uuid
  actor : Actor
  holdId : Uuid
  eventId : Uuid
  total : Nat
  currency : Currency
  status : OrderStatus
  createdAt : Int
  deriving Repr, DecidableEq

instance : Keyed Order Uuid := ⟨Order.id⟩

/-- One row of `order_items`. -/
structure OrderItem where
  orderId : Uuid
  eventId : Uuid
  seatId : SeatId
  price : Nat
  deriving Repr, DecidableEq

def OrderItem.place (item : OrderItem) : Place :=
  (item.eventId, item.seatId)

instance : Keyed OrderItem (Uuid × SeatId) :=
  ⟨fun item => (item.orderId, item.seatId)⟩

/-- One row of `bookings`. -/
structure Booking where
  id : Uuid
  eventId : Uuid
  seatId : SeatId
  orderId : Uuid
  deriving Repr, DecidableEq

def Booking.place (booking : Booking) : Place :=
  (booking.eventId, booking.seatId)

instance : Keyed Booking Uuid := ⟨Booking.id⟩

/-- One row of `tickets`. -/
structure Ticket where
  id : Uuid
  bookingId : Uuid
  deriving Repr, DecidableEq

instance : Keyed Ticket Uuid := ⟨Ticket.id⟩

/-! ## Payments -/

inductive PaymentStatus where
  | pending
  | failed
  | succeeded
  deriving Repr, DecidableEq

/-- The outcome carried by a payment callback. -/
inductive Outcome where
  | succeeded
  | failed
  deriving Repr, DecidableEq

/-- `UPDATE payment_attempts SET status=outcome`. -/
def Outcome.status : Outcome → PaymentStatus
  | .succeeded => .succeeded
  | .failed => .failed

/-- One row of `payment_attempts`. -/
structure PaymentAttempt where
  id : Uuid
  orderId : Uuid
  status : PaymentStatus
  outcome : Outcome
  dueAt : Int
  targetDeliveries : Nat
  deriving Repr, DecidableEq

instance : Keyed PaymentAttempt Uuid := ⟨PaymentAttempt.id⟩

/-- One row of `payment_callbacks`. -/
structure PaymentCallback (Hash : Type) where
  id : Uuid
  paymentId : Uuid
  payloadHash : Hash
  deriving Repr, DecidableEq

instance {Hash : Type} : Keyed (PaymentCallback Hash) Uuid :=
  ⟨PaymentCallback.id⟩

inductive RefundStatus where
  | pending
  | refunded
  deriving Repr, DecidableEq

/-- One row of `refund_requests`. -/
structure RefundRequest where
  paymentId : Uuid
  orderId : Uuid
  status : RefundStatus
  deriving Repr, DecidableEq

instance : Keyed RefundRequest Uuid := ⟨RefundRequest.paymentId⟩

/-! ## Requests and stored responses -/

/-- The verified webhook body handed to `callback`. -/
structure CallbackPayload where
  callbackId : Uuid
  paymentId : Uuid
  orderId : Uuid
  amount : Nat
  currency : Currency
  outcome : Outcome
  deriving Repr, DecidableEq

/-- The JSON values that the store hands to `digest`. -/
inductive Request where
  | hold (eventId : Uuid) (seats : List SeatId)
  | order (holdId : Uuid)
  | payment
      (orderId : Uuid)
      (outcome : Outcome)
      (delaySeconds : Nat)
      (duplicates : Nat)
  | callback (payload : CallbackPayload)
  deriving Repr, DecidableEq

/-- The status a reservation command reports to its client. -/
inductive PersistenceStatus where
  | pending
  | durable
  | failed
  deriving Repr, DecidableEq

/-- The response of a Redis-first command, as the intake script completes it. -/
structure CommandResponse where
  commandId : Uuid
  holdId : Uuid
  orderId : Uuid
  seats : List SeatId
  total : Nat
  currency : Currency
  expiresAtEpoch : Int
  expiresAt : Int
  persistenceStatus : PersistenceStatus
  deriving Repr, DecidableEq

/-- The JSON documents stored in `idempotency_records.response`. -/
inductive Response where
  | reserved
      (holdId : Uuid)
      (orderId : Uuid)
      (expiresAt : Int)
      (total : Nat)
      (currency : Currency)
      (seats : List SeatId)
  | command (response : CommandResponse)
  | order
      (orderId : Uuid)
      (status : OrderStatus)
      (total : Nat)
      (currency : Currency)
  | payment (paymentId : Uuid) (orderId : Uuid)
  deriving Repr, DecidableEq

namespace Response

/-- `response["hold_id"]`, where the document has one. -/
def holdId? : Response → Option Uuid
  | .reserved holdId .. => some holdId
  | .command response => some response.holdId
  | _ => none

/-- `response["order_id"]`; every stored document has one. -/
def orderId : Response → Uuid
  | .reserved _ orderId .. => orderId
  | .command response => response.orderId
  | .order orderId .. => orderId
  | .payment _ orderId => orderId

/-- `response["payment_id"]`, where the document has one. -/
def paymentId? : Response → Option Uuid
  | .payment paymentId _ => some paymentId
  | _ => none

end Response

inductive Operation where
  | hold
  | order
  | payment
  deriving Repr, DecidableEq

/-- One row of `idempotency_records`. -/
structure IdempotencyRecord (Hash : Type) where
  actor : Actor
  operation : Operation
  key : IdempotencyKey
  requestHash : Hash
  response : Option Response := none
  deriving Repr, DecidableEq

abbrev RecordKey := Actor × Operation × IdempotencyKey

instance {Hash : Type} : Keyed (IdempotencyRecord Hash) RecordKey :=
  ⟨fun record => (record.actor, record.operation, record.key)⟩

/-- One row of `reservation_commands`; its `status` is always `DURABLE`. -/
structure ReservationCommand (Hash : Type) where
  commandId : Uuid
  actor : Actor
  idempotencyKey : IdempotencyKey
  requestHash : Hash
  eventId : Uuid
  holdId : Uuid
  orderId : Uuid
  response : Response
  deriving Repr, DecidableEq

instance {Hash : Type} : Keyed (ReservationCommand Hash) Uuid :=
  ⟨ReservationCommand.commandId⟩

/-! ## Outbox, inbox and refresh queue -/

/--
Event type and payload of an outbox row.  `correlation_id` is never read back
and is left out.  A `SeatsChanged` payload may lack its `seats` field.
-/
inductive Message where
  | seatsChanged (eventId : Uuid) (seats : Option (List SeatId))
  | orderPaid (orderId : Uuid)
  | refundRequested (paymentId : Uuid) (orderId : Uuid)
  | ticketsIssued (orderId : Uuid)
  | unknown (eventType : String)
  deriving Repr, DecidableEq

/-- One row of `outbox_events`. -/
structure OutboxEvent where
  id : Uuid
  aggregateId : Uuid
  message : Message
  deriving Repr, DecidableEq

instance : Keyed OutboxEvent Uuid := ⟨OutboxEvent.id⟩

/-- One row of `consumer_inbox` of the fulfillment consumer. -/
structure InboxEntry where
  eventId : Uuid
  deriving Repr, DecidableEq

instance : Keyed InboxEntry Uuid := ⟨InboxEntry.eventId⟩

/-- One row of `seat_refresh_requests`. -/
structure SeatRefreshRequest where
  eventId : Uuid
  generation : Nat := 1
  completedGeneration : Nat := 0
  requestedAt : Int
  nextAttemptAt : Int
  leaseUntil : Option Int := none
  leaseToken : Option Uuid := none
  seatIds : Option (List SeatId)
  deriving Repr, DecidableEq

instance : Keyed SeatRefreshRequest Uuid :=
  ⟨SeatRefreshRequest.eventId⟩

/-! ## The database -/

structure Database (Hash : Type) where
  events : Table Event
  eventSeats : Table EventSeat
  holds : Table Hold := .empty
  orders : Table Order := .empty
  orderItems : Table OrderItem := .empty
  bookings : Table Booking := .empty
  tickets : Table Ticket := .empty
  paymentAttempts : Table PaymentAttempt := .empty
  paymentCallbacks : Table (PaymentCallback Hash) := .empty
  refundRequests : Table RefundRequest := .empty
  idempotencyRecords : Table (IdempotencyRecord Hash) := .empty
  reservationCommands : Table (ReservationCommand Hash) := .empty
  outboxEvents : Table OutboxEvent := .empty
  consumerInbox : Table InboxEntry := .empty
  seatRefreshRequests : Table SeatRefreshRequest := .empty

/--
The state before any transaction: some events with unheld, unbooked seats and
nothing else.
-/
structure Database.Initial {Hash : Type} (db : Database Hash) : Prop where
  unheld :
    ∀ {seat},
      seat ∈ db.eventSeats →
      seat.holdId = none ∧
        seat.reservedUntil = none ∧
        seat.bookedOrderId = none
  fresh :
    db = { events := db.events, eventSeats := db.eventSeats }

end FlashTicketing
