import FlashTicketing.PostgresTransactions

namespace FlashTicketing

open Relational Checked

/-!
# What a transaction can do

`Change` lists every way in which a transaction body alters the tables that
record ownership and money: events, seats, holds, orders, items, bookings,
payments, refunds and the outbox.  Each alternative is stated through lookups
and memberships, with the guards that the body checked.  The theorem
`PostgresReservations.changes_of_body` reduces every committed call to a finite
sequence of changes; invariants are proved against `Change` and never against
a transaction body.
-/

variable {Hash : Type}

/-! ## Vocabulary -/

/-- A message that settles a captured payment. -/
def Message.isSettlement : Message → Bool
  | .orderPaid _ | .refundRequested _ _ => true
  | _ => false

/-- The outbox grew by exactly the given rows, which have new identifiers. -/
structure Announces
    (added : List OutboxEvent)
    (db after : Database Hash) : Prop where
  rows :
    ∀ row, row ∈ after.outboxEvents ↔ row ∈ db.outboxEvents ∨ row ∈ added
  fresh : ∀ row ∈ added, db.outboxEvents.find? row.id = none

/--
No row of the inventory or of an order disappears.  Holds and orders change at
most their status, seats change by `reseat`.
-/
structure Revised
    (holdStatus : Hold → HoldStatus)
    (orderStatus : Order → OrderStatus)
    (reseat : EventSeat → EventSeat)
    (db after : Database Hash) : Prop where
  events : after.events = db.events
  items : after.orderItems = db.orderItems
  holds :
    ∀ id,
      after.holds.find? id =
        (db.holds.find? id).map fun hold =>
          { hold with status := holdStatus hold }
  orders :
    ∀ id,
      after.orders.find? id =
        (db.orders.find? id).map fun order =>
          { order with status := orderStatus order }
  seats :
    ∀ place,
      after.eventSeats.find? place =
        (db.eventSeats.find? place).map reseat

/-- Holds, orders and seats are as before. -/
abbrev Unrevised (db after : Database Hash) : Prop :=
  Revised Hold.status Order.status id db after

/-- Bookings, payments and refunds are as before. -/
structure SameCommerce (db after : Database Hash) : Prop where
  bookings : after.bookings = db.bookings
  payments : after.paymentAttempts = db.paymentAttempts
  refunds : after.refundRequests = db.refundRequests

/-- The item that an order records for one of its seat rows. -/
def itemOf (order : Order) (hold : Hold) (row : EventSeat) : OrderItem where
  orderId := order.id
  eventId := hold.eventId
  seatId := row.seatId
  price := row.price

/-- A new hold with its pending order took the requested free seats. -/
structure Placed
    (now : Int)
    (hold : Hold)
    (order : Order)
    (rows : List EventSeat)
    (seats : List SeatId)
    (announcement : Uuid)
    (db after : Database Hash) : Prop where
  holdFresh : db.holds.find? hold.id = none
  orderFresh : db.orders.find? order.id = none
  holdUnused :
    ∀ {id other}, db.orders.find? id = some other → other.holdId ≠ hold.id
  orderHold : order.holdId = hold.id
  orderEvent : order.eventId = hold.eventId
  active : hold.status = .active
  pending : order.status = .pending
  total : order.total = (rows.map EventSeat.price).sum
  unexpired : now ≤ hold.expiresAt
  rowsFound : rows.length = seats.length
  rowsNodup : (rows.map EventSeat.place).Nodup
  rowsExact :
    ∀ {row},
      row ∈ rows ↔
        db.eventSeats.find? row.place = some row ∧
          row.eventId = hold.eventId ∧ row.seatId ∈ seats
  free : ∀ {row}, row ∈ rows → row.unavailableTo now hold.id = false
  events : after.events = db.events
  holds :
    ∀ id,
      after.holds.find? id =
        if id = hold.id then some hold else db.holds.find? id
  orders :
    ∀ id,
      after.orders.find? id =
        if id = order.id then some order else db.orders.find? id
  seatsHeld :
    ∀ place,
      after.eventSeats.find? place =
        (db.eventSeats.find? place).map fun seat =>
          if seat.requested hold.eventId seats then
            seat.hold hold.id hold.expiresAt
          else
            seat
  itemsAdded :
    ∀ {item},
      item ∈ after.orderItems ↔
        item ∈ db.orderItems ∨ ∃ row ∈ rows, itemOf order hold row = item
  commerce : SameCommerce db after
  announces :
    Announces
      [{ id := announcement
         aggregateId := order.id
         message := .seatsChanged hold.eventId (some seats) }]
      db after

/-- The order's row is stored, up to its current status. -/
def Order.StoredIn (order : Order) (db : Database Hash) : Prop :=
  ∃ status,
    db.orders.find? order.id = some { order with status := status }

/-- How `_release` restates a hold. -/
def Order.closedHold
    (order : Order)
    (state : HoldStatus)
    (hold : Hold) : HoldStatus :=
  if hold.id = order.holdId ∧ hold.status = .active then
    state
  else
    hold.status

/-- How `_release` restates an order. -/
def Order.closedOrder (order row : Order) : OrderStatus :=
  if row.id = order.id ∧ row.status = .pending then
    .expired
  else
    row.status

/-- How `_release` rewrites a seat. -/
def Order.releasedSeat (order : Order) (seat : EventSeat) : EventSeat :=
  if seat.releasable order.holdId then seat.clear else seat

/-- The seat names announced by `_release`. -/
def releasedSeatIds (order : Order) (db : Database Hash) : List SeatId :=
  (db.eventSeats.select (·.releasable order.holdId)).map EventSeat.seatId

/-- The announcement of seats of an order. -/
def seatsChangedRow
    (id : Uuid)
    (order : Order)
    (seats : List SeatId) : OutboxEvent where
  id := id
  aggregateId := order.id
  message := .seatsChanged order.eventId (some seats)

/-- Restate exactly one order. -/
def Order.restated
    (order : Order)
    (status : OrderStatus)
    (row : Order) : OrderStatus :=
  if row.id = order.id then status else row.status

/-- The payment of a callback takes the callback's outcome. -/
def PaymentRestated
    (payment : PaymentAttempt)
    (outcome : Outcome)
    (db after : Database Hash) : Prop :=
  ∀ id,
    after.paymentAttempts.find? id =
      (db.paymentAttempts.find? id).map fun row =>
        if row.id = payment.id then
          { row with status := outcome.status }
        else
          row

/-- What `callback` established before it decides. -/
structure Callable
    (payment : PaymentAttempt)
    (order : Order)
    (hold : Hold)
    (db : Database Hash) : Prop where
  paymentFound : db.paymentAttempts.find? payment.id = some payment
  unsettled : payment.status ≠ .succeeded
  orderFound : db.orders.find? payment.orderId = some order
  holdFound : db.holds.find? order.holdId = some hold

/--
Every alteration of ownership and money by a transaction at clock `now`.
-/
inductive Change
    (now : Int)
    (db after : Database Hash) : Prop where
  | bookkeeping
      (added : List OutboxEvent)
      (revised : Unrevised db after)
      (commerce : SameCommerce db after)
      (announces : Announces added db after)
      (quiet : ∀ row ∈ added, row.message.isSettlement = false)
  | placed
      (hold : Hold)
      (order : Order)
      (rows : List EventSeat)
      (seats : List SeatId)
      (announcement : Uuid)
      (placed :
        Placed now hold order rows seats announcement db after)
  | released
      (order : Order)
      (state : HoldStatus)
      (announcement : Uuid)
      (stored : order.StoredIn db)
      (closed : state = .released ∨ state = .expired)
      (revised :
        Revised (order.closedHold state) order.closedOrder
          order.releasedSeat db after)
      (commerce : SameCommerce db after)
      (announces :
        Announces
          [seatsChangedRow announcement order (releasedSeatIds order db)]
          db after)
  | paymentOpened
      (payment : PaymentAttempt)
      (order : Order)
      (fresh : db.paymentAttempts.find? payment.id = none)
      (alone :
        ∀ {id other},
          db.paymentAttempts.find? id = some other →
          other.orderId ≠ payment.orderId)
      (found : db.orders.find? payment.orderId = some order)
      (payable : order.status = .pending)
      (opened : payment.status = .pending)
      (revised : Unrevised db after)
      (bookings : after.bookings = db.bookings)
      (refunds : after.refundRequests = db.refundRequests)
      (payments :
        ∀ id,
          after.paymentAttempts.find? id =
            if id = payment.id then
              some payment
            else
              db.paymentAttempts.find? id)
      (announces : Announces [] db after)
  | booked
      (payment : PaymentAttempt)
      (order : Order)
      (hold : Hold)
      (bookings : List Booking)
      (paid announcement : Uuid)
      (callable : Callable payment order hold db)
      (pending : order.status = .pending)
      (valid : validHold hold (orderSeats db order) now = true)
      (revised :
        Revised
          (fun row => if row.id = hold.id then .consumed else row.status)
          (order.restated .paid)
          (fun seat =>
            if seat.holdId = some hold.id then
              seat.book order.id
            else
              seat)
          db after)
      (payments : PaymentRestated payment .succeeded db after)
      (refunds : after.refundRequests = db.refundRequests)
      (booked :
        ∀ {booking},
          booking ∈ after.bookings ↔
            booking ∈ db.bookings ∨ booking ∈ bookings)
      (bookingsExact :
        bookings.map Booking.seatId =
          (orderSeats db order).map EventSeat.seatId)
      (bookingsOf :
        ∀ {booking},
          booking ∈ bookings →
          booking.eventId = order.eventId ∧ booking.orderId = order.id)
      (bookingsUnique :
        ∀ {first second},
          first ∈ after.bookings →
          second ∈ bookings →
          first.place = second.place →
          first = second)
      (announces :
        Announces
          [{ id := paid
             aggregateId := order.id
             message := .orderPaid order.id },
            seatsChangedRow announcement order
              ((orderSeats db order).map EventSeat.seatId)]
          db after)
  | refunded
      (payment : PaymentAttempt)
      (order : Order)
      (hold : Hold)
      (released requested announcement : Uuid)
      (callable : Callable payment order hold db)
      (unpaid : order.status.isPaid = false)
      (revised :
        Revised (order.closedHold .expired)
          (order.restated .refundPending) order.releasedSeat db after)
      (bookings : after.bookings = db.bookings)
      (payments : PaymentRestated payment .succeeded db after)
      (refunds :
        ∀ id,
          after.refundRequests.find? id =
            if id = payment.id ∧ db.refundRequests.find? id = none then
              some {
                paymentId := payment.id
                orderId := order.id
                status := .pending }
            else
              db.refundRequests.find? id)
      (announces :
        Announces
          [seatsChangedRow released order (releasedSeatIds order db),
            { id := requested
              aggregateId := order.id
              message := .refundRequested payment.id order.id },
            seatsChangedRow announcement order
              ((orderSeats db order).map EventSeat.seatId)]
          db after)
  | failed
      (payment : PaymentAttempt)
      (order : Order)
      (hold : Hold)
      (released announcement : Uuid)
      (callable : Callable payment order hold db)
      (pending : order.status = .pending)
      (revised :
        Revised (order.closedHold .released)
          (order.restated .failed) order.releasedSeat db after)
      (bookings : after.bookings = db.bookings)
      (refunds : after.refundRequests = db.refundRequests)
      (payments : PaymentRestated payment .failed db after)
      (announces :
        Announces
          [seatsChangedRow released order (releasedSeatIds order db),
            seatsChangedRow announcement order
              ((orderSeats db order).map EventSeat.seatId)]
          db after)
  | noted
      (payment : PaymentAttempt)
      (order : Order)
      (hold : Hold)
      (outcome : Outcome)
      (announcement : Uuid)
      (callable : Callable payment order hold db)
      (unchanged :
        order.status.isPaid = true ∨
          (outcome = .failed ∧ order.status ≠ .pending))
      (revised : Unrevised db after)
      (bookings : after.bookings = db.bookings)
      (refunds : after.refundRequests = db.refundRequests)
      (payments : PaymentRestated payment outcome db after)
      (announces :
        Announces
          [seatsChangedRow announcement order
            ((orderSeats db order).map EventSeat.seatId)]
          db after)
  | fulfilled
      (order : Order)
      (announcement : Uuid)
      (found : db.orders.find? order.id = some order)
      (paid : order.status.isPaid = true)
      (revised :
        Revised Hold.status (order.restated .fulfilled) id db after)
      (commerce : SameCommerce db after)
      (announces :
        Announces
          [{ id := announcement
             aggregateId := order.id
             message := .ticketsIssued order.id }]
          db after)
  | refundCompleted
      (paymentId orderId : Uuid)
      (revised :
        Revised Hold.status
          (fun row =>
            if row.id = orderId ∧ row.status = .refundPending then
              .refunded
            else
              row.status)
          id db after)
      (bookings : after.bookings = db.bookings)
      (payments : after.paymentAttempts = db.paymentAttempts)
      (refunds :
        ∀ id,
          after.refundRequests.find? id =
            (db.refundRequests.find? id).map fun refund =>
              if refund.paymentId = paymentId then
                { refund with status := .refunded }
              else
                refund)
      (announces : Announces [] db after)

/-- A finite sequence of changes within one transaction. -/
abbrev Changes (now : Int) : Database Hash → Database Hash → Prop :=
  Relation.ReflTransGen (Change now)

end FlashTicketing
