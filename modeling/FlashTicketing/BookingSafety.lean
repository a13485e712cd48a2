import FlashTicketing.PostgresInvariant

namespace FlashTicketing

open Relational Transition

/-!
# Booking safety

Three tables say that a seat is sold: `event_seats.booked_order_id`, the
`bookings` row, and the status of the order that has the seat among its items.
They agree in every reachable state, and what they say of a booked seat is
final.
-/

variable {Hash : Type}

/-! ## The three records of a sale -/

/-- `booked_order_id` of the seat is the order. -/
def BookedBy
    (db : Database Hash)
    (place : Place)
    (orderId : Uuid) : Prop :=
  ∃ seat,
    db.eventSeats.find? place = some seat ∧
      seat.bookedOrderId = some orderId

/-- There is a `bookings` row of the seat for the order. -/
def HasBooking
    (db : Database Hash)
    (place : Place)
    (orderId : Uuid) : Prop :=
  ∃ booking ∈ db.bookings,
    booking.place = place ∧ booking.orderId = orderId

/-- The order is paid or fulfilled. -/
def IsPaid (db : Database Hash) (orderId : Uuid) : Prop :=
  ∃ order,
    db.orders.find? orderId = some order ∧ order.status.isPaid = true

/-- The three records agree, over sound references. -/
structure BookingSafe (db : Database Hash) : Prop where
  referenced : Referenced db
  booked_iff :
    ∀ place orderId,
      BookedBy db place orderId ↔ HasBooking db place orderId
  booking_iff :
    ∀ place orderId,
      HasBooking db place orderId ↔
        IsPaid db orderId ∧ HasItem db place orderId
  bookingUnique :
    ∀ {first second},
      first ∈ db.bookings →
      second ∈ db.bookings →
      first.place = second.place →
      first = second

/-! ## Changes that sell nothing -/

namespace Revised

variable
  {holdStatus : Hold → HoldStatus}
  {orderStatus : Order → OrderStatus}
  {reseat : EventSeat → EventSeat}
  {db after : Database Hash}

theorem bookedBy_iff
    (revised : Revised holdStatus orderStatus reseat db after)
    (kept : ∀ seat, (reseat seat).bookedOrderId = seat.bookedOrderId)
    (place : Place)
    (orderId : Uuid) :
    BookedBy after place orderId ↔ BookedBy db place orderId := by
  constructor
  · rintro ⟨seat, found, booked⟩
    obtain ⟨before, foundBefore, rfl⟩ := revised.seat_before found
    exact ⟨before, foundBefore, by rw [← kept, booked]⟩
  · rintro ⟨seat, found, booked⟩
    exact ⟨_, revised.seat_after found, by rw [kept, booked]⟩

theorem isPaid_iff
    (revised : Revised holdStatus orderStatus reseat db after)
    (kept :
      ∀ {id order},
        db.orders.find? id = some order →
        (orderStatus order).isPaid = order.status.isPaid)
    (orderId : Uuid) :
    IsPaid after orderId ↔ IsPaid db orderId := by
  constructor
  · rintro ⟨order, found, paid⟩
    obtain ⟨before, foundBefore, rfl⟩ := revised.order_before found
    exact ⟨before, foundBefore, by rw [← kept foundBefore, ← paid]⟩
  · rintro ⟨order, found, paid⟩
    refine ⟨_, revised.order_after found, ?_⟩
    rw [← paid, ← kept found]

theorem hasItem_iff
    (revised : Revised holdStatus orderStatus reseat db after)
    (place : Place)
    (orderId : Uuid) :
    HasItem after place orderId ↔ HasItem db place orderId := by
  rw [HasItem, revised.items, HasItem]

/-- A revision that neither books, pays nor unpays keeps the agreement. -/
theorem bookingSafe
    (revised : Revised holdStatus orderStatus reseat db after)
    (unclaiming : Unclaiming reseat)
    (bookings : after.bookings = db.bookings)
    (seatsKept : ∀ seat, (reseat seat).bookedOrderId = seat.bookedOrderId)
    (paidKept :
      ∀ {id order},
        db.orders.find? id = some order →
        (orderStatus order).isPaid = order.status.isPaid)
    (safe : BookingSafe db) :
    BookingSafe after where
  referenced := revised.referenced unclaiming safe.referenced
  booked_iff := by
    intro place orderId
    rw [revised.bookedBy_iff seatsKept, safe.booked_iff, HasBooking,
      HasBooking, bookings]
  booking_iff := by
    intro place orderId
    rw [revised.isPaid_iff paidKept, revised.hasItem_iff,
      ← safe.booking_iff, HasBooking, HasBooking, bookings]
  bookingUnique := by
    rw [bookings]
    exact safe.bookingUnique

end Revised

theorem releasedSeat_bookedOrderId
    (order : Order)
    (seat : EventSeat) :
    (order.releasedSeat seat).bookedOrderId = seat.bookedOrderId := by
  unfold Order.releasedSeat
  split <;> rfl

/-- Restating an order reaches its own row and leaves every other. -/
theorem restated_cases
    {db : Database Hash}
    {orderId : Uuid}
    {order : Order}
    (found : db.orders.find? orderId = some order)
    (status : OrderStatus)
    {id : Uuid}
    {row : Order}
    (rowFound : db.orders.find? id = some row) :
    (row = order ∧ order.restated status row = status) ∨
      order.restated status row = row.status := by
  by_cases sameId : row.id = order.id
  · have rowKey : row.id = id := Table.key_of_find? rowFound
    have orderKey : order.id = orderId := Table.key_of_find? found
    rw [← rowKey, sameId, orderKey, found] at rowFound
    exact Or.inl ⟨(Option.some.inj rowFound).symm, if_pos sameId⟩
  · exact Or.inr (if_neg sameId)

/-- Restating an order keeps payment when both of its statuses agree on it. -/
theorem isPaid_restated
    {db : Database Hash}
    {orderId : Uuid}
    {order : Order}
    (found : db.orders.find? orderId = some order)
    {status : OrderStatus}
    (same : status.isPaid = order.status.isPaid)
    {id : Uuid}
    {row : Order}
    (rowFound : db.orders.find? id = some row) :
    (order.restated status row).isPaid = row.status.isPaid := by
  rcases restated_cases found status rowFound with
    ⟨rfl, restates⟩ | restates
  · rw [restates, same]
  · rw [restates]

theorem isPaid_closedOrder
    (order row : Order) :
    (order.closedOrder row).isPaid = row.status.isPaid := by
  unfold Order.closedOrder
  split
  · rename_i closes
    rw [closes.2]
    rfl
  · rfl

/-- A new reservation sells nothing. -/
theorem Placed.bookingSafe
    {now : Int}
    {hold : Hold}
    {order : Order}
    {rows : List EventSeat}
    {seats : List SeatId}
    {announcement : Uuid}
    {db after : Database Hash}
    (placed : Placed now hold order rows seats announcement db after)
    (safe : BookingSafe db) :
    BookingSafe after := by
  have bookedBy :
      ∀ place orderId,
        BookedBy after place orderId ↔ BookedBy db place orderId := by
    intro place orderId
    constructor
    · rintro ⟨seat, found, booked⟩
      rcases placed.seat_cases found with
          ⟨row, _, _, rowFound, rfl⟩ | ⟨old, _⟩
      · exact ⟨row, rowFound, booked⟩
      · exact ⟨seat, old, booked⟩
    · rintro ⟨seat, found, booked⟩
      refine ⟨_, by rw [placed.seatsHeld, found]; rfl, ?_⟩
      dsimp only
      split <;> exact booked
  have paidItem :
      ∀ place orderId,
        (IsPaid after orderId ∧ HasItem after place orderId) ↔
          (IsPaid db orderId ∧ HasItem db place orderId) := by
    intro place orderId
    constructor
    · rintro ⟨⟨stored, found, paid⟩, item, member, owner, itemPlace⟩
      -- The new order is pending, so a paid order is an earlier one.
      rcases placed.order_cases found with ⟨_, rfl⟩ | ⟨isOld, old⟩
      · rw [placed.pending] at paid
        cases paid
      · refine ⟨⟨stored, old, paid⟩, item, ?_, owner, itemPlace⟩
        rcases placed.itemsAdded.mp member with oldItem | ⟨row, _, rfl⟩
        · exact oldItem
        · exact (isOld owner.symm).elim
    · rintro ⟨⟨stored, found, paid⟩, item, member, owned⟩
      exact ⟨⟨stored, placed.order_after found, paid⟩, item,
        placed.itemsAdded.mpr (Or.inl member), owned⟩
  refine ⟨placed.referenced safe.referenced, ?_, ?_, ?_⟩
  · intro place orderId
    rw [bookedBy, safe.booked_iff, HasBooking, HasBooking,
      placed.commerce.bookings]
  · intro place orderId
    rw [paidItem, ← safe.booking_iff, HasBooking, HasBooking,
      placed.commerce.bookings]
  · rw [placed.commerce.bookings]
    exact safe.bookingUnique

/-! ## The sale -/

/-- What a `BOOK` decision does to the three records. -/
structure Sold (order : Order) (db after : Database Hash) : Prop where
  booked_iff :
    ∀ place orderId,
      BookedBy after place orderId ↔
        BookedBy db place orderId ∨
          (orderId = order.id ∧ HasItem db place order.id)
  booking_iff :
    ∀ place orderId,
      HasBooking after place orderId ↔
        HasBooking db place orderId ∨
          (orderId = order.id ∧ HasItem db place order.id)
  paid_iff :
    ∀ orderId, IsPaid after orderId ↔ IsPaid db orderId ∨ orderId = order.id

section Sale

variable
  {now : Int}
  {payment : PaymentAttempt}
  {order : Order}
  {hold : Hold}
  {bookings : List Booking}
  {db after : Database Hash}

theorem bookedBy_sale
    (referenced : Referenced db)
    (callable : Callable payment order hold db)
    (valid : validHold hold (orderSeats db order) now = true)
    (revised :
      Revised
        (fun row => if row.id = hold.id then .consumed else row.status)
        (order.restated .paid)
        (fun seat =>
          if seat.holdId = some hold.id then seat.book order.id else seat)
        db after)
    (place : Place)
    (orderId : Uuid) :
    BookedBy after place orderId ↔
      BookedBy db place orderId ∨
        (orderId = order.id ∧ HasItem db place order.id) := by
  constructor
  · rintro ⟨seat, found, booked⟩
    obtain ⟨before, foundBefore, rfl⟩ := revised.seat_before found
    split at booked
    · rename_i held
      refine Or.inr ⟨(Option.some.inj booked).symm, ?_⟩
      exact (referenced.held_iff_item callable valid foundBefore).mp held
    · exact Or.inl ⟨before, foundBefore, booked⟩
  · rintro (⟨seat, found, booked⟩ | ⟨rfl, item⟩)
    · refine ⟨_, revised.seat_after found, ?_⟩
      -- A booked seat carries no hold, so the update passes it by.
      have unheld : seat.holdId = none := by
        rcases referenced.bookedChecked found with unbooked | unheld
        · rw [unbooked] at booked
          cases booked
        · exact unheld
      simpa [unheld] using booked
    · obtain ⟨row, member, owned⟩ := item
      obtain ⟨seat, found⟩ := referenced.itemSeat member
      rw [owned.2] at found
      have held : seat.holdId = some hold.id :=
        (referenced.held_iff_item callable valid found).mpr
          ⟨row, member, owned⟩
      exact ⟨_, revised.seat_after found, by simp [held, EventSeat.book]⟩

/-- The new bookings are those of the order's items. -/
theorem hasBooking_sale
    (referenced : Referenced db)
    (callable : Callable payment order hold db)
    (booked :
      ∀ {booking},
        booking ∈ after.bookings ↔
          booking ∈ db.bookings ∨ booking ∈ bookings)
    (bookingsExact :
      bookings.map Booking.seatId =
        (orderSeats db order).map EventSeat.seatId)
    (bookingsOf :
      ∀ {booking},
        booking ∈ bookings →
        booking.eventId = order.eventId ∧ booking.orderId = order.id)
    (place : Place)
    (orderId : Uuid) :
    HasBooking after place orderId ↔
      HasBooking db place orderId ∨
        (orderId = order.id ∧ HasItem db place order.id) := by
  obtain ⟨orderKey, _⟩ := callable.keys
  have seatEvent :
      ∀ {seat},
        seat ∈ orderSeats db order →
        seat.eventId = order.eventId ∧ HasItem db seat.place order.id := by
    intro seat member
    obtain ⟨_, item, itemMember, owner, itemPlace⟩ :=
      mem_orderSeats.mp member
    obtain ⟨itemsOrder, found, sameEvent⟩ :=
      referenced.itemOrder itemMember
    rw [owner, orderKey, callable.orderFound] at found
    have isOrder : itemsOrder = order := (Option.some.inj found).symm
    refine ⟨?_, item, itemMember, owner, itemPlace⟩
    rw [← isOrder, ← sameEvent]
    exact (congrArg Prod.fst itemPlace).symm
  constructor
  · rintro ⟨booking, member, bookingPlace, owner⟩
    rcases booked.mp member with old | added
    · exact Or.inl ⟨booking, old, bookingPlace, owner⟩
    · obtain ⟨sameEvent, sameOrder⟩ := bookingsOf added
      have named :
          booking.seatId ∈ (orderSeats db order).map EventSeat.seatId := by
        rw [← bookingsExact]
        exact List.mem_map_of_mem added
      obtain ⟨seat, seatMember, sameSeat⟩ := List.mem_map.mp named
      obtain ⟨seatOfEvent, item⟩ := seatEvent seatMember
      have samePlace : seat.place = place := by
        rw [← bookingPlace]
        exact Prod.ext (seatOfEvent.trans sameEvent.symm) sameSeat
      rw [samePlace] at item
      exact Or.inr ⟨by rw [← owner, sameOrder], item⟩
  · rintro (⟨booking, member, owned⟩ | ⟨rfl, item, member, owned⟩)
    · exact ⟨booking, booked.mpr (Or.inl member), owned⟩
    · obtain ⟨seat, found⟩ := referenced.itemSeat member
      have samePlace : seat.place = item.place := Table.key_of_find? found
      have seatMember : seat ∈ orderSeats db order :=
        mem_orderSeats.mpr
          ⟨by rw [samePlace]; exact found,
            item, member, owned.1, samePlace.symm⟩
      have named : seat.seatId ∈ bookings.map Booking.seatId := by
        rw [bookingsExact]
        exact List.mem_map_of_mem seatMember
      obtain ⟨booking, added, sameSeat⟩ := List.mem_map.mp named
      obtain ⟨sameEvent, sameOrder⟩ := bookingsOf added
      refine ⟨booking, booked.mpr (Or.inr added), ?_, sameOrder⟩
      rw [← owned.2, ← samePlace]
      exact Prod.ext
        (sameEvent.trans (seatEvent seatMember).1.symm) sameSeat

theorem isPaid_sale
    {holdStatus : Hold → HoldStatus}
    {reseat : EventSeat → EventSeat}
    (callable : Callable payment order hold db)
    (revised : Revised holdStatus (order.restated .paid) reseat db after)
    (orderId : Uuid) :
    IsPaid after orderId ↔ IsPaid db orderId ∨ orderId = order.id := by
  obtain ⟨orderKey, _⟩ := callable.keys
  constructor
  · rintro ⟨found, stored, paid⟩
    obtain ⟨before, storedBefore, rfl⟩ := revised.order_before stored
    have beforeKey : before.id = orderId := Table.key_of_find? storedBefore
    by_cases sameId : before.id = order.id
    · exact Or.inr (by rw [← beforeKey, sameId])
    · refine Or.inl ⟨before, storedBefore, ?_⟩
      simpa [Order.restated, sameId] using paid
  · rintro (⟨found, stored, paid⟩ | rfl)
    · refine ⟨_, revised.order_after stored, ?_⟩
      by_cases sameId : found.id = order.id
      · simp [Order.restated, sameId, OrderStatus.isPaid]
      · simpa [Order.restated, sameId] using paid
    · have stored := callable.orderFound
      rw [← orderKey] at stored
      refine ⟨_, revised.order_after stored, ?_⟩
      simp [Order.restated, OrderStatus.isPaid]

end Sale

/-- A sale keeps the agreement. -/
theorem Sold.bookingSafe
    {order : Order}
    {db after : Database Hash}
    (sold : Sold order db after)
    (safe : BookingSafe db)
    (referenced : Referenced after)
    (items : after.orderItems = db.orderItems)
    (unique :
      ∀ {first second},
        first ∈ after.bookings →
        second ∈ after.bookings →
        first.place = second.place →
        first = second) :
    BookingSafe after := by
  refine ⟨referenced, ?_, ?_, unique⟩
  · intro place orderId
    rw [sold.booked_iff, sold.booking_iff, safe.booked_iff]
  · intro place orderId
    have sameItem :
        HasItem after place orderId ↔ HasItem db place orderId := by
      rw [HasItem, items, HasItem]
    rw [sold.booking_iff, sold.paid_iff, sameItem, safe.booking_iff]
    constructor
    · rintro (⟨paid, item⟩ | ⟨rfl, item⟩)
      · exact ⟨Or.inl paid, item⟩
      · exact ⟨Or.inr rfl, item⟩
    · rintro ⟨paid | rfl, item⟩
      · exact Or.inl ⟨paid, item⟩
      · exact Or.inr ⟨rfl, item⟩

/-- Every change keeps the agreement. -/
theorem BookingSafe.change
    {now : Int}
    {db after : Database Hash}
    (safe : BookingSafe db)
    (change : Change now db after) :
    BookingSafe after := by
  have referencedAfter := safe.referenced.change change
  cases change with
  | bookkeeping _ revised commerce =>
      exact revised.bookingSafe unclaiming_id commerce.bookings
        (fun _ => rfl) (fun _ => rfl) safe
  | placed _ _ _ _ _ placed =>
      exact placed.bookingSafe safe
  | released order _ _ _ _ revised commerce =>
      exact revised.bookingSafe (unclaiming_releasedSeat order)
        commerce.bookings (releasedSeat_bookedOrderId order)
        (fun _ => isPaid_closedOrder order _) safe
  | paymentOpened _ _ _ _ _ _ _ revised bookings =>
      exact revised.bookingSafe unclaiming_id bookings
        (fun _ => rfl) (fun _ => rfl) safe
  | booked payment order hold _ _ _ callable _ valid revised _ _ booked
      bookingsExact bookingsOf bookingsUnique =>
      have sold : Sold order db after := {
        booked_iff :=
          bookedBy_sale safe.referenced callable valid revised
        booking_iff :=
          hasBooking_sale safe.referenced callable booked bookingsExact
            bookingsOf
        paid_iff := isPaid_sale callable revised }
      refine sold.bookingSafe safe referencedAfter revised.items ?_
      intro first second firstMember secondMember samePlace
      rcases booked.mp secondMember with secondOld | secondAdded
      · rcases booked.mp firstMember with firstOld | firstAdded
        · exact safe.bookingUnique firstOld secondOld samePlace
        · exact (bookingsUnique secondMember firstAdded
            samePlace.symm).symm
      · exact bookingsUnique firstMember secondAdded samePlace
  | refunded _ order _ _ _ _ callable unpaid revised bookings =>
      exact revised.bookingSafe (unclaiming_releasedSeat order) bookings
        (releasedSeat_bookedOrderId order)
        (isPaid_restated callable.orderFound (by rw [unpaid]; rfl)) safe
  | failed _ order _ _ _ callable pending revised bookings =>
      exact revised.bookingSafe (unclaiming_releasedSeat order) bookings
        (releasedSeat_bookedOrderId order)
        (isPaid_restated callable.orderFound (by rw [pending]; rfl)) safe
  | noted _ _ _ _ _ _ _ revised bookings =>
      exact revised.bookingSafe unclaiming_id bookings
        (fun _ => rfl) (fun _ => rfl) safe
  | fulfilled order _ found paid revised commerce =>
      exact revised.bookingSafe unclaiming_id commerce.bookings
        (fun _ => rfl) (isPaid_restated found (by rw [paid]; rfl)) safe
  | refundCompleted _ orderId revised bookings =>
      refine revised.bookingSafe unclaiming_id bookings
        (fun _ => rfl) ?_ safe
      intro id order _
      split
      · rename_i refunds
        rw [refunds.2]
        rfl
      · rfl

theorem Database.Initial.bookingSafe
    {db : Database Hash}
    (initial : db.Initial) :
    BookingSafe db := by
  have noBooking : ∀ booking, booking ∉ db.bookings := by
    rw [initial.fresh]
    exact Table.not_mem_empty
  have noOrder : ∀ id, db.orders.find? id = none := by
    rw [initial.fresh]
    exact fun _ => rfl
  refine ⟨initial.referenced, ?_, ?_, ?_⟩
  · intro place orderId
    constructor
    · rintro ⟨seat, found, booked⟩
      rw [(initial.unheld (Table.mem_of_find? found)).2.2] at booked
      cases booked
    · rintro ⟨booking, member, _⟩
      exact (noBooking booking member).elim
  · intro place orderId
    constructor
    · rintro ⟨booking, member, _⟩
      exact (noBooking booking member).elim
    · rintro ⟨⟨order, found, _⟩, _⟩
      rw [noOrder] at found
      cases found
  · intro first second member
    exact (noBooking first member).elim

/-! ## A sale is final -/

/-- Booked seats keep their row and their bookings. -/
def SalesKept (db after : Database Hash) : Prop :=
  ∀ {place seat},
    db.eventSeats.find? place = some seat →
    seat.bookedOrderId ≠ none →
    after.eventSeats.find? place = some seat ∧
      ∀ {booking : Booking},
        booking.place = place →
        (booking ∈ after.bookings ↔ booking ∈ db.bookings)

namespace SalesKept

theorem refl (db : Database Hash) : SalesKept db db := by
  intro place seat found _
  exact ⟨found, fun _ => Iff.rfl⟩

theorem trans
    {first second third : Database Hash}
    (early : SalesKept first second)
    (late : SalesKept second third) :
    SalesKept first third := by
  intro place seat found booked
  obtain ⟨foundSecond, earlyBookings⟩ := early found booked
  obtain ⟨foundThird, lateBookings⟩ := late foundSecond booked
  exact ⟨foundThird, fun samePlace =>
    (lateBookings samePlace).trans (earlyBookings samePlace)⟩

end SalesKept

theorem Revised.salesKept
    {holdStatus : Hold → HoldStatus}
    {orderStatus : Order → OrderStatus}
    {reseat : EventSeat → EventSeat}
    {db after : Database Hash}
    (revised : Revised holdStatus orderStatus reseat db after)
    (bookings : after.bookings = db.bookings)
    (kept : ∀ seat, seat.bookedOrderId ≠ none → reseat seat = seat) :
    SalesKept db after := by
  intro place seat found booked
  refine ⟨?_, fun _ => by rw [bookings]⟩
  rw [revised.seat_after found, kept seat booked]

theorem releasedSeat_booked
    (order : Order)
    (seat : EventSeat)
    (booked : seat.bookedOrderId ≠ none) :
    order.releasedSeat seat = seat := by
  rw [Order.releasedSeat, if_neg]
  intro releasable
  exact booked (releasable_iff.mp releasable).2

theorem SalesKept.of_change
    {now : Int}
    {db after : Database Hash}
    (safe : BookingSafe db)
    (change : Change now db after) :
    SalesKept db after := by
  cases change with
  | bookkeeping _ revised commerce =>
      exact revised.salesKept commerce.bookings fun _ _ => rfl
  | placed hold order rows seats _ placed =>
      intro place seat found booked
      refine ⟨?_, fun _ => by rw [placed.commerce.bookings]⟩
      rw [placed.seatsHeld, found, Option.map_some, if_neg]
      intro requested
      have samePlace : seat.place = place := Table.key_of_find? found
      have member : seat ∈ rows :=
        placed.rowsExact.mpr
          ⟨by rw [samePlace]; exact found, requested_iff.mp requested⟩
      exact booked (placed.row_free safe.referenced member).1
  | released order _ _ _ _ revised commerce =>
      exact revised.salesKept commerce.bookings
        (releasedSeat_booked order)
  | paymentOpened _ _ _ _ _ _ _ revised bookings =>
      exact revised.salesKept bookings fun _ _ => rfl
  | booked payment order hold bookings _ _ callable _ valid revised _ _
      bookedRows bookingsExact bookingsOf bookingsUnique =>
      intro place seat found booked
      obtain ⟨orderId, seatOrder⟩ := Option.ne_none_iff_exists'.mp booked
      have unheld : seat.holdId = none :=
        (safe.referenced.bookedChecked found).resolve_left booked
      refine ⟨?_, ?_⟩
      · rw [revised.seat_after found, if_neg]
        rw [unheld]
        exact fun impossible => nomatch impossible
      · intro booking bookingPlace
        refine ⟨?_, fun old => bookedRows.mpr (Or.inl old)⟩
        intro member
        rcases bookedRows.mp member with old | added
        · exact old
        -- A second booking of the place would violate uniqueness.
        · obtain ⟨previous, previousMember, previousPlace, _⟩ :=
            (safe.booked_iff place orderId).mp ⟨seat, found, seatOrder⟩
          have same : previous = booking :=
            bookingsUnique (bookedRows.mpr (Or.inl previousMember)) added
              (previousPlace.trans bookingPlace.symm)
          rw [← same]
          exact previousMember
  | refunded _ order _ _ _ _ _ _ revised bookings =>
      exact revised.salesKept bookings (releasedSeat_booked order)
  | failed _ order _ _ _ _ _ revised bookings =>
      exact revised.salesKept bookings (releasedSeat_booked order)
  | noted _ _ _ _ _ _ _ revised bookings =>
      exact revised.salesKept bookings fun _ _ => rfl
  | fulfilled _ _ _ _ revised commerce =>
      exact revised.salesKept commerce.bookings fun _ _ => rfl
  | refundCompleted _ _ revised bookings =>
      exact revised.salesKept bookings fun _ _ => rfl

section Runs

variable [DecidableEq Hash]

/--
In every state of every run the three records of a sale agree, no seat has two
bookings, and no continuation alters the row or the bookings of a booked seat.
-/
theorem booking_safety
    {self : PostgresReservations Hash}
    {start db : Database Hash}
    {invocations : List (Invocation Hash)}
    (initial : start.Initial)
    (run : Run self.Step start invocations db) :
    (∀ place orderId,
      (BookedBy db place orderId ↔ HasBooking db place orderId) ∧
        (HasBooking db place orderId ↔
          IsPaid db orderId ∧ HasItem db place orderId)) ∧
    (∀ {first second},
      first ∈ db.bookings →
      second ∈ db.bookings →
      first.place = second.place →
      first = second) ∧
    ∀ {later after},
      Run self.Step db later after →
      SalesKept db after := by
  have safe : BookingSafe db :=
    PostgresReservations.run_invariant BookingSafe.change run
      initial.bookingSafe
  refine ⟨?_, safe.bookingUnique, ?_⟩
  · intro place orderId
    exact ⟨safe.booked_iff place orderId, safe.booking_iff place orderId⟩
  · intro later after continuation
    exact PostgresReservations.run_relates BookingSafe
      BookingSafe.change SalesKept.refl SalesKept.trans
      SalesKept.of_change continuation safe

end Runs

/-- The purchase of the small sale books its seat for good. -/
theorem booking_safety_smallSale :
    HasBooking (smallStore.replay smallSale smallPurchase) (1, "A1") 101 ∧
      ∀ {later after},
        Run smallStore.Step (smallStore.replay smallSale smallPurchase)
          later after →
        SalesKept (smallStore.replay smallSale smallPurchase) after := by
  obtain ⟨agreement, _, final⟩ :=
    booking_safety smallSale_initial
      (smallStore.run_replay smallSale smallPurchase)
  refine ⟨(agreement (1, "A1") 101).1.mp ?_, final⟩
  exact ⟨{
    eventId := 1
    seatId := "A1"
    price := 500
    bookedOrderId := some 101
    version := 2 }, by decide, rfl⟩

end FlashTicketing
