import FlashTicketing.OrderLifecycle

namespace FlashTicketing

open Relational Transition

/-!
# The books balance

Captured money is recorded with the payments, what it bought with the bookings,
and what goes back with the refund requests.  No table has a running total, and
no transaction compares the three.  They agree in every reachable state: the
captured amount is the face value of all booked seats plus the amount of all
refunds, asked for or done.
-/

variable {Hash : Type}

/-! ## Three sums -/

namespace Database

/-- The total of an order. -/
def totalOf (db : Database Hash) (orderId : Uuid) : Nat :=
  match db.orders.find? orderId with
  | some order => order.total
  | none => 0

/-- The price of a seat. -/
def priceOf (db : Database Hash) (place : Place) : Nat :=
  match db.eventSeats.find? place with
  | some seat => seat.price
  | none => 0

/-- The payments that were captured. -/
def capturedPayments (db : Database Hash) : List PaymentAttempt :=
  db.paymentAttempts.select fun payment =>
    decide (payment.status = .succeeded)

/-- The amount of all captured payments. -/
def captured (db : Database Hash) : Nat :=
  ((db.capturedPayments.map PaymentAttempt.orderId).map db.totalOf).sum

/-- The face value of all booked seats. -/
def sold (db : Database Hash) : Nat :=
  ((db.bookings.rows.map Booking.place).map db.priceOf).sum

/-- The amount of all refunds, asked for or done. -/
def refunds (db : Database Hash) : Nat :=
  ((db.refundRequests.rows.map RefundRequest.orderId).map db.totalOf).sum

/-- The orders that are paid or fulfilled. -/
def paidOrders (db : Database Hash) : List Uuid :=
  (db.orders.select fun order => order.status.isPaid).map Order.id

end Database

/-! ## What the sums rest on -/

/-- Items have the price of their seats. -/
def Priced (db : Database Hash) : Prop :=
  ∀ item ∈ db.orderItems,
    ∃ seat,
      db.eventSeats.find? item.place = some seat ∧ seat.price = item.price

/-- Paid orders and refunds go back to a payment. -/
structure Funded (db : Database Hash) : Prop where
  paid :
    ∀ {id order},
      db.orders.find? id = some order →
      order.status.isPaid = true →
      ∃ paymentId payment,
        db.paymentAttempts.find? paymentId = some payment ∧
          payment.orderId = id
  refund :
    ∀ {refund},
      refund ∈ db.refundRequests →
      ∃ payment,
        db.paymentAttempts.find? refund.paymentId = some payment ∧
          payment.orderId = refund.orderId

/-- The three together, over the store's invariant about payments. -/
structure LedgerSound (db : Database Hash) : Prop where
  payments : PaymentSafe db
  totalled : Totalled db
  priced : Priced db
  funded : Funded db

/-! ## Every change keeps them -/

section Changes

variable
  {now : Int}
  {db after : Database Hash}
  {holdStatus : Hold → HoldStatus}
  {orderStatus : Order → OrderStatus}
  {reseat : EventSeat → EventSeat}

theorem Revised.priced
    (revised : Revised holdStatus orderStatus reseat db after)
    (kept : ∀ seat, (reseat seat).price = seat.price)
    (priced : Priced db) :
    Priced after := by
  intro item member
  rw [revised.items] at member
  obtain ⟨seat, found, isPrice⟩ := priced item member
  exact ⟨reseat seat, revised.seat_after found, (kept seat).trans isPrice⟩

theorem releasedSeat_price
    (order : Order)
    (seat : EventSeat) :
    (order.releasedSeat seat).price = seat.price := by
  unfold Order.releasedSeat
  split <;> rfl

theorem Placed.priced
    {hold : Hold}
    {order : Order}
    {rows : List EventSeat}
    {seats : List SeatId}
    {announcement : Uuid}
    (placed : Placed now hold order rows seats announcement db after)
    (priced : Priced db) :
    Priced after := by
  intro item member
  rcases placed.itemsAdded.mp member with old | ⟨row, listed, rfl⟩
  · obtain ⟨seat, found, isPrice⟩ := priced item old
    rw [placed.seatsHeld item.place, found]
    simp only [Option.map_some, Option.some.injEq, exists_eq_left']
    split
    · exact isPrice
    · exact isPrice
  · rw [placed.item_place listed, placed.row_after listed]
    exact ⟨_, rfl, rfl⟩

theorem Priced.change
    (priced : Priced db)
    (change : Change now db after) :
    Priced after := by
  cases change with
  | placed _ _ _ _ _ placed => exact placed.priced priced
  | bookkeeping _ revised | paymentOpened _ _ _ _ _ _ _ revised
  | noted _ _ _ _ _ _ _ revised | fulfilled _ _ _ _ revised
  | refundCompleted _ _ revised =>
      exact revised.priced (fun _ => rfl) priced
  | released order _ _ _ _ revised | refunded _ order _ _ _ _ _ _ revised
  | failed _ order _ _ _ _ _ revised =>
      exact revised.priced (releasedSeat_price order) priced
  | booked _ _ _ _ _ _ _ _ _ revised =>
      refine revised.priced ?_ priced
      intro seat
      split <;> rfl

/-- Payments that stay still fund what they funded. -/
theorem Funded.of_kept
    (funded : Funded db)
    (kept : PaymentsKept db after)
    (paid :
      ∀ {id order},
        after.orders.find? id = some order →
        order.status.isPaid = true →
        (∃ before,
          db.orders.find? id = some before ∧
            before.status.isPaid = true) ∨
          ∃ paymentId payment,
            db.paymentAttempts.find? paymentId = some payment ∧
              payment.orderId = id)
    (refund :
      ∀ {refund},
        refund ∈ after.refundRequests →
        ∃ payment,
          db.paymentAttempts.find? refund.paymentId = some payment ∧
            payment.orderId = refund.orderId) :
    Funded after where
  paid := by
    intro id order found isPaid
    have before :
        ∃ paymentId payment,
          db.paymentAttempts.find? paymentId = some payment ∧
            payment.orderId = id := by
      rcases paid found isPaid with ⟨old, oldFound, oldPaid⟩ | new
      · exact funded.paid oldFound oldPaid
      · exact new
    obtain ⟨paymentId, payment, payFound, isOrder⟩ := before
    obtain ⟨next, nextFound, sameOrder, _⟩ := kept payFound
    exact ⟨paymentId, next, nextFound, sameOrder.trans isOrder⟩
  refund := by
    intro row member
    obtain ⟨payment, payFound, isOrder⟩ := refund member
    obtain ⟨next, nextFound, sameOrder, _⟩ := kept payFound
    exact ⟨next, nextFound, sameOrder.trans isOrder⟩

/-- Orders that a revision leaves paid were paid. -/
theorem Revised.paid_before
    (revised : Revised holdStatus orderStatus reseat db after)
    (unpaying :
      ∀ {id order},
        db.orders.find? id = some order →
        (orderStatus order).isPaid = true →
        order.status.isPaid = true)
    {id : Uuid}
    {order : Order}
    (found : after.orders.find? id = some order)
    (paid : order.status.isPaid = true) :
    ∃ before,
      db.orders.find? id = some before ∧ before.status.isPaid = true := by
  obtain ⟨before, beforeFound, isOrder⟩ := revised.order_before found
  rw [isOrder] at paid
  exact ⟨before, beforeFound, unpaying beforeFound paid⟩

/-- Refund requests that no change touches. -/
theorem Funded.refund_of_eq
    (funded : Funded db)
    (same : after.refundRequests = db.refundRequests)
    {refund : RefundRequest}
    (member : refund ∈ after.refundRequests) :
    ∃ payment,
      db.paymentAttempts.find? refund.paymentId = some payment ∧
        payment.orderId = refund.orderId := by
  rw [same] at member
  exact funded.refund member

theorem isPaid_of_restated
    {order row : Order}
    {status : OrderStatus}
    (unpaid : status.isPaid = false)
    (paid : (order.restated status row).isPaid = true) :
    row.status.isPaid = true := by
  unfold Order.restated at paid
  split at paid
  · rw [unpaid] at paid
    cases paid
  · exact paid

theorem Funded.change
    (funded : Funded db)
    (change : Change now db after) :
    Funded after := by
  have kept : PaymentsKept db after := PaymentsKept.of_change change
  cases change with
  | bookkeeping _ revised commerce =>
      exact funded.of_kept kept
        (fun found paid =>
          Or.inl (revised.paid_before (fun _ => id) found paid))
        (funded.refund_of_eq commerce.refunds)
  | paymentOpened _ _ _ _ _ _ _ revised _ refunds =>
      exact funded.of_kept kept
        (fun found paid =>
          Or.inl (revised.paid_before (fun _ => id) found paid))
        (funded.refund_of_eq refunds)
  | noted _ _ _ _ _ _ _ revised _ refunds =>
      exact funded.of_kept kept
        (fun found paid =>
          Or.inl (revised.paid_before (fun _ => id) found paid))
        (funded.refund_of_eq refunds)
  | placed _ _ _ _ _ placed =>
      refine funded.of_kept kept ?_
        (funded.refund_of_eq placed.commerce.refunds)
      intro id order found paid
      rcases placed.order_cases found with ⟨_, rfl⟩ | ⟨_, before⟩
      · rw [placed.pending] at paid
        cases paid
      · exact Or.inl ⟨order, before, paid⟩
  | released order _ _ _ _ revised commerce =>
      refine funded.of_kept kept
        (fun found paid =>
          Or.inl (revised.paid_before (fun _ => ?_) found paid))
        (funded.refund_of_eq commerce.refunds)
      rw [isPaid_closedOrder]
      exact id
  | failed _ order _ _ _ _ _ revised _ refunds =>
      exact funded.of_kept kept
        (fun found paid =>
          Or.inl (revised.paid_before
            (fun _ => isPaid_of_restated rfl) found paid))
        (funded.refund_of_eq refunds)
  | fulfilled order _ orderFound isPaid revised commerce =>
      refine funded.of_kept kept
        (fun found paid =>
          Or.inl (revised.paid_before (fun rowFound => ?_) found paid))
        (funded.refund_of_eq commerce.refunds)
      have same : OrderStatus.fulfilled.isPaid = order.status.isPaid :=
        isPaid.symm
      rw [isPaid_restated orderFound same rowFound]
      exact id
  | booked payment order _ _ _ _ callable _ _ revised _ refunds =>
      refine funded.of_kept kept ?_ (funded.refund_of_eq refunds)
      intro id row found paid
      obtain ⟨before, beforeFound, isRow⟩ := revised.order_before found
      rcases restated_cases callable.order_stored .paid beforeFound with
        ⟨rfl, _⟩ | same
      · exact Or.inr ⟨payment.id, payment, callable.paymentFound,
          callable.keys.1.symm.trans (Table.key_of_find? beforeFound)⟩
      · rw [isRow] at paid
        exact Or.inl ⟨before, beforeFound, same ▸ paid⟩
  | refunded payment order _ _ _ _ callable _ revised _ _ refunds =>
      refine funded.of_kept kept
        (fun found paid =>
          Or.inl (revised.paid_before
            (fun _ => isPaid_of_restated rfl) found paid)) ?_
      intro refund member
      have found := Table.find?_key member
      rw [refunds] at found
      split at found
      · rename_i new
        cases found
        exact ⟨payment, callable.paymentFound, callable.keys.1.symm⟩
      · exact funded.refund (Table.mem_of_find? found)
  | refundCompleted _ _ revised _ _ refunds =>
      refine funded.of_kept kept
        (fun found paid =>
          Or.inl (revised.paid_before (fun _ => ?_) found paid)) ?_
      · split
        · intro unpaid
          cases unpaid
        · exact id
      · intro refund member
        have found := Table.find?_key member
        rw [refunds, Option.map_eq_some_iff] at found
        obtain ⟨old, oldFound, isRefund⟩ := found
        have sameIds :
            refund.paymentId = old.paymentId ∧
              refund.orderId = old.orderId := by
          rw [← isRefund]
          split <;> exact ⟨rfl, rfl⟩
        rw [sameIds.1, sameIds.2]
        exact funded.refund (Table.mem_of_find? oldFound)

theorem LedgerSound.change
    (sound : LedgerSound db)
    (change : Change now db after) :
    LedgerSound after where
  payments := sound.payments.change change
  totalled := sound.totalled.change sound.payments.safe.referenced change
  priced := sound.priced.change change
  funded := sound.funded.change change

end Changes

theorem Database.Initial.ledgerSound
    {db : Database Hash}
    (initial : db.Initial) :
    LedgerSound db where
  payments := initial.paymentSafe
  totalled := by
    intro id order found
    rw [initial.fresh] at found
    cases found
  priced := by
    intro item member
    rw [initial.fresh] at member
    exact absurd member (Table.not_mem_empty item)
  funded := by
    constructor
    · intro id order found
      rw [initial.fresh] at found
      cases found
    · intro refund member
      rw [initial.fresh] at member
      exact absurd member (Table.not_mem_empty refund)

/-! ## Captured payments are the paid and the refunded orders -/

namespace LedgerSound

variable {db : Database Hash}

theorem mem_capturedPayments
    {payment : PaymentAttempt} :
    payment ∈ db.capturedPayments ↔
      db.paymentAttempts.find? payment.id = some payment ∧
        payment.status = .succeeded := by
  rw [Database.capturedPayments, Table.mem_select, decide_eq_true_iff]
  constructor
  · rintro ⟨member, succeeded⟩
    exact ⟨Table.find?_key member, succeeded⟩
  · rintro ⟨found, succeeded⟩
    exact ⟨Table.mem_of_find? found, succeeded⟩

theorem mem_paidOrders
    {orderId : Uuid} :
    orderId ∈ db.paidOrders ↔ IsPaid db orderId := by
  unfold Database.paidOrders IsPaid
  simp only [List.mem_map, Table.mem_select]
  constructor
  · rintro ⟨order, ⟨member, paid⟩, rfl⟩
    exact ⟨order, Table.find?_key member, paid⟩
  · rintro ⟨order, found, paid⟩
    exact ⟨order, ⟨Table.mem_of_find? found, paid⟩,
      Table.key_of_find? found⟩

/-- One captured payment for an order at most. -/
theorem capturedOrders_nodup
    (sound : LedgerSound db) :
    (db.capturedPayments.map PaymentAttempt.orderId).Nodup := by
  have rowsNodup : db.capturedPayments.Nodup :=
    (db.paymentAttempts.select_keysNodup _).of_map
  apply rowsNodup.map_on
  intro first firstMember second secondMember sameOrder
  obtain ⟨firstFound, _⟩ := mem_capturedPayments.mp firstMember
  obtain ⟨secondFound, _⟩ := mem_capturedPayments.mp secondMember
  have sameId :=
    sound.payments.settled.alone firstFound secondFound sameOrder
  rw [sameId, secondFound] at firstFound
  cases firstFound
  rfl

/-- One refund for an order at most. -/
theorem refundOrders_nodup
    (sound : LedgerSound db) :
    (db.refundRequests.rows.map RefundRequest.orderId).Nodup := by
  have rowsNodup : db.refundRequests.rows.Nodup :=
    db.refundRequests.keysNodup.of_map
  apply rowsNodup.map_on
  intro first firstMember second secondMember sameOrder
  obtain ⟨firstPayment, firstFound, firstOrder⟩ :=
    sound.funded.refund firstMember
  obtain ⟨secondPayment, secondFound, secondOrder⟩ :=
    sound.funded.refund secondMember
  have sameId :=
    sound.payments.settled.alone firstFound secondFound
      (firstOrder.trans (sameOrder.trans secondOrder.symm))
  exact Table.eq_of_key_eq firstMember secondMember sameId

/-- The order of a refund is being refunded. -/
theorem refunding
    (sound : LedgerSound db)
    {refund : RefundRequest}
    (member : refund ∈ db.refundRequests) :
    ∃ payment order,
      db.paymentAttempts.find? refund.paymentId = some payment ∧
        payment.orderId = refund.orderId ∧
        payment.status = .succeeded ∧
        db.orders.find? refund.orderId = some order ∧
        order.status.isRefund = true := by
  obtain ⟨payment, found, isOrder⟩ := sound.funded.refund member
  obtain ⟨order, orderFound, succeeded, refunded⟩ :=
    sound.payments.settled.ordered found
  have isRefund : order.status.isRefund = true := by
    apply refunded.mp
    have rowFound :
        db.refundRequests.find? refund.paymentId = some refund :=
      Table.find?_key member
    rw [rowFound]
    rfl
  rw [isOrder] at orderFound
  exact ⟨payment, order, found, isOrder, succeeded.mpr (Or.inr isRefund),
    orderFound, isRefund⟩

theorem paid_disjoint_refund
    (sound : LedgerSound db) :
    List.Disjoint db.paidOrders
      (db.refundRequests.rows.map RefundRequest.orderId) := by
  intro orderId paid refunded
  obtain ⟨order, orderFound, isPaid⟩ := mem_paidOrders.mp paid
  obtain ⟨refund, member, rfl⟩ := List.mem_map.mp refunded
  obtain ⟨_, other, _, _, _, otherFound, isRefund⟩ :=
    sound.refunding (Table.mem_def.mpr member)
  rw [orderFound] at otherFound
  cases otherFound
  rw [isRefund_of_isPaid isPaid] at isRefund
  cases isRefund

/-- An order has a captured payment if it is paid or being refunded. -/
theorem mem_capturedOrders
    (sound : LedgerSound db)
    (orderId : Uuid) :
    orderId ∈ db.capturedPayments.map PaymentAttempt.orderId ↔
      orderId ∈ db.paidOrders ++
        db.refundRequests.rows.map RefundRequest.orderId := by
  rw [List.mem_append, mem_paidOrders]
  constructor
  · intro captured
    obtain ⟨payment, member, rfl⟩ := List.mem_map.mp captured
    obtain ⟨found, isCaptured⟩ := mem_capturedPayments.mp member
    obtain ⟨order, orderFound, succeeded, refunded⟩ :=
      sound.payments.settled.ordered found
    rcases succeeded.mp isCaptured with paid | isRefund
    · exact Or.inl ⟨order, orderFound, paid⟩
    · obtain ⟨refund, refundFound⟩ :=
        Option.isSome_iff_exists.mp (refunded.mpr isRefund)
      obtain ⟨other, otherFound, isOrder⟩ :=
        sound.funded.refund (Table.mem_of_find? refundFound)
      have isPayment : refund.paymentId = payment.id :=
        Table.key_of_find? refundFound
      rw [isPayment, found] at otherFound
      cases otherFound
      exact Or.inr (List.mem_map.mpr
        ⟨refund, Table.mem_of_find? refundFound, isOrder.symm⟩)
  · rintro (⟨order, orderFound, paid⟩ | refunded)
    · obtain ⟨paymentId, payment, found, isOrder⟩ :=
        sound.funded.paid orderFound paid
      obtain ⟨other, otherFound, succeeded, _⟩ :=
        sound.payments.settled.ordered found
      rw [isOrder, orderFound] at otherFound
      cases otherFound
      have isId : payment.id = paymentId := Table.key_of_find? found
      rw [← isId] at found
      exact List.mem_map.mpr ⟨payment,
        mem_capturedPayments.mpr ⟨found, succeeded.mpr (Or.inl paid)⟩,
        isOrder⟩
    · obtain ⟨refund, member, rfl⟩ := List.mem_map.mp refunded
      obtain ⟨payment, _, found, isOrder, succeeded, _⟩ :=
        sound.refunding (Table.mem_def.mpr member)
      have isId : payment.id = refund.paymentId := Table.key_of_find? found
      rw [← isId] at found
      exact List.mem_map.mpr
        ⟨payment, mem_capturedPayments.mpr ⟨found, succeeded⟩, isOrder⟩

theorem capturedOrders_perm
    (sound : LedgerSound db) :
    (db.capturedPayments.map PaymentAttempt.orderId).Perm
      (db.paidOrders ++
        db.refundRequests.rows.map RefundRequest.orderId) := by
  have paidNodup : db.paidOrders.Nodup :=
    db.orders.select_keysNodup _
  rw [List.perm_ext_iff_of_nodup sound.capturedOrders_nodup
    (paidNodup.append sound.refundOrders_nodup sound.paid_disjoint_refund)]
  exact sound.mem_capturedOrders

/-! ## Paid orders are the booked seats -/

theorem mem_paidItems
    {item : OrderItem} :
    item ∈ db.paidOrders.flatMap db.itemsOf ↔
      item ∈ db.orderItems ∧ IsPaid db item.orderId := by
  simp only [List.mem_flatMap, mem_paidOrders, mem_itemsOf]
  constructor
  · rintro ⟨orderId, paid, member, rfl⟩
    exact ⟨member, paid⟩
  · rintro ⟨member, paid⟩
    exact ⟨item.orderId, paid, member, rfl⟩

/-- An item of a paid order is booked by that order. -/
theorem booking_of_paidItem
    (sound : LedgerSound db)
    {item : OrderItem}
    (member : item ∈ db.paidOrders.flatMap db.itemsOf) :
    ∃ booking ∈ db.bookings,
      booking.place = item.place ∧ booking.orderId = item.orderId := by
  obtain ⟨stored, paid⟩ := mem_paidItems.mp member
  exact (sound.payments.safe.booking_iff item.place item.orderId).mpr
    ⟨paid, item, stored, rfl, rfl⟩

theorem paidPlaces_nodup
    (sound : LedgerSound db) :
    ((db.paidOrders.flatMap db.itemsOf).map OrderItem.place).Nodup := by
  have itemsNodup : (db.paidOrders.flatMap db.itemsOf).Nodup := by
    rw [List.nodup_flatMap]
    refine ⟨fun orderId _ => itemsOf_nodup db orderId, ?_⟩
    have paidNodup : db.paidOrders.Nodup := db.orders.select_keysNodup _
    refine paidNodup.imp ?_
    intro first second distinct item firstItem secondItem
    exact distinct
      ((mem_itemsOf.mp firstItem).2.symm.trans (mem_itemsOf.mp secondItem).2)
  apply itemsNodup.map_on
  intro first firstMember second secondMember samePlace
  obtain ⟨firstBooking, firstBooked, firstPlace, firstOrder⟩ :=
    sound.booking_of_paidItem firstMember
  obtain ⟨secondBooking, secondBooked, secondPlace, secondOrder⟩ :=
    sound.booking_of_paidItem secondMember
  have sameBooking :=
    sound.payments.safe.bookingUnique firstBooked secondBooked
      (firstPlace.trans (samePlace.trans secondPlace.symm))
  have sameOrder : first.orderId = second.orderId := by
    rw [← firstOrder, ← secondOrder, sameBooking]
  have sameSeat : first.seatId = second.seatId :=
    congrArg Prod.snd samePlace
  exact Table.eq_of_key_eq (mem_paidItems.mp firstMember).1
    (mem_paidItems.mp secondMember).1 (Prod.ext sameOrder sameSeat)

theorem bookedPlaces_nodup
    (sound : LedgerSound db) :
    (db.bookings.rows.map Booking.place).Nodup := by
  have rowsNodup : db.bookings.rows.Nodup := db.bookings.keysNodup.of_map
  apply rowsNodup.map_on
  intro first firstMember second secondMember samePlace
  exact sound.payments.safe.bookingUnique firstMember secondMember samePlace

/-- The booked seats are the seats of the paid orders. -/
theorem paidPlaces_perm
    (sound : LedgerSound db) :
    ((db.paidOrders.flatMap db.itemsOf).map OrderItem.place).Perm
      (db.bookings.rows.map Booking.place) := by
  rw [List.perm_ext_iff_of_nodup sound.paidPlaces_nodup
    sound.bookedPlaces_nodup]
  intro place
  constructor
  · intro paid
    obtain ⟨item, member, rfl⟩ := List.mem_map.mp paid
    obtain ⟨booking, booked, isPlace, _⟩ := sound.booking_of_paidItem member
    exact List.mem_map.mpr ⟨booking, booked, isPlace⟩
  · intro booked
    obtain ⟨booking, member, rfl⟩ := List.mem_map.mp booked
    obtain ⟨paid, item, stored, isOrder, isPlace⟩ :=
      (sound.payments.safe.booking_iff booking.place booking.orderId).mp
        ⟨booking, member, rfl, rfl⟩
    rw [← isOrder] at paid
    exact List.mem_map.mpr ⟨item, mem_paidItems.mpr ⟨stored, paid⟩, isPlace⟩

theorem totalOf_eq
    (sound : LedgerSound db)
    {orderId : Uuid}
    (paid : orderId ∈ db.paidOrders) :
    db.totalOf orderId =
      (((db.itemsOf orderId).map OrderItem.place).map db.priceOf).sum := by
  obtain ⟨order, found, _⟩ := mem_paidOrders.mp paid
  have isTotal : db.totalOf orderId = order.total := by
    simp only [Database.totalOf, found]
  rw [isTotal, sound.totalled orderId order found, List.map_map]
  congr 1
  apply List.map_congr_left
  intro item listed
  obtain ⟨seat, seatFound, isPrice⟩ :=
    sound.priced item (mem_itemsOf.mp listed).1
  simp only [Function.comp, Database.priceOf, seatFound, isPrice]

/-- The totals of the paid orders are the prices of the booked seats. -/
theorem sum_paidOrders
    (sound : LedgerSound db) :
    (db.paidOrders.map db.totalOf).sum = db.sold := by
  calc
    (db.paidOrders.map db.totalOf).sum =
        (db.paidOrders.map fun orderId =>
          (((db.itemsOf orderId).map OrderItem.place).map
            db.priceOf).sum).sum := by
      congr 1
      exact List.map_congr_left fun _ paid => sound.totalOf_eq paid
    _ = (((db.paidOrders.flatMap db.itemsOf).map OrderItem.place).map
          db.priceOf).sum := by
      rw [List.map_flatMap, List.map_flatMap, List.flatMap_def,
        List.sum_flatten, List.map_map]
      rfl
    _ = db.sold := (sound.paidPlaces_perm.map db.priceOf).sum_eq

/-- The captured amount has bought seats or goes back. -/
theorem balanced
    (sound : LedgerSound db) :
    db.captured = db.sold + db.refunds := by
  unfold Database.captured
  rw [(sound.capturedOrders_perm.map db.totalOf).sum_eq, List.map_append,
    List.sum_append, sound.sum_paidOrders]
  rfl

end LedgerSound

section Runs

variable [DecidableEq Hash]

/--
In every state of every run the amount of the captured payments is the face
value of all booked seats plus the amount of all refunds.
-/
theorem ledger_balances
    {self : PostgresReservations Hash}
    {start db : Database Hash}
    {invocations : List (Invocation Hash)}
    (initial : start.Initial)
    (run : Run self.Step start invocations db) :
    db.captured = db.sold + db.refunds :=
  (PostgresReservations.run_invariant (fun holds => holds.change) run
    initial.ledgerSound).balanced

end Runs

/-- The small purchase captures what its seat costs. -/
theorem ledger_balances_smallSale :
    (smallStore.replay smallSale smallPurchase).captured = 500 ∧
      (smallStore.replay smallSale smallPurchase).captured =
        (smallStore.replay smallSale smallPurchase).sold +
          (smallStore.replay smallSale smallPurchase).refunds :=
  ⟨by decide,
    ledger_balances smallSale_initial
      (smallStore.run_replay smallSale smallPurchase)⟩

end FlashTicketing
