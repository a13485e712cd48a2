import FlashTicketing.PostgresChanges

namespace FlashTicketing

open Relational Checked

/-!
# Every committed call is a sequence of changes

One specification lemma per transaction body, each reducing the body to the
alternatives of `Change`.  Nothing below this module unfolds a body to reason
about ownership or money.
-/

variable {Hash : Type}

/-! ## Building blocks -/

@[simp] theorem mem_orderBySeat
    {seats : List EventSeat}
    {seat : EventSeat} :
    seat ∈ orderBySeat seats ↔ seat ∈ seats :=
  List.mem_insertionSort _

theorem orderBySeat_perm
    (seats : List EventSeat) :
    (orderBySeat seats).Perm seats :=
  List.perm_insertionSort _ _

theorem requested_iff
    {seat : EventSeat}
    {eventId : Uuid}
    {seats : List SeatId} :
    seat.requested eventId seats = true ↔
      seat.eventId = eventId ∧ seat.seatId ∈ seats := by
  simp [EventSeat.requested]

theorem releasable_iff
    {seat : EventSeat}
    {holdId : Uuid} :
    seat.releasable holdId = true ↔
      seat.holdId = some holdId ∧ seat.bookedOrderId = none := by
  simp [EventSeat.releasable]

theorem find?_place_iff
    {db : Database Hash}
    {seat : EventSeat} :
    db.eventSeats.find? seat.place = some seat ↔ seat ∈ db.eventSeats := by
  rw [Table.find?_eq_some_iff]
  simp [Keyed.key]

theorem mem_seatRows
    {db : Database Hash}
    {eventId : Uuid}
    {seats : List SeatId}
    {row : EventSeat} :
    row ∈ seatRows db eventId seats ↔
      db.eventSeats.find? row.place = some row ∧
        row.eventId = eventId ∧ row.seatId ∈ seats := by
  rw [seatRows, mem_orderBySeat, Table.mem_select, requested_iff,
    find?_place_iff]

theorem seatRows_places_nodup
    (db : Database Hash)
    (eventId : Uuid)
    (seats : List SeatId) :
    ((seatRows db eventId seats).map EventSeat.place).Nodup :=
  ((orderBySeat_perm _).map EventSeat.place).nodup_iff.mpr
    (db.eventSeats.select_keysNodup _)

theorem mem_orderSeats
    {db : Database Hash}
    {order : Order}
    {seat : EventSeat} :
    seat ∈ orderSeats db order ↔
      db.eventSeats.find? seat.place = some seat ∧
        ∃ item ∈ db.orderItems,
          item.orderId = order.id ∧ item.place = seat.place := by
  rw [orderSeats, mem_orderBySeat, Table.mem_select, find?_place_iff]
  simp [Table.mem_def]

theorem validHold_iff
    {hold : Hold}
    {seats : List EventSeat}
    {now : Int} :
    validHold hold seats now = true ↔
      seats ≠ [] ∧
        (hold.status = .active ∧ now < hold.expiresAt) ∧
        ∀ seat ∈ seats,
          (seat.holdId = some hold.id ∧ seat.bookedOrderId = none) ∧
            seat.reservedAfter now = true := by
  simp [validHold, and_assoc]

/-- A seat free for everybody is free for a particular hold. -/
theorem unavailableTo_of_unavailable
    {seat : EventSeat}
    {now : Int}
    (available : seat.unavailable now = false)
    (holdId : Uuid) :
    seat.unavailableTo now holdId = false := by
  simp only [EventSeat.unavailable, Bool.or_eq_false_iff] at available
  simp [EventSeat.unavailableTo, available]

theorem event_eq_ok
    {id aggregate : Uuid}
    {message : Message}
    {db after : Database Hash} :
    event id aggregate message db = .ok after ↔
      ∃ outbox,
        db.outboxEvents.insert? {
            id := id
            aggregateId := aggregate
            message := message } = some outbox ∧
          { db with outboxEvents := outbox } = after := by
  simp only [event, bind_eq_ok, unique_eq_ok, pure_eq_ok]

namespace Change

variable {now : Int} {db : Database Hash}

/-- Tables outside `Change` may be rewritten freely. -/
theorem ofPrivate
    (tickets : Table Ticket)
    (callbacks : Table (PaymentCallback Hash))
    (records : Table (IdempotencyRecord Hash))
    (commands : Table (ReservationCommand Hash))
    (inbox : Table InboxEntry)
    (refresh : Table SeatRefreshRequest) :
    Change now db { db with
      tickets := tickets
      paymentCallbacks := callbacks
      idempotencyRecords := records
      reservationCommands := commands
      consumerInbox := inbox
      seatRefreshRequests := refresh } :=
  .bookkeeping []
    ⟨rfl, rfl, fun _ => by simp, fun _ => by simp, fun _ => by simp⟩
    ⟨rfl, rfl, rfl⟩
    ⟨fun _ => by simp, by simp⟩
    (by simp)

/-- A rewritten idempotency table is bookkeeping. -/
theorem ofRecords
    (records : Table (IdempotencyRecord Hash)) :
    Change now db { db with idempotencyRecords := records } :=
  ofPrivate db.tickets db.paymentCallbacks records
    db.reservationCommands db.consumerInbox db.seatRefreshRequests

end Change

/-! ## Reservations -/

theorem announces_of_insert
    {db after : Database Hash}
    {row : OutboxEvent}
    (inserted :
      db.outboxEvents.insert? row = some after.outboxEvents) :
    Announces [row] db after where
  rows := by
    intro other
    rw [Table.mem_of_insert? inserted, List.mem_singleton]
  fresh := by
    intro other member
    rw [List.mem_singleton.mp member]
    exact (Table.insert?_eq_some inserted).1

/-- Announcements made one after another. -/
theorem Announces.append
    {early late : List OutboxEvent}
    {db middle after : Database Hash}
    (first : Announces early db middle)
    (second : Announces late middle after) :
    Announces (early ++ late) db after where
  rows := by
    intro row
    rw [second.rows, first.rows, List.mem_append, or_assoc]
  fresh := by
    intro row member
    rcases List.mem_append.mp member with isEarly | isLate
    · exact first.fresh row isEarly
    · have absent := second.fresh row isLate
      rw [Table.find?_eq_none_iff] at absent ⊢
      intro other otherMember
      exact absent other ((first.rows other).mpr (Or.inl otherMember))

/-- The writes shared by both hold-creating transactions. -/
theorem placed_of_placeHold
    {now : Int}
    {hold : Hold}
    {order : Order}
    {rows : List EventSeat}
    {seats : List SeatId}
    {announcement : Uuid}
    {db after : Database Hash}
    (accepted :
      placeHold hold order rows seats announcement db = .ok after)
    (rowsRead : rows = seatRows db hold.eventId seats)
    (rowsFound : rows.length = seats.length)
    (orderHold : order.holdId = hold.id)
    (orderEvent : order.eventId = hold.eventId)
    (active : hold.status = .active)
    (pending : order.status = .pending)
    (total : order.total = (rows.map EventSeat.price).sum)
    (unexpired : now ≤ hold.expiresAt)
    (free :
      ∀ {row}, row ∈ rows → row.unavailableTo now hold.id = false) :
    Placed now hold order rows seats announcement db after := by
  simp only [placeHold, placeRows, bind_assoc, pure_bind, bind_eq_ok,
    unique_eq_ok, ensure_eq_ok, event_eq_ok] at accepted
  obtain ⟨holds, holdInserted, _, holdUnused, orders, orderInserted,
    items, itemsInserted, outbox, announced, rfl⟩ := accepted
  exact {
    holdFresh := (Table.insert?_eq_some holdInserted).1
    orderFresh := (Table.insert?_eq_some orderInserted).1
    holdUnused := by
      intro id other found
      rw [← orderHold]
      exact holdUnused other (Table.mem_of_find? found)
    orderHold := orderHold
    orderEvent := orderEvent
    active := active
    pending := pending
    total := total
    unexpired := unexpired
    rowsFound := rowsFound
    rowsNodup := by
      rw [rowsRead]
      exact seatRows_places_nodup db hold.eventId seats
    rowsExact := by
      intro row
      rw [rowsRead, mem_seatRows]
    free := free
    events := rfl
    holds := Table.find?_of_insert? holdInserted
    orders := Table.find?_of_insert? orderInserted
    seatsHeld := fun place => by simp only [Table.find?_modify]
    itemsAdded := by
      intro item
      rw [Table.mem_of_insertAll? itemsInserted, List.mem_map]
      rfl
    commerce := ⟨rfl, rfl, rfl⟩
    announces := announces_of_insert announced }

theorem le_addSeconds
    (now : Int)
    (seconds : Nat) :
    now ≤ addSeconds now seconds := by
  unfold addSeconds second
  omega

namespace PostgresReservations

variable {self : PostgresReservations Hash}

/-- What a committed `reserve` of a new key did. -/
theorem placed_of_reserveBody
    {actor : Actor}
    {eventId : Uuid}
    {seats : List SeatId}
    {ambient : Ambient}
    {db after : Database Hash}
    {response : Response}
    (accepted :
      self.reserveBody actor eventId seats ambient db =
        .ok (response, after)) :
    ∃ hold order rows,
      hold.id = ambient.uuid4 0 ∧
        order.id = ambient.uuid4 1 ∧
        hold.eventId = eventId ∧
        response.holdId? = some hold.id ∧
        response.orderId = order.id ∧
        Placed ambient.now hold order rows seats (ambient.uuid4 2)
          db after := by
  simp only [reserveBody, bind_eq_ok, require_eq_ok, ensure_eq_ok,
    pure_eq_ok, Prod.mk.injEq] at accepted
  obtain ⟨sale, _, _, _, _, rowsFound, _, free, written,
    placeAccepted, rfl, rfl⟩ := accepted
  refine ⟨_, _, _, rfl, rfl, rfl, rfl, rfl,
    placed_of_placeHold placeAccepted rfl rowsFound rfl rfl rfl rfl rfl
      (le_addSeconds _ _) ?_⟩
  intro row member
  exact unavailableTo_of_unavailable (free row member) _

/-- What a committed `persist_reservation_command` of a new command did. -/
theorem placed_of_persistBody
    {payload : CommandPayload Hash}
    {response : CommandResponse}
    {ambient : Ambient}
    {db after : Database Hash}
    {durable : Response}
    (accepted :
      persistBody payload response ambient db = .ok (durable, after)) :
    ∃ hold order rows written,
      hold = payload.hold ∧
        order.actor = payload.actor ∧
        order.id = payload.orderId ∧
        (durable.holdId? = some response.holdId ∧
          durable.orderId = response.orderId ∧
          durable.paymentId? = none) ∧
        placeHold hold order rows (sortedSeats payload.seatIds)
          (ambient.uuid4 0) db = .ok written ∧
        Placed ambient.now hold order rows (sortedSeats payload.seatIds)
          (ambient.uuid4 0) db written ∧
        ∃ commands,
          written.reservationCommands.insert? {
              commandId := payload.commandId
              actor := payload.actor
              idempotencyKey := payload.idempotencyKey
              requestHash := payload.requestHash
              eventId := payload.eventId
              holdId := payload.holdId
              orderId := payload.orderId
              response := durable } = some commands ∧
            after = { remember payload.actor .hold
              payload.idempotencyKey durable written with
                reservationCommands := commands } := by
  simp only [persistBody, bind_eq_ok, require_eq_ok, ensure_eq_ok,
    unique_eq_ok, pure_eq_ok, Prod.mk.injEq] at accepted
  obtain ⟨sale, _, _, _, _, rowsFound, _, unexpired, _, free, written,
    placeAccepted, _, _, commands, inserted, rfl, rfl⟩ := accepted
  refine ⟨_, _, _, written, rfl, rfl, rfl, ⟨rfl, rfl, rfl⟩,
    placeAccepted,
    placed_of_placeHold placeAccepted rfl (by simpa using rowsFound)
      rfl rfl rfl rfl rfl (Int.le_of_lt unexpired)
      (fun {row} member => free row member),
    commands, inserted, rfl⟩

theorem changes_of_persistBody
    {payload : CommandPayload Hash}
    {response : CommandResponse}
    {ambient : Ambient}
    {db after : Database Hash}
    {durable : Response}
    (accepted :
      persistBody payload response ambient db = .ok (durable, after)) :
    Changes ambient.now db after := by
  obtain ⟨hold, order, rows, written, _, _, _, _, _, placed, commands, _,
    rfl⟩ := placed_of_persistBody accepted
  have placing : Changes ambient.now db written :=
    .single (.placed hold order rows _ _ placed)
  exact placing.tail
    (.ofPrivate written.tickets written.paymentCallbacks _ commands
      written.consumerInbox written.seatRefreshRequests)

end PostgresReservations

/-! ## Releases and expiry -/

/-- What `_release` did. -/
theorem released_of_releaseInTransaction
    {order : Order}
    {state : HoldStatus}
    {announcement : Uuid}
    {db after : Database Hash}
    (accepted :
      releaseInTransaction order state announcement db = .ok after) :
    Revised (order.closedHold state) order.closedOrder
        order.releasedSeat db after ∧
      SameCommerce db after ∧
      Announces
        [seatsChangedRow announcement order (releasedSeatIds order db)]
        db after := by
  simp only [releaseInTransaction, event_eq_ok] at accepted
  obtain ⟨outbox, announced, rfl⟩ := accepted
  refine ⟨⟨rfl, rfl, ?_, ?_, ?_⟩, ⟨rfl, rfl, rfl⟩,
    announces_of_insert announced⟩
  · intro id
    simp only [Table.find?_modify]
    congr 1
    funext hold
    simp only [Order.closedHold, decide_eq_true_eq]
    split <;> rfl
  · intro id
    simp only [Table.find?_modify]
    congr 1
    funext row
    simp only [Order.closedOrder, decide_eq_true_eq]
    split <;> rfl
  · intro place
    simp only [Table.find?_modify]
    rfl

theorem change_of_releaseInTransaction
    {order : Order}
    {state : HoldStatus}
    {announcement : Uuid}
    {now : Int}
    {db after : Database Hash}
    (stored : order.StoredIn db)
    (closed : state = .released ∨ state = .expired)
    (accepted :
      releaseInTransaction order state announcement db = .ok after) :
    Change now db after := by
  obtain ⟨revised, commerce, announces⟩ :=
    released_of_releaseInTransaction accepted
  exact .released order state announcement stored closed revised
    commerce announces

/-- Releasing one order keeps every other order stored. -/
theorem storedIn_of_revised
    {holdStatus : Hold → HoldStatus}
    {orderStatus : Order → OrderStatus}
    {reseat : EventSeat → EventSeat}
    {order : Order}
    {db after : Database Hash}
    (revised : Revised holdStatus orderStatus reseat db after)
    (stored : order.StoredIn db) :
    order.StoredIn after := by
  obtain ⟨status, found⟩ := stored
  exact ⟨_, by rw [revised.orders, found]; rfl⟩

theorem storedIn_of_find?
    {order : Order}
    {id : Uuid}
    {db : Database Hash}
    (found : db.orders.find? id = some order) :
    order.StoredIn db := by
  have sameId : order.id = id := Table.key_of_find? found
  subst sameId
  exact ⟨order.status, found⟩

namespace PostgresReservations

theorem changes_of_release
    {actor : Actor}
    {holdId : Uuid}
    {ambient : Ambient}
    {db after : Database Hash}
    (accepted : release actor holdId ambient db = .ok after) :
    Changes ambient.now db after := by
  simp only [release, bind_eq_ok, require_eq_ok, ensure_eq_ok] at accepted
  obtain ⟨order, found, _, _, released⟩ := accepted
  have stored : order.StoredIn db :=
    storedIn_of_find? (Table.find?_key (List.mem_of_find?_eq_some found))
  exact .single
    (change_of_releaseInTransaction stored (Or.inl rfl) released)

theorem storedIn_of_mem_expiryRows
    {limit : Nat}
    {locked : List Uuid}
    {now : Int}
    {db : Database Hash}
    {order : Order}
    (member : order ∈ expiryRows limit locked now db) :
    order.StoredIn db := by
  have candidate :=
    (List.mem_filter.mp (List.mem_of_mem_take member)).1
  obtain ⟨id, _, found⟩ := List.mem_filterMap.mp candidate
  exact storedIn_of_find? found

theorem changes_of_expireBatch
    {limit : Nat}
    {locked : List Uuid}
    {ambient : Ambient}
    {db after : Database Hash}
    {count : Nat}
    (accepted :
      expireBatch limit locked ambient db = .ok (count, after)) :
    Changes ambient.now db after := by
  simp only [expireBatch, bind_eq_ok, ensure_eq_ok, pure_eq_ok,
    Prod.mk.injEq] at accepted
  obtain ⟨_, _, released, folded, _, rfl⟩ := accepted
  -- The rows were selected before the loop, so the loop keeps them stored.
  let orders := expiryRows limit locked ambient.now db
  let invariant (state : Database Hash) : Prop :=
    Changes ambient.now db state ∧ ∀ order ∈ orders, order.StoredIn state
  have loop : invariant released := by
    have start : invariant db :=
      ⟨.refl, fun _ member => storedIn_of_mem_expiryRows member⟩
    refine foldlM_invariant ?_ start folded
    rintro state ⟨order, index⟩ next member ⟨changes, stored⟩ accepted
    have orderMember : order ∈ orders :=
      List.fst_mem_of_mem_zipIdx member
    obtain ⟨revised, _⟩ := released_of_releaseInTransaction accepted
    exact ⟨changes.tail
        (change_of_releaseInTransaction (stored order orderMember)
          (Or.inr rfl) accepted),
      fun other otherMember =>
        storedIn_of_revised revised (stored other otherMember)⟩
  exact loop.1

end PostgresReservations

/-! ## Payments -/

/-- Repeated booking inserts add exactly the given rows, one per place. -/
theorem insertBookings_eq_ok
    {bookings after : Table Booking}
    {added : List Booking}
    (accepted : added.foldlM insertBooking bookings = .ok after) :
    (∀ {booking},
      booking ∈ after ↔ booking ∈ bookings ∨ booking ∈ added) ∧
    (∀ {first second},
      first ∈ after →
      second ∈ added →
      first.place = second.place →
      first = second) := by
  induction added generalizing bookings with
  | nil =>
      simp only [List.foldlM_nil, pure_eq_ok] at accepted
      subst after
      simp
  | cons head rest inductionHypothesis =>
      simp only [List.foldlM_cons, bind_eq_ok, insertBooking,
        ensure_eq_ok, unique_eq_ok] at accepted
      obtain ⟨middle, ⟨_, placeFree, inserted⟩, restAccepted⟩ := accepted
      obtain ⟨members, uniquePlaces⟩ := inductionHypothesis restAccepted
      have middleMembers := @Table.mem_of_insert? _ _ _ _ _ _ _ inserted
      have headMember : head ∈ after :=
        members.mpr (Or.inl (middleMembers.mpr (Or.inr rfl)))
      constructor
      · intro booking
        rw [members, middleMembers, List.mem_cons, or_assoc]
      · intro first second firstMember secondMember samePlace
        rcases List.mem_cons.mp secondMember with isHead | inRest
        · subst second
          rcases members.mp firstMember with beforeRest | inRest
          · rcases middleMembers.mp beforeRest with old | isHead
            · exact (placeFree first old samePlace).elim
            · exact isHead
          · exact (uniquePlaces headMember inRest samePlace.symm).symm
        · exact uniquePlaces firstMember inRest samePlace

theorem setOrderStatus_find?
    (orderId : Uuid)
    (status : OrderStatus)
    (db : Database Hash)
    (id : Uuid) :
    (setOrderStatus orderId status db).orders.find? id =
      (db.orders.find? id).map fun row =>
        { row with
          status := if row.id = orderId then status else row.status } := by
  simp only [setOrderStatus, Table.find?_modify, decide_eq_true_eq]
  congr 1
  funext row
  split <;> rfl

/-- Closing an order and then restating it is restating it. -/
theorem find?_restated_of_closed
    {holdStatus : Hold → HoldStatus}
    {reseat : EventSeat → EventSeat}
    {order : Order}
    {db closed : Database Hash}
    (status : OrderStatus)
    (revised : Revised holdStatus order.closedOrder reseat db closed)
    (id : Uuid) :
    (setOrderStatus order.id status closed).orders.find? id =
      (db.orders.find? id).map fun row =>
        { row with status := order.restated status row } := by
  rw [setOrderStatus_find?, revised.orders, Option.map_map]
  congr 1
  funext row
  simp only [Function.comp, Order.restated, Order.closedOrder]
  by_cases sameId : row.id = order.id
  · simp [sameId]
  · simp [sameId]

/-- The payment row after the callback's status update. -/
theorem paymentRestated_of_modify
    {payment : PaymentAttempt}
    {outcome : Outcome}
    {db : Database Hash}
    (id : Uuid) :
    (db.paymentAttempts.modify
        (fun row => decide (row.id = payment.id))
        (fun row => { row with status := outcome.status })).find? id =
      (db.paymentAttempts.find? id).map fun row =>
        if row.id = payment.id then
          { row with status := outcome.status }
        else
          row := by
  simp only [Table.find?_modify, decide_eq_true_eq]

/-- When each decision is taken. -/
theorem paymentDecision_cases
    (status : OrderStatus)
    (valid : Bool)
    (outcome : Outcome) :
    (paymentDecision status valid outcome = .book ∧
      status = .pending ∧ valid = true ∧ outcome = .succeeded) ∨
    (paymentDecision status valid outcome = .refund ∧
      status.isPaid = false ∧ outcome = .succeeded) ∨
    (paymentDecision status valid outcome = .failed ∧
      status = .pending ∧ outcome = .failed) ∨
    (paymentDecision status valid outcome = .unchanged ∧
      (status.isPaid = true ∨
        (outcome = .failed ∧ status ≠ .pending))) := by
  cases status <;> cases valid <;> cases outcome <;> decide

variable {payment : PaymentAttempt} {order : Order} {hold : Hold}

/-- What a `BOOK` decision did. -/
theorem booked_of_bookOrder
    {now : Int}
    {uuid4 : Nat → Uuid}
    {announcement : Uuid}
    {db booked after : Database Hash}
    (callable : Callable payment order hold db)
    (pending : order.status = .pending)
    (valid : validHold hold (orderSeats db order) now = true)
    (accepted :
      bookOrder order hold (orderSeats db order) uuid4 { db with
          paymentAttempts := db.paymentAttempts.modify
            (fun row => decide (row.id = payment.id))
            (fun row =>
              { row with status := Outcome.succeeded.status }) } =
        .ok booked)
    (announced :
      event announcement order.id
        (.seatsChanged order.eventId
          (some ((orderSeats db order).map EventSeat.seatId)))
        booked = .ok after) :
    Change now db after := by
  simp only [bookOrder, bind_eq_ok, event_eq_ok] at accepted
  obtain ⟨bookings, bookingsAccepted, outbox, paidInserted, rfl⟩ :=
    accepted
  obtain ⟨finalOutbox, announcementInserted, rfl⟩ :=
    event_eq_ok.mp announced
  obtain ⟨members, uniquePlaces⟩ :=
    insertBookings_eq_ok bookingsAccepted
  refine .booked payment order hold _ (uuid4 (orderSeats db order).length)
    announcement callable pending valid ⟨rfl, rfl, ?_, ?_, ?_⟩
    paymentRestated_of_modify rfl members ?_ ?_ uniquePlaces ?_
  · intro id
    simp only [Table.find?_modify, decide_eq_true_eq]
    congr 1
    funext row
    split <;> rfl
  · intro id
    simp only [Table.find?_modify, decide_eq_true_eq]
    congr 1
    funext row
    simp only [Order.restated]
    split <;> rfl
  · intro place
    simp only [Table.find?_modify, decide_eq_true_eq]
  · calc
      _ = ((orderSeats db order).zipIdx.map Prod.fst).map
            EventSeat.seatId := by
          rw [List.map_map, List.map_map]
          rfl
      _ = (orderSeats db order).map EventSeat.seatId := by
          rw [List.zipIdx_map_fst]
  · intro booking member
    obtain ⟨indexed, _, rfl⟩ := List.mem_map.mp member
    exact ⟨rfl, rfl⟩
  · have paidAnnounced :
        Announces [_] db { db with outboxEvents := outbox } :=
      announces_of_insert paidInserted
    exact paidAnnounced.append (announces_of_insert announcementInserted)

/-- What a `REFUND` decision did. -/
theorem refunded_of_refundOrder
    {now : Int}
    {uuid4 : Nat → Uuid}
    {announcement : Uuid}
    {db refunded after : Database Hash}
    (callable : Callable payment order hold db)
    (unpaid : order.status.isPaid = false)
    (accepted :
      refundOrder payment order uuid4 { db with
          paymentAttempts := db.paymentAttempts.modify
            (fun row => decide (row.id = payment.id))
            (fun row =>
              { row with status := Outcome.succeeded.status }) } =
        .ok refunded)
    (announced :
      event announcement order.id
        (.seatsChanged order.eventId
          (some ((orderSeats db order).map EventSeat.seatId)))
        refunded = .ok after) :
    Change now db after := by
  simp only [refundOrder, bind_eq_ok, event_eq_ok] at accepted
  obtain ⟨released, releaseAccepted, outbox, requestInserted, rfl⟩ :=
    accepted
  obtain ⟨finalOutbox, announcementInserted, rfl⟩ :=
    event_eq_ok.mp announced
  obtain ⟨revised, commerce, releaseAnnounced⟩ :=
    released_of_releaseInTransaction releaseAccepted
  have releasedFirst :
      Announces [seatsChangedRow (uuid4 0) order (releasedSeatIds order db)]
        db released :=
    ⟨releaseAnnounced.rows, releaseAnnounced.fresh⟩
  have restated := find?_restated_of_closed .refundPending revised
  refine .refunded payment order hold (uuid4 0) (uuid4 1) announcement
    callable unpaid
    ⟨revised.events, revised.items, revised.holds, restated,
      revised.seats⟩
    commerce.bookings ?_ ?_ ?_
  · intro id
    change released.paymentAttempts.find? id = _
    rw [commerce.payments]
    exact paymentRestated_of_modify id
  · intro id
    change ((released.refundRequests.insert? _).getD
      released.refundRequests).find? id = _
    rw [commerce.refunds]
    exact Table.find?_insert?_getD db.refundRequests _ id
  · have requestAnnounced :
        Announces [_] released { released with outboxEvents := outbox } :=
      announces_of_insert requestInserted
    refine releasedFirst.append (requestAnnounced.append ?_)
    exact announces_of_insert announcementInserted

/-- What a `FAILED` decision did. -/
theorem failed_of_failOrder
    {now : Int}
    {uuid4 : Nat → Uuid}
    {announcement : Uuid}
    {db failed after : Database Hash}
    (callable : Callable payment order hold db)
    (pending : order.status = .pending)
    (accepted :
      failOrder order uuid4 { db with
          paymentAttempts := db.paymentAttempts.modify
            (fun row => decide (row.id = payment.id))
            (fun row =>
              { row with status := Outcome.failed.status }) } =
        .ok failed)
    (announced :
      event announcement order.id
        (.seatsChanged order.eventId
          (some ((orderSeats db order).map EventSeat.seatId)))
        failed = .ok after) :
    Change now db after := by
  simp only [failOrder, bind_eq_ok, pure_eq_ok] at accepted
  obtain ⟨released, releaseAccepted, rfl⟩ := accepted
  obtain ⟨finalOutbox, announcementInserted, rfl⟩ :=
    event_eq_ok.mp announced
  obtain ⟨revised, commerce, releaseAnnounced⟩ :=
    released_of_releaseInTransaction releaseAccepted
  have releasedFirst :
      Announces [seatsChangedRow (uuid4 0) order (releasedSeatIds order db)]
        db released :=
    ⟨releaseAnnounced.rows, releaseAnnounced.fresh⟩
  have restated := find?_restated_of_closed .failed revised
  refine .failed payment order hold (uuid4 0) announcement callable
    pending
    ⟨revised.events, revised.items, revised.holds, restated,
      revised.seats⟩
    commerce.bookings commerce.refunds ?_ ?_
  · intro id
    change released.paymentAttempts.find? id = _
    rw [commerce.payments]
    exact paymentRestated_of_modify id
  · refine releasedFirst.append ?_
    exact announces_of_insert announcementInserted

/-- What a callback of an unsettled payment did. -/
theorem change_of_settle
    {payload : CallbackPayload}
    {ambient : Ambient}
    {db after : Database Hash}
    {decision : Decision}
    (paymentFound :
      db.paymentAttempts.find? payment.id = some payment)
    (unsettled : payment.status ≠ .succeeded)
    (orderFound : db.orders.find? payment.orderId = some order)
    (accepted :
      settle payment order payload ambient db = .ok (decision, after)) :
    Change ambient.now db after := by
  simp only [settle, bind_eq_ok, require_eq_ok, pure_eq_ok,
    Prod.mk.injEq] at accepted
  obtain ⟨hold, holdFound, applied, applyAccepted, announced,
    announcedAccepted, _, rfl⟩ := accepted
  have callable : Callable payment order hold db :=
    ⟨paymentFound, unsettled, orderFound, holdFound⟩
  rcases paymentDecision_cases order.status
      (validHold hold (orderSeats db order) ambient.now)
      payload.outcome with
    ⟨decided, pending, valid, outcome⟩ |
    ⟨decided, unpaid, outcome⟩ |
    ⟨decided, pending, outcome⟩ |
    ⟨decided, unchanged⟩
  · rw [decided, outcome] at applyAccepted
    exact booked_of_bookOrder callable pending valid applyAccepted
      announcedAccepted
  · rw [decided, outcome] at applyAccepted
    exact refunded_of_refundOrder callable unpaid applyAccepted
      announcedAccepted
  · rw [decided, outcome] at applyAccepted
    exact failed_of_failOrder callable pending applyAccepted
      announcedAccepted
  · rw [decided] at applyAccepted
    simp only [applyDecision, pure_eq_ok] at applyAccepted
    subst applied
    obtain ⟨outbox, inserted, rfl⟩ := event_eq_ok.mp announcedAccepted
    exact .noted payment order hold payload.outcome _ callable unchanged
      ⟨rfl, rfl, fun _ => by simp, fun _ => by simp, fun _ => by simp⟩
      rfl rfl paymentRestated_of_modify (announces_of_insert inserted)

/-- The decisions themselves leave the payment rows alone. -/
theorem payments_of_applyDecision
    {decision : Decision}
    {seats : List EventSeat}
    {uuid4 : Nat → Uuid}
    {db after : Database Hash}
    (accepted :
      applyDecision decision payment order hold seats uuid4 db =
        .ok after) :
    after.paymentAttempts = db.paymentAttempts := by
  cases decision with
  | unchanged =>
      simp only [applyDecision, pure_eq_ok] at accepted
      rw [accepted]
  | failed =>
      simp only [applyDecision, failOrder, releaseInTransaction,
        bind_eq_ok, event_eq_ok, pure_eq_ok] at accepted
      obtain ⟨_, ⟨_, _, rfl⟩, rfl⟩ := accepted
      rfl
  | book =>
      simp only [applyDecision, bookOrder, bind_eq_ok,
        event_eq_ok] at accepted
      obtain ⟨_, _, _, _, rfl⟩ := accepted
      rfl
  | refund =>
      simp only [applyDecision, refundOrder, releaseInTransaction,
        bind_eq_ok, event_eq_ok] at accepted
      obtain ⟨_, ⟨_, _, rfl⟩, _, _, rfl⟩ := accepted
      rfl

/-- A settling decision is taken on success, and records it. -/
theorem paymentRestated_of_settle
    {payload : CallbackPayload}
    {ambient : Ambient}
    {db after : Database Hash}
    {decision : Decision}
    (accepted :
      settle payment order payload ambient db = .ok (decision, after))
    (settling : decision = .book ∨ decision = .refund) :
    PaymentRestated payment .succeeded db after := by
  simp only [settle, bind_eq_ok, require_eq_ok, pure_eq_ok,
    Prod.mk.injEq] at accepted
  obtain ⟨hold, _, applied, applyAccepted, announced, announcedAccepted,
    rfl, rfl⟩ := accepted
  have succeeded : payload.outcome = .succeeded := by
    rcases paymentDecision_cases order.status
        (validHold hold (orderSeats db order) ambient.now)
        payload.outcome with
      ⟨_, _, _, outcome⟩ | ⟨_, _, outcome⟩ | ⟨decided, _⟩ | ⟨decided, _⟩
    · exact outcome
    · exact outcome
    · simp [decided] at settling
    · simp [decided] at settling
  obtain ⟨_, _, rfl⟩ := event_eq_ok.mp announcedAccepted
  intro id
  change applied.paymentAttempts.find? id = _
  rw [payments_of_applyDecision applyAccepted, succeeded]
  exact paymentRestated_of_modify id

/-- What a committed `initiate_payment` of a new key did. -/
theorem changes_of_initiatePaymentBody
    {actor : Actor}
    {orderId : Uuid}
    {outcome : Outcome}
    {delaySeconds duplicates : Nat}
    {ambient : Ambient}
    {db after : Database Hash}
    {response : Response}
    (accepted :
      PostgresReservations.initiatePaymentBody actor orderId outcome
        delaySeconds duplicates ambient db = .ok (response, after)) :
    Changes ambient.now db after := by
  simp only [PostgresReservations.initiatePaymentBody, bind_eq_ok,
    require_eq_ok] at accepted
  obtain ⟨order, orderFound, rest⟩ := accepted
  split at rest
  · simp only [pure_eq_ok, Prod.mk.injEq] at rest
    rw [← rest.2]
  · rename_i noPayment
    simp only [bind_eq_ok, require_eq_ok, ensure_eq_ok, unique_eq_ok,
      pure_eq_ok, Prod.mk.injEq] at rest
    obtain ⟨hold, _, _, payable, _, _, payments, inserted, _, rfl⟩ := rest
    have orderMember := List.mem_of_find?_eq_some orderFound
    have orderKey : order.id = orderId ∧ order.actor = actor := by
      simpa using List.find?_some orderFound
    have orderStored : db.orders.find? orderId = some order := by
      rw [← orderKey.1]
      exact Table.find?_key orderMember
    refine .single (.paymentOpened _ order
      (Table.insert?_eq_some inserted).1 ?_ orderStored payable.1 rfl
      ⟨rfl, rfl, fun _ => by simp, fun _ => by simp, fun _ => by simp⟩
      rfl rfl (Table.find?_of_insert? inserted) ⟨fun _ => by simp, by simp⟩)
    intro id other found
    have absent := List.find?_eq_none.mp noPayment other
      (Table.mem_of_find? found)
    simpa using absent

/-! ## The event consumer -/

theorem change_of_fulfilOrder
    {orderId : Uuid}
    {ambient : Ambient}
    {db after : Database Hash}
    (accepted : fulfilOrder orderId ambient db = .ok after) :
    Change ambient.now db after := by
  simp only [fulfilOrder, bind_eq_ok, require_eq_ok, ensure_eq_ok,
    event_eq_ok] at accepted
  obtain ⟨order, found, _, paid, outbox, inserted, rfl⟩ := accepted
  have sameId : order.id = orderId := Table.key_of_find? found
  subst sameId
  exact .fulfilled order _ found paid
    ⟨rfl, rfl, fun _ => by simp [setOrderStatus],
      setOrderStatus_find? order.id .fulfilled _,
      fun _ => by simp [setOrderStatus]⟩
    ⟨rfl, rfl, rfl⟩ (announces_of_insert inserted)

theorem change_of_completeRefund
    {now : Int}
    (paymentId orderId : Uuid)
    (db : Database Hash) :
    Change now db (completeRefund paymentId orderId db) := by
  refine .refundCompleted paymentId orderId
    ⟨rfl, rfl, fun _ => by simp [completeRefund], ?_,
      fun _ => by simp [completeRefund]⟩ rfl rfl ?_
    ⟨fun _ => by simp [completeRefund], by simp⟩
  · intro id
    simp only [completeRefund, Table.find?_modify, decide_eq_true_eq]
    congr 1
    funext row
    split <;> rfl
  · intro id
    simp only [completeRefund, Table.find?_modify, decide_eq_true_eq]

theorem changes_of_consumeEvent
    {envelope : Envelope}
    {ambient : Ambient}
    {db after : Database Hash}
    (accepted : consumeEvent envelope ambient db = .ok after) :
    Changes ambient.now db after := by
  simp only [consumeEvent, bind_eq_ok, ensure_eq_ok] at accepted
  obtain ⟨_, _, rest⟩ := accepted
  split at rest
  · simp only [pure_eq_ok] at rest
    rw [← rest]
  · rename_i inbox _
    have recorded :
        Changes ambient.now db { db with consumerInbox := inbox } :=
      .single (.ofPrivate db.tickets db.paymentCallbacks
        db.idempotencyRecords db.reservationCommands inbox
        db.seatRefreshRequests)
    cases message : envelope.message with
    | seatsChanged eventId seats =>
        simp only [message, requestRefresh, bind_eq_ok, ensure_eq_ok,
          pure_eq_ok] at rest
        obtain ⟨_, _, rfl⟩ := rest
        exact .single (.ofPrivate db.tickets db.paymentCallbacks
          db.idempotencyRecords db.reservationCommands inbox _)
    | orderPaid orderId =>
        simp only [message] at rest
        exact recorded.tail (change_of_fulfilOrder rest)
    | refundRequested paymentId orderId =>
        simp only [message, pure_eq_ok] at rest
        exact rest ▸ recorded.tail
          (change_of_completeRefund paymentId orderId _)
    | ticketsIssued orderId =>
        simp only [message, pure_eq_ok] at rest
        exact rest ▸ recorded
    | unknown eventType =>
        simp only [message, throw_eq_ok] at rest

/-! ## Idempotency -/

variable [DecidableEq Hash]

/-- A successful `idem` either claims a new key or reads an equal request. -/
theorem idem_eq_ok
    {digest : Request → Hash}
    {actor : Actor}
    {operation : Operation}
    {key : IdempotencyKey}
    {request : Request}
    {db after : Database Hash}
    {replay : Option Response}
    (accepted :
      idem digest actor operation key request db = .ok (replay, after)) :
    (replay = none ∧
      ∃ records,
        db.idempotencyRecords.insert? {
            actor := actor
            operation := operation
            key := key
            requestHash := digest request } = some records ∧
          after = { db with idempotencyRecords := records }) ∨
    (∃ previous,
      db.idempotencyRecords.find? (actor, operation, key) =
          some previous ∧
        previous.requestHash = digest request ∧
        replay = previous.response ∧
        after = db) := by
  unfold idem at accepted
  split at accepted
  · rename_i records inserted
    simp only [Except.ok.injEq, Prod.mk.injEq] at accepted
    exact Or.inl
      ⟨accepted.1.symm, records, inserted, accepted.2.symm⟩
  · simp only [bind_eq_ok, require_eq_ok, ensure_eq_ok, pure_eq_ok,
      Prod.mk.injEq] at accepted
    obtain ⟨previous, found, _, sameHash, rfl, rfl⟩ := accepted
    exact Or.inr ⟨previous, found, sameHash, rfl, rfl⟩

/-- The frame replays what is stored, or runs its body under a new record. -/
theorem idempotent_cases
    {digest : Request → Hash}
    {actor : Actor}
    {operation : Operation}
    {key : IdempotencyKey}
    {request : Request}
    {body : Database Hash → Except Error (Response × Database Hash)}
    {db after : Database Hash}
    {response : Response}
    (accepted :
      idempotent digest actor operation key request body db =
        .ok (response, after)) :
    after = db ∨
    ∃ claimed written remembered,
      body { db with idempotencyRecords := claimed } =
          .ok (response, written) ∧
        after = { written with idempotencyRecords := remembered } := by
  simp only [idempotent, bind_eq_ok, Prod.exists] at accepted
  obtain ⟨replay, claimed, idemAccepted, rest⟩ := accepted
  cases replay with
  | some stored =>
      simp only [pure_eq_ok, Prod.mk.injEq] at rest
      obtain ⟨_, rfl⟩ := rest
      rcases idem_eq_ok idemAccepted with
        ⟨missing, _⟩ | ⟨_, _, _, _, unchanged⟩
      · cases missing
      · exact Or.inl unchanged
  | none =>
      simp only [bind_eq_ok, pure_eq_ok, Prod.mk.injEq,
        Prod.exists] at rest
      obtain ⟨answer, written, bodyAccepted, rfl, rfl⟩ := rest
      refine Or.inr ⟨claimed.idempotencyRecords, written, _, ?_, rfl⟩
      rcases idem_eq_ok idemAccepted with
        ⟨_, _, _, rfl⟩ | ⟨_, _, _, _, rfl⟩
      · exact bodyAccepted
      · exact bodyAccepted

/-- The idempotency frame adds only bookkeeping around its body. -/
theorem changes_of_idempotent
    {digest : Request → Hash}
    {actor : Actor}
    {operation : Operation}
    {key : IdempotencyKey}
    {request : Request}
    {body : Database Hash → Except Error (Response × Database Hash)}
    {now : Int}
    {db after : Database Hash}
    {response : Response}
    (bodyChanges :
      ∀ {before response next},
        body before = .ok (response, next) →
        Changes now before next)
    (accepted :
      idempotent digest actor operation key request body db =
        .ok (response, after)) :
    Changes now db after := by
  rcases idempotent_cases accepted with
    rfl | ⟨claimed, written, remembered, bodyAccepted, rfl⟩
  · exact .refl
  · have claim : Changes now db { db with idempotencyRecords := claimed } :=
      .single (.ofRecords claimed)
    exact (claim.trans (bodyChanges bodyAccepted)).tail
      (.ofRecords remembered)

namespace PostgresReservations

variable {self : PostgresReservations Hash}

theorem changes_of_reserve
    {actor : Actor}
    {eventId : Uuid}
    {seatIds : List SeatId}
    {key : IdempotencyKey}
    {ambient : Ambient}
    {db after : Database Hash}
    {response : Response}
    (accepted :
      self.reserve actor eventId seatIds key ambient db =
        .ok (response, after)) :
    Changes ambient.now db after := by
  simp only [reserve, bind_eq_ok, require_eq_ok] at accepted
  obtain ⟨request, _, idempotentAccepted⟩ := accepted
  refine changes_of_idempotent ?_ idempotentAccepted
  intro before response next bodyAccepted
  obtain ⟨hold, order, rows, _, _, _, _, _, placed⟩ :=
    placed_of_reserveBody bodyAccepted
  exact .single (.placed hold order rows _ _ placed)

/-- The writer replays what is stored, or runs its body under a record. -/
theorem persist_cases
    {payload : CommandPayload Hash}
    {response : CommandResponse}
    {ambient : Ambient}
    {db after : Database Hash}
    {durable : Response}
    (accepted :
      self.persistReservationCommand payload response ambient db =
        .ok (durable, after)) :
    after = db ∨
    ∃ claimed,
      persistBody payload response ambient
          { db with idempotencyRecords := claimed } =
        .ok (durable, after) := by
  simp only [persistReservationCommand, bind_eq_ok,
    ensure_eq_ok] at accepted
  obtain ⟨_, _, rest⟩ := accepted
  split at rest
  · simp only [bind_eq_ok, ensure_eq_ok, pure_eq_ok,
      Prod.mk.injEq] at rest
    obtain ⟨_, _, _, rfl⟩ := rest
    exact Or.inl rfl
  · simp only [bind_eq_ok, Prod.exists] at rest
    obtain ⟨replay, claimed, idemAccepted, answered⟩ := rest
    rcases idem_eq_ok idemAccepted with
      ⟨rfl, records, _, rfl⟩ | ⟨_, _, _, rfl, rfl⟩
    · exact Or.inr ⟨records, answered⟩
    · split at answered
      · simp only [bind_eq_ok, ensure_eq_ok, pure_eq_ok,
          Prod.mk.injEq] at answered
        obtain ⟨_, _, _, rfl⟩ := answered
        exact Or.inl rfl
      · exact Or.inr ⟨_, answered⟩

theorem changes_of_persistReservationCommand
    {payload : CommandPayload Hash}
    {response : CommandResponse}
    {ambient : Ambient}
    {db after : Database Hash}
    {durable : Response}
    (accepted :
      self.persistReservationCommand payload response ambient db =
        .ok (durable, after)) :
    Changes ambient.now db after := by
  rcases persist_cases accepted with rfl | ⟨claimed, bodyAccepted⟩
  · exact .refl
  · have claim :
        Changes ambient.now db { db with idempotencyRecords := claimed } :=
      .single (.ofRecords claimed)
    exact claim.trans (changes_of_persistBody bodyAccepted)

theorem changes_of_checkout
    {actor : Actor}
    {holdId : Uuid}
    {key : IdempotencyKey}
    {ambient : Ambient}
    {db after : Database Hash}
    {response : Response}
    (accepted :
      self.checkout actor holdId key ambient db =
        .ok (response, after)) :
    Changes ambient.now db after := by
  refine changes_of_idempotent ?_ accepted
  intro before response next bodyAccepted
  simp only [checkoutBody, bind_eq_ok, require_eq_ok, ensure_eq_ok,
    pure_eq_ok, Prod.mk.injEq] at bodyAccepted
  obtain ⟨_, _, _, _, _, _, _, rfl⟩ := bodyAccepted
  exact .refl

theorem changes_of_callback
    {payload : CallbackPayload}
    {ambient : Ambient}
    {db after : Database Hash}
    {status : CallbackStatus}
    (accepted :
      self.callback payload ambient db = .ok (status, after)) :
    Changes ambient.now db after := by
  simp only [callback, bind_eq_ok, require_eq_ok,
    ensure_eq_ok] at accepted
  obtain ⟨payment, paymentFound, order, orderFound, _, _, rest⟩ := accepted
  split at rest
  · simp only [bind_eq_ok, ensure_eq_ok, pure_eq_ok,
      Prod.mk.injEq] at rest
    obtain ⟨_, _, _, rfl⟩ := rest
    exact .refl
  · simp only [bind_eq_ok, unique_eq_ok] at rest
    obtain ⟨callbacks, _, rest⟩ := rest
    have recorded :
        Changes ambient.now db
          { db with paymentCallbacks := callbacks } :=
      .single (.ofPrivate db.tickets callbacks db.idempotencyRecords
        db.reservationCommands db.consumerInbox db.seatRefreshRequests)
    split at rest
    · simp only [pure_eq_ok, Prod.mk.injEq] at rest
      exact rest.2 ▸ recorded
    · rename_i unsettled
      simp only [bind_eq_ok, pure_eq_ok, Prod.mk.injEq,
        Prod.exists] at rest
      obtain ⟨decision, settled, settleAccepted, _, rfl⟩ := rest
      have sameId : payment.id = payload.paymentId :=
        Table.key_of_find? paymentFound
      rw [← sameId] at paymentFound
      exact recorded.tail
        (change_of_settle paymentFound unsettled orderFound
          settleAccepted)

/-- Every committed call is a finite sequence of changes at its clock. -/
theorem changes_of_body
    {call : Call Hash}
    {ambient : Ambient}
    {db after : Database Hash}
    {result : Result}
    (accepted : self.body call ambient db = .ok (result, after)) :
    Changes ambient.now db after := by
  cases call with
  | release actor holdId =>
      simp only [body, bind_eq_ok, pure_eq_ok, Prod.mk.injEq] at accepted
      obtain ⟨_, accepted, _, rfl⟩ := accepted
      exact changes_of_release accepted
  | consumeEvent envelope =>
      simp only [body, bind_eq_ok, pure_eq_ok, Prod.mk.injEq] at accepted
      obtain ⟨_, accepted, _, rfl⟩ := accepted
      exact changes_of_consumeEvent accepted
  | reserve actor eventId seatIds key =>
      simp only [body, bind_eq_ok, pure_eq_ok, Prod.mk.injEq,
        Prod.exists] at accepted
      obtain ⟨_, _, accepted, _, rfl⟩ := accepted
      exact changes_of_reserve accepted
  | persistReservationCommand payload response =>
      simp only [body, bind_eq_ok, pure_eq_ok, Prod.mk.injEq,
        Prod.exists] at accepted
      obtain ⟨_, _, accepted, _, rfl⟩ := accepted
      exact changes_of_persistReservationCommand accepted
  | checkout actor holdId key =>
      simp only [body, bind_eq_ok, pure_eq_ok, Prod.mk.injEq,
        Prod.exists] at accepted
      obtain ⟨_, _, accepted, _, rfl⟩ := accepted
      exact changes_of_checkout accepted
  | expireBatch limit locked =>
      simp only [body, bind_eq_ok, pure_eq_ok, Prod.mk.injEq,
        Prod.exists] at accepted
      obtain ⟨_, _, accepted, _, rfl⟩ := accepted
      exact changes_of_expireBatch accepted
  | initiatePayment actor orderId key outcome delaySeconds duplicates =>
      simp only [body, bind_eq_ok, pure_eq_ok, Prod.mk.injEq,
        Prod.exists] at accepted
      obtain ⟨_, _, accepted, _, rfl⟩ := accepted
      exact changes_of_idempotent changes_of_initiatePaymentBody accepted
  | callback payload =>
      simp only [body, bind_eq_ok, pure_eq_ok, Prod.mk.injEq,
        Prod.exists] at accepted
      obtain ⟨_, _, accepted, _, rfl⟩ := accepted
      exact changes_of_callback accepted

/-- A transaction is a sequence of changes, empty when it rolls back. -/
theorem changes_of_transaction
    (self : PostgresReservations Hash)
    (call : Call Hash)
    (ambient : Ambient)
    (db : Database Hash) :
    Changes ambient.now db (self.transaction call ambient db).2 := by
  unfold transaction
  split
  · rename_i accepted
    exact changes_of_body accepted
  · exact .refl

end PostgresReservations

end FlashTicketing
