import FlashTicketing.PostgresRun

namespace FlashTicketing

open Relational Transition

/-!
# References between the tables

Every order has its own hold, every item belongs to an order and names a seat
of the order's event, and a seat that carries a hold is an item of the order of
that hold.  The two `CHECK` constraints of `event_seats` are part of the same
invariant: no transaction ever runs into them.
-/

variable {Hash : Type}

/-- The seat is an item of the order. -/
def HasItem
    (db : Database Hash)
    (place : Place)
    (orderId : Uuid) : Prop :=
  ∃ item ∈ db.orderItems,
    item.orderId = orderId ∧ item.place = place

/-- The referential part of the store's invariant. -/
structure Referenced (db : Database Hash) : Prop where
  orderHold :
    ∀ {id order},
      db.orders.find? id = some order →
      ∃ hold,
        db.holds.find? order.holdId = some hold ∧
          hold.eventId = order.eventId
  holdUnique :
    ∀ {firstId secondId first second},
      db.orders.find? firstId = some first →
      db.orders.find? secondId = some second →
      first.holdId = second.holdId →
      firstId = secondId
  itemOrder :
    ∀ {item},
      item ∈ db.orderItems →
      ∃ order,
        db.orders.find? item.orderId = some order ∧
          item.eventId = order.eventId
  itemSeat :
    ∀ {item},
      item ∈ db.orderItems →
      ∃ seat, db.eventSeats.find? item.place = some seat
  heldItem :
    ∀ {place seat holdId},
      db.eventSeats.find? place = some seat →
      seat.holdId = some holdId →
      ∃ orderId order,
        db.orders.find? orderId = some order ∧
          order.holdId = holdId ∧
          HasItem db place orderId
  deadlineChecked :
    ∀ {place seat},
      db.eventSeats.find? place = some seat →
      (seat.holdId = none ↔ seat.reservedUntil = none)
  bookedChecked :
    ∀ {place seat},
      db.eventSeats.find? place = some seat →
      seat.bookedOrderId = none ∨ seat.holdId = none

/-- A seat update that never hands a seat to another hold. -/
structure Unclaiming (reseat : EventSeat → EventSeat) : Prop where
  holdId :
    ∀ {seat holdId},
      (reseat seat).holdId = some holdId →
      seat.holdId = some holdId
  deadline :
    ∀ {seat : EventSeat},
      (seat.holdId = none ↔ seat.reservedUntil = none) →
      ((reseat seat).holdId = none ↔ (reseat seat).reservedUntil = none)
  booked :
    ∀ {seat : EventSeat},
      seat.bookedOrderId = none ∨ seat.holdId = none →
      (reseat seat).bookedOrderId = none ∨ (reseat seat).holdId = none

theorem unclaiming_id : Unclaiming id :=
  ⟨fun same => same, fun same => same, fun same => same⟩

theorem unclaiming_releasedSeat (order : Order) :
    Unclaiming order.releasedSeat := by
  constructor <;> intro seat <;> unfold Order.releasedSeat
  · intro holdId
    split <;> simp [EventSeat.clear]
  · split <;> simp [EventSeat.clear]
  · split <;> simp [EventSeat.clear]

theorem unclaiming_book (holdId orderId : Uuid) :
    Unclaiming fun seat =>
      if seat.holdId = some holdId then seat.book orderId else seat := by
  constructor <;> intro seat
  · intro other
    split <;> simp [EventSeat.book]
  · split <;> simp [EventSeat.book]
  · split <;> simp [EventSeat.book]

namespace Revised

variable
  {holdStatus : Hold → HoldStatus}
  {orderStatus : Order → OrderStatus}
  {reseat : EventSeat → EventSeat}
  {db after : Database Hash}

/-- A revised order is a stored order with another status. -/
theorem order_before
    (revised : Revised holdStatus orderStatus reseat db after)
    {id : Uuid}
    {order : Order}
    (found : after.orders.find? id = some order) :
    ∃ before,
      db.orders.find? id = some before ∧
        order = { before with status := orderStatus before } := by
  rw [revised.orders, Option.map_eq_some_iff] at found
  obtain ⟨before, foundBefore, rfl⟩ := found
  exact ⟨before, foundBefore, rfl⟩

theorem order_after
    (revised : Revised holdStatus orderStatus reseat db after)
    {id : Uuid}
    {order : Order}
    (found : db.orders.find? id = some order) :
    after.orders.find? id =
      some { order with status := orderStatus order } := by
  rw [revised.orders, found, Option.map_some]

theorem hold_before
    (revised : Revised holdStatus orderStatus reseat db after)
    {id : Uuid}
    {hold : Hold}
    (found : after.holds.find? id = some hold) :
    ∃ before,
      db.holds.find? id = some before ∧
        hold = { before with status := holdStatus before } := by
  rw [revised.holds, Option.map_eq_some_iff] at found
  obtain ⟨before, foundBefore, rfl⟩ := found
  exact ⟨before, foundBefore, rfl⟩

theorem hold_after
    (revised : Revised holdStatus orderStatus reseat db after)
    {id : Uuid}
    {hold : Hold}
    (found : db.holds.find? id = some hold) :
    after.holds.find? id =
      some { hold with status := holdStatus hold } := by
  rw [revised.holds, found, Option.map_some]

theorem seat_before
    (revised : Revised holdStatus orderStatus reseat db after)
    {place : Place}
    {seat : EventSeat}
    (found : after.eventSeats.find? place = some seat) :
    ∃ before,
      db.eventSeats.find? place = some before ∧ seat = reseat before := by
  rw [revised.seats, Option.map_eq_some_iff] at found
  obtain ⟨before, foundBefore, rfl⟩ := found
  exact ⟨before, foundBefore, rfl⟩

theorem seat_after
    (revised : Revised holdStatus orderStatus reseat db after)
    {place : Place}
    {seat : EventSeat}
    (found : db.eventSeats.find? place = some seat) :
    after.eventSeats.find? place = some (reseat seat) := by
  rw [revised.seats, found, Option.map_some]

/-- Revisions that claim no seat keep all references. -/
theorem referenced
    (revised : Revised holdStatus orderStatus reseat db after)
    (unclaiming : Unclaiming reseat)
    (sound : Referenced db) :
    Referenced after where
  orderHold := by
    intro id order found
    obtain ⟨before, foundBefore, rfl⟩ := revised.order_before found
    obtain ⟨hold, holdFound, sameEvent⟩ := sound.orderHold foundBefore
    exact ⟨_, revised.hold_after holdFound, sameEvent⟩
  holdUnique := by
    intro firstId secondId first second firstFound secondFound sameHold
    obtain ⟨firstBefore, firstStored, rfl⟩ :=
      revised.order_before firstFound
    obtain ⟨secondBefore, secondStored, rfl⟩ :=
      revised.order_before secondFound
    exact sound.holdUnique firstStored secondStored sameHold
  itemOrder := by
    intro item member
    rw [revised.items] at member
    obtain ⟨order, found, sameEvent⟩ := sound.itemOrder member
    exact ⟨_, revised.order_after found, sameEvent⟩
  itemSeat := by
    intro item member
    rw [revised.items] at member
    obtain ⟨seat, found⟩ := sound.itemSeat member
    exact ⟨_, revised.seat_after found⟩
  heldItem := by
    intro place seat holdId found held
    obtain ⟨before, foundBefore, rfl⟩ := revised.seat_before found
    obtain ⟨orderId, order, orderFound, sameHold, item, member, owned⟩ :=
      sound.heldItem foundBefore (unclaiming.holdId held)
    exact ⟨orderId, _, revised.order_after orderFound, sameHold, item,
      by rw [revised.items]; exact member, owned⟩
  deadlineChecked := by
    intro place seat found
    obtain ⟨before, foundBefore, rfl⟩ := revised.seat_before found
    exact unclaiming.deadline (sound.deadlineChecked foundBefore)
  bookedChecked := by
    intro place seat found
    obtain ⟨before, foundBefore, rfl⟩ := revised.seat_before found
    exact unclaiming.booked (sound.bookedChecked foundBefore)

end Revised

namespace Placed

variable
  {now : Int}
  {hold : Hold}
  {order : Order}
  {rows : List EventSeat}
  {seats : List SeatId}
  {announcement : Uuid}
  {db after : Database Hash}

/-- Orders stored before are stored unchanged. -/
theorem order_after
    (placed : Placed now hold order rows seats announcement db after)
    {id : Uuid}
    {old : Order}
    (found : db.orders.find? id = some old) :
    after.orders.find? id = some old := by
  rw [placed.orders, if_neg, found]
  rintro rfl
  rw [placed.orderFresh] at found
  cases found

theorem hold_after
    (placed : Placed now hold order rows seats announcement db after)
    {id : Uuid}
    {old : Hold}
    (found : db.holds.find? id = some old) :
    after.holds.find? id = some old := by
  rw [placed.holds, if_neg, found]
  rintro rfl
  rw [placed.holdFresh] at found
  cases found

/-- The new order is stored under its identifier. -/
theorem order_stored
    (placed : Placed now hold order rows seats announcement db after) :
    after.orders.find? order.id = some order := by
  rw [placed.orders, if_pos rfl]

theorem hold_stored
    (placed : Placed now hold order rows seats announcement db after) :
    after.holds.find? hold.id = some hold := by
  rw [placed.holds, if_pos rfl]

theorem order_cases
    (placed : Placed now hold order rows seats announcement db after)
    {id : Uuid}
    {found : Order}
    (stored : after.orders.find? id = some found) :
    (id = order.id ∧ found = order) ∨
      (id ≠ order.id ∧ db.orders.find? id = some found) := by
  rw [placed.orders] at stored
  split at stored
  · rename_i sameId
    exact Or.inl ⟨sameId, (Option.some.inj stored).symm⟩
  · rename_i differentId
    exact Or.inr ⟨differentId, stored⟩

/-- A stored seat either was requested, and is now held, or is unchanged. -/
theorem seat_cases
    (placed : Placed now hold order rows seats announcement db after)
    {place : Place}
    {seat : EventSeat}
    (found : after.eventSeats.find? place = some seat) :
    (∃ row ∈ rows,
      row.place = place ∧
        db.eventSeats.find? place = some row ∧
        seat = row.hold hold.id hold.expiresAt) ∨
    (db.eventSeats.find? place = some seat ∧
      seat.requested hold.eventId seats = false) := by
  rw [placed.seatsHeld, Option.map_eq_some_iff] at found
  obtain ⟨before, foundBefore, rfl⟩ := found
  have samePlace : before.place = place := Table.key_of_find? foundBefore
  by_cases requested : before.requested hold.eventId seats = true
  · rw [if_pos requested]
    have requestedFacts := requested_iff.mp requested
    refine Or.inl ⟨before, ?_, samePlace, foundBefore, rfl⟩
    exact placed.rowsExact.mpr
      ⟨by rw [samePlace]; exact foundBefore, requestedFacts⟩
  · rw [if_neg requested]
    exact Or.inr ⟨foundBefore, by simpa using requested⟩

/-- Every requested row is stored as held by the new hold. -/
theorem row_after
    (placed : Placed now hold order rows seats announcement db after)
    {row : EventSeat}
    (member : row ∈ rows) :
    after.eventSeats.find? row.place =
      some (row.hold hold.id hold.expiresAt) := by
  obtain ⟨found, requested⟩ := placed.rowsExact.mp member
  rw [placed.seatsHeld, found, Option.map_some,
    if_pos (requested_iff.mpr requested)]

theorem item_place
    (placed : Placed now hold order rows seats announcement db after)
    {row : EventSeat}
    (member : row ∈ rows) :
    (itemOf order hold row).place = row.place := by
  obtain ⟨_, sameEvent, _⟩ := placed.rowsExact.mp member
  simp [itemOf, OrderItem.place, EventSeat.place, sameEvent]

/-- No item of an earlier order is an item of the new one. -/
theorem item_old
    (placed : Placed now hold order rows seats announcement db after)
    (sound : Referenced db)
    {item : OrderItem}
    (member : item ∈ db.orderItems) :
    item.orderId ≠ order.id := by
  obtain ⟨owner, found, _⟩ := sound.itemOrder member
  intro sameId
  rw [sameId, placed.orderFresh] at found
  cases found

/-- A free row is unbooked, and its previous deadline has passed. -/
theorem row_free
    (placed : Placed now hold order rows seats announcement db after)
    (sound : Referenced db)
    {row : EventSeat}
    (member : row ∈ rows) :
    row.bookedOrderId = none ∧ row.reservedAfter now = false := by
  have available := placed.free member
  simp only [EventSeat.unavailableTo, Bool.or_eq_false_iff,
    Bool.and_eq_false_iff, decide_eq_false_iff_not, not_not,
    Option.isSome_eq_false_iff, Option.isNone_iff_eq_none] at available
  refine ⟨available.1, available.2.resolve_right ?_⟩
  -- The exemption for the command's own hold never applies: the hold is new.
  intro ownHold
  obtain ⟨found, _⟩ := placed.rowsExact.mp member
  obtain ⟨id, owner, ownerFound, sameHold, _⟩ :=
    sound.heldItem found ownHold
  exact placed.holdUnused ownerFound sameHold

theorem referenced
    (placed : Placed now hold order rows seats announcement db after)
    (sound : Referenced db) :
    Referenced after where
  orderHold := by
    intro id found stored
    rcases placed.order_cases stored with ⟨_, rfl⟩ | ⟨_, old⟩
    · refine ⟨hold, ?_, placed.orderEvent.symm⟩
      rw [placed.orderHold]
      exact placed.hold_stored
    · obtain ⟨oldHold, oldHoldFound, sameEvent⟩ := sound.orderHold old
      exact ⟨oldHold, placed.hold_after oldHoldFound, sameEvent⟩
  holdUnique := by
    intro firstId secondId first second firstFound secondFound sameHold
    rcases placed.order_cases firstFound with
        ⟨firstIsNew, rfl⟩ | ⟨_, firstOld⟩ <;>
      rcases placed.order_cases secondFound with
        ⟨secondIsNew, rfl⟩ | ⟨_, secondOld⟩
    · rw [firstIsNew, secondIsNew]
    · rw [placed.orderHold] at sameHold
      exact (placed.holdUnused secondOld sameHold.symm).elim
    · rw [placed.orderHold] at sameHold
      exact (placed.holdUnused firstOld sameHold).elim
    · exact sound.holdUnique firstOld secondOld sameHold
  itemOrder := by
    intro item member
    rcases placed.itemsAdded.mp member with old | ⟨row, _, rfl⟩
    · obtain ⟨owner, found, sameEvent⟩ := sound.itemOrder old
      exact ⟨owner, placed.order_after found, sameEvent⟩
    · exact ⟨order, placed.order_stored, placed.orderEvent.symm⟩
  itemSeat := by
    intro item member
    rcases placed.itemsAdded.mp member with old | ⟨row, rowMember, rfl⟩
    · obtain ⟨seat, found⟩ := sound.itemSeat old
      exact ⟨_, by rw [placed.seatsHeld, found]; rfl⟩
    · rw [placed.item_place rowMember]
      exact ⟨_, placed.row_after rowMember⟩
  heldItem := by
    intro place seat holdId found held
    rcases placed.seat_cases found with
        ⟨row, rowMember, samePlace, _, rfl⟩ | ⟨old, _⟩
    · have sameHold : hold.id = holdId := Option.some.inj held
      refine ⟨order.id, order, placed.order_stored, ?_,
        itemOf order hold row, ?_, rfl, ?_⟩
      · rw [placed.orderHold, sameHold]
      · exact placed.itemsAdded.mpr (Or.inr ⟨row, rowMember, rfl⟩)
      · rw [placed.item_place rowMember, samePlace]
    · obtain ⟨id, owner, ownerFound, sameHold, item, member, owned⟩ :=
        sound.heldItem old held
      exact ⟨id, owner, placed.order_after ownerFound, sameHold, item,
        placed.itemsAdded.mpr (Or.inl member), owned⟩
  deadlineChecked := by
    intro place seat found
    rcases placed.seat_cases found with ⟨row, _, _, _, rfl⟩ | ⟨old, _⟩
    · simp [EventSeat.hold]
    · exact sound.deadlineChecked old
  bookedChecked := by
    intro place seat found
    rcases placed.seat_cases found with
        ⟨row, rowMember, _, _, rfl⟩ | ⟨old, _⟩
    · exact Or.inl (placed.row_free sound rowMember).1
    · exact sound.bookedChecked old

end Placed

/-- Every change keeps the references. -/
theorem Referenced.change
    {now : Int}
    {db after : Database Hash}
    (sound : Referenced db)
    (change : Change now db after) :
    Referenced after := by
  cases change with
  | bookkeeping _ revised =>
      exact revised.referenced unclaiming_id sound
  | placed _ _ _ _ _ placed =>
      exact placed.referenced sound
  | released order _ _ _ _ revised =>
      exact revised.referenced (unclaiming_releasedSeat order) sound
  | paymentOpened _ _ _ _ _ _ _ revised =>
      exact revised.referenced unclaiming_id sound
  | booked _ order hold _ _ _ _ _ _ revised =>
      exact revised.referenced (unclaiming_book hold.id order.id) sound
  | refunded _ order _ _ _ _ _ _ revised =>
      exact revised.referenced (unclaiming_releasedSeat order) sound
  | failed _ order _ _ _ _ _ revised =>
      exact revised.referenced (unclaiming_releasedSeat order) sound
  | noted _ _ _ _ _ _ _ revised =>
      exact revised.referenced unclaiming_id sound
  | fulfilled _ _ _ _ revised =>
      exact revised.referenced unclaiming_id sound
  | refundCompleted _ _ revised =>
      exact revised.referenced unclaiming_id sound

/-- Callables name the rows that their identifiers point to. -/
theorem Callable.keys
    {payment : PaymentAttempt}
    {order : Order}
    {hold : Hold}
    {db : Database Hash}
    (callable : Callable payment order hold db) :
    order.id = payment.orderId ∧ hold.id = order.holdId :=
  ⟨Table.key_of_find? callable.orderFound,
    Table.key_of_find? callable.holdFound⟩

theorem Callable.order_stored
    {payment : PaymentAttempt}
    {order : Order}
    {hold : Hold}
    {db : Database Hash}
    (callable : Callable payment order hold db) :
    db.orders.find? order.id = some order := by
  rw [callable.keys.1]
  exact callable.orderFound

theorem Callable.storedIn
    {payment : PaymentAttempt}
    {order : Order}
    {hold : Hold}
    {db : Database Hash}
    (callable : Callable payment order hold db) :
    order.StoredIn db :=
  storedIn_of_find? callable.orderFound

/--
While a hold is valid for its order, the seats that carry it are exactly the
items of the order.
-/
theorem Referenced.held_iff_item
    {now : Int}
    {payment : PaymentAttempt}
    {order : Order}
    {hold : Hold}
    {db : Database Hash}
    (sound : Referenced db)
    (callable : Callable payment order hold db)
    (valid : validHold hold (orderSeats db order) now = true)
    {place : Place}
    {seat : EventSeat}
    (found : db.eventSeats.find? place = some seat) :
    seat.holdId = some hold.id ↔ HasItem db place order.id := by
  obtain ⟨orderKey, holdKey⟩ := callable.keys
  have samePlace : seat.place = place := Table.key_of_find? found
  constructor
  · intro held
    obtain ⟨id, owner, ownerFound, sameHold, item, member, owned⟩ :=
      sound.heldItem found held
    have sameId : id = payment.orderId :=
      sound.holdUnique ownerFound callable.orderFound
        (by rw [sameHold, holdKey])
    exact ⟨item, member, by rw [owned.1, sameId, orderKey], owned.2⟩
  · rintro ⟨item, member, owned⟩
    have seatMember : seat ∈ orderSeats db order :=
      mem_orderSeats.mpr
        ⟨by rw [samePlace]; exact found,
          item, member, owned.1, by rw [owned.2, samePlace]⟩
    exact ((validHold_iff.mp valid).2.2 seat seatMember).1.1

/-- Unheld, unbooked seats and nothing else refer to nothing. -/
theorem Database.Initial.referenced
    {db : Database Hash}
    (initial : db.Initial) :
    Referenced db := by
  have seatFacts :
      ∀ {place seat},
        db.eventSeats.find? place = some seat →
        seat.holdId = none ∧
          seat.reservedUntil = none ∧ seat.bookedOrderId = none :=
    fun found => initial.unheld (Table.mem_of_find? found)
  have noOrder : ∀ id, db.orders.find? id = none := by
    rw [initial.fresh]
    exact fun _ => rfl
  have noItem : ∀ item, item ∉ db.orderItems := by
    rw [initial.fresh]
    exact Table.not_mem_empty
  constructor
  · intro id order found
    simp [noOrder] at found
  · intro firstId _ _ _ found
    simp [noOrder] at found
  · intro item member
    exact (noItem item member).elim
  · intro item member
    exact (noItem item member).elim
  · intro place seat holdId found held
    simp [(seatFacts found).1] at held
  · intro place seat found
    simp [seatFacts found]
  · intro place seat found
    exact Or.inr (seatFacts found).1

end FlashTicketing
