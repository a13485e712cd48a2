import FlashTicketing.Allocation
import FlashTicketing.BookingSafety

namespace FlashTicketing

open Relational Transition Allocation

/-!
# The store allocates seats

The tables of the store describe an `Office`: a seat is owned by the order in
`booked_order_id`, or held by the order of its `hold_id` until
`reserved_until`, or free.  Every transaction is a sequence of the actions that
an office allows, at the clock reading of the transaction.  What an office
guarantees of its claimants then holds of orders.
-/

variable {Hash : Type}

/-- The order of a hold. -/
def Database.saleOf (db : Database Hash) (holdId : Uuid) : Option Uuid :=
  (db.orders.rows.find? fun order => decide (order.holdId = holdId)).map
    Order.id

/-- What a seat row says, where a hold stands for its order. -/
def EventSeat.holding
    (saleOf : Uuid → Option Uuid)
    (seat : EventSeat) :
    Holding Uuid Int :=
  match seat.bookedOrderId with
  | some orderId => .owned orderId
  | none =>
      match seat.holdId.bind saleOf, seat.reservedUntil with
      | some orderId, some deadline => .held orderId deadline
      | _, _ => .free

/-- What the tables say of every seat and every order. -/
def Database.office (db : Database Hash) : Office Place Uuid Int where
  holding place :=
    match db.eventSeats.find? place with
    | some seat => seat.holding db.saleOf
    | none => .free
  places orderId := {place | HasItem db place orderId}

theorem EventSeat.holding_eq_owned_iff
    {saleOf : Uuid → Option Uuid}
    {seat : EventSeat}
    {orderId : Uuid} :
    seat.holding saleOf = .owned orderId ↔
      seat.bookedOrderId = some orderId := by
  unfold EventSeat.holding
  cases seat.bookedOrderId with
  | some booked => simp
  | none =>
      cases seat.holdId.bind saleOf <;> cases seat.reservedUntil <;> simp

theorem EventSeat.holding_eq_held_iff
    {saleOf : Uuid → Option Uuid}
    {seat : EventSeat}
    {orderId : Uuid}
    {deadline : Int} :
    seat.holding saleOf = .held orderId deadline ↔
      seat.bookedOrderId = none ∧
        seat.holdId.bind saleOf = some orderId ∧
        seat.reservedUntil = some deadline := by
  unfold EventSeat.holding
  cases seat.bookedOrderId with
  | some booked => simp
  | none =>
      cases seat.holdId.bind saleOf <;> cases seat.reservedUntil <;> simp

/-- Only the order of its own hold matters to a seat. -/
theorem EventSeat.holding_congr
    {first second : Uuid → Option Uuid}
    {seat : EventSeat}
    (same :
      ∀ holdId, seat.holdId = some holdId → first holdId = second holdId) :
    seat.holding first = seat.holding second := by
  have sameSale : seat.holdId.bind first = seat.holdId.bind second := by
    cases isHold : seat.holdId with
    | none => rfl
    | some holdId => exact same holdId isHold
  unfold EventSeat.holding
  rw [sameSale]

theorem Database.holding_of_find?
    {db : Database Hash}
    {place : Place}
    {seat : EventSeat}
    (found : db.eventSeats.find? place = some seat) :
    db.office.holding place = seat.holding db.saleOf := by
  simp only [Database.office, found]

theorem Database.holding_of_find?_none
    {db : Database Hash}
    {place : Place}
    (absent : db.eventSeats.find? place = none) :
    db.office.holding place = .free := by
  simp only [Database.office, absent]

/-! ## Orders of holds -/

/-- The order of a hold is the stored one with that hold. -/
theorem Referenced.saleOf_eq_some_iff
    {db : Database Hash}
    {holdId orderId : Uuid}
    (sound : Referenced db) :
    db.saleOf holdId = some orderId ↔
      ∃ order,
        db.orders.find? orderId = some order ∧ order.holdId = holdId := by
  unfold Database.saleOf
  rw [Option.map_eq_some_iff]
  constructor
  · rintro ⟨order, found, rfl⟩
    have isHold := List.find?_some found
    have member : order ∈ db.orders := List.mem_of_find?_eq_some found
    exact ⟨order, Table.find?_key member, by simpa using isHold⟩
  · rintro ⟨order, found, isHold⟩
    cases first :
        db.orders.rows.find? fun order => decide (order.holdId = holdId) with
    | none =>
        have none := List.find?_eq_none.mp first order
          (Table.mem_of_find? found)
        simp [isHold] at none
    | some other =>
        have otherHold : other.holdId = holdId := by
          simpa using List.find?_some first
        have member : other ∈ db.orders :=
          List.mem_of_find?_eq_some first
        exact ⟨other, rfl,
          sound.holdUnique (Table.find?_key member) found
            (otherHold.trans isHold.symm)⟩

/-- Orders that keep their holds keep the orders of holds. -/
theorem saleOf_congr
    {db after : Database Hash}
    (sound : Referenced db)
    (soundAfter : Referenced after)
    (same :
      ∀ orderId holdId,
        (∃ order,
          after.orders.find? orderId = some order ∧
            order.holdId = holdId) ↔
        ∃ order,
          db.orders.find? orderId = some order ∧ order.holdId = holdId) :
    after.saleOf = db.saleOf := by
  funext holdId
  apply Option.ext
  intro orderId
  rw [soundAfter.saleOf_eq_some_iff, sound.saleOf_eq_some_iff]
  exact same orderId holdId

theorem Revised.saleOf_eq
    {holdStatus : Hold → HoldStatus}
    {orderStatus : Order → OrderStatus}
    {reseat : EventSeat → EventSeat}
    {db after : Database Hash}
    (revised : Revised holdStatus orderStatus reseat db after)
    (sound : Referenced db)
    (soundAfter : Referenced after) :
    after.saleOf = db.saleOf := by
  apply saleOf_congr sound soundAfter
  intro orderId holdId
  rw [revised.orders orderId]
  cases db.orders.find? orderId <;> simp

section Revision

variable
  {holdStatus : Hold → HoldStatus}
  {orderStatus : Order → OrderStatus}
  {reseat : EventSeat → EventSeat}
  {db after : Database Hash}

theorem Revised.places_eq
    (revised : Revised holdStatus orderStatus reseat db after) :
    after.office.places = db.office.places := by
  funext orderId
  ext place
  exact revised.hasItem_iff place orderId

/-- A revision rewrites what is known of a seat together with its row. -/
theorem Revised.holding_of_find?
    {place : Place}
    {seat : EventSeat}
    (revised : Revised holdStatus orderStatus reseat db after)
    (sound : Referenced db)
    (soundAfter : Referenced after)
    (found : db.eventSeats.find? place = some seat) :
    after.office.holding place = (reseat seat).holding db.saleOf := by
  rw [Database.holding_of_find? (revised.seat_after found),
    revised.saleOf_eq sound soundAfter]

theorem Revised.holding_of_find?_none
    {place : Place}
    (revised : Revised holdStatus orderStatus reseat db after)
    (absent : db.eventSeats.find? place = none) :
    after.office.holding place = .free := by
  apply Database.holding_of_find?_none
  rw [revised.seats place, absent]
  rfl

end Revision

/-- A revision that rewrites no seat is no action. -/
theorem Revised.office_same
    {holdStatus : Hold → HoldStatus}
    {orderStatus : Order → OrderStatus}
    {db after : Database Hash}
    (revised : Revised holdStatus orderStatus id db after)
    (sound : Referenced db)
    (soundAfter : Referenced after) :
    after.office = db.office := by
  apply Office.ext
  · funext place
    cases found : db.eventSeats.find? place with
    | none =>
        rw [revised.holding_of_find?_none found,
          Database.holding_of_find?_none found]
    | some seat =>
        rw [revised.holding_of_find? sound soundAfter found,
          Database.holding_of_find? found, id]
  · exact revised.places_eq

/-! ## Releases -/

/-- Within the references, a stored order is the only one of its hold. -/
theorem Referenced.saleOf_eq_some_self_iff
    {db : Database Hash}
    {order : Order}
    {holdId : Uuid}
    (sound : Referenced db)
    (stored : order.StoredIn db) :
    db.saleOf holdId = some order.id ↔ holdId = order.holdId := by
  obtain ⟨status, found⟩ := stored
  rw [sound.saleOf_eq_some_iff]
  constructor
  · rintro ⟨row, rowFound, isHold⟩
    rw [found] at rowFound
    cases rowFound
    exact isHold.symm
  · intro isHold
    exact ⟨_, found, isHold.symm⟩

/-- `_release` clears exactly the seats that its order holds. -/
theorem holding_releasedSeat
    {db : Database Hash}
    {order : Order}
    {place : Place}
    {seat : EventSeat}
    (sound : Referenced db)
    (stored : order.StoredIn db)
    (found : db.eventSeats.find? place = some seat) :
    ((∃ deadline, seat.holding db.saleOf = .held order.id deadline) ∧
      (order.releasedSeat seat).holding db.saleOf = .free) ∨
    ((∀ deadline, seat.holding db.saleOf ≠ .held order.id deadline) ∧
      order.releasedSeat seat = seat) := by
  by_cases releasable : seat.releasable order.holdId = true
  · left
    obtain ⟨isHold, unbooked⟩ :
        seat.holdId = some order.holdId ∧ seat.bookedOrderId = none := by
      simpa [EventSeat.releasable] using releasable
    have isSale :=
      (sound.saleOf_eq_some_self_iff stored).mpr (Eq.refl order.holdId)
    have dated : seat.reservedUntil ≠ none := by
      intro undated
      rw [(sound.deadlineChecked found).mpr undated] at isHold
      cases isHold
    obtain ⟨deadline, isDeadline⟩ := Option.ne_none_iff_exists'.mp dated
    refine ⟨⟨deadline, ?_⟩, ?_⟩
    · exact EventSeat.holding_eq_held_iff.mpr
        ⟨unbooked, by rw [isHold]; exact isSale, isDeadline⟩
    · simp [Order.releasedSeat, releasable, EventSeat.holding,
        EventSeat.clear, unbooked]
  · right
    constructor
    · intro deadline isHeld
      obtain ⟨unbooked, isSale, _⟩ := EventSeat.holding_eq_held_iff.mp isHeld
      obtain ⟨holdId, isHold, isOrder⟩ := Option.bind_eq_some_iff.mp isSale
      rw [sound.saleOf_eq_some_self_iff stored] at isOrder
      rw [isOrder] at isHold
      exact releasable (decide_eq_true ⟨isHold, unbooked⟩)
    · simp [Order.releasedSeat, releasable]

/-- `_release` is the order giving up its seats. -/
theorem Revised.office_released
    {order : Order}
    {holdStatus : Hold → HoldStatus}
    {orderStatus : Order → OrderStatus}
    {db after : Database Hash}
    (revised :
      Revised holdStatus orderStatus order.releasedSeat db after)
    (sound : Referenced db)
    (soundAfter : Referenced after)
    (stored : order.StoredIn db) :
    after.office = db.office.giveUp order.id := by
  apply Office.ext
  · funext place
    cases found : db.eventSeats.find? place with
    | none =>
        rw [revised.holding_of_find?_none found]
        simp [Office.giveUp, Database.holding_of_find?_none found]
    | some seat =>
        rw [revised.holding_of_find? sound soundAfter found]
        have isHolding := Database.holding_of_find? found
        rcases holding_releasedSeat sound stored found with
          ⟨⟨deadline, held⟩, freed⟩ | ⟨notHeld, same⟩
        · simp [Office.giveUp, isHolding, held, freed]
        · rcases db.office.holding_giveUp_cases order.id place with
            ⟨⟨deadline, held⟩, _⟩ | ⟨_, kept⟩
          · rw [isHolding] at held
            exact absurd held (notHeld deadline)
          · rw [kept, isHolding, same]
  · exact revised.places_eq

/-! ## Sales -/

section Sale

variable
  {now : Int}
  {payment : PaymentAttempt}
  {order : Order}
  {hold : Hold}
  {db after : Database Hash}

/-- While its hold is valid, an order holds all of its seats. -/
theorem holding_of_valid
    {place : Place}
    (sound : Referenced db)
    (callable : Callable payment order hold db)
    (valid : validHold hold (orderSeats db order) now = true)
    (item : HasItem db place order.id) :
    ∃ deadline,
      db.office.holding place = .held order.id deadline ∧ now < deadline := by
  obtain ⟨row, member, isOrder, isPlace⟩ := item
  obtain ⟨seat, found⟩ := sound.itemSeat member
  rw [isPlace] at found
  have samePlace : seat.place = place := Table.key_of_find? found
  have listed : seat ∈ orderSeats db order :=
    mem_orderSeats.mpr
      ⟨by rw [samePlace]; exact found, row, member, isOrder,
        by rw [isPlace, samePlace]⟩
  obtain ⟨⟨isHold, unbooked⟩, unexpired⟩ :=
    (validHold_iff.mp valid).2.2 seat listed
  have isSale : db.saleOf hold.id = some order.id :=
    (sound.saleOf_eq_some_self_iff callable.storedIn).mpr callable.keys.2
  cases isDeadline : seat.reservedUntil with
  | none => simp [EventSeat.reservedAfter, isDeadline] at unexpired
  | some deadline =>
      refine ⟨deadline, ?_, ?_⟩
      · rw [Database.holding_of_find? found, EventSeat.holding_eq_held_iff]
        exact ⟨unbooked, by rw [isHold]; exact isSale, isDeadline⟩
      · simpa [EventSeat.reservedAfter, isDeadline] using unexpired

/-- A `BOOK` decision is the order keeping its seats. -/
theorem Revised.office_booked
    (sound : Referenced db)
    (soundAfter : Referenced after)
    (callable : Callable payment order hold db)
    (valid : validHold hold (orderSeats db order) now = true)
    (revised :
      Revised
        (fun row => if row.id = hold.id then .consumed else row.status)
        (order.restated .paid)
        (fun seat =>
          if seat.holdId = some hold.id then seat.book order.id else seat)
        db after) :
    after.office = db.office.keep order.id := by
  apply Office.ext
  · funext place
    cases found : db.eventSeats.find? place with
    | none =>
        have notItem : place ∉ db.office.places order.id := by
          rintro ⟨row, member, isOrder, isPlace⟩
          obtain ⟨seat, seatFound⟩ := sound.itemSeat member
          rw [isPlace, found] at seatFound
          cases seatFound
        rw [Office.holding_keep_of_notMem notItem,
          Database.holding_of_find?_none found,
          revised.holding_of_find?_none found]
    | some seat =>
        rw [revised.holding_of_find? sound soundAfter found]
        have held := sound.held_iff_item callable valid found
        by_cases isHold : seat.holdId = some hold.id
        · rw [Office.holding_keep_of_mem (held.mp isHold)]
          simp [isHold, EventSeat.holding, EventSeat.book]
        · rw [Office.holding_keep_of_notMem fun item =>
              isHold (held.mpr item),
            Database.holding_of_find? found]
          simp [isHold]
  · exact revised.places_eq

/-- A valid hold has a seat. -/
theorem places_nonempty
    (valid : validHold hold (orderSeats db order) now = true) :
    (db.office.places order.id).Nonempty := by
  obtain ⟨seat, listed⟩ := List.exists_mem_of_ne_nil _
    (validHold_iff.mp valid).1
  obtain ⟨_, item, member, isOrder, isPlace⟩ := mem_orderSeats.mp listed
  exact ⟨seat.place, item, member, isOrder, isPlace⟩

end Sale

/-! ## Reservations -/

section Reservation

variable
  {now : Int}
  {hold : Hold}
  {order : Order}
  {rows : List EventSeat}
  {seats : List SeatId}
  {announcement : Uuid}
  {db after : Database Hash}

/-- A reservation gives every earlier hold the order it had. -/
theorem Placed.saleOf_of_ne
    {holdId : Uuid}
    (placed : Placed now hold order rows seats announcement db after)
    (sound : Referenced db)
    (distinct : holdId ≠ hold.id) :
    after.saleOf holdId = db.saleOf holdId := by
  apply Option.ext
  intro orderId
  rw [(placed.referenced sound).saleOf_eq_some_iff,
    sound.saleOf_eq_some_iff]
  constructor
  · rintro ⟨found, stored, isHold⟩
    rcases placed.order_cases stored with ⟨_, rfl⟩ | ⟨_, before⟩
    · exact absurd (isHold.symm.trans placed.orderHold) distinct
    · exact ⟨found, before, isHold⟩
  · rintro ⟨found, stored, isHold⟩
    exact ⟨found, placed.order_after stored, isHold⟩

/-- The places of a reservation. -/
def placesOf (rows : List EventSeat) : Set Place :=
  {place | ∃ row ∈ rows, row.place = place}

/-- A free row may be taken. -/
theorem Placed.takeable
    {place : Place}
    (placed : Placed now hold order rows seats announcement db after)
    (sound : Referenced db)
    (member : place ∈ placesOf rows) :
    (db.office.holding place).Takeable now := by
  obtain ⟨row, listed, rfl⟩ := member
  have found := (placed.rowsExact.mp listed).1
  obtain ⟨unbooked, passed⟩ := placed.row_free sound listed
  rw [Database.holding_of_find? found]
  cases isHolding : row.holding db.saleOf with
  | free => trivial
  | owned orderId =>
      rw [EventSeat.holding_eq_owned_iff, unbooked] at isHolding
      cases isHolding
  | held orderId deadline =>
      obtain ⟨_, _, isDeadline⟩ := EventSeat.holding_eq_held_iff.mp isHolding
      simp only [EventSeat.reservedAfter, isDeadline,
        decide_eq_false_iff_not, Int.not_lt] at passed
      exact passed

/-- Nothing is known anew of a seat that was not requested. -/
theorem Placed.holding_of_notMem
    {place : Place}
    (placed : Placed now hold order rows seats announcement db after)
    (sound : Referenced db)
    (notTaken : place ∉ placesOf rows) :
    after.office.holding place = db.office.holding place := by
  cases found : after.eventSeats.find? place with
  | none =>
      have absent : db.eventSeats.find? place = none := by
        rw [placed.seatsHeld place, Option.map_eq_none_iff] at found
        exact found
      rw [Database.holding_of_find?_none found,
        Database.holding_of_find?_none absent]
  | some seat =>
      rcases placed.seat_cases found with
        ⟨row, listed, isPlace, _⟩ | ⟨before, _⟩
      · exact absurd ⟨row, listed, isPlace⟩ notTaken
      · rw [Database.holding_of_find? found,
          Database.holding_of_find? before]
        apply EventSeat.holding_congr
        intro holdId isHold
        apply placed.saleOf_of_ne sound
        intro isNew
        obtain ⟨id, owner, ownerFound, sameHold, _⟩ :=
          sound.heldItem before isHold
        exact placed.holdUnused ownerFound (sameHold.trans isNew)

/-- The new order had no seat. -/
theorem Placed.unclaimed
    (placed : Placed now hold order rows seats announcement db after)
    (sound : Referenced db) :
    db.office.places order.id = ∅ := by
  ext place
  simp only [Set.mem_empty_iff_false, iff_false]
  rintro ⟨item, member, isOrder, _⟩
  exact placed.item_old sound member isOrder

theorem Placed.places_self
    (placed : Placed now hold order rows seats announcement db after)
    (sound : Referenced db) :
    after.office.places order.id = placesOf rows := by
  ext place
  constructor
  · rintro ⟨item, member, isOrder, isPlace⟩
    rcases placed.itemsAdded.mp member with old | ⟨row, listed, rfl⟩
    · exact absurd isOrder (placed.item_old sound old)
    · exact ⟨row, listed, (placed.item_place listed).symm.trans isPlace⟩
  · rintro ⟨row, listed, isPlace⟩
    exact ⟨itemOf order hold row,
      placed.itemsAdded.mpr (Or.inr ⟨row, listed, rfl⟩), rfl,
      (placed.item_place listed).trans isPlace⟩

theorem Placed.places_of_ne
    {orderId : Uuid}
    (placed : Placed now hold order rows seats announcement db after)
    (distinct : orderId ≠ order.id) :
    after.office.places orderId = db.office.places orderId := by
  ext place
  constructor
  · rintro ⟨item, member, isOrder, isPlace⟩
    rcases placed.itemsAdded.mp member with old | ⟨row, listed, rfl⟩
    · exact ⟨item, old, isOrder, isPlace⟩
    · exact absurd isOrder.symm distinct
  · rintro ⟨item, member, owned⟩
    exact ⟨item, placed.itemsAdded.mpr (Or.inl member), owned⟩

/-- A reservation is the new order taking the rows. -/
theorem Placed.office_eq
    (placed : Placed now hold order rows seats announcement db after)
    (sound : Referenced db) :
    after.office =
      db.office.take order.id (placesOf rows) hold.expiresAt := by
  have soundAfter := placed.referenced sound
  apply Office.ext
  · funext place
    by_cases taken : place ∈ placesOf rows
    · rw [Office.holding_take_of_mem taken]
      obtain ⟨row, listed, rfl⟩ := taken
      rw [Database.holding_of_find? (placed.row_after listed),
        EventSeat.holding_eq_held_iff]
      refine ⟨(placed.row_free sound listed).1, ?_, rfl⟩
      exact soundAfter.saleOf_eq_some_iff.mpr
        ⟨order, placed.order_stored, placed.orderHold⟩
    · rw [Office.holding_take_of_notMem taken]
      exact placed.holding_of_notMem sound taken
  · funext orderId
    by_cases same : orderId = order.id
    · rw [same, Office.places_take_self]
      exact placed.places_self sound
    · rw [Office.places_take_of_ne same]
      exact placed.places_of_ne same

end Reservation

/-! ## Refinement -/

/-- Every change is an action of the office, or none. -/
theorem Change.actsAt
    {now : Int}
    {db after : Database Hash}
    (sound : Referenced db)
    (change : Change now db after) :
    ActsAt now db.office after.office := by
  have soundAfter := sound.change change
  have gaveUp
      {order : Order}
      (same : after.office = db.office.giveUp order.id) :
      ActsAt now db.office after.office := by
    rw [same]
    exact .one (.giveUp : Step _ (.giveUp now order.id) _) rfl
  cases change with
  | bookkeeping _ revised => exact .idle (revised.office_same sound soundAfter)
  | paymentOpened _ _ _ _ _ _ _ revised =>
      exact .idle (revised.office_same sound soundAfter)
  | noted _ _ _ _ _ _ _ revised =>
      exact .idle (revised.office_same sound soundAfter)
  | fulfilled _ _ _ _ revised =>
      exact .idle (revised.office_same sound soundAfter)
  | refundCompleted _ _ revised =>
      exact .idle (revised.office_same sound soundAfter)
  | released _ _ _ stored _ revised =>
      exact gaveUp (revised.office_released sound soundAfter stored)
  | refunded _ _ _ _ _ _ callable _ revised =>
      exact gaveUp
        (revised.office_released sound soundAfter callable.storedIn)
  | failed _ _ _ _ _ callable _ revised =>
      exact gaveUp
        (revised.office_released sound soundAfter callable.storedIn)
  | booked payment order hold _ _ _ callable _ valid revised =>
      rw [revised.office_booked sound soundAfter callable valid]
      exact .one
        (.keep (places_nonempty valid) fun _ item =>
          holding_of_valid sound callable valid item)
        rfl
  | placed hold order rows _ _ placed =>
      rw [placed.office_eq sound]
      exact .one
        (.take (placed.unclaimed sound) fun _ member =>
          placed.takeable sound member)
        rfl

theorem Changes.actsAt
    {now : Int}
    {db after : Database Hash}
    (sound : Referenced db)
    (changes : Changes now db after) :
    Referenced after ∧ ActsAt now db.office after.office := by
  induction changes with
  | refl => exact ⟨sound, .idle rfl⟩
  | tail _ last inductionHypothesis =>
      obtain ⟨middle, earlier⟩ := inductionHypothesis
      exact ⟨middle.change last, earlier.trans (last.actsAt middle)⟩

section Runs

variable [DecidableEq Hash]

/-- The actions of a transaction happen at its clock reading. -/
def Invocation.StandsFor
    (invocation : Invocation Hash)
    (actions : List (Allocation.Action Place Uuid Int)) : Prop :=
  ∀ action ∈ actions, action.now = invocation.ambient.now

theorem PostgresReservations.simulates_office
    (self : PostgresReservations Hash) :
    Simulates self.Step Allocation.Step Referenced Database.office
      Invocation.StandsFor where
  kept sound step :=
    (Changes.actsAt sound (changes_of_step step)).1
  simulated sound step :=
    (Changes.actsAt sound (changes_of_step step)).2

omit [DecidableEq Hash] in
theorem Database.Initial.opening
    {db : Database Hash}
    (initial : db.Initial) :
    db.office.Opening where
  free := by
    intro place
    cases found : db.eventSeats.find? place with
    | none => exact Database.holding_of_find?_none found
    | some seat =>
        obtain ⟨unheld, _, unbooked⟩ :=
          initial.unheld (Table.mem_of_find? found)
        rw [Database.holding_of_find? found]
        simp [EventSeat.holding, unheld, unbooked]
  unclaimed := by
    intro orderId
    ext place
    simp only [Set.mem_empty_iff_false, iff_false]
    rintro ⟨item, member, _⟩
    rw [initial.fresh] at member
    exact Table.not_mem_empty item member

/--
The store refines an office.  Before any transaction the office is open with
nothing taken, and every run of the store is a run of the office in which each
transaction stands for actions at its own clock reading.
-/
theorem store_refines_office
    {self : PostgresReservations Hash}
    {start db : Database Hash}
    {invocations : List (Invocation Hash)}
    (initial : start.Initial)
    (run : Run self.Step start invocations db) :
    start.office.Opening ∧
    ∃ groups,
      List.Forall₂ Invocation.StandsFor invocations groups ∧
        Run Allocation.Step start.office groups.flatten db.office :=
  ⟨initial.opening, self.simulates_office.run run initial.referenced⟩

/-- The office of the small sale has sold the seat of its purchase. -/
theorem store_refines_office_smallSale :
    (smallStore.replay smallSale smallPurchase).office.holding (1, "A1") =
        .owned 101 ∧
      ∃ groups,
        List.Forall₂ Invocation.StandsFor smallPurchase groups ∧
          Run Allocation.Step smallSale.office groups.flatten
            (smallStore.replay smallSale smallPurchase).office :=
  ⟨by decide,
    (store_refines_office smallSale_initial
      (smallStore.run_replay smallSale smallPurchase)).2⟩

/-! ## What an office guarantees of orders -/

/-- The seat carries the hold of the order. -/
def HeldFor (db : Database Hash) (place : Place) (orderId : Uuid) : Prop :=
  ∃ seat order,
    db.eventSeats.find? place = some seat ∧
      db.orders.find? orderId = some order ∧
      seat.holdId = some order.holdId

/-- An item of the order is neither held for it nor booked by it. -/
def LostSeat (db : Database Hash) (orderId : Uuid) : Prop :=
  ∃ place,
    HasItem db place orderId ∧
      ¬ BookedBy db place orderId ∧ ¬ HeldFor db place orderId

omit [DecidableEq Hash] in
theorem Database.holding_eq_owned_iff
    {db : Database Hash}
    {place : Place}
    {orderId : Uuid} :
    db.office.holding place = .owned orderId ↔
      BookedBy db place orderId := by
  unfold BookedBy
  cases found : db.eventSeats.find? place with
  | none => simp [Database.holding_of_find?_none found]
  | some seat =>
      simp [Database.holding_of_find? found,
        EventSeat.holding_eq_owned_iff]

omit [DecidableEq Hash] in
theorem LostSeat.lost
    {db : Database Hash}
    {orderId : Uuid}
    (sound : Referenced db)
    (lost : LostSeat db orderId) :
    Lost orderId db.office := by
  obtain ⟨place, item, notBooked, notHeld⟩ := lost
  refine ⟨place, item, ?_⟩
  intro isWith
  cases isHolding : db.office.holding place with
  | free =>
      rw [isHolding] at isWith
      exact isWith
  | owned owner =>
      rw [isHolding] at isWith
      have isOwner : owner = orderId := isWith
      rw [isOwner] at isHolding
      exact notBooked (Database.holding_eq_owned_iff.mp isHolding)
  | held holder deadline =>
      rw [isHolding] at isWith
      have isHolder : holder = orderId := isWith
      rw [isHolder] at isHolding
      cases found : db.eventSeats.find? place with
      | none =>
          rw [Database.holding_of_find?_none found] at isHolding
          cases isHolding
      | some seat =>
          rw [Database.holding_of_find? found] at isHolding
          obtain ⟨_, isSale, _⟩ :=
            EventSeat.holding_eq_held_iff.mp isHolding
          obtain ⟨holdId, isHold, isOrder⟩ :=
            Option.bind_eq_some_iff.mp isSale
          obtain ⟨order, stored, sameHold⟩ :=
            sound.saleOf_eq_some_iff.mp isOrder
          exact notHeld ⟨seat, order, found, stored, by rw [isHold, sameHold]⟩

/--
An order is sold with all of its seats or with none.  Once any of them has
gone, because it was released or taken over, the order is never paid and none
of its seats is ever booked for it.
-/
theorem orders_sold_whole
    {self : PostgresReservations Hash}
    {start db final : Database Hash}
    {early late : List (Invocation Hash)}
    (initial : start.Initial)
    (earlyRun : Run self.Step start early db)
    (lateRun : Run self.Step db late final)
    (orderId : Uuid) :
    ((∃ place, BookedBy db place orderId) →
      ∀ place, HasItem db place orderId → BookedBy db place orderId) ∧
    (LostSeat db orderId →
      ¬ IsPaid final orderId ∧ ∀ place, ¬ BookedBy final place orderId) := by
  have sound : Referenced db :=
    earlyRun.invariant initial.referenced fun holds step =>
      self.simulates_office.kept holds step
  obtain ⟨_, _, earlyOffice⟩ :=
    self.simulates_office.run earlyRun initial.referenced
  obtain ⟨_, _, lateOffice⟩ := self.simulates_office.run lateRun sound
  have whole : Whole db.office := initial.opening.whole.run earlyOffice
  have safe : BookingSafe final :=
    PostgresReservations.run_invariant (fun holds => holds.change)
      (earlyRun.append lateRun) initial.bookingSafe
  constructor
  · rintro ⟨place, booked⟩ other item
    rw [← Database.holding_eq_owned_iff] at booked ⊢
    exact whole.allOwned booked other item
  · intro lostSeat
    have lost := lostSeat.lost sound
    have notBooked : ∀ place, ¬ BookedBy final place orderId := by
      intro place booked
      exact never_owned_of_lost whole lost lateOffice place
        (Database.holding_eq_owned_iff.mpr booked)
    refine ⟨?_, notBooked⟩
    intro paid
    obtain ⟨place, item, _⟩ := lost.run lateOffice
    exact notBooked place
      ((safe.booked_iff place orderId).mpr
        ((safe.booking_iff place orderId).mpr ⟨paid, item⟩))

end Runs

/-- Reserve one seat, open its payment and release the hold. -/
def smallRetreat : List (Invocation Request) :=
  [⟨.reserve "alice" 1 ["A1"] "first", smallAmbient 1 100⟩,
    ⟨.initiatePayment "alice" 101 "pay" .succeeded 0 1,
      smallAmbient 2 200⟩,
    ⟨.release "alice" 100, smallAmbient 3 300⟩]

/-- The seat that was released. -/
def smallReleasedSeat : EventSeat where
  eventId := 1
  seatId := "A1"
  price := 500
  version := 2

theorem smallRetreat_lostSeat :
    LostSeat (smallStore.replay smallSale smallRetreat) 101 := by
  have found :
      (smallStore.replay smallSale smallRetreat).eventSeats.find? (1, "A1") =
        some smallReleasedSeat := by
    decide
  refine ⟨(1, "A1"),
    ⟨{ orderId := 101, eventId := 1, seatId := "A1", price := 500 },
      by decide, rfl, rfl⟩, ?_, ?_⟩
  · rintro ⟨seat, seatFound, booked⟩
    rw [found] at seatFound
    cases seatFound
    cases booked
  · rintro ⟨seat, order, seatFound, _, held⟩
    rw [found] at seatFound
    cases seatFound
    cases held

/-- The captured payment of a released order does not pay it. -/
theorem orders_sold_whole_smallRetreat :
    LostSeat (smallStore.replay smallSale smallRetreat) 101 ∧
      ¬ IsPaid
        (smallStore.replay (smallStore.replay smallSale smallRetreat)
          (smallPurchase.drop 2))
        101 :=
  ⟨smallRetreat_lostSeat,
    ((orders_sold_whole smallSale_initial
      (smallStore.run_replay smallSale smallRetreat)
      (smallStore.run_replay _ (smallPurchase.drop 2)) 101).2
        smallRetreat_lostSeat).1⟩

end FlashTicketing
