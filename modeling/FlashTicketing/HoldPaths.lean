import FlashTicketing.IdempotencyKeys

namespace FlashTicketing

open Relational Checked

/-!
# The two ways to a hold

`reserve` and `persist_reservation_command` are written apart.  Both make the
same checks in the same order, but for the deadline of a command, which has not
passed, and for seats of its own hold, of which there are none.
-/

variable {Hash : Type}

/-! ## Checks and writes -/

/-- The checks that precede a new hold, and what they read. -/
def holdChecks
    (eventId : Uuid)
    (seats : List SeatId)
    (now : Int)
    (db : Database Hash) :
    Except Error (Event × List EventSeat) := do
  let sale ← require (db.events.find? eventId) (fail .eventNotFound 404)
  let rows := seatRows db eventId seats
  ensure (sale.saleStarts ≤ now ∧ now < sale.saleEnds) (fail .saleClosed)
  ensure (rows.length = seats.length) (fail .seatNotFound 404)
  ensure (∀ row ∈ rows, row.unavailable now = false)
    (fail .seatUnavailable)
  pure (sale, rows)

/-- A fresh announcement is appended. -/
theorem event_fresh
    {db : Database Hash}
    {id : Uuid}
    (aggregate : Uuid)
    (message : Message)
    (fresh : db.outboxEvents.find? id = none) :
    ∃ outboxEvents,
      event id aggregate message db =
          .ok { db with outboxEvents := outboxEvents } ∧
        outboxEvents.rows =
          db.outboxEvents.rows ++
            [{ id := id, aggregateId := aggregate, message := message }] := by
  let row : OutboxEvent :=
    { id := id, aggregateId := aggregate, message := message }
  have absent : db.outboxEvents.find? (Keyed.key row) = none :=
    fresh
  obtain ⟨outboxEvents, inserted⟩ := Table.insert?_isSome absent
  refine ⟨outboxEvents, ?_, (Table.insert?_eq_some inserted).2⟩
  change (unique (db.outboxEvents.insert? row) >>= _) = _
  rw [inserted]
  rfl

/-- Placing rows does not touch keys, commands or announcements. -/
theorem placeRows_frame
    {hold : Hold}
    {order : Order}
    {rows : List EventSeat}
    {seats : List SeatId}
    {db placed : Database Hash}
    (accepted : placeRows hold order rows seats db = .ok placed) :
    placed.idempotencyRecords = db.idempotencyRecords ∧
      placed.reservationCommands = db.reservationCommands ∧
      placed.outboxEvents = db.outboxEvents := by
  simp only [placeRows, bind_eq_ok, pure_eq_ok] at accepted
  obtain ⟨_, _, _, _, _, _, _, _, rfl⟩ := accepted
  exact ⟨rfl, rfl, rfl⟩

/-! ## Both bodies -/

namespace PostgresReservations

variable (self : PostgresReservations Hash)

/-- The body of `reserve` places a hold after the checks. -/
theorem reserveBody_eq
    (actor : Actor)
    (eventId : Uuid)
    (seats : List SeatId)
    (ambient : Ambient)
    (db : Database Hash) :
    self.reserveBody actor eventId seats ambient db =
      (holdChecks eventId seats ambient.now db >>= fun checked =>
        placeHold
          { id := ambient.uuid4 0
            actor := actor
            eventId := eventId
            expiresAt := addSeconds ambient.now self.holdSeconds
            status := .active }
          { id := ambient.uuid4 1
            actor := actor
            holdId := ambient.uuid4 0
            eventId := eventId
            total := (checked.2.map EventSeat.price).sum
            currency := checked.1.currency
            status := .pending
            createdAt := ambient.insertedAt }
          checked.2 seats (ambient.uuid4 2) db >>= fun placed =>
        pure (.reserved (ambient.uuid4 0) (ambient.uuid4 1)
          (addSeconds ambient.now self.holdSeconds)
          (checked.2.map EventSeat.price).sum checked.1.currency seats,
          placed)) := by
  simp only [reserveBody, holdChecks, bind_assoc, pure_bind]

end PostgresReservations

/-- Seats of another hold are available to a command as to anyone. -/
theorem unavailableTo_of_ne
    {seat : EventSeat}
    {holdId : Uuid}
    (other : seat.holdId ≠ some holdId)
    (now : Int) :
    seat.unavailableTo now holdId = seat.unavailable now := by
  simp [EventSeat.unavailableTo, EventSeat.unavailable, other]

/-- The order that the writer inserts for a command. -/
def CommandPayload.order
    (payload : CommandPayload Hash)
    (checked : Event × List EventSeat)
    (insertedAt : Int) : Order where
  id := payload.orderId
  actor := payload.actor
  holdId := payload.holdId
  eventId := payload.eventId
  total := (checked.2.map EventSeat.price).sum
  currency := checked.1.currency
  status := .pending
  createdAt := insertedAt

/-- What the writer stores for a command. -/
def durableResponse
    (payload : CommandPayload Hash)
    (response : CommandResponse)
    (checked : Event × List EventSeat) : CommandResponse :=
  { response with
    total := (checked.2.map EventSeat.price).sum
    currency := checked.1.currency
    expiresAt := payload.expiresAt
    persistenceStatus := .durable }

/-- The writes of the writer once the hold is placed. -/
def storeCommand
    (payload : CommandPayload Hash)
    (durable : CommandResponse)
    (db : Database Hash) :
    Except Error (Response × Database Hash) := do
  let db :=
    remember payload.actor .hold payload.idempotencyKey (.command durable) db
  ensure
    (∀ command ∈ db.reservationCommands.rows,
      command.holdId ≠ payload.holdId ∧
        command.orderId ≠ payload.orderId)
    .uniqueViolation
  let reservationCommands ← unique (db.reservationCommands.insert? {
    commandId := payload.commandId
    actor := payload.actor
    idempotencyKey := payload.idempotencyKey
    requestHash := payload.requestHash
    eventId := payload.eventId
    holdId := payload.holdId
    orderId := payload.orderId
    response := .command durable })
  pure (.command durable, { db with
    reservationCommands := reservationCommands })

/-- The body of the writer makes the checks of `reserve`. -/
theorem persistBody_eq
    {payload : CommandPayload Hash}
    {db : Database Hash}
    {ambient : Ambient}
    (sorted : sortedSeats payload.seatIds = payload.seatIds)
    (unexpired : ambient.now < payload.expiresAt)
    (fresh :
      ∀ seat ∈ db.eventSeats, seat.holdId ≠ some payload.holdId)
    (response : CommandResponse) :
    PostgresReservations.persistBody payload response ambient db =
      (holdChecks payload.eventId payload.seatIds ambient.now db >>=
        fun checked =>
        placeHold payload.hold (payload.order checked ambient.insertedAt)
          checked.2 payload.seatIds (ambient.uuid4 0) db >>=
        storeCommand payload (durableResponse payload response checked)) := by
  have available :
      (∀ row ∈ seatRows db payload.eventId payload.seatIds,
        row.unavailableTo ambient.now payload.holdId = false) ↔
      ∀ row ∈ seatRows db payload.eventId payload.seatIds,
        row.unavailable ambient.now = false := by
    apply forall₂_congr
    intro row member
    rw [unavailableTo_of_ne]
    apply fresh
    exact Table.mem_of_find? (mem_seatRows.mp member).1
  simp only [PostgresReservations.persistBody, holdChecks, bind_assoc,
    pure_bind, sorted, available, ensure_bind_of_true unexpired]
  rfl

/-! ## Fresh identifiers -/

/-- No table mentions the identifiers of the hold and of its order. -/
structure FreshIds
    (holdId orderId : Uuid)
    (db : Database Hash) : Prop where
  holds : db.holds.find? holdId = none
  orders : db.orders.find? orderId = none
  orderHolds : ∀ order ∈ db.orders.rows, order.holdId ≠ holdId
  orderItems : ∀ item ∈ db.orderItems, item.orderId ≠ orderId
  eventSeats : ∀ seat ∈ db.eventSeats, seat.holdId ≠ some holdId
  commands :
    ∀ command ∈ db.reservationCommands.rows,
      command.holdId ≠ holdId ∧ command.orderId ≠ orderId

/-- The seats of one event have different names. -/
theorem seatRows_seatIds_nodup
    (db : Database Hash)
    (eventId : Uuid)
    (seats : List SeatId) :
    ((seatRows db eventId seats).map EventSeat.seatId).Nodup := by
  have places := seatRows_places_nodup db eventId seats
  apply places.of_map.map_on
  intro first firstMember other otherMember sameSeat
  apply List.inj_on_of_nodup_map places firstMember otherMember
  have firstEvent := (mem_seatRows.mp firstMember).2.1
  have otherEvent := (mem_seatRows.mp otherMember).2.1
  exact Prod.ext (firstEvent.trans otherEvent.symm) sameSeat

/-- No constraint refuses the rows of a fresh hold. -/
theorem placeRows_fresh
    {hold : Hold}
    {order : Order}
    {db : Database Hash}
    (fresh : FreshIds hold.id order.id db)
    (orderHold : order.holdId = hold.id)
    (seats : List SeatId) :
    ∃ placed,
      placeRows hold order (seatRows db hold.eventId seats) seats db =
        .ok placed := by
  have holdAbsent : db.holds.find? (Keyed.key hold) = none :=
    fresh.holds
  have orderAbsent : db.orders.find? (Keyed.key order) = none :=
    fresh.orders
  obtain ⟨holds, holdInserted⟩ := Table.insert?_isSome holdAbsent
  obtain ⟨orders, orderInserted⟩ := Table.insert?_isSome orderAbsent
  let items : List OrderItem :=
    (seatRows db hold.eventId seats).map fun row => {
      orderId := order.id
      eventId := hold.eventId
      seatId := row.seatId
      price := row.price }
  have itemKeys :
      (items.map (Keyed.key : OrderItem → Uuid × SeatId)).Nodup := by
    have sameKeys :
        items.map (Keyed.key : OrderItem → Uuid × SeatId) =
          ((seatRows db hold.eventId seats).map EventSeat.seatId).map
            (Prod.mk order.id) := by
      rw [List.map_map, List.map_map]
      rfl
    rw [sameKeys]
    exact (seatRows_seatIds_nodup db hold.eventId seats).map
      (Prod.mk_right_injective order.id)
  have itemsAbsent :
      ∀ item ∈ items, db.orderItems.find? (Keyed.key item) = none := by
    intro item member
    obtain ⟨row, _, rfl⟩ := List.mem_map.mp member
    apply Table.find?_eq_none_iff.mpr
    intro other present sameKey
    exact fresh.orderItems other present (congrArg Prod.fst sameKey)
  obtain ⟨orderItems, itemsInserted⟩ :=
    Table.insertAll?_isSome itemKeys itemsAbsent
  have unusedHold :
      ∀ other ∈ db.orders.rows, other.holdId ≠ order.holdId := by
    rw [orderHold]
    exact fresh.orderHolds
  simp only [placeRows, bind_eq_ok, unique_eq_ok, ensure_eq_ok, pure_eq_ok]
  exact ⟨_, holds, holdInserted, (), unusedHold, orders, orderInserted,
    orderItems, itemsInserted, rfl⟩

/-- Every failed check is a `Failure`. -/
theorem holdChecks_error
    {eventId : Uuid}
    {seats : List SeatId}
    {now : Int}
    {db : Database Hash}
    {error : Error}
    (rejected : holdChecks eventId seats now db = .error error) :
    ∃ code status, error = fail code status := by
  unfold holdChecks at rejected
  cases found : db.events.find? eventId with
  | none =>
      rw [found] at rejected
      cases rejected
      exact ⟨_, _, rfl⟩
  | some sale =>
      rw [found, require_some, ok_bind] at rejected
      by_cases onSale : sale.saleStarts ≤ now ∧ now < sale.saleEnds
      · rw [ensure_bind_of_true onSale] at rejected
        by_cases counted :
            (seatRows db eventId seats).length = seats.length
        · rw [ensure_bind_of_true counted] at rejected
          by_cases free :
              ∀ row ∈ seatRows db eventId seats,
                row.unavailable now = false
          · rw [ensure_bind_of_true free] at rejected
            cases rejected
          · rw [ensure_bind_of_not free] at rejected
            cases rejected
            exact ⟨_, _, rfl⟩
        · rw [ensure_bind_of_not counted] at rejected
          cases rejected
          exact ⟨_, _, rfl⟩
      · rw [ensure_bind_of_not onSale] at rejected
        cases rejected
        exact ⟨_, _, rfl⟩

/-- Accepted checks have read the seats. -/
theorem holdChecks_rows
    {eventId : Uuid}
    {seats : List SeatId}
    {now : Int}
    {db : Database Hash}
    {checked : Event × List EventSeat}
    (accepted : holdChecks eventId seats now db = .ok checked) :
    checked.2 = seatRows db eventId seats := by
  simp only [holdChecks, bind_eq_ok, pure_eq_ok] at accepted
  obtain ⟨_, _, _, _, _, _, _, _, rfl⟩ := accepted
  rfl

/-! ## Keys -/

/-- The answer that `reserve` stores for the hold of a command. -/
def CommandResponse.asReserved (response : CommandResponse) : Response :=
  .reserved response.holdId response.orderId response.expiresAt
    response.total response.currency response.seats

/-- An unused key is claimed. -/
theorem idem_unused
    [DecidableEq Hash]
    {actor : Actor}
    {operation : Operation}
    {key : IdempotencyKey}
    {db : Database Hash}
    (digest : Request → Hash)
    (request : Request)
    (unused :
      db.idempotencyRecords.find? (actor, operation, key) = none) :
    ∃ records,
      db.idempotencyRecords.insert? {
          actor := actor
          operation := operation
          key := key
          requestHash := digest request } = some records ∧
        idem digest actor operation key request db =
          .ok (none, { db with idempotencyRecords := records }) := by
  let record : IdempotencyRecord Hash := {
    actor := actor
    operation := operation
    key := key
    requestHash := digest request }
  have absent : db.idempotencyRecords.find? (Keyed.key record) = none :=
    unused
  obtain ⟨records, inserted⟩ := Table.insert?_isSome absent
  refine ⟨records, inserted, ?_⟩
  unfold idem
  rw [inserted]

/-- A fresh command is stored and its answer remembered. -/
theorem storeCommand_fresh
    {payload : CommandPayload Hash}
    {db : Database Hash}
    (unused : db.reservationCommands.find? payload.commandId = none)
    (fresh :
      ∀ command ∈ db.reservationCommands.rows,
        command.holdId ≠ payload.holdId ∧
          command.orderId ≠ payload.orderId)
    (durable : CommandResponse) :
    ∃ commands row,
      storeCommand payload durable db =
          .ok (.command durable, { remember payload.actor .hold
            payload.idempotencyKey (.command durable) db with
              reservationCommands := commands }) ∧
        commands.find? payload.commandId = some row ∧
        row.response = .command durable := by
  let row : ReservationCommand Hash := {
    commandId := payload.commandId
    actor := payload.actor
    idempotencyKey := payload.idempotencyKey
    requestHash := payload.requestHash
    eventId := payload.eventId
    holdId := payload.holdId
    orderId := payload.orderId
    response := .command durable }
  have absent : db.reservationCommands.find? (Keyed.key row) = none :=
    unused
  obtain ⟨commands, inserted⟩ := Table.insert?_isSome absent
  refine ⟨commands, row, ?_, ?_, rfl⟩
  · simp only [storeCommand, bind_eq_ok, unique_eq_ok, ensure_eq_ok,
      pure_eq_ok]
    exact ⟨(), fresh, commands, inserted, rfl⟩
  · exact (Table.find?_of_insert? inserted (Keyed.key row)).trans
      (if_pos rfl)

/-- A fresh hold is placed, whatever fresh identifier announces it. -/
theorem placeHold_fresh
    {hold : Hold}
    {order : Order}
    {rows : List EventSeat}
    {seats : List SeatId}
    {db : Database Hash}
    (fresh : FreshIds hold.id order.id db)
    (orderHold : order.holdId = hold.id)
    (rowsRead : rows = seatRows db hold.eventId seats) :
    ∃ placed,
      placeRows hold order rows seats db = .ok placed ∧
        ∀ announcement,
          db.outboxEvents.find? announcement = none →
          ∃ outboxEvents,
            placeHold hold order rows seats announcement db =
              .ok { placed with outboxEvents := outboxEvents } ∧
            outboxEvents.rows =
              db.outboxEvents.rows ++ [{
                id := announcement
                aggregateId := order.id
                message := .seatsChanged hold.eventId (some seats) }] := by
  subst rowsRead
  obtain ⟨placed, accepted⟩ := placeRows_fresh fresh orderHold seats
  refine ⟨placed, accepted, ?_⟩
  intro announcement unused
  rw [placeHold, accepted, ok_bind]
  rw [← (placeRows_frame accepted).2.2] at unused ⊢
  exact event_fresh _ _ unused

namespace PostgresReservations

variable [DecidableEq Hash] (self : PostgresReservations Hash)

/-- `reserve` under an unused key runs its body. -/
theorem reserve_unused
    {command : NewCommand}
    {db : Database Hash}
    {records : Table (IdempotencyRecord Hash)}
    (seatsNodup : command.seatIds.Nodup)
    (seatsCount :
      1 ≤ command.seatIds.length ∧ command.seatIds.length ≤ 8)
    (claimed :
      idem self.digest command.actor .hold command.key command.request db =
        .ok (none, { db with idempotencyRecords := records }))
    (ambient : Ambient) :
    self.reserve command.actor command.eventId command.seatIds command.key
        ambient db =
      (self.reserveBody command.actor command.eventId command.seats ambient
          { db with idempotencyRecords := records } >>= fun answered =>
        pure (answered.1, remember command.actor .hold command.key
          answered.1 answered.2)) := by
  have request :
      reserveRequest command.eventId command.seatIds =
        some command.request := by
    have same : command.seatIds.dedup = command.seatIds :=
      List.dedup_eq_self.mpr seatsNodup
    simp only [reserveRequest, length_sortedSeats, same, true_and,
      if_pos seatsCount]
    rw [NewCommand.request, NewCommand.seats, same]
  rw [reserve, request, require_some, ok_bind, idempotent, claimed]
  rfl

/-- The writer under an unused key and command runs its body. -/
theorem persist_unused
    {payload : CommandPayload Hash}
    {db : Database Hash}
    {records : Table (IdempotencyRecord Hash)}
    (sameHash : self.digest payload.request = payload.requestHash)
    (unused : db.reservationCommands.find? payload.commandId = none)
    (claimed :
      idem self.digest payload.actor .hold payload.idempotencyKey
          payload.request db =
        .ok (none, { db with idempotencyRecords := records }))
    (response : CommandResponse)
    (ambient : Ambient) :
    self.persistReservationCommand payload response ambient db =
      persistBody payload response ambient
        { db with idempotencyRecords := records } := by
  rw [persistReservationCommand, ensure_bind_of_true sameHash, unused]
  simp only [claimed, ok_bind]

end PostgresReservations

/-! ## Agreement -/

/-- The rows of a hold are the same in both databases. -/
structure SameHold (reserved persisted : Database Hash) : Prop where
  holds : persisted.holds = reserved.holds
  orders : persisted.orders = reserved.orders
  orderItems : persisted.orderItems = reserved.orderItems
  eventSeats : persisted.eventSeats = reserved.eventSeats

/-- One announcement of the command's seats was appended. -/
def NewCommand.Announced
    (command : NewCommand)
    (id : Uuid)
    (db after : Database Hash) : Prop :=
  after.outboxEvents.rows =
    db.outboxEvents.rows ++ [{
      id := id
      aggregateId := command.orderId
      message := .seatsChanged command.eventId (some command.seats) }]

/-- The answer stored under the key of the command. -/
def NewCommand.Stored
    (command : NewCommand)
    (response : Response)
    (after : Database Hash) : Prop :=
  ∃ record,
    after.idempotencyRecords.find?
        (command.actor, .hold, command.key) = some record ∧
      record.response = some response

/-- What the two transactions read from outside, for one and the same hold. -/
structure NewCommand.SameInputs
    (command : NewCommand)
    (reserving writing : Ambient)
    (db : Database Hash) : Prop where
  requestedAt : command.requestedAt = reserving.now
  now : writing.now = reserving.now
  insertedAt : writing.insertedAt = reserving.insertedAt
  holdId : reserving.uuid4 0 = command.holdId
  orderId : reserving.uuid4 1 = command.orderId
  reservingEvent : db.outboxEvents.find? (reserving.uuid4 2) = none
  writingEvent : db.outboxEvents.find? (writing.uuid4 0) = none

section Agreement

variable
  (self : PostgresReservations Hash)
  {intake : RedisReservationIntake Hash}
  {command : NewCommand}
  {reserving writing : Ambient}
  {db : Database Hash}

/-- `reserve` makes the hold and the order of the command. -/
theorem PostgresReservations.reserveBody_payload
    (sameSeconds : intake.holdSeconds = self.holdSeconds)
    (inputs : command.SameInputs reserving writing db)
    (redisNow : Int)
    (total : Nat)
    (currency : Currency)
    (claimed : Database Hash) :
    self.reserveBody command.actor command.eventId command.seats reserving
        claimed =
      (holdChecks command.eventId command.seats reserving.now claimed >>=
        fun checked =>
        placeHold (intake.payload command).hold
          ((intake.payload command).order checked reserving.insertedAt)
          checked.2 command.seats (reserving.uuid4 2) claimed >>=
        fun placed =>
        pure ((durableResponse (intake.payload command)
          (intake.response command redisNow total currency)
          checked).asReserved, placed)) := by
  rw [self.reserveBody_eq, inputs.holdId, inputs.orderId, ← sameSeconds,
    ← inputs.requestedAt]
  rfl

/-- The writer makes them too. -/
theorem persistBody_payload
    {claimed : Database Hash}
    (sameSeconds : intake.holdSeconds = self.holdSeconds)
    (positive : 1 ≤ self.holdSeconds)
    (fresh : FreshIds command.holdId command.orderId claimed)
    (inputs : command.SameInputs reserving writing db)
    (response : CommandResponse) :
    PostgresReservations.persistBody (intake.payload command) response
        writing claimed =
      (holdChecks command.eventId command.seats reserving.now claimed >>=
        fun checked =>
        placeHold (intake.payload command).hold
          ((intake.payload command).order checked reserving.insertedAt)
          checked.2 command.seats (writing.uuid4 0) claimed >>=
        storeCommand (intake.payload command)
          (durableResponse (intake.payload command) response checked)) := by
  have sorted :
      sortedSeats (intake.payload command).seatIds =
        (intake.payload command).seatIds :=
    sortedSeats_sortedSeats _
  -- The deadline lies ahead of the clock that both transactions read.
  have unexpired : writing.now < (intake.payload command).expiresAt := by
    change writing.now < addSeconds command.requestedAt intake.holdSeconds
    rw [inputs.now, inputs.requestedAt, sameSeconds]
    unfold addSeconds second
    omega
  rw [persistBody_eq sorted unexpired fresh.eventSeats, inputs.now,
    inputs.insertedAt]
  rfl

/-- A fresh hold of the writer is stored with its command. -/
theorem writes_fresh
    {placed : Database Hash}
    (payload : CommandPayload Hash)
    (commandUnused :
      db.reservationCommands.find? payload.commandId = none)
    (fresh : FreshIds payload.holdId payload.orderId db)
    (sameCommands : placed.reservationCommands = db.reservationCommands)
    (outboxEvents : Table OutboxEvent)
    (durable : CommandResponse) :
    ∃ commands row,
      storeCommand payload durable
          { placed with outboxEvents := outboxEvents } =
        .ok (.command durable, { remember payload.actor .hold
          payload.idempotencyKey (.command durable)
            { placed with outboxEvents := outboxEvents } with
              reservationCommands := commands }) ∧
      commands.find? payload.commandId = some row ∧
      row.response = .command durable := by
  apply storeCommand_fresh
  · change placed.reservationCommands.find? payload.commandId = none
    rw [sameCommands]
    exact commandUnused
  · change ∀ row ∈ placed.reservationCommands.rows, _
    rw [sameCommands]
    exact fresh.commands

variable [DecidableEq Hash]

/-- Both ways make the same hold, or refuse it for the same reason. -/
theorem hold_paths_agree
    (sameDigest : intake.digest = self.digest)
    (sameSeconds : intake.holdSeconds = self.holdSeconds)
    (positive : 1 ≤ self.holdSeconds)
    (seatsNodup : command.seatIds.Nodup)
    (seatsCount :
      1 ≤ command.seatIds.length ∧ command.seatIds.length ≤ 8)
    (keyUnused :
      db.idempotencyRecords.find? (command.actor, .hold, command.key) =
        none)
    (commandUnused :
      db.reservationCommands.find? command.commandId = none)
    (fresh : FreshIds command.holdId command.orderId db)
    (inputs : command.SameInputs reserving writing db)
    (redisNow : Int)
    (total : Nat)
    (currency : Currency) :
    self.digest (intake.payload command).request =
        (intake.payload command).requestHash ∧
      ((∃ code status,
        self.reserve command.actor command.eventId command.seatIds
            command.key reserving db = .error (fail code status) ∧
          self.persistReservationCommand (intake.payload command)
            (intake.response command redisNow total currency) writing db =
            .error (fail code status)) ∨
      ∃ durable reserved persisted,
        self.reserve command.actor command.eventId command.seatIds
            command.key reserving db =
            .ok (durable.asReserved, reserved) ∧
          self.persistReservationCommand (intake.payload command)
            (intake.response command redisNow total currency) writing db =
            .ok (.command durable, persisted) ∧
          SameHold reserved persisted ∧
          command.Announced (reserving.uuid4 2) db reserved ∧
          command.Announced (writing.uuid4 0) db persisted ∧
          command.Stored durable.asReserved reserved ∧
          command.Stored (.command durable) persisted ∧
          ∃ row,
            persisted.reservationCommands.find? command.commandId =
                some row ∧
              row.response = .command durable) := by
  have sameHash :
      self.digest (intake.payload command).request =
        (intake.payload command).requestHash := by
    rw [request_payload, ← sameDigest]
    rfl
  refine ⟨sameHash, ?_⟩
  obtain ⟨records, inserted, claims⟩ :=
    idem_unused self.digest command.request keyUnused
  let claimed : Database Hash := { db with idempotencyRecords := records }
  have claimsAgain :
      idem self.digest (intake.payload command).actor .hold
          (intake.payload command).idempotencyKey
          (intake.payload command).request db = .ok (none, claimed) := by
    rw [request_payload]
    exact claims
  have freshClaimed :
      FreshIds command.holdId command.orderId claimed :=
    { fresh with }
  rw [self.reserve_unused seatsNodup seatsCount claims,
    self.persist_unused sameHash commandUnused claimsAgain,
    self.reserveBody_payload sameSeconds inputs redisNow total currency,
    persistBody_payload self sameSeconds positive freshClaimed inputs]
  cases checks :
      holdChecks command.eventId command.seats reserving.now claimed with
  | error error =>
      obtain ⟨code, status, rfl⟩ := holdChecks_error checks
      exact Or.inl ⟨code, status, rfl, rfl⟩
  | ok checked =>
      have freshPlaced :
          FreshIds (intake.payload command).hold.id
            ((intake.payload command).order checked
              reserving.insertedAt).id claimed :=
        freshClaimed
      obtain ⟨placed, accepted, announces⟩ :=
        placeHold_fresh freshPlaced rfl (holdChecks_rows checks)
      obtain ⟨sameRecords, sameCommands, _⟩ := placeRows_frame accepted
      obtain ⟨reservedOutbox, reserves, reservedRows⟩ :=
        announces _ inputs.reservingEvent
      obtain ⟨writtenOutbox, writes, writtenRows⟩ :=
        announces _ inputs.writingEvent
      let durable :=
        durableResponse (intake.payload command)
          (intake.response command redisNow total currency) checked
      obtain ⟨commands, row, stores, rowFound, rowResponse⟩ :=
        writes_fresh (intake.payload command) commandUnused fresh
          sameCommands writtenOutbox durable
      refine Or.inr ⟨durable,
        remember command.actor .hold command.key durable.asReserved
          { placed with outboxEvents := reservedOutbox },
        { remember command.actor .hold command.key (.command durable)
            { placed with outboxEvents := writtenOutbox } with
              reservationCommands := commands },
        ?_, ?_, ⟨rfl, rfl, rfl, rfl⟩, reservedRows, writtenRows,
        ⟨_, (find?_remember inserted sameRecords _).trans (if_pos rfl),
          rfl⟩,
        ⟨_, (find?_remember inserted sameRecords _).trans (if_pos rfl),
          rfl⟩,
        row, rowFound, rowResponse⟩
      · rw [ok_bind, reserves]
        rfl
      · rw [ok_bind, writes]
        exact stores

/-- Both ways take the two free seats of the small event. -/
theorem hold_paths_agree_bothSeats :
    ∃ durable reserved persisted,
      smallStore.reserve "alice" 1 ["A1", "A2"] "first"
          (smallAmbient 1 501) smallSale =
        .ok (durable.asReserved, reserved) ∧
      smallStore.persistReservationCommand (smallIntake.payload smallCommand)
          (smallIntake.response smallCommand 1 1000 "THB")
          (smallAmbient 1 700) smallSale =
        .ok (.command durable, persisted) ∧
      SameHold reserved persisted := by
  have fresh :
      FreshIds smallCommand.holdId smallCommand.orderId smallSale := {
    holds := rfl
    orders := rfl
    orderHolds := by decide
    orderItems := by decide
    eventSeats := by decide
    commands := by decide }
  have inputs :
      smallCommand.SameInputs (smallAmbient 1 501) (smallAmbient 1 700)
        smallSale :=
    ⟨rfl, rfl, rfl, rfl, rfl, rfl, rfl⟩
  have sameDigest : smallIntake.digest = smallStore.digest :=
    rfl
  have agree :=
    hold_paths_agree smallStore sameDigest rfl (by decide) (by decide)
      (by decide) rfl rfl fresh inputs 1 1000 "THB"
  have accepted :
      (smallStore.reserve "alice" 1 ["A1", "A2"] "first"
        (smallAmbient 1 501) smallSale).isOk = true := by
    decide
  rcases agree.2 with
    ⟨_, _, rejected, _⟩ |
      ⟨durable, reserved, persisted, reserves, persists, same, _⟩
  · change smallStore.reserve "alice" 1 ["A1", "A2"] "first"
      (smallAmbient 1 501) smallSale = _ at rejected
    rw [rejected] at accepted
    cases accepted
  · exact ⟨durable, reserved, persisted, reserves, persists, same⟩

end Agreement

end FlashTicketing
