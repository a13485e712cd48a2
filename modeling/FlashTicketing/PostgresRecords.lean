import FlashTicketing.PostgresRun

namespace FlashTicketing

open Relational Checked

/-!
# Idempotency records and reservation commands

`Answers` says what a call with an idempotency key did to the two tables that
make it repeatable, for every way in which such a call can return.  It holds as
long as no stored record lacks its response.
-/

variable {Hash : Type}

/-- Idempotency records and reservation commands are as before. -/
structure SameRecords (db after : Database Hash) : Prop where
  records : after.idempotencyRecords = db.idempotencyRecords
  commands : after.reservationCommands = db.reservationCommands

namespace SameRecords

theorem refl (db : Database Hash) : SameRecords db db :=
  ⟨rfl, rfl⟩

theorem trans
    {first second third : Database Hash}
    (early : SameRecords first second)
    (late : SameRecords second third) :
    SameRecords first third :=
  ⟨late.records.trans early.records, late.commands.trans early.commands⟩

end SameRecords

/-- Neither records nor commands change, and no hold or order is created. -/
structure Untouched (db after : Database Hash) : Prop
    extends SameRecords db after where
  holds :
    ∀ id, (after.holds.find? id).isSome = (db.holds.find? id).isSome
  orders :
    ∀ id, (after.orders.find? id).isSome = (db.orders.find? id).isSome

namespace Untouched

theorem refl (db : Database Hash) : Untouched db db :=
  ⟨.refl db, fun _ => rfl, fun _ => rfl⟩

theorem trans
    {first second third : Database Hash}
    (early : Untouched first second)
    (late : Untouched second third) :
    Untouched first third :=
  ⟨early.toSameRecords.trans late.toSameRecords,
    fun id => (late.holds id).trans (early.holds id),
    fun id => (late.orders id).trans (early.orders id)⟩

end Untouched

/-! ## Bodies that leave both tables alone -/

theorem untouched_of_event
    {id aggregate : Uuid}
    {message : Message}
    {db after : Database Hash}
    (accepted : event id aggregate message db = .ok after) :
    Untouched db after := by
  obtain ⟨_, _, rfl⟩ := event_eq_ok.mp accepted
  exact ⟨⟨rfl, rfl⟩, fun _ => rfl, fun _ => rfl⟩

theorem sameRecords_of_placeHold
    {hold : Hold}
    {order : Order}
    {rows : List EventSeat}
    {seats : List SeatId}
    {announcement : Uuid}
    {db after : Database Hash}
    (accepted :
      placeHold hold order rows seats announcement db = .ok after) :
    SameRecords db after := by
  simp only [placeHold, placeRows, bind_assoc, pure_bind, bind_eq_ok] at accepted
  obtain ⟨_, _, _, _, _, _, _, _, announced⟩ := accepted
  have same := untouched_of_event announced
  exact ⟨same.records, same.commands⟩

theorem untouched_of_releaseInTransaction
    {order : Order}
    {state : HoldStatus}
    {announcement : Uuid}
    {db after : Database Hash}
    (accepted :
      releaseInTransaction order state announcement db = .ok after) :
    Untouched db after := by
  have same := untouched_of_event accepted
  refine ⟨⟨same.records, same.commands⟩, ?_, ?_⟩
  · intro id
    rw [same.holds, Table.find?_modify, Option.isSome_map]
  · intro id
    rw [same.orders, Table.find?_modify, Option.isSome_map]

theorem untouched_setOrderStatus
    (orderId : Uuid)
    (status : OrderStatus)
    (db : Database Hash) :
    Untouched db (setOrderStatus orderId status db) := by
  refine ⟨⟨rfl, rfl⟩, fun _ => rfl, ?_⟩
  intro id
  rw [setOrderStatus, Table.find?_modify, Option.isSome_map]

theorem untouched_of_applyDecision
    {decision : Decision}
    {payment : PaymentAttempt}
    {order : Order}
    {hold : Hold}
    {seats : List EventSeat}
    {uuid4 : Nat → Uuid}
    {db after : Database Hash}
    (accepted :
      applyDecision decision payment order hold seats uuid4 db =
        .ok after) :
    Untouched db after := by
  cases decision with
  | unchanged =>
      simp only [applyDecision, pure_eq_ok] at accepted
      exact accepted ▸ .refl db
  | failed =>
      simp only [applyDecision, failOrder, bind_eq_ok,
        pure_eq_ok] at accepted
      obtain ⟨_, released, rfl⟩ := accepted
      exact (untouched_of_releaseInTransaction released).trans
        (untouched_setOrderStatus order.id .failed _)
  | book =>
      simp only [applyDecision, bookOrder, bind_eq_ok] at accepted
      obtain ⟨_, _, announced⟩ := accepted
      have same := untouched_of_event announced
      refine ⟨⟨same.records, same.commands⟩, ?_, ?_⟩
      · intro id
        rw [same.holds, Table.find?_modify, Option.isSome_map]
      · intro id
        rw [same.orders, Table.find?_modify, Option.isSome_map]
  | refund =>
      simp only [applyDecision, refundOrder, bind_eq_ok] at accepted
      obtain ⟨_, released, announced⟩ := accepted
      have same := untouched_of_event announced
      exact ((untouched_of_releaseInTransaction released).trans
        (untouched_setOrderStatus order.id .refundPending _)).trans
        ⟨⟨same.records, same.commands⟩, same.holds, same.orders⟩

theorem untouched_of_settle
    {payment : PaymentAttempt}
    {order : Order}
    {payload : CallbackPayload}
    {ambient : Ambient}
    {decision : Decision}
    {db after : Database Hash}
    (accepted :
      settle payment order payload ambient db = .ok (decision, after)) :
    Untouched db after := by
  simp only [settle, bind_eq_ok, pure_eq_ok, Prod.mk.injEq] at accepted
  obtain ⟨_, _, _, applied, _, announced, _, rfl⟩ := accepted
  have decided := untouched_of_applyDecision applied
  have same := decided.trans (untouched_of_event announced)
  exact ⟨⟨same.records, same.commands⟩, same.holds, same.orders⟩

theorem untouched_of_expireBatch
    {limit : Nat}
    {locked : List Uuid}
    {ambient : Ambient}
    {count : Nat}
    {db after : Database Hash}
    (accepted :
      PostgresReservations.expireBatch limit locked ambient db =
        .ok (count, after)) :
    Untouched db after := by
  simp only [PostgresReservations.expireBatch, bind_eq_ok, pure_eq_ok,
    Prod.mk.injEq] at accepted
  obtain ⟨_, _, _, released, _, rfl⟩ := accepted
  refine foldlM_invariant ?_ (Untouched.refl db) released
  intro before indexed next _ same accepted
  exact same.trans (untouched_of_releaseInTransaction accepted)

theorem untouched_of_consumeEvent
    {envelope : Envelope}
    {ambient : Ambient}
    {db after : Database Hash}
    (accepted : consumeEvent envelope ambient db = .ok after) :
    Untouched db after := by
  simp only [consumeEvent, bind_eq_ok] at accepted
  obtain ⟨_, _, rest⟩ := accepted
  split at rest
  · simp only [pure_eq_ok] at rest
    exact rest ▸ .refl db
  · cases message : envelope.message with
    | seatsChanged eventId seats =>
        simp only [message, requestRefresh, bind_eq_ok,
          pure_eq_ok] at rest
        obtain ⟨_, _, rfl⟩ := rest
        exact ⟨⟨rfl, rfl⟩, fun _ => rfl, fun _ => rfl⟩
    | orderPaid orderId =>
        simp only [message, fulfilOrder, bind_eq_ok] at rest
        obtain ⟨order, _, _, _, announced⟩ := rest
        have same :=
          (untouched_setOrderStatus order.id .fulfilled _).trans
            (untouched_of_event announced)
        exact ⟨⟨same.records, same.commands⟩, same.holds, same.orders⟩
    | refundRequested paymentId orderId =>
        simp only [message, pure_eq_ok] at rest
        subst rest
        refine ⟨⟨rfl, rfl⟩, fun _ => rfl, ?_⟩
        intro id
        rw [completeRefund, Table.find?_modify, Option.isSome_map]
    | ticketsIssued orderId =>
        simp only [message, pure_eq_ok] at rest
        exact rest ▸ ⟨⟨rfl, rfl⟩, fun _ => rfl, fun _ => rfl⟩
    | unknown eventType =>
        simp only [message, throw_eq_ok] at rest

/-- Opening a payment writes the payment row only. -/
theorem same_of_initiatePaymentBody
    {actor : Actor}
    {orderId : Uuid}
    {outcome : Outcome}
    {delaySeconds duplicates : Nat}
    {ambient : Ambient}
    {response : Response}
    {db after : Database Hash}
    (accepted :
      PostgresReservations.initiatePaymentBody actor orderId outcome
        delaySeconds duplicates ambient db = .ok (response, after)) :
    SameRecords db after ∧
      after.holds = db.holds ∧
      after.orders = db.orders ∧ response.holdId? = none := by
  simp only [PostgresReservations.initiatePaymentBody, bind_eq_ok] at accepted
  obtain ⟨_, _, rest⟩ := accepted
  split at rest
  · simp only [pure_eq_ok, Prod.mk.injEq] at rest
    obtain ⟨rfl, rfl⟩ := rest
    exact ⟨.refl _, rfl, rfl, rfl⟩
  · simp only [bind_eq_ok, pure_eq_ok, Prod.mk.injEq] at rest
    obtain ⟨_, _, _, _, _, _, _, _, rfl, rfl⟩ := rest
    exact ⟨⟨rfl, rfl⟩, rfl, rfl, rfl⟩

/-! ## Calls with a key -/

/-- The idempotency record that a call uses. -/
def Call.recordKey? : Call Hash → Option RecordKey
  | .reserve actor _ _ key => some (actor, .hold, key)
  | .persistReservationCommand payload _ =>
      some (payload.actor, .hold, payload.idempotencyKey)
  | .checkout actor _ key => some (actor, .order, key)
  | .initiatePayment actor _ key _ _ _ => some (actor, .payment, key)
  | _ => none

/-- The call that only the reservation writer makes. -/
def Call.isPersist : Call Hash → Bool
  | .persistReservationCommand _ _ => true
  | _ => false

/-- The canonical request of a call with a key. -/
def Call.request? : Call Hash → Option Request
  | .reserve _ eventId seatIds _ =>
      PostgresReservations.reserveRequest eventId seatIds
  | .persistReservationCommand payload _ => some payload.request
  | .checkout _ holdId _ => some (.order holdId)
  | .initiatePayment _ orderId _ outcome delaySeconds duplicates =>
      some (.payment orderId outcome delaySeconds duplicates)
  | _ => none

/-- The identifiers in a stored response. -/
def Response.ids (response : Response) :
    Option Uuid × Uuid × Option Uuid :=
  (response.holdId?, response.orderId, response.paymentId?)

/-- No stored record lacks its response. -/
def Responded (db : Database Hash) : Prop :=
  ∀ {key record},
    db.idempotencyRecords.find? key = some record →
    record.response ≠ none

/-- A key that was unused is bound to a request and its response. -/
structure Claimed
    (digest : Request → Hash)
    (key : RecordKey)
    (request : Request)
    (response : Response)
    (db after : Database Hash) : Prop where
  unused : db.idempotencyRecords.find? key = none
  records :
    ∀ other,
      after.idempotencyRecords.find? other =
        if other = key then
          some {
            actor := key.1
            operation := key.2.1
            key := key.2.2
            requestHash := digest request
            response := some response }
        else
          db.idempotencyRecords.find? other

/-- The row that a persisted command leaves. -/
def CommandPayload.row
    (payload : CommandPayload Hash)
    (response : Response) : ReservationCommand Hash where
  commandId := payload.commandId
  actor := payload.actor
  idempotencyKey := payload.idempotencyKey
  requestHash := payload.requestHash
  eventId := payload.eventId
  holdId := payload.holdId
  orderId := payload.orderId
  response := response

/-- Every way in which a call with a key returns normally. -/
inductive Answers
    (self : PostgresReservations Hash)
    (call : Call Hash)
    (ambient : Ambient)
    (response : Response)
    (db after : Database Hash) : Prop where
  | replayed
      (key : RecordKey)
      (request : Request)
      (record : IdempotencyRecord Hash)
      (keyed : call.recordKey? = some key)
      (asked : call.request? = some request)
      (found : db.idempotencyRecords.find? key = some record)
      (sameHash : record.requestHash = self.digest request)
      (stored : record.response = some response)
      (sameIds :
        ∀ {payload reply},
          call = .persistReservationCommand payload reply →
          response.holdId? = some payload.holdId ∧
            response.orderId = payload.orderId)
      (unchanged : after = db)
  | recalled
      (payload : CommandPayload Hash)
      (reply : CommandResponse)
      (row : ReservationCommand Hash)
      (called : call = .persistReservationCommand payload reply)
      (honest : self.digest payload.request = payload.requestHash)
      (found :
        db.reservationCommands.find? payload.commandId = some row)
      (sameHash : row.requestHash = payload.requestHash)
      (stored : row.response = response)
      (unchanged : after = db)
  | claimed
      (key : RecordKey)
      (request : Request)
      (keyed : call.recordKey? = some key)
      (asked : call.request? = some request)
      (claimed : Claimed self.digest key request response db after)
      (commands : after.reservationCommands = db.reservationCommands)
      (holds :
        (after.holds = db.holds ∧
          after.orders = db.orders ∧ response.holdId? = none) ∨
          ∃ hold order rows seats announcement,
            hold.id = ambient.uuid4 0 ∧
              order.id = ambient.uuid4 1 ∧
              response.holdId? = some hold.id ∧
              response.orderId = order.id ∧
              Placed ambient.now hold order rows seats announcement
                db after)
      (direct : call.isPersist = false)
  | persisted
      (payload : CommandPayload Hash)
      (reply : CommandResponse)
      (hold : Hold)
      (order : Order)
      (rows : List EventSeat)
      (announcement : Uuid)
      (called : call = .persistReservationCommand payload reply)
      (honest : self.digest payload.request = payload.requestHash)
      (claimed :
        Claimed self.digest
          (payload.actor, .hold, payload.idempotencyKey)
          payload.request response db after)
      (isHold : hold = payload.hold)
      (orderActor : order.actor = payload.actor)
      (orderId : order.id = payload.orderId)
      (placed :
        Placed ambient.now hold order rows (sortedSeats payload.seatIds)
          announcement db after)
      (unrecorded :
        db.reservationCommands.find? payload.commandId = none)
      (commands :
        ∀ id,
          after.reservationCommands.find? id =
            if id = payload.commandId then
              some (payload.row response)
            else
              db.reservationCommands.find? id)
      (replyIds :
        response.ids = (some reply.holdId, reply.orderId, none))

/-- `Placed` does not look at records or commands. -/
theorem Placed.ofRecords
    {now : Int}
    {hold : Hold}
    {order : Order}
    {rows : List EventSeat}
    {seats : List SeatId}
    {announcement : Uuid}
    {db after : Database Hash}
    {recordsBefore recordsAfter : Table (IdempotencyRecord Hash)}
    {commandsAfter : Table (ReservationCommand Hash)}
    (placed :
      Placed now hold order rows seats announcement
        { db with idempotencyRecords := recordsBefore } after) :
    Placed now hold order rows seats announcement db
      { after with
        idempotencyRecords := recordsAfter
        reservationCommands := commandsAfter } :=
  ⟨placed.holdFresh, placed.orderFresh, placed.holdUnused,
    placed.orderHold, placed.orderEvent, placed.active, placed.pending,
    placed.total, placed.unexpired, placed.rowsFound, placed.rowsNodup,
    placed.rowsExact, placed.free, placed.events, placed.holds,
    placed.orders, placed.seatsHeld, placed.itemsAdded,
    ⟨placed.commerce.bookings, placed.commerce.payments,
      placed.commerce.refunds⟩,
    ⟨placed.announces.rows, placed.announces.fresh⟩⟩

/-- A new record that is remembered afterwards holds the response. -/
theorem find?_remember
    {actor : Actor}
    {operation : Operation}
    {key : IdempotencyKey}
    {requestHash : Hash}
    {response : Response}
    {db written : Database Hash}
    {records : Table (IdempotencyRecord Hash)}
    (inserted :
      db.idempotencyRecords.insert? {
          actor := actor
          operation := operation
          key := key
          requestHash := requestHash } = some records)
    (kept : written.idempotencyRecords = records)
    (other : RecordKey) :
    (remember actor operation key response
        written).idempotencyRecords.find? other =
      if other = (actor, operation, key) then
        some {
          actor := actor
          operation := operation
          key := key
          requestHash := requestHash
          response := some response }
      else
        db.idempotencyRecords.find? other := by
  simp only [remember, Table.find?_modify, kept,
    Table.find?_of_insert? inserted]
  by_cases sameKey : other = (actor, operation, key)
  · simp [sameKey, Keyed.key]
  · have different :
        other ≠ Keyed.key ({
          actor := actor
          operation := operation
          key := key
          requestHash := requestHash } : IdempotencyRecord Hash) :=
      sameKey
    rw [if_neg sameKey, if_neg different]
    cases found : db.idempotencyRecords.find? other with
    | none => rfl
    | some record =>
        have recordKey : Keyed.key record = other :=
          Table.key_of_find? found
        simp [recordKey, sameKey]

section Bodies

variable [DecidableEq Hash]

/--
The idempotency frame around a body that leaves the two tables alone: the
answer is the stored one, or the key is bound to what the body answered.
-/
theorem claimed_of_idempotent
    {digest : Request → Hash}
    {actor : Actor}
    {operation : Operation}
    {key : IdempotencyKey}
    {request : Request}
    {body : Database Hash → Except Error (Response × Database Hash)}
    {response : Response}
    {db after : Database Hash}
    (responded : Responded db)
    (bodySame :
      ∀ {before answer next},
        body before = .ok (answer, next) →
        SameRecords before next)
    (accepted :
      idempotent digest actor operation key request body db =
        .ok (response, after)) :
    (∃ record,
      db.idempotencyRecords.find? (actor, operation, key) =
          some record ∧
        record.requestHash = digest request ∧
        record.response = some response ∧
        after = db) ∨
    (Claimed digest (actor, operation, key) request response db after ∧
      after.reservationCommands = db.reservationCommands ∧
      ∃ records written,
        body { db with idempotencyRecords := records } =
            .ok (response, written) ∧
          after = remember actor operation key response written) := by
  simp only [idempotent, bind_eq_ok, Prod.exists] at accepted
  obtain ⟨replay, claimed, idemAccepted, rest⟩ := accepted
  rcases idem_eq_ok idemAccepted with
    ⟨rfl, records, inserted, rfl⟩ |
    ⟨record, found, sameHash, rfl, rfl⟩
  · simp only [bind_eq_ok, pure_eq_ok, Prod.mk.injEq,
      Prod.exists] at rest
    obtain ⟨answer, written, bodyAccepted, rfl, rfl⟩ := rest
    have same := bodySame bodyAccepted
    refine Or.inr ⟨⟨(Table.insert?_eq_some inserted).1,
      find?_remember inserted same.records⟩, same.commands,
      records, written, bodyAccepted, rfl⟩
  · -- A stored record has a response, so the body does not run.
    obtain ⟨stored, isStored⟩ :=
      Option.ne_none_iff_exists'.mp (responded found)
    simp only [isStored, pure_eq_ok, Prod.mk.injEq] at rest
    obtain ⟨rfl, rfl⟩ := rest
    exact Or.inl ⟨record, found, sameHash, isStored, rfl⟩

namespace PostgresReservations

variable
  {self : PostgresReservations Hash}
  {ambient : Ambient}
  {response : Response}
  {db after : Database Hash}

theorem answers_of_reserve
    {actor : Actor}
    {eventId : Uuid}
    {seatIds : List SeatId}
    {key : IdempotencyKey}
    (responded : Responded db)
    (accepted :
      self.reserve actor eventId seatIds key ambient db =
        .ok (response, after)) :
    Answers self (.reserve actor eventId seatIds key) ambient response
      db after := by
  simp only [reserve, bind_eq_ok, require_eq_ok] at accepted
  obtain ⟨request, asked, framed⟩ := accepted
  have bodySame :
      ∀ {before answer next},
        self.reserveBody actor eventId (sortedSeats seatIds.dedup) ambient
          before = .ok (answer, next) →
        SameRecords before next := by
    intro before answer next bodyAccepted
    simp only [reserveBody, bind_eq_ok, pure_eq_ok,
      Prod.mk.injEq] at bodyAccepted
    obtain ⟨_, _, _, _, _, _, _, _, _, placed, _, rfl⟩ := bodyAccepted
    exact sameRecords_of_placeHold placed
  rcases claimed_of_idempotent responded bodySame framed with
    ⟨record, found, sameHash, stored, unchanged⟩ |
    ⟨claimed, commands, records, written, bodyAccepted, rfl⟩
  · exact .replayed _ request record rfl asked found sameHash stored
      (by simp) unchanged
  · obtain ⟨hold, order, rows, holdDrawn, orderDrawn, _, holdId, orderId,
      placed⟩ := placed_of_reserveBody bodyAccepted
    exact .claimed _ request rfl asked claimed commands
      (Or.inr ⟨hold, order, rows, _, _, holdDrawn, orderDrawn, holdId,
        orderId, placed.ofRecords⟩) rfl

theorem answers_of_checkout
    {actor : Actor}
    {holdId : Uuid}
    {key : IdempotencyKey}
    (responded : Responded db)
    (accepted :
      self.checkout actor holdId key ambient db = .ok (response, after)) :
    Answers self (.checkout actor holdId key) ambient response
      db after := by
  have bodyId :
      ∀ {before next : Database Hash} {answer},
        checkoutBody actor holdId ambient before = .ok (answer, next) →
        next = before ∧ answer.holdId? = none := by
    intro before next answer bodyAccepted
    simp only [checkoutBody, bind_eq_ok, pure_eq_ok,
      Prod.mk.injEq] at bodyAccepted
    obtain ⟨_, _, _, _, _, _, rfl, rfl⟩ := bodyAccepted
    exact ⟨rfl, rfl⟩
  rcases claimed_of_idempotent responded
      (fun bodyAccepted => by rw [(bodyId bodyAccepted).1]; exact .refl _)
      accepted with
    ⟨record, found, sameHash, stored, unchanged⟩ |
    ⟨claimed, commands, records, written, bodyAccepted, rfl⟩
  · exact .replayed _ _ record rfl rfl found sameHash stored
      (by simp) unchanged
  · obtain ⟨rfl, noHold⟩ := bodyId bodyAccepted
    exact .claimed _ _ rfl rfl claimed commands
      (Or.inl ⟨rfl, rfl, noHold⟩) rfl

theorem answers_of_initiatePayment
    {actor : Actor}
    {orderId : Uuid}
    {key : IdempotencyKey}
    {outcome : Outcome}
    {delaySeconds duplicates : Nat}
    (responded : Responded db)
    (accepted :
      self.initiatePayment actor orderId key outcome delaySeconds
        duplicates ambient db = .ok (response, after)) :
    Answers self
      (.initiatePayment actor orderId key outcome delaySeconds duplicates)
      ambient response db after := by
  rcases claimed_of_idempotent responded
      (fun bodyAccepted => (same_of_initiatePaymentBody bodyAccepted).1)
      accepted with
    ⟨record, found, sameHash, stored, unchanged⟩ |
    ⟨claimed, commands, records, written, bodyAccepted, rfl⟩
  · exact .replayed _ _ record rfl rfl found sameHash stored nofun
      unchanged
  · exact .claimed _ _ rfl rfl claimed commands
      (Or.inl (same_of_initiatePaymentBody bodyAccepted).2) rfl

theorem answers_of_persistReservationCommand
    {payload : CommandPayload Hash}
    {reply : CommandResponse}
    (responded : Responded db)
    (accepted :
      self.persistReservationCommand payload reply ambient db =
        .ok (response, after)) :
    Answers self (.persistReservationCommand payload reply) ambient
      response db after := by
  simp only [persistReservationCommand, bind_eq_ok,
    ensure_eq_ok] at accepted
  obtain ⟨_, honest, rest⟩ := accepted
  split at rest
  · rename_i row found
    simp only [bind_eq_ok, ensure_eq_ok, pure_eq_ok,
      Prod.mk.injEq] at rest
    obtain ⟨_, sameHash, stored, rfl⟩ := rest
    exact .recalled payload reply row rfl honest found sameHash stored rfl
  · rename_i unrecorded
    simp only [bind_eq_ok, Prod.exists] at rest
    obtain ⟨replay, claimed, idemAccepted, answered⟩ := rest
    rcases idem_eq_ok idemAccepted with
      ⟨rfl, records, inserted, rfl⟩ |
      ⟨record, found, sameHash, rfl, rfl⟩
    · obtain ⟨hold, order, rows, written, isHold, orderActor, orderId,
        ⟨replyHold, replyOrder, replyPayment⟩, placeAccepted, placed,
        commands, commandInserted, rfl⟩ := placed_of_persistBody answered
      have same := sameRecords_of_placeHold placeAccepted
      refine .persisted payload reply hold order rows _ rfl honest
        ⟨(Table.insert?_eq_some inserted).1,
          find?_remember inserted same.records⟩
        isHold orderActor orderId placed.ofRecords unrecorded ?_ ?_
      · intro id
        have inserts := Table.find?_of_insert? commandInserted id
        rw [same.commands] at inserts
        exact inserts
      · rw [Response.ids, replyHold, replyOrder, replyPayment]
    · obtain ⟨stored, isStored⟩ :=
        Option.ne_none_iff_exists'.mp (responded found)
      simp only [isStored, bind_eq_ok, ensure_eq_ok, pure_eq_ok,
        Prod.mk.injEq] at answered
      obtain ⟨_, sameIds, rfl, rfl⟩ := answered
      refine .replayed _ _ record rfl rfl found sameHash isStored ?_ rfl
      intro otherPayload otherReply same
      cases same
      exact sameIds

/-- How a call with a key returns. -/
theorem answers_of_body
    {call : Call Hash}
    {key : RecordKey}
    {result : Result}
    (responded : Responded db)
    (keyed : call.recordKey? = some key)
    (accepted : self.body call ambient db = .ok (result, after)) :
    ∃ response,
      result = .response response ∧
        Answers self call ambient response db after := by
  cases call with
  | reserve actor eventId seatIds key =>
      simp only [body, bind_eq_ok, pure_eq_ok, Prod.mk.injEq,
        Prod.exists] at accepted
      obtain ⟨answer, _, accepted, rfl, rfl⟩ := accepted
      exact ⟨answer, rfl, answers_of_reserve responded accepted⟩
  | persistReservationCommand payload reply =>
      simp only [body, bind_eq_ok, pure_eq_ok, Prod.mk.injEq,
        Prod.exists] at accepted
      obtain ⟨answer, _, accepted, rfl, rfl⟩ := accepted
      exact ⟨answer, rfl,
        answers_of_persistReservationCommand responded accepted⟩
  | checkout actor holdId key =>
      simp only [body, bind_eq_ok, pure_eq_ok, Prod.mk.injEq,
        Prod.exists] at accepted
      obtain ⟨answer, _, accepted, rfl, rfl⟩ := accepted
      exact ⟨answer, rfl, answers_of_checkout responded accepted⟩
  | initiatePayment actor orderId key outcome delaySeconds duplicates =>
      simp only [body, bind_eq_ok, pure_eq_ok, Prod.mk.injEq,
        Prod.exists] at accepted
      obtain ⟨answer, _, accepted, rfl, rfl⟩ := accepted
      exact ⟨answer, rfl, answers_of_initiatePayment responded accepted⟩
  | release => cases keyed
  | expireBatch => cases keyed
  | callback => cases keyed
  | consumeEvent => cases keyed

/-- A call without a key leaves records alone and creates no hold. -/
theorem untouched_of_body
    {call : Call Hash}
    {result : Result}
    (unkeyed : call.recordKey? = none)
    (accepted : self.body call ambient db = .ok (result, after)) :
    Untouched db after := by
  cases call with
  | reserve => cases unkeyed
  | persistReservationCommand => cases unkeyed
  | checkout => cases unkeyed
  | initiatePayment => cases unkeyed
  | release actor holdId =>
      simp only [body, release, bind_eq_ok, pure_eq_ok,
        Prod.mk.injEq] at accepted
      obtain ⟨_, ⟨_, _, _, _, released⟩, _, rfl⟩ := accepted
      exact untouched_of_releaseInTransaction released
  | expireBatch limit locked =>
      simp only [body, bind_eq_ok, pure_eq_ok, Prod.mk.injEq,
        Prod.exists] at accepted
      obtain ⟨_, _, accepted, _, rfl⟩ := accepted
      exact untouched_of_expireBatch accepted
  | callback payload =>
      simp only [body, callback, bind_eq_ok, pure_eq_ok, Prod.mk.injEq,
        Prod.exists] at accepted
      obtain ⟨_, _, ⟨_, _, _, _, _, _, rest⟩, _, rfl⟩ := accepted
      split at rest
      · simp only [bind_eq_ok, pure_eq_ok, Prod.mk.injEq] at rest
        obtain ⟨_, _, _, rfl⟩ := rest
        exact .refl _
      · simp only [bind_eq_ok] at rest
        obtain ⟨_, _, rest⟩ := rest
        split at rest
        · simp only [pure_eq_ok, Prod.mk.injEq] at rest
          obtain ⟨_, rfl⟩ := rest
          exact ⟨⟨rfl, rfl⟩, fun _ => rfl, fun _ => rfl⟩
        · simp only [bind_eq_ok, pure_eq_ok, Prod.mk.injEq,
            Prod.exists] at rest
          obtain ⟨_, _, settled, _, rfl⟩ := rest
          have same := untouched_of_settle settled
          exact ⟨⟨same.records, same.commands⟩, same.holds, same.orders⟩
  | consumeEvent envelope =>
      simp only [body, bind_eq_ok, pure_eq_ok, Prod.mk.injEq] at accepted
      obtain ⟨_, accepted, _, rfl⟩ := accepted
      exact untouched_of_consumeEvent accepted

end PostgresReservations

end Bodies

end FlashTicketing
