import FlashTicketing.PostgresRun

namespace FlashTicketing

open Relational Checked

/-!
# The inbox and the refresh requests

Only `consume_event` writes `consumer_inbox` and `seat_refresh_requests` in a
call of the store: an envelope is taken at most once, and a `SeatsChanged` one
records its refresh request in the transaction that takes it.
-/

variable {Hash : Type}

/-- Neither the inbox nor a refresh request changes. -/
structure SameQueue (db after : Database Hash) : Prop where
  inbox : after.consumerInbox = db.consumerInbox
  refresh : after.seatRefreshRequests = db.seatRefreshRequests

namespace SameQueue

theorem refl (db : Database Hash) : SameQueue db db :=
  ⟨rfl, rfl⟩

theorem trans
    {first second third : Database Hash}
    (early : SameQueue first second)
    (late : SameQueue second third) :
    SameQueue first third :=
  ⟨late.inbox.trans early.inbox, late.refresh.trans early.refresh⟩

end SameQueue

/--
A call that is not the consumer's: it leaves inbox, refresh requests and tickets
alone, fulfils no order, and new outbox rows have drawn identifiers.
-/
structure ConsumerFrame
    (uuid4 : Nat → Uuid)
    (db after : Database Hash) : Prop
    extends SameQueue db after where
  tickets : after.tickets = db.tickets
  drawn :
    ∀ row ∈ after.outboxEvents,
      row ∈ db.outboxEvents ∨ ∃ draw, row.id = uuid4 draw
  fulfilled :
    ∀ {id order},
      after.orders.find? id = some order →
      order.status = .fulfilled →
      db.orders.find? id = some order

namespace ConsumerFrame

variable {uuid4 : Nat → Uuid}

theorem refl (db : Database Hash) : ConsumerFrame uuid4 db db :=
  ⟨.refl db, rfl, fun _ => Or.inl, fun found _ => found⟩

theorem trans
    {first second third : Database Hash}
    (early : ConsumerFrame uuid4 first second)
    (late : ConsumerFrame uuid4 second third) :
    ConsumerFrame uuid4 first third := by
  refine ⟨early.toSameQueue.trans late.toSameQueue,
    late.tickets.trans early.tickets, ?_, ?_⟩
  · intro row member
    rcases late.drawn row member with before | isDrawn
    · exact early.drawn row before
    · exact Or.inr isDrawn
  · intro id order found isFulfilled
    exact early.fulfilled (late.fulfilled found isFulfilled) isFulfilled

/-- The frame concerns four tables and the fulfilled orders. -/
theorem of_eq
    {before db after : Database Hash}
    (frame : ConsumerFrame uuid4 before after)
    (inbox : before.consumerInbox = db.consumerInbox)
    (refresh : before.seatRefreshRequests = db.seatRefreshRequests)
    (tickets : before.tickets = db.tickets)
    (outbox : before.outboxEvents = db.outboxEvents)
    (orders :
      ∀ {id order},
        before.orders.find? id = some order →
        order.status = .fulfilled →
        db.orders.find? id = some order) :
    ConsumerFrame uuid4 db after :=
  ⟨⟨frame.inbox.trans inbox, frame.refresh.trans refresh⟩,
    frame.tickets.trans tickets, outbox ▸ frame.drawn,
    fun found isFulfilled =>
      orders (frame.fulfilled found isFulfilled) isFulfilled⟩

end ConsumerFrame

/-! ## Bodies of other calls -/

/-- Restating orders as anything else fulfils none of them. -/
theorem fulfilled_of_modify
    {orders : Table Order}
    {condition : Order → Bool}
    {status : OrderStatus}
    {id : Uuid}
    {order : Order}
    (other : status ≠ .fulfilled)
    (found :
      (orders.modify condition
        (fun row => { row with status := status })
        fun _ => rfl).find? id = some order)
    (isFulfilled : order.status = .fulfilled) :
    orders.find? id = some order := by
  rw [Table.find?_modify, Option.map_eq_some_iff] at found
  obtain ⟨row, rowFound, restated⟩ := found
  split at restated
  · rw [← restated] at isFulfilled
    exact absurd isFulfilled other
  · rw [← restated]
    exact rowFound

section Frames

variable {uuid4 : Nat → Uuid}

theorem frame_of_event
    {aggregate : Uuid}
    {message : Message}
    {draw : Nat}
    {db after : Database Hash}
    (accepted : event (uuid4 draw) aggregate message db = .ok after) :
    ConsumerFrame uuid4 db after := by
  obtain ⟨outbox, inserted, rfl⟩ := event_eq_ok.mp accepted
  refine ⟨⟨rfl, rfl⟩, rfl, ?_, fun found _ => found⟩
  intro row member
  rcases (Table.mem_of_insert? inserted).mp member with old | rfl
  · exact Or.inl old
  · exact Or.inr ⟨draw, rfl⟩

theorem frame_of_placeHold
    {hold : Hold}
    {order : Order}
    {rows : List EventSeat}
    {seats : List SeatId}
    {draw : Nat}
    {db after : Database Hash}
    (pending : order.status = .pending)
    (accepted :
      placeHold hold order rows seats (uuid4 draw) db = .ok after) :
    ConsumerFrame uuid4 db after := by
  simp only [placeHold, placeRows, bind_assoc, pure_bind, bind_eq_ok,
    unique_eq_ok] at accepted
  obtain ⟨_, _, _, _, _, inserted, _, _, announced⟩ := accepted
  refine (frame_of_event announced).of_eq rfl rfl rfl rfl ?_
  intro id found foundAfter isFulfilled
  rcases (Table.mem_of_insert? inserted).mp
      (Table.mem_of_find? foundAfter) with old | rfl
  · have isId : found.id = id := Table.key_of_find? foundAfter
    rw [← isId]
    exact Table.find?_key old
  · rw [pending] at isFulfilled
    cases isFulfilled

theorem frame_of_releaseInTransaction
    {order : Order}
    {state : HoldStatus}
    {draw : Nat}
    {db after : Database Hash}
    (accepted :
      releaseInTransaction order state (uuid4 draw) db = .ok after) :
    ConsumerFrame uuid4 db after :=
  (frame_of_event accepted).of_eq rfl rfl rfl rfl
    (fulfilled_of_modify nofun)

theorem frame_of_applyDecision
    {decision : Decision}
    {payment : PaymentAttempt}
    {order : Order}
    {hold : Hold}
    {seats : List EventSeat}
    {db after : Database Hash}
    (accepted :
      applyDecision decision payment order hold seats uuid4 db =
        .ok after) :
    ConsumerFrame uuid4 db after := by
  cases decision with
  | unchanged =>
      simp only [applyDecision, pure_eq_ok] at accepted
      exact accepted ▸ .refl db
  | failed =>
      simp only [applyDecision, failOrder, bind_eq_ok,
        pure_eq_ok] at accepted
      obtain ⟨closed, released, rfl⟩ := accepted
      have frame := frame_of_releaseInTransaction released
      refine ⟨⟨frame.inbox, frame.refresh⟩, frame.tickets, frame.drawn, ?_⟩
      intro id row found isFulfilled
      have unfulfilling : OrderStatus.failed ≠ .fulfilled := by simp
      have before : closed.orders.find? id = some row :=
        fulfilled_of_modify unfulfilling found isFulfilled
      exact frame.fulfilled before isFulfilled
  | book =>
      simp only [applyDecision, bookOrder, bind_eq_ok] at accepted
      obtain ⟨_, _, announced⟩ := accepted
      exact (frame_of_event announced).of_eq rfl rfl rfl rfl
        (fulfilled_of_modify (by simp))
  | refund =>
      simp only [applyDecision, refundOrder, bind_eq_ok] at accepted
      obtain ⟨_, released, announced⟩ := accepted
      exact (frame_of_releaseInTransaction released).trans
        ((frame_of_event announced).of_eq rfl rfl rfl rfl
          (fulfilled_of_modify (by simp)))

theorem frame_of_settle
    {payment : PaymentAttempt}
    {order : Order}
    {payload : CallbackPayload}
    {ambient : Ambient}
    {decision : Decision}
    {db after : Database Hash}
    (accepted :
      settle payment order payload ambient db = .ok (decision, after)) :
    ConsumerFrame ambient.uuid4 db after := by
  simp only [settle, bind_eq_ok, pure_eq_ok, Prod.mk.injEq] at accepted
  obtain ⟨_, _, _, applied, _, announced, _, rfl⟩ := accepted
  exact ((frame_of_applyDecision applied).trans
    (frame_of_event announced)).of_eq rfl rfl rfl rfl fun found _ => found

end Frames

/-- The envelope that a call consumes. -/
def Call.envelope? : Call Hash → Option Envelope
  | .consumeEvent envelope => some envelope
  | _ => none

section Bodies

variable [DecidableEq Hash]

theorem frame_of_idempotent
    {uuid4 : Nat → Uuid}
    {digest : Request → Hash}
    {actor : Actor}
    {operation : Operation}
    {key : IdempotencyKey}
    {request : Request}
    {body : Database Hash → Except Error (Response × Database Hash)}
    {db after : Database Hash}
    {response : Response}
    (bodyFrame :
      ∀ {before response next},
        body before = .ok (response, next) →
        ConsumerFrame uuid4 before next)
    (accepted :
      idempotent digest actor operation key request body db =
        .ok (response, after)) :
    ConsumerFrame uuid4 db after := by
  rcases idempotent_cases accepted with
    rfl | ⟨_, written, _, bodyAccepted, rfl⟩
  · exact .refl _
  · have frame := bodyFrame bodyAccepted
    exact ⟨⟨frame.inbox, frame.refresh⟩, frame.tickets, frame.drawn,
      frame.fulfilled⟩

namespace PostgresReservations

variable
  {self : PostgresReservations Hash}
  {ambient : Ambient}
  {db after : Database Hash}

theorem frame_of_persistReservationCommand
    {payload : CommandPayload Hash}
    {reply : CommandResponse}
    {response : Response}
    (accepted :
      self.persistReservationCommand payload reply ambient db =
        .ok (response, after)) :
    ConsumerFrame ambient.uuid4 db after := by
  rcases persist_cases accepted with rfl | ⟨_, bodyAccepted⟩
  · exact .refl _
  · obtain ⟨_, _, _, _, _, _, _, _, written, placed, _, _, rfl⟩ :=
      placed_of_persistBody bodyAccepted
    have frame := frame_of_placeHold placed.pending written
    exact ⟨⟨frame.inbox, frame.refresh⟩, frame.tickets, frame.drawn,
      frame.fulfilled⟩

theorem frame_of_callback
    {payload : CallbackPayload}
    {status : CallbackStatus}
    (accepted :
      self.callback payload ambient db = .ok (status, after)) :
    ConsumerFrame ambient.uuid4 db after := by
  simp only [callback, bind_eq_ok] at accepted
  obtain ⟨_, _, _, _, _, _, rest⟩ := accepted
  split at rest
  · simp only [bind_eq_ok, pure_eq_ok, Prod.mk.injEq] at rest
    obtain ⟨_, _, _, rfl⟩ := rest
    exact .refl _
  · simp only [bind_eq_ok] at rest
    obtain ⟨_, _, rest⟩ := rest
    split at rest
    · simp only [pure_eq_ok, Prod.mk.injEq] at rest
      obtain ⟨_, rfl⟩ := rest
      exact ⟨⟨rfl, rfl⟩, rfl, fun _ => Or.inl, fun found _ => found⟩
    · simp only [bind_eq_ok, pure_eq_ok, Prod.mk.injEq,
        Prod.exists] at rest
      obtain ⟨_, _, settled, _, rfl⟩ := rest
      exact (frame_of_settle settled).of_eq rfl rfl rfl rfl
        fun found _ => found

/-- Only the consumer writes its tables. -/
theorem frame_of_body
    {call : Call Hash}
    {result : Result}
    (other : call.envelope? = none)
    (accepted : self.body call ambient db = .ok (result, after)) :
    ConsumerFrame ambient.uuid4 db after := by
  cases call with
  | consumeEvent => cases other
  | release actor holdId =>
      simp only [body, release, bind_eq_ok, pure_eq_ok,
        Prod.mk.injEq] at accepted
      obtain ⟨_, ⟨_, _, _, _, released⟩, _, rfl⟩ := accepted
      exact frame_of_releaseInTransaction released
  | reserve actor eventId seatIds key =>
      simp only [body, reserve, bind_eq_ok, pure_eq_ok, Prod.mk.injEq,
        Prod.exists] at accepted
      obtain ⟨_, _, ⟨_, _, framed⟩, _, rfl⟩ := accepted
      apply frame_of_idempotent _ framed
      intro before response next bodyAccepted
      simp only [reserveBody, bind_eq_ok, pure_eq_ok,
        Prod.mk.injEq] at bodyAccepted
      obtain ⟨_, _, _, _, _, _, _, _, _, placed, _, rfl⟩ := bodyAccepted
      exact frame_of_placeHold rfl placed
  | persistReservationCommand payload response =>
      simp only [body, bind_eq_ok, pure_eq_ok, Prod.mk.injEq,
        Prod.exists] at accepted
      obtain ⟨_, _, accepted, _, rfl⟩ := accepted
      exact frame_of_persistReservationCommand accepted
  | checkout actor holdId key =>
      simp only [body, bind_eq_ok, pure_eq_ok, Prod.mk.injEq,
        Prod.exists] at accepted
      obtain ⟨_, _, framed, _, rfl⟩ := accepted
      apply frame_of_idempotent _ framed
      intro before response next bodyAccepted
      simp only [checkoutBody, bind_eq_ok, pure_eq_ok,
        Prod.mk.injEq] at bodyAccepted
      obtain ⟨_, _, _, _, _, _, _, rfl⟩ := bodyAccepted
      exact .refl _
  | expireBatch limit locked =>
      simp only [body, expireBatch, bind_eq_ok, pure_eq_ok, Prod.mk.injEq,
        Prod.exists] at accepted
      obtain ⟨_, _, ⟨_, _, _, released, _, rfl⟩, _, rfl⟩ := accepted
      apply foldlM_invariant _
        (@ConsumerFrame.refl _ ambient.uuid4 db) released
      intro before indexed next _ frame accepted
      exact frame.trans (frame_of_releaseInTransaction accepted)
  | initiatePayment actor orderId key outcome delaySeconds duplicates =>
      simp only [body, bind_eq_ok, pure_eq_ok, Prod.mk.injEq,
        Prod.exists] at accepted
      obtain ⟨_, _, framed, _, rfl⟩ := accepted
      apply frame_of_idempotent _ framed
      intro before response next bodyAccepted
      simp only [initiatePaymentBody, bind_eq_ok] at bodyAccepted
      obtain ⟨_, _, rest⟩ := bodyAccepted
      split at rest
      · simp only [pure_eq_ok, Prod.mk.injEq] at rest
        obtain ⟨_, rfl⟩ := rest
        exact .refl _
      · simp only [bind_eq_ok, pure_eq_ok, Prod.mk.injEq] at rest
        obtain ⟨_, _, _, _, _, _, _, _, _, rfl⟩ := rest
        exact ⟨⟨rfl, rfl⟩, rfl, fun _ => Or.inl, fun found _ => found⟩
  | callback payload =>
      simp only [body, bind_eq_ok, pure_eq_ok, Prod.mk.injEq,
        Prod.exists] at accepted
      obtain ⟨_, _, accepted, _, rfl⟩ := accepted
      exact frame_of_callback accepted

end PostgresReservations

end Bodies

/-! ## The consumer -/

/-- What taking an envelope does to the two tables. -/
inductive Consumes
    (envelope : Envelope)
    (now : Int)
    (db after : Database Hash) : Prop where
  | again
      (taken : db.consumerInbox.find? envelope.eventId ≠ none)
      (unchanged : after = db)
  | requested
      (eventId : Uuid)
      (seatIds : Option (List SeatId))
      (fresh : db.consumerInbox.find? envelope.eventId = none)
      (message : envelope.message = .seatsChanged eventId seatIds)
      (inbox :
        ∀ id,
          after.consumerInbox.find? id ≠ none ↔
            id = envelope.eventId ∨ db.consumerInbox.find? id ≠ none)
      (refresh :
        after.seatRefreshRequests =
          db.seatRefreshRequests.upsert
            (requestedRow eventId seatIds now db.seatRefreshRequests))
  | other
      (fresh : db.consumerInbox.find? envelope.eventId = none)
      (message :
        ∀ eventId seatIds,
          envelope.message ≠ .seatsChanged eventId seatIds)
      (inbox :
        ∀ id,
          after.consumerInbox.find? id ≠ none ↔
            id = envelope.eventId ∨ db.consumerInbox.find? id ≠ none)
      (refresh : after.seatRefreshRequests = db.seatRefreshRequests)

theorem consumes_of_consumeEvent
    {envelope : Envelope}
    {ambient : Ambient}
    {db after : Database Hash}
    (accepted : consumeEvent envelope ambient db = .ok after) :
    Consumes envelope ambient.now db after := by
  simp only [consumeEvent, bind_eq_ok] at accepted
  obtain ⟨_, _, rest⟩ := accepted
  split at rest
  · rename_i taken
    simp only [pure_eq_ok] at rest
    refine .again ?_ rest.symm
    intro absent
    have inserts :
        ∃ inbox,
          db.consumerInbox.insert? { eventId := envelope.eventId } =
            some inbox :=
      Table.insert?_isSome absent
    rw [taken] at inserts
    exact absurd inserts nofun
  · rename_i inbox inserted
    have fresh : db.consumerInbox.find? envelope.eventId = none :=
      (Table.insert?_eq_some inserted).1
    have inboxAfter :
        ∀ id,
          inbox.find? id ≠ none ↔
            id = envelope.eventId ∨ db.consumerInbox.find? id ≠ none := by
      intro id
      rw [Table.find?_of_insert? inserted]
      change (if id = envelope.eventId then _ else _) ≠ none ↔ _
      by_cases same : id = envelope.eventId
      · simp [same]
      · simp [same]
    cases message : envelope.message with
    | seatsChanged eventId seats =>
        simp only [message, requestRefresh, bind_eq_ok,
          pure_eq_ok] at rest
        obtain ⟨_, _, rfl⟩ := rest
        exact .requested eventId seats fresh message inboxAfter rfl
    | orderPaid orderId =>
        simp only [message, fulfilOrder, bind_eq_ok] at rest
        obtain ⟨order, _, _, _, announced⟩ := rest
        have same := (frame_of_event announced).toSameQueue
        refine .other fresh (by simp [message]) ?_ same.refresh
        rw [same.inbox]
        exact inboxAfter
    | refundRequested paymentId orderId =>
        simp only [message, pure_eq_ok] at rest
        subst rest
        exact .other fresh (by simp [message]) inboxAfter rfl
    | ticketsIssued orderId =>
        simp only [message, pure_eq_ok] at rest
        subst rest
        exact .other fresh (by simp [message]) inboxAfter rfl
    | unknown eventType =>
        simp only [message, throw_eq_ok] at rest

end FlashTicketing
