import FlashTicketing.OrderLifecycle
import FlashTicketing.PostgresConsumer

namespace FlashTicketing

open Relational Checked Transition

/-!
# Fulfilment

The consumer takes an envelope at most once, and its handlers are idempotent and
commute, so deliveries in any order and with any repetition end with the same
orders, refunds and tickets.  Behind this stands an invariant of the store: an
`OrderPaid` row has a paid order, a `RefundRequested` row has a refund, and what
the inbox has was done.
-/

variable {Hash : Type}

/-! ## Tickets -/

/-- The booking has a ticket. -/
def HasTicket (db : Database Hash) (bookingId : Uuid) : Prop :=
  ∃ ticket ∈ db.tickets, ticket.bookingId = bookingId

/-- No booking has two tickets. -/
def TicketsUnique (tickets : Table Ticket) : Prop :=
  ∀ first second,
    first ∈ tickets →
    second ∈ tickets →
    first.bookingId = second.bookingId →
    first = second

theorem issueTicket_cases
    (tickets : Table Ticket)
    (ticket : Ticket) :
    (issueTicket tickets ticket = tickets ∧
      ((∃ other ∈ tickets, other.bookingId = ticket.bookingId) ∨
        tickets.find? ticket.id ≠ none)) ∨
    ((∀ other ∈ tickets, other.bookingId ≠ ticket.bookingId) ∧
      ∀ {row},
        row ∈ issueTicket tickets ticket ↔ row ∈ tickets ∨ row = ticket) := by
  unfold issueTicket
  split
  · rename_i issued
    obtain ⟨other, member, same⟩ := List.any_eq_true.mp issued
    exact Or.inl ⟨rfl, Or.inl ⟨other, member, of_decide_eq_true same⟩⟩
  · rename_i unissued
    have free : ∀ other ∈ tickets, other.bookingId ≠ ticket.bookingId := by
      intro other member same
      exact unissued
        (List.any_eq_true.mpr ⟨other, member, decide_eq_true same⟩)
    cases inserted : tickets.insert? ticket with
    | none =>
        refine Or.inl ⟨rfl, Or.inr ?_⟩
        intro absent
        obtain ⟨_, isSome⟩ := Table.insert?_isSome absent
        rw [inserted] at isSome
        cases isSome
    | some after =>
        refine Or.inr ⟨free, ?_⟩
        intro row
        exact Table.mem_of_insert? inserted

/-- The loop of the `OrderPaid` branch, from a given draw on. -/
def issueTickets
    (uuid4 : Nat → Uuid)
    (start : Nat)
    (bookings : List Booking)
    (tickets : Table Ticket) : Table Ticket :=
  (bookings.zipIdx start).foldl
    (fun tickets indexed => issueTicket tickets {
      id := uuid4 indexed.2
      bookingId := indexed.1.id })
    tickets

theorem issueTickets_cons
    (uuid4 : Nat → Uuid)
    (start : Nat)
    (booking : Booking)
    (rest : List Booking)
    (tickets : Table Ticket) :
    issueTickets uuid4 start (booking :: rest) tickets =
      issueTickets uuid4 (start + 1) rest
        (issueTicket tickets {
          id := uuid4 start
          bookingId := booking.id }) :=
  rfl

/-- Tickets stay, new ones belong to the bookings, and none is a second one. -/
structure Issues
    (bookings : List Booking)
    (tickets after : Table Ticket) : Prop where
  kept : ∀ {ticket}, ticket ∈ tickets → ticket ∈ after
  added :
    ∀ {ticket},
      ticket ∈ after →
      ticket ∈ tickets ∨
        ∃ booking ∈ bookings, ticket.bookingId = booking.id
  unique : TicketsUnique tickets → TicketsUnique after

theorem issues_issueTicket
    (tickets : Table Ticket)
    (ticketId : Uuid)
    (booking : Booking) :
    Issues [booking] tickets
      (issueTicket tickets { id := ticketId, bookingId := booking.id }) := by
  let ticket : Ticket := { id := ticketId, bookingId := booking.id }
  rcases issueTicket_cases tickets ticket with ⟨same, _⟩ | ⟨free, members⟩
  · rw [same]
    exact ⟨id, Or.inl, id⟩
  · refine ⟨fun member => members.mpr (Or.inl member), ?_, ?_⟩
    · intro row member
      rcases members.mp member with old | rfl
      · exact Or.inl old
      · exact Or.inr ⟨booking, List.mem_singleton_self _, rfl⟩
    · intro before first second firstMember secondMember same
      rcases members.mp firstMember with firstOld | rfl
      · rcases members.mp secondMember with secondOld | rfl
        · exact before first second firstOld secondOld same
        · exact absurd same (free first firstOld)
      · rcases members.mp secondMember with secondOld | rfl
        · exact absurd same.symm (free second secondOld)
        · rfl

theorem issues_issueTickets
    (uuid4 : Nat → Uuid)
    (start : Nat)
    (bookings : List Booking)
    (tickets : Table Ticket) :
    Issues bookings tickets
      (issueTickets uuid4 start bookings tickets) := by
  induction bookings generalizing start tickets with
  | nil =>
      exact ⟨id, Or.inl, id⟩
  | cons booking rest inductionHypothesis =>
      rw [issueTickets_cons]
      have head := issues_issueTicket tickets (uuid4 start) booking
      have tail := inductionHypothesis (start + 1)
        (issueTicket tickets { id := uuid4 start, bookingId := booking.id })
      refine ⟨fun member => tail.kept (head.kept member), ?_,
        fun before => tail.unique (head.unique before)⟩
      intro ticket member
      rcases tail.added member with early | ⟨other, listed, isOther⟩
      · rcases head.added early with old | ⟨other, listed, isOther⟩
        · exact Or.inl old
        · cases List.mem_singleton.mp listed
          exact Or.inr ⟨booking, List.mem_cons_self, isOther⟩
      · exact Or.inr ⟨other, List.mem_cons_of_mem _ listed, isOther⟩

/-- With fresh identifiers the loop leaves no booking without a ticket. -/
theorem issueTickets_issues
    {uuid4 : Nat → Uuid}
    {start : Nat}
    {bookings : List Booking}
    {tickets : Table Ticket}
    (distinct : Function.Injective uuid4)
    (fresh : ∀ draw, start ≤ draw → tickets.find? (uuid4 draw) = none) :
    ∀ booking ∈ bookings,
      ∃ ticket ∈ issueTickets uuid4 start bookings tickets,
        ticket.bookingId = booking.id := by
  induction bookings generalizing start tickets with
  | nil =>
      intro booking listed
      cases listed
  | cons head rest inductionHypothesis =>
      let ticket : Ticket := { id := uuid4 start, bookingId := head.id }
      have headIssued :
          ∃ row ∈ issueTicket tickets ticket, row.bookingId = head.id := by
        rcases issueTicket_cases tickets ticket with
          ⟨same, ⟨other, member, isOther⟩ | collides⟩ | ⟨_, members⟩
        · rw [same]
          exact ⟨other, member, isOther⟩
        · exact absurd (fresh start (Nat.le_refl _)) collides
        · exact ⟨ticket, members.mpr (Or.inr rfl), rfl⟩
      have freshNext :
          ∀ draw,
            start + 1 ≤ draw →
            (issueTicket tickets ticket).find? (uuid4 draw) = none := by
        intro draw later
        rw [Table.find?_eq_none_iff]
        intro row member isDraw
        have old := fresh draw (by omega)
        rw [Table.find?_eq_none_iff] at old
        rcases issueTicket_cases tickets ticket with
          ⟨same, _⟩ | ⟨_, members⟩
        · rw [same] at member
          exact old row member isDraw
        · rcases members.mp member with before | rfl
          · exact old row before isDraw
          · have sameDraw := distinct isDraw
            omega
      intro booking listed
      rw [issueTickets_cons]
      rcases List.mem_cons.mp listed with rfl | inRest
      · obtain ⟨row, member, isHead⟩ := headIssued
        exact ⟨row, (issues_issueTickets _ _ _ _).kept member, isHead⟩
      · exact inductionHypothesis freshNext booking inRest

/-! ## What consuming does -/

/-- What taking an envelope does to orders, refunds and tickets. -/
inductive Fulfils
    (envelope : Envelope)
    (ambient : Ambient)
    (db after : Database Hash) : Prop where
  | again
      (taken : db.consumerInbox.find? envelope.eventId ≠ none)
      (unchanged : after = db)
  | paid
      (orderId : Uuid)
      (order : Order)
      (message : envelope.message = .orderPaid orderId)
      (found : db.orders.find? orderId = some order)
      (orders :
        ∀ id,
          after.orders.find? id =
            (db.orders.find? id).map fun row =>
              { row with status := order.restated .fulfilled row })
      (tickets :
        after.tickets =
          issueTickets ambient.uuid4 0
            (db.bookings.select fun booking =>
              decide (booking.orderId = order.id))
            db.tickets)
      (bookings : after.bookings = db.bookings)
      (refunds : after.refundRequests = db.refundRequests)
  | refunded
      (paymentId orderId : Uuid)
      (message : envelope.message = .refundRequested paymentId orderId)
      (orders :
        ∀ id,
          after.orders.find? id =
            (db.orders.find? id).map fun row =>
              if row.id = orderId ∧ row.status = .refundPending then
                { row with status := .refunded }
              else
                row)
      (refunds :
        ∀ id,
          after.refundRequests.find? id =
            (db.refundRequests.find? id).map fun refund =>
              if refund.paymentId = paymentId then
                { refund with status := .refunded }
              else
                refund)
      (tickets : after.tickets = db.tickets)
      (bookings : after.bookings = db.bookings)
  | other
      (unpaid : ∀ orderId, envelope.message ≠ .orderPaid orderId)
      (unrefunded :
        ∀ paymentId orderId,
          envelope.message ≠ .refundRequested paymentId orderId)
      (orders : after.orders = db.orders)
      (tickets : after.tickets = db.tickets)
      (bookings : after.bookings = db.bookings)
      (refunds : after.refundRequests = db.refundRequests)

theorem fulfils_of_consumeEvent
    {envelope : Envelope}
    {ambient : Ambient}
    {db after : Database Hash}
    (accepted : consumeEvent envelope ambient db = .ok after) :
    Fulfils envelope ambient db after := by
  simp only [consumeEvent, bind_eq_ok] at accepted
  obtain ⟨_, _, rest⟩ := accepted
  split at rest
  · rename_i refused
    simp only [pure_eq_ok] at rest
    apply Fulfils.again _ rest.symm
    intro absent
    have inserts :
        ∃ inbox,
          db.consumerInbox.insert? { eventId := envelope.eventId } =
            some inbox :=
      Table.insert?_isSome absent
    rw [refused] at inserts
    exact absurd inserts nofun
  · cases message : envelope.message with
    | seatsChanged eventId seats =>
        simp only [message, requestRefresh, bind_eq_ok,
          pure_eq_ok] at rest
        obtain ⟨_, _, rfl⟩ := rest
        exact .other (by simp [message]) (by simp [message]) rfl rfl rfl rfl
    | orderPaid orderId =>
        simp only [message, fulfilOrder, bind_eq_ok, require_eq_ok,
          event_eq_ok] at rest
        obtain ⟨order, found, _, _, _, _, rfl⟩ := rest
        exact .paid orderId order message found (setOrderStatus_find? _ _ _)
          rfl rfl rfl
    | refundRequested paymentId orderId =>
        simp only [message, pure_eq_ok] at rest
        subst rest
        exact .refunded paymentId orderId message
          (fun _ => by simp [completeRefund])
          (fun _ => by simp [completeRefund]) rfl rfl
    | ticketsIssued orderId =>
        simp only [message, pure_eq_ok] at rest
        subst rest
        exact .other (by simp [message]) (by simp [message]) rfl rfl rfl rfl
    | unknown eventType =>
        simp only [message, throw_eq_ok] at rest

/-- Consuming announces tickets and nothing that would have to be settled. -/
theorem quiet_of_consumeEvent
    {envelope : Envelope}
    {ambient : Ambient}
    {db after : Database Hash}
    (accepted : consumeEvent envelope ambient db = .ok after) :
    ∀ row ∈ after.outboxEvents,
      row ∈ db.outboxEvents ∨ row.message.isSettlement = false := by
  simp only [consumeEvent, bind_eq_ok] at accepted
  obtain ⟨_, _, rest⟩ := accepted
  split at rest
  · simp only [pure_eq_ok] at rest
    exact fun _ member => Or.inl (rest ▸ member)
  · cases message : envelope.message with
    | seatsChanged eventId seats =>
        simp only [message, requestRefresh, bind_eq_ok,
          pure_eq_ok] at rest
        obtain ⟨_, _, rfl⟩ := rest
        exact fun _ => Or.inl
    | orderPaid orderId =>
        simp only [message, fulfilOrder, bind_eq_ok, event_eq_ok] at rest
        obtain ⟨_, _, _, _, _, inserted, rfl⟩ := rest
        intro row member
        rcases (Table.mem_of_insert? inserted).mp member with old | rfl
        · exact Or.inl old
        · exact Or.inr rfl
    | refundRequested paymentId orderId =>
        simp only [message, pure_eq_ok] at rest
        subst rest
        exact fun _ => Or.inl
    | ticketsIssued orderId =>
        simp only [message, pure_eq_ok] at rest
        subst rest
        exact fun _ => Or.inl
    | unknown eventType =>
        simp only [message, throw_eq_ok] at rest

/-! ## Settlements are not undone -/

/-- What a status that has settled the order says about every later one. -/
structure OrderStatus.Advances (before after : OrderStatus) : Prop where
  paid : before.isPaid = true → after.isPaid = true
  refunding : before.isRefund = true → after.isRefund = true
  final : before = .fulfilled ∨ before = .refunded → after = before

theorem OrderStatus.Moved.advances
    {before after : OrderStatus}
    (moved : before.Moved after) :
    before.Advances after := by
  rcases moved with rfl | moves
  · exact ⟨id, id, fun _ => rfl⟩
  · cases moves <;>
      exact ⟨by simp [OrderStatus.isPaid], by simp [OrderStatus.isRefund],
        by simp⟩

theorem OrderStatus.Advances.trans
    {first second third : OrderStatus}
    (early : first.Advances second)
    (late : second.Advances third) :
    first.Advances third := by
  refine ⟨fun paid => late.paid (early.paid paid),
    fun refunding => late.refunding (early.refunding refunding), ?_⟩
  intro final
  have same := early.final final
  rw [← same] at final
  exact (late.final final).trans same

/-- Orders advance and refunds stay, refunded ones as they are. -/
structure SettlementsKept (db after : Database Hash) : Prop where
  orders : OrdersRestated OrderStatus.Advances db after
  refunds :
    ∀ {id refund},
      db.refundRequests.find? id = some refund →
      ∃ next,
        after.refundRequests.find? id = some next ∧
          (refund.status = .refunded → next = refund)

namespace SettlementsKept

theorem refl (db : Database Hash) : SettlementsKept db db :=
  ⟨.of_kept (fun _ => ⟨id, id, fun _ => rfl⟩) id,
    fun found => ⟨_, found, fun _ => rfl⟩⟩

theorem trans
    {first second third : Database Hash}
    (early : SettlementsKept first second)
    (late : SettlementsKept second third) :
    SettlementsKept first third := by
  refine ⟨early.orders.trans OrderStatus.Advances.trans late.orders, ?_⟩
  intro id refund found
  obtain ⟨middle, middleFound, sameMiddle⟩ := early.refunds found
  obtain ⟨last, lastFound, sameLast⟩ := late.refunds middleFound
  refine ⟨last, lastFound, ?_⟩
  intro refunded
  have isMiddle := sameMiddle refunded
  rw [← isMiddle] at refunded
  exact (sameLast refunded).trans isMiddle

theorem of_change
    {now : Int}
    {db after : Database Hash}
    (settled : PaymentsSettled db)
    (change : Change now db after) :
    SettlementsKept db after := by
  refine ⟨(OrdersRestated.of_change settled change).mono
    fun _ _ moved => moved.advances, ?_⟩
  have kept
      (same : after.refundRequests = db.refundRequests)
      {id : Uuid}
      {refund : RefundRequest}
      (found : db.refundRequests.find? id = some refund) :
      ∃ next,
        after.refundRequests.find? id = some next ∧
          (refund.status = .refunded → next = refund) :=
    ⟨refund, same ▸ found, fun _ => rfl⟩
  intro id refund found
  cases change with
  | bookkeeping _ _ commerce => exact kept commerce.refunds found
  | placed _ _ _ _ _ placed => exact kept placed.commerce.refunds found
  | released _ _ _ _ _ _ commerce => exact kept commerce.refunds found
  | paymentOpened _ _ _ _ _ _ _ _ _ refunds => exact kept refunds found
  | booked _ _ _ _ _ _ _ _ _ _ _ refunds => exact kept refunds found
  | failed _ _ _ _ _ _ _ _ _ refunds => exact kept refunds found
  | noted _ _ _ _ _ _ _ _ _ refunds => exact kept refunds found
  | fulfilled _ _ _ _ _ commerce => exact kept commerce.refunds found
  | refunded _ _ _ _ _ _ _ _ _ _ _ refunds =>
      refine ⟨refund, ?_, fun _ => rfl⟩
      rw [refunds, if_neg]
      · exact found
      · rintro ⟨_, absent⟩
        cases absent.symm.trans found
  | refundCompleted _ _ _ _ _ refunds =>
      refine ⟨_, by rw [refunds, found, Option.map_some], ?_⟩
      intro refunded
      split
      · rw [← refunded]
      · rfl

end SettlementsKept

/-! ## What a message owes and what its delivery does -/

/-- The order has the status. -/
def OrderIs
    (db : Database Hash)
    (orderId : Uuid)
    (status : OrderStatus) : Prop :=
  ∃ order, db.orders.find? orderId = some order ∧ order.status = status

/-- What is stored once the message is in the outbox. -/
def Message.Due (db : Database Hash) : Message → Prop
  | .orderPaid orderId => IsPaid db orderId
  | .refundRequested paymentId orderId =>
      (∃ order,
        db.orders.find? orderId = some order ∧
          order.status.isRefund = true) ∧
        ∃ refund, db.refundRequests.find? paymentId = some refund
  | _ => True

/-- What is stored once the message has been handled. -/
def Message.Done (db : Database Hash) : Message → Prop
  | .orderPaid orderId => OrderIs db orderId .fulfilled
  | .refundRequested paymentId orderId =>
      OrderIs db orderId .refunded ∧
        ∃ refund,
          db.refundRequests.find? paymentId = some refund ∧
            refund.status = .refunded
  | _ => True

theorem Message.Due.kept
    {db after : Database Hash}
    {message : Message}
    (kept : SettlementsKept db after)
    (due : message.Due db) :
    message.Due after := by
  cases message with
  | orderPaid orderId =>
      obtain ⟨order, found, paid⟩ := due
      obtain ⟨status, foundAfter, advances⟩ := kept.orders _ order found
      exact ⟨_, foundAfter, advances.paid paid⟩
  | refundRequested paymentId orderId =>
      obtain ⟨⟨order, found, refunding⟩, refund, refundFound⟩ := due
      obtain ⟨status, foundAfter, advances⟩ := kept.orders _ order found
      obtain ⟨next, nextFound, _⟩ := kept.refunds refundFound
      exact ⟨⟨_, foundAfter, advances.refunding refunding⟩, next, nextFound⟩
  | seatsChanged | ticketsIssued | unknown => trivial

theorem OrderIs.kept
    {db after : Database Hash}
    {orderId : Uuid}
    {status : OrderStatus}
    (kept : SettlementsKept db after)
    (final : status = .fulfilled ∨ status = .refunded)
    (orderIs : OrderIs db orderId status) :
    OrderIs after orderId status := by
  obtain ⟨order, found, rfl⟩ := orderIs
  obtain ⟨_, foundAfter, advances⟩ := kept.orders _ order found
  exact ⟨_, foundAfter, advances.final final⟩

theorem Message.Done.kept
    {db after : Database Hash}
    {message : Message}
    (kept : SettlementsKept db after)
    (isDone : message.Done db) :
    message.Done after := by
  cases message with
  | orderPaid orderId => exact OrderIs.kept kept (Or.inl rfl) isDone
  | refundRequested paymentId orderId =>
      obtain ⟨order, refund, found, refunded⟩ := isDone
      obtain ⟨next, nextFound, same⟩ := kept.refunds found
      refine ⟨order.kept kept (Or.inr rfl), next, nextFound, ?_⟩
      rw [same refunded, refunded]
  | seatsChanged | ticketsIssued | unknown => trivial

theorem Message.done_of_quiet
    {db : Database Hash}
    {message : Message}
    (quiet : message.isSettlement = false) :
    message.Done db := by
  cases message with
  | orderPaid | refundRequested => cases quiet
  | seatsChanged | ticketsIssued | unknown => trivial

/-- Every message of the outbox has what it is about. -/
def Dues (db : Database Hash) : Prop :=
  ∀ row ∈ db.outboxEvents, row.message.Due db

theorem Message.due_of_quiet
    {db : Database Hash}
    {message : Message}
    (quiet : message.isSettlement = false) :
    message.Due db := by
  cases message with
  | orderPaid | refundRequested => cases quiet
  | seatsChanged | ticketsIssued | unknown => trivial

/-- It is enough to look at the rows that a change adds. -/
theorem Dues.of_announces
    {db after : Database Hash}
    {added : List OutboxEvent}
    (dues : Dues db)
    (kept : SettlementsKept db after)
    (announces : Announces added db after)
    (addedDue :
      ∀ row ∈ added, row.message.isSettlement = true → row.message.Due after) :
    Dues after := by
  intro row member
  rcases (announces.rows row).mp member with old | new
  · exact (dues row old).kept kept
  · cases settlement : row.message.isSettlement with
    | true => exact addedDue row new settlement
    | false => exact Message.due_of_quiet settlement

/-- A restated order is found with its new status. -/
theorem Revised.order_restated
    {holdStatus : Hold → HoldStatus}
    {reseat : EventSeat → EventSeat}
    {order : Order}
    {status : OrderStatus}
    {db after : Database Hash}
    (revised : Revised holdStatus (order.restated status) reseat db after)
    (stored : db.orders.find? order.id = some order) :
    after.orders.find? order.id = some { order with status := status } := by
  rw [revised.order_after stored, Order.restated, if_pos rfl]

theorem Dues.change
    {now : Int}
    {db after : Database Hash}
    (settled : PaymentsSettled db)
    (dues : Dues db)
    (change : Change now db after) :
    Dues after := by
  have kept : SettlementsKept db after := .of_change settled change
  cases change with
  | bookkeeping _ _ _ announces quiet =>
      apply dues.of_announces kept announces
      intro row added settlement
      cases (quiet row added).symm.trans settlement
  | placed _ _ _ _ _ placed =>
      exact dues.of_announces kept placed.announces (by simp [Message.isSettlement])
  | paymentOpened _ _ _ _ _ _ _ _ _ _ _ announces =>
      exact dues.of_announces kept announces (by simp)
  | refundCompleted _ _ _ _ _ _ announces =>
      exact dues.of_announces kept announces (by simp)
  | released _ _ _ _ _ _ _ announces =>
      exact dues.of_announces kept announces
        (by simp [seatsChangedRow, Message.isSettlement])
  | failed _ _ _ _ _ _ _ _ _ _ _ announces =>
      exact dues.of_announces kept announces
        (by simp [seatsChangedRow, Message.isSettlement])
  | noted _ _ _ _ _ _ _ _ _ _ _ announces =>
      exact dues.of_announces kept announces
        (by simp [seatsChangedRow, Message.isSettlement])
  | fulfilled _ _ _ _ _ _ announces =>
      exact dues.of_announces kept announces (by simp [Message.isSettlement])
  | booked _ order _ _ _ _ callable _ _ revised _ _ _ _ _ _ announces =>
      have paid : IsPaid after order.id :=
        ⟨_, revised.order_restated callable.order_stored, rfl⟩
      apply dues.of_announces kept announces
      simp [seatsChangedRow, Message.isSettlement, Message.Due, paid]
  | refunded payment order _ _ _ _ callable _ revised _ _ refunds announces =>
      have stored := revised.order_restated callable.order_stored
      have requested :
          ∃ refund, after.refundRequests.find? payment.id = some refund := by
        rw [refunds]
        split
        · exact ⟨_, rfl⟩
        · rename_i present
          exact Option.ne_none_iff_exists'.mp fun absent =>
            present ⟨rfl, absent⟩
      have refunding :
          ∃ row,
            after.orders.find? order.id = some row ∧
              row.status.isRefund = true :=
        ⟨_, stored, rfl⟩
      apply dues.of_announces kept announces
      simp [seatsChangedRow, Message.isSettlement, Message.Due, requested,
        refunding]

/-! ## The invariant -/

/-- The invariant of the store about fulfilment. -/
structure FulfilmentSound (db : Database Hash) : Prop where
  safe : BookingSafe db
  settled : PaymentsSettled db
  dues : Dues db
  ticketOf :
    ∀ ticket ∈ db.tickets,
      ∃ booking ∈ db.bookings, booking.id = ticket.bookingId
  once : TicketsUnique db.tickets
  ticketed :
    ∀ booking ∈ db.bookings,
      OrderIs db booking.orderId .fulfilled →
      HasTicket db booking.id
  taken :
    ∀ row ∈ db.outboxEvents,
      db.consumerInbox.find? row.id ≠ none →
      row.message.Done db

/-- The identifiers drawn in a transaction are new and distinct. -/
structure Ambient.Fresh (ambient : Ambient) (db : Database Hash) : Prop where
  distinct : Function.Injective ambient.uuid4
  tickets : ∀ draw, db.tickets.find? (ambient.uuid4 draw) = none
  outbox : ∀ draw, db.outboxEvents.find? (ambient.uuid4 draw) = none
  inbox : ∀ draw, db.consumerInbox.find? (ambient.uuid4 draw) = none

/--
An envelope made from rows of the outbox: a row itself, or the `OrderPaid`
message of a row under a new identifier.
-/
def Delivers
    (events : List OutboxEvent)
    (db : Database Hash)
    (envelope : Envelope) : Prop :=
  envelope.schemaVersion = 1 ∧
    ∃ row ∈ events,
      row.message = envelope.message ∧
        (row.id = envelope.eventId ∨
          (∃ orderId, row.message = .orderPaid orderId) ∧
            db.outboxEvents.find? envelope.eventId = none)

theorem Dues.of_delivers
    {db : Database Hash}
    {events : List OutboxEvent}
    {envelope : Envelope}
    (dues : Dues db)
    (known : ∀ row ∈ events, row ∈ db.outboxEvents)
    (delivers : Delivers events db envelope) :
    envelope.message.Due db := by
  obtain ⟨_, row, member, isMessage, _⟩ := delivers
  rw [← isMessage]
  exact dues row (known row member)

/-- Changes keep the bookings, and add none to a paid order. -/
theorem bookings_of_changes
    {now : Int}
    {db after : Database Hash}
    {booking : Booking}
    (safe : BookingSafe db)
    (changes : Changes now db after) :
    (booking ∈ db.bookings → booking ∈ after.bookings) ∧
      (IsPaid db booking.orderId →
        booking ∈ after.bookings →
        booking ∈ db.bookings) := by
  have safeAfter : BookingSafe after :=
    changes.invariant BookingSafe.change safe
  have sales : SalesKept db after :=
    Changes.relates BookingSafe changes BookingSafe.change SalesKept.refl
      SalesKept.trans SalesKept.of_change safe
  have items : ItemsKept db after := LifecycleSound.itemsKept_of_changes changes
  have same
      (booked : HasBooking db booking.place booking.orderId) :
      booking ∈ after.bookings ↔ booking ∈ db.bookings := by
    obtain ⟨seat, found, isBooked⟩ := (safe.booked_iff _ _).mpr booked
    exact (sales found (by simp [isBooked])).2 rfl
  constructor
  · intro member
    exact (same ⟨booking, member, rfl, rfl⟩).mpr member
  · intro paid member
    have present : db.orders.find? booking.orderId ≠ none := by
      obtain ⟨order, found, _⟩ := paid
      simp [found]
    obtain ⟨_, item, itemMember, isOrder, isPlace⟩ :=
      (safeAfter.booking_iff _ _).mp ⟨booking, member, rfl, rfl⟩
    have listed : item ∈ after.itemsOf booking.orderId :=
      mem_itemsOf.mpr ⟨itemMember, isOrder⟩
    have before := mem_itemsOf.mp (((items _ present).2 item).mp listed)
    have booked : HasBooking db booking.place booking.orderId :=
      (safe.booking_iff _ _).mpr ⟨paid, item, before.1, isOrder, isPlace⟩
    exact (same booked).mp member

namespace FulfilmentSound

variable {db after : Database Hash}

/-- The part of the invariant that does not look at tickets and inbox. -/
theorem of_changes
    {now : Int}
    (sound : FulfilmentSound db)
    (changes : Changes now db after) :
    (BookingSafe after ∧ PaymentsSettled after ∧ Dues after) ∧
      SettlementsKept db after := by
  induction changes with
  | refl =>
      exact ⟨⟨sound.safe, sound.settled, sound.dues⟩, .refl _⟩
  | tail _ change inductionHypothesis =>
      obtain ⟨⟨safe, settled, dues⟩, kept⟩ := inductionHypothesis
      exact ⟨⟨safe.change change, settled.change change,
        dues.change settled change⟩,
        kept.trans (.of_change settled change)⟩

/-- A call other than the consumer's. -/
theorem of_frame
    {ambient : Ambient}
    (sound : FulfilmentSound db)
    (fresh : ambient.Fresh db)
    (changes : Changes ambient.now db after)
    (frame : ConsumerFrame ambient.uuid4 db after) :
    FulfilmentSound after := by
  obtain ⟨⟨safe, settled, dues⟩, kept⟩ := sound.of_changes changes
  refine ⟨safe, settled, dues, ?_, ?_, ?_, ?_⟩
  · intro ticket member
    rw [frame.tickets] at member
    obtain ⟨booking, booked, isBooking⟩ := sound.ticketOf ticket member
    exact ⟨booking, (bookings_of_changes sound.safe changes).1 booked,
      isBooking⟩
  · rw [frame.tickets]
    exact sound.once
  · rintro booking member ⟨order, found, isFulfilled⟩
    have before := frame.fulfilled found isFulfilled
    have paid : IsPaid db booking.orderId :=
      ⟨order, before, by rw [isFulfilled]; rfl⟩
    have booked := (bookings_of_changes sound.safe changes).2 paid member
    obtain ⟨ticket, issued, isBooking⟩ :=
      sound.ticketed booking booked ⟨order, before, isFulfilled⟩
    exact ⟨ticket, frame.tickets ▸ issued, isBooking⟩
  · intro row member taken
    rw [frame.inbox] at taken
    rcases frame.drawn row member with old | ⟨draw, isDrawn⟩
    · exact (sound.taken row old taken).kept kept
    · rw [isDrawn, fresh.inbox] at taken
      exact absurd rfl taken

end FulfilmentSound

/-! ## Deliveries -/

section Deliveries

variable
  {envelope : Envelope}
  {ambient : Ambient}
  {db after : Database Hash}

/-- After a delivery the envelope is taken, and nothing else is. -/
theorem inbox_of_consumeEvent
    (accepted : consumeEvent envelope ambient db = .ok after)
    (id : Uuid) :
    after.consumerInbox.find? id ≠ none ↔
      id = envelope.eventId ∨ db.consumerInbox.find? id ≠ none := by
  cases consumes_of_consumeEvent accepted with
  | again taken unchanged =>
      rw [unchanged]
      constructor
      · exact Or.inr
      · rintro (rfl | old)
        · exact taken
        · exact old
  | requested _ _ _ _ inbox => exact inbox id
  | other _ _ inbox => exact inbox id

/-- Tickets are issued for the bookings of the order that is paid. -/
theorem Fulfils.issues
    (fulfils : Fulfils envelope ambient db after) :
    after.bookings = db.bookings ∧
      ∃ bookings,
        (∀ booking ∈ bookings,
          booking ∈ db.bookings ∧
            envelope.message = .orderPaid booking.orderId) ∧
          Issues bookings db.tickets after.tickets := by
  have quiet
      (bookings : after.bookings = db.bookings)
      (tickets : after.tickets = db.tickets) :
      after.bookings = db.bookings ∧
        ∃ bookings,
          (∀ booking ∈ bookings,
            booking ∈ db.bookings ∧
              envelope.message = .orderPaid booking.orderId) ∧
            Issues bookings db.tickets after.tickets := by
    refine ⟨bookings, [], nofun, ?_⟩
    rw [tickets]
    exact ⟨id, Or.inl, id⟩
  cases fulfils with
  | again _ unchanged => exact quiet (by rw [unchanged]) (by rw [unchanged])
  | paid _ order message found _ tickets bookings =>
      refine ⟨bookings, _, ?_, tickets ▸ issues_issueTickets _ _ _ _⟩
      intro booking selected
      obtain ⟨member, ofOrder⟩ := Table.mem_select.mp selected
      refine ⟨member, ?_⟩
      rw [message, of_decide_eq_true ofOrder, ← Table.key_of_find? found]
      rfl
  | refunded _ _ _ _ _ tickets bookings => exact quiet bookings tickets
  | other _ _ _ tickets bookings => exact quiet bookings tickets

/-- A fulfilled order was fulfilled before, or all its bookings got tickets. -/
theorem Fulfils.fulfilled
    (fulfils : Fulfils envelope ambient db after)
    (fresh : ambient.Fresh db)
    {orderId : Uuid}
    (isFulfilled : OrderIs after orderId .fulfilled) :
    OrderIs db orderId .fulfilled ∨
      ∀ booking ∈ db.bookings,
        booking.orderId = orderId → HasTicket after booking.id := by
  cases fulfils with
  | again _ unchanged => exact Or.inl (unchanged ▸ isFulfilled)
  | paid paidId order _ found orders tickets =>
      obtain ⟨next, nextFound, status⟩ := isFulfilled
      rw [orders, Option.map_eq_some_iff] at nextFound
      obtain ⟨row, rowFound, rfl⟩ := nextFound
      by_cases isOrder : row.id = order.id
      · right
        intro booking booked ofOrder
        have isRow : row.id = orderId := Table.key_of_find? rowFound
        have selected :
            booking ∈
              db.bookings.select fun booking =>
                decide (booking.orderId = order.id) := by
          simp [booked, ofOrder, ← isRow, isOrder]
        obtain ⟨ticket, issued, isBooking⟩ :=
          issueTickets_issues fresh.distinct
            (fun draw _ => fresh.tickets draw) booking selected
        exact ⟨ticket, tickets ▸ issued, isBooking⟩
      · left
        simp only [Order.restated, if_neg isOrder] at status
        exact ⟨row, rowFound, status⟩
  | refunded _ _ _ orders =>
      obtain ⟨next, nextFound, status⟩ := isFulfilled
      rw [orders, Option.map_eq_some_iff] at nextFound
      obtain ⟨row, rowFound, rfl⟩ := nextFound
      split at status
      · cases status
      · exact Or.inl ⟨row, rowFound, status⟩
  | other _ _ orders =>
      obtain ⟨order, found, status⟩ := isFulfilled
      exact Or.inl ⟨order, orders ▸ found, status⟩

/-- Taking an envelope does what its message asks for. -/
theorem Fulfils.isDone
    (fulfils : Fulfils envelope ambient db after)
    (fresh : db.consumerInbox.find? envelope.eventId = none)
    (due : envelope.message.Due db) :
    envelope.message.Done after := by
  cases fulfils with
  | again taken => exact absurd fresh taken
  | paid orderId order message found orders =>
      rw [message]
      refine ⟨_, by rw [orders, found, Option.map_some], ?_⟩
      exact if_pos rfl
  | refunded paymentId orderId message orders refunds =>
      rw [message] at due ⊢
      obtain ⟨⟨order, found, refunding⟩, refund, refundFound⟩ := due
      have isId : order.id = orderId := Table.key_of_find? found
      have isPayment : refund.paymentId = paymentId :=
        Table.key_of_find? refundFound
      constructor
      · refine ⟨_, by rw [orders, found, Option.map_some], ?_⟩
        split
        · rfl
        · rename_i other
          cases status : order.status with
          | refunded => rfl
          | refundPending => exact absurd ⟨isId, status⟩ other
          | pending | failed | expired | paid | fulfilled =>
              rw [status] at refunding
              cases refunding
      · refine ⟨_, by rw [refunds, refundFound, Option.map_some], ?_⟩
        rw [if_pos isPayment]
  | other unpaid unrefunded =>
      cases message : envelope.message with
      | orderPaid orderId => exact absurd message (unpaid orderId)
      | refundRequested paymentId orderId =>
          exact absurd message (unrefunded paymentId orderId)
      | seatsChanged | ticketsIssued | unknown => trivial

/-- A delivery by the consumer. -/
theorem FulfilmentSound.of_consumeEvent
    {events : List OutboxEvent}
    (sound : FulfilmentSound db)
    (fresh : ambient.Fresh db)
    (known : ∀ row ∈ events, row ∈ db.outboxEvents)
    (delivers : Delivers events db envelope)
    (accepted : consumeEvent envelope ambient db = .ok after) :
    FulfilmentSound after := by
  obtain ⟨⟨safe, settled, dues⟩, kept⟩ :=
    sound.of_changes (changes_of_consumeEvent accepted)
  have fulfils := fulfils_of_consumeEvent accepted
  obtain ⟨sameBookings, bookings, stored, issues⟩ := fulfils.issues
  refine ⟨safe, settled, dues, ?_, issues.unique sound.once, ?_, ?_⟩
  · intro ticket member
    rw [sameBookings]
    rcases issues.added member with old | ⟨booking, listed, isBooking⟩
    · exact sound.ticketOf ticket old
    · exact ⟨booking, (stored booking listed).1, isBooking.symm⟩
  · intro booking member isFulfilled
    rw [sameBookings] at member
    rcases fulfils.fulfilled fresh isFulfilled with before | ticketed
    · obtain ⟨ticket, issued, isBooking⟩ :=
        sound.ticketed booking member before
      exact ⟨ticket, issues.kept issued, isBooking⟩
    · exact ticketed booking member rfl
  · intro row member taken
    rcases quiet_of_consumeEvent accepted row member with old | quiet
    · by_cases before : db.consumerInbox.find? row.id = none
      · have isEnvelope : row.id = envelope.eventId :=
          ((inbox_of_consumeEvent accepted row.id).mp taken).resolve_right
            (not_not_intro before)
        have found := Table.find?_key old
        have message : row.message = envelope.message := by
          obtain ⟨_, origin, listed, sameMessage, isOrigin | ⟨_, new⟩⟩ :=
            delivers
          · have originFound := Table.find?_key (known origin listed)
            change db.outboxEvents.find? origin.id = some origin
              at originFound
            change db.outboxEvents.find? row.id = some row at found
            rw [isOrigin, ← isEnvelope, found] at originFound
            cases originFound
            exact sameMessage
          · rw [← isEnvelope] at new
            cases new.symm.trans found
        rw [message]
        exact fulfils.isDone (isEnvelope ▸ before)
          (sound.dues.of_delivers known delivers)
      · exact (sound.taken row old before).kept kept
    · exact Message.done_of_quiet quiet

/-- A settlement message from the outbox is always accepted. -/
theorem FulfilmentSound.accepts
    {events : List OutboxEvent}
    (sound : FulfilmentSound db)
    (fresh : ambient.Fresh db)
    (known : ∀ row ∈ events, row ∈ db.outboxEvents)
    (delivers : Delivers events db envelope)
    (settlement : envelope.message.isSettlement = true) :
    ∃ after, consumeEvent envelope ambient db = .ok after := by
  have due := sound.dues.of_delivers known delivers
  simp only [consumeEvent, bind_eq_ok, ensure_eq_ok]
  cases inserted :
      db.consumerInbox.insert? { eventId := envelope.eventId } with
  | none => exact ⟨db, (), delivers.1, rfl⟩
  | some inbox =>
      cases message : envelope.message with
      | orderPaid orderId =>
          rw [message] at due
          obtain ⟨order, found, paid⟩ := due
          obtain ⟨outbox, announced⟩ :
              ∃ outbox,
                db.outboxEvents.insert? {
                  id := ambient.uuid4
                    (db.bookings.select fun booking =>
                      decide (booking.orderId = order.id)).length
                  aggregateId := order.id
                  message := .ticketsIssued order.id } = some outbox :=
            Table.insert?_isSome (fresh.outbox _)
          simp only [fulfilOrder, bind_eq_ok, require_eq_ok, ensure_eq_ok,
            event_eq_ok]
          exact ⟨_, (), delivers.1, order, found, (), paid, outbox,
            announced, rfl⟩
      | refundRequested paymentId orderId => exact ⟨_, (), delivers.1, rfl⟩
      | seatsChanged | ticketsIssued | unknown =>
          rw [message] at settlement
          cases settlement

end Deliveries

/-! ## What deliveries can change -/

/-- The status of a stored order. -/
def Database.orderStatus
    (db : Database Hash)
    (orderId : Uuid) : Option OrderStatus :=
  (db.orders.find? orderId).map Order.status

/-- The status of a stored refund. -/
def Database.refundStatus
    (db : Database Hash)
    (paymentId : Uuid) : Option RefundStatus :=
  (db.refundRequests.find? paymentId).map RefundRequest.status

theorem orderIs_iff
    {db : Database Hash}
    {orderId : Uuid}
    {status : OrderStatus} :
    OrderIs db orderId status ↔ db.orderStatus orderId = some status := by
  simp [OrderIs, Database.orderStatus]

/-- The message moves the order to its final status. -/
inductive Message.Concludes
    (orderId : Uuid) : Message → OrderStatus → Prop where
  | paid : Concludes orderId (.orderPaid orderId) .fulfilled
  | refunded
      (paymentId : Uuid) :
      Concludes orderId (.refundRequested paymentId orderId) .refunded

theorem Message.Done.concludes
    {db : Database Hash}
    {message : Message}
    {orderId : Uuid}
    {status : OrderStatus}
    (isDone : message.Done db)
    (concludes : message.Concludes orderId status) :
    db.orderStatus orderId = some status := by
  cases concludes with
  | paid => exact orderIs_iff.mp isDone
  | refunded => exact orderIs_iff.mp isDone.1

theorem Message.Done.refundStatus
    {db : Database Hash}
    {paymentId orderId : Uuid}
    (isDone : (Message.refundRequested paymentId orderId).Done db) :
    db.refundStatus paymentId = some .refunded := by
  obtain ⟨_, refund, found, refunded⟩ := isDone
  simp [Database.refundStatus, found, refunded]

/--
Orders, refunds and tickets are as before, except for what the messages of the
events say.
-/
structure Within
    (events : List OutboxEvent)
    (db after : Database Hash) : Prop where
  bookings : after.bookings = db.bookings
  orders :
    ∀ id,
      after.orderStatus id = db.orderStatus id ∨
        ∃ row ∈ events,
          ∃ status,
            row.message.Concludes id status ∧
              after.orderStatus id = some status
  refunds :
    ∀ id,
      after.refundStatus id = db.refundStatus id ∨
        ∃ row ∈ events,
          ∃ orderId,
            row.message = .refundRequested id orderId ∧
              after.refundStatus id = some .refunded
  tickets :
    ∀ id,
      (HasTicket after id ↔ HasTicket db id) ∨
        ∃ row ∈ events,
          ∃ booking ∈ db.bookings,
            booking.id = id ∧
              row.message = .orderPaid booking.orderId ∧
              HasTicket after id

namespace Within

variable
  {events : List OutboxEvent}
  {envelope : Envelope}
  {ambient : Ambient}
  {db middle after : Database Hash}

theorem refl (db : Database Hash) : Within events db db :=
  ⟨rfl, fun _ => Or.inl rfl, fun _ => Or.inl rfl, fun _ => Or.inl Iff.rfl⟩

/-- One delivery concludes the order that its message names. -/
theorem orders_of_fulfils
    (fulfils : Fulfils envelope ambient db after)
    (id : Uuid) :
    after.orderStatus id = db.orderStatus id ∨
      ∃ status,
        envelope.message.Concludes id status ∧
          after.orderStatus id = some status := by
  cases fulfils with
  | again _ unchanged => exact Or.inl (by rw [unchanged])
  | other _ _ orders => exact Or.inl (by simp [Database.orderStatus, orders])
  | paid orderId order message found orders =>
      have isOrder : order.id = orderId := Table.key_of_find? found
      by_cases same : id = orderId
      · subst same
        refine Or.inr ⟨.fulfilled, by rw [message]; exact .paid, ?_⟩
        simp [Database.orderStatus, orders, found, Order.restated]
      · left
        unfold Database.orderStatus
        rw [orders]
        cases stored : db.orders.find? id with
        | none => rfl
        | some other =>
            have isId : other.id = id := Table.key_of_find? stored
            simp [Order.restated, isId, isOrder, same]
  | refunded paymentId orderId message orders =>
      unfold Database.orderStatus
      rw [orders]
      cases stored : db.orders.find? id with
      | none => exact Or.inl rfl
      | some other =>
          by_cases concerned :
              other.id = orderId ∧ other.status = .refundPending
          · have isId : other.id = id := Table.key_of_find? stored
            obtain rfl : orderId = id := concerned.1.symm.trans isId
            refine Or.inr ⟨.refunded,
              by rw [message]; exact .refunded paymentId, ?_⟩
            simp [concerned]
          · exact Or.inl (by simp [concerned])

/-- One delivery completes the refund that its message names. -/
theorem refunds_of_fulfils
    (fulfils : Fulfils envelope ambient db after)
    (id : Uuid) :
    after.refundStatus id = db.refundStatus id ∨
      ∃ orderId,
        envelope.message = .refundRequested id orderId ∧
          after.refundStatus id = some .refunded := by
  cases fulfils with
  | again _ unchanged => exact Or.inl (by rw [unchanged])
  | other _ _ _ _ _ refunds =>
      exact Or.inl (by simp [Database.refundStatus, refunds])
  | paid _ _ _ _ _ _ _ refunds =>
      exact Or.inl (by simp [Database.refundStatus, refunds])
  | refunded paymentId orderId message _ refunds =>
      unfold Database.refundStatus
      rw [refunds]
      cases stored : db.refundRequests.find? id with
      | none => exact Or.inl rfl
      | some refund =>
          by_cases concerned : refund.paymentId = paymentId
          · have isId : refund.paymentId = id := Table.key_of_find? stored
            obtain rfl : paymentId = id := concerned.symm.trans isId
            exact Or.inr ⟨orderId, message, by simp [concerned]⟩
          · exact Or.inl (by simp [concerned])

/-- One delivery issues tickets for the bookings of the order it names. -/
theorem tickets_of_fulfils
    (fulfils : Fulfils envelope ambient db after)
    (id : Uuid) :
    (HasTicket after id ↔ HasTicket db id) ∨
      ∃ booking ∈ db.bookings,
        booking.id = id ∧
          envelope.message = .orderPaid booking.orderId ∧
          HasTicket after id := by
  obtain ⟨_, bookings, stored, issues⟩ := fulfils.issues
  by_cases before : HasTicket db id
  · left
    obtain ⟨ticket, member, isBooking⟩ := before
    exact iff_of_true ⟨ticket, issues.kept member, isBooking⟩
      ⟨ticket, member, isBooking⟩
  · by_cases issued : HasTicket after id
    · right
      obtain ⟨ticket, member, isTicket⟩ := issued
      rcases issues.added member with old | ⟨booking, ofOrder, isBooking⟩
      · exact absurd ⟨ticket, old, isTicket⟩ before
      · obtain ⟨booked, message⟩ := stored booking ofOrder
        exact ⟨booking, booked, isBooking.symm.trans isTicket, message,
          ticket, member, isTicket⟩
    · exact Or.inl (iff_of_false issued before)

/-- One delivery does what its row says. -/
theorem of_fulfils
    {row : OutboxEvent}
    (fulfils : Fulfils envelope ambient db after)
    (listed : row ∈ events)
    (isMessage : row.message = envelope.message) :
    Within events db after := by
  refine ⟨fulfils.issues.1, ?_, ?_, ?_⟩
  · intro id
    rcases orders_of_fulfils fulfils id with same | ⟨status, concludes, now⟩
    · exact Or.inl same
    · exact Or.inr ⟨row, listed, status, isMessage ▸ concludes, now⟩
  · intro id
    rcases refunds_of_fulfils fulfils id with same | ⟨orderId, named, now⟩
    · exact Or.inl same
    · exact Or.inr ⟨row, listed, orderId, isMessage.trans named, now⟩
  · intro id
    rcases tickets_of_fulfils fulfils id with
      same | ⟨booking, booked, isId, named, issued⟩
    · exact Or.inl same
    · exact Or.inr ⟨row, listed, booking, booked, isId,
        isMessage.trans named, issued⟩

/-- Later deliveries of the same events add nothing else. -/
theorem trans
    (early : Within events db middle)
    (late : Within events middle after) :
    Within events db after := by
  refine ⟨late.bookings.trans early.bookings, ?_, ?_, ?_⟩
  · intro id
    rcases late.orders id with same | concluded
    · rw [same]
      exact early.orders id
    · exact Or.inr concluded
  · intro id
    rcases late.refunds id with same | concluded
    · rw [same]
      exact early.refunds id
    · exact Or.inr concluded
  · intro id
    rcases late.tickets id with same | ⟨row, listed, booking, booked, rest⟩
    · rw [same]
      exact early.tickets id
    · exact Or.inr ⟨row, listed, booking, early.bookings ▸ booked, rest⟩

end Within

/-- Orders, refunds and ticketed bookings are the same. -/
structure SameFulfilment (first second : Database Hash) : Prop where
  orders : ∀ id, first.orderStatus id = second.orderStatus id
  refunds : ∀ id, first.refundStatus id = second.refundStatus id
  tickets : ∀ id, HasTicket first id ↔ HasTicket second id

/-- Where every event has been handled, the outcome is determined. -/
theorem Within.agree
    {events : List OutboxEvent}
    {db first second : Database Hash}
    (firstWithin : Within events db first)
    (secondWithin : Within events db second)
    (firstSound : FulfilmentSound first)
    (secondSound : FulfilmentSound second)
    (firstDone : ∀ row ∈ events, row.message.Done first)
    (secondDone : ∀ row ∈ events, row.message.Done second) :
    SameFulfilment first second := by
  have ticketed
      {state : Database Hash}
      {row : OutboxEvent}
      {booking : Booking}
      (sound : FulfilmentSound state)
      (within : Within events db state)
      (isDone : row.message.Done state)
      (booked : booking ∈ db.bookings)
      (message : row.message = .orderPaid booking.orderId) :
      HasTicket state booking.id := by
    rw [message] at isDone
    exact sound.ticketed booking (within.bookings ▸ booked) isDone
  constructor
  · intro id
    rcases firstWithin.orders id with same | ⟨row, listed, status, concludes, is⟩
    · rcases secondWithin.orders id with
        otherSame | ⟨row, listed, status, concludes, is⟩
      · exact same.trans otherSame.symm
      · rw [is]
        exact (firstDone row listed).concludes concludes
    · rw [is]
      exact ((secondDone row listed).concludes concludes).symm
  · intro id
    rcases firstWithin.refunds id with same | ⟨row, listed, orderId, message, is⟩
    · rcases secondWithin.refunds id with
        otherSame | ⟨row, listed, orderId, message, is⟩
      · exact same.trans otherSame.symm
      · rw [is]
        exact (message ▸ firstDone row listed).refundStatus
    · rw [is]
      exact (message ▸ secondDone row listed).refundStatus.symm
  · intro id
    rcases firstWithin.tickets id with
      same | ⟨row, listed, booking, booked, rfl, message, issued⟩
    · rcases secondWithin.tickets id with
        otherSame | ⟨row, listed, booking, booked, rfl, message, issued⟩
      · exact same.trans otherSame.symm
      · exact iff_of_true
          (ticketed firstSound firstWithin (firstDone row listed) booked
            message) issued
    · exact iff_of_true issued
        (ticketed secondSound secondWithin (secondDone row listed) booked
          message)

/-! ## Runs -/

section Runs

variable [DecidableEq Hash]

/--
One transaction of the store, with new identifiers.  What the consumer receives
was made from the outbox.
-/
def PostgresReservations.FulfilmentStep
    (self : PostgresReservations Hash)
    (db : Database Hash)
    (invocation : Invocation Hash)
    (after : Database Hash) : Prop :=
  self.Step db invocation after ∧
    invocation.ambient.Fresh db ∧
    ∀ envelope,
      invocation.call.envelope? = some envelope →
      Delivers db.outboxEvents.rows db envelope

theorem FulfilmentSound.step
    {self : PostgresReservations Hash}
    {db after : Database Hash}
    {invocation : Invocation Hash}
    (sound : FulfilmentSound db)
    (step : self.FulfilmentStep db invocation after) :
    FulfilmentSound after := by
  obtain ⟨taken, fresh, genuine⟩ := step
  have changes := PostgresReservations.changes_of_step taken
  rcases taken.committed with rfl | ⟨result, accepted⟩
  · exact sound
  · cases consumed : invocation.call.envelope? with
    | none =>
        exact sound.of_frame fresh changes
          (PostgresReservations.frame_of_body consumed accepted)
    | some envelope =>
        have delivers := genuine envelope consumed
        cases isCall : invocation.call with
        | consumeEvent received =>
            rw [isCall] at accepted consumed
            cases consumed
            simp only [PostgresReservations.body, bind_eq_ok, pure_eq_ok,
              Prod.mk.injEq] at accepted
            obtain ⟨_, accepted, _, rfl⟩ := accepted
            exact sound.of_consumeEvent fresh (fun _ => id) delivers
              accepted
        | reserve | persistReservationCommand | checkout | release
        | expireBatch | initiatePayment | callback =>
            rw [isCall] at consumed
            cases consumed

omit [DecidableEq Hash] in
theorem Database.Initial.fulfilmentSound
    {db : Database Hash}
    (initial : db.Initial) :
    FulfilmentSound db := by
  have payments := initial.paymentSafe
  refine ⟨payments.safe, payments.settled, ?_, ?_, ?_, ?_, ?_⟩ <;>
    rw [initial.fresh]
  · exact fun row member => (Table.not_mem_empty row member).elim
  · exact fun ticket member => (Table.not_mem_empty ticket member).elim
  · exact fun ticket _ member => (Table.not_mem_empty ticket member).elim
  · exact fun booking member => (Table.not_mem_empty booking member).elim
  · exact fun row member => (Table.not_mem_empty row member).elim

/-- One attempt to deliver an envelope to the consumer. -/
inductive Delivery where
  | consume (envelope : Envelope) (ambient : Ambient)
  | rollBack (envelope : Envelope)

/-- An attempt runs the consumer's transaction, or is rolled back. -/
inductive DeliveryStep
    (events : List OutboxEvent)
    (db : Database Hash) :
    Delivery → Database Hash → Prop where
  | consumed
      {envelope : Envelope}
      {ambient : Ambient}
      {after : Database Hash}
      (delivers : Delivers events db envelope)
      (fresh : ambient.Fresh db)
      (accepted : consumeEvent envelope ambient db = .ok after) :
      DeliveryStep events db (.consume envelope ambient) after
  | raised
      {envelope : Envelope}
      {ambient : Ambient}
      {error : Error}
      (delivers : Delivers events db envelope)
      (fresh : ambient.Fresh db)
      (refused : consumeEvent envelope ambient db = .error error) :
      DeliveryStep events db (.consume envelope ambient) db
  | rolledBack
      {envelope : Envelope} :
      DeliveryStep events db (.rollBack envelope) db

/-- Each event is delivered at least once. -/
def Covers
    (events : List OutboxEvent)
    (deliveries : List Delivery) : Prop :=
  ∀ row ∈ events, ∃ ambient, .consume row.envelope ambient ∈ deliveries

omit [DecidableEq Hash] in
/-- What holds after some deliveries of the events. -/
structure Delivered
    (events : List OutboxEvent)
    (db : Database Hash)
    (deliveries : List Delivery)
    (state : Database Hash) : Prop where
  sound : FulfilmentSound state
  known : ∀ row ∈ events, row ∈ state.outboxEvents
  within : Within events db state
  handled :
    ∀ row ∈ events,
      ∀ {ambient},
        .consume row.envelope ambient ∈ deliveries →
        row.message.Done state

omit [DecidableEq Hash] in
theorem Delivered.step
    {events : List OutboxEvent}
    {db state after : Database Hash}
    {past : List Delivery}
    {delivery : Delivery}
    (delivered : Delivered events db past state)
    (step : DeliveryStep events state delivery after) :
    Delivered events db (past ++ [delivery]) after := by
  cases step with
  | rolledBack =>
      refine ⟨delivered.sound, delivered.known, delivered.within, ?_⟩
      intro row listed ambient member
      rcases List.mem_append.mp member with before | last
      · exact delivered.handled row listed before
      · cases List.mem_singleton.mp last
  | @raised envelope ambient _ delivers fresh refused =>
      refine ⟨delivered.sound, delivered.known, delivered.within, ?_⟩
      intro row listed other member
      rcases List.mem_append.mp member with before | last
      · exact delivered.handled row listed before
      · cases settlement : row.message.isSettlement with
        | false => exact Message.done_of_quiet settlement
        | true =>
            cases List.mem_singleton.mp last
            obtain ⟨next, accepted⟩ :=
              delivered.sound.accepts fresh delivered.known delivers
                settlement
            cases refused.symm.trans accepted
  | @consumed envelope ambient _ delivers fresh accepted =>
      have changes := changes_of_consumeEvent accepted
      have sound : FulfilmentSound after :=
        delivered.sound.of_consumeEvent fresh delivered.known delivers
          accepted
      have known : ∀ row ∈ events, row ∈ after.outboxEvents :=
        fun row listed =>
          Changes.outboxKept changes row (delivered.known row listed)
      obtain ⟨_, origin, originListed, isMessage, _⟩ := delivers
      refine ⟨sound, known,
        delivered.within.trans
          (.of_fulfils (fulfils_of_consumeEvent accepted) originListed
            isMessage), ?_⟩
      intro row listed other member
      rcases List.mem_append.mp member with before | last
      · exact (delivered.handled row listed before).kept
          (delivered.sound.of_changes changes).2
      · cases List.mem_singleton.mp last
        exact sound.taken row (known row listed)
          ((inbox_of_consumeEvent accepted row.id).mpr (Or.inl rfl))

/--
Fulfilment is exactly once and does not depend on the order of deliveries.  In
every reachable state a booking has at most one ticket, a fulfilled order has
exactly one for each of its items, and no ticket belongs to an order that is
neither paid nor fulfilled; an `OrderPaid` event is never refused.  Deliveries
that cover the same events end with the same orders, refunds and tickets.
-/
theorem fulfilment_exactly_once
    {self : PostgresReservations Hash}
    {start db : Database Hash}
    {invocations : List (Invocation Hash)}
    (initial : start.Initial)
    (run : Run self.FulfilmentStep start invocations db) :
    (∀ first ∈ db.tickets,
      ∀ second ∈ db.tickets,
        first.bookingId = second.bookingId → first = second) ∧
    (∀ order ∈ db.orders,
      order.status = .fulfilled →
      ∀ item ∈ db.itemsOf order.id,
        ∃! ticket,
          ticket ∈ db.tickets ∧
            ∃ booking ∈ db.bookings,
              booking.id = ticket.bookingId ∧
                booking.orderId = order.id ∧
                booking.place = item.place) ∧
    (∀ ticket ∈ db.tickets,
      ∃ booking ∈ db.bookings,
        booking.id = ticket.bookingId ∧
          ∃ order ∈ db.orders,
            order.id = booking.orderId ∧
              (order.status = .paid ∨ order.status = .fulfilled)) ∧
    (∀ envelope ambient orderId,
      Delivers db.outboxEvents.rows db envelope →
      envelope.message = .orderPaid orderId →
      ambient.Fresh db →
      ∃ after, consumeEvent envelope ambient db = .ok after) ∧
    ∀ events first second firstEnd secondEnd,
      (∀ row ∈ events, row ∈ db.outboxEvents) →
      Run (DeliveryStep events) db first firstEnd →
      Run (DeliveryStep events) db second secondEnd →
      Covers events first →
      Covers events second →
      SameFulfilment firstEnd secondEnd := by
  have sound : FulfilmentSound db :=
    run.invariant initial.fulfilmentSound fun holds step => holds.step step
  refine ⟨?_, ?_, ?_, ?_, ?_⟩
  · intro first firstMember second secondMember same
    exact sound.once first second firstMember secondMember same
  · intro order member isFulfilled item listed
    obtain ⟨itemMember, isOrder⟩ := mem_itemsOf.mp listed
    have paid : IsPaid db order.id :=
      ⟨order, Table.find?_key member, by rw [isFulfilled]; rfl⟩
    obtain ⟨booking, booked, isPlace, ofOrder⟩ :=
      (sound.safe.booking_iff item.place order.id).mpr
        ⟨paid, item, itemMember, isOrder, rfl⟩
    obtain ⟨ticket, issued, isBooking⟩ :=
      sound.ticketed booking booked
        (ofOrder ▸ ⟨order, Table.find?_key member, isFulfilled⟩)
    refine ⟨ticket,
      ⟨issued, booking, booked, isBooking.symm, ofOrder, isPlace⟩, ?_⟩
    rintro other
      ⟨otherIssued, otherBooking, otherBooked, isOther, _, otherPlace⟩
    have sameBooking : otherBooking = booking :=
      sound.safe.bookingUnique otherBooked booked
        (otherPlace.trans isPlace.symm)
    rw [sameBooking] at isOther
    exact sound.once other ticket otherIssued issued
      (isOther.symm.trans isBooking.symm)
  · intro ticket member
    obtain ⟨booking, booked, isBooking⟩ := sound.ticketOf ticket member
    obtain ⟨⟨order, found, paid⟩, _⟩ :=
      (sound.safe.booking_iff booking.place booking.orderId).mp
        ⟨booking, booked, rfl, rfl⟩
    exact ⟨booking, booked, isBooking, order, Table.mem_of_find? found,
      Table.key_of_find? found, OrderStatus.isPaid_iff_paid.mp paid⟩
  · intro envelope ambient orderId delivers message fresh
    exact sound.accepts fresh (fun _ => id) delivers (by rw [message]; rfl)
  · intro events first second firstEnd secondEnd known firstRun secondRun
      firstCovers secondCovers
    have start : Delivered events db [] db :=
      ⟨sound, known, .refl db, fun _ _ _ member => (nomatch member)⟩
    have firstDelivered : Delivered events db first firstEnd :=
      firstRun.history start fun delivered step => delivered.step step
    have secondDelivered : Delivered events db second secondEnd :=
      secondRun.history start fun delivered step => delivered.step step
    refine firstDelivered.within.agree secondDelivered.within
      firstDelivered.sound secondDelivered.sound ?_ ?_
    · intro row listed
      obtain ⟨ambient, member⟩ := firstCovers row listed
      exact firstDelivered.handled row listed member
    · intro row listed
      obtain ⟨ambient, member⟩ := secondCovers row listed
      exact secondDelivered.handled row listed member

end Runs

/-! ## The small purchase, fulfilled -/

/-- Counting up from an unused identifier draws new ones. -/
theorem fresh_smallAmbient
    {db : Database Hash}
    {seconds : Nat}
    {firstId : Uuid}
    (tickets : ∀ row ∈ db.tickets.rows, row.id < firstId)
    (outbox : ∀ row ∈ db.outboxEvents.rows, row.id < firstId)
    (inbox : ∀ row ∈ db.consumerInbox.rows, row.eventId < firstId) :
    (smallAmbient seconds firstId).Fresh db := by
  have above (id : Uuid) (draw : Nat) (below : id < firstId) :
      id ≠ firstId + draw :=
    Nat.ne_of_lt (Nat.lt_of_lt_of_le below (Nat.le_add_right firstId draw))
  refine ⟨fun first second same => Nat.add_left_cancel same, ?_, ?_, ?_⟩ <;>
    intro draw <;>
    rw [Table.find?_eq_none_iff] <;>
    intro row member
  · exact above row.id draw (tickets row member)
  · exact above row.id draw (outbox row member)
  · exact above row.eventId draw (inbox row member)

/-- The store after the small purchase. -/
def smallPaid : Database Request :=
  smallStore.replay smallSale smallPurchase

/-- The announcement that its order is paid. -/
def smallPaidEvent : OutboxEvent where
  id := 401
  aggregateId := 101
  message := .orderPaid 101

/-- The same message under another identifier. -/
def smallPaidCopy : Envelope where
  eventId := 50
  message := .orderPaid 101

/-- The purchase draws new identifiers and consumes nothing. -/
theorem run_smallPaid :
    Run smallStore.FulfilmentStep smallSale smallPurchase smallPaid := by
  refine .cons ⟨rfl, ?_, nofun⟩
    (.cons ⟨rfl, ?_, nofun⟩ (.cons ⟨rfl, ?_, nofun⟩ (.nil _)))
  · exact fresh_smallAmbient (by decide) (by decide) (by decide)
  · exact fresh_smallAmbient (by decide) (by decide) (by decide)
  · exact fresh_smallAmbient (by decide) (by decide) (by decide)

/-- What the consumer makes of an envelope. -/
def smallConsume
    (envelope : Envelope)
    (ambient : Ambient)
    (db : Database Request) : Database Request :=
  (smallStore.transaction (.consumeEvent envelope) ambient db).2

/-- The event delivered once. -/
def smallDelivered : Database Request :=
  smallConsume smallPaidEvent.envelope (smallAmbient 4 500) smallPaid

/-- Its copy, delivered before it. -/
def smallCopied : Database Request :=
  smallConsume smallPaidCopy (smallAmbient 4 600) smallPaid

/-- The event delivered after its copy, after a failed attempt. -/
def smallRedelivered : Database Request :=
  smallConsume smallPaidEvent.envelope (smallAmbient 5 700) smallCopied

/-- The copy makes no difference to the purchase. -/
theorem fulfilment_exactly_once_smallPaid :
    smallDelivered.orderStatus 101 = some .fulfilled ∧
      SameFulfilment smallDelivered smallRedelivered := by
  obtain ⟨_, _, _, _, agree⟩ :=
    fulfilment_exactly_once smallSale_initial run_smallPaid
  have first :
      Run (DeliveryStep [smallPaidEvent]) smallPaid
        [.consume smallPaidEvent.envelope (smallAmbient 4 500)]
        smallDelivered := by
    apply Run.single
    exact .consumed
      ⟨rfl, smallPaidEvent, List.mem_singleton_self _, rfl, Or.inl rfl⟩
      (fresh_smallAmbient (by decide) (by decide) (by decide)) rfl
  have copied :
      DeliveryStep [smallPaidEvent] smallPaid
        (.consume smallPaidCopy (smallAmbient 4 600)) smallCopied :=
    .consumed
      ⟨rfl, smallPaidEvent, List.mem_singleton_self _, rfl,
        Or.inr ⟨⟨101, rfl⟩, by decide⟩⟩
      (fresh_smallAmbient (by decide) (by decide) (by decide)) rfl
  have redelivered :
      DeliveryStep [smallPaidEvent] smallCopied
        (.consume smallPaidEvent.envelope (smallAmbient 5 700))
        smallRedelivered :=
    .consumed
      ⟨rfl, smallPaidEvent, List.mem_singleton_self _, rfl, Or.inl rfl⟩
      (fresh_smallAmbient (by decide) (by decide) (by decide)) rfl
  have second :
      Run (DeliveryStep [smallPaidEvent]) smallPaid
        [.consume smallPaidCopy (smallAmbient 4 600),
          .rollBack smallPaidEvent.envelope,
          .consume smallPaidEvent.envelope (smallAmbient 5 700)]
        smallRedelivered :=
    .cons copied (.cons .rolledBack (.single redelivered))
  refine ⟨by decide,
    agree [smallPaidEvent] _ _ _ _ ?_ first second ?_ ?_⟩
  · intro row listed
    cases List.mem_singleton.mp listed
    decide
  · intro row listed
    cases List.mem_singleton.mp listed
    exact ⟨_, List.mem_singleton_self _⟩
  · intro row listed
    cases List.mem_singleton.mp listed
    exact ⟨smallAmbient 5 700, by simp⟩

end FlashTicketing
