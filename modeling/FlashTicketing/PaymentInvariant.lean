import FlashTicketing.BookingSafety

namespace FlashTicketing

open Relational Checked Transition

/-!
# Payments, orders and refunds

`payment_decision` alone would refund a payment twice.  What prevents it is the
early answer to callbacks of a succeeded payment together with the order
statuses that a payment without success can have.  This module states that
combination as an invariant of the tables and of the settlement messages in the
outbox.
-/

variable {Hash : Type}

/-- `status in {"REFUND_PENDING", "REFUNDED"}`. -/
def OrderStatus.isRefund : OrderStatus → Bool
  | .refundPending | .refunded => true
  | _ => false

/-- Two statuses that say the same of the captured money. -/
def OrderStatus.SameSettlement (first second : OrderStatus) : Prop :=
  first.isPaid = second.isPaid ∧ first.isRefund = second.isRefund

/-! ## Payments are never withdrawn -/

/-- Payments stay, with their order, and success is absorbing. -/
def PaymentsKept (db after : Database Hash) : Prop :=
  ∀ {id payment},
    db.paymentAttempts.find? id = some payment →
    ∃ next,
      after.paymentAttempts.find? id = some next ∧
        next.orderId = payment.orderId ∧
        (payment.status = .succeeded → next.status = .succeeded)

namespace PaymentsKept

theorem refl (db : Database Hash) : PaymentsKept db db := by
  intro id payment found
  exact ⟨payment, found, rfl, fun same => same⟩

theorem trans
    {first second third : Database Hash}
    (early : PaymentsKept first second)
    (late : PaymentsKept second third) :
    PaymentsKept first third := by
  intro id payment found
  obtain ⟨next, nextFound, nextOrder, nextSucceeded⟩ := early found
  obtain ⟨last, lastFound, lastOrder, lastSucceeded⟩ := late nextFound
  exact ⟨last, lastFound, lastOrder.trans nextOrder,
    fun succeeded => lastSucceeded (nextSucceeded succeeded)⟩

theorem of_eq
    {db after : Database Hash}
    (same : after.paymentAttempts = db.paymentAttempts) :
    PaymentsKept db after := by
  intro id payment found
  exact ⟨payment, by rw [same]; exact found, rfl, fun succeeded => succeeded⟩

/-- A callback restates its own payment, which had not succeeded. -/
theorem of_restated
    {payment : PaymentAttempt}
    {order : Order}
    {hold : Hold}
    {outcome : Outcome}
    {db after : Database Hash}
    (callable : Callable payment order hold db)
    (restated : PaymentRestated payment outcome db after) :
    PaymentsKept db after := by
  intro id row found
  refine ⟨_, by rw [restated, found]; rfl, ?_, ?_⟩
  · dsimp only
    split <;> rfl
  · intro succeeded
    dsimp only
    split
    · rename_i sameId
      have rowKey : row.id = id := Table.key_of_find? found
      rw [← rowKey, sameId, callable.paymentFound] at found
      cases found
      exact (callable.unsettled succeeded).elim
    · exact succeeded

theorem of_change
    {now : Int}
    {db after : Database Hash}
    (change : Change now db after) :
    PaymentsKept db after := by
  cases change with
  | bookkeeping _ _ commerce =>
      exact of_eq commerce.payments
  | placed _ _ _ _ _ placed =>
      exact of_eq placed.commerce.payments
  | released _ _ _ _ _ _ commerce =>
      exact of_eq commerce.payments
  | paymentOpened payment _ fresh _ _ _ _ _ _ _ payments =>
      intro id row found
      refine ⟨row, ?_, rfl, fun succeeded => succeeded⟩
      rw [payments, if_neg, found]
      rintro rfl
      rw [fresh] at found
      cases found
  | booked _ _ _ _ _ _ callable _ _ _ payments =>
      exact of_restated callable payments
  | refunded _ _ _ _ _ _ callable _ _ _ payments =>
      exact of_restated callable payments
  | failed _ _ _ _ _ callable _ _ _ _ payments =>
      exact of_restated callable payments
  | noted _ _ _ _ _ callable _ _ _ _ payments =>
      exact of_restated callable payments
  | fulfilled _ _ _ _ _ commerce =>
      exact of_eq commerce.payments
  | refundCompleted _ _ _ _ payments =>
      exact of_eq payments

end PaymentsKept

/-- A row that was restated by a callback was there before. -/
theorem PaymentRestated.before
    {payment row : PaymentAttempt}
    {outcome : Outcome}
    {id : Uuid}
    {db after : Database Hash}
    (restated : PaymentRestated payment outcome db after)
    (found : after.paymentAttempts.find? id = some row) :
    ∃ old,
      db.paymentAttempts.find? id = some old ∧
        row.orderId = old.orderId := by
  rw [restated, Option.map_eq_some_iff] at found
  obtain ⟨old, oldFound, rfl⟩ := found
  exact ⟨old, oldFound, by split <;> rfl⟩

/-! ## The invariant of payments, orders and refunds -/

/-- What a payment's status says about its order and its refund. -/
structure PaymentsSettled (db : Database Hash) : Prop where
  alone :
    ∀ {firstId secondId first second},
      db.paymentAttempts.find? firstId = some first →
      db.paymentAttempts.find? secondId = some second →
      first.orderId = second.orderId →
      firstId = secondId
  ordered :
    ∀ {id payment},
      db.paymentAttempts.find? id = some payment →
      ∃ order,
        db.orders.find? payment.orderId = some order ∧
          (payment.status = .succeeded ↔
            order.status.isPaid = true ∨ order.status.isRefund = true) ∧
          ((db.refundRequests.find? id).isSome = true ↔
            order.status.isRefund = true)
  refundOf :
    ∀ {id},
      (db.refundRequests.find? id).isSome = true →
      (db.paymentAttempts.find? id).isSome = true

namespace PaymentsSettled

/-- The order and the refund row of a payment that has not succeeded. -/
theorem unsettled
    {db : Database Hash}
    (settled : PaymentsSettled db)
    {payment : PaymentAttempt}
    {order : Order}
    {hold : Hold}
    (callable : Callable payment order hold db) :
    order.status.isPaid = false ∧
      order.status.isRefund = false ∧
      db.refundRequests.find? payment.id = none := by
  obtain ⟨found, stored, succeeded_iff, refund_iff⟩ :=
    settled.ordered callable.paymentFound
  rw [callable.orderFound] at stored
  cases stored
  have neither := mt succeeded_iff.mpr callable.unsettled
  simp only [not_or, Bool.not_eq_true] at neither
  refine ⟨neither.1, neither.2, ?_⟩
  rw [neither.2] at refund_iff
  simpa using refund_iff

/-- Changes that leave payments and settlements alone keep the invariant. -/
theorem frame
    {db after : Database Hash}
    (settled : PaymentsSettled db)
    (payments : after.paymentAttempts = db.paymentAttempts)
    (refunds :
      ∀ id,
        (after.refundRequests.find? id).isSome =
          (db.refundRequests.find? id).isSome)
    (orders :
      ∀ {id order},
        db.orders.find? id = some order →
        ∃ next,
          after.orders.find? id = some next ∧
            next.status.SameSettlement order.status) :
    PaymentsSettled after where
  alone := by
    rw [payments]
    exact settled.alone
  ordered := by
    intro id payment found
    rw [payments] at found
    obtain ⟨order, stored, succeeded_iff, refund_iff⟩ :=
      settled.ordered found
    obtain ⟨next, nextStored, samePaid, sameRefund⟩ := orders stored
    refine ⟨next, nextStored, ?_, ?_⟩
    · rw [samePaid, sameRefund]
      exact succeeded_iff
    · rw [refunds, sameRefund]
      exact refund_iff
  refundOf := by
    intro id
    rw [refunds, payments]
    exact settled.refundOf

/--
A callback that restates its payment and its order consistently, and leaves a
refund row exactly when the order is being refunded, keeps the invariant.
-/
theorem restated
    {payment : PaymentAttempt}
    {order : Order}
    {hold : Hold}
    {outcome : Outcome}
    {status : OrderStatus}
    {db after : Database Hash}
    (settled : PaymentsSettled db)
    (callable : Callable payment order hold db)
    (orders :
      ∀ id,
        after.orders.find? id =
          (db.orders.find? id).map fun row =>
            { row with status := order.restated status row })
    (payments : PaymentRestated payment outcome db after)
    (consistent :
      outcome.status = .succeeded ↔
        status.isPaid = true ∨ status.isRefund = true)
    (refunds :
      ∀ id,
        (after.refundRequests.find? id).isSome =
          if id = payment.id then
            status.isRefund
          else
            (db.refundRequests.find? id).isSome) :
    PaymentsSettled after := by
  obtain ⟨orderKey, _⟩ := callable.keys
  have before :
      ∀ {id row},
        after.paymentAttempts.find? id = some row →
        ∃ old,
          db.paymentAttempts.find? id = some old ∧
            row.orderId = old.orderId ∧
            row.status =
              if id = payment.id then outcome.status else old.status := by
    intro id row found
    rw [payments, Option.map_eq_some_iff] at found
    obtain ⟨old, oldFound, rfl⟩ := found
    have oldKey : old.id = id := Table.key_of_find? oldFound
    refine ⟨old, oldFound, ?_, ?_⟩
    · split <;> rfl
    · rw [oldKey]
      split <;> rfl
  constructor
  · intro firstId secondId first second firstFound secondFound sameOrder
    obtain ⟨firstOld, firstOldFound, firstOrder, _⟩ := before firstFound
    obtain ⟨secondOld, secondOldFound, secondOrder, _⟩ := before secondFound
    exact settled.alone firstOldFound secondOldFound
      (by rw [← firstOrder, ← secondOrder, sameOrder])
  · intro id row found
    obtain ⟨old, oldFound, rowOrder, rowStatus⟩ := before found
    obtain ⟨stored, storedFound, succeeded_iff, refund_iff⟩ :=
      settled.ordered oldFound
    have storedKey : stored.id = old.orderId :=
      Table.key_of_find? storedFound
    refine ⟨_, by rw [rowOrder, orders, storedFound]; rfl, ?_⟩
    rw [rowStatus, refunds]
    by_cases sameId : id = payment.id
    · rw [sameId, callable.paymentFound] at oldFound
      cases oldFound
      have restates : order.restated status stored = status := by
        rw [Order.restated, if_pos]
        rw [storedKey, orderKey]
      simp only [sameId, if_true, restates]
      exact ⟨consistent, trivial⟩
    · -- Another payment has another order, which keeps its status.
      have restates : order.restated status stored = stored.status := by
        rw [Order.restated, if_neg]
        intro sameOrder
        refine sameId (settled.alone oldFound callable.paymentFound ?_)
        rw [← storedKey, sameOrder, orderKey]
      simp only [if_neg sameId, restates]
      exact ⟨succeeded_iff, refund_iff⟩
  · intro id refunded
    rw [refunds] at refunded
    rw [payments, Option.isSome_map]
    split at refunded
    · rename_i sameId
      rw [sameId, callable.paymentFound]
      rfl
    · exact settled.refundOf refunded

/-- A payment is opened for a pending order without one. -/
theorem opened
    {payment : PaymentAttempt}
    {order : Order}
    {db after : Database Hash}
    (settled : PaymentsSettled db)
    (fresh : db.paymentAttempts.find? payment.id = none)
    (alone :
      ∀ {id other},
        db.paymentAttempts.find? id = some other →
        other.orderId ≠ payment.orderId)
    (found : db.orders.find? payment.orderId = some order)
    (payable : order.status = .pending)
    (opened : payment.status = .pending)
    (revised : Unrevised db after)
    (refunds : after.refundRequests = db.refundRequests)
    (payments :
      ∀ id,
        after.paymentAttempts.find? id =
          if id = payment.id then
            some payment
          else
            db.paymentAttempts.find? id) :
    PaymentsSettled after := by
  have cases :
      ∀ {id row},
        after.paymentAttempts.find? id = some row →
        (id = payment.id ∧ row = payment) ∨
          db.paymentAttempts.find? id = some row := by
    intro id row rowFound
    rw [payments] at rowFound
    split at rowFound
    · rename_i sameId
      exact Or.inl ⟨sameId, (Option.some.inj rowFound).symm⟩
    · exact Or.inr rowFound
  constructor
  · intro firstId secondId first second firstFound secondFound sameOrder
    rcases cases firstFound with ⟨rfl, rfl⟩ | firstOld <;>
      rcases cases secondFound with ⟨rfl, rfl⟩ | secondOld
    · rfl
    · exact (alone secondOld sameOrder.symm).elim
    · exact (alone firstOld sameOrder).elim
    · exact settled.alone firstOld secondOld sameOrder
  · intro id row rowFound
    rw [refunds]
    rcases cases rowFound with ⟨rfl, rfl⟩ | old
    · refine ⟨_, revised.order_after found, ?_, ?_⟩
      · simp [opened, payable, OrderStatus.isPaid, OrderStatus.isRefund]
      · -- A refund row would belong to a payment that exists already.
        have noRefund : db.refundRequests.find? row.id = none := by
          by_contra refunded
          have exists_ := settled.refundOf
            (Option.isSome_iff_ne_none.mpr refunded)
          rw [fresh] at exists_
          cases exists_
        simp [noRefund, payable, OrderStatus.isRefund]
    · obtain ⟨stored, storedFound, facts⟩ := settled.ordered old
      exact ⟨_, revised.order_after storedFound, facts⟩
  · intro id refunded
    rw [refunds] at refunded
    rw [payments]
    split
    · rfl
    · exact settled.refundOf refunded

end PaymentsSettled

/-- Restating an order by its own status changes nothing. -/
theorem restated_same
    {db : Database Hash}
    {order row : Order}
    {orderId id : Uuid}
    (found : db.orders.find? orderId = some order)
    (rowFound : db.orders.find? id = some row) :
    order.restated order.status row = row.status := by
  rcases restated_cases found order.status rowFound with
    ⟨rfl, restates⟩ | restates
  · exact restates
  · exact restates

theorem sameSettlement_closedOrder
    (order row : Order) :
    (order.closedOrder row).SameSettlement row.status := by
  refine ⟨isPaid_closedOrder order row, ?_⟩
  unfold Order.closedOrder
  split
  · rename_i closes
    rw [closes.2]
    rfl
  · rfl

theorem isRefund_of_isPaid
    {status : OrderStatus}
    (paid : status.isPaid = true) :
    status.isRefund = false := by
  cases status <;> first | rfl | cases paid

/-- A fulfilled order was paid before. -/
theorem sameSettlement_fulfilled
    {db : Database Hash}
    {order row : Order}
    {id : Uuid}
    (found : db.orders.find? order.id = some order)
    (paid : order.status.isPaid = true)
    (rowFound : db.orders.find? id = some row) :
    (order.restated .fulfilled row).SameSettlement row.status := by
  refine ⟨isPaid_restated found (by rw [paid]; rfl) rowFound, ?_⟩
  rcases restated_cases found .fulfilled rowFound with
    ⟨rfl, restates⟩ | restates
  · rw [restates, isRefund_of_isPaid paid]
    rfl
  · rw [restates]

/-- A change of order statuses within their settlement, seen through lookups. -/
theorem Revised.sameSettlement
    {holdStatus : Hold → HoldStatus}
    {orderStatus : Order → OrderStatus}
    {reseat : EventSeat → EventSeat}
    {db after : Database Hash}
    (revised : Revised holdStatus orderStatus reseat db after)
    (same :
      ∀ {id order},
        db.orders.find? id = some order →
        (orderStatus order).SameSettlement order.status)
    {id : Uuid}
    {order : Order}
    (found : db.orders.find? id = some order) :
    ∃ next,
      after.orders.find? id = some next ∧
        next.status.SameSettlement order.status :=
  ⟨_, revised.order_after found, same found⟩

/-- Every change keeps the invariant. -/
theorem PaymentsSettled.change
    {now : Int}
    {db after : Database Hash}
    (settled : PaymentsSettled db)
    (change : Change now db after) :
    PaymentsSettled after := by
  cases change with
  | bookkeeping _ revised commerce =>
      exact settled.frame commerce.payments
        (fun _ => by rw [commerce.refunds])
        (revised.sameSettlement fun _ => ⟨rfl, rfl⟩)
  | placed _ _ _ _ _ placed =>
      refine settled.frame placed.commerce.payments
        (fun _ => by rw [placed.commerce.refunds]) ?_
      intro id order found
      exact ⟨order, placed.order_after found, rfl, rfl⟩
  | released order _ _ _ _ revised commerce =>
      exact settled.frame commerce.payments
        (fun _ => by rw [commerce.refunds])
        (revised.sameSettlement
          fun _ => sameSettlement_closedOrder order _)
  | paymentOpened payment order fresh alone found payable opened revised _
      refunds payments =>
      exact settled.opened fresh alone found payable opened revised refunds
        payments
  | booked payment order hold _ _ _ callable pending _ revised payments
      refunds =>
      refine settled.restated callable revised.orders payments
        (by decide) ?_
      intro id
      rw [refunds]
      split
      · rename_i sameId
        rw [sameId, (settled.unsettled callable).2.2]
        rfl
      · rfl
  | refunded payment order hold _ _ _ callable _ revised _ payments
      refunds =>
      refine settled.restated callable revised.orders payments
        (by decide) ?_
      intro id
      rw [refunds]
      by_cases sameId : id = payment.id
      · simp [sameId, (settled.unsettled callable).2.2,
          OrderStatus.isRefund]
      · simp [sameId]
  | failed payment order hold _ _ callable pending revised _ refunds
      payments =>
      refine settled.restated callable revised.orders payments
        (by decide) ?_
      intro id
      rw [refunds]
      split
      · rename_i sameId
        rw [sameId, (settled.unsettled callable).2.2]
        rfl
      · rfl
  | noted payment order hold outcome _ callable unchanged revised _ refunds
      payments =>
      obtain ⟨unpaid, unrefunded, noRefund⟩ := settled.unsettled callable
      have outcomeFailed : outcome = .failed := by
        rcases unchanged with paid | ⟨failed, _⟩
        · rw [unpaid] at paid
          cases paid
        · exact failed
      have orders :
          ∀ id,
            after.orders.find? id =
              (db.orders.find? id).map fun row =>
                { row with
                  status := order.restated order.status row } := by
        intro id
        rw [revised.orders]
        cases found : db.orders.find? id with
        | none => rfl
        | some row =>
            simp only [Option.map_some, Option.some.injEq]
            rw [restated_same callable.orderFound found]
      refine settled.restated callable orders payments ?_ ?_
      · simp [outcomeFailed, unpaid, unrefunded, Outcome.status]
      · intro id
        rw [refunds, unrefunded]
        split
        · rename_i sameId
          rw [sameId, noRefund]
          rfl
        · rfl
  | fulfilled order _ found paid revised commerce =>
      exact settled.frame commerce.payments
        (fun _ => by rw [commerce.refunds])
        (revised.sameSettlement (sameSettlement_fulfilled found paid))
  | refundCompleted paymentId orderId revised _ payments refunds =>
      refine settled.frame payments ?_ (revised.sameSettlement ?_)
      · intro id
        rw [refunds, Option.isSome_map]
      · intro id order _
        split
        · rename_i refunded
          rw [refunded.2]
          exact ⟨rfl, rfl⟩
        · exact ⟨rfl, rfl⟩

/-! ## Settlement messages -/

/-- The message announces the settlement of the payment. -/
def Message.settles (payment : PaymentAttempt) : Message → Bool
  | .orderPaid orderId => decide (orderId = payment.orderId)
  | .refundRequested paymentId _ => decide (paymentId = payment.id)
  | _ => false

/-- Settlement messages belong to succeeded payments, one for each. -/
structure SettlementsAnnounced (db : Database Hash) : Prop where
  announced :
    ∀ {row},
      row ∈ db.outboxEvents →
      row.message.isSettlement = true →
      ∃ id payment,
        db.paymentAttempts.find? id = some payment ∧
          payment.status = .succeeded ∧
          row.message.settles payment = true
  once :
    ∀ {id payment first second},
      db.paymentAttempts.find? id = some payment →
      first ∈ db.outboxEvents →
      second ∈ db.outboxEvents →
      first.message.settles payment = true →
      second.message.settles payment = true →
      first = second

theorem isSettlement_of_settles
    {payment : PaymentAttempt}
    {message : Message}
    (settles : message.settles payment = true) :
    message.isSettlement = true := by
  cases message <;> first | rfl | cases settles

/-- The same message settles two payments only if they are the same. -/
theorem PaymentsSettled.settles_unique
    {db : Database Hash}
    (settled : PaymentsSettled db)
    {firstId secondId : Uuid}
    {first second : PaymentAttempt}
    (firstFound : db.paymentAttempts.find? firstId = some first)
    (secondFound : db.paymentAttempts.find? secondId = some second)
    {message : Message}
    (firstSettles : message.settles first = true)
    (secondSettles : message.settles second = true) :
    first = second := by
  have sameId : firstId = secondId := by
    cases message with
    | orderPaid orderId =>
        simp only [Message.settles, decide_eq_true_eq] at *
        exact settled.alone firstFound secondFound
          (firstSettles.symm.trans secondSettles)
    | refundRequested paymentId orderId =>
        have firstKey : first.id = firstId := Table.key_of_find? firstFound
        have secondKey : second.id = secondId :=
          Table.key_of_find? secondFound
        simp only [Message.settles, decide_eq_true_eq] at *
        rw [← firstKey, ← secondKey, ← firstSettles, secondSettles]
    | seatsChanged _ _ => cases firstSettles
    | ticketsIssued _ => cases firstSettles
    | unknown _ => cases firstSettles
  rw [sameId, secondFound] at firstFound
  exact (Option.some.inj firstFound).symm

namespace SettlementsAnnounced

variable {db after : Database Hash}

/-- No message settles a payment that has not succeeded. -/
theorem quiet
    (announced : SettlementsAnnounced db)
    (settled : PaymentsSettled db)
    {id : Uuid}
    {payment : PaymentAttempt}
    (found : db.paymentAttempts.find? id = some payment)
    (unsettled : payment.status ≠ .succeeded)
    {row : OutboxEvent}
    (member : row ∈ db.outboxEvents) :
    row.message.settles payment = false := by
  by_contra settles
  rw [Bool.not_eq_false] at settles
  obtain ⟨otherId, other, otherFound, succeeded, otherSettles⟩ :=
    announced.announced member (isSettlement_of_settles settles)
  have same :=
    settled.settles_unique found otherFound settles otherSettles
  exact unsettled (same ▸ succeeded)

/-- Payments that are kept settle the same messages. -/
theorem settles_kept
    {payment next : PaymentAttempt}
    {id : Uuid}
    (found : db.paymentAttempts.find? id = some payment)
    (nextFound : after.paymentAttempts.find? id = some next)
    (sameOrder : next.orderId = payment.orderId)
    (message : Message) :
    message.settles next = message.settles payment := by
  have key : payment.id = id := Table.key_of_find? found
  have nextKey : next.id = id := Table.key_of_find? nextFound
  unfold Message.settles
  rw [sameOrder, key, nextKey]

theorem announced_kept
    (announced : SettlementsAnnounced db)
    (kept : PaymentsKept db after)
    {row : OutboxEvent}
    (member : row ∈ db.outboxEvents)
    (settlement : row.message.isSettlement = true) :
    ∃ id payment,
      after.paymentAttempts.find? id = some payment ∧
        payment.status = .succeeded ∧
        row.message.settles payment = true := by
  obtain ⟨id, payment, found, succeeded, settles⟩ :=
    announced.announced member settlement
  obtain ⟨next, nextFound, sameOrder, absorbing⟩ := kept found
  refine ⟨id, next, nextFound, absorbing succeeded, ?_⟩
  rw [settles_kept found nextFound sameOrder, settles]

/-- A change that announces no settlement. -/
theorem silent
    {added : List OutboxEvent}
    (announced : SettlementsAnnounced db)
    (kept : PaymentsKept db after)
    (outbox : Announces added db after)
    (silent : ∀ row ∈ added, row.message.isSettlement = false)
    (opened :
      ∀ {id payment},
        after.paymentAttempts.find? id = some payment →
        (∃ old,
          db.paymentAttempts.find? id = some old ∧
            payment.orderId = old.orderId) ∨
          ∀ row ∈ db.outboxEvents, row.message.settles payment = false) :
    SettlementsAnnounced after := by
  have oldRow :
      ∀ {row},
        row ∈ after.outboxEvents →
        row.message.isSettlement = true →
        row ∈ db.outboxEvents := by
    intro row member settlement
    rcases (outbox.rows row).mp member with old | new
    · exact old
    · rw [silent row new] at settlement
      cases settlement
  constructor
  · intro row member settlement
    exact announced.announced_kept kept (oldRow member settlement)
      settlement
  · intro id payment first second found firstMember secondMember
      firstSettles secondSettles
    have firstOld :=
      oldRow firstMember (isSettlement_of_settles firstSettles)
    have secondOld :=
      oldRow secondMember (isSettlement_of_settles secondSettles)
    rcases opened found with ⟨old, oldFound, sameOrder⟩ | unannounced
    · rw [settles_kept oldFound found sameOrder] at *
      exact announced.once oldFound firstOld secondOld firstSettles
        secondSettles
    · rw [unannounced first firstOld] at firstSettles
      cases firstSettles

/-- A change that captures a payment and announces its settlement. -/
theorem settling
    {payment : PaymentAttempt}
    {order : Order}
    {hold : Hold}
    {added : List OutboxEvent}
    (announced : SettlementsAnnounced db)
    (settlement : OutboxEvent)
    (settled : PaymentsSettled db)
    (callable : Callable payment order hold db)
    (payments : PaymentRestated payment .succeeded db after)
    (outbox : Announces added db after)
    (settles : settlement.message.settles payment = true)
    (only :
      ∀ row ∈ added,
        row = settlement ∨ row.message.isSettlement = false) :
    SettlementsAnnounced after := by
  have kept : PaymentsKept db after :=
    PaymentsKept.of_restated callable payments
  have captured :
      after.paymentAttempts.find? payment.id =
        some { payment with status := .succeeded } := by
    rw [payments, callable.paymentFound]
    simp [Outcome.status]
  have cases :
      ∀ {row},
        row ∈ after.outboxEvents →
        row.message.isSettlement = true →
        row = settlement ∨ row ∈ db.outboxEvents := by
    intro row member isSettlement
    rcases (outbox.rows row).mp member with old | new
    · exact Or.inr old
    · rcases only row new with same | silent
      · exact Or.inl same
      · rw [silent] at isSettlement
        cases isSettlement
  constructor
  · intro row member isSettlement
    rcases cases member isSettlement with rfl | old
    · exact ⟨payment.id, _, captured, rfl, settles⟩
    · exact announced.announced_kept kept old isSettlement
  · intro id row first second found firstMember secondMember firstSettles
      secondSettles
    obtain ⟨before, beforeFound, sameOrder⟩ := payments.before found
    have sameSettles := settles_kept beforeFound found sameOrder
    rw [sameSettles] at firstSettles secondSettles
    -- A message of the captured payment would have settled it before.
    have notBoth :
        ∀ {old},
          settlement.message.settles before = true →
          old ∈ db.outboxEvents →
          old.message.settles before = true →
          False := by
      intro old settlesBefore oldMember oldSettles
      have isPayment :=
        settled.settles_unique beforeFound callable.paymentFound
          settlesBefore settles
      rw [isPayment, announced.quiet settled callable.paymentFound
        callable.unsettled oldMember] at oldSettles
      cases oldSettles
    rcases cases firstMember (isSettlement_of_settles firstSettles) with
        rfl | firstOld <;>
      rcases cases secondMember
        (isSettlement_of_settles secondSettles) with rfl | secondOld
    · rfl
    · exact (notBoth firstSettles secondOld secondSettles).elim
    · exact (notBoth secondSettles firstOld firstSettles).elim
    · exact announced.once beforeFound firstOld secondOld firstSettles
        secondSettles

end SettlementsAnnounced

/-- Every change keeps one settlement message for each succeeded payment. -/
theorem SettlementsAnnounced.change
    {now : Int}
    {db after : Database Hash}
    (announced : SettlementsAnnounced db)
    (settled : PaymentsSettled db)
    (change : Change now db after) :
    SettlementsAnnounced after := by
  have kept : PaymentsKept db after := PaymentsKept.of_change change
  have unchanged
      (same : after.paymentAttempts = db.paymentAttempts)
      {id : Uuid}
      {payment : PaymentAttempt}
      (found : after.paymentAttempts.find? id = some payment) :
      (∃ old,
        db.paymentAttempts.find? id = some old ∧
          payment.orderId = old.orderId) ∨
        ∀ row ∈ db.outboxEvents, row.message.settles payment = false :=
    Or.inl ⟨payment, by rw [← same]; exact found, rfl⟩
  cases change with
  | bookkeeping added _ commerce outbox quiet =>
      exact announced.silent kept outbox quiet
        (unchanged commerce.payments)
  | placed _ _ _ _ _ placed =>
      exact announced.silent kept placed.announces
        (by simp [Message.isSettlement])
        (unchanged placed.commerce.payments)
  | released _ _ _ _ _ _ commerce outbox =>
      exact announced.silent kept outbox
        (by simp [seatsChangedRow, Message.isSettlement])
        (unchanged commerce.payments)
  | paymentOpened payment order fresh alone _ _ _ _ _ _ payments outbox =>
      refine announced.silent kept outbox (by simp) ?_
      intro id row found
      rw [payments] at found
      split at found
      · cases found
        refine Or.inr ?_
        -- Earlier messages settle earlier payments, of other orders.
        intro message member
        by_contra settles
        rw [Bool.not_eq_false] at settles
        obtain ⟨otherId, other, otherFound, _, otherSettles⟩ :=
          announced.announced member (isSettlement_of_settles settles)
        have otherKey : other.id = otherId :=
          Table.key_of_find? otherFound
        cases shape : message.message with
        | orderPaid orderId =>
            simp only [shape, Message.settles, decide_eq_true_eq] at *
            exact alone otherFound (otherSettles.symm.trans settles)
        | refundRequested paymentId orderId =>
            simp only [shape, Message.settles, decide_eq_true_eq] at *
            rw [← otherKey, ← otherSettles, settles, fresh] at otherFound
            cases otherFound
        | seatsChanged _ _ => simp [shape, Message.settles] at settles
        | ticketsIssued _ => simp [shape, Message.settles] at settles
        | unknown _ => simp [shape, Message.settles] at settles
      · exact Or.inl ⟨row, found, rfl⟩
  | booked payment order hold _ paid _ callable _ _ _ payments _ _ _ _ _
      outbox =>
      refine announced.settling
        { id := paid
          aggregateId := order.id
          message := .orderPaid order.id }
        settled callable payments outbox ?_ ?_
      · simp [Message.settles, callable.keys.1]
      · simp [seatsChangedRow, Message.isSettlement]
  | refunded payment order hold _ requested _ callable _ _ _ payments _
      outbox =>
      refine announced.settling
        { id := requested
          aggregateId := order.id
          message := .refundRequested payment.id order.id }
        settled callable payments outbox ?_ ?_
      · simp [Message.settles]
      · simp [seatsChangedRow, Message.isSettlement]
  | failed payment order hold _ _ callable _ _ _ _ payments outbox =>
      exact announced.silent kept outbox
        (by simp [seatsChangedRow, Message.isSettlement])
        (fun found => Or.inl (payments.before found))
  | noted payment order hold _ _ callable _ _ _ _ payments outbox =>
      exact announced.silent kept outbox
        (by simp [seatsChangedRow, Message.isSettlement])
        (fun found => Or.inl (payments.before found))
  | fulfilled _ _ _ _ _ commerce outbox =>
      exact announced.silent kept outbox
        (by simp [Message.isSettlement])
        (unchanged commerce.payments)
  | refundCompleted _ _ _ _ payments _ outbox =>
      exact announced.silent kept outbox (by simp) (unchanged payments)

end FlashTicketing
