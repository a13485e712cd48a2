import FlashTicketing.PaymentSettlement
import FlashTicketing.PostgresRecords
import FlashTicketing.ReservationIntake

namespace FlashTicketing

open Relational Checked Transition

/-!
# Orders and holds never regress

An order and its hold change their status together.  Several updates set the
status of an order without looking at it, so that no order moves backwards rests
on the joint invariant of orders, holds and payments.
-/

variable {Hash : Type}

/-! ## Statuses -/

/-- The moves of an order. -/
inductive OrderStatus.Moves : OrderStatus → OrderStatus → Prop where
  | failed : Moves .pending .failed
  | expired : Moves .pending .expired
  | paid : Moves .pending .paid
  | lost : Moves .pending .refundPending
  | failedLate : Moves .failed .refundPending
  | expiredLate : Moves .expired .refundPending
  | refunded : Moves .refundPending .refunded
  | fulfilled : Moves .paid .fulfilled

/-- What the status of a hold says about the status of its order. -/
def HoldStatus.Pairs (hold : HoldStatus) (order : OrderStatus) : Prop :=
  (hold = .active ↔ order = .pending) ∧
    (hold = .consumed ↔ order = .paid ∨ order = .fulfilled)

theorem OrderStatus.isPaid_iff_paid {status : OrderStatus} :
    status.isPaid = true ↔ status = .paid ∨ status = .fulfilled := by
  cases status <;> simp [OrderStatus.isPaid]

/-! ## Orders keep everything but their status -/

/-- Stored orders stay, with a status that is allowed after the old one. -/
def OrdersRestated
    (allowed : OrderStatus → OrderStatus → Prop)
    (db after : Database Hash) : Prop :=
  ∀ id order,
    db.orders.find? id = some order →
    ∃ status,
      after.orders.find? id = some { order with status := status } ∧
        allowed order.status status

/-- At most one move. -/
def OrderStatus.Moved (before after : OrderStatus) : Prop :=
  after = before ∨ before.Moves after

/-- Nothing but the expiry of pending orders. -/
def OrderStatus.Lapses (before after : OrderStatus) : Prop :=
  after = before ∨ (before = .pending ∧ after = .expired)

theorem OrderStatus.Lapses.moved
    {before after : OrderStatus}
    (lapses : before.Lapses after) :
    before.Moved after := by
  rcases lapses with same | ⟨rfl, rfl⟩
  · exact Or.inl same
  · exact Or.inr .expired

theorem OrderStatus.Lapses.trans
    {first second third : OrderStatus}
    (early : first.Lapses second)
    (late : second.Lapses third) :
    first.Lapses third := by
  rcases early with rfl | ⟨rfl, rfl⟩
  · exact late
  · rcases late with rfl | ⟨isPending, _⟩
    · exact Or.inr ⟨rfl, rfl⟩
    · cases isPending

namespace OrdersRestated

variable
  {allowed : OrderStatus → OrderStatus → Prop}
  {db after : Database Hash}

theorem mono
    {wider : OrderStatus → OrderStatus → Prop}
    (restated : OrdersRestated allowed db after)
    (implies : ∀ before after, allowed before after → wider before after) :
    OrdersRestated wider db after := by
  intro id order found
  obtain ⟨status, foundAfter, isAllowed⟩ := restated id order found
  exact ⟨status, foundAfter, implies _ _ isAllowed⟩

/-- Orders that stay as they are. -/
theorem of_kept
    (reflexive : ∀ status, allowed status status)
    (kept :
      ∀ {id order},
        db.orders.find? id = some order →
        after.orders.find? id = some order) :
    OrdersRestated allowed db after := by
  intro id order found
  exact ⟨order.status, kept found, reflexive _⟩

theorem of_revised
    {holdStatus : Hold → HoldStatus}
    {orderStatus : Order → OrderStatus}
    {reseat : EventSeat → EventSeat}
    (revised : Revised holdStatus orderStatus reseat db after)
    (isAllowed :
      ∀ {id order},
        db.orders.find? id = some order →
        allowed order.status (orderStatus order)) :
    OrdersRestated allowed db after := by
  intro id order found
  exact ⟨_, revised.order_after found, isAllowed found⟩

theorem trans
    {first second third : Database Hash}
    (transitive :
      ∀ {first second third},
        allowed first second →
        allowed second third →
        allowed first third)
    (early : OrdersRestated allowed first second)
    (late : OrdersRestated allowed second third) :
    OrdersRestated allowed first third := by
  intro id order found
  obtain ⟨middle, foundMiddle, allowedMiddle⟩ := early id order found
  obtain ⟨last, foundLast, allowedLast⟩ := late id _ foundMiddle
  exact ⟨last, foundLast, transitive allowedMiddle allowedLast⟩

end OrdersRestated

/-- `_release` lets an order lapse. -/
theorem lapses_closedOrder
    (order row : Order) :
    row.status.Lapses (order.closedOrder row) := by
  unfold Order.closedOrder
  split
  · rename_i closed
    exact Or.inr ⟨closed.2, rfl⟩
  · exact Or.inl rfl

/-- Restating one stored order concerns its stored status. -/
theorem moved_restated
    {db : Database Hash}
    {order : Order}
    {status : OrderStatus}
    (stored : db.orders.find? order.id = some order)
    (moved : order.status.Moved status) :
    ∀ {id row},
      db.orders.find? id = some row →
      row.status.Moved (order.restated status row) := by
  intro id row found
  unfold Order.restated
  split
  · rename_i sameId
    have isId : row.id = id := Table.key_of_find? found
    rw [← isId, sameId, stored] at found
    cases found
    exact moved
  · exact Or.inl rfl

/-- One change moves every order at most once. -/
theorem OrdersRestated.of_change
    {now : Int}
    {db after : Database Hash}
    (settled : PaymentsSettled db)
    (change : Change now db after) :
    OrdersRestated OrderStatus.Moved db after := by
  cases change with
  | bookkeeping _ revised =>
      exact .of_revised revised fun _ => Or.inl rfl
  | paymentOpened _ _ _ _ _ _ _ revised =>
      exact .of_revised revised fun _ => Or.inl rfl
  | noted _ _ _ _ _ _ _ revised =>
      exact .of_revised revised fun _ => Or.inl rfl
  | placed _ _ _ _ _ placed =>
      exact .of_kept (fun _ => Or.inl rfl) placed.order_after
  | released order _ _ _ _ revised =>
      exact .of_revised revised fun _ =>
        (lapses_closedOrder order _).moved
  | booked _ order _ _ _ _ callable pending _ revised =>
      refine .of_revised revised (moved_restated callable.order_stored ?_)
      rw [pending]
      exact Or.inr .paid
  | refunded _ order _ _ _ _ callable _ revised =>
      refine .of_revised revised (moved_restated callable.order_stored ?_)
      obtain ⟨unpaid, unrefunded, _⟩ := settled.unsettled callable
      cases status : order.status with
      | pending => exact Or.inr .lost
      | failed => exact Or.inr .failedLate
      | expired => exact Or.inr .expiredLate
      | paid | fulfilled =>
          rw [status] at unpaid
          cases unpaid
      | refundPending | refunded =>
          rw [status] at unrefunded
          cases unrefunded
  | failed _ order _ _ _ callable pending revised =>
      refine .of_revised revised (moved_restated callable.order_stored ?_)
      rw [pending]
      exact Or.inr .failed
  | fulfilled order _ found paid revised =>
      refine .of_revised revised (moved_restated found ?_)
      rcases OrderStatus.isPaid_iff_paid.mp paid with isPaid | isFulfilled
      · rw [isPaid]
        exact Or.inr .fulfilled
      · exact Or.inl isFulfilled.symm
  | refundCompleted _ orderId revised =>
      apply OrdersRestated.of_revised revised
      intro id row _
      split
      · rename_i completed
        rw [completed.2]
        exact Or.inr .refunded
      · exact Or.inl rfl

/-! ## One transaction moves an order once -/

namespace PostgresReservations

variable
  {ambient : Ambient}
  {db after : Database Hash}

theorem ordersKept_of_initiatePaymentBody
    {actor : Actor}
    {orderId : Uuid}
    {outcome : Outcome}
    {delaySeconds duplicates : Nat}
    {response : Response}
    (accepted :
      initiatePaymentBody actor orderId outcome delaySeconds duplicates
        ambient db = .ok (response, after)) :
    after.orders = db.orders := by
  simp only [initiatePaymentBody, bind_eq_ok] at accepted
  obtain ⟨_, _, rest⟩ := accepted
  split at rest
  · simp only [pure_eq_ok, Prod.mk.injEq] at rest
    rw [← rest.2]
  · simp only [bind_eq_ok, pure_eq_ok, Prod.mk.injEq] at rest
    obtain ⟨_, _, _, _, _, _, _, _, _, rfl⟩ := rest
    rfl

/-- The batch lets its orders lapse, whatever became of them since the query. -/
theorem lapses_of_expireBatch
    {limit count : Nat}
    {locked : List Uuid}
    (accepted :
      expireBatch limit locked ambient db = .ok (count, after)) :
    OrdersRestated OrderStatus.Lapses db after := by
  simp only [expireBatch, bind_eq_ok, pure_eq_ok,
    Prod.mk.injEq] at accepted
  obtain ⟨_, _, released, folded, _, rfl⟩ := accepted
  have start : OrdersRestated OrderStatus.Lapses db db :=
    .of_kept (fun _ => Or.inl rfl) id
  apply foldlM_invariant _ start folded
  rintro state ⟨order, index⟩ next _ lapsed released
  obtain ⟨revised, _⟩ := released_of_releaseInTransaction released
  exact lapsed.trans OrderStatus.Lapses.trans
    (.of_revised revised fun _ => lapses_closedOrder order _)

theorem moved_of_consumeEvent
    {envelope : Envelope}
    (settled : PaymentsSettled db)
    (accepted : consumeEvent envelope ambient db = .ok after) :
    OrdersRestated OrderStatus.Moved db after := by
  have unmoved {next : Database Hash} (same : next.orders = db.orders) :
      OrdersRestated OrderStatus.Moved db next := by
    apply OrdersRestated.of_kept fun _ => Or.inl rfl
    intro id order found
    rw [same]
    exact found
  simp only [consumeEvent, bind_eq_ok] at accepted
  obtain ⟨_, _, rest⟩ := accepted
  split at rest
  · simp only [pure_eq_ok] at rest
    exact unmoved (by rw [← rest])
  · rename_i inbox _
    have recorded : PaymentsSettled { db with consumerInbox := inbox } :=
      ⟨settled.alone, settled.ordered, settled.refundOf⟩
    cases message : envelope.message with
    | seatsChanged eventId seats =>
        simp only [message, requestRefresh, bind_eq_ok,
          pure_eq_ok] at rest
        obtain ⟨_, _, rfl⟩ := rest
        exact unmoved rfl
    | orderPaid orderId =>
        simp only [message] at rest
        have moved :=
          OrdersRestated.of_change recorded (change_of_fulfilOrder rest)
        exact fun id order found => moved id order found
    | refundRequested paymentId orderId =>
        simp only [message, pure_eq_ok] at rest
        subst rest
        have completed : Change ambient.now _ _ :=
          change_of_completeRefund paymentId orderId
            { db with consumerInbox := inbox }
        have moved := OrdersRestated.of_change recorded completed
        exact fun id order found => moved id order found
    | ticketsIssued orderId =>
        simp only [message, pure_eq_ok] at rest
        exact unmoved (by rw [← rest])
    | unknown eventType =>
        simp only [message, throw_eq_ok] at rest

variable
  [DecidableEq Hash]
  {self : PostgresReservations Hash}

/-- The frame of `idem` and `remember` does not move orders. -/
theorem moved_of_idempotent
    {digest : Request → Hash}
    {actor : Actor}
    {operation : Operation}
    {key : IdempotencyKey}
    {request : Request}
    {body : Database Hash → Except Error (Response × Database Hash)}
    {response : Response}
    (bodyKeeps :
      ∀ {before response next id order},
        body before = .ok (response, next) →
        before.orders.find? id = some order →
        next.orders.find? id = some order)
    (accepted :
      idempotent digest actor operation key request body db =
        .ok (response, after)) :
    OrdersRestated OrderStatus.Moved db after := by
  apply OrdersRestated.of_kept fun _ => Or.inl rfl
  intro id order found
  rcases idempotent_cases accepted with
    rfl | ⟨_, written, _, bodyAccepted, rfl⟩
  · exact found
  · have kept := @bodyKeeps _ _ _ id order bodyAccepted found
    exact kept

theorem moved_of_callback
    {payload : CallbackPayload}
    {status : CallbackStatus}
    (settled : PaymentsSettled db)
    (accepted :
      self.callback payload ambient db = .ok (status, after)) :
    OrdersRestated OrderStatus.Moved db after := by
  have unmoved {next : Database Hash} (same : next.orders = db.orders) :
      OrdersRestated OrderStatus.Moved db next := by
    apply OrdersRestated.of_kept fun _ => Or.inl rfl
    intro id order found
    rw [same]
    exact found
  simp only [callback, bind_eq_ok, require_eq_ok] at accepted
  obtain ⟨payment, paymentFound, order, orderFound, _, _, rest⟩ := accepted
  split at rest
  · simp only [bind_eq_ok, pure_eq_ok, Prod.mk.injEq] at rest
    obtain ⟨_, _, _, rfl⟩ := rest
    exact unmoved rfl
  · simp only [bind_eq_ok] at rest
    obtain ⟨callbacks, _, rest⟩ := rest
    split at rest
    · simp only [pure_eq_ok, Prod.mk.injEq] at rest
      exact unmoved (by rw [← rest.2])
    · rename_i unsettled
      simp only [bind_eq_ok, pure_eq_ok, Prod.mk.injEq,
        Prod.exists] at rest
      obtain ⟨_, _, settleAccepted, _, rfl⟩ := rest
      have isId : payment.id = payload.paymentId :=
        Table.key_of_find? paymentFound
      rw [← isId] at paymentFound
      have recorded :
          PaymentsSettled { db with paymentCallbacks := callbacks } :=
        ⟨settled.alone, settled.ordered, settled.refundOf⟩
      have moved := OrdersRestated.of_change recorded
        (change_of_settle paymentFound unsettled orderFound
          settleAccepted)
      exact fun id order found => moved id order found

theorem moved_of_body
    {call : Call Hash}
    {result : Result}
    (settled : PaymentsSettled db)
    (accepted : self.body call ambient db = .ok (result, after)) :
    OrdersRestated OrderStatus.Moved db after := by
  cases call with
  | release actor holdId =>
      simp only [body, release, bind_eq_ok, pure_eq_ok,
        Prod.mk.injEq] at accepted
      obtain ⟨_, ⟨order, _, _, _, released⟩, _, rfl⟩ := accepted
      obtain ⟨revised, _⟩ := released_of_releaseInTransaction released
      exact .of_revised revised fun _ =>
        (lapses_closedOrder order _).moved
  | consumeEvent envelope =>
      simp only [body, bind_eq_ok, pure_eq_ok, Prod.mk.injEq] at accepted
      obtain ⟨_, accepted, _, rfl⟩ := accepted
      exact moved_of_consumeEvent settled accepted
  | reserve actor eventId seatIds key =>
      simp only [body, reserve, bind_eq_ok, pure_eq_ok, Prod.mk.injEq,
        Prod.exists] at accepted
      obtain ⟨_, _, ⟨_, _, framed⟩, _, rfl⟩ := accepted
      apply moved_of_idempotent _ framed
      intro before response next id order bodyAccepted found
      obtain ⟨_, _, _, _, _, _, _, _, placed⟩ :=
        placed_of_reserveBody bodyAccepted
      exact placed.order_after found
  | persistReservationCommand payload response =>
      simp only [body, bind_eq_ok, pure_eq_ok, Prod.mk.injEq,
        Prod.exists] at accepted
      obtain ⟨_, _, accepted, _, rfl⟩ := accepted
      apply OrdersRestated.of_kept fun _ => Or.inl rfl
      intro id order found
      rcases persist_cases accepted with rfl | ⟨_, bodyAccepted⟩
      · exact found
      · obtain ⟨_, _, _, _, _, _, _, _, _, placed, _, _, rfl⟩ :=
          placed_of_persistBody bodyAccepted
        exact placed.order_after found
  | checkout actor holdId key =>
      simp only [body, checkout, bind_eq_ok, pure_eq_ok, Prod.mk.injEq,
        Prod.exists] at accepted
      obtain ⟨_, _, framed, _, rfl⟩ := accepted
      apply moved_of_idempotent _ framed
      intro before response next id order bodyAccepted found
      simp only [checkoutBody, bind_eq_ok, pure_eq_ok,
        Prod.mk.injEq] at bodyAccepted
      obtain ⟨_, _, _, _, _, _, _, rfl⟩ := bodyAccepted
      exact found
  | expireBatch limit locked =>
      simp only [body, bind_eq_ok, pure_eq_ok, Prod.mk.injEq,
        Prod.exists] at accepted
      obtain ⟨_, _, accepted, _, rfl⟩ := accepted
      exact (lapses_of_expireBatch accepted).mono fun _ _ lapses =>
        lapses.moved
  | initiatePayment actor orderId key outcome delaySeconds duplicates =>
      simp only [body, initiatePayment, bind_eq_ok, pure_eq_ok,
        Prod.mk.injEq, Prod.exists] at accepted
      obtain ⟨_, _, framed, _, rfl⟩ := accepted
      apply moved_of_idempotent _ framed
      intro before response next id order bodyAccepted found
      rw [ordersKept_of_initiatePaymentBody bodyAccepted]
      exact found
  | callback payload =>
      simp only [body, bind_eq_ok, pure_eq_ok, Prod.mk.injEq,
        Prod.exists] at accepted
      obtain ⟨_, _, accepted, _, rfl⟩ := accepted
      exact moved_of_callback settled accepted

end PostgresReservations

/-! ## Holds leave `ACTIVE` once -/

/-- Stored holds stay, and one that has left `ACTIVE` keeps its status. -/
def HoldsClosed (db after : Database Hash) : Prop :=
  ∀ id hold,
    db.holds.find? id = some hold →
    ∃ status,
      after.holds.find? id = some { hold with status := status } ∧
        (hold.status ≠ .active → status = hold.status)

namespace HoldsClosed

theorem refl (db : Database Hash) : HoldsClosed db db :=
  fun _ hold found => ⟨hold.status, found, fun _ => rfl⟩

theorem trans
    {first second third : Database Hash}
    (early : HoldsClosed first second)
    (late : HoldsClosed second third) :
    HoldsClosed first third := by
  intro id hold found
  obtain ⟨middle, foundMiddle, keptMiddle⟩ := early id hold found
  obtain ⟨last, foundLast, keptLast⟩ := late id _ foundMiddle
  refine ⟨last, foundLast, ?_⟩
  intro closed
  have same := keptMiddle closed
  subst same
  exact keptLast closed

theorem of_revised
    {holdStatus : Hold → HoldStatus}
    {orderStatus : Order → OrderStatus}
    {reseat : EventSeat → EventSeat}
    {db after : Database Hash}
    (revised : Revised holdStatus orderStatus reseat db after)
    (kept :
      ∀ {id hold},
        db.holds.find? id = some hold →
        hold.status ≠ .active →
        holdStatus hold = hold.status) :
    HoldsClosed db after := by
  intro id hold found
  exact ⟨_, revised.hold_after found, kept found⟩

theorem closedHold_kept
    (order : Order)
    (state : HoldStatus)
    {hold : Hold}
    (closed : hold.status ≠ .active) :
    order.closedHold state hold = hold.status := by
  unfold Order.closedHold
  rw [if_neg]
  exact fun both => closed both.2

theorem of_change
    {now : Int}
    {db after : Database Hash}
    (change : Change now db after) :
    HoldsClosed db after := by
  cases change with
  | bookkeeping _ revised => exact of_revised revised fun _ _ => rfl
  | paymentOpened _ _ _ _ _ _ _ revised =>
      exact of_revised revised fun _ _ => rfl
  | noted _ _ _ _ _ _ _ revised =>
      exact of_revised revised fun _ _ => rfl
  | fulfilled _ _ _ _ revised => exact of_revised revised fun _ _ => rfl
  | refundCompleted _ _ revised =>
      exact of_revised revised fun _ _ => rfl
  | placed _ _ _ _ _ placed =>
      intro id hold found
      exact ⟨hold.status, placed.hold_after found, fun _ => rfl⟩
  | released order state _ _ _ revised =>
      exact of_revised revised fun _ => closedHold_kept order state
  | refunded _ order _ _ _ _ _ _ revised =>
      exact of_revised revised fun _ => closedHold_kept order .expired
  | failed _ order _ _ _ _ _ revised =>
      exact of_revised revised fun _ => closedHold_kept order .released
  | booked _ _ hold _ _ _ callable _ valid revised =>
      apply of_revised revised
      intro id row found closed
      rw [if_neg]
      -- The booked hold was valid, so it was active.
      intro sameId
      have isId : row.id = id := Table.key_of_find? found
      have isHold : hold.id = _ := Table.key_of_find? callable.holdFound
      rw [← isId, sameId, isHold, callable.holdFound] at found
      cases found
      exact closed (validHold_iff.mp valid).2.1.1

end HoldsClosed

/-! ## Orders and holds change together -/

/-- Every hold has an order, and their statuses agree. -/
structure Paired (db : Database Hash) : Prop where
  ordered :
    ∀ {id hold},
      db.holds.find? id = some hold →
      ∃ orderId order,
        db.orders.find? orderId = some order ∧ order.holdId = id
  pairs :
    ∀ {id order hold},
      db.orders.find? id = some order →
      db.holds.find? order.holdId = some hold →
      hold.status.Pairs order.status

namespace Paired

theorem of_revised
    {holdStatus : Hold → HoldStatus}
    {orderStatus : Order → OrderStatus}
    {reseat : EventSeat → EventSeat}
    {db after : Database Hash}
    (paired : Paired db)
    (revised : Revised holdStatus orderStatus reseat db after)
    (keeps :
      ∀ {id order hold},
        db.orders.find? id = some order →
        db.holds.find? order.holdId = some hold →
        hold.status.Pairs order.status →
        (holdStatus hold).Pairs (orderStatus order)) :
    Paired after := by
  constructor
  · intro id hold found
    obtain ⟨before, foundBefore, _⟩ := revised.hold_before found
    obtain ⟨orderId, order, orderFound, isHold⟩ :=
      paired.ordered foundBefore
    exact ⟨orderId, _, revised.order_after orderFound, isHold⟩
  · intro id order hold orderFound holdFound
    obtain ⟨oldOrder, oldFound, rfl⟩ := revised.order_before orderFound
    obtain ⟨oldHold, oldHoldFound, rfl⟩ := revised.hold_before holdFound
    exact keeps oldFound oldHoldFound (paired.pairs oldFound oldHoldFound)

/-- An order and a hold belong to another exactly if both do. -/
theorem same_iff
    {db : Database Hash}
    {order row : Order}
    {hold : Hold}
    {id : Uuid}
    (sound : Referenced db)
    (stored : order.StoredIn db)
    (found : db.orders.find? id = some row)
    (holdFound : db.holds.find? row.holdId = some hold) :
    hold.id = order.holdId ↔ row.id = order.id := by
  obtain ⟨status, isStored⟩ := stored
  have isId : row.id = id := Table.key_of_find? found
  have isHold : hold.id = row.holdId := Table.key_of_find? holdFound
  rw [isId, isHold]
  constructor
  · intro sameHold
    exact sound.holdUnique found isStored sameHold
  · intro sameId
    rw [sameId, isStored] at found
    cases found
    rfl

/-- Closing a hold goes with closing its order. -/
theorem of_closed
    {orderStatus : Order → OrderStatus}
    {reseat : EventSeat → EventSeat}
    {db after : Database Hash}
    {order : Order}
    {state : HoldStatus}
    (paired : Paired db)
    (sound : Referenced db)
    (stored : order.StoredIn db)
    (closed : state = .released ∨ state = .expired)
    (revised :
      Revised (order.closedHold state) orderStatus reseat db after)
    (other : ∀ row, row.id ≠ order.id → orderStatus row = row.status)
    (own :
      ∀ {row},
        db.orders.find? order.id = some row →
        orderStatus row ≠ .pending ∧
          (orderStatus row = .paid ∨ orderStatus row = .fulfilled ↔
            row.status = .paid ∨ row.status = .fulfilled)) :
    Paired after := by
  apply paired.of_revised revised
  intro id row hold found holdFound ⟨active, consumed⟩
  have same := same_iff sound stored found holdFound
  have isId : row.id = id := Table.key_of_find? found
  by_cases isOrder : row.id = order.id
  · rw [← isId, isOrder] at found
    obtain ⟨unpending, paid⟩ := own found
    unfold Order.closedHold
    by_cases isActive : hold.status = .active
    · rw [if_pos ⟨same.mpr isOrder, isActive⟩]
      have unpaid : ¬ (row.status = .paid ∨ row.status = .fulfilled) := by
        rw [active.mp isActive]
        simp
      rcases closed with rfl | rfl
      · exact ⟨by simp [unpending], by simp [paid, unpaid]⟩
      · exact ⟨by simp [unpending], by simp [paid, unpaid]⟩
    · rw [if_neg fun both => isActive both.2]
      exact ⟨by simp [unpending, isActive], by rw [consumed, paid]⟩
  · rw [other row isOrder, Order.closedHold,
      if_neg fun both => isOrder (same.mp both.1)]
    exact ⟨active, consumed⟩

theorem of_placed
    {now : Int}
    {hold : Hold}
    {order : Order}
    {rows : List EventSeat}
    {seats : List SeatId}
    {announcement : Uuid}
    {db after : Database Hash}
    (paired : Paired db)
    (sound : Referenced db)
    (placed : Placed now hold order rows seats announcement db after) :
    Paired after := by
  constructor
  · intro id row found
    rw [placed.holds] at found
    split at found
    · rename_i isNew
      exact ⟨order.id, order, placed.order_stored,
        placed.orderHold.trans isNew.symm⟩
    · obtain ⟨orderId, other, orderFound, isHold⟩ := paired.ordered found
      exact ⟨orderId, other, placed.order_after orderFound, isHold⟩
  · intro id other row orderFound holdFound
    rcases placed.order_cases orderFound with
      ⟨_, rfl⟩ | ⟨_, oldFound⟩
    · rw [placed.orderHold, placed.hold_stored] at holdFound
      cases holdFound
      rw [placed.active, placed.pending]
      exact ⟨by simp, by simp⟩
    · obtain ⟨old, oldHold, _⟩ := sound.orderHold oldFound
      cases (placed.hold_after oldHold).symm.trans holdFound
      exact paired.pairs oldFound oldHold

theorem change
    {now : Int}
    {db after : Database Hash}
    (paired : Paired db)
    (sound : Referenced db)
    (change : Change now db after) :
    Paired after := by
  have restatedOther
      {order : Order}
      {status : OrderStatus}
      (row : Order)
      (other : row.id ≠ order.id) :
      order.restated status row = row.status := by
    unfold Order.restated
    rw [if_neg other]
  have restatedOwn
      {order : Order}
      {status : OrderStatus} :
      order.restated status order = status := by
    unfold Order.restated
    rw [if_pos rfl]
  cases change with
  | bookkeeping _ revised => exact paired.of_revised revised fun _ _ => id
  | paymentOpened _ _ _ _ _ _ _ revised =>
      exact paired.of_revised revised fun _ _ => id
  | noted _ _ _ _ _ _ _ revised =>
      exact paired.of_revised revised fun _ _ => id
  | placed _ _ _ _ _ placed => exact paired.of_placed sound placed
  | released order state _ stored closed revised =>
      apply paired.of_closed sound stored closed revised
      · intro row other
        unfold Order.closedOrder
        rw [if_neg fun both => other both.1]
      · intro row found
        have isId : row.id = order.id := Table.key_of_find? found
        unfold Order.closedOrder
        by_cases pending : row.status = .pending
        · simp [isId, pending]
        · simp [isId, pending]
  | refunded payment order hold _ _ _ callable unpaid revised =>
      apply paired.of_closed sound callable.storedIn (Or.inr rfl) revised
      · exact restatedOther
      · intro row found
        cases callable.order_stored.symm.trans found
        have notPaid :
            ¬ (order.status = .paid ∨ order.status = .fulfilled) := by
          rw [← OrderStatus.isPaid_iff_paid, unpaid]
          simp
        rw [restatedOwn]
        exact ⟨by simp, by simp [notPaid]⟩
  | failed payment order hold _ _ callable pending revised =>
      apply paired.of_closed sound callable.storedIn (Or.inl rfl) revised
      · exact restatedOther
      · intro row found
        cases callable.order_stored.symm.trans found
        rw [restatedOwn, pending]
        exact ⟨by simp, by simp⟩
  | booked payment order hold _ _ _ callable pending valid revised =>
      apply paired.of_revised revised
      intro id row other found holdFound pairs
      have same := same_iff sound callable.storedIn found holdFound
      rw [← callable.keys.2] at same
      by_cases isOrder : row.id = order.id
      · rw [if_pos (same.mpr isOrder), Order.restated, if_pos isOrder]
        exact ⟨by simp, by simp⟩
      · rw [if_neg fun isHold => isOrder (same.mp isHold),
          restatedOther row isOrder]
        exact pairs
  | fulfilled order _ found paid revised =>
      apply paired.of_revised revised
      intro id row hold rowFound holdFound pairs
      obtain ⟨active, consumed⟩ := pairs
      by_cases isOrder : row.id = order.id
      · have isId : row.id = id := Table.key_of_find? rowFound
        rw [← isId, isOrder, found] at rowFound
        cases rowFound
        rw [restatedOwn]
        rw [← OrderStatus.isPaid_iff_paid, paid] at consumed
        have isConsumed : hold.status = .consumed := consumed.mpr rfl
        rw [isConsumed]
        exact ⟨by simp, by simp⟩
      · rw [restatedOther row isOrder]
        exact ⟨active, consumed⟩
  | refundCompleted _ orderId revised =>
      apply paired.of_revised revised
      intro id row hold _ _ pairs
      obtain ⟨active, consumed⟩ := pairs
      split
      · rename_i completed
        rw [completed.2] at active consumed
        exact ⟨by simpa using active, by simpa using consumed⟩
      · exact ⟨active, consumed⟩

end Paired

/-! ## Items -/

/-- The items of an order. -/
def Database.itemsOf (db : Database Hash) (orderId : Uuid) : List OrderItem :=
  db.orderItems.select fun item => decide (item.orderId = orderId)

theorem mem_itemsOf
    {db : Database Hash}
    {orderId : Uuid}
    {item : OrderItem} :
    item ∈ db.itemsOf orderId ↔
      item ∈ db.orderItems ∧ item.orderId = orderId := by
  simp [Database.itemsOf]

theorem itemsOf_nodup
    (db : Database Hash)
    (orderId : Uuid) :
    (db.itemsOf orderId).Nodup :=
  (Table.select_keysNodup _ _).of_map _

/-- The items of stored orders stay the same. -/
def ItemsKept (db after : Database Hash) : Prop :=
  ∀ id,
    db.orders.find? id ≠ none →
    after.orders.find? id ≠ none ∧
      ∀ item, item ∈ after.itemsOf id ↔ item ∈ db.itemsOf id

namespace ItemsKept

theorem refl (db : Database Hash) : ItemsKept db db :=
  fun _ present => ⟨present, fun _ => Iff.rfl⟩

theorem trans
    {first second third : Database Hash}
    (early : ItemsKept first second)
    (late : ItemsKept second third) :
    ItemsKept first third := by
  intro id present
  obtain ⟨presentMiddle, sameMiddle⟩ := early id present
  obtain ⟨presentLast, sameLast⟩ := late id presentMiddle
  exact ⟨presentLast, fun item => (sameLast item).trans (sameMiddle item)⟩

theorem of_revised
    {holdStatus : Hold → HoldStatus}
    {orderStatus : Order → OrderStatus}
    {reseat : EventSeat → EventSeat}
    {db after : Database Hash}
    (revised : Revised holdStatus orderStatus reseat db after) :
    ItemsKept db after := by
  intro id present
  constructor
  · obtain ⟨order, found⟩ := Option.ne_none_iff_exists'.mp present
    simp [revised.order_after found]
  · intro item
    rw [mem_itemsOf, mem_itemsOf, revised.items]

theorem of_change
    {now : Int}
    {db after : Database Hash}
    (change : Change now db after) :
    ItemsKept db after := by
  cases change with
  | placed hold order rows _ _ placed =>
      intro id present
      obtain ⟨old, found⟩ := Option.ne_none_iff_exists'.mp present
      refine ⟨by simp [placed.order_after found], ?_⟩
      intro item
      rw [mem_itemsOf, mem_itemsOf, placed.itemsAdded]
      constructor
      · rintro ⟨isOld | ⟨row, _, rfl⟩, isOrder⟩
        · exact ⟨isOld, isOrder⟩
        · change order.id = id at isOrder
          rw [← isOrder, placed.orderFresh] at found
          cases found
      · rintro ⟨isOld, isOrder⟩
        exact ⟨Or.inl isOld, isOrder⟩
  | bookkeeping _ revised => exact of_revised revised
  | paymentOpened _ _ _ _ _ _ _ revised => exact of_revised revised
  | noted _ _ _ _ _ _ _ revised => exact of_revised revised
  | released _ _ _ _ _ revised => exact of_revised revised
  | refunded _ _ _ _ _ _ _ _ revised => exact of_revised revised
  | failed _ _ _ _ _ _ _ revised => exact of_revised revised
  | booked _ _ _ _ _ _ _ _ _ revised => exact of_revised revised
  | fulfilled _ _ _ _ revised => exact of_revised revised
  | refundCompleted _ _ revised => exact of_revised revised

theorem perm
    {db after : Database Hash}
    {id : Uuid}
    (kept : ItemsKept db after)
    (present : db.orders.find? id ≠ none) :
    (after.itemsOf id).Perm (db.itemsOf id) :=
  (List.perm_ext_iff_of_nodup (itemsOf_nodup _ _) (itemsOf_nodup _ _)).mpr
    (kept id present).2

end ItemsKept

/-- A new order has one item for each of its rows. -/
theorem Placed.itemsOf_perm
    {now : Int}
    {hold : Hold}
    {order : Order}
    {rows : List EventSeat}
    {seats : List SeatId}
    {announcement : Uuid}
    {db after : Database Hash}
    (placed : Placed now hold order rows seats announcement db after)
    (sound : Referenced db) :
    (after.itemsOf order.id).Perm (rows.map (itemOf order hold)) := by
  have rowsNodup : (rows.map (itemOf order hold)).Nodup := by
    apply List.Nodup.of_map OrderItem.place
    have samePlaces :
        (rows.map (itemOf order hold)).map OrderItem.place =
          rows.map EventSeat.place := by
      rw [List.map_map]
      apply List.map_congr_left
      intro row member
      exact placed.item_place member
    rw [samePlaces]
    exact placed.rowsNodup
  rw [List.perm_ext_iff_of_nodup (itemsOf_nodup _ _) rowsNodup]
  intro item
  rw [mem_itemsOf, placed.itemsAdded, List.mem_map]
  constructor
  · rintro ⟨isOld | isRow, isOrder⟩
    · exact absurd isOrder (placed.item_old sound isOld)
    · exact isRow
  · rintro ⟨row, member, rfl⟩
    exact ⟨Or.inr ⟨row, member, rfl⟩, rfl⟩

/-! ## Totals -/

/-- The total of every order is the sum of its items. -/
def Totalled (db : Database Hash) : Prop :=
  ∀ id order,
    db.orders.find? id = some order →
    order.total = ((db.itemsOf id).map OrderItem.price).sum

section Totals

variable
  {now : Int}
  {db after : Database Hash}

theorem Revised.totalled
    {holdStatus : Hold → HoldStatus}
    {orderStatus : Order → OrderStatus}
    {reseat : EventSeat → EventSeat}
    (revised : Revised holdStatus orderStatus reseat db after)
    (totalled : Totalled db) :
    Totalled after := by
  intro id order found
  obtain ⟨before, beforeFound, isOrder⟩ := revised.order_before found
  have sameTotal : order.total = before.total := by rw [isOrder]
  rw [Database.itemsOf, revised.items, sameTotal]
  exact totalled id before beforeFound

theorem Placed.totalled
    {hold : Hold}
    {order : Order}
    {rows : List EventSeat}
    {seats : List SeatId}
    {announcement : Uuid}
    (placed : Placed now hold order rows seats announcement db after)
    (sound : Referenced db)
    (totalled : Totalled db) :
    Totalled after := by
  intro id found isFound
  rcases placed.order_cases isFound with ⟨rfl, rfl⟩ | ⟨distinct, before⟩
  · rw [placed.total,
      ((placed.itemsOf_perm sound).map OrderItem.price).sum_eq,
      List.map_map]
    rfl
  · have same : (after.itemsOf id).Perm (db.itemsOf id) :=
      (ItemsKept.of_change (.placed hold order rows seats announcement
        placed)).perm (ne_of_eq_of_ne before (Option.some_ne_none found))
    rw [totalled id found before, (same.map OrderItem.price).sum_eq]

theorem Totalled.change
    (totalled : Totalled db)
    (sound : Referenced db)
    (change : Change now db after) :
    Totalled after := by
  cases change with
  | placed _ _ _ _ _ placed => exact placed.totalled sound totalled
  | bookkeeping _ revised | paymentOpened _ _ _ _ _ _ _ revised
  | noted _ _ _ _ _ _ _ revised | fulfilled _ _ _ _ revised
  | refundCompleted _ _ revised | released _ _ _ _ _ revised
  | refunded _ _ _ _ _ _ _ _ revised | failed _ _ _ _ _ _ _ revised
  | booked _ _ _ _ _ _ _ _ _ revised =>
      exact revised.totalled totalled

end Totals

/-! ## Numbers of items -/

/-- The order has one to eight items. -/
def Sized (db : Database Hash) (order : Order) : Prop :=
  1 ≤ (db.itemsOf order.id).length ∧ (db.itemsOf order.id).length ≤ 8

theorem Sized.of_perm
    {db after : Database Hash}
    {order : Order}
    (sized : Sized db order)
    (status : OrderStatus)
    (same : (after.itemsOf order.id).Perm (db.itemsOf order.id)) :
    Sized after { order with status := status } := by
  unfold Sized
  rw [same.length_eq]
  exact sized

/-- A new order has as many items as seats were asked for. -/
theorem Placed.sized
    {now : Int}
    {hold : Hold}
    {order : Order}
    {rows : List EventSeat}
    {seats : List SeatId}
    {announcement : Uuid}
    {db after : Database Hash}
    (placed : Placed now hold order rows seats announcement db after)
    (sound : Referenced db)
    (asked : 1 ≤ seats.length ∧ seats.length ≤ 8) :
    Sized after order := by
  have length : (after.itemsOf order.id).length = seats.length := by
    rw [(placed.itemsOf_perm sound).length_eq, List.length_map]
    exact placed.rowsFound
  unfold Sized
  rw [length]
  exact asked

/-! ## Admitted calls -/

/-- Commands are built by the intake for seats that `reserve` admits. -/
def Call.Admitted
    (intake : RedisReservationIntake Hash) : Call Hash → Prop
  | .persistReservationCommand payload _ =>
      ∃ command : NewCommand,
        Reservations.admits command.seatIds ∧
          payload = intake.payload command
  | _ => True

section Steps

variable [DecidableEq Hash]

namespace PostgresReservations

variable
  {self : PostgresReservations Hash}
  {intake : RedisReservationIntake Hash}
  {call : Call Hash}
  {ambient : Ambient}
  {db after : Database Hash}

theorem reserveRequest_eq_some
    {eventId : Uuid}
    {seatIds : List SeatId}
    {request : Request}
    (valid : reserveRequest eventId seatIds = some request) :
    1 ≤ (sortedSeats seatIds.dedup).length ∧
      (sortedSeats seatIds.dedup).length ≤ 8 := by
  simp only [reserveRequest, Option.ite_none_right_eq_some] at valid
  exact valid.1.2

omit [DecidableEq Hash] in
/-- A new order is the one that was placed, under some records. -/
theorem sized_of_placed
    {hold : Hold}
    {placedOrder order : Order}
    {rows : List EventSeat}
    {seats : List SeatId}
    {announcement id : Uuid}
    {records : Table (IdempotencyRecord Hash)}
    (sound : Referenced db)
    (placed :
      Placed ambient.now hold placedOrder rows seats announcement
        { db with idempotencyRecords := records } after)
    (found : after.orders.find? id = some order)
    (fresh : db.orders.find? id = none)
    (asked : 1 ≤ seats.length ∧ seats.length ≤ 8) :
    Sized after order := by
  have recorded : Referenced { db with idempotencyRecords := records } :=
    ⟨sound.orderHold, sound.holdUnique, sound.itemOrder, sound.itemSeat,
      sound.heldItem, sound.deadlineChecked, sound.bookedChecked⟩
  rcases placed.order_cases found with ⟨_, rfl⟩ | ⟨_, old⟩
  · exact placed.sized recorded asked
  · cases fresh.symm.trans old

theorem sized_of_reserve
    {actor : Actor}
    {eventId id : Uuid}
    {seatIds : List SeatId}
    {key : IdempotencyKey}
    {response : Response}
    {order : Order}
    (sound : Referenced db)
    (accepted :
      self.reserve actor eventId seatIds key ambient db =
        .ok (response, after))
    (found : after.orders.find? id = some order)
    (fresh : db.orders.find? id = none) :
    Sized after order := by
  simp only [reserve, bind_eq_ok, require_eq_ok] at accepted
  obtain ⟨request, valid, framed⟩ := accepted
  have asked := reserveRequest_eq_some valid
  rcases idempotent_cases framed with
    rfl | ⟨_, written, _, bodyAccepted, rfl⟩
  · cases fresh.symm.trans found
  · obtain ⟨_, _, _, _, _, _, _, _, placed⟩ :=
      placed_of_reserveBody bodyAccepted
    have sized := sized_of_placed sound placed found fresh asked
    exact sized

theorem sized_of_persistReservationCommand
    {payload : CommandPayload Hash}
    {reply : CommandResponse}
    {id : Uuid}
    {response : Response}
    {order : Order}
    (sound : Referenced db)
    (admitted :
      (Call.persistReservationCommand payload reply).Admitted intake)
    (accepted :
      self.persistReservationCommand payload reply ambient db =
        .ok (response, after))
    (found : after.orders.find? id = some order)
    (fresh : db.orders.find? id = none) :
    Sized after order := by
  obtain ⟨command, ⟨⟨atLeastOne, atMostEight, distinct⟩, _⟩, rfl⟩ :=
    admitted
  rcases persist_cases accepted with rfl | ⟨_, bodyAccepted⟩
  · cases fresh.symm.trans found
  · obtain ⟨_, _, _, _, _, _, _, _, _, placed, _, _, rfl⟩ :=
      placed_of_persistBody bodyAccepted
    have length :
        (sortedSeats (intake.payload command).seatIds).length =
          command.seatIds.length := by
      simp only [RedisReservationIntake.payload, NewCommand.seats,
        length_sortedSeats]
      exact distinct
    have asked :
        1 ≤ (sortedSeats (intake.payload command).seatIds).length ∧
          (sortedSeats (intake.payload command).seatIds).length ≤ 8 := by
      rw [length]
      exact ⟨atLeastOne, atMostEight⟩
    have sized := sized_of_placed sound placed found fresh asked
    exact sized

/-- Orders that an admitted call creates have one to eight items. -/
theorem sized_of_body
    {result : Result}
    {id : Uuid}
    {order : Order}
    (sound : Referenced db)
    (admitted : call.Admitted intake)
    (accepted : self.body call ambient db = .ok (result, after))
    (found : after.orders.find? id = some order)
    (fresh : db.orders.find? id = none) :
    Sized after order := by
  cases keyed : call.recordKey? with
  | none =>
      have same := (untouched_of_body keyed accepted).orders id
      rw [found, fresh] at same
      cases same
  | some key =>
      cases call with
      | reserve actor eventId seatIds key =>
          simp only [body, bind_eq_ok, pure_eq_ok, Prod.mk.injEq,
            Prod.exists] at accepted
          obtain ⟨_, _, accepted, _, rfl⟩ := accepted
          exact sized_of_reserve sound accepted found fresh
      | persistReservationCommand payload reply =>
          simp only [body, bind_eq_ok, pure_eq_ok, Prod.mk.injEq,
            Prod.exists] at accepted
          obtain ⟨_, _, accepted, _, rfl⟩ := accepted
          exact sized_of_persistReservationCommand sound admitted accepted
            found fresh
      | checkout actor holdId key =>
          simp only [body, checkout, bind_eq_ok, pure_eq_ok,
            Prod.mk.injEq, Prod.exists] at accepted
          obtain ⟨_, _, framed, _, rfl⟩ := accepted
          rcases idempotent_cases framed with
            rfl | ⟨_, written, _, bodyAccepted, rfl⟩
          · cases fresh.symm.trans found
          · simp only [checkoutBody, bind_eq_ok, pure_eq_ok,
              Prod.mk.injEq] at bodyAccepted
            obtain ⟨_, _, _, _, _, _, _, rfl⟩ := bodyAccepted
            cases fresh.symm.trans found
      | initiatePayment actor orderId key outcome delaySeconds duplicates =>
          simp only [body, initiatePayment, bind_eq_ok, pure_eq_ok,
            Prod.mk.injEq, Prod.exists] at accepted
          obtain ⟨_, _, framed, _, rfl⟩ := accepted
          rcases idempotent_cases framed with
            rfl | ⟨_, written, _, bodyAccepted, rfl⟩
          · cases fresh.symm.trans found
          · rw [ordersKept_of_initiatePaymentBody bodyAccepted] at found
            cases fresh.symm.trans found
      | release | expireBatch | callback | consumeEvent => cases keyed

/-- One transaction of a store whose commands are admitted. -/
def AdmittedStep
    (self : PostgresReservations Hash)
    (intake : RedisReservationIntake Hash)
    (db : Database Hash)
    (invocation : Invocation Hash)
    (after : Database Hash) : Prop :=
  self.Step db invocation after ∧ invocation.call.Admitted intake

end PostgresReservations

/-- The joint invariant of orders, holds, payments and items. -/
structure LifecycleSound (db : Database Hash) : Prop where
  referenced : Referenced db
  settled : PaymentsSettled db
  paired : Paired db
  totalled : Totalled db

/-- Every order has one to eight items. -/
def OrdersSized (db : Database Hash) : Prop :=
  ∀ id order, db.orders.find? id = some order → Sized db order

namespace LifecycleSound

variable
  {self : PostgresReservations Hash}
  {intake : RedisReservationIntake Hash}
  {db after : Database Hash}
  {invocation : Invocation Hash}

omit [DecidableEq Hash] in
theorem of_changes
    {now : Int}
    (sound : LifecycleSound db)
    (changes : Changes now db after) :
    LifecycleSound after := by
  induction changes with
  | refl => exact sound
  | tail _ change inductionHypothesis =>
      obtain ⟨referenced, settled, paired, totalled⟩ := inductionHypothesis
      exact ⟨referenced.change change, settled.change change,
        paired.change referenced change, totalled.change referenced change⟩

omit [DecidableEq Hash] in
theorem itemsKept_of_changes
    {now : Int}
    (changes : Changes now db after) :
    ItemsKept db after := by
  induction changes with
  | refl => exact .refl _
  | tail _ change inductionHypothesis =>
      exact inductionHypothesis.trans (.of_change change)

/-- What one transaction does to the stored orders. -/
theorem moved_of_step
    (sound : LifecycleSound db)
    (step : self.Step db invocation after) :
    OrdersRestated OrderStatus.Moved db after := by
  rcases step.committed with rfl | ⟨result, accepted⟩
  · exact .of_kept (fun _ => Or.inl rfl) id
  · exact PostgresReservations.moved_of_body sound.settled accepted

theorem step
    (sound : LifecycleSound db)
    (step : self.Step db invocation after) :
    LifecycleSound after :=
  sound.of_changes (PostgresReservations.changes_of_step step)

/-- Stored orders keep their items, and admitted calls create one to eight. -/
theorem sized_step
    (sound : LifecycleSound db)
    (sized : OrdersSized db)
    (step : self.AdmittedStep intake db invocation after) :
    OrdersSized after := by
  obtain ⟨taken, admitted⟩ := step
  intro id order found
  cases before : db.orders.find? id with
  | some old =>
      obtain ⟨status, foundAfter, _⟩ :=
        sound.moved_of_step taken id old before
      cases found.symm.trans foundAfter
      have isId : old.id = id := Table.key_of_find? before
      have changes := PostgresReservations.changes_of_step taken
      apply (sized _ _ before).of_perm
      rw [isId]
      exact (itemsKept_of_changes changes).perm (by simp [before])
  | none =>
      rcases taken.committed with rfl | ⟨result, accepted⟩
      · cases before.symm.trans found
      · exact PostgresReservations.sized_of_body sound.referenced admitted
          accepted found before

end LifecycleSound

omit [DecidableEq Hash] in
theorem Database.Initial.lifecycleSound
    {db : Database Hash}
    (initial : db.Initial) :
    LifecycleSound db := by
  refine ⟨initial.referenced, initial.paymentSafe.settled, ⟨?_, ?_⟩, ?_⟩
  · intro id hold found
    rw [initial.fresh] at found
    cases found
  · intro id order hold found
    rw [initial.fresh] at found
    cases found
  · intro id order found
    rw [initial.fresh] at found
    cases found

/-- Where all calls are admitted, orders have one to eight items. -/
theorem Database.Initial.sized_run
    {self : PostgresReservations Hash}
    {intake : RedisReservationIntake Hash}
    {start db : Database Hash}
    {invocations : List (Invocation Hash)}
    (initial : start.Initial)
    (run : Run (self.AdmittedStep intake) start invocations db) :
    OrdersSized db := by
  have fresh : OrdersSized start := by
    intro id order found
    rw [initial.fresh] at found
    cases found
  have both : LifecycleSound db ∧ OrdersSized db :=
    @Run.invariant _ _ _ (fun db => LifecycleSound db ∧ OrdersSized db) _ _
      _ run ⟨initial.lifecycleSound, fresh⟩ fun holds step =>
        ⟨holds.1.step step.1, holds.1.sized_step holds.2 step⟩
  exact both.2

/--
In every run each order has a hold of its own, and their statuses agree.  A
transaction moves an order at most once, along the moves of orders.  A hold that
has left `ACTIVE` never changes again.  The items of an order are seats of its
event, their prices make its total, and it keeps them.  If all calls were
admitted, it has one to eight of them.
-/
theorem order_lifecycle
    {self : PostgresReservations Hash}
    {intake : RedisReservationIntake Hash}
    {start middle final : Database Hash}
    {early late : List (Invocation Hash)}
    (initial : start.Initial)
    (earlyRun : Run self.Step start early middle)
    (lateRun : Run self.Step middle late final) :
    ((∀ order ∈ middle.orders,
        ∃ hold ∈ middle.holds,
          hold.id = order.holdId ∧ hold.status.Pairs order.status) ∧
      ∀ hold ∈ middle.holds,
        ∃! order, order ∈ middle.orders ∧ order.holdId = hold.id) ∧
    (∀ invocation after,
      self.Step middle invocation after →
      ∀ order ∈ middle.orders,
        ∃ next ∈ after.orders,
          next.id = order.id ∧
            (next.status = order.status ∨
              order.status.Moves next.status)) ∧
    (∀ hold ∈ middle.holds,
      hold.status ≠ .active → hold ∈ final.holds) ∧
    ∀ order ∈ middle.orders,
      (((∀ invocation ∈ early, invocation.call.Admitted intake) →
          1 ≤ (middle.itemsOf order.id).length ∧
            (middle.itemsOf order.id).length ≤ 8) ∧
        order.total =
          ((middle.itemsOf order.id).map OrderItem.price).sum ∧
        ∀ item ∈ middle.itemsOf order.id,
          item.eventId = order.eventId ∧
            middle.eventSeats.find? item.place ≠ none) ∧
      ∃ later ∈ final.orders,
        later.id = order.id ∧
          later.eventId = order.eventId ∧
          later.total = order.total ∧
          (final.itemsOf order.id).Perm (middle.itemsOf order.id) := by
  have sound : LifecycleSound middle :=
    earlyRun.invariant initial.lifecycleSound fun holds step =>
      holds.step step
  have closed : HoldsClosed middle final := by
    apply PostgresReservations.run_relates (fun _ => True)
      (fun _ _ => trivial) HoldsClosed.refl HoldsClosed.trans
      (fun _ change => .of_change change) lateRun trivial
  have ordersKept : OrdersRestated (fun _ _ => True) middle final :=
    lateRun.relates LifecycleSound sound
      (fun holds step => holds.step step)
      (fun _ => .of_kept (fun _ => trivial) id)
      (.trans fun _ _ => trivial)
      (fun holds step =>
        (holds.moved_of_step step).mono fun _ _ _ => trivial)
  have kept : ItemsKept middle final := by
    apply PostgresReservations.run_relates (fun _ => True)
      (fun _ _ => trivial) ItemsKept.refl ItemsKept.trans
      (fun _ change => .of_change change) lateRun trivial
  refine ⟨⟨?_, ?_⟩, ?_, ?_, ?_⟩
  · intro order member
    have found := Table.find?_key member
    obtain ⟨hold, holdFound, _⟩ := sound.referenced.orderHold found
    exact ⟨hold, Table.mem_of_find? holdFound,
      Table.key_of_find? holdFound, sound.paired.pairs found holdFound⟩
  · intro hold member
    obtain ⟨orderId, order, found, isHold⟩ :=
      sound.paired.ordered (Table.find?_key member)
    refine ⟨order, ⟨Table.mem_of_find? found, isHold⟩, ?_⟩
    rintro other ⟨otherMember, otherHold⟩
    have sameId :=
      sound.referenced.holdUnique (Table.find?_key otherMember) found
        (otherHold.trans isHold.symm)
    cases (sameId ▸ Table.find?_key otherMember).symm.trans found
    rfl
  · intro invocation after step order member
    obtain ⟨status, foundAfter, moved⟩ :=
      sound.moved_of_step step _ order (Table.find?_key member)
    exact ⟨_, Table.mem_of_find? foundAfter, rfl, moved⟩
  · intro hold member inactive
    obtain ⟨status, foundFinal, same⟩ :=
      closed _ hold (Table.find?_key member)
    rw [same inactive] at foundFinal
    exact Table.mem_of_find? foundFinal
  · intro order member
    have found := Table.find?_key member
    refine ⟨⟨?_, sound.totalled _ _ found, ?_⟩, ?_⟩
    · intro admitted
      exact initial.sized_run (earlyRun.restrict admitted) _ _ found
    · intro item listed
      obtain ⟨itemMember, isOrder⟩ := mem_itemsOf.mp listed
      obtain ⟨owner, ownerFound, sameEvent⟩ :=
        sound.referenced.itemOrder itemMember
      obtain ⟨seat, seatFound⟩ := sound.referenced.itemSeat itemMember
      rw [isOrder] at ownerFound
      cases ownerFound.symm.trans found
      exact ⟨sameEvent, by simp [seatFound]⟩
    · obtain ⟨status, foundFinal, _⟩ := ordersKept _ order found
      exact ⟨_, Table.mem_of_find? foundFinal, rfl, rfl, rfl,
        kept.perm (ne_of_eq_of_ne found (Option.some_ne_none order))⟩

end Steps

/-- The order of the small purchase, once it is reserved. -/
def smallOrder : Order where
  id := 101
  actor := "alice"
  holdId := 100
  eventId := 1
  total := 500
  currency := "THB"
  status := .pending
  createdAt := 1 * second

/-- Its item is still there when the payment has been received. -/
theorem order_lifecycle_smallSale :
    1 ≤ ((smallStore.replay smallSale (smallPurchase.take 1)).itemsOf
        101).length ∧
      ∃ later ∈ (smallStore.replay smallSale smallPurchase).orders,
        later.id = 101 ∧
          later.total = 500 ∧
          ((smallStore.replay smallSale smallPurchase).itemsOf 101).Perm
            ((smallStore.replay smallSale (smallPurchase.take 1)).itemsOf
              101) := by
  have early := smallStore.run_replay smallSale (smallPurchase.take 1)
  have late :=
    smallStore.run_replay
      (smallStore.replay smallSale (smallPurchase.take 1))
      (smallPurchase.drop 1)
  obtain ⟨_, _, _, orders⟩ :=
    @order_lifecycle _ _ _ smallIntake _ _ _ _ _ smallSale_initial early late
  obtain ⟨⟨sized, _⟩, later, member, isOrder, _, total, items⟩ :=
    orders smallOrder (by decide)
  exact ⟨(sized (by simp [smallPurchase, Call.Admitted])).1,
    later, member, isOrder, total, items⟩

end FlashTicketing
