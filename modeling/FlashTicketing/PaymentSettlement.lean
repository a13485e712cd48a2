import FlashTicketing.PaymentInvariant

namespace FlashTicketing

open Relational Checked Transition

/-!
# Settlement of captured payments

A payment that succeeds is settled in the same transaction, by the bookings of
its order or by a refund request, and never again.
-/

variable {Hash : Type}

/-! ## Ways to settle -/

/-- The order is paid and every item of it has a booking. -/
def SettledByBooking
    (db : Database Hash)
    (payment : PaymentAttempt) : Prop :=
  IsPaid db payment.orderId ∧
    ∀ place,
      HasItem db place payment.orderId →
      HasBooking db place payment.orderId

/-- There is a refund request of the payment, pending or done for its order. -/
def SettledByRefund
    (db : Database Hash)
    (payment : PaymentAttempt) : Prop :=
  (∃! refund, refund ∈ db.refundRequests ∧ refund.paymentId = payment.id) ∧
    ∃ order,
      db.orders.find? payment.orderId = some order ∧
        order.status.isRefund = true

/-! ## Callbacks that settle -/

/-- Whether a committed call answered `book` or `refund`. -/
def Result.settles : Result → Bool
  | .callback (.decided .book) | .callback (.decided .refund) => true
  | _ => false

/-- One if the call is a callback of the payment that settled it, else zero. -/
def Answered.settlements
    (paymentId : Uuid)
    (label : Answered Hash) : Nat :=
  match label.call, label.answer with
  | .callback payload, .ok result =>
      if payload.paymentId = paymentId ∧ result.settles then 1 else 0
  | _, _ => 0

/-- One if the payment has been captured, else zero. -/
def captures (paymentId : Uuid) (db : Database Hash) : Nat :=
  match db.paymentAttempts.find? paymentId with
  | some payment => if payment.status = .succeeded then 1 else 0
  | none => 0

theorem captures_le_one
    (paymentId : Uuid)
    (db : Database Hash) :
    captures paymentId db ≤ 1 := by
  unfold captures
  split
  · split <;> omega
  · omega

theorem PaymentsKept.captures_le
    {db after : Database Hash}
    (kept : PaymentsKept db after)
    (paymentId : Uuid) :
    captures paymentId db ≤ captures paymentId after := by
  cases found : db.paymentAttempts.find? paymentId with
  | none => simp [captures, found]
  | some payment =>
      obtain ⟨next, nextFound, _, absorbing⟩ := kept found
      by_cases succeeded : payment.status = .succeeded
      · simp [captures, found, nextFound, succeeded, absorbing succeeded]
      · simp [captures, found, succeeded]

/-- The store's invariant about payments, over its bookings. -/
structure PaymentSafe (db : Database Hash) : Prop where
  safe : BookingSafe db
  settled : PaymentsSettled db
  announced : SettlementsAnnounced db

theorem PaymentSafe.change
    {now : Int}
    {db after : Database Hash}
    (payments : PaymentSafe db)
    (change : Change now db after) :
    PaymentSafe after :=
  ⟨payments.safe.change change, payments.settled.change change,
    payments.announced.change payments.settled change⟩

theorem Database.Initial.paymentSafe
    {db : Database Hash}
    (initial : db.Initial) :
    PaymentSafe db := by
  have noPayment : ∀ id, db.paymentAttempts.find? id = none := by
    rw [initial.fresh]
    exact fun _ => rfl
  have noRefund : ∀ id, db.refundRequests.find? id = none := by
    rw [initial.fresh]
    exact fun _ => rfl
  have noMessage : ∀ row, row ∉ db.outboxEvents := by
    rw [initial.fresh]
    exact Table.not_mem_empty
  refine ⟨initial.bookingSafe, ?_, ?_⟩
  · constructor
    · intro firstId _ _ _ found
      simp [noPayment] at found
    · intro id payment found
      simp [noPayment] at found
    · intro id refunded
      simp [noRefund] at refunded
  · constructor
    · intro row member
      exact (noMessage row member).elim
    · intro id payment first second _ member
      exact (noMessage first member).elim

/-- A refund row is found exactly when it is the only one of its payment. -/
theorem existsUnique_refund_iff
    (db : Database Hash)
    (paymentId : Uuid) :
    (∃! refund,
      refund ∈ db.refundRequests ∧ refund.paymentId = paymentId) ↔
      (db.refundRequests.find? paymentId).isSome = true := by
  constructor
  · rintro ⟨refund, ⟨member, rfl⟩, _⟩
    have found : db.refundRequests.find? refund.paymentId = some refund :=
      Table.find?_key member
    rw [found]
    rfl
  · intro isSome
    obtain ⟨refund, found⟩ := Option.isSome_iff_exists.mp isSome
    refine ⟨refund, ⟨Table.mem_of_find? found, Table.key_of_find? found⟩, ?_⟩
    rintro other ⟨member, rfl⟩
    have otherFound :
        db.refundRequests.find? other.paymentId = some other :=
      Table.find?_key member
    exact Option.some.inj (otherFound.symm.trans found)

namespace PaymentSafe

variable
  {db : Database Hash}
  {id : Uuid}
  {payment : PaymentAttempt}

/-- A payment is captured exactly when it is settled in one way. -/
theorem succeeded_iff
    (payments : PaymentSafe db)
    (found : db.paymentAttempts.find? id = some payment) :
    payment.status = .succeeded ↔
      Xor (SettledByBooking db payment) (SettledByRefund db payment) := by
  obtain ⟨order, stored, succeeded_iff, refund_iff⟩ :=
    payments.settled.ordered found
  have key : payment.id = id := Table.key_of_find? found
  have booking_iff :
      SettledByBooking db payment ↔ order.status.isPaid = true := by
    constructor
    · rintro ⟨⟨paidOrder, paidFound, paid⟩, _⟩
      rw [stored] at paidFound
      cases paidFound
      exact paid
    · intro paid
      refine ⟨⟨order, stored, paid⟩, ?_⟩
      intro place item
      exact (payments.safe.booking_iff place payment.orderId).mpr
        ⟨⟨order, stored, paid⟩, item⟩
  have refunded_iff :
      SettledByRefund db payment ↔ order.status.isRefund = true := by
    rw [SettledByRefund, existsUnique_refund_iff, key, refund_iff, stored]
    simp
  rw [succeeded_iff, booking_iff, refunded_iff]
  cases order.status <;>
    simp [OrderStatus.isPaid, OrderStatus.isRefund, Xor]

theorem messages_le_one
    (payments : PaymentSafe db)
    (found : db.paymentAttempts.find? id = some payment) :
    (db.outboxEvents.select (·.message.settles payment)).length ≤ 1 := by
  have nodup :
      (db.outboxEvents.select (·.message.settles payment)).Nodup :=
    (Table.select_keysNodup _ _).of_map _
  by_contra several
  obtain ⟨first, second, rest, shape⟩ :
      ∃ first second rest,
        db.outboxEvents.select (·.message.settles payment) =
          first :: second :: rest := by
    match rows : db.outboxEvents.select (·.message.settles payment) with
    | [] => simp [rows] at several
    | [_] => simp [rows] at several
    | first :: second :: rest => exact ⟨first, second, rest, rfl⟩
  have firstSelected :=
    Table.mem_select.mp (shape ▸ List.mem_cons_self)
  have secondSelected :=
    Table.mem_select.mp
      (shape ▸ List.mem_cons_of_mem first List.mem_cons_self)
  have same := payments.announced.once found firstSelected.1
    secondSelected.1 firstSelected.2 secondSelected.2
  rw [shape, same] at nodup
  simp at nodup

end PaymentSafe

section Runs

variable [DecidableEq Hash]

/-- A callback that settles finds its payment uncaptured and captures it. -/
theorem captures_of_callback
    {self : PostgresReservations Hash}
    {payload : CallbackPayload}
    {ambient : Ambient}
    {status : CallbackStatus}
    {db after : Database Hash}
    (accepted : self.callback payload ambient db = .ok (status, after))
    (settles : (Result.callback status).settles = true) :
    captures payload.paymentId db = 0 ∧
      captures payload.paymentId after = 1 := by
  simp only [PostgresReservations.callback, bind_eq_ok, require_eq_ok,
    ensure_eq_ok] at accepted
  obtain ⟨payment, found, order, orderFound, _, _, rest⟩ := accepted
  have sameId : payment.id = payload.paymentId := Table.key_of_find? found
  split at rest
  · simp only [bind_eq_ok, ensure_eq_ok, pure_eq_ok,
      Prod.mk.injEq] at rest
    obtain ⟨_, _, rfl, _⟩ := rest
    cases settles
  · simp only [bind_eq_ok, unique_eq_ok] at rest
    obtain ⟨callbacks, _, rest⟩ := rest
    split at rest
    · simp only [pure_eq_ok, Prod.mk.injEq] at rest
      obtain ⟨rfl, _⟩ := rest
      cases settles
    · rename_i unsettled
      simp only [bind_eq_ok, pure_eq_ok, Prod.mk.injEq,
        Prod.exists] at rest
      obtain ⟨decision, settled, settleAccepted, rfl, rfl⟩ := rest
      have settling : decision = .book ∨ decision = .refund := by
        cases decision <;> first | (cases settles; done) | simp
      have restated := paymentRestated_of_settle settleAccepted settling
      constructor
      · simp [captures, found, unsettled]
      · simp [captures, restated payload.paymentId, found, sameId,
          Outcome.status]

theorem paymentsKept_of_step
    {self : PostgresReservations Hash}
    {db after : Database Hash}
    {label : Answered Hash}
    (step : self.AnsweredStep db label after) :
    PaymentsKept db after :=
  Changes.relates (fun _ => True)
    (PostgresReservations.changes_of_step step.step)
    (fun _ _ => trivial) PaymentsKept.refl PaymentsKept.trans
    (fun _ => PaymentsKept.of_change) trivial

/-- Each settling answer captures its payment, which no answer undoes. -/
theorem captures_step
    {self : PostgresReservations Hash}
    {db after : Database Hash}
    {label : Answered Hash}
    (paymentId : Uuid)
    (step : self.AnsweredStep db label after) :
    captures paymentId db + label.settlements paymentId ≤
      captures paymentId after := by
  have kept : PaymentsKept db after := paymentsKept_of_step step
  unfold Answered.settlements
  split
  · rename_i payload result isCallback isAnswer
    split
    · rename_i settles
      obtain ⟨rfl, settles⟩ := settles
      have accepted := step.body_eq isAnswer
      rw [isCallback] at accepted
      simp only [PostgresReservations.body, bind_eq_ok, pure_eq_ok,
        Prod.mk.injEq, Prod.exists] at accepted
      obtain ⟨status, _, accepted, rfl, rfl⟩ := accepted
      obtain ⟨before, captured⟩ := captures_of_callback accepted settles
      rw [before, captured]
    · exact kept.captures_le paymentId
  · exact kept.captures_le paymentId

/--
In every state of every run a payment is captured exactly when it is settled,
by bookings or by a refund but not by both.  It has at most one settlement
message and was settled by at most one callback; capture is final, and no
outbox row is ever removed.
-/
theorem payment_settlement
    {self : PostgresReservations Hash}
    {start db : Database Hash}
    {trace : List (Answered Hash)}
    (initial : start.Initial)
    (run : Run self.AnsweredStep start trace db)
    (paymentId : Uuid) :
    (∀ payment,
      db.paymentAttempts.find? paymentId = some payment →
      (payment.status = .succeeded ↔
        Xor (SettledByBooking db payment)
          (SettledByRefund db payment)) ∧
      (db.outboxEvents.select (·.message.settles payment)).length ≤ 1) ∧
    (trace.map (Answered.settlements paymentId)).sum ≤ 1 ∧
    ∀ {later after},
      Run self.AnsweredStep db later after →
      PaymentsKept db after ∧ OutboxKept db after := by
  have payments : PaymentSafe db :=
    run.invariant initial.paymentSafe fun holds step =>
      PostgresReservations.step_invariant PaymentSafe.change holds
        step.step
  refine ⟨?_, ?_, ?_⟩
  · intro payment found
    exact ⟨payments.succeeded_iff found, payments.messages_le_one found⟩
  · have total :=
      run.totalCost_le (fun _ => True) (Answered.settlements paymentId)
        trivial (fun _ _ => trivial)
        (fun _ step => captures_step paymentId step)
        (fun _ => captures_le_one paymentId _)
    omega
  · intro later after continuation
    constructor
    · exact continuation.relates (fun _ => True) trivial
        (fun _ _ => trivial) PaymentsKept.refl PaymentsKept.trans
        (fun _ step => paymentsKept_of_step step)
    · exact continuation.relates (fun _ => True) trivial
        (fun _ _ => trivial) (fun _ _ member => member)
        (fun early late row member => late row (early row member))
        (fun _ step => step.outboxKept)

end Runs

/-- The payment of the small purchase is settled, by one callback. -/
theorem payment_settlement_smallSale :
    Xor
        (SettledByBooking (smallStore.replay smallSale smallPurchase)
          smallPayment)
        (SettledByRefund (smallStore.replay smallSale smallPurchase)
          smallPayment) ∧
      ((smallStore.answers smallSale smallPurchase).map
        (Answered.settlements 200)).sum ≤ 1 := by
  obtain ⟨settled, once, _⟩ :=
    payment_settlement smallSale_initial
      (smallStore.run_answers smallSale smallPurchase) 200
  exact ⟨(settled smallPayment (by decide)).1.mp rfl, once⟩

end FlashTicketing
