import FlashTicketing.BookingSafety
import FlashTicketing.CommandDurability
import FlashTicketing.HoldExclusivity
import FlashTicketing.Intervals
import FlashTicketing.OrderLifecycle

namespace FlashTicketing

open Relational Checked Transition

/-!
# The durability audit

`verify_cloud_holds.py` looks at the holds of a load run after the fact.  One
of its counts reads every acknowledged hold as the interval from its order's
`created_at` to its `expires_at`, and counts the intervals of a seat that start
before the latest deadline among those sorted before them.
-/

variable {Hash : Type}

/-! ## The overlap query -/

/-- One row of `selected`. -/
structure AuditRow where
  id : Uuid
  eventId : Uuid
  expiresAt : Int
  createdAt : Int
  seatId : SeatId
  deriving Repr, DecidableEq

/-- `PARTITION BY event_id,seat_id`. -/
def AuditRow.place (row : AuditRow) : Place :=
  (row.eventId, row.seatId)

/-- `ORDER BY created_at,id`. -/
def AuditRow.Sorted (first second : AuditRow) : Prop :=
  first.createdAt < second.createdAt ∨
    (first.createdAt = second.createdAt ∧ first.id ≤ second.id)

instance : DecidableRel AuditRow.Sorted :=
  fun first second =>
    inferInstanceAs (Decidable
      (first.createdAt < second.createdAt ∨
        (first.createdAt = second.createdAt ∧ first.id ≤ second.id)))

instance : Std.Total AuditRow.Sorted := by
  constructor
  intro first second
  rcases lt_trichotomy first.createdAt second.createdAt with
    earlier | same | later
  · exact Or.inl (Or.inl earlier)
  · rcases Nat.le_total first.id second.id with below | above
    · exact Or.inl (Or.inr ⟨same, below⟩)
    · exact Or.inr (Or.inr ⟨same.symm, above⟩)
  · exact Or.inr (Or.inl later)

instance : IsTrans AuditRow AuditRow.Sorted := by
  constructor
  rintro first second third (earlier | ⟨same, below⟩)
    (later | ⟨sameLater, above⟩)
  · exact Or.inl (lt_trans earlier later)
  · exact Or.inl (lt_of_lt_of_eq earlier sameLater)
  · exact Or.inl (lt_of_eq_of_lt same later)
  · exact Or.inr ⟨same.trans sameLater, Nat.le_trans below above⟩

/-- The rows that the window reads, in its order. -/
def ordered (rows : List AuditRow) : List AuditRow :=
  rows.insertionSort AuditRow.Sorted

/-- `count(*) FILTER (WHERE created_at<prior_expiry)`. -/
def overlaps (rows : List AuditRow) : Nat :=
  Intervals.countLate AuditRow.place AuditRow.createdAt AuditRow.expiresAt
    [] (ordered rows)

/-- The row of an item under the hold and the order of a response. -/
def auditRow (hold : Hold) (order : Order) (item : OrderItem) : AuditRow where
  id := hold.id
  eventId := hold.eventId
  expiresAt := hold.expiresAt
  createdAt := order.createdAt
  seatId := item.seatId

/-- The joins from one stored response to holds, orders and items. -/
def joined (db : Database Hash) (response : Response) : List AuditRow :=
  match response.holdId?.bind db.holds.find?,
      db.orders.find? response.orderId with
  | some hold, some order =>
      (db.itemsOf order.id).map (auditRow hold order)
  | _, _ => []

/--
`SELECT DISTINCT ...` of the audit.  `audits` is `r.key LIKE ANY(...)`, the
patterns of the runs under audit.
-/
def selected
    (audits : IdempotencyKey → Bool)
    (db : Database Hash) : List AuditRow :=
  ((db.idempotencyRecords.select fun record =>
      decide (record.operation = .hold) && audits record.key).flatMap
    fun record => record.response.elim [] (joined db)).dedup

theorem mem_joined
    {db : Database Hash}
    {response : Response}
    {row : AuditRow} :
    row ∈ joined db response ↔
      ∃ holdId hold order,
        response.holdId? = some holdId ∧
          db.holds.find? holdId = some hold ∧
          db.orders.find? response.orderId = some order ∧
          ∃ item ∈ db.itemsOf order.id, auditRow hold order item = row := by
  unfold joined
  constructor
  · intro member
    split at member
    · rename_i hold order holdFound orderFound
      obtain ⟨holdId, isId, found⟩ := Option.bind_eq_some_iff.mp holdFound
      exact ⟨holdId, hold, order, isId, found, orderFound,
        List.mem_map.mp member⟩
    · cases member
  · rintro ⟨holdId, hold, order, isId, holdFound, orderFound, item, member,
      rfl⟩
    rw [isId, orderFound, Option.bind_some, holdFound]
    exact List.mem_map_of_mem member

theorem mem_ordered
    {rows : List AuditRow}
    {row : AuditRow} :
    row ∈ ordered rows ↔ row ∈ rows :=
  List.mem_insertionSort _

theorem ordered_sorted (rows : List AuditRow) :
    (ordered rows).Pairwise AuditRow.Sorted :=
  List.pairwise_insertionSort _ _

theorem AuditRow.Sorted.created_le
    {first second : AuditRow}
    (sorted : first.Sorted second) :
    first.createdAt ≤ second.createdAt := by
  rcases sorted with earlier | ⟨same, _⟩
  · exact Int.le_of_lt earlier
  · exact Int.le_of_eq same

/-- The count is zero exactly if the intervals of every seat are disjoint. -/
theorem overlaps_eq_zero_iff
    {rows : List AuditRow}
    (distinct : rows.Nodup)
    (proper : ∀ row ∈ rows, row.createdAt < row.expiresAt) :
    overlaps rows = 0 ↔
      ∀ first ∈ rows, ∀ second ∈ rows,
        first ≠ second →
        first.place = second.place →
        ¬ Intervals.Overlap AuditRow.createdAt AuditRow.expiresAt
          first second :=
  Intervals.countLate_eq_zero_iff_apart distinct proper
    (List.perm_insertionSort _ _)
    ((ordered_sorted rows).imp AuditRow.Sorted.created_le)

/--
The second row begins with the first and is read after it, but its interval is
empty.
-/
structure AuditRow.LateTie (first second : AuditRow) : Prop where
  place : first.place = second.place
  created : first.createdAt = second.createdAt
  read : first.id < second.id
  proper : first.createdAt < first.expiresAt
  late : second.expiresAt ≤ second.createdAt

/-- Rows that the window certainly reads in this order follow each other. -/
theorem follows_of_overlaps_eq_zero
    {rows : List AuditRow}
    (none : overlaps rows = 0)
    {first second : AuditRow}
    (isFirst : first ∈ rows)
    (isSecond : second ∈ rows)
    (before : ¬ second.Sorted first) :
    Intervals.Follows AuditRow.place AuditRow.createdAt AuditRow.expiresAt
      first second := by
  let Read (row other : AuditRow) : Prop :=
    row.Sorted other ∧
      Intervals.Follows AuditRow.place AuditRow.createdAt AuditRow.expiresAt
        row other
  have read : (ordered rows).Pairwise Read :=
    (ordered_sorted rows).and (Intervals.countLate_eq_zero_iff.mp none).2
  have either :
      (ordered rows).Pairwise fun row other =>
        Read row other ∨ Read other row :=
    read.imp Or.inl
  have symmetric :
      Std.Symm fun row other : AuditRow => Read row other ∨ Read other row :=
    ⟨fun _ _ => Or.symm⟩
  have differ : first ≠ second := by
    intro same
    rw [same] at before
    exact before (Or.inr ⟨rfl, Nat.le_refl _⟩)
  rcases either.forall (mem_ordered.mpr isFirst) (mem_ordered.mpr isSecond)
      differ with reads | reads
  · exact reads.2
  · exact absurd reads.1 before

/-! ## Orders on a seat -/

/-- The order, with its hold, has the seat among its items. -/
structure Occupies
    (db : Database Hash)
    (place : Place)
    (order : Order)
    (hold : Hold) : Prop where
  orderFound : db.orders.find? order.id = some order
  holdFound : db.holds.find? order.holdId = some hold
  item : HasItem db place order.id

theorem Occupies.hold_stored
    {db : Database Hash}
    {place : Place}
    {order : Order}
    {hold : Hold}
    (occupies : Occupies db place order hold) :
    db.holds.find? hold.id = some hold := by
  have isId : hold.id = order.holdId := Table.key_of_find? occupies.holdFound
  rw [isId]
  exact occupies.holdFound

/-- The first order's hold ran out before the second order was created. -/
structure Precedes
    (first : Order)
    (firstHold : Hold)
    (second : Order) : Prop where
  expired : firstHold.expiresAt ≤ second.createdAt
  created : first.createdAt ≤ second.createdAt

/-- Of two orders on a seat, one precedes the other. -/
def Separate (db : Database Hash) : Prop :=
  ∀ place first firstHold second secondHold,
    Occupies db place first firstHold →
    Occupies db place second secondHold →
    first.id ≠ second.id →
    Precedes first firstHold second ∨ Precedes second secondHold first

/-- A hold that has not run out was neither released nor expired. -/
def Standing (now : Int) (db : Database Hash) : Prop :=
  ∀ place order hold,
    Occupies db place order hold →
    now < hold.expiresAt →
    hold.status = .active ∨ hold.status = .consumed

/-- A stored hold response names an order together with its hold. -/
def Named (db : Database Hash) : Prop :=
  ∀ key record response holdId,
    db.idempotencyRecords.find? key = some record →
    record.response = some response →
    response.holdId? = some holdId →
    ∃ order,
      db.orders.find? response.orderId = some order ∧
        order.holdId = holdId

/-- What the audit rests on, at a reading of the clock. -/
structure Auditable (now : Int) (db : Database Hash) : Prop where
  exclusive : HoldsExclusive now db
  safe : BookingSafe db
  paired : Paired db
  responded : Responded db
  named : Named db
  standing : Standing now db
  created :
    ∀ id order, db.orders.find? id = some order → order.createdAt ≤ now
  separate : Separate db

/-- An order that stays on its seat was there with the same interval. -/
theorem ReservationsKept.occupies
    {db after : Database Hash}
    (kept : ReservationsKept db after)
    (referenced : Referenced db)
    {place : Place}
    {order old : Order}
    {hold : Hold}
    (occupies : Occupies after place order hold)
    (stored : db.orders.find? order.id = some old) :
    ∃ oldHold,
      Occupies db place old oldHold ∧
        old.id = order.id ∧
        (∃ status, order = { old with status := status }) ∧
        ∃ status, hold = { oldHold with status := status } := by
  have isId : old.id = order.id := Table.key_of_find? stored
  obtain ⟨status, foundAfter⟩ := kept.orders stored
  have restated : order = { old with status := status } :=
    Option.some.inj (occupies.orderFound.symm.trans foundAfter)
  obtain ⟨oldHold, holdFound, _⟩ := referenced.orderHold stored
  obtain ⟨holdStatus, holdAfter⟩ := kept.holds holdFound
  have sameHold : order.holdId = old.holdId := by
    rw [restated]
  have found := occupies.holdFound
  rw [sameHold, holdAfter] at found
  obtain ⟨item, member, isOrder, isPlace⟩ := occupies.item
  refine ⟨oldHold, ⟨?_, holdFound, item, ?_, ?_, isPlace⟩, isId,
    ⟨status, restated⟩, holdStatus, (Option.some.inj found).symm⟩
  · rw [isId]
    exact stored
  · apply (kept.items _).mp member
    rw [isOrder, stored]
    exact Option.some_ne_none _
  · rw [isId]
    exact isOrder

/-- A seat on which an unexpired hold stands is not free. -/
theorem Auditable.taken
    {now : Int}
    {db : Database Hash}
    (sound : Auditable now db)
    {place : Place}
    {order : Order}
    {hold : Hold}
    {seat : EventSeat}
    (occupies : Occupies db place order hold)
    (unexpired : now < hold.expiresAt)
    (found : db.eventSeats.find? place = some seat) :
    seat.bookedOrderId ≠ none ∨ seat.reservedAfter now = true := by
  rcases sound.standing place order hold occupies unexpired with
    active | consumed
  · have live : LiveHold db now order.id hold :=
      ⟨order, occupies.orderFound, occupies.holdFound, active, unexpired⟩
    obtain ⟨owned, ownedFound, _, deadline, _⟩ :=
      sound.exclusive.owned live occupies.item
    cases found.symm.trans ownedFound
    right
    rw [EventSeat.reservedAfter, deadline]
    exact decide_eq_true unexpired
  · have paid : order.status.isPaid = true :=
      OrderStatus.isPaid_iff_paid.mpr
        ((sound.paired.pairs occupies.orderFound
          occupies.holdFound).2.mp consumed)
    obtain ⟨booked, bookedFound, isBooked⟩ :=
      (sound.safe.booked_iff place order.id).mpr
        ((sound.safe.booking_iff place order.id).mpr
          ⟨⟨order, occupies.orderFound, paid⟩, occupies.item⟩)
    cases found.symm.trans bookedFound
    left
    rw [isBooked]
    exact Option.some_ne_none _

/-! ## What a transaction inserts -/

/-- The one order that the shared writes insert. -/
theorem order_of_placeHold
    {hold : Hold}
    {order found : Order}
    {rows : List EventSeat}
    {seats : List SeatId}
    {announcement id : Uuid}
    {db after : Database Hash}
    (accepted :
      placeHold hold order rows seats announcement db = .ok after)
    (stored : after.orders.find? id = some found)
    (fresh : db.orders.find? id = none) :
    found = order := by
  simp only [placeHold, placeRows, bind_assoc, pure_bind, bind_eq_ok,
    unique_eq_ok, event_eq_ok] at accepted
  obtain ⟨_, _, _, _, orders, inserted, _, _, _, _, rfl⟩ := accepted
  change orders.find? id = some found at stored
  rw [Table.find?_of_insert? inserted, fresh] at stored
  split at stored
  · exact (Option.some.inj stored).symm
  · cases stored

namespace PostgresReservations

variable
  {ambient : Ambient}
  {db after : Database Hash}

section Bodies

variable
  [DecidableEq Hash]
  {self : PostgresReservations Hash}

/-- A new order takes the reading of its insertion. -/
theorem createdAt_of_body
    {call : Call Hash}
    {result : Result}
    {id : Uuid}
    {order : Order}
    (accepted : self.body call ambient db = .ok (result, after))
    (found : after.orders.find? id = some order)
    (fresh : db.orders.find? id = none) :
    order.createdAt = ambient.insertedAt := by
  cases call with
  | reserve actor eventId seatIds key =>
      simp only [body, reserve, bind_eq_ok, pure_eq_ok, Prod.mk.injEq,
        Prod.exists] at accepted
      obtain ⟨_, _, ⟨_, _, framed⟩, _, rfl⟩ := accepted
      rcases idempotent_cases framed with
        rfl | ⟨_, written, _, bodyAccepted, rfl⟩
      · cases fresh.symm.trans found
      · simp only [reserveBody, bind_eq_ok, pure_eq_ok,
          Prod.mk.injEq] at bodyAccepted
        obtain ⟨_, _, _, _, _, _, _, _, _, placed, _, rfl⟩ := bodyAccepted
        rw [order_of_placeHold placed found fresh]
  | persistReservationCommand payload reply =>
      simp only [body, bind_eq_ok, pure_eq_ok, Prod.mk.injEq,
        Prod.exists] at accepted
      obtain ⟨_, _, accepted, _, rfl⟩ := accepted
      rcases persist_cases accepted with rfl | ⟨_, bodyAccepted⟩
      · cases fresh.symm.trans found
      · simp only [persistBody, bind_eq_ok, pure_eq_ok,
          Prod.mk.injEq] at bodyAccepted
        obtain ⟨_, _, _, _, _, _, _, _, _, _, _, placed, _, _, _, _, _,
          rfl⟩ := bodyAccepted
        rw [order_of_placeHold placed found fresh]
  | checkout actor holdId key =>
      simp only [body, checkout, bind_eq_ok, pure_eq_ok,
        Prod.mk.injEq, Prod.exists] at accepted
      obtain ⟨_, _, framed, _, rfl⟩ := accepted
      rcases idempotent_cases framed with
        rfl | ⟨_, written, _, bodyAccepted, rfl⟩
      · cases fresh.symm.trans found
      · simp only [checkoutBody, bind_eq_ok, pure_eq_ok,
          Prod.mk.injEq] at bodyAccepted
        obtain ⟨_, _, _, _, _, _, _, rfl⟩ := bodyAccepted
        cases fresh.symm.trans found
  | initiatePayment actor orderId key outcome delaySeconds duplicates =>
      simp only [body, initiatePayment, bind_eq_ok, pure_eq_ok,
        Prod.mk.injEq, Prod.exists] at accepted
      obtain ⟨_, _, framed, _, rfl⟩ := accepted
      rcases idempotent_cases framed with
        rfl | ⟨_, written, _, bodyAccepted, rfl⟩
      · cases fresh.symm.trans found
      · rw [ordersKept_of_initiatePaymentBody bodyAccepted] at found
        cases fresh.symm.trans found
  | release | expireBatch | callback | consumeEvent =>
      have same := (untouched_of_body rfl accepted).orders id
      rw [found, fresh] at same
      cases same

end Bodies

/-- The expiry query returns orders whose own holds have run out. -/
theorem due_of_mem_expiryRows
    {limit : Nat}
    {locked : List Uuid}
    {now : Int}
    {order : Order}
    {hold : Hold}
    (member : order ∈ expiryRows limit locked now db)
    (found : db.holds.find? order.holdId = some hold) :
    hold.expiresAt ≤ now := by
  have due := List.of_mem_filter (List.mem_of_mem_take member)
  rw [found] at due
  exact of_decide_eq_true due

/-- The expiry worker leaves holds whose deadline is ahead. -/
theorem holds_of_expireBatch
    {limit count : Nat}
    {locked : List Uuid}
    {id : Uuid}
    {hold : Hold}
    (accepted :
      expireBatch limit locked ambient db = .ok (count, after))
    (found : db.holds.find? id = some hold)
    (unexpired : ambient.now < hold.expiresAt) :
    after.holds.find? id = some hold := by
  simp only [expireBatch, bind_eq_ok, pure_eq_ok,
    Prod.mk.injEq] at accepted
  obtain ⟨_, _, released, folded, _, rfl⟩ := accepted
  have isId : hold.id = id := Table.key_of_find? found
  let kept (state : Database Hash) : Prop :=
    state.holds.find? id = some hold
  have start : kept db := found
  suffices loop : kept released from loop
  apply foldlM_invariant _ start folded
  rintro state ⟨order, index⟩ next member stored released
  obtain ⟨revised, _⟩ := released_of_releaseInTransaction released
  change next.holds.find? id = some hold
  rw [revised.hold_after stored, Order.closedHold, if_neg]
  rintro ⟨sameId, _⟩
  have own : db.holds.find? order.holdId = some hold := by
    rw [← sameId, isId]
    exact found
  have due := due_of_mem_expiryRows (List.fst_mem_of_mem_zipIdx member) own
  exact absurd due (Int.not_le.mpr unexpired)

/-- The consumer leaves every hold. -/
theorem holds_of_consumeEvent
    {envelope : Envelope}
    (accepted : consumeEvent envelope ambient db = .ok after) :
    after.holds = db.holds := by
  simp only [consumeEvent, bind_eq_ok] at accepted
  obtain ⟨_, _, rest⟩ := accepted
  split at rest
  · simp only [pure_eq_ok] at rest
    rw [← rest]
  · cases message : envelope.message with
    | seatsChanged eventId seats =>
        simp only [message, requestRefresh, bind_eq_ok,
          pure_eq_ok] at rest
        obtain ⟨_, _, rfl⟩ := rest
        rfl
    | orderPaid orderId =>
        simp only [message, fulfilOrder, bind_eq_ok, event_eq_ok] at rest
        obtain ⟨_, _, _, _, _, _, rfl⟩ := rest
        rfl
    | refundRequested paymentId orderId =>
        simp only [message, pure_eq_ok] at rest
        rw [← rest]
        rfl
    | ticketsIssued orderId =>
        simp only [message, pure_eq_ok] at rest
        rw [← rest]
    | unknown eventType =>
        simp only [message, throw_eq_ok] at rest

end PostgresReservations

/-! ## Payments of a standing hold -/

/-- An active, unexpired hold of an order with items is valid. -/
theorem HoldsExclusive.valid
    {now : Int}
    {db : Database Hash}
    {place : Place}
    {order : Order}
    {hold : Hold}
    (exclusive : HoldsExclusive now db)
    (occupies : Occupies db place order hold)
    (active : hold.status = .active)
    (unexpired : now < hold.expiresAt) :
    validHold hold (orderSeats db order) now = true := by
  have live : LiveHold db now order.id hold :=
    ⟨order, occupies.orderFound, occupies.holdFound, active, unexpired⟩
  apply validHold_iff.mpr
  refine ⟨?_, ⟨active, unexpired⟩, ?_⟩
  · obtain ⟨item, member, isOrder, _⟩ := occupies.item
    obtain ⟨seat, found⟩ := exclusive.referenced.itemSeat member
    have isPlace : seat.place = item.place := Table.key_of_find? found
    apply List.ne_nil_of_mem (a := seat)
    apply mem_orderSeats.mpr
    rw [isPlace]
    exact ⟨found, item, member, isOrder, rfl⟩
  · intro seat member
    obtain ⟨found, item, isItem, isOrder, isPlace⟩ :=
      mem_orderSeats.mp member
    obtain ⟨owned, ownedFound, held, deadline, unbooked⟩ :=
      exclusive.owned live ⟨item, isItem, isOrder, isPlace⟩
    cases found.symm.trans ownedFound
    refine ⟨⟨held, unbooked⟩, ?_⟩
    rw [EventSeat.reservedAfter, deadline]
    exact decide_eq_true unexpired

/-- A refund is decided for orders that are closed or without a valid hold. -/
theorem not_valid_of_refund
    {status : OrderStatus}
    {valid : Bool}
    {outcome : Outcome}
    (refund : paymentDecision status valid outcome = .refund) :
    ¬ (status = .pending ∧ valid = true) := by
  rintro ⟨rfl, rfl⟩
  cases outcome <;> cases refund

/-- The hold is stored and still active, or it was consumed. -/
def StandsIn (db : Database Hash) (hold : Hold) : Prop :=
  ∃ status,
    db.holds.find? hold.id = some { hold with status := status } ∧
      (status = .active ∨ status = .consumed)

/-- A payment that succeeds lets no standing hold go. -/
theorem standsIn_of_settle
    {payment : PaymentAttempt}
    {paid order : Order}
    {hold : Hold}
    {place : Place}
    {payload : CallbackPayload}
    {ambient : Ambient}
    {decision : Decision}
    {db after : Database Hash}
    (exclusive : HoldsExclusive ambient.now db)
    (paired : Paired db)
    (paidFound : db.orders.find? payment.orderId = some paid)
    (succeeded : payload.outcome = .succeeded)
    (accepted :
      settle payment paid payload ambient db = .ok (decision, after))
    (occupies : Occupies db place order hold)
    (active : hold.status = .active)
    (unexpired : ambient.now < hold.expiresAt) :
    StandsIn after hold := by
  have isId : hold.id = order.holdId := Table.key_of_find? occupies.holdFound
  have found := occupies.hold_stored
  simp only [settle, bind_eq_ok, require_eq_ok, pure_eq_ok,
    Prod.mk.injEq] at accepted
  obtain ⟨paidHold, paidHoldFound, applied, applyAccepted, announced,
    announcedAccepted, _, rfl⟩ := accepted
  obtain ⟨outbox, _, rfl⟩ := event_eq_ok.mp announcedAccepted
  suffices stands : StandsIn applied hold from stands
  cases decided :
      paymentDecision paid.status
        (validHold paidHold (orderSeats db paid) ambient.now)
        payload.outcome with
  | unchanged =>
      simp only [decided, applyDecision, pure_eq_ok] at applyAccepted
      rw [← applyAccepted]
      exact ⟨hold.status, found, Or.inl active⟩
  | failed =>
      rcases paymentDecision_cases paid.status
          (validHold paidHold (orderSeats db paid) ambient.now)
          payload.outcome with
        ⟨other, _⟩ | ⟨other, _⟩ | ⟨_, _, isFailed⟩ | ⟨other, _⟩
      · cases decided.symm.trans other
      · cases decided.symm.trans other
      · cases succeeded.symm.trans isFailed
      · cases decided.symm.trans other
  | book =>
      simp only [decided, applyDecision, bookOrder, bind_eq_ok,
        event_eq_ok] at applyAccepted
      obtain ⟨_, _, _, _, rfl⟩ := applyAccepted
      by_cases own : hold.id = paidHold.id
      · refine ⟨.consumed, ?_, Or.inr rfl⟩
        simp only [Table.find?_modify, found, Option.map_some,
          decide_eq_true_eq, if_pos own]
      · refine ⟨hold.status, ?_, Or.inl active⟩
        simp only [Table.find?_modify, found, Option.map_some,
          decide_eq_true_eq, if_neg own]
  | refund =>
      simp only [decided, applyDecision, refundOrder, bind_eq_ok,
        event_eq_ok] at applyAccepted
      obtain ⟨released, releaseAccepted, _, _, rfl⟩ := applyAccepted
      obtain ⟨revised, _⟩ := released_of_releaseInTransaction releaseAccepted
      have kept := revised.hold_after found
      rw [Order.closedHold, if_neg] at kept
      · exact ⟨hold.status, kept, Or.inl active⟩
      -- A standing hold of the paid order would have been booked.
      rintro ⟨own, _⟩
      have paidKey : paid.id = payment.orderId :=
        Table.key_of_find? paidFound
      have sameOrder : order.id = payment.orderId :=
        exclusive.referenced.holdUnique occupies.orderFound paidFound
          (by rw [← isId, own])
      have samePaid : order = paid := by
        have orderFound := occupies.orderFound
        rw [sameOrder, paidFound] at orderFound
        exact (Option.some.inj orderFound).symm
      subst samePaid
      cases occupies.holdFound.symm.trans paidHoldFound
      apply not_valid_of_refund decided
      exact ⟨(paired.pairs occupies.orderFound occupies.holdFound).1.mp
          active,
        exclusive.valid occupies active unexpired⟩

/-! ## One transaction -/

section Transactions

variable
  {self : PostgresReservations Hash}
  {call : Call Hash}
  {ambient : Ambient}
  {response : Response}
  {db after : Database Hash}

/--
The calls of a run without explicit release or failed payment.  The reply that
the writer stores carries the identifiers of its command.
-/
def Call.Audited : Call Hash → Prop
  | .release _ _ => False
  | .callback payload => payload.outcome = .succeeded
  | .persistReservationCommand payload reply =>
      reply.holdId = payload.holdId ∧ reply.orderId = payload.orderId
  | _ => True

/-- A call with a key leaves orders and holds, or places one of each. -/
theorem Answers.placed
    (answers : Answers self call ambient response db after) :
    (after.orders = db.orders ∧ after.holds = db.holds) ∨
      ∃ hold order rows seats announcement,
        Placed ambient.now hold order rows seats announcement db after := by
  cases answers with
  | replayed _ _ _ _ _ _ _ _ _ unchanged =>
      rw [unchanged]
      exact Or.inl ⟨rfl, rfl⟩
  | recalled _ _ _ _ _ _ _ _ unchanged =>
      rw [unchanged]
      exact Or.inl ⟨rfl, rfl⟩
  | claimed _ _ _ _ _ _ holds =>
      rcases holds with ⟨sameHolds, sameOrders, _⟩ |
        ⟨hold, order, rows, seats, announcement, _, _, _, _, placed⟩
      · exact Or.inl ⟨sameOrders, sameHolds⟩
      · exact Or.inr ⟨hold, order, rows, seats, announcement, placed⟩
  | persisted _ _ hold order rows announcement _ _ _ _ _ _ placed =>
      exact Or.inr ⟨hold, order, rows, _, announcement, placed⟩

/-- Stored holds survive a call with a key as they are. -/
theorem Answers.holdKept
    (answers : Answers self call ambient response db after)
    {id : Uuid}
    {hold : Hold}
    (found : db.holds.find? id = some hold) :
    after.holds.find? id = some hold := by
  rcases answers.placed with ⟨_, same⟩ | ⟨_, _, _, _, _, placed⟩
  · rw [same]
    exact found
  · exact placed.hold_after found

/-- What a stored response names survives a call with a key. -/
theorem Answers.named
    (answers : Answers self call ambient response db after)
    (audited : call.Audited)
    (kept : ReservationsKept db after)
    (named : Named db) :
    Named after := by
  have old :
      ∀ key record stored holdId,
        db.idempotencyRecords.find? key = some record →
        record.response = some stored →
        stored.holdId? = some holdId →
        ∃ order,
          after.orders.find? stored.orderId = some order ∧
            order.holdId = holdId := by
    intro key record stored holdId found isStored isHold
    obtain ⟨order, orderFound, sameHold⟩ :=
      named key record stored holdId found isStored isHold
    obtain ⟨status, foundAfter⟩ := kept.orders orderFound
    exact ⟨_, foundAfter, sameHold⟩
  intro key record stored holdId found isStored isHold
  cases answers with
  | replayed _ _ _ _ _ _ _ _ _ unchanged =>
      rw [unchanged] at found
      exact old key record stored holdId found isStored isHold
  | recalled _ _ _ _ _ _ _ _ unchanged =>
      rw [unchanged] at found
      exact old key record stored holdId found isStored isHold
  | claimed _ _ _ _ claimed _ holds =>
      rw [claimed.records] at found
      split at found
      · cases found
        cases isStored
        rcases holds with ⟨_, _, noHold⟩ |
          ⟨hold, order, _, _, _, _, _, names, isOrder, placed⟩
        · cases noHold.symm.trans isHold
        · cases names.symm.trans isHold
          rw [isOrder]
          exact ⟨order, placed.order_stored, placed.orderHold⟩
      · exact old key record stored holdId found isStored isHold
  | persisted payload reply hold order _ _ called _ claimed isPayload _
      isOrder placed _ _ ids =>
      rw [claimed.records] at found
      split at found
      · cases found
        cases isStored
        subst called
        have names : response.holdId? = some reply.holdId :=
          congrArg Prod.fst ids
        have namesOrder : response.orderId = reply.orderId :=
          congrArg (fun ids => ids.2.1) ids
        cases names.symm.trans isHold
        refine ⟨order, ?_, ?_⟩
        · rw [namesOrder, audited.2, ← isOrder]
          exact placed.order_stored
        · rw [placed.orderHold, isPayload, audited.1]
          rfl
      · exact old key record stored holdId found isStored isHold

variable [DecidableEq Hash]

theorem standsIn_of_callback
    {payload : CallbackPayload}
    {status : CallbackStatus}
    {place : Place}
    {order : Order}
    {hold : Hold}
    (exclusive : HoldsExclusive ambient.now db)
    (paired : Paired db)
    (succeeded : payload.outcome = .succeeded)
    (accepted : self.callback payload ambient db = .ok (status, after))
    (occupies : Occupies db place order hold)
    (active : hold.status = .active)
    (unexpired : ambient.now < hold.expiresAt) :
    StandsIn after hold := by
  have unmoved {next : Database Hash} (same : next.holds = db.holds) :
      StandsIn next hold := by
    refine ⟨hold.status, ?_, Or.inl active⟩
    rw [same]
    exact occupies.hold_stored
  simp only [PostgresReservations.callback, bind_eq_ok,
    require_eq_ok] at accepted
  obtain ⟨payment, _, paid, paidFound, _, _, rest⟩ := accepted
  split at rest
  · simp only [bind_eq_ok, pure_eq_ok, Prod.mk.injEq] at rest
    obtain ⟨_, _, _, rfl⟩ := rest
    exact unmoved rfl
  · simp only [bind_eq_ok] at rest
    obtain ⟨callbacks, _, rest⟩ := rest
    split at rest
    · simp only [pure_eq_ok, Prod.mk.injEq] at rest
      exact unmoved (by rw [← rest.2])
    · simp only [bind_eq_ok, pure_eq_ok, Prod.mk.injEq,
        Prod.exists] at rest
      obtain ⟨_, _, settleAccepted, _, rfl⟩ := rest
      have recorded :
          HoldsExclusive ambient.now
            { db with paymentCallbacks := callbacks } :=
        exclusive.change
          (.ofPrivate db.tickets callbacks db.idempotencyRecords
            db.reservationCommands db.consumerInbox db.seatRefreshRequests)
      exact standsIn_of_settle recorded ⟨paired.ordered, paired.pairs⟩
        paidFound succeeded settleAccepted
        ⟨occupies.orderFound, occupies.holdFound, occupies.item⟩ active
        unexpired

/-- No call of an audited run lets a standing hold go before its deadline. -/
theorem Auditable.standsIn
    {result : Result}
    {place : Place}
    {order : Order}
    {hold : Hold}
    (sound : Auditable ambient.now db)
    (audited : call.Audited)
    (accepted : self.body call ambient db = .ok (result, after))
    (occupies : Occupies db place order hold)
    (unexpired : ambient.now < hold.expiresAt) :
    StandsIn after hold := by
  have found := occupies.hold_stored
  have standing := sound.standing place order hold occupies unexpired
  have stays (kept : after.holds.find? hold.id = some hold) :
      StandsIn after hold :=
    ⟨hold.status, kept, standing⟩
  cases keyed : call.recordKey? with
  | some key =>
      obtain ⟨response, rfl, answers⟩ :=
        PostgresReservations.answers_of_body sound.responded keyed accepted
      exact stays (answers.holdKept found)
  | none =>
      cases call with
      | reserve | persistReservationCommand | checkout | initiatePayment =>
          cases keyed
      | release => exact audited.elim
      | expireBatch limit locked =>
          simp only [PostgresReservations.body, bind_eq_ok, pure_eq_ok,
            Prod.mk.injEq, Prod.exists] at accepted
          obtain ⟨_, _, accepted, _, rfl⟩ := accepted
          exact stays (PostgresReservations.holds_of_expireBatch accepted
            found unexpired)
      | consumeEvent envelope =>
          simp only [PostgresReservations.body, bind_eq_ok, pure_eq_ok,
            Prod.mk.injEq] at accepted
          obtain ⟨_, accepted, _, rfl⟩ := accepted
          apply stays
          rw [PostgresReservations.holds_of_consumeEvent accepted]
          exact found
      | callback payload =>
          rcases standing with active | consumed
          · simp only [PostgresReservations.body, bind_eq_ok, pure_eq_ok,
              Prod.mk.injEq, Prod.exists] at accepted
            obtain ⟨_, _, accepted, _, rfl⟩ := accepted
            exact standsIn_of_callback sound.exclusive sound.paired audited
              accepted occupies active unexpired
          · have closed : HoldsClosed db after :=
              Changes.relates (fun _ => True)
                (PostgresReservations.changes_of_body accepted)
                (fun _ _ => trivial) HoldsClosed.refl HoldsClosed.trans
                (fun _ => HoldsClosed.of_change) trivial
            obtain ⟨status, kept, same⟩ := closed _ hold found
            refine ⟨status, kept, Or.inr ?_⟩
            rw [same (by simp [consumed]), consumed]

/-- A call creates no order, or the one that it places. -/
theorem placed_of_body
    {result : Result}
    (responded : Responded db)
    (accepted : self.body call ambient db = .ok (result, after)) :
    (∀ id, db.orders.find? id = none → after.orders.find? id = none) ∨
      ∃ hold order rows seats announcement,
        Placed ambient.now hold order rows seats announcement db after ∧
          order.createdAt = ambient.insertedAt := by
  cases keyed : call.recordKey? with
  | none =>
      have same := (PostgresReservations.untouched_of_body keyed
        accepted).orders
      left
      intro id fresh
      have absent := same id
      rw [fresh] at absent
      exact Option.isNone_iff_eq_none.mp
        (Option.isSome_eq_false_iff.mp absent)
  | some key =>
      obtain ⟨response, rfl, answers⟩ :=
        PostgresReservations.answers_of_body responded keyed accepted
      rcases answers.placed with ⟨same, _⟩ |
        ⟨hold, order, rows, seats, announcement, placed⟩
      · left
        intro id fresh
        rw [same]
        exact fresh
      · right
        exact ⟨hold, order, rows, seats, announcement, placed,
          PostgresReservations.createdAt_of_body accepted
            placed.order_stored placed.orderFresh⟩

end Transactions

section Placement

variable
  {now : Int}
  {hold : Hold}
  {order : Order}
  {rows : List EventSeat}
  {seats : List SeatId}
  {announcement : Uuid}
  {db after : Database Hash}

/-- On a seat stands the new order, or one that was there before. -/
theorem Placed.occupies
    (placed : Placed now hold order rows seats announcement db after)
    (referenced : Referenced db)
    {place : Place}
    {found : Order}
    {foundHold : Hold}
    (occupies : Occupies after place found foundHold) :
    (found = order ∧ foundHold = hold ∧ ∃ row ∈ rows, row.place = place) ∨
      Occupies db place found foundHold := by
  obtain ⟨item, member, isOrder, isPlace⟩ := occupies.item
  rcases placed.order_cases occupies.orderFound with
    ⟨isId, rfl⟩ | ⟨otherId, old⟩
  · left
    have holdFound := occupies.holdFound
    rw [placed.orderHold, placed.hold_stored] at holdFound
    refine ⟨rfl, (Option.some.inj holdFound).symm, ?_⟩
    rcases placed.itemsAdded.mp member with oldItem | ⟨row, isRow, rfl⟩
    · exact absurd isOrder (placed.item_old referenced oldItem)
    · rw [placed.item_place isRow] at isPlace
      exact ⟨row, isRow, isPlace⟩
  · right
    have holdFound := occupies.holdFound
    rw [placed.holds, if_neg (placed.holdUnused old)] at holdFound
    refine ⟨old, holdFound, item, ?_, isOrder, isPlace⟩
    rcases placed.itemsAdded.mp member with oldItem | ⟨row, _, rfl⟩
    · exact oldItem
    · exact absurd isOrder.symm otherId

/-- Whoever stands on a seat that is placed anew has run out. -/
theorem Auditable.precedes
    (sound : Auditable now db)
    (placed : Placed now hold order rows seats announcement db after)
    (later : now ≤ order.createdAt)
    {place : Place}
    {old : Order}
    {oldHold : Hold}
    {row : EventSeat}
    (member : row ∈ rows)
    (isPlace : row.place = place)
    (occupies : Occupies db place old oldHold) :
    Precedes old oldHold order := by
  have created := sound.created old.id old occupies.orderFound
  refine ⟨?_, created.trans later⟩
  apply le_trans _ later
  apply Int.not_lt.mp
  intro unexpired
  have found := (placed.rowsExact.mp member).1
  rw [isPlace] at found
  obtain ⟨unbooked, passed⟩ :=
    placed.row_free sound.exclusive.referenced member
  rcases sound.taken occupies unexpired found with booked | reserved
  · exact booked unbooked
  · rw [passed] at reserved
    cases reserved

theorem Auditable.separate_of_placed
    (sound : Auditable now db)
    (placed : Placed now hold order rows seats announcement db after)
    (later : now ≤ order.createdAt) :
    Separate after := by
  intro place first firstHold second secondHold firstIs secondIs differ
  have referenced := sound.exclusive.referenced
  rcases placed.occupies referenced firstIs with
    ⟨rfl, rfl, row, member, isPlace⟩ | firstOld
  · rcases placed.occupies referenced secondIs with
      ⟨rfl, _⟩ | secondOld
    · exact absurd rfl differ
    · exact Or.inr (sound.precedes placed later member isPlace secondOld)
  · rcases placed.occupies referenced secondIs with
      ⟨rfl, rfl, row, member, isPlace⟩ | secondOld
    · exact Or.inl (sound.precedes placed later member isPlace firstOld)
    · exact sound.separate place first firstHold second secondHold firstOld
        secondOld differ

/-- Without a new order the orders on a seat stay apart. -/
theorem Separate.of_kept
    (separate : Separate db)
    (referenced : Referenced db)
    (kept : ReservationsKept db after)
    (noneNew :
      ∀ id, db.orders.find? id = none → after.orders.find? id = none) :
    Separate after := by
  have stored {id : Uuid} {row : Order}
      (found : after.orders.find? id = some row) :
      ∃ old, db.orders.find? id = some old := by
    apply Option.ne_none_iff_exists'.mp
    intro fresh
    rw [noneNew id fresh] at found
    cases found
  intro place first firstHold second secondHold firstIs secondIs differ
  obtain ⟨oldFirst, firstFound⟩ := stored firstIs.orderFound
  obtain ⟨oldSecond, secondFound⟩ := stored secondIs.orderFound
  obtain ⟨oldFirstHold, firstWas, firstKey, ⟨_, isFirst⟩, _, isFirstHold⟩ :=
    kept.occupies referenced firstIs firstFound
  obtain ⟨oldSecondHold, secondWas, secondKey, ⟨_, isSecond⟩, _,
    isSecondHold⟩ := kept.occupies referenced secondIs secondFound
  rw [isFirst, isSecond, isFirstHold, isSecondHold]
  rcases separate place oldFirst oldFirstHold oldSecond oldSecondHold
      firstWas secondWas (by rw [firstKey, secondKey]; exact differ) with
    before | before
  · exact Or.inl ⟨before.expired, before.created⟩
  · exact Or.inr ⟨before.expired, before.created⟩

end Placement

/-! ## Runs -/

section Runs

variable
  [DecidableEq Hash]
  {self : PostgresReservations Hash}
  {call : Call Hash}
  {ambient : Ambient}
  {result : Result}
  {db after : Database Hash}

/--
A transaction of an audited run on a clock that does not run backwards.  The
insertion reads its `created_at` after the seat check.
-/
structure PostgresReservations.AuditedStep
    (self : PostgresReservations Hash)
    (before : Clocked Hash)
    (invocation : Invocation Hash)
    (after : Clocked Hash) : Prop where
  started : before.clock ≤ invocation.ambient.now
  inserted : invocation.ambient.now ≤ invocation.ambient.insertedAt
  ended : invocation.ambient.insertedAt ≤ after.clock
  audited : invocation.call.Audited
  step : self.Step before.db invocation after.db

namespace Auditable

omit [DecidableEq Hash] in
theorem later
    {early late : Int}
    (sound : Auditable early db)
    (notBefore : early ≤ late) :
    Auditable late db where
  exclusive := sound.exclusive.later notBefore
  safe := sound.safe
  paired := sound.paired
  responded := sound.responded
  named := sound.named
  standing place order hold occupies unexpired :=
    sound.standing place order hold occupies
      (lt_of_le_of_lt notBefore unexpired)
  created id order found :=
    (sound.created id order found).trans notBefore
  separate := sound.separate

theorem named_of_body
    (sound : Auditable ambient.now db)
    (audited : call.Audited)
    (accepted : self.body call ambient db = .ok (result, after)) :
    Named after := by
  have kept : ReservationsKept db after :=
    .of_changes (PostgresReservations.changes_of_body accepted)
  cases keyed : call.recordKey? with
  | some key =>
      obtain ⟨response, rfl, answers⟩ :=
        PostgresReservations.answers_of_body sound.responded keyed accepted
      exact answers.named audited kept sound.named
  | none =>
      have same := PostgresReservations.untouched_of_body keyed accepted
      intro key record response holdId found isStored isHold
      rw [same.records] at found
      obtain ⟨order, orderFound, sameHold⟩ :=
        sound.named key record response holdId found isStored isHold
      obtain ⟨status, foundAfter⟩ := kept.orders orderFound
      exact ⟨_, foundAfter, sameHold⟩

theorem standing_of_body
    (sound : Auditable ambient.now db)
    (audited : call.Audited)
    (accepted : self.body call ambient db = .ok (result, after)) :
    Standing ambient.now after := by
  have referenced := sound.exclusive.referenced
  have kept : ReservationsKept db after :=
    .of_changes (PostgresReservations.changes_of_body accepted)
  intro place order hold occupies unexpired
  cases stored : db.orders.find? order.id with
  | some old =>
      obtain ⟨oldHold, was, _, _, status, isHold⟩ :=
        kept.occupies referenced occupies stored
      have unexpiredOld : ambient.now < oldHold.expiresAt := by
        rw [isHold] at unexpired
        exact unexpired
      obtain ⟨stands, found, isStanding⟩ :=
        sound.standsIn audited accepted was unexpiredOld
      have sameId : hold.id = oldHold.id := by
        rw [isHold]
      rw [← sameId] at found
      have same := Option.some.inj (occupies.hold_stored.symm.trans found)
      have isStatus : hold.status = stands := congrArg Hold.status same
      rw [isStatus]
      exact isStanding
  | none =>
      rcases placed_of_body sound.responded accepted with
        noneNew | ⟨newHold, newOrder, rows, seats, _, placed, _⟩
      · cases (noneNew order.id stored).symm.trans occupies.orderFound
      · rcases placed.occupies referenced occupies with
          ⟨rfl, rfl, _⟩ | was
        · exact Or.inl placed.active
        · cases stored.symm.trans was.orderFound

theorem separate_of_body
    (sound : Auditable ambient.now db)
    (inserted : ambient.now ≤ ambient.insertedAt)
    (accepted : self.body call ambient db = .ok (result, after)) :
    Separate after := by
  rcases placed_of_body sound.responded accepted with
    noneNew | ⟨hold, order, rows, seats, _, placed, created⟩
  · exact sound.separate.of_kept sound.exclusive.referenced
      (.of_changes (PostgresReservations.changes_of_body accepted)) noneNew
  · exact sound.separate_of_placed placed (by rw [created]; exact inserted)

theorem created_of_body
    (sound : Auditable ambient.now db)
    (inserted : ambient.now ≤ ambient.insertedAt)
    (accepted : self.body call ambient db = .ok (result, after))
    {id : Uuid}
    {order : Order}
    (found : after.orders.find? id = some order) :
    order.createdAt ≤ ambient.insertedAt := by
  have kept : ReservationsKept db after :=
    .of_changes (PostgresReservations.changes_of_body accepted)
  cases stored : db.orders.find? id with
  | some old =>
      obtain ⟨status, foundAfter⟩ := kept.orders stored
      cases found.symm.trans foundAfter
      exact (sound.created id old stored).trans inserted
  | none =>
      exact Int.le_of_eq
        (PostgresReservations.createdAt_of_body accepted found stored)

theorem responded_of_body
    (sound : Auditable ambient.now db)
    (accepted : self.body call ambient db = .ok (result, after)) :
    Responded after := by
  have answered :
      self.AnsweredStep db ⟨call, ambient, .ok result⟩ after := by
    rw [PostgresReservations.AnsweredStep,
      PostgresReservations.transaction, accepted]
  intro key record found
  exact answered.responded sound.responded found

/-- One transaction keeps everything that the audit rests on. -/
theorem step
    {before next : Clocked Hash}
    {invocation : Invocation Hash}
    (sound : Auditable before.clock before.db)
    (taken : self.AuditedStep before invocation next) :
    Auditable next.clock next.db := by
  obtain ⟨started, inserted, ended, audited, step⟩ := taken
  have atNow := sound.later started
  have notBefore := inserted.trans ended
  rcases step.committed with unchanged | ⟨result, accepted⟩
  · rw [unchanged]
    exact atNow.later notBefore
  have changes := PostgresReservations.changes_of_body accepted
  let pairs (db : Database Hash) : Prop := Referenced db ∧ Paired db
  have paired : pairs next.db := by
    have start : pairs before.db :=
      ⟨atNow.exclusive.referenced, atNow.paired⟩
    apply Changes.invariant changes _ start
    rintro db after ⟨referenced, paired⟩ change
    exact ⟨referenced.change change, paired.change referenced change⟩
  have exclusive : HoldsExclusive invocation.ambient.now next.db :=
    Changes.invariant changes HoldsExclusive.change atNow.exclusive
  have standing := atNow.standing_of_body audited accepted
  exact {
    exclusive := exclusive.later notBefore
    safe := Changes.invariant changes BookingSafe.change atNow.safe
    paired := paired.2
    responded := atNow.responded_of_body accepted
    named := atNow.named_of_body audited accepted
    standing := fun place order hold occupies unexpired =>
      standing place order hold occupies
        (lt_of_le_of_lt notBefore unexpired)
    created := fun id order found =>
      (atNow.created_of_body inserted accepted found).trans ended
    separate := atNow.separate_of_body inserted accepted }

end Auditable

omit [DecidableEq Hash] in
theorem Database.Initial.auditable
    (initial : db.Initial)
    (now : Int) :
    Auditable now db := by
  have noOrder (id : Uuid) : db.orders.find? id = none := by
    rw [initial.fresh]
    rfl
  have noRecord (key : RecordKey) :
      db.idempotencyRecords.find? key = none := by
    rw [initial.fresh]
    rfl
  refine {
    exclusive := initial.holdsExclusive now
    safe := initial.bookingSafe
    paired := ⟨?_, ?_⟩
    responded := ?_
    named := ?_
    standing := ?_
    created := ?_
    separate := ?_ }
  · intro id hold found
    rw [initial.fresh] at found
    cases found
  · intro id order hold found
    cases (noOrder id).symm.trans found
  · intro key record found
    cases (noRecord key).symm.trans found
  · intro key record response holdId found
    cases (noRecord key).symm.trans found
  · intro place order hold occupies
    cases (noOrder order.id).symm.trans occupies.orderFound
  · intro id order found
    cases (noOrder id).symm.trans found
  · intro place first firstHold second secondHold firstIs
    cases (noOrder first.id).symm.trans firstIs.orderFound

/-! ## The count -/

namespace Auditable

variable
  {now : Int}
  {audits : IdempotencyKey → Bool}
  {row : AuditRow}

omit [DecidableEq Hash] in
/-- An audited row is the interval of an order on its seat. -/
theorem occupies_of_selected
    (sound : Auditable now db)
    (member : row ∈ selected audits db) :
    ∃ order hold,
      Occupies db row.place order hold ∧
        row.id = hold.id ∧
        row.createdAt = order.createdAt ∧
        row.expiresAt = hold.expiresAt := by
  obtain ⟨record, isRecord, isJoined⟩ :=
    List.mem_flatMap.mp (List.mem_dedup.mp member)
  have stored : record ∈ db.idempotencyRecords :=
    (Table.mem_select.mp isRecord).1
  cases isStored : record.response with
  | none =>
      rw [isStored] at isJoined
      cases isJoined
  | some response =>
      rw [isStored] at isJoined
      obtain ⟨holdId, hold, order, isHold, holdFound, orderFound, item,
        isItem, rfl⟩ := mem_joined.mp isJoined
      obtain ⟨named, namedFound, sameHold⟩ :=
        sound.named _ record response holdId (Table.find?_key stored)
          isStored isHold
      cases orderFound.symm.trans namedFound
      obtain ⟨isMember, isOrder⟩ := mem_itemsOf.mp isItem
      have isId : order.id = response.orderId :=
        Table.key_of_find? orderFound
      rw [← isId] at orderFound
      rw [← sameHold] at holdFound
      refine ⟨order, hold, ⟨orderFound, holdFound, item, isMember, isOrder,
        ?_⟩, rfl, rfl, rfl⟩
      -- Items, orders and holds name the same event.
      obtain ⟨owner, ownerFound, itemEvent⟩ :=
        sound.exclusive.referenced.itemOrder isMember
      rw [isOrder, orderFound] at ownerFound
      cases ownerFound
      obtain ⟨own, ownFound, holdEvent⟩ :=
        sound.exclusive.referenced.orderHold orderFound
      cases holdFound.symm.trans ownFound
      simp [OrderItem.place, AuditRow.place, auditRow, itemEvent, holdEvent]

omit [DecidableEq Hash] in
/-- Audited rows of one seat follow each other, up to late ties. -/
theorem follows
    (sound : Auditable now db)
    {first second : AuditRow}
    (isFirst : first ∈ selected audits db)
    (isSecond : second ∈ selected audits db)
    (sorted : first.Sorted second)
    (differ : first ≠ second)
    (noTie : ¬ first.LateTie second) :
    Intervals.Follows AuditRow.place AuditRow.createdAt AuditRow.expiresAt
      first second := by
  intro samePlace
  obtain ⟨order, hold, occupies, isId, created, expires⟩ :=
    sound.occupies_of_selected isFirst
  obtain ⟨other, otherHold, otherOccupies, otherId, otherCreated,
    otherExpires⟩ := sound.occupies_of_selected isSecond
  rw [← samePlace] at otherOccupies
  by_cases same : order.id = other.id
  · have otherFound := otherOccupies.orderFound
    rw [← same, occupies.orderFound] at otherFound
    cases otherFound
    cases occupies.holdFound.symm.trans otherOccupies.holdFound
    obtain ⟨sameEvent, sameSeat⟩ := Prod.mk.inj samePlace
    apply absurd _ differ
    cases first
    cases second
    simp_all
  · rcases sound.separate _ order hold other otherHold occupies otherOccupies
        same with
      before | before
    · rw [expires, otherCreated]
      exact before.expired
    · -- The second was first on the seat, so the window reads a tie.
      have notLater : second.createdAt ≤ first.createdAt := by
        rw [otherCreated, created]
        exact before.created
      have tie : first.createdAt = second.createdAt :=
        le_antisymm sorted.created_le notLater
      have late : second.expiresAt ≤ second.createdAt := by
        rw [otherExpires, ← tie, created]
        exact before.expired
      by_contra overlaps
      apply noTie
      refine ⟨samePlace, tie, ?_, ?_, late⟩
      · rcases sorted with earlier | ⟨_, notAbove⟩
        · exact absurd tie (ne_of_lt earlier)
        · apply lt_of_le_of_ne notAbove
          intro sameHold
          apply same
          apply sound.exclusive.referenced.holdUnique occupies.orderFound
            otherOccupies.orderFound
          have key : hold.id = order.holdId :=
            Table.key_of_find? occupies.holdFound
          have otherKey : otherHold.id = other.holdId :=
            Table.key_of_find? otherOccupies.holdFound
          rw [← key, ← otherKey, ← isId, ← otherId]
          exact sameHold
      · rw [tie]
        exact not_le.mp overlaps

omit [DecidableEq Hash] in
theorem overlaps_eq_zero_iff
    (sound : Auditable now db) :
    overlaps (selected audits db) = 0 ↔
      ∀ first ∈ selected audits db, ∀ second ∈ selected audits db,
        ¬ first.LateTie second := by
  constructor
  · rintro none first isFirst second isSecond tie
    have before : ¬ second.Sorted first := by
      rintro (earlier | ⟨_, notAbove⟩)
      · exact absurd tie.created.symm (ne_of_lt earlier)
      · exact absurd tie.read (Nat.not_lt.mpr notAbove)
    have follows :=
      follows_of_overlaps_eq_zero none isFirst isSecond before tie.place
    have proper := tie.proper
    rw [tie.created] at proper
    exact absurd proper (not_lt.mpr follows)
  · intro noTie
    have distinct : (ordered (selected audits db)).Nodup :=
      (List.perm_insertionSort _ _).nodup_iff.mpr (List.nodup_dedup _)
    apply Intervals.countLate_eq_zero_iff.mpr
    refine ⟨nofun, ?_⟩
    apply ((ordered_sorted (selected audits db)).and distinct).imp_of_mem
    rintro first second isFirst isSecond ⟨sorted, differ⟩
    have firstSelected := mem_ordered.mp isFirst
    have secondSelected := mem_ordered.mp isSecond
    exact sound.follows firstSelected secondSelected sorted differ
      (noTie first firstSelected second secondSelected)

end Auditable

/-- What the audit rests on, in a state with its clock. -/
def AuditSound (state : Clocked Hash) : Prop :=
  Auditable state.clock state.db

end Runs

/--
The overlap count of the audit is zero exactly if no two intervals of a seat
overlap.  After a run without explicit release or failed payment it is zero
exactly if no order that was created when its own hold had run out ties with
another on its seat that is read before it.
-/
theorem overlap_audit_exact :
    (∀ rows : List AuditRow,
      rows.Nodup →
      (∀ row ∈ rows, row.createdAt < row.expiresAt) →
      (overlaps rows = 0 ↔
        ∀ first ∈ rows, ∀ second ∈ rows,
          first ≠ second →
          first.place = second.place →
          ¬ Intervals.Overlap AuditRow.createdAt AuditRow.expiresAt
            first second)) ∧
    ∀ (Hash : Type) [DecidableEq Hash]
      (self : PostgresReservations Hash)
      (start : Database Hash)
      (origin : Int)
      (invocations : List (Invocation Hash))
      (state : Clocked Hash)
      (audits : IdempotencyKey → Bool),
      start.Initial →
      Run self.AuditedStep ⟨start, origin⟩ invocations state →
      (overlaps (selected audits state.db) = 0 ↔
        ∀ first ∈ selected audits state.db,
          ∀ second ∈ selected audits state.db,
            ¬ first.LateTie second) := by
  constructor
  · intro rows distinct proper
    exact overlaps_eq_zero_iff distinct proper
  · intro Hash _ self start origin invocations state audits initial run
    have atStart : AuditSound ⟨start, origin⟩ := initial.auditable origin
    have sound : AuditSound state :=
      run.invariant atStart Auditable.step
    exact sound.overlaps_eq_zero_iff

/-- Two calls of the small sale, one after the other, are an audited run. -/
theorem smallSale_audited
    {first second : Invocation Request}
    (audited : first.call.Audited ∧ second.call.Audited)
    (ordered :
      [0, first.ambient.now, first.ambient.insertedAt, second.ambient.now,
        second.ambient.insertedAt].IsChain (· ≤ ·)) :
    Run smallStore.AuditedStep ⟨smallSale, 0⟩ [first, second]
      ⟨smallStore.replay smallSale [first, second],
        second.ambient.insertedAt⟩ := by
  simp only [List.isChain_cons_cons] at ordered
  obtain ⟨started, inserted, between, insertedLater, _⟩ := ordered
  have firstStep :
      smallStore.AuditedStep ⟨smallSale, 0⟩ first
        ⟨smallStore.replay smallSale [first], first.ambient.insertedAt⟩ :=
    ⟨started, inserted, le_rfl, audited.1, rfl⟩
  have secondStep :
      smallStore.AuditedStep
        ⟨smallStore.replay smallSale [first], first.ambient.insertedAt⟩
        second
        ⟨smallStore.replay smallSale [first, second],
          second.ambient.insertedAt⟩ :=
    ⟨between, insertedLater, le_rfl, audited.2, rfl⟩
  exact .cons firstStep (.single secondStep)

/-- The rows of a takeover: one interval begins where the other ends. -/
def smallTakeoverRows : List AuditRow :=
  [⟨200, 1, 121 * second, 1 * second, "A1"⟩,
    ⟨100, 1, 241 * second, 121 * second, "A1"⟩]

/-- The audit of a takeover counts no overlap between its two intervals. -/
theorem overlap_audit_exact_smallTakeover :
    overlaps smallTakeoverRows = 0 ∧
      overlaps
        (selected (fun _ => true)
          (smallStore.replay smallSale smallTakeover)) = 0 := by
  constructor
  · apply (overlap_audit_exact.1 smallTakeoverRows (by decide)
      (by decide)).mpr
    unfold Intervals.Overlap
    decide
  · have exact :=
      overlap_audit_exact.2 Request smallStore smallSale 0 smallTakeover _
        (fun _ => true) smallSale_initial
        (smallSale_audited ⟨trivial, trivial⟩ (by decide))
    apply exact.mpr
    rintro first isFirst other isOther ⟨_, created, _, _, _⟩
    revert first other
    decide

/--
A command that is persisted in the last microsecond of its hold, and a
reservation in the microsecond after it.
-/
def smallTie : List (Invocation Request) :=
  [⟨.persistReservationCommand
      { commandId := 300
        actor := "alice"
        idempotencyKey := "load-1"
        requestHash := .hold 1 ["A1"]
        eventId := 1
        seatIds := ["A1"]
        holdId := 200
        orderId := 201
        expiresAt := 1 * second + 1 }
      { commandId := 300
        holdId := 200
        orderId := 201
        seats := ["A1"]
        total := 500
        currency := "THB"
        expiresAtEpoch := 1
        expiresAt := 1 * second + 1
        persistenceStatus := .pending },
      { now := 1 * second
        insertedAt := 1 * second + 1
        uuid4 := fun draw => 400 + draw }⟩,
    ⟨.reserve "bob" 1 ["A1"] "load-2",
      { now := 1 * second + 1
        insertedAt := 1 * second + 1
        uuid4 := fun draw => 100 + draw }⟩]

/--
An order that is created when its hold has already run out may tie with its
successor on the seat, and the audit then reads the two in the wrong order.
-/
theorem overlap_audit_counts_tie :
    ¬ ∀ (invocations : List (Invocation Request)) (state : Clocked Request),
      Run smallStore.AuditedStep ⟨smallSale, 0⟩ invocations state →
      overlaps (selected (fun _ => true) state.db) = 0 := by
  intro always
  have counted :=
    always smallTie _ (smallSale_audited ⟨⟨rfl, rfl⟩, trivial⟩ (by decide))
  revert counted
  decide

end FlashTicketing
