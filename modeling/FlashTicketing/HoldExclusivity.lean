import FlashTicketing.PostgresInvariant

namespace FlashTicketing

open Relational Transition

/-!
# Hold exclusivity

Expiry is logical.  A reservation takes over a seat on the strength of the
seat's own deadline and leaves the old hold to the expiry worker, which may
come much later.  With a clock that never runs backwards, a hold that is active
and unexpired nevertheless owns all seats of its order.
-/

variable {Hash : Type}

/-- The order's hold is active and its deadline is after `now`. -/
def LiveHold
    (db : Database Hash)
    (now : Int)
    (orderId : Uuid)
    (hold : Hold) : Prop :=
  ∃ order,
    db.orders.find? orderId = some order ∧
      db.holds.find? order.holdId = some hold ∧
      hold.status = .active ∧
      now < hold.expiresAt

/-- The seat is held by the hold, until its deadline, and unbooked. -/
def OwnedBy
    (db : Database Hash)
    (place : Place)
    (hold : Hold) : Prop :=
  ∃ seat,
    db.eventSeats.find? place = some seat ∧
      seat.holdId = some hold.id ∧
      seat.reservedUntil = some hold.expiresAt ∧
      seat.bookedOrderId = none

/-- Every live hold owns the seats of its order. -/
structure HoldsExclusive (now : Int) (db : Database Hash) : Prop where
  referenced : Referenced db
  owned :
    ∀ {orderId hold place},
      LiveHold db now orderId hold →
      HasItem db place orderId →
      OwnedBy db place hold

namespace HoldsExclusive

/-- The passage of time ends holds and starts none. -/
theorem later
    {early late : Int}
    {db : Database Hash}
    (exclusive : HoldsExclusive early db)
    (ordered : early ≤ late) :
    HoldsExclusive late db := by
  refine ⟨exclusive.referenced, ?_⟩
  rintro orderId hold place ⟨order, found, holdFound, active, unexpired⟩
  exact exclusive.owned
    ⟨order, found, holdFound, active, lt_of_le_of_lt ordered unexpired⟩

/-- Two live orders have no seat in common. -/
theorem disjoint
    {now : Int}
    {db : Database Hash}
    (exclusive : HoldsExclusive now db)
    {firstId secondId : Uuid}
    {firstHold secondHold : Hold}
    (firstLive : LiveHold db now firstId firstHold)
    (secondLive : LiveHold db now secondId secondHold)
    {place : Place}
    (firstItem : HasItem db place firstId)
    (secondItem : HasItem db place secondId) :
    firstId = secondId := by
  obtain ⟨firstSeat, firstFound, firstHeld, _⟩ :=
    exclusive.owned firstLive firstItem
  obtain ⟨secondSeat, secondFound, secondHeld, _⟩ :=
    exclusive.owned secondLive secondItem
  obtain ⟨first, firstStored, firstHoldFound, _⟩ := firstLive
  obtain ⟨second, secondStored, secondHoldFound, _⟩ := secondLive
  have firstKey : firstHold.id = first.holdId :=
    Table.key_of_find? firstHoldFound
  have secondKey : secondHold.id = second.holdId :=
    Table.key_of_find? secondHoldFound
  have sameSeat : firstSeat = secondSeat :=
    Option.some.inj (firstFound.symm.trans secondFound)
  rw [sameSeat, secondHeld] at firstHeld
  have sameHold : secondHold.id = firstHold.id := Option.some.inj firstHeld
  exact exclusive.referenced.holdUnique firstStored secondStored
    (by rw [← firstKey, ← secondKey, sameHold])

end HoldsExclusive

/-! ## Changes -/

/--
A revision keeps exclusivity if it activates no hold and leaves the seats of
the holds that it keeps active.
-/
theorem Revised.holdsExclusive
    {holdStatus : Hold → HoldStatus}
    {orderStatus : Order → OrderStatus}
    {reseat : EventSeat → EventSeat}
    {now : Int}
    {db after : Database Hash}
    (revised : Revised holdStatus orderStatus reseat db after)
    (referenced : Referenced after)
    (activatesNone :
      ∀ {hold}, holdStatus hold = .active → hold.status = .active)
    (keepsActive :
      ∀ {hold seat},
        holdStatus hold = .active →
        seat.holdId = some hold.id →
        reseat seat = seat)
    (exclusive : HoldsExclusive now db) :
    HoldsExclusive now after := by
  refine ⟨referenced, ?_⟩
  rintro orderId hold place ⟨order, found, holdFound, active, unexpired⟩
    ⟨item, member, owned⟩
  obtain ⟨orderBefore, foundBefore, rfl⟩ := revised.order_before found
  obtain ⟨holdBefore, holdFoundBefore, rfl⟩ :=
    revised.hold_before holdFound
  rw [revised.items] at member
  have live : LiveHold db now orderId holdBefore :=
    ⟨orderBefore, foundBefore, holdFoundBefore, activatesNone active,
      unexpired⟩
  obtain ⟨seat, seatFound, held, deadline, unbooked⟩ :=
    exclusive.owned live ⟨item, member, owned⟩
  refine ⟨seat, ?_, held, deadline, unbooked⟩
  rw [revised.seat_after seatFound, keepsActive active held]

theorem closedHold_active
    {order : Order}
    {state : HoldStatus}
    {hold : Hold}
    (closed : state ≠ .active)
    (active : order.closedHold state hold = .active) :
    hold.status = .active ∧ hold.id ≠ order.holdId := by
  unfold Order.closedHold at active
  split at active
  · exact (closed active).elim
  · rename_i open_
    exact ⟨active, fun sameId => open_ ⟨sameId, active⟩⟩

/-- Releasing one hold leaves the seats of every other hold. -/
theorem releasedSeat_other
    {order : Order}
    {seat : EventSeat}
    {holdId : Uuid}
    (held : seat.holdId = some holdId)
    (other : holdId ≠ order.holdId) :
    order.releasedSeat seat = seat := by
  rw [Order.releasedSeat, if_neg]
  intro releasable
  rw [(releasable_iff.mp releasable).1] at held
  exact other (Option.some.inj held).symm

/-- The release of a hold keeps exclusivity. -/
theorem Revised.holdsExclusive_released
    {order : Order}
    {state : HoldStatus}
    {orderStatus : Order → OrderStatus}
    {now : Int}
    {db after : Database Hash}
    (revised :
      Revised (order.closedHold state) orderStatus order.releasedSeat
        db after)
    (referenced : Referenced after)
    (closed : state ≠ .active)
    (exclusive : HoldsExclusive now db) :
    HoldsExclusive now after :=
  revised.holdsExclusive referenced
    (fun active => (closedHold_active closed active).1)
    (fun active held =>
      releasedSeat_other held (closedHold_active closed active).2)
    exclusive

/-- A revision of neither holds nor seats keeps exclusivity. -/
theorem Revised.holdsExclusive_id
    {orderStatus : Order → OrderStatus}
    {now : Int}
    {db after : Database Hash}
    (revised : Revised Hold.status orderStatus id db after)
    (referenced : Referenced after)
    (exclusive : HoldsExclusive now db) :
    HoldsExclusive now after :=
  revised.holdsExclusive referenced (fun active => active)
    (fun _ _ => rfl) exclusive

/-- A new hold owns its seats and takes none from a live hold. -/
theorem Placed.holdsExclusive
    {now : Int}
    {hold : Hold}
    {order : Order}
    {rows : List EventSeat}
    {seats : List SeatId}
    {announcement : Uuid}
    {db after : Database Hash}
    (placed : Placed now hold order rows seats announcement db after)
    (exclusive : HoldsExclusive now db) :
    HoldsExclusive now after := by
  refine ⟨placed.referenced exclusive.referenced, ?_⟩
  rintro orderId live place ⟨found, stored, holdFound, active, unexpired⟩
    ⟨item, member, owner, itemPlace⟩
  rcases placed.order_cases stored with ⟨rfl, rfl⟩ | ⟨isOld, old⟩
  · rw [placed.orderHold, placed.hold_stored] at holdFound
    cases holdFound
    rcases placed.itemsAdded.mp member with oldItem | ⟨row, rowMember, rfl⟩
    · exact (placed.item_old exclusive.referenced oldItem owner).elim
    · rw [placed.item_place rowMember] at itemPlace
      refine ⟨row.hold hold.id hold.expiresAt, ?_, rfl, rfl, ?_⟩
      · rw [← itemPlace]
        exact placed.row_after rowMember
      · exact (placed.row_free exclusive.referenced rowMember).1
  · have oldItem : item ∈ db.orderItems := by
      rcases placed.itemsAdded.mp member with oldItem | ⟨row, _, rfl⟩
      · exact oldItem
      · exact (isOld owner.symm).elim
    have oldHold : db.holds.find? found.holdId = some live := by
      rw [placed.holds, if_neg (placed.holdUnused old)] at holdFound
      exact holdFound
    obtain ⟨seat, seatFound, held, deadline, unbooked⟩ :=
      exclusive.owned ⟨found, old, oldHold, active, unexpired⟩
        ⟨item, oldItem, owner, itemPlace⟩
    refine ⟨seat, ?_, held, deadline, unbooked⟩
    rw [placed.seatsHeld, seatFound, Option.map_some, if_neg]
    -- A live hold's deadline is ahead, so its seats were not free.
    intro requested
    have samePlace : seat.place = place := Table.key_of_find? seatFound
    have rowMember : seat ∈ rows :=
      placed.rowsExact.mpr
        ⟨by rw [samePlace]; exact seatFound, requested_iff.mp requested⟩
    have passed := (placed.row_free exclusive.referenced rowMember).2
    simp only [EventSeat.reservedAfter, deadline,
      decide_eq_false_iff_not] at passed
    exact passed unexpired

/-- Every change at `now` keeps exclusivity at `now`. -/
theorem HoldsExclusive.change
    {now : Int}
    {db after : Database Hash}
    (exclusive : HoldsExclusive now db)
    (change : Change now db after) :
    HoldsExclusive now after := by
  have referenced := exclusive.referenced.change change
  cases change with
  | bookkeeping _ revised =>
      exact revised.holdsExclusive_id referenced exclusive
  | placed _ _ _ _ _ placed =>
      exact placed.holdsExclusive exclusive
  | released _ _ _ _ closed revised =>
      refine revised.holdsExclusive_released referenced ?_ exclusive
      rintro rfl
      exact closed.elim nofun nofun
  | paymentOpened _ _ _ _ _ _ _ revised =>
      exact revised.holdsExclusive_id referenced exclusive
  | booked _ _ hold _ _ _ _ _ _ revised =>
      have otherHold :
          ∀ {row : Hold},
            (if row.id = hold.id then .consumed else row.status) =
              HoldStatus.active →
            row.status = .active ∧ row.id ≠ hold.id := by
        intro row active
        split at active
        · cases active
        · rename_i different
          exact ⟨active, different⟩
      refine revised.holdsExclusive referenced
        (fun active => (otherHold active).1) ?_ exclusive
      intro row seat active held
      refine if_neg ?_
      rw [held]
      exact fun same => (otherHold active).2 (Option.some.inj same)
  | refunded _ _ _ _ _ _ _ _ revised =>
      exact revised.holdsExclusive_released referenced nofun exclusive
  | failed _ _ _ _ _ _ _ revised =>
      exact revised.holdsExclusive_released referenced nofun exclusive
  | noted _ _ _ _ _ _ _ revised =>
      exact revised.holdsExclusive_id referenced exclusive
  | fulfilled _ _ _ _ revised =>
      exact revised.holdsExclusive_id referenced exclusive
  | refundCompleted _ _ revised =>
      exact revised.holdsExclusive_id referenced exclusive

theorem Database.Initial.holdsExclusive
    {db : Database Hash}
    (initial : db.Initial)
    (now : Int) :
    HoldsExclusive now db := by
  refine ⟨initial.referenced, ?_⟩
  rintro orderId hold place ⟨order, found, _⟩
  rw [initial.fresh] at found
  cases found

/-! ## Runs under a monotone clock -/

/-- A database with the latest reading of its clock. -/
structure Clocked (Hash : Type) where
  db : Database Hash
  clock : Int

section Runs

variable [DecidableEq Hash]

/-- A transaction whose clock reading is not before any earlier one. -/
def PostgresReservations.ClockedStep
    (self : PostgresReservations Hash)
    (before : Clocked Hash)
    (invocation : Invocation Hash)
    (after : Clocked Hash) : Prop :=
  before.clock ≤ invocation.ambient.now ∧
    after.clock = invocation.ambient.now ∧
    self.Step before.db invocation after.db

theorem HoldsExclusive.clockedStep
    {self : PostgresReservations Hash}
    {before after : Clocked Hash}
    {invocation : Invocation Hash}
    (exclusive : HoldsExclusive before.clock before.db)
    (step : self.ClockedStep before invocation after) :
    HoldsExclusive after.clock after.db := by
  obtain ⟨ordered, clockRead, transaction⟩ := step
  rw [clockRead]
  exact Changes.invariant
    (PostgresReservations.changes_of_step transaction)
    HoldsExclusive.change (exclusive.later ordered)

/--
At every moment of every run under a monotone clock, a live hold owns all seats
of its order, so that two live orders never share a seat.
-/
theorem hold_exclusivity
    {self : PostgresReservations Hash}
    {start : Database Hash}
    {origin : Int}
    {invocations : List (Invocation Hash)}
    {state : Clocked Hash}
    (initial : start.Initial)
    (run : Run self.ClockedStep ⟨start, origin⟩ invocations state)
    (now : Int)
    (current : state.clock ≤ now) :
    (∀ orderId hold place,
      LiveHold state.db now orderId hold →
      HasItem state.db place orderId →
      OwnedBy state.db place hold) ∧
    ∀ firstId secondId firstHold secondHold place,
      LiveHold state.db now firstId firstHold →
      LiveHold state.db now secondId secondHold →
      HasItem state.db place firstId →
      HasItem state.db place secondId →
      firstId = secondId := by
  have atClock : HoldsExclusive state.clock state.db :=
    run.invariant (initial.holdsExclusive origin)
      HoldsExclusive.clockedStep
  have exclusive := atClock.later current
  refine ⟨fun _ _ _ => exclusive.owned, ?_⟩
  intro firstId secondId firstHold secondHold place firstLive secondLive
  exact exclusive.disjoint firstLive secondLive

end Runs

/-- One seat, taken over after its first hold ran out unnoticed. -/
def smallTakeover : List (Invocation Request) :=
  [⟨.reserve "alice" 1 ["A1"] "load-1", smallAmbient 1 200⟩,
    ⟨.reserve "bob" 1 ["A1"] "load-2", smallAmbient 121 100⟩]

theorem run_smallTakeover :
    Run smallStore.ClockedStep ⟨smallSale, 0⟩ smallTakeover
      ⟨smallStore.replay smallSale smallTakeover, 121 * second⟩ := by
  have first :
      smallStore.ClockedStep ⟨smallSale, 0⟩
        ⟨.reserve "alice" 1 ["A1"] "load-1", smallAmbient 1 200⟩
        ⟨smallStore.replay smallSale (smallTakeover.take 1),
          1 * second⟩ :=
    ⟨by decide, rfl, rfl⟩
  exact .cons first (.single ⟨by decide, rfl, rfl⟩)

/--
One second after the takeover the seat belongs to the second hold, and no other
order with the seat has a live hold.
-/
theorem hold_exclusivity_smallTakeover :
    OwnedBy (smallStore.replay smallSale smallTakeover) (1, "A1")
        { id := 100
          actor := "bob"
          eventId := 1
          expiresAt := 241 * second
          status := .active } ∧
      ∀ orderId hold,
        LiveHold (smallStore.replay smallSale smallTakeover) (122 * second)
          orderId hold →
        HasItem (smallStore.replay smallSale smallTakeover) (1, "A1")
          orderId →
        orderId = 101 := by
  have exclusive :=
    hold_exclusivity smallSale_initial run_smallTakeover (122 * second)
      (by decide)
  have live :
      LiveHold (smallStore.replay smallSale smallTakeover) (122 * second) 101
        { id := 100
          actor := "bob"
          eventId := 1
          expiresAt := 241 * second
          status := .active } :=
    ⟨{ id := 101
       actor := "bob"
       holdId := 100
       eventId := 1
       total := 500
       currency := "THB"
       status := .pending
       createdAt := 121 * second }, by decide, by decide, rfl, by decide⟩
  have item :
      HasItem (smallStore.replay smallSale smallTakeover) (1, "A1") 101 :=
    ⟨{ orderId := 101
       eventId := 1
       seatId := "A1"
       price := 500 }, by decide, rfl, rfl⟩
  refine ⟨exclusive.1 101 _ _ live item, ?_⟩
  intro orderId hold otherLive otherItem
  exact exclusive.2 orderId 101 hold _ _ otherLive live otherItem item

end FlashTicketing
