import FlashTicketing.PostgresInvariant

namespace FlashTicketing

open Relational Checked

/-!
# Every changed seat is announced

A transaction that rewrites a row of `event_seats` adds, in the same
transaction, a `SeatsChanged` event that lists the seat.
-/

variable {Hash : Type}

/-- The outbox row lists the seat as changed. -/
def OutboxEvent.Lists (row : OutboxEvent) (place : Place) : Prop :=
  ∃ seats,
    row.message = .seatsChanged place.1 (some seats) ∧ place.2 ∈ seats

/-- No outbox row is lost, and new ones list every seat that changed. -/
structure Announced (db after : Database Hash) : Prop where
  kept : OutboxKept db after
  listed :
    ∀ {place},
      after.eventSeats.find? place ≠ db.eventSeats.find? place →
      ∃ row ∈ after.outboxEvents,
        db.outboxEvents.find? row.id = none ∧ row.Lists place

namespace Announced

theorem refl (db : Database Hash) : Announced db db :=
  ⟨fun _ member => member, fun changed => absurd rfl changed⟩

theorem trans
    {first second third : Database Hash}
    (early : Announced first second)
    (late : Announced second third) :
    Announced first third := by
  refine ⟨fun row member => late.kept row (early.kept row member), ?_⟩
  intro place changed
  by_cases changedEarly :
      second.eventSeats.find? place = first.eventSeats.find? place
  · rw [← changedEarly] at changed
    obtain ⟨row, member, fresh, lists⟩ := late.listed changed
    refine ⟨row, member, ?_, lists⟩
    rw [Table.find?_eq_none_iff] at fresh ⊢
    intro other otherMember
    exact fresh other (early.kept other otherMember)
  · obtain ⟨row, member, fresh, lists⟩ := early.listed changedEarly
    exact ⟨row, late.kept row member, fresh, lists⟩

/-- A rewrite of seats whose announcement lists what it rewrites. -/
theorem of_map
    {reseat : EventSeat → EventSeat}
    {added : List OutboxEvent}
    {db after : Database Hash}
    (announces : Announces added db after)
    (seats :
      ∀ place,
        after.eventSeats.find? place =
          (db.eventSeats.find? place).map reseat)
    (lists :
      ∀ {place seat},
        db.eventSeats.find? place = some seat →
        reseat seat ≠ seat →
        ∃ row ∈ added, row.Lists place) :
    Announced db after := by
  refine ⟨announces.outboxKept, ?_⟩
  intro place changed
  rw [seats] at changed
  cases found : db.eventSeats.find? place with
  | none =>
      rw [found] at changed
      exact absurd rfl changed
  | some seat =>
      have reseated : reseat seat ≠ seat := by
        intro same
        rw [found] at changed
        exact changed (congrArg some same)
      obtain ⟨row, listed, isListed⟩ := lists found reseated
      exact ⟨row, (announces.rows row).mpr (Or.inr listed),
        announces.fresh row listed, isListed⟩

end Announced

/-- The seats of a hold belong to the event of its order. -/
theorem Referenced.held_event
    {order : Order}
    {place : Place}
    {seat : EventSeat}
    {db : Database Hash}
    (sound : Referenced db)
    (stored : order.StoredIn db)
    (found : db.eventSeats.find? place = some seat)
    (held : seat.holdId = some order.holdId) :
    place.1 = order.eventId := by
  obtain ⟨status, orderFound⟩ := stored
  obtain ⟨id, owner, ownerFound, sameHold, item, member, owned, isPlace⟩ :=
    sound.heldItem found held
  have sameId : id = order.id :=
    sound.holdUnique ownerFound orderFound sameHold
  obtain ⟨other, otherFound, sameEvent⟩ := sound.itemOrder member
  rw [owned, sameId, orderFound] at otherFound
  cases otherFound
  rw [← isPlace]
  exact sameEvent

/-- `_release` lists the seats that it clears. -/
theorem Referenced.released_listed
    {order : Order}
    {announcement : Uuid}
    {place : Place}
    {seat : EventSeat}
    {db : Database Hash}
    (sound : Referenced db)
    (stored : order.StoredIn db)
    (found : db.eventSeats.find? place = some seat)
    (released : order.releasedSeat seat ≠ seat) :
    (seatsChangedRow announcement order
      (releasedSeatIds order db)).Lists place := by
  have releasable : seat.releasable order.holdId = true := by
    by_contra kept
    rw [Order.releasedSeat, if_neg kept] at released
    exact released rfl
  have isPlace : seat.place = place := Table.key_of_find? found
  have sameEvent :=
    sound.held_event stored found (releasable_iff.mp releasable).1
  refine ⟨_, by rw [sameEvent]; rfl, ?_⟩
  rw [← isPlace]
  exact List.mem_map_of_mem
    (Table.mem_select.mpr ⟨Table.mem_of_find? found, releasable⟩)

theorem Announced.of_change
    {now : Int}
    {db after : Database Hash}
    (sound : Referenced db)
    (change : Change now db after) :
    Announced db after := by
  cases change with
  | placed hold order rows seats announcement placed =>
      refine .of_map placed.announces placed.seatsHeld ?_
      intro place seat found reseated
      have isPlace : seat.place = place := Table.key_of_find? found
      have requested : seat.requested hold.eventId seats = true := by
        by_contra kept
        rw [if_neg kept] at reseated
        exact reseated rfl
      obtain ⟨sameEvent, listed⟩ := requested_iff.mp requested
      refine ⟨_, List.mem_singleton.mpr rfl, seats, ?_, ?_⟩
      · rw [← isPlace, EventSeat.place, sameEvent]
      · rw [← isPlace]
        exact listed
  | released order _ announcement stored _ revised _ announces =>
      refine .of_map announces revised.seats ?_
      intro place seat found released
      exact ⟨_, List.mem_singleton.mpr rfl,
        sound.released_listed stored found released⟩
  | booked payment order hold bookings paid announcement callable _ valid
      revised _ _ _ _ _ _ announces =>
      refine .of_map announces revised.seats ?_
      intro place seat found reseated
      have held : seat.holdId = some hold.id := by
        by_contra kept
        rw [if_neg kept] at reseated
        exact reseated rfl
      have isPlace : seat.place = place := Table.key_of_find? found
      have sameEvent : place.1 = order.eventId := by
        refine sound.held_event callable.storedIn found ?_
        rw [held, callable.keys.2]
      obtain ⟨item, member, owned, itemPlace⟩ :=
        (sound.held_iff_item callable valid found).mp held
      have listed : seat ∈ orderSeats db order := by
        refine mem_orderSeats.mpr ⟨?_, item, member, owned, ?_⟩
        · rw [isPlace]
          exact found
        · rw [itemPlace, isPlace]
      refine ⟨_, List.mem_cons_of_mem _ (List.mem_singleton.mpr rfl),
        _, by rw [sameEvent]; rfl, ?_⟩
      rw [← isPlace]
      exact List.mem_map_of_mem listed
  | refunded payment order hold _ _ _ callable _ revised _ _ _ announces =>
      refine .of_map announces revised.seats ?_
      intro place seat found released
      exact ⟨_, List.mem_cons_self,
        sound.released_listed callable.storedIn found released⟩
  | failed payment order hold _ _ callable _ revised _ _ _ announces =>
      refine .of_map announces revised.seats ?_
      intro place seat found released
      exact ⟨_, List.mem_cons_self,
        sound.released_listed callable.storedIn found released⟩
  | bookkeeping _ revised _ announces =>
      exact .of_map announces revised.seats fun _ changed =>
        absurd rfl changed
  | paymentOpened _ _ _ _ _ _ _ revised _ _ _ announces =>
      exact .of_map announces revised.seats fun _ changed =>
        absurd rfl changed
  | noted _ _ _ _ _ _ _ revised _ _ _ announces =>
      exact .of_map announces revised.seats fun _ changed =>
        absurd rfl changed
  | fulfilled _ _ _ _ revised _ announces =>
      exact .of_map announces revised.seats fun _ changed =>
        absurd rfl changed
  | refundCompleted _ _ revised _ _ _ announces =>
      exact .of_map announces revised.seats fun _ changed =>
        absurd rfl changed

/-- A transaction announces every seat that it changes. -/
theorem PostgresReservations.announced_of_transaction
    [DecidableEq Hash]
    {db : Database Hash}
    (self : PostgresReservations Hash)
    (call : Call Hash)
    (ambient : Ambient)
    (sound : Referenced db) :
    Announced db (self.transaction call ambient db).2 :=
  Changes.relates Referenced (self.changes_of_transaction call ambient db)
    Referenced.change Announced.refl Announced.trans Announced.of_change
    sound

end FlashTicketing
