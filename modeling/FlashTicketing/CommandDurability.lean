import FlashTicketing.PostgresInvariant
import FlashTicketing.RedisFirstEffects

namespace FlashTicketing

open Relational Checked Transition

/-!
# Commands are persisted completely or not at all

The identifiers of a command are drawn by the intake, so that only its own
`persist_reservation_command` can store them.  Of every issued command the
database has either no trace or the whole reservation, and it keeps the latter.
-/

variable {Hash : Type}

/-! ## Traces and reservations -/

/-- The row claims an identifier of the command. -/
def CommandPayload.ClaimedBy
    (payload : CommandPayload Hash)
    (row : ReservationCommand Hash) : Prop :=
  row.commandId = payload.commandId ∨
    row.holdId = payload.holdId ∨ row.orderId = payload.orderId

/-- The stored response names the hold of the command. -/
def CommandPayload.NamedBy
    (payload : CommandPayload Hash)
    (record : IdempotencyRecord Hash) : Prop :=
  record.response.bind Response.holdId? = some payload.holdId

/-- No command row, hold, order or stored response has the command's ids. -/
structure Untraced (db : Database Hash) (payload : CommandPayload Hash) :
    Prop where
  command : ∀ row ∈ db.reservationCommands, ¬ payload.ClaimedBy row
  hold : db.holds.find? payload.holdId = none
  order : db.orders.find? payload.orderId = none
  record : ∀ record ∈ db.idempotencyRecords, ¬ payload.NamedBy record

/--
Exactly one command row, hold, order, item for each seat and idempotency record
exist for the command, with the identifiers that the intake returned.
-/
structure Durable (db : Database Hash) (payload : CommandPayload Hash) :
    Prop where
  command :
    db.reservationCommands.Sole payload.ClaimedBy fun row =>
      ∃ response,
        row = payload.row response ∧
          response.ids = (some payload.holdId, payload.orderId, none)
  hold :
    db.holds.Sole (fun hold => hold.id = payload.holdId) fun hold =>
      ∃ status, hold = { payload.hold with status := status }
  order :
    db.orders.Sole
      (fun order =>
        order.id = payload.orderId ∨ order.holdId = payload.holdId)
      fun order =>
        order.id = payload.orderId ∧
          order.holdId = payload.holdId ∧
          order.actor = payload.actor ∧
          order.eventId = payload.eventId
  items :
    ∀ seatId ∈ payload.seatIds,
      db.orderItems.Sole
        (fun item =>
          item.orderId = payload.orderId ∧ item.seatId = seatId)
        fun item => item.eventId = payload.eventId
  noOtherItem :
    ∀ item ∈ db.orderItems,
      item.orderId = payload.orderId →
      item.seatId ∈ payload.seatIds
  record :
    db.idempotencyRecords.Sole payload.NamedBy fun record =>
      Keyed.key record =
          (payload.actor, Operation.hold, payload.idempotencyKey) ∧
        record.requestHash = payload.requestHash ∧
        ∃ response,
          record.response = some response ∧
            response.ids = (some payload.holdId, payload.orderId, none)

/-! ## What transactions keep -/

/-- Holds and orders stay up to their status, with the items of the orders. -/
structure ReservationsKept (db after : Database Hash) : Prop where
  holds :
    ∀ {id hold},
      db.holds.find? id = some hold →
      ∃ status,
        after.holds.find? id = some { hold with status := status }
  orders :
    ∀ {id order},
      db.orders.find? id = some order →
      ∃ status,
        after.orders.find? id = some { order with status := status }
  items :
    ∀ {item},
      db.orders.find? item.orderId ≠ none →
      (item ∈ after.orderItems ↔ item ∈ db.orderItems)

namespace ReservationsKept

theorem refl (db : Database Hash) : ReservationsKept db db :=
  ⟨fun found => ⟨_, found⟩, fun found => ⟨_, found⟩, fun _ => Iff.rfl⟩

theorem trans
    {first second third : Database Hash}
    (early : ReservationsKept first second)
    (late : ReservationsKept second third) :
    ReservationsKept first third := by
  refine ⟨?_, ?_, ?_⟩
  · intro id hold found
    obtain ⟨_, middle⟩ := early.holds found
    obtain ⟨status, last⟩ := late.holds middle
    exact ⟨status, last⟩
  · intro id order found
    obtain ⟨_, middle⟩ := early.orders found
    obtain ⟨status, last⟩ := late.orders middle
    exact ⟨status, last⟩
  · intro item present
    obtain ⟨order, found⟩ := Option.ne_none_iff_exists'.mp present
    obtain ⟨_, middle⟩ := early.orders found
    exact (late.items (by simp [middle])).trans (early.items present)

theorem of_revised
    {holdStatus : Hold → HoldStatus}
    {orderStatus : Order → OrderStatus}
    {reseat : EventSeat → EventSeat}
    {db after : Database Hash}
    (revised : Revised holdStatus orderStatus reseat db after) :
    ReservationsKept db after := by
  refine ⟨fun found => ⟨_, revised.hold_after found⟩,
    fun found => ⟨_, revised.order_after found⟩, ?_⟩
  intro item _
  rw [revised.items]

theorem of_placed
    {now : Int}
    {hold : Hold}
    {order : Order}
    {rows : List EventSeat}
    {seats : List SeatId}
    {announcement : Uuid}
    {db after : Database Hash}
    (placed : Placed now hold order rows seats announcement db after) :
    ReservationsKept db after := by
  refine ⟨fun found => ⟨_, placed.hold_after found⟩,
    fun found => ⟨_, placed.order_after found⟩, ?_⟩
  intro item present
  rw [placed.itemsAdded]
  constructor
  · rintro (old | ⟨row, _, rfl⟩)
    · exact old
    · exact absurd placed.orderFresh present
  · exact Or.inl

theorem of_change
    {now : Int}
    {db after : Database Hash}
    (change : Change now db after) :
    ReservationsKept db after := by
  cases change with
  | placed _ _ _ _ _ placed => exact of_placed placed
  | bookkeeping | released | paymentOpened | booked | refunded | failed
  | noted | fulfilled | refundCompleted =>
      apply of_revised
      assumption

theorem of_changes
    {now : Int}
    {db after : Database Hash}
    (changes : Changes now db after) :
    ReservationsKept db after :=
  Changes.relates (fun _ => True) changes (fun _ _ => trivial) refl trans
    (fun _ => of_change) trivial

end ReservationsKept

/-- A transaction that stores no identifier of the command. -/
structure Respects
    (payload : CommandPayload Hash)
    (db after : Database Hash) : Prop where
  kept : ReservationsKept db after
  hold :
    db.holds.find? payload.holdId = none →
    after.holds.find? payload.holdId = none
  order :
    db.orders.find? payload.orderId = none →
    after.orders.find? payload.orderId = none
  command :
    ∀ row,
      payload.ClaimedBy row →
      (row ∈ after.reservationCommands ↔ row ∈ db.reservationCommands)
  record :
    ∀ record,
      payload.NamedBy record →
      (record ∈ after.idempotencyRecords ↔ record ∈ db.idempotencyRecords)

namespace Respects

variable
  {payload : CommandPayload Hash}
  {db after : Database Hash}

theorem refl (payload : CommandPayload Hash) (db : Database Hash) :
    Respects payload db db :=
  ⟨.refl db, id, id, fun _ _ => Iff.rfl, fun _ _ => Iff.rfl⟩

theorem untraced
    (respects : Respects payload db after)
    (absent : Untraced db payload) :
    Untraced after payload := by
  refine ⟨?_, respects.hold absent.hold, respects.order absent.order, ?_⟩
  · intro row member claims
    exact absent.command row ((respects.command row claims).mp member)
      claims
  · intro record member names
    exact absent.record record ((respects.record record names).mp member)
      names

theorem durable
    (respects : Respects payload db after)
    (references : Referenced after)
    (stored : Durable db payload) :
    Durable after payload := by
  obtain ⟨order, orderMember, orderClaims, orderFacts, _⟩ := stored.order
  have orderFound : db.orders.find? payload.orderId = some order := by
    rw [← orderFacts.1]
    exact Table.find?_key orderMember
  obtain ⟨status, orderLater⟩ := respects.kept.orders orderFound
  have sameItems :
      ∀ {item : OrderItem},
        item.orderId = payload.orderId →
        (item ∈ after.orderItems ↔ item ∈ db.orderItems) := by
    intro item owned
    exact respects.kept.items (by simp [owned, orderFound])
  refine ⟨stored.command.congr respects.command, ?_, ?_, ?_, ?_,
    stored.record.congr respects.record⟩
  · obtain ⟨hold, member, isHold, ⟨oldStatus, rfl⟩, _⟩ := stored.hold
    have found :
        db.holds.find? payload.holdId =
          some { payload.hold with status := oldStatus } :=
      Table.find?_key member
    obtain ⟨newStatus, later⟩ := respects.kept.holds found
    refine ⟨_, Table.mem_of_find? later, rfl, ⟨newStatus, rfl⟩, ?_⟩
    intro other otherMember sameId
    exact Table.eq_of_key_eq otherMember (Table.mem_of_find? later) sameId
  · refine ⟨_, Table.mem_of_find? orderLater, Or.inl orderFacts.1,
      orderFacts, ?_⟩
    intro other otherMember claims
    have otherFound := Table.find?_key otherMember
    refine Table.eq_of_key_eq otherMember (Table.mem_of_find? orderLater) ?_
    rcases claims with sameId | sameHold
    · exact sameId.trans orderFacts.1.symm
    · exact (references.holdUnique otherFound orderLater
        (sameHold.trans orderFacts.2.1.symm)).trans orderFacts.1.symm
  · intro seatId wanted
    exact (stored.items seatId wanted).congr fun item claims =>
      sameItems claims.1
  · intro item member owned
    exact stored.noOtherItem item ((sameItems owned).mp member) owned

/-- A call without a key. -/
theorem of_untouched
    (kept : ReservationsKept db after)
    (same : Untouched db after) :
    Respects payload db after := by
  refine ⟨kept, ?_, ?_, ?_, ?_⟩
  · intro absent
    have present := same.holds payload.holdId
    rw [absent] at present
    simpa using present
  · intro absent
    have present := same.orders payload.orderId
    rw [absent] at present
    simpa using present
  · intro row _
    rw [same.commands]
  · intro record _
    rw [same.records]

/-- A new record that names another hold, or none. -/
theorem record_of_claimed
    {digest : Request → Hash}
    {key : RecordKey}
    {request : Request}
    {response : Response}
    (claimed : Claimed digest key request response db after)
    (other : response.holdId? ≠ some payload.holdId)
    (record : IdempotencyRecord Hash)
    (names : payload.NamedBy record) :
    record ∈ after.idempotencyRecords ↔ record ∈ db.idempotencyRecords := by
  have rows :
      ∀ row,
        row ∈ after.idempotencyRecords ↔
          row ∈ db.idempotencyRecords ∨
            row = {
              actor := key.1
              operation := key.2.1
              key := key.2.2
              requestHash := digest request
              response := some response } :=
    Table.mem_of_gained claimed.unused claimed.records
  rw [rows]
  constructor
  · rintro (old | rfl)
    · exact old
    · exact absurd names other
  · exact Or.inl

/-- A call of the store that claims its key and may place a hold. -/
theorem of_claimed
    {digest : Request → Hash}
    {key : RecordKey}
    {request : Request}
    {response : Response}
    (kept : ReservationsKept db after)
    (claimed : Claimed digest key request response db after)
    (other : response.holdId? ≠ some payload.holdId)
    (commands :
      ∀ row,
        payload.ClaimedBy row →
        (row ∈ after.reservationCommands ↔ row ∈ db.reservationCommands))
    (holds :
      after.holds.find? payload.holdId = db.holds.find? payload.holdId)
    (orders :
      after.orders.find? payload.orderId =
        db.orders.find? payload.orderId) :
    Respects payload db after :=
  ⟨kept, fun absent => holds.trans absent,
    fun absent => orders.trans absent, commands,
    record_of_claimed claimed other⟩

end Respects

/-! ## The command's own call -/

/-- A placed hold has a row for each of its seats. -/
theorem Placed.seat_listed
    {now : Int}
    {hold : Hold}
    {order : Order}
    {rows : List EventSeat}
    {seats : List SeatId}
    {announcement : Uuid}
    {db after : Database Hash}
    (placed : Placed now hold order rows seats announcement db after)
    {seatId : SeatId}
    (wanted : seatId ∈ seats) :
    ∃ row ∈ rows, row.seatId = seatId := by
  have nodup : (rows.map EventSeat.seatId).Nodup := by
    refine (List.nodup_map_iff_inj_on placed.rowsNodup.of_map).mpr ?_
    intro first firstMember second secondMember sameSeat
    refine List.inj_on_of_nodup_map placed.rowsNodup firstMember
      secondMember (Prod.ext ?_ sameSeat)
    exact (placed.rowsExact.mp firstMember).2.1.trans
      (placed.rowsExact.mp secondMember).2.1.symm
  have listed : rows.map EventSeat.seatId ⊆ seats := by
    intro other member
    obtain ⟨row, rowMember, rfl⟩ := List.mem_map.mp member
    exact (placed.rowsExact.mp rowMember).2.2
  have sameSeats : (rows.map EventSeat.seatId).Perm seats :=
    (nodup.subperm listed).perm_of_length_le
      (by simp [placed.rowsFound])
  exact List.mem_map.mp (sameSeats.mem_iff.mpr wanted)

/-- A command that left no trace is stored completely by its call. -/
theorem durable_of_persisted
    {digest : Request → Hash}
    {now : Int}
    {payload : CommandPayload Hash}
    {response : Response}
    {order : Order}
    {rows : List EventSeat}
    {announcement : Uuid}
    {db after : Database Hash}
    (references : Referenced db)
    (referencesAfter : Referenced after)
    (absent : Untraced db payload)
    (honest : digest payload.request = payload.requestHash)
    (claimed :
      Claimed digest (payload.actor, .hold, payload.idempotencyKey)
        payload.request response db after)
    (orderActor : order.actor = payload.actor)
    (orderId : order.id = payload.orderId)
    (placed :
      Placed now payload.hold order rows (sortedSeats payload.seatIds)
        announcement db after)
    (commands :
      ∀ id,
        after.reservationCommands.find? id =
          if id = payload.commandId then
            some (payload.row response)
          else
            db.reservationCommands.find? id)
    (ids :
      response.ids = (some payload.holdId, payload.orderId, none)) :
    Durable after payload := by
  have newItem :
      ∀ {item},
        item ∈ after.orderItems →
        item.orderId = payload.orderId →
        ∃ row ∈ rows, itemOf order payload.hold row = item := by
    intro item member owned
    rcases placed.itemsAdded.mp member with old | isNew
    · exact absurd (owned.trans orderId.symm)
        (placed.item_old references old)
    · exact isNew
  refine ⟨?_, ?_, ?_, ?_, ?_, ?_⟩
  · have found :
        after.reservationCommands.find? payload.commandId =
          some (payload.row response) := by
      rw [commands, if_pos rfl]
    refine ⟨_, Table.mem_of_find? found, Or.inl rfl,
      ⟨response, rfl, ids⟩, ?_⟩
    intro other member claims
    have otherFound := Table.find?_key member
    rw [commands] at otherFound
    split at otherFound
    · exact (Option.some.inj otherFound).symm
    · exact absurd claims
        (absent.command other (Table.mem_of_find? otherFound))
  · refine ⟨payload.hold, Table.mem_of_find? placed.hold_stored, rfl,
      ⟨.active, rfl⟩, ?_⟩
    intro other member sameId
    exact Table.eq_of_key_eq member
      (Table.mem_of_find? placed.hold_stored) sameId
  · refine ⟨order, Table.mem_of_find? placed.order_stored,
      Or.inl orderId,
      ⟨orderId, placed.orderHold, orderActor, placed.orderEvent⟩, ?_⟩
    intro other member claims
    refine Table.eq_of_key_eq member
      (Table.mem_of_find? placed.order_stored) ?_
    rcases claims with sameId | sameHold
    · exact sameId.trans orderId.symm
    · exact referencesAfter.holdUnique (Table.find?_key member)
        placed.order_stored (sameHold.trans placed.orderHold.symm)
  · intro seatId wanted
    obtain ⟨row, rowMember, rfl⟩ :=
      placed.seat_listed (mem_sortedSeats.mpr wanted)
    have stored : itemOf order payload.hold row ∈ after.orderItems :=
      placed.itemsAdded.mpr (Or.inr ⟨row, rowMember, rfl⟩)
    refine ⟨_, stored, ⟨orderId, rfl⟩, rfl, ?_⟩
    intro other member claims
    exact Table.eq_of_key_eq member stored
      (Prod.ext (claims.1.trans orderId.symm) claims.2)
  · intro item member owned
    obtain ⟨row, rowMember, rfl⟩ := newItem member owned
    exact mem_sortedSeats.mp (placed.rowsExact.mp rowMember).2.2
  · have found :=
      (claimed.records
        (payload.actor, .hold, payload.idempotencyKey)).trans (if_pos rfl)
    have named : response.holdId? = some payload.holdId :=
      congrArg Prod.fst ids
    refine ⟨_, Table.mem_of_find? found, named,
      ⟨rfl, honest, response, rfl, ids⟩, ?_⟩
    intro other member names
    have otherFound := Table.find?_key member
    rw [claimed.records] at otherFound
    split at otherFound
    · exact (Option.some.inj otherFound).symm
    · exact absurd names
        (absent.record other (Table.mem_of_find? otherFound))

/-! ## Transactions -/

section Transactions

variable
  [DecidableEq Hash]
  {self : PostgresReservations Hash}
  {db after : Database Hash}
  {label : Answered Hash}

namespace PostgresReservations.AnsweredStep

theorem reservationsKept
    (step : self.AnsweredStep db label after) :
    ReservationsKept db after :=
  .of_changes (changes_of_step step.step)

theorem referenced
    (step : self.AnsweredStep db label after)
    (references : Referenced db) :
    Referenced after :=
  step_invariant Referenced.change references step.step

theorem responded
    (step : self.AnsweredStep db label after)
    (responded : Responded db) :
    Responded after := by
  rcases step.cases responded with
    ⟨_, rfl⟩ | ⟨_, _, _, _, answers⟩ | ⟨_, same⟩
  · exact responded
  · cases answers with
    | replayed _ _ _ _ _ _ _ _ _ unchanged =>
        rw [unchanged]
        exact responded
    | recalled _ _ _ _ _ _ _ _ unchanged =>
        rw [unchanged]
        exact responded
    | claimed _ _ _ _ claimed => exact claimed.responded responded
    | persisted _ _ _ _ _ _ _ _ claimed => exact claimed.responded responded
  · intro key record found
    rw [same.records] at found
    exact responded found

/-- A call of the store draws other identifiers. -/
theorem respects_of_other
    {payload : CommandPayload Hash}
    (step : self.AnsweredStep db label after)
    (isResponded : Responded db)
    (other : label.call.isPersist = false)
    (undrawn :
      ∀ draw,
        label.ambient.uuid4 draw ≠ payload.holdId ∧
          label.ambient.uuid4 draw ≠ payload.orderId) :
    Respects payload db after := by
  have kept := step.reservationsKept
  rcases step.cases isResponded with
    ⟨_, rfl⟩ | ⟨_, _, _, _, answers⟩ | ⟨_, same⟩
  · exact .refl payload _
  · cases answers with
    | replayed _ _ _ _ _ _ _ _ _ unchanged =>
        rw [unchanged]
        exact .refl payload db
    | recalled _ _ _ _ _ _ _ _ unchanged =>
        rw [unchanged]
        exact .refl payload db
    | claimed key request _ _ claimed commands holds =>
        have sameCommands :
            ∀ row : ReservationCommand Hash,
              payload.ClaimedBy row →
              (row ∈ after.reservationCommands ↔
                row ∈ db.reservationCommands) := by
          intro row _
          rw [commands]
        rcases holds with ⟨sameHolds, sameOrders, noHold⟩ |
          ⟨hold, order, rows, seats, _, drawnHold, drawnOrder, isHold, _,
            placed⟩
        · exact .of_claimed kept claimed (by simp [noHold]) sameCommands
            (by rw [sameHolds]) (by rw [sameOrders])
        · refine .of_claimed kept claimed ?_ sameCommands ?_ ?_
          · rw [isHold, drawnHold]
            exact fun same => (undrawn 0).1 (Option.some.inj same)
          · rw [placed.holds, if_neg]
            rw [drawnHold]
            exact (undrawn 0).1.symm
          · rw [placed.orders, if_neg]
            rw [drawnOrder]
            exact (undrawn 1).2.symm
    | persisted _ _ _ _ _ _ called =>
        rw [called] at other
        cases other
  · exact .of_untouched kept same

/-- The call of one command stores no identifier of another. -/
theorem respects_of_persist
    {payload own : CommandPayload Hash}
    {reply : CommandResponse}
    (step : self.AnsweredStep db label after)
    (isResponded : Responded db)
    (called : label.call = .persistReservationCommand own reply)
    (ownReply : reply.holdId = own.holdId)
    (different :
      own.commandId ≠ payload.commandId ∧
        own.holdId ≠ payload.holdId ∧ own.orderId ≠ payload.orderId) :
    Respects payload db after := by
  have kept := step.reservationsKept
  rcases step.cases isResponded with
    ⟨_, rfl⟩ | ⟨_, _, _, _, answers⟩ | ⟨unkeyed, _⟩
  · exact .refl payload _
  · cases answers with
    | replayed _ _ _ _ _ _ _ _ _ unchanged =>
        rw [unchanged]
        exact .refl payload db
    | recalled _ _ _ _ _ _ _ _ unchanged =>
        rw [unchanged]
        exact .refl payload db
    | claimed _ _ _ _ _ _ _ direct =>
        rw [called] at direct
        cases direct
    | persisted other otherReply hold order rows _ otherCalled _ claimed
        isHold _ orderId placed unrecorded commands replyIds =>
        rw [called] at otherCalled
        cases otherCalled
        subst isHold
        refine .of_claimed kept claimed ?_ ?_ ?_ ?_
        · have named := congrArg Prod.fst replyIds
          dsimp only [Response.ids] at named
          rw [named, ownReply]
          exact fun same => different.2.1 (Option.some.inj same)
        · intro row claims
          have rows :
              ∀ other,
                other ∈ after.reservationCommands ↔
                  other ∈ db.reservationCommands ∨ other = own.row _ :=
            Table.mem_of_gained unrecorded commands
          rw [rows]
          constructor
          · rintro (old | rfl)
            · exact old
            · rcases claims with same | same | same
              · exact absurd same different.1
              · exact absurd same different.2.1
              · exact absurd same different.2.2
          · exact Or.inl
        · rw [placed.holds, if_neg]
          exact different.2.1.symm
        · rw [placed.orders, if_neg]
          rw [orderId]
          exact different.2.2.symm
  · rw [called] at unkeyed
    cases unkeyed

/-- A command whose call returns is stored completely. -/
theorem durable_of_persist
    {payload : CommandPayload Hash}
    {reply : CommandResponse}
    {result : Result}
    (step : self.AnsweredStep db label after)
    (isResponded : Responded db)
    (references : Referenced db)
    (called : label.call = .persistReservationCommand payload reply)
    (ownReply :
      reply.holdId = payload.holdId ∧ reply.orderId = payload.orderId)
    (complete : Untraced db payload ∨ Durable db payload)
    (returned : label.answer = .ok result) :
    Durable after payload := by
  have referencesAfter := step.referenced references
  rcases step.cases isResponded with
    ⟨⟨_, failed⟩, _⟩ | ⟨_, response, _, _, answers⟩ | ⟨unkeyed, _⟩
  · rw [failed] at returned
    cases returned
  · cases answers with
    | replayed _ _ record _ _ found _ stored sameIds unchanged =>
        rw [unchanged]
        refine complete.resolve_left fun absent => ?_
        refine absent.record record (Table.mem_of_find? found) ?_
        rw [CommandPayload.NamedBy, stored]
        exact (sameIds called).1
    | recalled other otherReply row otherCalled _ found _ _ unchanged =>
        rw [called] at otherCalled
        cases otherCalled
        rw [unchanged]
        refine complete.resolve_left fun absent => ?_
        exact absent.command row (Table.mem_of_find? found)
          (Or.inl (Table.key_of_find? found))
    | claimed _ _ _ _ _ _ _ direct =>
        rw [called] at direct
        cases direct
    | persisted other otherReply hold order rows _ otherCalled honest
        claimed isHold orderActor orderId placed unrecorded commands
        replyIds =>
        rw [called] at otherCalled
        cases otherCalled
        subst isHold
        rw [ownReply.1, ownReply.2] at replyIds
        rcases complete with absent | stored
        · exact durable_of_persisted references referencesAfter absent
            honest claimed orderActor orderId placed commands replyIds
        · obtain ⟨row, member, _, ⟨_, rfl, _⟩, _⟩ := stored.command
          have found := Table.find?_key member
          exact absurd (unrecorded.symm.trans found) nofun
  · rw [called] at unkeyed
    cases unkeyed

end PostgresReservations.AnsweredStep

/-- A stored command is answered from its row. -/
theorem Durable.persist_isOk
    {payload : CommandPayload Hash}
    {reply : CommandResponse}
    {ambient : Ambient}
    (stored : Durable db payload)
    (honest : self.digest payload.request = payload.requestHash) :
    ∃ result,
      self.transaction (.persistReservationCommand payload reply) ambient
        db = (.ok result, db) := by
  obtain ⟨row, member, _, ⟨response, rfl, _⟩, _⟩ := stored.command
  have found :
      db.reservationCommands.find? payload.commandId =
        some (payload.row response) :=
    Table.find?_key member
  have answered :
      self.persistReservationCommand payload reply ambient db =
        .ok (response, db) := by
    rw [PostgresReservations.persistReservationCommand,
      ensure_bind_of_true honest, found]
    exact ensure_bind_of_true rfl _
  refine ⟨.response response, ?_⟩
  rw [PostgresReservations.transaction, PostgresReservations.body, answered]
  rfl

end Transactions

/-! ## The invariant of the system -/

/-- Every issued command is stored completely or not at all. -/
structure World.Sound
    (intake : RedisReservationIntake Hash)
    (world : World Hash) : Prop where
  linked : world.Linked intake
  references : Referenced world.db
  responded : Responded world.db
  complete :
    ∀ {eventId commandId payload response},
      world.redis.issue? eventId commandId = some (payload, response) →
      Untraced world.db payload ∨ Durable world.db payload

namespace World

/-- The database has no trace of a new command. -/
theorem Unissued.untraced
    {world : World Hash}
    {command : NewCommand}
    (unissued : world.Unissued command)
    (intake : RedisReservationIntake Hash) :
    Untraced world.db (intake.payload command) := by
  refine ⟨?_, unissued.holdId.hold, unissued.orderId.order, ?_⟩
  · rintro row member (sameId | sameHold | sameOrder)
    · exact (unissued.commandId.command row member).1 sameId
    · exact (unissued.holdId.command row member).2.1 sameHold
    · exact (unissued.orderId.command row member).2.2 sameOrder
  · exact unissued.holdId.record

theorem Initial.sound
    {world : World Hash}
    (initial : world.Initial)
    (intake : RedisReservationIntake Hash) :
    world.Sound intake := by
  refine ⟨initial.linked intake, initial.db.referenced, ?_, ?_⟩
  · intro key record found
    rw [initial.db.fresh] at found
    cases found
  · intro eventId commandId payload response isIssued
    rw [initial.redis] at isIssued
    cases isIssued

variable
  [DecidableEq Hash]
  {self : PostgresReservations Hash}
  {intake : RedisReservationIntake Hash}
  {world after : World Hash}
  {action : Action Hash}

/--
A step stores no identifier of an issued command, unless it is the successful
call of a writer that has the command.
-/
theorem Sound.respects_or_persisted
    {eventId commandId : Uuid}
    {payload : CommandPayload Hash}
    {response : CommandResponse}
    (sound : world.Sound intake)
    (step : Step self intake world action after)
    (isIssued :
      world.redis.issue? eventId commandId = some (payload, response)) :
    Respects payload world.db after.db ∨
    ∃ slot writer ambient result,
      world.writers slot = some writer ∧
        action = .persist slot ambient ∧
        writer.entry.payload = payload ∧
        self.transaction writer.call ambient world.db =
          (.ok result, after.db) ∧
        Durable after.db payload := by
  rcases step.db_cases with
    same | ⟨label, other, undrawn, answered⟩ |
    ⟨slot, writer, ambient, answer, working, isPersist, answered⟩
  · rw [same]
    exact Or.inl (.refl payload world.db)
  · obtain ⟨command, found, isCommand⟩ := Option.map_eq_some_iff.mp isIssued
    cases isCommand
    exact Or.inl (answered.respects_of_other sound.responded other
      (undrawn command (Table.mem_of_find? found)))
  · have writerIssue := sound.linked.writer_issue working
    obtain ⟨_, writerId, writerHold, writerOrder, _⟩ :=
      sound.linked.issue_ids writerIssue
    obtain ⟨_, payloadId, _⟩ := sound.linked.issue_ids isIssued
    by_cases same :
        writer.entry.payload.commandId = payload.commandId ∨
          writer.entry.payload.holdId = payload.holdId ∨
          writer.entry.payload.orderId = payload.orderId
    · have sameKey :=
        sound.linked.distinct writerIssue isIssued
          (by rwa [← writerId, ← payloadId])
      have complete := sound.complete isIssued
      rw [sameKey.1, sameKey.2, isIssued] at writerIssue
      cases writerIssue
      cases answer with
      | error error =>
          rcases answered.cases sound.responded with
            ⟨_, unchanged⟩ | ⟨_, _, _, returned, _⟩ | ⟨unkeyed, _⟩
          · rw [unchanged]
            exact Or.inl (.refl _ world.db)
          · cases returned
          · cases unkeyed
      | ok result =>
          exact Or.inr ⟨slot, writer, ambient, result, working, isPersist,
            rfl, answered, answered.durable_of_persist sound.responded
              sound.references rfl ⟨writerHold, writerOrder⟩ complete rfl⟩
    · rw [not_or, not_or] at same
      exact Or.inl (answered.respects_of_persist sound.responded rfl
        writerHold same)

theorem Sound.references_after
    (sound : world.Sound intake)
    (step : Step self intake world action after) :
    Referenced after.db := by
  rcases step.db_cases with
    same | ⟨_, _, _, answered⟩ | ⟨_, _, _, _, _, _, answered⟩
  · rw [same]
    exact sound.references
  · exact answered.referenced sound.references
  · exact answered.referenced sound.references

/-- A stored command stays stored. -/
theorem Sound.durable_after
    {eventId commandId : Uuid}
    {payload : CommandPayload Hash}
    {response : CommandResponse}
    (sound : world.Sound intake)
    (step : Step self intake world action after)
    (isIssued :
      world.redis.issue? eventId commandId = some (payload, response))
    (stored : Durable world.db payload) :
    Durable after.db payload := by
  rcases sound.respects_or_persisted step isIssued with
    respects | ⟨_, _, _, _, _, _, _, _, durable⟩
  · exact respects.durable (sound.references_after step) stored
  · exact durable

theorem Sound.step
    (sound : world.Sound intake)
    (step : Step self intake world action after) :
    after.Sound intake := by
  refine ⟨sound.linked.step step, sound.references_after step, ?_, ?_⟩
  · rcases step.db_cases with
      same | ⟨_, _, _, answered⟩ | ⟨_, _, _, _, _, _, answered⟩
    · intro key record found
      rw [same] at found
      exact sound.responded found
    · exact answered.responded sound.responded
    · exact answered.responded sound.responded
  · intro eventId commandId payload response isIssued
    rcases step.calm_or_accepted with
      calm | ⟨command, now, sale, version, selected, unissued, _, _, rfl⟩
    · rw [calm.issue] at isIssued
      rcases sound.respects_or_persisted step isIssued with
        respects | ⟨_, _, _, _, _, _, _, _, durable⟩
      · exact (sound.complete isIssued).imp respects.untraced
          (respects.durable (sound.references_after step))
      · exact Or.inr durable
    · rw [issue?_accepted] at isIssued
      split at isIssued
      · cases isIssued
        exact Or.inl (unissued.untraced intake)
      · exact sound.complete isIssued

end World

end FlashTicketing
