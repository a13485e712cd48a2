import FlashTicketing.DirtySeats
import FlashTicketing.MapMirror
import FlashTicketing.SeatAnnouncements

namespace FlashTicketing

open Relational Checked Transition

/-!
# The projection converges

When every announcement is consumed and every refresh request is completed, a
readable map shows the rows of its event.  Until then every changed row has an
announcement that waits, or a request after which each read has the row as it is
now.
-/

variable {Hash : Type}

/-- Reads have the rows as they are. -/
theorem Projection.ReadFrom.version_eq
    {db : Database Hash}
    {projection : Projection}
    {place : Place}
    {row : EventSeat}
    {state : SeatState}
    (read : projection.ReadFrom db)
    (found : db.eventSeats.find? place = some row)
    (sameEvent : projection.eventId = place.1)
    (member : state ∈ projection.rows)
    (sameSeat : state.seatId = place.2) :
    state.sourceVersion = row.version := by
  have current :
      ∃ seat,
        db.eventSeats.find? (projection.eventId, state.seatId) = some seat ∧
          seatState seat = state := by
    cases read with
    | full => exact mem_snapshotRows.mp member
    | patch => exact (mem_changedRows.mp member).1
  obtain ⟨seat, foundSeat, rfl⟩ := current
  rw [sameEvent, sameSeat] at foundSeat
  rw [found] at foundSeat
  cases foundSeat
  rfl

namespace RefreshWorld

/-! ## Reads in flight -/

/-- A worker or a projector has read this and not yet put it. -/
inductive InFlight (world : RefreshWorld Hash) (projection : Projection) :
    Prop where
  | worker
      (slot : Nat)
      (worker : RefreshWorker)
      (recorded : Nat)
      (working : world.workers slot = some worker)
      (holding : worker.reading = .read projection recorded)
  | projector
      (slot : Nat)
      (holding : world.projectors slot = some projection)

theorem projectors_setProjector
    {world : RefreshWorld Hash}
    {slot other : Nat}
    {projection? : Option Projection}
    {projection : Projection}
    (holding :
      (world.setProjector slot projection?).projectors other =
        some projection) :
    projection? = some projection ∨
      world.projectors other = some projection := by
  simp only [setProjector, Function.update_apply] at holding
  split at holding
  · exact Or.inl holding
  · exact Or.inr holding

theorem maps_setMap
    {world : RefreshWorld Hash}
    (eventId other : Uuid)
    (map : SeatMap) :
    (world.setMap eventId map).maps other =
      if other = eventId then map else world.maps other :=
  Function.update_apply _ _ _ _

/-- The commands of a script, or the first of them. -/
theorem putBy_take
    {projection : Projection}
    {incarnation : Uuid}
    {maps : Uuid → SeatMap}
    {writes : List HashWrite}
    (accepted : projection.script incarnation maps = some writes)
    (commands : Nat) :
    (maps projection.eventId).perform (writes.take commands) =
        maps projection.eventId ∨
      SeatMap.PutBy projection (maps projection.eventId)
        ((maps projection.eventId).perform (writes.take commands)) := by
  rcases SeatMap.perform_take accepted commands with
    nothing | everything | ⟨updating, entries, written, seats⟩
  · exact Or.inl nothing
  · exact Or.inr (.complete incarnation everything)
  · exact Or.inr (.interrupted _ entries updating written seats)

variable
  [DecidableEq Hash]
  {self : PostgresReservations Hash}
  {world after : RefreshWorld Hash}
  {action : RefreshAction Hash}

/-- What is in flight was in flight before or is read now. -/
theorem Step.inFlight_before
    {projection : Projection}
    (step : Step self world action after)
    (inFlight : after.InFlight projection) :
    world.InFlight projection ∨ projection.ReadFrom world.db := by
  cases inFlight with
  | worker slot worker recorded working holding =>
      cases step with
      | read _ _ readFor =>
          rcases workers_setWorker working with isNew | old
          · cases isNew
            cases holding
            exact Or.inr readFor.readFrom
          · exact Or.inl (.worker slot worker recorded old holding)
      | claim | put | refuse | fail | acknowledge | crash =>
          rcases workers_setWorker working with isNew | old
          · cases isNew <;> cases holding
          · exact Or.inl (.worker slot worker recorded old holding)
      | transact | attempt | project | putProjection | attemptProjection
      | abandon | loseMap =>
          exact Or.inl (.worker slot worker recorded working holding)
  | projector slot holding =>
      cases step with
      | project _ read =>
          rcases projectors_setProjector holding with isNew | old
          · cases isNew
            exact Or.inr read
          · exact Or.inl (.projector slot old)
      | putProjection | abandon =>
          rcases projectors_setProjector holding with isNew | old
          · cases isNew
          · exact Or.inl (.projector slot old)
      | transact | claim | read | put | refuse | attempt | fail
      | acknowledge | crash | attemptProjection | loseMap =>
          exact Or.inl (.projector slot holding)

/-- A map changes by a `PUT` of something in flight, or is lost. -/
theorem Step.maps_cases
    (step : Step self world action after)
    (eventId : Uuid) :
    after.maps eventId = world.maps eventId ∨
    (∃ projection,
      world.InFlight projection ∧
        projection.eventId = eventId ∧
        SeatMap.PutBy projection (world.maps eventId)
          (after.maps eventId)) ∨
    action = .loseMap eventId := by
  -- All `PUT`s replace one map by what the script makes of it.
  have put
      {projection : Projection}
      {map : SeatMap}
      (inFlight : world.InFlight projection)
      (isMap :
        after.maps eventId = (world.setMap projection.eventId map).maps eventId)
      (putBy :
        map = world.maps projection.eventId ∨
          SeatMap.PutBy projection (world.maps projection.eventId) map) :
      after.maps eventId = world.maps eventId ∨
      (∃ projection,
        world.InFlight projection ∧
          projection.eventId = eventId ∧
          SeatMap.PutBy projection (world.maps eventId)
            (after.maps eventId)) ∨
      action = .loseMap eventId := by
    rw [maps_setMap] at isMap
    split at isMap
    · rename_i same
      subst same
      rcases putBy with unchanged | putBy
      · exact Or.inl (isMap.trans unchanged)
      · rw [isMap]
        exact Or.inr (Or.inl ⟨projection, inFlight, rfl, putBy⟩)
    · exact Or.inl isMap
  cases step with
  | @put slot incarnation worker row rest projection recorded writes working
      pending holding accepted =>
      refine put (.worker slot worker recorded working holding) rfl
        (Or.inr (.complete incarnation ?_))
      have put :
          (world.maps projection.eventId).put (projection.mode incarnation)
              projection.rows =
            some writes := accepted
      rw [SeatMap.afterPut, put]
  | @attempt slot incarnation commands worker projection recorded writes
      working holding accepted =>
      exact put (.worker slot worker recorded working holding) rfl
        (putBy_take accepted commands)
  | @putProjection slot incarnation projection holding =>
      exact put (.projector slot holding) rfl
        (Or.inr (.complete incarnation rfl))
  | @attemptProjection slot incarnation commands projection writes holding
      accepted =>
      exact put (.projector slot holding) rfl
        (putBy_take accepted commands)
  | @loseMap lost =>
      by_cases same : eventId = lost
      · subst same
        exact Or.inr (Or.inr rfl)
      · rw [maps_setMap, if_neg same]
        exact Or.inl rfl
  | transact | claim | read | refuse | fail | acknowledge | crash | project
  | abandon =>
      exact Or.inl rfl

/-- Only transactions write more than refresh requests. -/
theorem Step.db_cases
    (step : Step self world action after) :
    (∃ call ambient,
      action = .transact call ambient ∧
        after.db = (self.transaction call ambient world.db).2 ∧
        after.requests =
          world.requests ++ self.recordedBy call ambient world.db) ∨
    ((∃ requests,
      after.db = { world.db with seatRefreshRequests := requests }) ∧
      after.requests = world.requests) := by
  cases step with
  | transact => exact Or.inl ⟨_, _, rfl, rfl, rfl⟩
  | claim | read | put | refuse | attempt | fail | acknowledge | crash
  | project | putProjection | attemptProjection | abandon | loseMap =>
      exact Or.inr ⟨⟨_, rfl⟩, rfl⟩

theorem Step.requests_kept
    (step : Step self world action after) :
    world.requests <+: after.requests := by
  rcases step.db_cases with ⟨_, _, _, _, isAfter⟩ | ⟨_, same⟩
  · rw [isAfter]
    exact List.prefix_append _ _
  · rw [same]

/-! ## Faithful runs -/

/-- Consumed envelopes come from the outbox, and no map is lost. -/
def Faithful (world : RefreshWorld Hash) : RefreshAction Hash → Prop
  | .transact (.consumeEvent envelope) _ =>
      ∃ event ∈ world.db.outboxEvents,
        envelope.eventId = event.id ∧ envelope.message = event.message
  | .loseMap _ => False
  | _ => True

def FaithfulStep
    (self : PostgresReservations Hash)
    (world : RefreshWorld Hash)
    (action : RefreshAction Hash)
    (after : RefreshWorld Hash) : Prop :=
  Step self world action after ∧ world.Faithful action

/-- Each later read that covers the seat has its row as it is now. -/
def Shows
    (place : Place)
    (version index : Nat)
    (eventId : Uuid)
    (seatIds : Option (List SeatId))
    (rows : List SeatState)
    (recorded : Nat) : Prop :=
  eventId = place.1 →
  Names seatIds place.2 →
  index < recorded →
  ∃ state ∈ rows,
    state.seatId = place.2 ∧ state.sourceVersion = version

/-- Why the map of a seat will have its current version. -/
inductive Settling
    (world : RefreshWorld Hash)
    (place : Place)
    (version : Nat) : Prop where
  | unchanged
      (read :
        ∀ {projection},
          world.InFlight projection →
          projection.eventId = place.1 →
          ∀ state ∈ projection.rows,
            state.seatId = place.2 → state.sourceVersion = version)
      (stored :
        ∀ {entry},
          (world.maps place.1).seats.find? place.2 = some entry →
          entry.sourceVersion = version)
  | announced
      (event : OutboxEvent)
      (member : event ∈ world.db.outboxEvents)
      (lists : event.Lists place)
      (waiting : world.db.consumerInbox.find? event.id = none)
  | requested
      (index : Nat)
      (record : RefreshRecord)
      (recordAt : world.requests[index]? = some record)
      (sameEvent : record.eventId = place.1)
      (named : Names record.seatIds place.2)
      (shown : AllReads (Shows place version index) world)

/-- The invariant of faithful runs. -/
structure Converging (world : RefreshWorld Hash) : Prop where
  referenced : Referenced world.db
  inbox :
    ∀ {id},
      world.db.consumerInbox.find? id ≠ none →
      world.db.outboxEvents.find? id ≠ none
  refreshes : world.Refreshes
  read : ∀ {projection}, world.InFlight projection → projection.Sound world.db
  mirrors : ∀ eventId, (world.maps eventId).Mirrors world.db eventId
  stored :
    ∀ put ∈ world.puts,
      ∀ state ∈ put.rows,
        state.sourceVersion ≤
          (world.maps put.eventId).sourceVersion state.seatId
  bounded :
    AllReads (fun _ _ _ recorded => recorded ≤ world.requests.length) world
  settling :
    ∀ {place row},
      world.db.eventSeats.find? place = some row →
      world.Settling place row.version

theorem Converging.referenced_after
    (converging : world.Converging)
    (step : Step self world action after) :
    Referenced after.db := by
  rcases step.db_cases with ⟨call, ambient, _, isAfter, _⟩ | ⟨⟨_, isAfter⟩, _⟩
  · rw [isAfter]
    exact Changes.invariant
      (self.changes_of_transaction call ambient world.db)
      Referenced.change converging.referenced
  · rw [isAfter]
    have sound := converging.referenced
    exact ⟨sound.orderHold, sound.holdUnique, sound.itemOrder,
      sound.itemSeat, sound.heldItem, sound.deadlineChecked,
      sound.bookedChecked⟩

/-- Envelopes that a faithful run consumes are in the outbox. -/
theorem FaithfulStep.consumed
    {envelope : Envelope}
    {ambient : Ambient}
    (step :
      FaithfulStep self world (.transact (.consumeEvent envelope) ambient)
        after) :
    ∃ event,
      world.db.outboxEvents.find? envelope.eventId = some event ∧
        envelope.message = event.message := by
  obtain ⟨event, member, sameId, sameMessage⟩ := step.2
  rw [sameId]
  exact ⟨event, Table.find?_key member, sameMessage⟩

theorem Converging.inbox_after
    {id : Uuid}
    (converging : world.Converging)
    (step : FaithfulStep self world action after)
    (taken : after.db.consumerInbox.find? id ≠ none) :
    after.db.outboxEvents.find? id ≠ none := by
  rcases step.1.db_cases with
    ⟨call, ambient, rfl, isAfter, _⟩ | ⟨⟨_, isAfter⟩, _⟩
  · have announced :=
      self.announced_of_transaction call ambient converging.referenced
    have queues := queues_of_transaction self call ambient world.db
    rw [← isAfter] at announced queues
    have outboxKept :
        world.db.outboxEvents.find? id ≠ none →
        after.db.outboxEvents.find? id ≠ none := by
      intro present absent
      obtain ⟨event, found⟩ := Option.ne_none_iff_exists'.mp present
      have stored := announced.kept event (Table.mem_of_find? found)
      exact Table.find?_eq_none_iff.mp absent event stored
        (Table.key_of_find? found)
    have consumed
        {envelope : Envelope}
        (called : call = .consumeEvent envelope)
        (isTaken :
          id = envelope.eventId ∨
            world.db.consumerInbox.find? id ≠ none) :
        after.db.outboxEvents.find? id ≠ none := by
      subst called
      rcases isTaken with rfl | before
      · obtain ⟨event, found, _⟩ := step.consumed
        exact outboxKept (by simp [found])
      · exact outboxKept (converging.inbox before)
    cases queues with
    | unchanged same =>
        rw [same.inbox] at taken
        exact outboxKept (converging.inbox taken)
    | noted envelope called _ inbox =>
        exact consumed called ((inbox id).mp taken)
    | requested envelope _ _ called _ inbox =>
        exact consumed called ((inbox id).mp taken)
  · rw [isAfter] at taken ⊢
    exact converging.inbox taken

/-! ## Maps and reads -/

theorem Converging.mirrors_after
    (converging : world.Converging)
    (step : FaithfulStep self world action after)
    (eventId : Uuid) :
    (after.maps eventId).Mirrors after.db eventId := by
  have advance := step.1.rowsAdvance
  have mirrors := converging.mirrors eventId
  rcases step.1.maps_cases eventId with
    same | ⟨projection, inFlight, rfl, putBy⟩ | rfl
  · rw [same]
    exact mirrors.advance advance
  · exact (mirrors.put (converging.read inFlight) putBy).advance advance
  · exact step.2.elim

theorem Converging.read_after
    {projection : Projection}
    (converging : world.Converging)
    (step : Step self world action after)
    (inFlight : after.InFlight projection) :
    projection.Sound after.db := by
  rcases step.inFlight_before inFlight with before | now
  · exact (converging.read before).advance step.rowsAdvance
  · exact now.sound.advance step.rowsAdvance

/-- No entry is replaced by an older one. -/
theorem FaithfulStep.sourceVersion_le
    (step : FaithfulStep self world action after)
    (eventId : Uuid)
    (seatId : SeatId) :
    (world.maps eventId).sourceVersion seatId ≤
      (after.maps eventId).sourceVersion seatId := by
  rcases step.1.maps_cases eventId with
    same | ⟨projection, _, _, putBy⟩ | rfl
  · rw [same]
  · exact putBy.sourceVersion_le seatId
  · exact step.2.elim

theorem Converging.stored_after
    (converging : world.Converging)
    (step : FaithfulStep self world action after) :
    ∀ put ∈ after.puts,
      ∀ state ∈ put.rows,
        state.sourceVersion ≤
          (after.maps put.eventId).sourceVersion state.seatId := by
  have old :
      ∀ put ∈ world.puts,
        ∀ state ∈ put.rows,
          state.sourceVersion ≤
            (after.maps put.eventId).sourceVersion state.seatId := by
    intro put listed state member
    exact (converging.stored put listed state member).trans
      (step.sourceVersion_le _ _)
  obtain ⟨taken, _⟩ := step
  cases taken with
  | @put slot incarnation worker row rest projection recorded writes working
      pending holding accepted =>
      intro put listed state member
      rcases List.mem_append.mp listed with isOld | isNew
      · exact old put isOld state member
      · cases List.mem_singleton.mp isNew
        have sound :=
          converging.read (.worker slot worker recorded working holding)
        change state.sourceVersion ≤
          ((world.setMap projection.eventId
            ((world.maps projection.eventId).perform writes)).maps
              projection.eventId).sourceVersion state.seatId
        rw [maps_setMap, if_pos rfl]
        exact SeatMap.sourceVersion_le_perform accepted sound.nodup member
  | transact | claim | read | refuse | attempt | fail | acknowledge | crash
  | project | putProjection | attemptProjection | abandon | loseMap =>
      exact old

theorem Converging.bounded_after
    (converging : world.Converging)
    (step : Step self world action after) :
    AllReads (fun _ _ _ recorded => recorded ≤ after.requests.length)
      after := by
  refine (converging.bounded.step step fun _ => Nat.le_refl _).mono ?_
  intro eventId seatIds rows recorded before
  exact before.trans step.requests_kept.length_le

/-! ## Seats that settle -/

/-- A seat whose row changes is announced. -/
theorem Converging.announced_after
    {place : Place}
    {version : Nat}
    (converging : world.Converging)
    (step : FaithfulStep self world action after)
    (changed :
      after.db.eventSeats.find? place ≠ world.db.eventSeats.find? place) :
    after.Settling place version := by
  rcases step.1.db_cases with
    ⟨call, ambient, rfl, isAfter, _⟩ | ⟨⟨_, isAfter⟩, _⟩
  · have announced :=
      self.announced_of_transaction call ambient converging.referenced
    have queues := queues_of_transaction self call ambient world.db
    rw [← isAfter] at announced queues
    obtain ⟨event, member, fresh, lists⟩ := announced.listed changed
    have unread : world.db.consumerInbox.find? event.id = none := by
      by_contra taken
      exact converging.inbox taken fresh
    have consumed
        {envelope : Envelope}
        (called : call = .consumeEvent envelope) :
        event.id ≠ envelope.eventId := by
      subst called
      obtain ⟨old, found, _⟩ := step.consumed
      intro same
      rw [← same, fresh] at found
      cases found
    refine .announced event member lists ?_
    by_contra taken
    cases queues with
    | unchanged same =>
        rw [same.inbox] at taken
        exact taken unread
    | noted envelope called _ inbox =>
        rcases (inbox event.id).mp taken with isEnvelope | before
        · exact consumed called isEnvelope
        · exact before unread
    | requested envelope _ _ called _ inbox =>
        rcases (inbox event.id).mp taken with isEnvelope | before
        · exact consumed called isEnvelope
        · exact before unread
  · rw [isAfter] at changed
    exact absurd rfl changed

/-- A waiting announcement keeps waiting or becomes a request. -/
theorem Converging.waiting_after
    {place : Place}
    {version : Nat}
    {event : OutboxEvent}
    (converging : world.Converging)
    (step : FaithfulStep self world action after)
    (member : event ∈ world.db.outboxEvents)
    (lists : event.Lists place)
    (waiting : world.db.consumerInbox.find? event.id = none) :
    after.Settling place version := by
  rcases step.1.db_cases with
    ⟨call, ambient, rfl, isAfter, isRequests⟩ | ⟨⟨_, isAfter⟩, _⟩
  · have announced :=
      self.announced_of_transaction call ambient converging.referenced
    have queues := queues_of_transaction self call ambient world.db
    rw [← isAfter] at announced queues
    have kept := announced.kept event member
    by_cases waits : after.db.consumerInbox.find? event.id = none
    · exact .announced event kept lists waits
    -- The envelope that was consumed carries the announcement.
    have sameMessage
        {envelope : Envelope}
        (called : call = .consumeEvent envelope)
        (inbox :
          event.id = envelope.eventId ∨
            world.db.consumerInbox.find? event.id ≠ none) :
        envelope.message = event.message := by
      subst called
      rcases inbox with isEnvelope | before
      · obtain ⟨found, foundEvent, message⟩ := step.consumed
        rw [← isEnvelope] at foundEvent
        cases (Table.find?_key member).symm.trans foundEvent
        exact message
      · exact absurd waiting before
    obtain ⟨seats, message, listed⟩ := lists
    cases queues with
    | unchanged same =>
        rw [same.inbox] at waits
        exact absurd waiting waits
    | noted envelope called other inbox =>
        have same := sameMessage called ((inbox event.id).mp waits)
        rw [message] at same
        exact absurd same (other _ _)
    | requested envelope eventId seatIds called isMessage inbox _ records =>
        have same := sameMessage called ((inbox event.id).mp waits)
        rw [isMessage, message] at same
        cases same
        refine .requested world.requests.length
          ⟨place.1, some seats⟩ ?_ rfl ?_ ?_
        · rw [isRequests, records]
          exact List.getElem?_concat_length
        · intro named isNamed
          cases isNamed
          exact listed
        · refine (converging.bounded.step step.1 fun _ =>
            Nat.le_refl _).mono ?_
          intro _ _ _ recorded early _ _ late
          exact absurd late (Nat.not_lt.mpr early)
  · refine .announced event ?_ lists ?_
    · rw [isAfter]
      exact member
    · rw [isAfter]
      exact waiting

/-- While the row stays, what was read of it stays current. -/
theorem Converging.unchanged_after
    {place : Place}
    {row : EventSeat}
    (step : FaithfulStep self world action after)
    (found : world.db.eventSeats.find? place = some row)
    (read :
      ∀ {projection},
        world.InFlight projection →
        projection.eventId = place.1 →
        ∀ state ∈ projection.rows,
          state.seatId = place.2 → state.sourceVersion = row.version)
    (stored :
      ∀ {entry},
        (world.maps place.1).seats.find? place.2 = some entry →
        entry.sourceVersion = row.version) :
    after.Settling place row.version := by
  refine .unchanged ?_ ?_
  · intro projection inFlight sameEvent state member sameSeat
    rcases step.1.inFlight_before inFlight with before | now
    · exact read before sameEvent state member sameSeat
    · exact now.version_eq found sameEvent member sameSeat
  · intro entry isEntry
    rcases step.1.maps_cases place.1 with
      same | ⟨projection, inFlight, sameEvent, putBy⟩ | rfl
    · rw [same] at isEntry
      exact stored isEntry
    · rcases putBy.find?_cases place.2 with
        same | ⟨state, member, version, sameSeat, _, isState⟩ |
        ⟨old, version, oldFound, isOld⟩
      · rw [same] at isEntry
        exact stored isEntry
      · rw [isState] at isEntry
        cases isEntry
        exact read inFlight sameEvent state member sameSeat
      · rw [isOld] at isEntry
        cases isEntry
        exact (stored oldFound :)
    · exact step.2.elim

theorem Converging.settling_after
    {place : Place}
    {row : EventSeat}
    (converging : world.Converging)
    (step : FaithfulStep self world action after)
    (found : after.db.eventSeats.find? place = some row) :
    after.Settling place row.version := by
  by_cases changed :
      after.db.eventSeats.find? place = world.db.eventSeats.find? place
  · rw [changed] at found
    cases converging.settling found with
    | unchanged read stored => exact unchanged_after step found read stored
    | announced event member lists waiting =>
        exact converging.waiting_after step member lists waiting
    | requested index record recordAt sameEvent named shown =>
        refine .requested index record ?_ sameEvent named ?_
        · obtain ⟨added, isAfter⟩ := step.1.requests_kept
          rw [← isAfter]
          obtain ⟨within, _⟩ := List.getElem?_eq_some_iff.mp recordAt
          rw [List.getElem?_append_left within]
          exact recordAt
        · refine shown.step step.1 ?_
          intro claimed reading projection readFor isEvent isNamed _
          obtain ⟨listed, isSeat⟩ :=
            readFor.current isNamed (by rw [isEvent]; exact found)
          exact ⟨_, listed, isSeat, rfl⟩
  · exact converging.announced_after step changed

theorem Converging.step
    (converging : world.Converging)
    (step : FaithfulStep self world action after) :
    after.Converging where
  referenced := converging.referenced_after step.1
  inbox := converging.inbox_after step
  refreshes := converging.refreshes.step step.1
  read := converging.read_after step.1
  mirrors := converging.mirrors_after step
  stored := converging.stored_after step
  bounded := converging.bounded_after step.1
  settling := converging.settling_after step

omit [DecidableEq Hash] in
theorem Initial.converging
    (initial : world.Initial) :
    world.Converging := by
  have nothingRead {projection : Projection} : ¬ world.InFlight projection := by
    intro inFlight
    cases inFlight with
    | worker slot worker recorded working =>
        rw [initial.idle] at working
        cases working
    | projector slot holding =>
        rw [initial.unread] at holding
        cases holding
  refine ⟨initial.db.referenced, ?_, initial.refreshes, ?_, ?_, ?_, ?_, ?_⟩
  · intro id taken
    rw [initial.db.fresh] at taken
    exact absurd rfl taken
  · intro projection inFlight
    exact absurd inFlight nothingRead
  · intro eventId
    rw [initial.maps]
    exact SeatMap.mirrors_missing _ _
  · intro put listed
    rw [initial.unput] at listed
    cases listed
  · refine ⟨?_, ?_⟩
    · intro slot worker row rest projection recorded working
      rw [initial.idle] at working
      cases working
    · intro put listed
      rw [initial.unput] at listed
      cases listed
  · intro place row found
    refine .unchanged (fun inFlight => absurd inFlight nothingRead) ?_
    intro entry isEntry
    rw [initial.maps] at isEntry
    cases isEntry

omit [DecidableEq Hash] in
/-- When nothing waits, an entry has the version of its row. -/
theorem Converging.current
    {place : Place}
    {row : EventSeat}
    {entry : SeatEntry}
    (converging : world.Converging)
    (consumed :
      ∀ event ∈ world.db.outboxEvents,
        world.db.consumerInbox.find? event.id ≠ none)
    (completed :
      ∀ request ∈ world.db.seatRefreshRequests,
        request.generation = request.completedGeneration)
    (found : world.db.eventSeats.find? place = some row)
    (isEntry : (world.maps place.1).seats.find? place.2 = some entry) :
    entry.sourceVersion = row.version := by
  cases converging.settling found with
  | unchanged _ stored => exact stored isEntry
  | announced event member _ waiting =>
      exact absurd waiting (consumed event member)
  | requested index record recordAt sameEvent named shown =>
      rcases converging.refreshes.fenced.kept recordAt named with
        ⟨request, isRequest, dirty, _⟩ |
        ⟨put, member, isEvent, isNamed, later⟩
      · have done := completed request (Table.mem_of_find? isRequest)
        omega
      -- The put read the row in its last version, and the map kept that.
      · obtain ⟨state, listed, isSeat, isVersion⟩ :=
          shown.put put member (isEvent.trans sameEvent) isNamed later
        have reached := converging.stored put member state listed
        rw [isEvent, sameEvent, isSeat, SeatMap.sourceVersion, isEntry,
          isVersion] at reached
        obtain ⟨read, ⟨current, isCurrent, notNewer, _⟩, isRead⟩ :=
          (converging.mirrors place.1).entries isEntry
        have sameSeat : read.seatId = place.2 := by
          have keyed : entry.seatId = place.2 := Table.key_of_find? isEntry
          rw [isRead] at keyed
          exact keyed
        rw [sameSeat] at isCurrent
        cases found.symm.trans isCurrent
        rw [isRead] at reached ⊢
        exact Nat.le_antisymm notNewer reached

/--
In every faithful run a transaction that changes a row of `event_seats` adds
announcements that list the seat, and once all announcements are consumed and
all refresh requests are completed, a readable map shows every row of its event,
under the sum of their versions.
-/
theorem projection_convergence
    {start final : RefreshWorld Hash}
    {actions : List (RefreshAction Hash)}
    (initial : start.Initial)
    (run : Run (FaithfulStep self) start actions final) :
    (∀ call ambient place,
      (self.transaction call ambient final.db).2.eventSeats.find? place ≠
        final.db.eventSeats.find? place →
      ∃ event ∈ (self.transaction call ambient final.db).2.outboxEvents,
        final.db.outboxEvents.find? event.id = none ∧
          event.Lists place) ∧
    ((∀ event ∈ final.db.outboxEvents,
        final.db.consumerInbox.find? event.id ≠ none) →
      (∀ request ∈ final.db.seatRefreshRequests,
        request.generation = request.completedGeneration) →
      ∀ eventId body,
        (final.maps eventId).read eventId = some body →
        (∀ row ∈ final.db.eventSeats,
          row.eventId = eventId →
          ∃ entry ∈ body.seats,
            entry.seatId = row.seatId ∧
              entry.status = row.status ∧
              entry.reservedUntil = row.reservedUntil.map .plain ∧
              entry.sourceVersion = row.version) ∧
        body.version =
          ((final.db.eventSeats.select fun row =>
            decide (row.eventId = eventId)).map EventSeat.version).sum) := by
  have converging : final.Converging :=
    run.invariant initial.converging fun holds step => holds.step step
  refine ⟨?_, ?_⟩
  · intro call ambient place changed
    exact (self.announced_of_transaction call ambient
      converging.referenced).listed changed
  intro consumed completed eventId body isRead
  obtain ⟨versioned, readable, shown⟩ := SeatMap.read_eq_some isRead
  have mirrors := converging.mirrors eventId
  have entryOf
      {row : EventSeat}
      (member : row ∈ final.db.eventSeats)
      (ofEvent : row.eventId = eventId) :
      ∃ entry,
        (final.maps eventId).seats.find? row.seatId = some entry ∧
          entry = (seatState row).entry entry.version := by
    subst ofEvent
    have found :
        final.db.eventSeats.find? (row.eventId, row.seatId) = some row :=
      Table.find?_key member
    obtain ⟨entry, isEntry⟩ := Option.ne_none_iff_exists'.mp
      (mirrors.present (by simp [versioned]) readable
        (show final.db.eventSeats.find? (row.eventId, row.seatId) ≠ none by
          simp [found]))
    refine ⟨entry, isEntry, ?_⟩
    have current : entry.sourceVersion = row.version :=
      converging.current consumed completed found isEntry
    obtain ⟨state, ⟨latest, isLatest, _, same⟩, isState⟩ :=
      mirrors.entries isEntry
    have keyed : entry.seatId = row.seatId := Table.key_of_find? isEntry
    have sameSeat : state.seatId = row.seatId := by
      rw [isState] at keyed
      exact keyed
    rw [sameSeat] at isLatest
    cases found.symm.trans isLatest
    have isRow : state = seatState row := by
      refine same ?_
      rw [isState] at current
      exact current
    rw [← isRow]
    exact isState
  refine ⟨?_, ?_⟩
  · intro row member ofEvent
    obtain ⟨entry, isEntry, isRow⟩ := entryOf member ofEvent
    refine ⟨entry, (shown entry).mpr (Table.mem_of_find? isEntry),
      Table.key_of_find? isEntry, ?_⟩
    rw [isRow]
    exact ⟨rfl, rfl, rfl⟩
  · rw [← sum_snapshotRows,
      mirrors.counted versioned readable
        (snapshotRows_nodup final.db eventId)
        fun _ => mem_seatIds_snapshotRows,
      List.map_map]
    refine congrArg List.sum (List.map_congr_left ?_)
    intro state member
    obtain ⟨row, found, rfl⟩ := mem_snapshotRows.mp member
    have place : row.place = (eventId, row.seatId) :=
      Table.key_of_find? found
    obtain ⟨entry, isEntry, isRow⟩ :=
      entryOf (Table.mem_of_find? found) (congrArg Prod.fst place)
    change (final.maps eventId).sourceVersion row.seatId = row.version
    rw [SeatMap.sourceVersion, isEntry, isRow]
    rfl

end RefreshWorld

/-! ## A small convergence -/

/-- A hold of one seat, and the delivery of its announcement. -/
def heldCall : Call Request := .reserve "alice" 1 ["A1"] "first"

def heldEnvelope : Envelope where
  eventId := 602
  message := .seatsChanged 1 (some ["A1"])

/-- A snapshot of the event before the hold, that is put after it. -/
def heldSnapshot : Projection :=
  .full 1 smallEvent (snapshotRows smallSale 1)

def heldReading : RefreshWorld Request :=
  smallRefresh.setProjector 7 (some heldSnapshot)

def heldSale : RefreshWorld Request :=
  { heldReading with
    db := (smallStore.transaction heldCall (smallAmbient 1 600) smallSale).2
    requests := [] }

def heldRequested : RefreshWorld Request :=
  { heldSale with
    db :=
      (smallStore.transaction (.consumeEvent heldEnvelope)
        (smallAmbient 1 700) heldSale.db).2
    requests := [⟨1, some ["A1"]⟩] }

def heldPublished : RefreshWorld Request :=
  (heldRequested.setMap 1
    (({} : SeatMap).afterPut (heldSnapshot.mode 800)
      heldSnapshot.rows)).setProjector 7 none

def heldClaimed : RefreshWorld Request :=
  (heldPublished.setRequests
    (leaseRows 800 (2 * second) [dirtyRow]
      heldPublished.db.seatRefreshRequests)).setWorker 0
    (some dirtyWorker)

/-- The worker then patches the seat. -/
def heldPatch : Projection :=
  .patch 1 (changedRows heldClaimed.db 1 ["A1"])

def heldReader : RefreshWorker :=
  { dirtyWorker with reading := .read heldPatch 1 }

def heldRead : RefreshWorld Request :=
  heldClaimed.setWorker 0 (some heldReader)

def heldWrites : List HashWrite :=
  (heldPatch.script 700 heldRead.maps).getD []

def heldWriter : RefreshWorker :=
  { heldReader with
    pending := []
    completed := [dirtyRow]
    reading := .idle }

def heldPut : RefreshWorld Request :=
  { (heldRead.setMap 1 ((heldRead.maps 1).perform heldWrites)).setWorker 0
      (some heldWriter) with
    puts :=
      [{ eventId := 1
         seatIds := some ["A1"]
         rows := heldPatch.rows
         recorded := 1 }] }

def heldDone : RefreshWorld Request :=
  (heldPut.setRequests
    ([dirtyRow].foldl (completeRow 800 (2 * second) 250 (3 * second))
      heldPut.db.seatRefreshRequests)).setWorker 0 none

def heldTrace : List (RefreshAction Request) :=
  [.project 7 heldSnapshot,
    .transact heldCall (smallAmbient 1 600),
    .transact (.consumeEvent heldEnvelope) (smallAmbient 1 700),
    .putProjection 7 800,
    .claim 0 2 [1] 800 (2 * second), .read 0, .put 0 700,
    .acknowledge 0 250 (3 * second)]

theorem run_heldTrace :
    Run (RefreshWorld.FaithfulStep smallStore) smallRefresh heldTrace
      heldDone := by
  have projected :
      RefreshWorld.Step smallStore smallRefresh (.project 7 heldSnapshot)
        heldReading :=
    .project rfl (.full rfl)
  have reserved :
      RefreshWorld.Step smallStore heldReading
        (.transact heldCall (smallAmbient 1 600)) heldSale := by
    have unrecorded :
        heldReading.requests ++
            smallStore.recordedBy heldCall (smallAmbient 1 600)
              heldReading.db =
          [] := by
      decide
    rw [heldSale, ← unrecorded]
    exact .transact
  have requested :
      RefreshWorld.Step smallStore heldSale
        (.transact (.consumeEvent heldEnvelope) (smallAmbient 1 700))
        heldRequested := by
    have recorded :
        heldSale.requests ++
            smallStore.recordedBy (.consumeEvent heldEnvelope)
              (smallAmbient 1 700) heldSale.db =
          [⟨1, some ["A1"]⟩] := by
      decide
    rw [heldRequested, ← recorded]
    exact .transact
  have published :
      RefreshWorld.Step smallStore heldRequested (.putProjection 7 800)
        heldPublished := by
    have holding : heldRequested.projectors 7 = some heldSnapshot := rfl
    exact .putProjection holding
  have claimed :
      RefreshWorld.Step smallStore heldPublished
        (.claim 0 2 [1] 800 (2 * second)) heldClaimed :=
    .claim rfl (by decide) (by decide) nofun
  have read :
      RefreshWorld.Step smallStore heldClaimed (.read 0) heldRead := by
    have working : heldClaimed.workers 0 = some dirtyWorker := rfl
    refine .read working rfl ?_
    exact .changed rfl
  have put :
      RefreshWorld.Step smallStore heldRead (.put 0 700) heldPut := by
    have working : heldRead.workers 0 = some heldReader := rfl
    have accepted :
        heldPatch.script 700 heldRead.maps = some heldWrites := by
      decide
    exact .put working rfl rfl accepted
  have acknowledged :
      RefreshWorld.Step smallStore heldPut
        (.acknowledge 0 250 (3 * second)) heldDone := by
    have working : heldPut.workers 0 = some heldWriter := rfl
    exact .acknowledge working rfl
  have genuine : heldSale.Faithful
      (.transact (.consumeEvent heldEnvelope) (smallAmbient 1 700)) := by
    show ∃ event ∈ heldSale.db.outboxEvents,
      heldEnvelope.eventId = event.id ∧ heldEnvelope.message = event.message
    decide
  exact
    .cons ⟨projected, trivial⟩ <|
    .cons ⟨reserved, trivial⟩ <|
    .cons ⟨requested, genuine⟩ <|
    .cons ⟨published, trivial⟩ <|
    .cons ⟨claimed, trivial⟩ <|
    .cons ⟨read, trivial⟩ <|
    .cons ⟨put, trivial⟩ <|
    .single ⟨acknowledged, trivial⟩

def heldRow : EventSeat where
  eventId := 1
  seatId := "A1"
  price := 500
  holdId := some 600
  reservedUntil := some (121 * second)
  version := 1

/-- The readable map shows the hold. -/
theorem projection_convergence_heldDone :
    ∃ body,
      (heldDone.maps 1).read 1 = some body ∧
        body.version = 1 ∧
        ∃ entry ∈ body.seats,
          entry.seatId = "A1" ∧
            entry.status = .held ∧
            entry.reservedUntil = some (.plain (121 * second)) ∧
            entry.sourceVersion = 1 := by
  have converged :=
    (RefreshWorld.projection_convergence smallRefresh_initial
      run_heldTrace).2 (by decide) (by decide) 1
  cases isRead : (heldDone.maps 1).read 1 with
  | none => exact absurd isRead (by decide)
  | some body =>
      obtain ⟨rows, version⟩ := converged body isRead
      refine ⟨body, rfl, ?_, rows heldRow (by decide) rfl⟩
      rw [version]
      decide

end FlashTicketing
