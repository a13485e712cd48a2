import FlashTicketing.CommandDurability
import FlashTicketing.IntakeAtomicity
import FlashTicketing.ProvisionalExclusivity

namespace FlashTicketing

open Relational Checked Transition

/-!
# The end of a lease

Two deadlines are computed for one hold.  The API adds the hold's seconds to
its own reading, to the microsecond, and PostgreSQL enforces the sum; `ENQUEUE`
adds them to the whole second that `TIME` gives it, and the next `ENQUEUE`
compares whole seconds.  The seat is therefore free in Redis from the second
before the durable deadline on, unless the API's reading is itself not after
the whole second of the script.
-/

variable {Hash : Type}

/-! ## The property -/

def Action.isEnqueue : Action Hash → Bool
  | .enqueue _ _ => true
  | _ => false

/-- A step after which only `ENQUEUE` may have rewritten the command's seats. -/
def ClockedWorld.KeepingStep
    [DecidableEq Hash]
    (self : PostgresReservations Hash)
    (intake : RedisReservationIntake Hash)
    (command : NewCommand)
    (before : ClockedWorld Hash)
    (timed : TimedAction Hash)
    (after : ClockedWorld Hash) : Prop :=
  Step self intake before timed after ∧
    (timed.action.isEnqueue = false →
      ∀ seatId ∈ command.seats,
        (after.world.redis.maps command.eventId).seats.find? seatId =
          (before.world.redis.maps command.eventId).seats.find? seatId)

/-- In some run of the system, `ENQUEUE` accepts the command at `time`. -/
def AcceptedAt
    [DecidableEq Hash]
    (self : PostgresReservations Hash)
    (intake : RedisReservationIntake Hash)
    (command : NewCommand)
    (time : Int)
    (world : World Hash) : Prop :=
  ∃ start origin past before response,
    World.Initial start ∧
      Run (ClockedWorld.Step self intake) ⟨start, origin⟩ past before ∧
      ClockedWorld.Step self intake before
        ⟨time, .enqueue command (time / second)⟩ ⟨world, time⟩ ∧
      (intake.enqueue command (time / second) before.world.redis).1 =
        .accepted response

/--
The lease of a command that was built at `requestedAt` and accepted at
`acceptedAt` lasts as long as its durable hold: until the hold's deadline
`ENQUEUE` gives none of the seats to another actor, and it answers whoever
comes as far as the seats that they are not available.
-/
def LeaseCovers
    (requestedAt acceptedAt : Int)
    (holdSeconds : Nat) : Prop :=
  ∀ (Hash : Type) [DecidableEq Hash]
    (self : PostgresReservations Hash)
    (intake : RedisReservationIntake Hash)
    (command other : NewCommand)
    (world : World Hash)
    (trace : List (TimedAction Hash))
    (state : ClockedWorld Hash)
    (hold : Hold)
    (time : Int),
    intake.holdSeconds = holdSeconds →
    command.requestedAt = requestedAt →
    AcceptedAt self intake command acceptedAt world →
    Run (ClockedWorld.KeepingStep self intake command) ⟨world, acceptedAt⟩
      trace state →
    state.world.db.holds.find? command.holdId = some hold →
    state.clock ≤ time →
    time < hold.expiresAt →
    other.actor ≠ command.actor →
    other.eventId = command.eventId →
    (∃ seatId ∈ other.seatIds, seatId ∈ command.seatIds) →
    (∀ response,
      (intake.enqueue other (time / second) state.world.redis).1 ≠
        .accepted response) ∧
    (intake.Reaches other (time / second) state.world.redis →
      (intake.enqueue other (time / second) state.world.redis).1 =
        .refused .seatUnavailable)

/-! ## A lease that lasts -/

/-- The command is issued, and until `deadline` its seats are guarded. -/
structure ClockedWorld.Leasing
    (intake : RedisReservationIntake Hash)
    (command : NewCommand)
    (response : CommandResponse)
    (deadline : Int)
    (state : ClockedWorld Hash) : Prop where
  sound : state.world.Sound intake
  issued :
    state.world.redis.issue? command.eventId command.commandId =
      some (intake.payload command, response)
  guarded :
    state.clock < deadline →
    ∀ seatId ∈ command.seats,
      ∃ entry,
        (state.world.redis.maps command.eventId).seats.find? seatId =
            some entry ∧
          entry.Guards response

theorem RedisReservationIntake.Accepts.nodup
    {intake : RedisReservationIntake Hash}
    {command : NewCommand}
    {now : Int}
    {redis : Redis Hash}
    {sale : SaleWindow}
    {version : Nat}
    {selected : List SeatEntry}
    (accepts : intake.Accepts command now redis sale version selected) :
    (selected.map SeatEntry.seatId).Nodup := by
  rw [accepts.seats]
  exact (List.perm_insertionSort _ _).nodup_iff.mpr (List.nodup_dedup _)

namespace ClockedWorld.Leasing

variable
  [DecidableEq Hash]
  {self : PostgresReservations Hash}
  {intake : RedisReservationIntake Hash}
  {command : NewCommand}
  {response : CommandResponse}
  {deadline : Int}
  {before after : ClockedWorld Hash}
  {timed : TimedAction Hash}

/-- The command stays issued. -/
theorem issued_after
    (leasing : before.Leasing intake command response deadline)
    (step : World.Step self intake before.world timed.action after.world) :
    after.world.redis.issue? command.eventId command.commandId =
      some (intake.payload command, response) := by
  rcases step.calm_or_accepted with
    calm | ⟨other, _, _, _, _, unissued, _, _, isAccepted⟩
  · rw [calm.issue]
    exact leasing.issued
  · have differ := (unissued.issue_ne leasing.issued).1
    rw [isAccepted, World.issue?_accepted, if_neg]
    · exact leasing.issued
    · intro same
      exact differ (congrArg Prod.snd same)

/-- `ENQUEUE` of another command takes none of the guarded seats. -/
theorem guarded_after_enqueue
    {other : NewCommand}
    {now : Int}
    {redis : Redis Hash}
    {seatId : SeatId}
    {entry : SeatEntry}
    (found : (redis.maps command.eventId).seats.find? seatId = some entry)
    (taken : entry.taken now = true) :
    ((intake.enqueue other now redis).2.maps command.eventId).seats.find?
      seatId = some entry := by
  rcases intake.enqueue_cases other now redis with
    ⟨refused, _⟩ | ⟨sale, version, selected, accepts, isAccepted⟩
  · rw [refused]
    exact found
  · rw [isAccepted]
    change ((redis.setMap other.eventId _).maps command.eventId).seats.find?
      seatId = some entry
    rw [Redis.maps_setMap]
    split
    · rename_i sameEvent
      rw [SeatMap.find?_takeSeats_of_not_mem, ← sameEvent]
      · exact found
      · intro wanted
        obtain ⟨free, member, isSeat⟩ := List.mem_map.mp wanted
        obtain ⟨freeFound, notTaken⟩ := accepts.free free member
        rw [isSeat, ← sameEvent, found] at freeFound
        cases freeFound
        rw [taken] at notTaken
        cases notTaken
    · exact found

theorem step
    (leasing : before.Leasing intake command response deadline)
    (covers : deadline ≤ response.expiresAtEpoch * second)
    (taken : before.KeepingStep self intake command timed after) :
    after.Leasing intake command response deadline := by
  obtain ⟨⟨ordered, isClock, reads, step⟩, kept⟩ := taken
  refine ⟨leasing.sound.step step, leasing.issued_after step, ?_⟩
  intro unexpired seatId wanted
  rw [isClock] at unexpired
  obtain ⟨entry, found, guards⟩ :=
    leasing.guarded (lt_of_le_of_lt ordered unexpired) seatId wanted
  refine ⟨entry, ?_, guards⟩
  cases isEnqueue : timed.action.isEnqueue with
  | false =>
      rw [kept isEnqueue seatId wanted]
      exact found
  | true =>
      obtain ⟨time, action⟩ := timed
      obtain ⟨next, clock⟩ := after
      cases step with
      | @enqueue other now unissued =>
          apply guarded_after_enqueue found
          apply guards.taken
          rw [reads.1]
          exact Int.ediv_lt_of_lt_mul second_pos
            (lt_of_lt_of_le unexpired covers)
      | transact | deliver | persisted | rejected | raised | markFailed
      | readSnapshot | putSnapshot | markedDurable | notMarkedDurable
      | acknowledge | delete | crash | project | putProjection | abandon =>
          cases isEnqueue

omit [DecidableEq Hash] in
/-- The deadline of the durable hold is the one that the API computed. -/
theorem hold_expiresAt
    {state : ClockedWorld Hash}
    {hold : Hold}
    (leasing : state.Leasing intake command response deadline)
    (found : state.world.db.holds.find? command.holdId = some hold) :
    hold.expiresAt = addSeconds command.requestedAt intake.holdSeconds := by
  rcases leasing.sound.complete leasing.issued with untraced | durable
  · cases found.symm.trans untraced.hold
  · obtain ⟨stored, _, _, ⟨status, isStored⟩, sole⟩ := durable.hold
    have isHold : hold = stored :=
      sole hold (Table.mem_of_find? found) (Table.key_of_find? found)
    rw [isHold, isStored]
    rfl

/-- A lease starts where `ENQUEUE` accepts its command. -/
theorem of_accepted
    (deadline : Int)
    {time : Int}
    {world : World Hash}
    (accepted : AcceptedAt self intake command time world) :
    ∃ response,
      response.expiresAtEpoch = time / second + intake.holdSeconds ∧
        Leasing intake command response deadline ⟨world, time⟩ := by
  obtain ⟨start, origin, past, before, reply, initial, run,
    ⟨_, _, _, step⟩, isAccepted⟩ := accepted
  have soundBefore : before.world.Sound intake := by
    let property (state : ClockedWorld Hash) : Prop :=
      state.world.Sound intake
    have atStart : property ⟨start, origin⟩ := initial.sound intake
    suffices holds : property before from holds
    apply run.invariant atStart
    intro before timed after sound step
    exact World.Sound.step sound step.2.2.2
  have sound : world.Sound intake := soundBefore.step step
  rcases intake.enqueue_cases command (time / second)
      before.world.redis with
    ⟨_, refused⟩ | ⟨sale, version, selected, accepts, isReply⟩
  · exact absurd isAccepted (refused reply)
  have isWorld :
      world =
        World.accepted intake before.world command (time / second) sale
          version selected := by
    cases step with
    | enqueue unissued => rw [isReply]; rfl
  let response : CommandResponse :=
    intake.response command (time / second)
      (selected.map SeatEntry.price).sum sale.currency
  refine ⟨response, rfl, sound, ?_, ?_⟩
  · rw [isWorld, World.issue?_accepted, if_pos rfl]
    rfl
  · intro _ seatId wanted
    rw [← accepts.seats] at wanted
    obtain ⟨entry, member, rfl⟩ := List.mem_map.mp wanted
    obtain ⟨count, found⟩ :
        ∃ count,
          ((before.world.redis.maps command.eventId).takeSeats response
              version selected).seats.find? entry.seatId =
            some (entry.provisional response count) :=
      SeatMap.find?_takeSeats_of_mem accepts.nodup member
    refine ⟨entry.provisional response count, ?_, Or.inl ⟨rfl, rfl, rfl⟩⟩
    rw [isWorld]
    change ((before.world.redis.setMap command.eventId _).maps
      command.eventId).seats.find? entry.seatId = _
    rw [Redis.maps_setMap, if_pos rfl]
    exact found

end ClockedWorld.Leasing

/-- A seat that is there and taken stops the loop, if no other is missing. -/
theorem SeatMap.selectSeats_unavailable
    {map : SeatMap}
    {seats : List SeatId}
    {now : Int}
    {seatId : SeatId}
    {entry : SeatEntry}
    (present : ∀ other ∈ seats, map.seats.find? other ≠ none)
    (wanted : seatId ∈ seats)
    (found : map.seats.find? seatId = some entry)
    (taken : entry.taken now = true) :
    map.selectSeats seats now = .error .seatUnavailable := by
  unfold selectSeats
  induction seats with
  | nil => cases wanted
  | cons first rest inductionHypothesis =>
      obtain ⟨own, isOwn⟩ :=
        Option.ne_none_iff_exists'.mp (present first List.mem_cons_self)
      simp only [List.mapM_cons, isOwn, require_some, ok_bind]
      by_cases free : own.taken now = false
      · have later : seatId ∈ rest := by
          rcases List.mem_cons.mp wanted with rfl | later
          · cases isOwn.symm.trans found
            cases taken.symm.trans free
          · exact later
        have stopped :=
          inductionHypothesis
            (fun other member => present other (List.mem_cons_of_mem _ member))
            later
        simp only [ensure_bind_of_true free, pure_bind, stopped, error_bind]
      · simp only [ensure_bind_of_not free, error_bind]

/-- A command that reaches a taken seat is told so. -/
theorem RedisReservationIntake.Reaches.unavailable
    [DecidableEq Hash]
    {intake : RedisReservationIntake Hash}
    {command : NewCommand}
    {now : Int}
    {redis : Redis Hash}
    {seatId : SeatId}
    {entry : SeatEntry}
    (reaches : intake.Reaches command now redis)
    (wanted : seatId ∈ command.seatIds)
    (found :
      (redis.maps command.eventId).seats.find? seatId = some entry)
    (taken : entry.taken now = true) :
    (intake.enqueue command now redis).1 = .refused .seatUnavailable := by
  obtain ⟨sale, version, isReply⟩ := reaches.enqueue_eq
  rw [isReply, SeatMap.selectSeats_unavailable _
    (RedisReservationIntake.mem_seats.mpr wanted) found taken]
  intro other member
  exact reaches.seats other (RedisReservationIntake.mem_seats.mp member)

/-- No command with a taken seat is accepted. -/
theorem RedisReservationIntake.not_accepted_of_taken
    [DecidableEq Hash]
    {intake : RedisReservationIntake Hash}
    {command : NewCommand}
    {now : Int}
    {redis : Redis Hash}
    {seatId : SeatId}
    {entry : SeatEntry}
    (wanted : seatId ∈ command.seatIds)
    (found :
      (redis.maps command.eventId).seats.find? seatId = some entry)
    (taken : entry.taken now = true)
    (response : CommandResponse) :
    (intake.enqueue command now redis).1 ≠ .accepted response := by
  rcases intake.enqueue_cases command now redis with
    ⟨_, refused⟩ | ⟨sale, version, selected, accepts, _⟩
  · exact refused response
  · rw [← RedisReservationIntake.mem_seats, ← accepts.seats] at wanted
    obtain ⟨free, member, rfl⟩ := List.mem_map.mp wanted
    obtain ⟨freeFound, notTaken⟩ := accepts.free free member
    cases freeFound.symm.trans found
    cases notTaken.symm.trans taken

/-- A reading that is not after the script's whole second is covered. -/
theorem leaseCovers_of_le
    {requestedAt acceptedAt : Int}
    {holdSeconds : Nat}
    (early : requestedAt ≤ acceptedAt / second * second) :
    LeaseCovers requestedAt acceptedAt holdSeconds := by
  intro Hash _ self intake command other world trace state hold time
    isSeconds isRequested accepted run found notBefore unexpired _ sameEvent
    ⟨seatId, wanted, own⟩
  obtain ⟨response, isEpoch, starts⟩ :=
    ClockedWorld.Leasing.of_accepted (addSeconds requestedAt holdSeconds)
      accepted
  have covers :
      addSeconds requestedAt holdSeconds ≤
        response.expiresAtEpoch * second := by
    rw [isEpoch, isSeconds, Int.add_mul]
    exact Int.add_le_add_right early _
  have leasing :
      state.Leasing intake command response
        (addSeconds requestedAt holdSeconds) :=
    run.invariant starts fun holds step => holds.step covers step
  have isDeadline := leasing.hold_expiresAt found
  rw [isDeadline, isRequested, isSeconds] at unexpired
  obtain ⟨entry, entryFound, guards⟩ :=
    leasing.guarded (lt_of_le_of_lt notBefore unexpired) seatId
      (RedisReservationIntake.mem_seats.mpr own)
  have taken : entry.taken (time / second) = true := by
    apply guards.taken
    exact Int.ediv_lt_of_lt_mul second_pos (lt_of_lt_of_le unexpired covers)
  rw [← sameEvent] at entryFound
  exact ⟨RedisReservationIntake.not_accepted_of_taken wanted entryFound taken,
    fun reaches => reaches.unavailable wanted entryFound taken⟩

/-! ## A lease that ends too early -/

section Boundary

variable
  (requestedAt acceptedAt : Int)
  (holdSeconds : Nat)

/-- On sale from the second of the acceptance until the hold's deadline. -/
def boundaryEvent : Event where
  id := 1
  currency := "THB"
  saleStarts := acceptedAt / second * second
  saleEnds := addSeconds requestedAt holdSeconds

/-- One event with one free seat. -/
def boundarySale : Database Request where
  events := ⟨[boundaryEvent requestedAt acceptedAt holdSeconds], by simp⟩
  eventSeats :=
    ⟨[{ eventId := 1, seatId := "A1", price := 500 }], by decide⟩

def boundaryIntake : RedisReservationIntake Request where
  digest := id
  holdSeconds := holdSeconds

/-- The command at the boundary, and the one that comes after it. -/
def boundaryCommand (actor : Actor) (firstId : Uuid) : NewCommand where
  actor := actor
  eventId := 1
  seatIds := ["A1"]
  key := "key"
  commandId := firstId
  holdId := firstId + 1
  orderId := firstId + 2
  requestedAt := requestedAt

/-- The published entry of the seat. -/
def boundarySeat : SeatEntry where
  seatId := "A1"
  status := .available
  price := 500
  reservedUntil := none
  reservedUntilEpoch := none
  sourceVersion := 0
  version := 0

def boundaryWindow : SaleWindow where
  startsEpoch := acceptedAt / second * second
  endsEpoch := addSeconds requestedAt holdSeconds
  currency := "THB"

def boundaryStart : World Request where
  db := boundarySale requestedAt acceptedAt holdSeconds
  redis := { maps := fun _ => {} }

def boundarySnapshot : Projection :=
  .full 1 (boundaryEvent requestedAt acceptedAt holdSeconds)
    (snapshotRows (boundarySale requestedAt acceptedAt holdSeconds) 1)

def boundaryMapped : World Request :=
  (((boundaryStart requestedAt acceptedAt holdSeconds).setProjector 0
    (some (boundarySnapshot requestedAt acceptedAt holdSeconds))).put 1
      ((boundarySnapshot requestedAt acceptedAt holdSeconds).mode 700)
      (boundarySnapshot requestedAt acceptedAt holdSeconds).rows).setProjector
    0 none

def boundaryAccepted : World Request :=
  World.accepted (boundaryIntake holdSeconds)
    (boundaryMapped requestedAt acceptedAt holdSeconds)
    (boundaryCommand requestedAt "alice" 500) (acceptedAt / second)
    (boundaryWindow requestedAt acceptedAt holdSeconds) 0 [boundarySeat]

/-- The stream entry of the accepted command. -/
def boundaryEntry : StreamEntry Request where
  messageId := 1
  commandId := 500
  payload :=
    (boundaryIntake holdSeconds).payload
      (boundaryCommand requestedAt "alice" 500)
  response :=
    (boundaryIntake holdSeconds).response
      (boundaryCommand requestedAt "alice" 500) (acceptedAt / second) 500
      "THB"
  createdAtEpoch := acceptedAt / second

def boundaryWriter : Writer Request where
  stream := 1
  entry := boundaryEntry requestedAt acceptedAt holdSeconds

def boundaryAmbient : Ambient where
  now := acceptedAt
  insertedAt := acceptedAt
  uuid4 := fun draw => 600 + draw

/-- The records while the writer's transaction is open. -/
def boundaryRecords : Table (IdempotencyRecord Request) where
  rows :=
    [{ actor := "alice"
       operation := .hold
       key := "key"
       requestHash := .hold 1 ["A1"] }]
  keysNodup := by simp

def boundaryDelivered : World Request :=
  (boundaryAccepted requestedAt acceptedAt holdSeconds).setWriter 0
    (some (boundaryWriter requestedAt acceptedAt holdSeconds))

def boundaryPersisted : World Request :=
  { boundaryDelivered requestedAt acceptedAt holdSeconds with
    db :=
      (smallStore.transaction
        (boundaryWriter requestedAt acceptedAt holdSeconds).call
        (boundaryAmbient acceptedAt)
        (boundarySale requestedAt acceptedAt holdSeconds)).2 }.advance 0
    (boundaryWriter requestedAt acceptedAt holdSeconds) .persisted

end Boundary

variable
  {requestedAt acceptedAt : Int}
  {holdSeconds : Nat}

/-- The hold outlasts the whole second in which it was accepted. -/
theorem lt_addSeconds_of_lt
    (late : acceptedAt / second * second < requestedAt)
    (positive : 1 ≤ holdSeconds) :
    acceptedAt < addSeconds requestedAt holdSeconds := by
  have whole := Int.lt_ediv_add_one_mul_self acceptedAt second_pos
  unfold addSeconds
  unfold second at *
  omega

theorem boundary_enqueued
    (late : acceptedAt / second * second < requestedAt) :
    (boundaryIntake holdSeconds).enqueue
        (boundaryCommand requestedAt "alice" 500) (acceptedAt / second)
        (boundaryMapped requestedAt acceptedAt holdSeconds).redis =
      (.accepted
        ((boundaryIntake holdSeconds).response
          (boundaryCommand requestedAt "alice" 500) (acceptedAt / second)
          500 "THB"),
        (boundaryAccepted requestedAt acceptedAt holdSeconds).redis) := by
  have opened :
      ¬ (acceptedAt / second * second < acceptedAt / second * second ∨
        addSeconds requestedAt holdSeconds ≤
          acceptedAt / second * second) := by
    have sum := le_addSeconds requestedAt holdSeconds
    omega
  rw [RedisReservationIntake.enqueue]
  change (if _ then _ else _) = _
  exact if_neg opened

theorem boundary_persist
    (late : acceptedAt / second * second < requestedAt)
    (positive : 1 ≤ holdSeconds) :
    ∃ durable after,
      smallStore.persistReservationCommand
          (boundaryWriter requestedAt acceptedAt holdSeconds).entry.payload
          (boundaryWriter requestedAt acceptedAt holdSeconds).entry.response
          (boundaryAmbient acceptedAt)
          (boundarySale requestedAt acceptedAt holdSeconds) =
        .ok (durable, after) ∧
      after.holds.find? 501 =
        some (boundaryEntry requestedAt acceptedAt
          holdSeconds).payload.hold := by
  have unexpired := lt_addSeconds_of_lt late positive
  have started : acceptedAt / second * second ≤ acceptedAt :=
    Int.ediv_mul_le acceptedAt second_pos.ne'
  have body :
      ∃ durable after,
        PostgresReservations.persistBody
            (boundaryEntry requestedAt acceptedAt holdSeconds).payload
            (boundaryEntry requestedAt acceptedAt holdSeconds).response
            (boundaryAmbient acceptedAt)
            { boundarySale requestedAt acceptedAt holdSeconds with
              idempotencyRecords := boundaryRecords } =
          .ok (durable, after) := by
    simp only [PostgresReservations.persistBody, bind_eq_ok, require_eq_ok,
      ensure_eq_ok, unique_eq_ok, pure_eq_ok, Prod.mk.injEq]
    refine ⟨_, _, _, rfl, (), ⟨started, unexpired⟩, (), rfl, (), unexpired,
      (), ?_, _, rfl, (), List.forall_mem_nil _, _, rfl, rfl, rfl⟩
    intro row member
    have isRow :
        row ∈ [({ eventId := 1, seatId := "A1", price := 500 } : EventSeat)] :=
      member
    rw [List.mem_singleton.mp isRow]
    rfl
  obtain ⟨durable, after, accepted⟩ := body
  refine ⟨durable, after, ?_, ?_⟩
  · have honest :
        smallStore.digest
            (boundaryWriter requestedAt acceptedAt
              holdSeconds).entry.payload.request =
          (boundaryWriter requestedAt acceptedAt
            holdSeconds).entry.payload.requestHash :=
      rfl
    rw [PostgresReservations.persistReservationCommand,
      ensure_bind_of_true honest]
    exact accepted
  · obtain ⟨hold, order, rows, written, rfl, _, _, _, _, placed, commands, _,
      rfl⟩ := PostgresReservations.placed_of_persistBody accepted
    exact placed.hold_stored

theorem boundary_acceptedAt
    (ordered : requestedAt ≤ acceptedAt)
    (late : acceptedAt / second * second < requestedAt) :
    AcceptedAt smallStore (boundaryIntake holdSeconds)
      (boundaryCommand requestedAt "alice" 500) acceptedAt
      (boundaryAccepted requestedAt acceptedAt holdSeconds) := by
  have initial : (boundaryStart requestedAt acceptedAt holdSeconds).Initial :=
    ⟨⟨by simp [boundaryStart, boundarySale, Table.mem_def], rfl⟩, rfl, rfl,
      rfl⟩
  have read :
      World.Step smallStore (boundaryIntake holdSeconds)
        (boundaryStart requestedAt acceptedAt holdSeconds)
        (.project 0 (boundarySnapshot requestedAt acceptedAt holdSeconds))
        ((boundaryStart requestedAt acceptedAt holdSeconds).setProjector 0
          (some (boundarySnapshot requestedAt acceptedAt holdSeconds))) :=
    .project rfl (.full rfl)
  have put :
      World.Step smallStore (boundaryIntake holdSeconds)
        ((boundaryStart requestedAt acceptedAt holdSeconds).setProjector 0
          (some (boundarySnapshot requestedAt acceptedAt holdSeconds)))
        (.putProjection 0 700)
        (boundaryMapped requestedAt acceptedAt holdSeconds) := by
    have holding :
        ((boundaryStart requestedAt acceptedAt holdSeconds).setProjector 0
          (some (boundarySnapshot requestedAt acceptedAt
            holdSeconds))).projectors 0 =
          some (boundarySnapshot requestedAt acceptedAt holdSeconds) :=
      rfl
    exact .putProjection holding
  have accepted :
      World.Step smallStore (boundaryIntake holdSeconds)
        (boundaryMapped requestedAt acceptedAt holdSeconds)
        (.enqueue (boundaryCommand requestedAt "alice" 500)
          (acceptedAt / second))
        (boundaryAccepted requestedAt acceptedAt holdSeconds) := by
    have lacks (id : Uuid) :
        (boundaryMapped requestedAt acceptedAt holdSeconds).db.Lacks id :=
      ⟨rfl, rfl, fun row member => absurd member (Table.not_mem_empty row),
        fun row member => absurd member (Table.not_mem_empty row)⟩
    have step :
        World.Step smallStore (boundaryIntake holdSeconds)
          (boundaryMapped requestedAt acceptedAt holdSeconds)
          (.enqueue (boundaryCommand requestedAt "alice" 500)
            (acceptedAt / second)) _ :=
      .enqueue ⟨lacks _, lacks _, lacks _,
        fun row member => absurd member (Table.not_mem_empty row)⟩
    rw [boundary_enqueued late] at step
    exact step
  exact ⟨_, acceptedAt,
    [⟨acceptedAt,
        .project 0 (boundarySnapshot requestedAt acceptedAt holdSeconds)⟩,
      ⟨acceptedAt, .putProjection 0 700⟩],
    ⟨boundaryMapped requestedAt acceptedAt holdSeconds, acceptedAt⟩, _,
    initial, .cons (.at le_rfl trivial read) (.single (.at le_rfl trivial put)),
    .at le_rfl ⟨rfl, ordered⟩ accepted,
    congrArg Prod.fst (boundary_enqueued late)⟩

theorem boundary_persisted
    (late : acceptedAt / second * second < requestedAt)
    (positive : 1 ≤ holdSeconds) :
    Run
      (ClockedWorld.KeepingStep smallStore (boundaryIntake holdSeconds)
        (boundaryCommand requestedAt "alice" 500))
      ⟨boundaryAccepted requestedAt acceptedAt holdSeconds, acceptedAt⟩
      [⟨acceptedAt,
          .deliver 0 1 (boundaryEntry requestedAt acceptedAt holdSeconds)⟩,
        ⟨acceptedAt, .persist 0 (boundaryAmbient acceptedAt)⟩]
      ⟨boundaryPersisted requestedAt acceptedAt holdSeconds, acceptedAt⟩ ∧
    (boundaryPersisted requestedAt acceptedAt holdSeconds).db.holds.find?
        501 =
      some (boundaryEntry requestedAt acceptedAt
        holdSeconds).payload.hold := by
  obtain ⟨durable, after, accepted, found⟩ := boundary_persist late positive
  have answered :
      smallStore.transaction
          (boundaryWriter requestedAt acceptedAt holdSeconds).call
          (boundaryAmbient acceptedAt)
          (boundarySale requestedAt acceptedAt holdSeconds) =
        (.ok (.response durable), after) := by
    rw [Writer.call, PostgresReservations.transaction,
      PostgresReservations.body, accepted]
    rfl
  have delivered :
      World.Step smallStore (boundaryIntake holdSeconds)
        (boundaryAccepted requestedAt acceptedAt holdSeconds)
        (.deliver 0 1 (boundaryEntry requestedAt acceptedAt holdSeconds))
        (boundaryDelivered requestedAt acceptedAt holdSeconds) := by
    have listed :
        boundaryEntry requestedAt acceptedAt holdSeconds ∈
          [boundaryEntry requestedAt acceptedAt holdSeconds] :=
      List.mem_singleton_self _
    exact .deliver rfl listed List.not_mem_nil
  have persisted :
      World.Step smallStore (boundaryIntake holdSeconds)
        (boundaryDelivered requestedAt acceptedAt holdSeconds)
        (.persist 0 (boundaryAmbient acceptedAt))
        (boundaryPersisted requestedAt acceptedAt holdSeconds) := by
    have working :
        (boundaryDelivered requestedAt acceptedAt holdSeconds).writers 0 =
          some (boundaryWriter requestedAt acceptedAt holdSeconds) :=
      rfl
    apply World.Step.persisted_of_isOk working rfl
    change (smallStore.transaction _ _
      (boundarySale requestedAt acceptedAt holdSeconds)).1.isOk = true
    rw [answered]
    rfl
  constructor
  · exact .cons ⟨.at le_rfl trivial delivered, fun _ _ _ => rfl⟩
      (.single ⟨.at le_rfl rfl persisted, fun _ _ _ => rfl⟩)
  · change (smallStore.transaction _ _ _).2.holds.find? 501 = _
    rw [answered]
    exact found

/-- At the whole second of the lease's end the seat goes to the next actor. -/
theorem boundary_taken
    (holdSeconds : Nat)
    (late : acceptedAt / second * second < requestedAt) :
    ∃ response,
      ((boundaryIntake holdSeconds).enqueue
        (boundaryCommand requestedAt "bob" 510)
        (acceptedAt / second + holdSeconds)
        (boundaryPersisted requestedAt acceptedAt holdSeconds).redis).1 =
          .accepted response := by
  have reaches :
      (boundaryIntake holdSeconds).Reaches
        (boundaryCommand requestedAt "bob" 510)
        (acceptedAt / second + holdSeconds)
        (boundaryPersisted requestedAt acceptedAt holdSeconds).redis := by
    have backlog : 1 < 10000 := by decide
    refine ⟨nofun, rfl,
      ⟨boundaryWindow requestedAt acceptedAt holdSeconds, rfl, ?_, ?_⟩, rfl,
      backlog, ?_⟩
    · rw [Int.add_mul]
      have positive : 0 ≤ (holdSeconds : Int) * second := by
        unfold second
        omega
      exact Int.le_add_of_nonneg_right positive
    · rw [Int.add_mul]
      exact Int.add_lt_add_right late _
    · intro seatId wanted
      rw [List.mem_singleton.mp wanted]
      exact Option.some_ne_none _
  apply reaches.accepted
  intro seatId wanted
  rw [List.mem_singleton.mp wanted]
  refine ⟨_, rfl, ?_⟩
  rw [SeatEntry.taken, decide_eq_false_iff_not]
  rintro (sold | ⟨_, unexpired⟩)
  · cases sold
  · rw [SeatEntry.expired, decide_eq_false_iff_not] at unexpired
    exact unexpired ⟨rfl, le_rfl⟩

/-- A reading after the script's whole second is not covered. -/
theorem not_leaseCovers_of_lt
    (ordered : requestedAt ≤ acceptedAt)
    (positive : 1 ≤ holdSeconds)
    (late : acceptedAt / second * second < requestedAt) :
    ¬ LeaseCovers requestedAt acceptedAt holdSeconds := by
  intro covers
  obtain ⟨run, found⟩ := boundary_persisted late positive
  obtain ⟨response, isAccepted⟩ := boundary_taken holdSeconds late
  have notBefore :
      acceptedAt ≤ (acceptedAt / second + holdSeconds) * second := by
    have whole := Int.lt_ediv_add_one_mul_self acceptedAt second_pos
    unfold second at *
    omega
  have unexpired :
      (acceptedAt / second + holdSeconds) * second <
        addSeconds requestedAt holdSeconds := by
    rw [Int.add_mul]
    exact Int.add_lt_add_right late _
  have otherActor : "bob" ≠ "alice" := by decide
  have refused :=
    (covers Request smallStore (boundaryIntake holdSeconds)
      (boundaryCommand requestedAt "alice" 500)
      (boundaryCommand requestedAt "bob" 510) _ _ _ _
      ((acceptedAt / second + holdSeconds) * second) rfl rfl
      (boundary_acceptedAt ordered late) run found notBefore unexpired
      otherActor rfl
      ⟨"A1", List.mem_singleton_self _, List.mem_singleton_self _⟩).1
      response
  rw [Int.mul_ediv_cancel _ second_pos.ne'] at refused
  exact refused isAccepted

/--
The lease of a command lasts as long as its durable hold exactly if the API
read its clock not after the whole second in which the script ran.
-/
theorem lease_covers_iff
    (requestedAt acceptedAt : Int)
    (holdSeconds : Nat)
    (ordered : requestedAt ≤ acceptedAt)
    (positive : 1 ≤ holdSeconds) :
    LeaseCovers requestedAt acceptedAt holdSeconds ↔
      requestedAt ≤ acceptedAt / second * second := by
  constructor
  · intro covers
    by_contra late
    exact not_leaseCovers_of_lt ordered positive (Int.not_le.mp late) covers
  · exact leaseCovers_of_le

/-- A command of 10.0 s that the script accepts at 10.9 s is covered. -/
theorem lease_covers_iff_wholeSecond :
    LeaseCovers 10000000 10900000 120 :=
  (lease_covers_iff 10000000 10900000 120 (by decide) (by decide)).mpr
    (by decide)

/--
A command of 10.9 s that the script accepts at 10.95 s is durable until 130.9 s
and free in Redis from 130 s on.
-/
theorem lease_ends_early :
    ¬ ∀ (requestedAt acceptedAt : Int) (holdSeconds : Nat),
      requestedAt ≤ acceptedAt →
      1 ≤ holdSeconds →
      LeaseCovers requestedAt acceptedAt holdSeconds := by
  intro always
  have early : (10950000 : Int) / second * second < 10900000 := by decide
  exact not_leaseCovers_of_lt (by decide) (by decide) early
    (always 10900000 10950000 120 (by decide) (by decide))

end FlashTicketing
