import FlashTicketing.RedisFirstEffects

namespace FlashTicketing

open Relational Checked Transition

/-!
# Provisional exclusivity

While a command is pending and its lease has not run out, the map shows its
seats as taken.  Only `ENQUEUE` and `PUT` could change that: `ENQUEUE` looks at
the entry, but `PUT` looks at source versions only and puts a newer row in the
place of a provisional owner, whatever the row says.
-/

variable {Hash : Type}

/-! ## One clock -/

/-- The system with the latest reading of the clock that everyone shares. -/
structure ClockedWorld (Hash : Type) where
  world : World Hash
  clock : Int

/-- An action and the moment at which it is taken. -/
structure TimedAction (Hash : Type) where
  time : Int
  action : Action Hash

/--
What the action reads from the clock.  Redis counts whole seconds, and the API
computes the deadline of a command before it runs the script.
-/
def Action.ReadsAt (time : Int) : Action Hash → Prop
  | .transact _ ambient => ambient.now = time
  | .persist _ ambient => ambient.now = time
  | .enqueue command now =>
      now = time / second ∧ command.requestedAt ≤ time
  | _ => True

/-! ## Live commands -/

/-- The command is pending and its epoch has not passed. -/
def CommandHash.Live (command : CommandHash Hash) (time : Int) : Prop :=
  command.status = .pending ∧
    time < command.response.expiresAtEpoch * second

theorem CommandHash.Live.earlier
    {command : CommandHash Hash}
    {early late : Int}
    (live : command.Live late)
    (ordered : early ≤ late) :
    command.Live early :=
  ⟨live.1, lt_of_le_of_lt ordered live.2⟩

/--
A row that keeps its seat taken until the epoch: it is sold, or held beyond the
last whole second before the epoch, as `PUT` stores its deadline.
-/
def SeatState.LastsUntil (seat : SeatState) (epoch : Int) : Prop :=
  seat.status = .sold ∨
    (seat.status = .held ∧
      ∃ deadline,
        seat.reservedUntil = some deadline ∧
          (epoch - 1) * second < storedEpoch deadline)

/-- Fifty microseconds beyond that second are more than `PUT` rounds off. -/
theorem SeatState.lastsUntil_of_later
    {seat : SeatState}
    {epoch deadline : Int}
    (held : seat.status = .held)
    (reserved : seat.reservedUntil = some deadline)
    (recent : |deadline| < 8 * 10 ^ 15)
    (later : (epoch - 1) * second + 50 < deadline) :
    seat.LastsUntil epoch := by
  have near := neg_le_of_abs_le (abs_storedEpoch_sub_le recent)
  exact Or.inr ⟨held, deadline, reserved, by omega⟩

/--
The payload has no row that is newer than its entry, belongs to a live command
and would free the seat before the command's epoch.
-/
def Redis.Spares
    (redis : Redis Hash)
    (time : Int)
    (eventId : Uuid)
    (rows : List SeatState) : Prop :=
  ∀ command ∈ redis.commands,
    command.eventId = eventId →
    command.Live time →
    ∀ seat ∈ rows,
      seat.seatId ∈ command.response.seats →
      (redis.maps eventId).isNewer seat = true →
      seat.LastsUntil command.response.expiresAtEpoch

/-- A `PUT` spares the seats of live commands. -/
def World.SparesLive
    (world : World Hash)
    (time : Int) : Action Hash → Prop
  | .putSnapshot slot _ =>
      ∀ writer sale rows,
        world.writers slot = some writer →
        writer.stage = .snapshotRead sale rows →
        world.redis.Spares time writer.entry.payload.eventId rows
  | .putProjection slot _ =>
      ∀ projection,
        world.projectors slot = some projection →
        world.redis.Spares time projection.eventId projection.rows
  | _ => True

/-- The entry keeps others away until the epoch of the response. -/
def SeatEntry.Guards
    (entry : SeatEntry)
    (response : CommandResponse) : Prop :=
  (entry.status = .held ∧
    entry.holdId = some response.holdId ∧
    entry.reservedUntilEpoch = some (response.expiresAtEpoch * second)) ∨
  (entry.holdId = none ∧
    (entry.status = .sold ∨
      (entry.status = .held ∧
        ∃ deadline,
          entry.reservedUntilEpoch = some deadline ∧
            (response.expiresAtEpoch - 1) * second < deadline)))

/-- The entry of a row that lasts guards the seat for the response. -/
theorem SeatState.LastsUntil.guards
    {seat : SeatState}
    {response : CommandResponse}
    (lasts : seat.LastsUntil response.expiresAtEpoch)
    (version : Nat) :
    (seat.entry version).Guards response := by
  refine Or.inr ⟨rfl, ?_⟩
  rcases lasts with sold | ⟨held, deadline, reserved, later⟩
  · exact Or.inl sold
  · exact Or.inr ⟨held, storedEpoch deadline,
      congrArg (Option.map storedEpoch) reserved, later⟩

theorem second_pos : 0 < second := by
  decide

/-- `ENQUEUE` finds a guarded seat taken. -/
theorem SeatEntry.Guards.taken
    {entry : SeatEntry}
    {response : CommandResponse}
    {now : Int}
    (guards : entry.Guards response)
    (unexpired : now < response.expiresAtEpoch) :
    entry.taken now = true := by
  have positive := second_pos
  rw [SeatEntry.taken, decide_eq_true_eq]
  rcases guards with ⟨held, _, epoch⟩ |
    ⟨_, sold | ⟨held, deadline, epoch, later⟩⟩
  · refine Or.inr ⟨held, ?_⟩
    rw [SeatEntry.expired, decide_eq_false_iff_not, epoch]
    rintro ⟨_, due⟩
    exact absurd (Int.mul_lt_mul_of_pos_right unexpired positive)
      (Int.not_lt.mpr due)
  · exact Or.inl sold
  · refine Or.inr ⟨held, ?_⟩
    rw [SeatEntry.expired, decide_eq_false_iff_not, epoch]
    rintro ⟨_, due⟩
    have lastSecond : now ≤ response.expiresAtEpoch - 1 := by omega
    exact absurd
      (lt_of_le_of_lt
        (Int.mul_le_mul_of_nonneg_right lastSecond positive.le) later)
      (Int.not_lt.mpr due)

/-- Live commands guard their seats and share none. -/
structure Redis.Guarded (redis : Redis Hash) (time : Int) : Prop where
  guards :
    ∀ {command},
      command ∈ redis.commands →
      command.Live time →
      ∀ seatId ∈ command.response.seats,
        ∃ entry,
          (redis.maps command.eventId).seats.find? seatId = some entry ∧
            entry.Guards command.response
  disjoint :
    ∀ {first second},
      first ∈ redis.commands →
      second ∈ redis.commands →
      first.Live time →
      second.Live time →
      first.eventId = second.eventId →
      ∀ seatId ∈ first.response.seats,
        seatId ∈ second.response.seats →
        first = second

/-! ## What each script keeps -/

namespace Redis.Guarded

variable
  {redis : Redis Hash}
  {time : Int}

/-- Time ends leases and starts none. -/
theorem later
    {late : Int}
    (guarded : redis.Guarded time)
    (ordered : time ≤ late) :
    redis.Guarded late := by
  refine ⟨?_, ?_⟩
  · intro command member live
    exact guarded.guards member (live.earlier ordered)
  · intro first second firstMember secondMember firstLive secondLive
    exact guarded.disjoint firstMember secondMember
      (firstLive.earlier ordered) (secondLive.earlier ordered)

/-- A command that is restated as settled leaves the others alone. -/
theorem settle
    {command : CommandHash Hash}
    (guarded : redis.Guarded time)
    (settled : command.status ≠ .pending) :
    { redis with commands := redis.commands.upsert command }.Guarded
      time := by
  have stillLive :
      ∀ {other},
        other ∈ redis.commands.upsert command →
        other.Live time →
        other ∈ redis.commands := by
    intro other member live
    rcases Table.mem_upsert.mp member with rfl | ⟨old, _⟩
    · exact absurd live.1 settled
    · exact old
  refine ⟨?_, ?_⟩
  · intro other member live
    exact guarded.guards (stillLive member live) live
  · intro first second firstMember secondMember firstLive secondLive
    exact guarded.disjoint (stillLive firstMember firstLive)
      (stillLive secondMember secondLive) firstLive secondLive

/-- A map may be replaced by one that guards the same commands. -/
theorem setMap
    {eventId : Uuid}
    {map : SeatMap}
    (guarded : redis.Guarded time)
    (kept :
      ∀ {command seatId entry},
        command ∈ redis.commands →
        command.eventId = eventId →
        command.Live time →
        seatId ∈ command.response.seats →
        (redis.maps eventId).seats.find? seatId = some entry →
        entry.Guards command.response →
        ∃ next,
          map.seats.find? seatId = some next ∧
            next.Guards command.response) :
    (redis.setMap eventId map).Guarded time := by
  refine ⟨?_, guarded.disjoint⟩
  intro command member live seatId claimed
  obtain ⟨entry, found, guards⟩ := guarded.guards member live seatId claimed
  rw [Redis.maps_setMap]
  split
  · rename_i same
    rw [same] at found
    exact kept member same live claimed found guards
  · exact ⟨entry, found, guards⟩

/-- `MARK_DURABLE` settles its command. -/
theorem markDurable
    {eventId commandId : Uuid}
    {reply : MarkReply}
    {after : Redis Hash}
    (guarded : redis.Guarded time)
    (marked : redis.markDurable eventId commandId = (reply, after)) :
    after.Guarded time := by
  rcases Redis.markDurable_cases marked with
    ⟨_, rfl⟩ | ⟨command, _, _, _, rfl⟩
  · exact guarded
  · exact guarded.settle nofun

/-- `MARK_FAILED` settles its command and frees only its seats. -/
theorem markFailed
    (holdsDistinct :
      ∀ {first second},
        first ∈ redis.commands →
        second ∈ redis.commands →
        first.response.holdId = second.response.holdId →
        first = second)
    (guarded : redis.Guarded time)
    (eventId commandId : Uuid)
    (seatIds : List SeatId)
    (code : FailureCode) :
    (redis.markFailed eventId commandId seatIds code).2.Guarded time := by
  rcases redis.markFailed_cases eventId commandId seatIds code with
    ⟨refused, _⟩ | ⟨failed, found, _, marked⟩
  · rw [refused]
    exact guarded
  · -- Its own entries may be freed, so the command has to be settled first.
    rw [marked]
    have settled :
        { redis with
          commands := redis.commands.upsert
            { failed with
              status := .failed
              errorCode := some code } }.Guarded time :=
      guarded.settle nofun
    suffices freed :
        (Redis.setMap
          { redis with
            commands := redis.commands.upsert
              { failed with
                status := .failed
                errorCode := some code } }
          eventId
          (seatIds.foldl (Redis.freeSeat failed.response.holdId)
            (redis.maps eventId))).Guarded time from
      ⟨freed.guards, freed.disjoint⟩
    apply settled.setMap
    intro command seatId entry member _ live _ entryFound guards
    refine ⟨entry, Redis.find?_freeSeats_of_ne entryFound ?_, guards⟩
    rcases Table.mem_upsert.mp member with rfl | ⟨old, differentKey⟩
    · exact absurd live.1 nofun
    · rcases guards with ⟨_, owned, _⟩ | ⟨unowned, _⟩
      · rw [owned]
        intro same
        have sameCommand : command = failed :=
          holdsDistinct old (Table.mem_of_find? found)
            (Option.some.inj same)
        exact differentKey (by rw [sameCommand]; rfl)
      · rw [unowned]
        nofun

/-- A `PUT` that spares the seats of live commands. -/
theorem put
    {eventId : Uuid}
    {mode : PutMode}
    {rows : List SeatState}
    (guarded : redis.Guarded time)
    (spares : redis.Spares time eventId rows) :
    (redis.setMap eventId
      ((redis.maps eventId).afterPut mode rows)).Guarded time := by
  refine guarded.setMap ?_
  intro command seatId entry member sameEvent live claimed found guards
  have seats :
      (((redis.maps eventId).afterPut mode rows).seats =
          (redis.maps eventId).seats) ∨
        ((redis.maps eventId).afterPut mode rows).seats =
          (redis.maps eventId).seats.upsertAll
            ((redis.maps eventId).writtenEntries mode rows) :=
    (redis.maps eventId).seats_afterPut mode rows
  rcases seats with same | written
  · exact ⟨entry, by rw [same]; exact found, guards⟩
  · rw [written]
    rcases SeatMap.find?_written_cases (List.prefix_refl _) seatId with
      kept | ⟨seat, seatMember, rfl, newer, isNew⟩ |
      ⟨_, old, oldFound, isOld⟩
    · exact ⟨entry, kept.trans found, guards⟩
    · have lasts :=
        spares command member sameEvent live seat seatMember claimed newer
      exact ⟨_, isNew, lasts.guards _⟩
    · rw [found] at oldFound
      cases oldFound
      exact ⟨_, isOld, guards⟩

/-- `ENQUEUE` takes no seat of a live command and guards its own. -/
theorem accept
    {intake : RedisReservationIntake Hash}
    {command : NewCommand}
    {now : Int}
    {sale : SaleWindow}
    {version : Nat}
    {selected : List SeatEntry}
    (guarded : redis.Guarded time)
    (reading : now = time / FlashTicketing.second)
    (accepts :
      intake.Accepts command now redis sale version selected) :
    (intake.accept command now sale version selected redis).2.Guarded
      time := by
  have nodup : (selected.map SeatEntry.seatId).Nodup := by
    rw [accepts.seats]
    exact (List.perm_insertionSort _ _).nodup_iff.mpr (List.nodup_dedup _)
  have unclaimed :
      ∀ {other seatId},
        other ∈ redis.commands →
        other.Live time →
        other.eventId = command.eventId →
        seatId ∈ other.response.seats →
        seatId ∉ command.seats := by
    intro other seatId member live sameEvent claimed wanted
    obtain ⟨entry, found, guards⟩ :=
      guarded.guards member live seatId claimed
    rw [← accepts.seats] at wanted
    obtain ⟨free, freeMember, rfl⟩ := List.mem_map.mp wanted
    obtain ⟨freeFound, notTaken⟩ := accepts.free free freeMember
    rw [sameEvent, freeFound] at found
    cases found
    have unexpired : now < other.response.expiresAtEpoch := by
      rw [reading]
      exact Int.ediv_lt_of_lt_mul second_pos live.2
    rw [guards.taken unexpired] at notTaken
    cases notTaken
  refine ⟨?_, ?_⟩
  · intro other member live seatId claimed
    change ∃ entry,
      ((redis.setMap command.eventId _).maps other.eventId).seats.find?
        seatId = some entry ∧ _
    rw [Redis.maps_setMap]
    rcases Table.mem_upsert.mp member with rfl | ⟨old, _⟩
    · rw [if_pos rfl]
      change seatId ∈ command.seats at claimed
      rw [← accepts.seats] at claimed
      obtain ⟨entry, entryMember, rfl⟩ := List.mem_map.mp claimed
      obtain ⟨count, found⟩ :=
        SeatMap.find?_takeSeats_of_mem nodup entryMember
      exact ⟨_, found, Or.inl ⟨rfl, rfl, rfl⟩⟩
    · obtain ⟨entry, found, guards⟩ :=
        guarded.guards old live seatId claimed
      split
      · rename_i sameEvent
        refine ⟨entry, ?_, guards⟩
        rw [SeatMap.find?_takeSeats_of_not_mem, ← sameEvent]
        · exact found
        · rw [accepts.seats]
          exact unclaimed old live sameEvent claimed
      · exact ⟨entry, found, guards⟩
  · intro first second firstMember secondMember firstLive secondLive
      sameEvent seatId firstClaimed secondClaimed
    rcases Table.mem_upsert.mp firstMember with rfl | ⟨firstOld, _⟩
    · rcases Table.mem_upsert.mp secondMember with rfl | ⟨secondOld, _⟩
      · rfl
      · exact absurd firstClaimed
          (unclaimed secondOld secondLive sameEvent.symm secondClaimed)
    · rcases Table.mem_upsert.mp secondMember with rfl | ⟨secondOld, _⟩
      · exact absurd secondClaimed
          (unclaimed firstOld firstLive sameEvent firstClaimed)
      · exact guarded.disjoint firstOld secondOld firstLive secondLive
          sameEvent seatId firstClaimed secondClaimed

end Redis.Guarded

/-- Issued commands have holds of their own. -/
theorem World.Linked.holdsDistinct
    {intake : RedisReservationIntake Hash}
    {world : World Hash}
    (linked : world.Linked intake)
    {first second : CommandHash Hash}
    (firstMember : first ∈ world.redis.commands)
    (secondMember : second ∈ world.redis.commands)
    (sameHold : first.response.holdId = second.response.holdId) :
    first = second := by
  have issue :
      ∀ {command : CommandHash Hash},
        command ∈ world.redis.commands →
        world.redis.issue? command.eventId command.commandId =
            some (command.payload, command.response) ∧
          command.payload.holdId = command.response.holdId := by
    intro command member
    have isIssued :
        world.redis.issue? command.eventId command.commandId =
          some (command.payload, command.response) := by
      have found :
          world.redis.commands.find? (command.eventId, command.commandId) =
            some command :=
        Table.find?_key member
      rw [Redis.issue?, found]
      rfl
    obtain ⟨_, _, _, _, _, _, isPayload, isResponse⟩ :=
      linked.issued isIssued
    exact ⟨isIssued, by rw [isPayload, isResponse]; rfl⟩
  obtain ⟨firstIssued, firstHold⟩ := issue firstMember
  obtain ⟨secondIssued, secondHold⟩ := issue secondMember
  have sameKey :=
    linked.distinct firstIssued secondIssued
      (Or.inr (Or.inl (firstHold.trans (sameHold.trans secondHold.symm))))
  exact Table.eq_of_key_eq firstMember secondMember
    (Prod.ext sameKey.1 sameKey.2)

/-! ## Runs -/

section Runs

variable
  [DecidableEq Hash]
  {self : PostgresReservations Hash}
  {intake : RedisReservationIntake Hash}

/-- A step that reads the shared clock. -/
def ClockedWorld.Step
    (self : PostgresReservations Hash)
    (intake : RedisReservationIntake Hash)
    (before : ClockedWorld Hash)
    (timed : TimedAction Hash)
    (after : ClockedWorld Hash) : Prop :=
  before.clock ≤ timed.time ∧
    after.clock = timed.time ∧
    timed.action.ReadsAt timed.time ∧
    World.Step self intake before.world timed.action after.world

theorem ClockedWorld.Step.at
    {world after : World Hash}
    {clock time : Int}
    {action : Action Hash}
    (ordered : clock ≤ time)
    (reads : action.ReadsAt time)
    (step : World.Step self intake world action after) :
    ClockedWorld.Step self intake ⟨world, clock⟩ ⟨time, action⟩
      ⟨after, time⟩ :=
  ⟨ordered, rfl, reads, step⟩

/-- A step whose `PUT`, if it is one, spares the seats of live commands. -/
def ClockedWorld.SparingStep
    (self : PostgresReservations Hash)
    (intake : RedisReservationIntake Hash)
    (before : ClockedWorld Hash)
    (timed : TimedAction Hash)
    (after : ClockedWorld Hash) : Prop :=
  Step self intake before timed after ∧
    before.world.SparesLive timed.time timed.action

/-- Entries belong to their commands and live commands guard their seats. -/
structure ClockedWorld.Exclusive
    (intake : RedisReservationIntake Hash)
    (state : ClockedWorld Hash) : Prop where
  linked : state.world.Linked intake
  guarded : state.world.redis.Guarded state.clock

theorem Redis.Guarded.step
    {world after : World Hash}
    {action : Action Hash}
    {time : Int}
    (guarded : world.redis.Guarded time)
    (linked : world.Linked intake)
    (reads : action.ReadsAt time)
    (spares : world.SparesLive time action)
    (step : World.Step self intake world action after) :
    after.redis.Guarded time := by
  cases step with
  | @enqueue command now unissued =>
      rcases intake.enqueue_cases command now world.redis with
        ⟨refused, _⟩ | ⟨sale, version, selected, accepts, isAccepted⟩
      · rw [refused]
        exact guarded
      · rw [isAccepted]
        exact guarded.accept reads.1 accepts
  | markFailed => exact guarded.markFailed linked.holdsDistinct _ _ _ _
  | putSnapshot working stage =>
      exact guarded.put (spares _ _ _ working stage)
  | markedDurable _ _ marked => exact guarded.markDurable marked
  | notMarkedDurable _ _ _ marked => exact guarded.markDurable marked
  | putProjection holding => exact guarded.put (spares _ holding)
  | acknowledge => exact ⟨guarded.guards, guarded.disjoint⟩
  | delete => exact ⟨guarded.guards, guarded.disjoint⟩
  | transact | deliver | persisted | rejected | raised | readSnapshot
  | crash | project | abandon => exact guarded

theorem ClockedWorld.Exclusive.step
    {before after : ClockedWorld Hash}
    {timed : TimedAction Hash}
    (exclusive : before.Exclusive intake)
    (step : before.SparingStep self intake timed after) :
    after.Exclusive intake := by
  obtain ⟨⟨ordered, clockRead, reads, taken⟩, spares⟩ := step
  refine ⟨exclusive.linked.step taken, ?_⟩
  rw [clockRead]
  exact (exclusive.guarded.later ordered).step exclusive.linked reads
    spares taken

/--
In every run under one clock whose `PUT`s spare the seats of live commands, two
distinct live commands have no seat in common, and `ENQUEUE` finds every seat
of a live command taken.
-/
theorem provisional_exclusivity
    {start : World Hash}
    {origin : Int}
    {trace : List (TimedAction Hash)}
    {state : ClockedWorld Hash}
    (initial : start.Initial)
    (run :
      Run (ClockedWorld.SparingStep self intake) ⟨start, origin⟩ trace
        state) :
    (∀ first ∈ state.world.redis.commands,
      ∀ second ∈ state.world.redis.commands,
        first.Live state.clock →
        second.Live state.clock →
        first.eventId = second.eventId →
        first ≠ second →
        List.Disjoint first.response.seats second.response.seats) ∧
    ∀ command ∈ state.world.redis.commands,
      command.Live state.clock →
      ∀ seatId ∈ command.response.seats,
        ∃ entry,
          (state.world.redis.maps command.eventId).seats.find? seatId =
              some entry ∧
            entry.taken (state.clock / second) = true := by
  have exclusive : state.Exclusive intake := by
    refine run.invariant ⟨initial.linked intake, ?_⟩
      fun holds step => holds.step step
    dsimp only
    rw [initial.redis]
    exact ⟨fun member => absurd member (Table.not_mem_empty _),
      fun member => absurd member (Table.not_mem_empty _)⟩
  constructor
  · intro first firstMember second secondMember firstLive secondLive
      sameEvent different seatId firstClaimed secondClaimed
    exact different (exclusive.guarded.disjoint firstMember secondMember
      firstLive secondLive sameEvent seatId firstClaimed secondClaimed)
  · intro command member live seatId claimed
    obtain ⟨entry, found, guards⟩ :=
      exclusive.guarded.guards member live seatId claimed
    exact ⟨entry, found,
      guards.taken (Int.ediv_lt_of_lt_mul second_pos live.2)⟩

end Runs

/-! ## Small runs -/

/-- Publishing the map spares every command, since there is none. -/
theorem run_published :
    Run (ClockedWorld.SparingStep smallStore smallIntake) ⟨smallWorld, 0⟩
      [⟨0, .project 0 smallSnapshot⟩, ⟨0, .putProjection 0 700⟩]
      ⟨mappedWorld, 0⟩ := by
  have read :
      ClockedWorld.SparingStep smallStore smallIntake ⟨smallWorld, 0⟩
        ⟨0, .project 0 smallSnapshot⟩ ⟨readWorld, 0⟩ :=
    ⟨⟨by decide, rfl, trivial, step_readWorld⟩, trivial⟩
  have put :
      ClockedWorld.SparingStep smallStore smallIntake ⟨readWorld, 0⟩
        ⟨0, .putProjection 0 700⟩ ⟨mappedWorld, 0⟩ := by
    refine ⟨⟨by decide, rfl, trivial, step_mappedWorld⟩, ?_⟩
    intro projection _ command member
    exact absurd member (Table.not_mem_empty command)
  exact .cons read (.single put)

/-! ### A projected command -/

/-- A command for the first seat, and its entry. -/
def oldRequest : NewCommand := smallRequest "alice" "A1" 500 1

def oldEntry : StreamEntry Request := smallEntry oldRequest 1 1

/-- The command is accepted, delivered and persisted, but still pending. -/
def oldAccepted : World Request := mappedWorld.enqueued oldRequest 1

def oldDelivered : World Request := oldAccepted.delivered 0 oldEntry

def oldPersisted : World Request :=
  oldDelivered.persistedAs 0 oldEntry (smallAmbient 3 600) .persisted

theorem run_oldPersisted :
    Run (ClockedWorld.SparingStep smallStore smallIntake) ⟨mappedWorld, 0⟩
      [⟨1 * second, .enqueue oldRequest 1⟩,
        ⟨2 * second, .deliver 0 1 oldEntry⟩,
        ⟨3 * second, .persist 0 (smallAmbient 3 600)⟩]
      ⟨oldPersisted, 3 * second⟩ := by
  have accepted :
      World.Step smallStore smallIntake mappedWorld (.enqueue oldRequest 1)
        oldAccepted :=
    .enqueue (by decide)
  have delivered :
      World.Step smallStore smallIntake oldAccepted (.deliver 0 1 oldEntry)
        oldDelivered :=
    .deliver rfl (by decide) (by decide)
  have persisted :
      World.Step smallStore smallIntake oldDelivered
        (.persist 0 (smallAmbient 3 600)) oldPersisted := by
    have working :
        oldDelivered.writers 0 = some { stream := 1, entry := oldEntry } :=
      rfl
    refine .persisted_of_isOk working rfl ?_
    decide
  exact
    .cons ⟨.at (by decide) ⟨by decide, by decide⟩ accepted, trivial⟩ <|
    .cons ⟨.at (by decide) trivial delivered, trivial⟩ <|
    .single ⟨.at (by decide) rfl persisted, trivial⟩

/-- The projector copies the persisted hold over the provisional one. -/
def persistedRead : Projection :=
  .patch 1 (changedRows oldPersisted.db 1 ["A1"])

def persistedPut : World Request :=
  ((oldPersisted.setProjector 0 (some persistedRead)).put persistedRead.eventId
    (persistedRead.mode 701) persistedRead.rows).setProjector 0 none

/-- Then another actor reserves the other seat. -/
def otherRequest : NewCommand := smallRequest "bob" "A2" 510 6

def otherAccepted : World Request := persistedPut.enqueued otherRequest 6

/-- The copied row is held until the deadline of the command itself. -/
theorem persistedRead_spares :
    oldPersisted.redis.Spares (5 * second) 1 persistedRead.rows := by
  have newer :
      ∀ seat ∈ persistedRead.rows,
        seat.status = .held ∧ seat.reservedUntil = some (121 * second) := by
    decide
  have epochs :
      ∀ command ∈ oldPersisted.redis.commands,
        command.response.expiresAtEpoch = 121 := by
    decide
  intro command member _ _ seat isRow _ _
  obtain ⟨held, reserved⟩ := newer seat isRow
  rw [epochs command member]
  exact SeatState.lastsUntil_of_later held reserved (by decide) (by decide)

theorem run_otherAccepted :
    Run (ClockedWorld.SparingStep smallStore smallIntake)
      ⟨oldPersisted, 3 * second⟩
      [⟨4 * second, .project 0 persistedRead⟩,
        ⟨5 * second, .putProjection 0 701⟩,
        ⟨6 * second, .enqueue otherRequest 6⟩]
      ⟨otherAccepted, 6 * second⟩ := by
  have read :
      World.Step smallStore smallIntake oldPersisted (.project 0 persistedRead)
        (oldPersisted.setProjector 0 (some persistedRead)) :=
    .project rfl .patch
  have holding :
      (oldPersisted.setProjector 0 (some persistedRead)).projectors 0 =
        some persistedRead :=
    rfl
  have put :
      World.Step smallStore smallIntake
        (oldPersisted.setProjector 0 (some persistedRead))
        (.putProjection 0 701) persistedPut :=
    .putProjection holding
  have spared :
      (oldPersisted.setProjector 0 (some persistedRead)).SparesLive (5 * second)
        (.putProjection 0 701) := by
    intro projection isHeld
    cases holding.symm.trans isHeld
    exact persistedRead_spares
  have other :
      World.Step smallStore smallIntake persistedPut (.enqueue otherRequest 6)
        otherAccepted :=
    .enqueue (by decide)
  exact
    .cons ⟨.at (by decide) trivial read, trivial⟩ <|
    .cons ⟨.at (by decide) trivial put, spared⟩ <|
    .single ⟨.at (by decide) ⟨by decide, by decide⟩ other, trivial⟩

/--
After the `PUT` on a live seat the two commands share no seat, and the seat is
still taken.
-/
theorem provisional_exclusivity_otherAccepted :
    List.Disjoint (smallHash oldRequest 1).response.seats
        (smallHash otherRequest 6).response.seats ∧
      ∃ entry,
        (otherAccepted.redis.maps 1).seats.find? "A1" = some entry ∧
          entry.taken 6 = true := by
  have exclusive :=
    provisional_exclusivity smallWorld_initial
      (run_published.append (run_oldPersisted.append run_otherAccepted))
  constructor
  · exact exclusive.1 (smallHash oldRequest 1) (by decide)
      (smallHash otherRequest 6) (by decide) ⟨rfl, by decide⟩
      ⟨rfl, by decide⟩ rfl (by decide)
  · exact exclusive.2 (smallHash oldRequest 1) (by decide)
      ⟨rfl, by decide⟩ "A1" (by decide)

/-! ### A late clean-up -/

/-- The next owner of the seat, and one who comes too late. -/
def nextRequest : NewCommand := smallRequest "bob" "A1" 510 200

def lateRequest : NewCommand := smallRequest "carol" "A1" 520 204

/-- The first command becomes durable. -/
def oldDurable : World Request :=
  { oldPersisted with
    redis := (oldPersisted.redis.markDurable 1 500).2 }.advance 0
    { stream := 1, entry := oldEntry, stage := .persisted } .acknowledging

/-- Its lease is over; the next owner takes the seat provisionally. -/
def nextAccepted : World Request := oldDurable.enqueued nextRequest 200

/-- Only then does the expiry worker release the old hold. -/
def oldReleased : World Request :=
  { nextAccepted with
    db :=
      (smallStore.transaction (.expireBatch 10 [502])
        (smallAmbient 201 610) nextAccepted.db).2 }

/-- The projector copies the released row over the next owner. -/
def releaseRead : Projection := .patch 1 (changedRows oldReleased.db 1 ["A1"])

def releasePut : World Request :=
  ((oldReleased.setProjector 0 (some releaseRead)).put releaseRead.eventId
    (releaseRead.mode 701) releaseRead.rows).setProjector 0 none

def lateAccepted : World Request := releasePut.enqueued lateRequest 204

/-- The run that ends with two live commands for one seat. -/
def lateCleanup : List (TimedAction Request) :=
  [⟨1 * second, .enqueue oldRequest 1⟩,
    ⟨2 * second, .deliver 0 1 oldEntry⟩,
    ⟨3 * second, .persist 0 (smallAmbient 3 600)⟩,
    ⟨4 * second, .markDurable 0⟩,
    ⟨200 * second, .enqueue nextRequest 200⟩,
    ⟨201 * second,
      .transact (.expireBatch 10 [502]) (smallAmbient 201 610)⟩,
    ⟨202 * second, .project 0 releaseRead⟩,
    ⟨203 * second, .putProjection 0 701⟩,
    ⟨204 * second, .enqueue lateRequest 204⟩]

theorem run_lateCleanup :
    Run (ClockedWorld.Step smallStore smallIntake) ⟨mappedWorld, 0⟩
      lateCleanup ⟨lateAccepted, 204 * second⟩ := by
  have durable :
      World.Step smallStore smallIntake oldPersisted (.markDurable 0)
        oldDurable :=
    .markedDurable rfl rfl rfl
  have next :
      World.Step smallStore smallIntake oldDurable
        (.enqueue nextRequest 200) nextAccepted :=
    .enqueue (by decide)
  have released :
      World.Step smallStore smallIntake nextAccepted
        (.transact (.expireBatch 10 [502]) (smallAmbient 201 610))
        oldReleased := by
    refine .transact rfl ?_
    have below :
        ∀ command ∈ nextAccepted.redis.commands,
          command.payload.holdId < 610 ∧ command.payload.orderId < 610 := by
      decide
    intro command member draw
    obtain ⟨hold, order⟩ := below command member
    exact ⟨Nat.ne_of_gt (Nat.lt_add_right draw hold),
      Nat.ne_of_gt (Nat.lt_add_right draw order)⟩
  have read :
      World.Step smallStore smallIntake oldReleased
        (.project 0 releaseRead)
        (oldReleased.setProjector 0 (some releaseRead)) :=
    .project rfl .patch
  have put :
      World.Step smallStore smallIntake
        (oldReleased.setProjector 0 (some releaseRead))
        (.putProjection 0 701) releasePut := by
    have holding :
        (oldReleased.setProjector 0 (some releaseRead)).projectors 0 =
          some releaseRead :=
      rfl
    exact .putProjection holding
  have late :
      World.Step smallStore smallIntake releasePut
        (.enqueue lateRequest 204) lateAccepted :=
    .enqueue (by decide)
  apply (run_oldPersisted.mono fun step => step.1).append
  exact
    .cons (.at (by decide) trivial durable) <|
    .cons (.at (by decide) ⟨by decide, by decide⟩ next) <|
    .cons (.at (by decide) rfl released) <|
    .cons (.at (by decide) trivial read) <|
    .cons (.at (by decide) trivial put) <|
    .single (.at (by decide) ⟨by decide, by decide⟩ late)

/--
A patch that brings the release of an old hold frees the seat of a live
command; the next `ENQUEUE` gives the seat to a second live command.
-/
theorem provisional_seat_shared :
    ∃ trace state first second seatId,
      smallWorld.Initial ∧
      Run (ClockedWorld.Step smallStore smallIntake) ⟨smallWorld, 0⟩ trace
        state ∧
      first ∈ state.world.redis.commands ∧
      second ∈ state.world.redis.commands ∧
      first.Live state.clock ∧
      second.Live state.clock ∧
      first.eventId = second.eventId ∧
      first ≠ second ∧
      seatId ∈ first.response.seats ∧
      seatId ∈ second.response.seats := by
  refine ⟨_, ⟨lateAccepted, 204 * FlashTicketing.second⟩,
    smallHash nextRequest 200, smallHash lateRequest 204, "A1",
    smallWorld_initial,
    (run_published.mono fun step => step.1).append run_lateCleanup,
    by decide, by decide, ⟨rfl, by decide⟩, ⟨rfl, by decide⟩, rfl,
    by decide, by decide, by decide⟩

end FlashTicketing
