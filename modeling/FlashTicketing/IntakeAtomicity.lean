import FlashTicketing.CommandReplay

namespace FlashTicketing

open Relational Checked Transition

/-!
# `ENQUEUE` is all or nothing

Every check of the script precedes its first write, so a refusal leaves all
keys alone.  An accepted command takes exactly its seats, and adds one command,
one idempotency record, one entry of the expiry index and one stream entry.
-/

variable {Hash : Type}

/-! ## Held entries have a deadline -/

/-- A held row has a deadline, as the schema requires of `event_seats`. -/
def SeatState.Dated (seat : SeatState) : Prop :=
  seat.status = .held → seat.reservedUntil ≠ none

/-- A held entry has a deadline that `ENQUEUE` can compare. -/
def SeatEntry.Dated (entry : SeatEntry) : Prop :=
  entry.status = .held → entry.reservedUntilEpoch ≠ none

/-- The rows of `seat_state` are dated where the `CHECK` of the table holds. -/
theorem seatState_dated
    {row : EventSeat}
    (check : row.holdId = none ↔ row.reservedUntil = none) :
    (seatState row).Dated := by
  intro isHeld undated
  have free : row.holdId = none := check.mpr undated
  simp only [seatState, EventSeat.status, free] at isHeld
  split at isHeld
  · cases isHeld
  · cases isHeld

/-- A dated row makes a dated entry, whatever its epoch is rounded to. -/
theorem SeatState.Dated.entry
    {seat : SeatState}
    (dated : seat.Dated)
    (version : Nat) :
    (seat.entry version).Dated := by
  intro isHeld undated
  exact dated isHeld (Option.map_eq_none_iff.mp undated)

/-- Every `PUT` brings dated rows. -/
def RedisAction.Dated : RedisAction → Prop
  | .put _ _ rows _ => ∀ row ∈ rows, row.Dated
  | _ => True

/-- One step with dated rows. -/
def DatedStep
    [DecidableEq Hash]
    (intake : RedisReservationIntake Hash)
    (redis : Redis Hash)
    (action : RedisAction)
    (after : Redis Hash) : Prop :=
  RedisStep intake redis action after ∧ action.Dated

/-- All entries of the map are dated. -/
def SeatMap.Dated (map : SeatMap) : Prop :=
  ∀ seatId entry, map.seats.find? seatId = some entry → entry.Dated

def Redis.Dated (redis : Redis Hash) : Prop :=
  ∀ eventId, (redis.maps eventId).Dated

namespace SeatMap

variable {map : SeatMap}

theorem dated_missing : ({} : SeatMap).Dated :=
  nofun

theorem Dated.upsert
    {entry : SeatEntry}
    (dated : map.Dated)
    (entryDated : entry.Dated) :
    ({ map with seats := map.seats.upsert entry } : SeatMap).Dated := by
  intro seatId other isFound
  simp only [Table.find?_upsert] at isFound
  split at isFound
  · cases isFound
    exact entryDated
  · exact dated seatId other isFound

theorem Dated.write
    {command : HashWrite}
    (dated : map.Dated)
    (entryDated : ∀ entry, command = .setSeat entry → entry.Dated) :
    (map.write command).Dated := by
  cases command with
  | setSeat entry => exact dated.upsert (entryDated entry rfl)
  | setUpdating | setVersion | setLayout | setIncarnation | setSale
  | deleteUpdating => exact dated

theorem Dated.perform
    {writes : List HashWrite}
    (dated : map.Dated)
    (entriesDated : ∀ entry, .setSeat entry ∈ writes → entry.Dated) :
    (map.perform writes).Dated := by
  induction writes generalizing map with
  | nil => exact dated
  | cons command rest inductionHypothesis =>
      apply inductionHypothesis
      · apply dated.write
        intro entry isSeat
        apply entriesDated
        rw [isSeat]
        exact List.mem_cons_self
      · intro entry member
        exact entriesDated entry (List.mem_cons_of_mem _ member)

theorem Dated.selected
    {seat : SeatState}
    (dated : map.Dated)
    (seatDated : seat.Dated)
    (version : Nat) :
    (map.selected version seat).Dated := by
  unfold SeatMap.selected
  split
  · exact seatDated.entry version
  · rename_i old found
    split
    · exact seatDated.entry version
    · have oldDated : old.Dated := dated _ old found
      exact oldDated

/-- Some of the writes of a `PUT` with dated rows. -/
theorem Dated.put
    {mode : PutMode}
    {rows : List SeatState}
    {writes : List HashWrite}
    (dated : map.Dated)
    (accepted : map.put mode rows = some writes)
    (rowsDated : ∀ row ∈ rows, row.Dated)
    (commands : Nat) :
    (map.perform (writes.take commands)).Dated := by
  apply dated.perform
  intro entry member
  have written : .setSeat entry ∈ writes := List.mem_of_mem_take member
  rw [(put_eq_some accepted).1] at written
  have listed : entry ∈ map.writtenEntries mode rows := by
    cases mode with
    | patch => simpa [putBody, putMetadata] using written
    | full published =>
        cases sale : published.sale with
        | none => simpa [putBody, putMetadata, sale] using written
        | some window => simpa [putBody, putMetadata, sale] using written
  obtain ⟨seat, isRow, _, rfl⟩ := mem_writtenEntries.mp listed
  exact dated.selected (rowsDated seat isRow) _

theorem Dated.takeSeats
    {selected : List SeatEntry}
    (dated : map.Dated)
    (response : CommandResponse)
    (version : Nat) :
    (map.takeSeats response version selected).Dated := by
  intro seatId entry found
  change (map.seats.upsertAll _).find? seatId = some entry at found
  rcases Table.find?_upsertAll_cases map.seats _ seatId with
    kept | ⟨row, written, _, isRow⟩
  · rw [kept] at found
    exact dated seatId entry found
  · cases isRow.symm.trans found
    obtain ⟨indexed, _, rfl⟩ := List.mem_map.mp written
    intro _
    exact nofun

theorem Dated.freeSeats
    (dated : map.Dated)
    (holdId : Uuid)
    (seatIds : List SeatId) :
    (seatIds.foldl (Redis.freeSeat holdId) map).Dated := by
  induction seatIds generalizing map with
  | nil => exact dated
  | cons seatId rest inductionHypothesis =>
      apply inductionHypothesis
      unfold Redis.freeSeat
      split
      · exact dated
      · split
        · apply Dated.upsert dated
          exact nofun
        · exact dated

end SeatMap

theorem Redis.Dated.step
    [DecidableEq Hash]
    {intake : RedisReservationIntake Hash}
    {redis after : Redis Hash}
    {action : RedisAction}
    (dated : redis.Dated)
    (step : DatedStep intake redis action after) :
    after.Dated := by
  obtain ⟨taken, rowsDated⟩ := step
  intro eventId
  have moves := taken.moves eventId
  generalize after.maps eventId = map at moves
  cases moves with
  | kept => exact dated eventId
  | taken response _ _ => exact (dated eventId).takeSeats response _
  | freed holdId seatIds => exact (dated eventId).freeSeats holdId seatIds
  | put accepted _ => exact (dated eventId).put accepted rowsDated _
  | lost => exact SeatMap.dated_missing

/-! ## When a command is accepted -/

/-- The seat is available, or held with a deadline that has passed. -/
def SeatEntry.Free (entry : SeatEntry) (now : Int) : Prop :=
  entry.status = .available ∨
    (entry.status = .held ∧
      ∃ deadline,
        entry.reservedUntilEpoch = some deadline ∧ deadline ≤ now * second)

theorem SeatEntry.Dated.taken_iff
    {entry : SeatEntry}
    (dated : entry.Dated)
    (now : Int) :
    entry.taken now = false ↔ entry.Free now := by
  unfold taken expired Free
  cases isStatus : entry.status with
  | available => simp
  | sold => simp
  | held =>
      obtain ⟨deadline, isDeadline⟩ :=
        Option.ne_none_iff_exists'.mp (dated isStatus)
      simp [isDeadline]

/-- What `ENQUEUE` requires of the command and of Redis. -/
structure RedisReservationIntake.Admits
    (intake : RedisReservationIntake Hash)
    (command : NewCommand)
    (now : Int)
    (redis : Redis Hash) : Prop where
  versioned : (redis.maps command.eventId).version ≠ none
  readable : (redis.maps command.eventId).updating = false
  onSale :
    ∃ sale,
      (redis.maps command.eventId).sale = some sale ∧
        sale.startsEpoch ≤ now * second ∧ now * second < sale.endsEpoch
  keyUnused : redis.idems.find? (command.eventId, command.identity) = none
  backlog :
    (redis.streams command.eventId).entries.length < intake.maxBacklog
  seats :
    ∀ seatId ∈ command.seatIds,
      ∃ entry,
        (redis.maps command.eventId).seats.find? seatId = some entry ∧
          entry.Free now

/-- Every check of `ENQUEUE` passes except perhaps that of the seats' owners. -/
structure RedisReservationIntake.Reaches
    (intake : RedisReservationIntake Hash)
    (command : NewCommand)
    (now : Int)
    (redis : Redis Hash) : Prop where
  versioned : (redis.maps command.eventId).version ≠ none
  readable : (redis.maps command.eventId).updating = false
  onSale :
    ∃ sale,
      (redis.maps command.eventId).sale = some sale ∧
        sale.startsEpoch ≤ now * second ∧ now * second < sale.endsEpoch
  keyUnused : redis.idems.find? (command.eventId, command.identity) = none
  backlog :
    (redis.streams command.eventId).entries.length < intake.maxBacklog
  seats :
    ∀ seatId ∈ command.seatIds,
      (redis.maps command.eventId).seats.find? seatId ≠ none

/-- The loop over the seats succeeds when each of them is there and free. -/
theorem SeatMap.selectSeats_isOk
    {map : SeatMap}
    {seats : List SeatId}
    {now : Int}
    (free :
      ∀ seatId ∈ seats,
        ∃ entry,
          map.seats.find? seatId = some entry ∧ entry.taken now = false) :
    ∃ selected, map.selectSeats seats now = .ok selected := by
  unfold selectSeats
  induction seats with
  | nil => exact ⟨[], rfl⟩
  | cons seatId rest inductionHypothesis =>
      obtain ⟨entry, found, isFree⟩ := free seatId List.mem_cons_self
      obtain ⟨others, restSelected⟩ :=
        inductionHypothesis fun other member =>
          free other (List.mem_cons_of_mem seatId member)
      refine ⟨entry :: others, ?_⟩
      simp only [List.mapM_cons, bind_eq_ok, require_eq_ok, ensure_eq_ok,
        pure_eq_ok]
      exact ⟨entry, ⟨entry, found, (), isFree, rfl⟩, others, restSelected,
        rfl⟩

namespace RedisReservationIntake

variable
  {self : RedisReservationIntake Hash}
  {command : NewCommand}
  {now : Int}
  {redis : Redis Hash}

theorem mem_seats
    {seatId : SeatId} :
    seatId ∈ command.seats ↔ seatId ∈ command.seatIds := by
  rw [NewCommand.seats, mem_sortedSeats, List.mem_dedup]

/-- The checks that an accepted command passed are those it had to pass. -/
theorem Accepts.admits
    {sale : SaleWindow}
    {version : Nat}
    {selected : List SeatEntry}
    (dated : redis.Dated)
    (accepts : self.Accepts command now redis sale version selected) :
    self.Admits command now redis where
  versioned := ne_of_eq_of_ne accepts.versioned nofun
  readable := accepts.readable
  onSale := ⟨sale, accepts.onSale⟩
  keyUnused := accepts.keyUnused
  backlog := accepts.backlog
  seats := by
    intro seatId wanted
    rw [← mem_seats, ← accepts.seats] at wanted
    obtain ⟨entry, member, rfl⟩ := List.mem_map.mp wanted
    obtain ⟨found, isFree⟩ := accepts.free entry member
    exact ⟨entry, found,
      ((dated command.eventId _ entry found).taken_iff now).mp isFree⟩

theorem Admits.reaches
    (admits : self.Admits command now redis) :
    self.Reaches command now redis where
  versioned := admits.versioned
  readable := admits.readable
  onSale := admits.onSale
  keyUnused := admits.keyUnused
  backlog := admits.backlog
  seats := by
    intro seatId wanted
    obtain ⟨entry, found, _⟩ := admits.seats seatId wanted
    exact ne_of_eq_of_ne found (Option.some_ne_none entry)

/-- What is left to decide is the loop over the seats. -/
theorem Reaches.enqueue_eq
    [DecidableEq Hash]
    (reaches : self.Reaches command now redis) :
    ∃ sale version,
      self.enqueue command now redis =
        match (redis.maps command.eventId).selectSeats command.seats now with
        | .ok selected =>
            (.accepted (self.accept command now sale version selected redis).1,
              (self.accept command now sale version selected redis).2)
        | .error failure => (.refused failure, redis) := by
  obtain ⟨version, versioned⟩ :=
    Option.ne_none_iff_exists'.mp reaches.versioned
  obtain ⟨sale, onSale, started, unended⟩ := reaches.onSale
  have opened :
      ¬ (now * second < sale.startsEpoch ∨
        sale.endsEpoch ≤ now * second) := by
    omega
  refine ⟨sale, version, ?_⟩
  simp only [enqueue, versioned, reaches.readable, onSale, if_neg opened,
    reaches.keyUnused, tryAccept, ensure_bind_of_true reaches.backlog]
  cases (redis.maps command.eventId).selectSeats command.seats now with
  | ok selected => rfl
  | error failure => rfl

/-- A command whose seats are free is accepted. -/
theorem Reaches.accepted
    [DecidableEq Hash]
    (reaches : self.Reaches command now redis)
    (free :
      ∀ seatId ∈ command.seatIds,
        ∃ entry,
          (redis.maps command.eventId).seats.find? seatId = some entry ∧
            entry.taken now = false) :
    ∃ response,
      (self.enqueue command now redis).1 = .accepted response := by
  obtain ⟨sale, version, isReply⟩ := reaches.enqueue_eq
  obtain ⟨selected, isSelected⟩ :
      ∃ selected,
        (redis.maps command.eventId).selectSeats command.seats now =
          .ok selected := by
    apply SeatMap.selectSeats_isOk
    intro seatId member
    exact free seatId (mem_seats.mp member)
  rw [isReply, isSelected]
  exact ⟨_, rfl⟩

/-- A command that passes every check is accepted. -/
theorem Admits.accepted
    [DecidableEq Hash]
    (dated : redis.Dated)
    (admits : self.Admits command now redis) :
    ∃ response,
      (self.enqueue command now redis).1 = .accepted response := by
  apply admits.reaches.accepted
  intro seatId wanted
  obtain ⟨entry, found, isFree⟩ := admits.seats seatId wanted
  exact ⟨entry, found,
    ((dated command.eventId _ entry found).taken_iff now).mpr isFree⟩

end RedisReservationIntake

/-! ## What an accepted command changes -/

/-- The price of a seat, or zero. -/
def SeatMap.price (map : SeatMap) (seatId : SeatId) : Nat :=
  ((map.seats.find? seatId).map SeatEntry.price).getD 0

/-- The seats of the command are its own, and all else of the map is kept. -/
structure NewCommand.Takes
    (command : NewCommand)
    (response : CommandResponse)
    (map after : SeatMap) : Prop where
  version :
    ∃ version,
      map.version = some version ∧
        after.version = some (version + command.seats.length)
  updating : after.updating = map.updating
  incarnation : after.incarnation = map.incarnation
  layout : after.layout = map.layout
  sale : after.sale = map.sale
  own :
    ∀ seatId ∈ command.seatIds,
      ∃ old entry,
        map.seats.find? seatId = some old ∧
          after.seats.find? seatId = some entry ∧
          entry.status = .held ∧
          entry.holdId = some command.holdId ∧
          entry.reservedUntil = some (.iso response.expiresAt) ∧
          entry.reservedUntilEpoch =
            some (response.expiresAtEpoch * second) ∧
          entry.price = old.price ∧
          entry.sourceVersion = old.sourceVersion
  others :
    ∀ seatId ∉ command.seatIds,
      after.seats.find? seatId = map.seats.find? seatId

/-- One command, one record, one member and one entry are added. -/
structure RedisReservationIntake.Enters
    (intake : RedisReservationIntake Hash)
    (command : NewCommand)
    (now : Int)
    (response : CommandResponse)
    (redis after : Redis Hash) : Prop where
  total :
    response.total =
      (command.seats.map (redis.maps command.eventId).price).sum
  deadline : response.expiresAtEpoch = now + intake.holdSeconds
  map :
    command.Takes response (redis.maps command.eventId)
      (after.maps command.eventId)
  otherMaps :
    ∀ eventId, eventId ≠ command.eventId →
      after.maps eventId = redis.maps eventId
  commandFresh :
    redis.commands.find? (command.eventId, command.commandId) = none
  commands :
    ∀ key,
      after.commands.find? key =
        if key = (command.eventId, command.commandId) then
          some {
            eventId := command.eventId
            commandId := command.commandId
            status := .pending
            response := response
            payload := intake.payload command
            createdAtEpoch := now }
        else
          redis.commands.find? key
  idemFresh :
    redis.idems.find? (command.eventId, command.identity) = none
  idems :
    ∀ key,
      after.idems.find? key =
        if key = (command.eventId, command.identity) then
          some {
            eventId := command.eventId
            identity := command.identity
            requestHash := intake.digest command.request
            response := response }
        else
          redis.idems.find? key
  stream :
    (after.streams command.eventId).entries =
      (redis.streams command.eventId).entries ++ [{
        messageId := (redis.streams command.eventId).lastId + 1
        commandId := command.commandId
        payload := intake.payload command
        response := response
        createdAtEpoch := now }]
  otherStreams :
    ∀ eventId, eventId ≠ command.eventId →
      after.streams eventId = redis.streams eventId
  expiry :
    ∀ eventId commandId,
      after.expiry eventId commandId =
        if eventId = command.eventId ∧ commandId = command.commandId then
          some response.expiresAtEpoch
        else
          redis.expiry eventId commandId

namespace RedisReservationIntake

variable
  {self : RedisReservationIntake Hash}
  {command : NewCommand}
  {now : Int}
  {redis : Redis Hash}
  {sale : SaleWindow}
  {version : Nat}
  {selected : List SeatEntry}

/-- The total is the sum of the prices that the map has for the seats. -/
theorem Accepts.prices
    (accepts : self.Accepts command now redis sale version selected) :
    selected.map SeatEntry.price =
      command.seats.map (redis.maps command.eventId).price := by
  rw [← accepts.seats, List.map_map]
  apply List.map_congr_left
  intro entry member
  simp [SeatMap.price, (accepts.free entry member).1]

theorem Accepts.takes
    (accepts : self.Accepts command now redis sale version selected)
    (response : CommandResponse)
    (isHold : response.holdId = command.holdId) :
    command.Takes response (redis.maps command.eventId)
      ((redis.maps command.eventId).takeSeats response version selected) := by
  have count : selected.length = command.seats.length := by
    rw [← accepts.seats, List.length_map]
  have distinct : (selected.map SeatEntry.seatId).Nodup := by
    rw [accepts.seats]
    exact (List.perm_insertionSort _ _).nodup_iff.mpr
      (List.nodup_dedup command.seatIds)
  refine ⟨⟨version, accepts.versioned, ?_⟩, rfl, rfl, rfl, rfl, ?_, ?_⟩
  · rw [← count]
    rfl
  · intro seatId wanted
    rw [← mem_seats, ← accepts.seats] at wanted
    obtain ⟨old, member, rfl⟩ := List.mem_map.mp wanted
    obtain ⟨stamp, taken⟩ :=
      SeatMap.find?_takeSeats_of_mem distinct member
    exact ⟨old, _, (accepts.free old member).1, taken, rfl,
      congrArg some isHold, rfl, rfl, rfl, rfl⟩
  · intro seatId unwanted
    apply SeatMap.find?_takeSeats_of_not_mem
    rw [accepts.seats, mem_seats]
    exact unwanted

theorem Accepts.enters
    (accepts : self.Accepts command now redis sale version selected)
    (fresh :
      redis.commands.find? (command.eventId, command.commandId) = none) :
    self.Enters command now
      (self.accept command now sale version selected redis).1 redis
      (self.accept command now sale version selected redis).2 where
  total := by rw [← accepts.prices]; rfl
  deadline := rfl
  map := by
    change command.Takes _ _
      (Function.update redis.maps command.eventId _ command.eventId)
    rw [Function.update_self]
    exact accepts.takes _ rfl
  otherMaps := fun eventId other => Function.update_of_ne other _ _
  commandFresh := fresh
  commands := fun key => Table.find?_upsert redis.commands _ key
  idemFresh := accepts.keyUnused
  idems := fun key => Table.find?_upsert redis.idems _ key
  stream := by
    change (Function.update redis.streams command.eventId _
      command.eventId).entries = _
    rw [Function.update_self]
    rfl
  otherStreams := fun eventId other => Function.update_of_ne other _ _
  expiry := by
    intro eventId commandId
    change Function.update redis.expiry command.eventId
      (Function.update _ command.commandId _) eventId commandId = _
    by_cases sameEvent : eventId = command.eventId
    · subst sameEvent
      rw [Function.update_self, Function.update_apply]
      simp only [true_and]
      rfl
    · rw [Function.update_of_ne sameEvent, if_neg]
      exact fun both => sameEvent both.1

end RedisReservationIntake

/-! ## All or nothing -/

section Atomicity

variable
  [DecidableEq Hash]
  {intake : RedisReservationIntake Hash}
  {redis : Redis Hash}
  {actions : List RedisAction}

omit [DecidableEq Hash] in
/-- `MARK_FAILED` changes no entry of another hold. -/
theorem Redis.find?_markFailed_of_ne
    {eventId commandId : Uuid}
    {seatId : SeatId}
    {entry : SeatEntry}
    (later : Redis Hash)
    (found : (later.maps eventId).seats.find? seatId = some entry)
    (other :
      ∀ failed,
        later.commands.find? (eventId, commandId) = some failed →
        entry.holdId ≠ some failed.response.holdId)
    (seatIds : List SeatId)
    (code : FailureCode) :
    ((later.markFailed eventId commandId seatIds code).2.maps
        eventId).seats.find? seatId = some entry := by
  rcases later.markFailed_cases eventId commandId seatIds code with
    ⟨refused, _⟩ | ⟨failed, isFailed, _, marked⟩
  · rw [refused]
    exact found
  · rw [marked]
    change (Function.update later.maps eventId _ eventId).seats.find? _ = _
    rw [Function.update_self]
    exact Redis.find?_freeSeats_of_ne found (other failed isFailed)

/--
A refused command changes nothing; a command is accepted exactly when it passes
every check, and then changes exactly what is its own; and a later verdict on
one command does not touch the seats of another.
-/
theorem enqueue_all_or_nothing
    (run : Run (DatedStep intake) { maps := fun _ => {} } actions redis)
    (command : NewCommand)
    (fresh :
      redis.commands.find? (command.eventId, command.commandId) = none)
    (now : Int) :
    ((∀ response,
        (intake.enqueue command now redis).1 ≠ .accepted response) →
      (intake.enqueue command now redis).2 = redis) ∧
    ((∃ response,
        (intake.enqueue command now redis).1 = .accepted response) ↔
      intake.Admits command now redis) ∧
    (∀ response,
      (intake.enqueue command now redis).1 = .accepted response →
      intake.Enters command now response redis
        (intake.enqueue command now redis).2) ∧
    ∀ (later : Redis Hash) (eventId commandId : Uuid) (seatId : SeatId)
      (entry : SeatEntry),
      (later.maps eventId).seats.find? seatId = some entry →
      (∀ failed,
        later.commands.find? (eventId, commandId) = some failed →
        entry.holdId ≠ some failed.response.holdId) →
      ∀ seatIds code,
        ((later.markFailed eventId commandId seatIds code).2.maps
          eventId).seats.find? seatId = some entry := by
  have dated : redis.Dated :=
    run.invariant (fun _ => SeatMap.dated_missing) fun holds step =>
      holds.step step
  refine ⟨?_, ?_, ?_, ?_⟩
  · intro refused
    rcases intake.enqueue_cases command now redis with
      ⟨same, _⟩ | ⟨sale, version, selected, _, accepted⟩
    · exact same
    · exact absurd (congrArg Prod.fst accepted) (refused _)
  · constructor
    · rintro ⟨response, isAccepted⟩
      rcases intake.enqueue_cases command now redis with
        ⟨_, refused⟩ | ⟨sale, version, selected, accepts, _⟩
      · exact absurd isAccepted (refused response)
      · exact accepts.admits dated
    · intro admits
      exact admits.accepted dated
  · intro response isAccepted
    rcases intake.enqueue_cases command now redis with
      ⟨_, refused⟩ | ⟨sale, version, selected, accepts, accepted⟩
    · exact absurd isAccepted (refused response)
    · rw [accepted] at isAccepted ⊢
      cases isAccepted
      exact accepts.enters fresh
  · intro later eventId commandId seatId entry found other
    exact later.find?_markFailed_of_ne found other

end Atomicity

/-- The rows that the map of the small sale is published with. -/
theorem snapshotRows_dated :
    ∀ row ∈ snapshotRows smallSale 1, row.Dated := by
  intro row member
  obtain ⟨seat, isRow, rfl⟩ := List.mem_map.mp member
  apply seatState_dated
  revert seat
  decide

/-- The command for both seats of the published map. -/
theorem enqueue_all_or_nothing_smallCommand :
    Run (DatedStep smallIntake) { maps := fun _ => {} }
        [.put 1 (.full (publication smallEvent (snapshotRows smallSale 1)
          700)) (snapshotRows smallSale 1) 100] openRedis ∧
      openRedis.commands.find? (1, smallCommand.commandId) = none ∧
      smallIntake.Admits smallCommand 1 openRedis ∧
      smallIntake.Enters smallCommand 1
        (smallIntake.response smallCommand 1 1000 "THB") openRedis
        heldRedis := by
  have run :
      Run (DatedStep smallIntake) { maps := fun _ => {} }
        [.put 1 (.full (publication smallEvent (snapshotRows smallSale 1)
          700)) (snapshotRows smallSale 1) 100] openRedis :=
    .cons ⟨.put rfl (by simp [publication]), snapshotRows_dated⟩ (.nil _)
  have whole := enqueue_all_or_nothing run smallCommand rfl 1
  have accepted := congrArg Prod.fst smallCommand_accepted
  exact ⟨run, rfl, whole.2.1.mp ⟨_, accepted⟩, whole.2.2.1 _ accepted⟩

end FlashTicketing
