import FlashTicketing.SeatRefresh

namespace FlashTicketing

open Relational Checked Transition

/-!
# Dirty seats are refreshed

A requested seat stays in its row until a refresh worker has put a read that
came after the request.  The token of a lease fences acknowledgements: while a
row carries it, nobody else has completed the row since the claim, and an
unchanged generation means that nothing was requested since then.
-/

variable {Hash : Type}

/-- The seat is in the list, or there is no list. -/
def Names (seatIds : Option (List SeatId)) (seatId : SeatId) : Prop :=
  ∀ listed ∈ seatIds, seatId ∈ listed

/-! ## The rows of the queue -/

theorem eventId_requestedRow
    (eventId : Uuid)
    (seatIds : Option (List SeatId))
    (now : Int)
    (requests : Table SeatRefreshRequest) :
    (requestedRow eventId seatIds now requests).eventId = eventId := by
  unfold requestedRow
  split
  · rfl
  · rename_i row found
    exact Table.key_of_find? found

/-- The queue after a request. -/
theorem find?_requested
    (eventId : Uuid)
    (seatIds : Option (List SeatId))
    (now : Int)
    (requests : Table SeatRefreshRequest)
    (id : Uuid) :
    (requests.upsert (requestedRow eventId seatIds now requests)).find? id =
      if id = eventId then
        some (requestedRow eventId seatIds now requests)
      else
        requests.find? id := by
  rw [Table.find?_upsert]
  change (if id = (requestedRow eventId seatIds now requests).eventId then
    _ else _) = _
  rw [eventId_requestedRow]

/-- A requested row names the requested seats. -/
theorem names_requestedRow
    {eventId : Uuid}
    {seatIds : Option (List SeatId)}
    {now : Int}
    {requests : Table SeatRefreshRequest}
    {seatId : SeatId}
    (named : Names seatIds seatId) :
    Names (requestedRow eventId seatIds now requests).seatIds seatId := by
  unfold requestedRow
  split
  · exact named
  · rename_i row _
    simp only [SeatRefreshRequest.request]
    split
    · exact named
    · split
      · intro listed isListed
        cases isListed
        rw [List.mem_dedup, List.mem_append]
        exact Or.inr (named _ rfl)
      · intro listed isListed
        cases isListed

/-- A row that is due keeps its seats when more are requested. -/
theorem names_request
    {row : SeatRefreshRequest}
    {seatIds : Option (List SeatId)}
    {now : Int}
    {seatId : SeatId}
    (dirty : row.completedGeneration < row.generation)
    (named : Names row.seatIds seatId) :
    Names (row.request seatIds now).seatIds seatId := by
  simp only [SeatRefreshRequest.request]
  rw [if_neg (Nat.ne_of_gt dirty)]
  split
  · rename_i stored added isStored
    intro listed isListed
    cases isListed
    rw [List.mem_dedup, List.mem_append]
    exact Or.inl (named _ isStored)
  · intro listed isListed
    cases isListed

theorem mem_claimedRows
    {limit : Nat}
    {locked : List Uuid}
    {now : Int}
    {requests : Table SeatRefreshRequest}
    {row : SeatRefreshRequest}
    (claimed : row ∈ claimedRows limit locked now requests) :
    requests.find? row.eventId = some row ∧
      row.completedGeneration < row.generation := by
  obtain ⟨listed, due⟩ :=
    List.mem_filter.mp (List.mem_of_mem_take claimed)
  obtain ⟨id, _, found⟩ := List.mem_filterMap.mp listed
  have sameId : row.eventId = id := Table.key_of_find? found
  rw [sameId]
  exact ⟨found, (of_decide_eq_true due).1⟩

/--
Rows stay with their generation, and those that carry the token afterwards are
as before.
-/
def KeepsLease
    (token : Uuid)
    (requests after : Table SeatRefreshRequest) : Prop :=
  ∀ eventId row,
    requests.find? eventId = some row →
    ∃ next,
      after.find? eventId = some next ∧
        next.generation = row.generation ∧
        (next.leaseToken = some token → next = row)

/-- A rewrite of rows that keeps generations and gives nobody else a lease. -/
theorem keepsLease_modify
    {token : Uuid}
    {requests : Table SeatRefreshRequest}
    {condition : SeatRefreshRequest → Bool}
    {update : SeatRefreshRequest → SeatRefreshRequest}
    (keepsKey : ∀ row, Keyed.key (update row) = Keyed.key row)
    (sameGeneration : ∀ row, (update row).generation = row.generation)
    (otherToken : ∀ row, (update row).leaseToken ≠ some token) :
    KeepsLease token requests
      (requests.modify condition update keepsKey) := by
  intro eventId row found
  refine ⟨if condition row then update row else row, ?_, ?_, ?_⟩
  · rw [Table.find?_modify, found]
    rfl
  · split
    · exact sameGeneration row
    · rfl
  · split
    · exact fun isToken => absurd isToken (otherToken row)
    · exact fun _ => rfl

theorem keepsLease_leaseRows
    {token other : Uuid}
    {now : Int}
    {claimed : List SeatRefreshRequest}
    {requests : Table SeatRefreshRequest}
    (different : other ≠ token) :
    KeepsLease other requests (leaseRows token now claimed requests) := by
  unfold leaseRows
  refine keepsLease_modify _ (fun _ => rfl) ?_
  intro row isToken
  exact different (Option.some.inj isToken).symm

theorem keepsLease_completeRow
    {token other : Uuid}
    {claimedAt now : Int}
    {cooldownMs : Nat}
    {claimed : SeatRefreshRequest}
    {requests : Table SeatRefreshRequest} :
    KeepsLease other requests
      (completeRow token claimedAt cooldownMs now requests claimed) := by
  unfold completeRow
  refine keepsLease_modify _ (fun _ => rfl) ?_
  intro row isToken
  cases isToken

theorem keepsLease_refl
    (token : Uuid)
    (requests : Table SeatRefreshRequest) :
    KeepsLease token requests requests :=
  fun _ row found => ⟨row, found, rfl, fun _ => rfl⟩

/-! ## Reads -/

theorem Projection.ReadFor.sameEvent
    {db : Database Hash}
    {row : SeatRefreshRequest}
    {reading : Reading}
    {projection : Projection}
    (readFor : projection.ReadFor db row reading) :
    projection.eventId = row.eventId := by
  cases readFor with
  | changed => rfl
  | snapshot => rfl

theorem Projection.ReadFor.readFrom
    {db : Database Hash}
    {row : SeatRefreshRequest}
    {reading : Reading}
    {projection : Projection}
    (readFor : projection.ReadFor db row reading) :
    projection.ReadFrom db := by
  cases readFor with
  | changed => exact .patch
  | snapshot _ found => exact .full found

/-- A read has the current rows of the seats that it covers. -/
theorem Projection.ReadFor.current
    {db : Database Hash}
    {row : SeatRefreshRequest}
    {reading : Reading}
    {projection : Projection}
    {seatId : SeatId}
    {seat : EventSeat}
    (readFor : projection.ReadFor db row reading)
    (named : Names (projection.seatIds row) seatId)
    (found :
      db.eventSeats.find? (projection.eventId, seatId) = some seat) :
    seatState seat ∈ projection.rows ∧ seat.seatId = seatId := by
  have place : seat.place = (projection.eventId, seatId) :=
    Table.key_of_find? found
  have isSeat : seat.seatId = seatId := congrArg Prod.snd place
  subst isSeat
  refine ⟨?_, rfl⟩
  cases readFor with
  | changed listed =>
      exact mem_changedRows.mpr ⟨⟨seat, found, rfl⟩, named _ listed⟩
  | snapshot => exact mem_snapshotRows.mpr ⟨seat, found, rfl⟩

/-! ## The invariant -/

namespace RefreshWorld

/-- The seat waits in the row of its event. -/
def Waits
    (world : RefreshWorld Hash)
    (eventId : Uuid)
    (seatId : SeatId) : Prop :=
  ∃ row,
    world.db.seatRefreshRequests.find? eventId = some row ∧
      row.completedGeneration < row.generation ∧
      Names row.seatIds seatId

/-- A worker put the seat from a read after the request with this index. -/
def Refreshed
    (world : RefreshWorld Hash)
    (index : Nat)
    (eventId : Uuid)
    (seatId : SeatId) : Prop :=
  ∃ put ∈ world.puts,
    put.eventId = eventId ∧
      Names put.seatIds seatId ∧ index < put.recorded

/-- What the claim of a row by a worker still means. -/
structure Holds
    (world : RefreshWorld Hash)
    (worker : RefreshWorker)
    (claimed : SeatRefreshRequest) : Prop where
  stored :
    ∃ row,
      world.db.seatRefreshRequests.find? claimed.eventId = some row ∧
        claimed.generation ≤ row.generation ∧
        (row.leaseToken = some worker.token →
          row.completedGeneration ≤ claimed.generation) ∧
        (row.generation = claimed.generation →
          ∀ {index record},
            world.requests[index]? = some record →
            record.eventId = claimed.eventId →
            index < worker.recorded)
  covered :
    ∀ {index record seatId},
      world.requests[index]? = some record →
      record.eventId = claimed.eventId →
      index < worker.recorded →
      Names record.seatIds seatId →
      Names claimed.seatIds seatId ∨
        world.Refreshed index claimed.eventId seatId

/-- The claims, the read and the completed rows of a worker. -/
structure WorkerFenced
    (world : RefreshWorld Hash)
    (worker : RefreshWorker) : Prop where
  recorded : worker.recorded ≤ world.requests.length
  holds :
    ∀ {claimed},
      claimed ∈ worker.pending ∨ claimed ∈ worker.completed →
      world.Holds worker claimed
  read :
    ∀ {projection recorded},
      worker.reading = .read projection recorded →
      worker.recorded ≤ recorded ∧
        ∃ row rest,
          worker.pending = row :: rest ∧
            projection.eventId = row.eventId
  done :
    ∀ {claimed},
      claimed ∈ worker.completed →
      ∃ put ∈ world.puts,
        put.eventId = claimed.eventId ∧
          worker.recorded ≤ put.recorded ∧
          ∀ seatId, Names claimed.seatIds seatId → Names put.seatIds seatId

/-- No requested seat is lost, and generations are completed in order. -/
structure Fenced (world : RefreshWorld Hash) : Prop where
  bounded :
    ∀ {eventId row},
      world.db.seatRefreshRequests.find? eventId = some row →
      row.completedGeneration ≤ row.generation
  workers :
    ∀ {slot worker},
      world.workers slot = some worker →
      world.WorkerFenced worker
  kept :
    ∀ {index record seatId},
      world.requests[index]? = some record →
      Names record.seatIds seatId →
      world.Waits record.eventId seatId ∨
        world.Refreshed index record.eventId seatId

variable
  {world after : RefreshWorld Hash}
  {worker : RefreshWorker}
  {claimed : SeatRefreshRequest}

theorem Refreshed.mono
    {index : Nat}
    {eventId : Uuid}
    {seatId : SeatId}
    (refreshed : world.Refreshed index eventId seatId)
    (puts : world.puts ⊆ after.puts) :
    after.Refreshed index eventId seatId := by
  obtain ⟨put, member, rest⟩ := refreshed
  exact ⟨put, puts member, rest⟩

/-- Claims outlive changes of the queue that keep the lease. -/
theorem Holds.mono
    (holds : world.Holds worker claimed)
    (lease :
      KeepsLease worker.token world.db.seatRefreshRequests
        after.db.seatRefreshRequests)
    (requests : after.requests = world.requests)
    (puts : world.puts ⊆ after.puts) :
    after.Holds worker claimed := by
  obtain ⟨row, found, later, fenced, unrequested⟩ := holds.stored
  obtain ⟨next, nextFound, sameGeneration, sameRow⟩ := lease _ row found
  refine ⟨⟨next, nextFound, ?_, ?_, ?_⟩, ?_⟩
  · rw [sameGeneration]
    exact later
  · intro isToken
    have isRow := sameRow isToken
    subst isRow
    exact fenced isToken
  · rw [sameGeneration, requests]
    exact unrequested
  · rw [requests]
    intro index record seatId recordAt ofEvent before named
    exact (holds.covered recordAt ofEvent before named).imp_right
      (Refreshed.mono · puts)

theorem WorkerFenced.mono
    (fenced : world.WorkerFenced worker)
    (lease :
      KeepsLease worker.token world.db.seatRefreshRequests
        after.db.seatRefreshRequests)
    (requests : after.requests = world.requests)
    (puts : world.puts ⊆ after.puts) :
    after.WorkerFenced worker := by
  refine ⟨?_, ?_, fenced.read, ?_⟩
  · rw [requests]
    exact fenced.recorded
  · intro claimed listed
    exact (fenced.holds listed).mono lease requests puts
  · intro claimed listed
    obtain ⟨put, member, rest⟩ := fenced.done listed
    exact ⟨put, puts member, rest⟩

end RefreshWorld

/-! ## Transactions -/

section Transactions

variable [DecidableEq Hash]

/-- What a transaction does to the inbox, the queue and its history. -/
inductive Queues
    (self : PostgresReservations Hash)
    (call : Call Hash)
    (ambient : Ambient)
    (db after : Database Hash) : Prop where
  | unchanged
      (same : SameQueue db after)
      (records : self.recordedBy call ambient db = [])
  | noted
      (envelope : Envelope)
      (called : call = .consumeEvent envelope)
      (message :
        ∀ eventId seatIds,
          envelope.message ≠ .seatsChanged eventId seatIds)
      (inbox :
        ∀ id,
          after.consumerInbox.find? id ≠ none ↔
            id = envelope.eventId ∨ db.consumerInbox.find? id ≠ none)
      (refresh : after.seatRefreshRequests = db.seatRefreshRequests)
      (records : self.recordedBy call ambient db = [])
  | requested
      (envelope : Envelope)
      (eventId : Uuid)
      (seatIds : Option (List SeatId))
      (called : call = .consumeEvent envelope)
      (message : envelope.message = .seatsChanged eventId seatIds)
      (inbox :
        ∀ id,
          after.consumerInbox.find? id ≠ none ↔
            id = envelope.eventId ∨ db.consumerInbox.find? id ≠ none)
      (refresh :
        after.seatRefreshRequests =
          db.seatRefreshRequests.upsert
            (requestedRow eventId seatIds ambient.now
              db.seatRefreshRequests))
      (records :
        self.recordedBy call ambient db = [⟨eventId, seatIds⟩])

theorem queues_of_transaction
    (self : PostgresReservations Hash)
    (call : Call Hash)
    (ambient : Ambient)
    (db : Database Hash) :
    Queues self call ambient db (self.transaction call ambient db).2 := by
  cases answered : self.transaction call ambient db with
  | mk answer after =>
      cases answer with
      | error error =>
          have unchanged :=
            PostgresReservations.unchanged_of_transaction answered
          subst unchanged
          refine .unchanged (.refl _) ?_
          unfold PostgresReservations.recordedBy
          rw [answered]
          split
          · rename_i returned
            cases returned
          · rfl
      | ok result =>
          have accepted :=
            PostgresReservations.body_of_transaction answered
          cases consumed : call.envelope? with
          | none =>
              refine .unchanged
                (PostgresReservations.frame_of_body consumed
                  accepted).toSameQueue ?_
              unfold PostgresReservations.recordedBy
              rw [consumed]
          | some envelope =>
              have called : call = .consumeEvent envelope := by
                cases call <;> cases consumed
                rfl
              subst called
              simp only [PostgresReservations.body, bind_eq_ok, pure_eq_ok,
                Prod.mk.injEq] at accepted
              obtain ⟨_, accepted, _, rfl⟩ := accepted
              cases consumes_of_consumeEvent accepted with
              | again taken unchanged =>
                  subst unchanged
                  refine .unchanged (.refl _) ?_
                  simp only [PostgresReservations.recordedBy, consumed, answered]
                  split
                  · rename_i absent
                    exact absurd absent taken
                  · rfl
              | requested eventId seatIds fresh message inbox refresh =>
                  refine .requested envelope eventId seatIds rfl message
                    inbox refresh ?_
                  simp only [PostgresReservations.recordedBy, consumed,
                    answered, message, fresh]
              | other fresh message inbox refresh =>
                  refine .noted envelope rfl message inbox refresh ?_
                  simp only [PostgresReservations.recordedBy, consumed, answered]
                  split
                  · rename_i isMessage _
                    exact absurd isMessage (message _ _)
                  · rfl

end Transactions

/-! ## Steps -/

/-- An entry of a list with one more at its end. -/
theorem getElem?_concat_cases
    {Item : Type}
    {items : List Item}
    {last item : Item}
    {index : Nat}
    (atIndex : (items ++ [last])[index]? = some item) :
    items[index]? = some item ∨ (index = items.length ∧ item = last) := by
  rw [List.getElem?_append] at atIndex
  split at atIndex
  · exact Or.inl atIndex
  · rename_i beyond
    rw [List.getElem?_singleton] at atIndex
    split at atIndex
    · exact Or.inr ⟨by omega, (Option.some.inj atIndex).symm⟩
    · cases atIndex

namespace RefreshWorld

variable
  {world after : RefreshWorld Hash}
  {worker : RefreshWorker}
  {claimed : SeatRefreshRequest}

theorem Waits.of_eq
    {eventId : Uuid}
    {seatId : SeatId}
    (waits : world.Waits eventId seatId)
    (refresh :
      after.db.seatRefreshRequests = world.db.seatRefreshRequests) :
    after.Waits eventId seatId := by
  unfold Waits
  rw [refresh]
  exact waits

/-- A step that leaves the queue alone. -/
theorem Fenced.of_queue
    (fenced : world.Fenced)
    (refresh :
      after.db.seatRefreshRequests = world.db.seatRefreshRequests)
    (requests : after.requests = world.requests)
    (puts : world.puts ⊆ after.puts)
    (workers :
      ∀ {slot worker},
        after.workers slot = some worker →
        world.workers slot = some worker ∨ after.WorkerFenced worker) :
    after.Fenced := by
  refine ⟨?_, ?_, ?_⟩
  · rw [refresh]
    exact fenced.bounded
  · intro slot worker working
    rcases workers working with old | new
    · refine (fenced.workers old).mono ?_ requests puts
      rw [refresh]
      exact keepsLease_refl _ _
    · exact new
  · rw [requests]
    intro index record seatId recordAt named
    exact (fenced.kept recordAt named).imp (Waits.of_eq · refresh)
      (Refreshed.mono · puts)

/-! ### Requests -/

/-- A claim of a row outlives a request. -/
theorem Holds.requested
    {eventId : Uuid}
    {seatIds : Option (List SeatId)}
    {now : Int}
    (holds : world.Holds worker claimed)
    (recorded : worker.recorded ≤ world.requests.length)
    (refresh :
      after.db.seatRefreshRequests =
        world.db.seatRefreshRequests.upsert
          (requestedRow eventId seatIds now world.db.seatRefreshRequests))
    (requests : after.requests = world.requests ++ [⟨eventId, seatIds⟩])
    (puts : after.puts = world.puts) :
    after.Holds worker claimed := by
  obtain ⟨row, found, later, fenced, unrequested⟩ := holds.stored
  refine ⟨?_, ?_⟩
  · by_cases same : claimed.eventId = eventId
    · subst same
      have isRow :
          requestedRow claimed.eventId seatIds now
              world.db.seatRefreshRequests =
            row.request seatIds now := by
        rw [requestedRow, found]
      refine ⟨row.request seatIds now, ?_, ?_, fenced, ?_⟩
      · rw [refresh, find?_requested, if_pos rfl, isRow]
      · exact later.trans (Nat.le_succ _)
      · intro sameGeneration
        have grown : row.generation + 1 = claimed.generation :=
          sameGeneration
        omega
    · refine ⟨row, ?_, later, fenced, ?_⟩
      · rw [refresh, find?_requested, if_neg same]
        exact found
      · intro sameGeneration index record recordAt ofEvent
        rw [requests] at recordAt
        rcases getElem?_concat_cases recordAt with old | ⟨_, rfl⟩
        · exact unrequested sameGeneration old ofEvent
        · exact absurd ofEvent.symm same
  · intro index record seatId recordAt ofEvent before named
    rw [requests] at recordAt
    rcases getElem?_concat_cases recordAt with old | ⟨isLast, _⟩
    · refine (holds.covered old ofEvent before named).imp_right ?_
      exact (Refreshed.mono · (by rw [puts]; exact List.Subset.refl _))
    · omega

theorem Fenced.requested
    {eventId : Uuid}
    {seatIds : Option (List SeatId)}
    {now : Int}
    (fenced : world.Fenced)
    (refresh :
      after.db.seatRefreshRequests =
        world.db.seatRefreshRequests.upsert
          (requestedRow eventId seatIds now world.db.seatRefreshRequests))
    (requests : after.requests = world.requests ++ [⟨eventId, seatIds⟩])
    (workers : after.workers = world.workers)
    (puts : after.puts = world.puts) :
    after.Fenced := by
  have dirty :
      (requestedRow eventId seatIds now
          world.db.seatRefreshRequests).completedGeneration <
        (requestedRow eventId seatIds now
          world.db.seatRefreshRequests).generation := by
    unfold requestedRow
    split
    · exact Nat.zero_lt_one
    · rename_i row found
      exact Nat.lt_succ_of_le (fenced.bounded found)
  have found :
      after.db.seatRefreshRequests.find? eventId =
        some (requestedRow eventId seatIds now
          world.db.seatRefreshRequests) := by
    rw [refresh, find?_requested, if_pos rfl]
  refine ⟨?_, ?_, ?_⟩
  · intro id row foundRow
    rw [refresh, find?_requested] at foundRow
    split at foundRow
    · cases foundRow
      exact Nat.le_of_lt dirty
    · exact fenced.bounded foundRow
  · intro slot worker working
    rw [workers] at working
    have old := fenced.workers working
    refine ⟨?_, ?_, old.read, ?_⟩
    · rw [requests, List.length_append]
      exact old.recorded.trans (Nat.le_add_right _ _)
    · intro claimed listed
      exact (old.holds listed).requested old.recorded refresh requests puts
    · rw [puts]
      exact old.done
  · intro index record seatId recordAt named
    rw [requests] at recordAt
    rcases getElem?_concat_cases recordAt with old | ⟨_, rfl⟩
    · rcases fenced.kept old named with
        ⟨row, foundRow, isDirty, listed⟩ | refreshed
      · left
        by_cases same : record.eventId = eventId
        · rw [same] at foundRow ⊢
          refine ⟨_, found, dirty, ?_⟩
          rw [requestedRow, foundRow]
          exact names_request isDirty listed
        · refine ⟨row, ?_, isDirty, listed⟩
          rw [refresh, find?_requested, if_neg same]
          exact foundRow
      · exact Or.inr (refreshed.mono (by rw [puts]; exact List.Subset.refl _))
    · exact Or.inl ⟨_, found, dirty, names_requestedRow named⟩

/-! ### Claims -/

theorem find?_leaseRows
    {token : Uuid}
    {now : Int}
    {claimed : List SeatRefreshRequest}
    {requests : Table SeatRefreshRequest}
    {eventId : Uuid}
    {row : SeatRefreshRequest}
    (found : requests.find? eventId = some row) :
    ∃ next,
      (leaseRows token now claimed requests).find? eventId = some next ∧
        next.generation = row.generation ∧
        next.completedGeneration = row.completedGeneration ∧
        next.seatIds = row.seatIds := by
  refine ⟨_, by rw [leaseRows, Table.find?_modify, found]; rfl, ?_⟩
  dsimp only
  split <;> exact ⟨rfl, rfl, rfl⟩

theorem Fenced.claim
    {slot limit : Nat}
    {locked : List Uuid}
    {token : Uuid}
    {now : Int}
    {rows : List SeatRefreshRequest}
    (fenced : world.Fenced)
    (isClaimed :
      rows = claimedRows limit locked now world.db.seatRefreshRequests)
    (fresh :
      ∀ other worker,
        world.workers other = some worker → worker.token ≠ token) :
    ((world.setRequests
        (leaseRows token now rows world.db.seatRefreshRequests)).setWorker
      slot
      (some
        { token := token
          claimedAt := now
          pending := rows
          recorded := world.requests.length })).Fenced := by
  refine ⟨?_, ?_, ?_⟩
  · intro eventId next found
    obtain ⟨row, foundRow⟩ :
        ∃ row, world.db.seatRefreshRequests.find? eventId = some row := by
      refine Option.ne_none_iff_exists'.mp fun absent => ?_
      change (leaseRows _ _ _ _).find? eventId = some next at found
      rw [leaseRows, Table.find?_modify, absent] at found
      cases found
    obtain ⟨other, foundOther, sameGeneration, sameCompleted, _⟩ :=
      find?_leaseRows foundRow
    have same : some next = some other := found.symm.trans foundOther
    cases same
    rw [sameGeneration, sameCompleted]
    exact fenced.bounded foundRow
  · intro other worker working
    simp only [setWorker, Function.update_apply] at working
    split at working
    · -- The new worker.
      cases working
      refine ⟨Nat.le_refl _, ?_, nofun, nofun⟩
      rintro claimed (listed | listed)
      · change claimed ∈ rows at listed
        rw [isClaimed] at listed
        obtain ⟨found, dirty⟩ := mem_claimedRows listed
        obtain ⟨next, foundNext, sameGeneration, sameCompleted, _⟩ :=
          find?_leaseRows found
        refine ⟨⟨next, foundNext, Nat.le_of_eq sameGeneration.symm, ?_, ?_⟩,
          ?_⟩
        · intro _
          rw [sameCompleted]
          exact Nat.le_of_lt dirty
        · intro _ index record recordAt _
          obtain ⟨inRange, _⟩ := List.getElem?_eq_some_iff.mp recordAt
          exact inRange
        · intro index record seatId recordAt ofEvent _ named
          rcases fenced.kept recordAt named with
            ⟨row, foundRow, _, listed⟩ | refreshed
          · rw [ofEvent, found] at foundRow
            cases foundRow
            exact Or.inl listed
          · rw [ofEvent] at refreshed
            exact Or.inr refreshed
      · cases listed
    · refine (fenced.workers working).mono ?_ rfl (List.Subset.refl _)
      exact keepsLease_leaseRows (fresh other worker working)
  · intro index record seatId recordAt named
    refine (fenced.kept recordAt named).imp_left ?_
    rintro ⟨row, found, dirty, listed⟩
    obtain ⟨next, foundNext, sameGeneration, sameCompleted, sameSeats⟩ :=
      find?_leaseRows found
    refine ⟨next, foundNext, ?_, ?_⟩
    · rw [sameGeneration, sameCompleted]
      exact dirty
    · rw [sameSeats]
      exact listed

/-! ### Acknowledgements -/

/-- The acknowledgement of one completed row. -/
theorem Fenced.completed
    {slot cooldownMs : Nat}
    {now : Int}
    (fenced : world.Fenced)
    (working : world.workers slot = some worker)
    (listed : claimed ∈ worker.completed) :
    (world.setRequests
      (completeRow worker.token worker.claimedAt cooldownMs now
        world.db.seatRefreshRequests claimed)).Fenced := by
  have ofWorker := fenced.workers working
  have holds := ofWorker.holds (Or.inr listed)
  obtain ⟨stored, found, later, _, unrequested⟩ := holds.stored
  obtain ⟨put, putListed, putEvent, putLater, putNames⟩ :=
    ofWorker.done listed
  refine ⟨?_, ?_, ?_⟩
  · intro eventId next foundNext
    change (completeRow _ _ _ _ _ _).find? eventId = some next at foundNext
    rw [completeRow, Table.find?_modify] at foundNext
    obtain ⟨row, foundRow, isNext⟩ := Option.map_eq_some_iff.mp foundNext
    split at isNext
    · rename_i matched
      have sameEvent : row.eventId = claimed.eventId :=
        (of_decide_eq_true matched).1
      have isKey : row.eventId = eventId := Table.key_of_find? foundRow
      rw [← isKey, sameEvent, found] at foundRow
      cases foundRow
      rw [← isNext]
      exact later
    · rw [← isNext]
      exact fenced.bounded foundRow
  · intro other worker working
    exact (fenced.workers working).mono keepsLease_completeRow rfl
      (List.Subset.refl _)
  · intro index record seatId recordAt named
    rcases fenced.kept recordAt named with
      ⟨row, foundRow, dirty, rowNames⟩ | refreshed
    · have foundNext :
          (completeRow worker.token worker.claimedAt cooldownMs now
              world.db.seatRefreshRequests claimed).find? record.eventId =
            some (if row.eventId = claimed.eventId ∧
                row.leaseToken = some worker.token then
              row.complete claimed.generation worker.claimedAt cooldownMs
                now
            else row) := by
        rw [completeRow, Table.find?_modify, foundRow]
        simp
      have isKey : row.eventId = record.eventId := Table.key_of_find? foundRow
      by_cases matched :
          row.eventId = claimed.eventId ∧
            row.leaseToken = some worker.token
      · rw [if_pos matched] at foundNext
        have ofEvent : record.eventId = claimed.eventId :=
          isKey.symm.trans matched.1
        have isStored : stored = row := by
          rw [ofEvent] at foundRow
          exact Option.some.inj (found.symm.trans foundRow)
        subst isStored
        by_cases sameGeneration : stored.generation = claimed.generation
        · -- Nothing was requested since the claim.
          have before := unrequested sameGeneration recordAt ofEvent
          right
          rcases holds.covered recordAt ofEvent before named with
            claimNames | refreshed
          · refine ⟨put, putListed, putEvent.trans ofEvent.symm,
              putNames seatId claimNames, ?_⟩
            exact before.trans_le putLater
          · rw [ofEvent]
            exact refreshed
        · refine Or.inl ⟨_, foundNext, ?_, ?_⟩
          · change claimed.generation < stored.generation
            omega
          · change Names (if stored.generation = claimed.generation then
              none else stored.seatIds) seatId
            rw [if_neg sameGeneration]
            exact rowNames
      · rw [if_neg matched] at foundNext
        exact Or.inl ⟨row, foundNext, dirty, rowNames⟩
    · exact Or.inr refreshed

/-- The acknowledgement of some of the completed rows. -/
theorem Fenced.allCompleted
    {slot cooldownMs : Nat}
    {now : Int}
    {rows : List SeatRefreshRequest}
    (fenced : world.Fenced)
    (working : world.workers slot = some worker)
    (listed : rows ⊆ worker.completed) :
    (world.setRequests
      (rows.foldl
        (completeRow worker.token worker.claimedAt cooldownMs now)
        world.db.seatRefreshRequests)).Fenced := by
  induction rows generalizing world with
  | nil =>
      exact fenced
  | cons row rest inductionHypothesis =>
      obtain ⟨rowListed, restListed⟩ := List.cons_subset.mp listed
      have first :
          (world.setRequests
            (completeRow worker.token worker.claimedAt cooldownMs now
              world.db.seatRefreshRequests row)).Fenced :=
        fenced.completed working rowListed
      exact inductionHypothesis first working restListed

/-! ### All steps -/

theorem workers_setWorker
    {slot other : Nat}
    {worker? : Option RefreshWorker}
    (working :
      (world.setWorker slot worker?).workers other = some worker) :
    worker? = some worker ∨ world.workers other = some worker := by
  simp only [setWorker, Function.update_apply] at working
  split at working
  · exact Or.inl working
  · exact Or.inr working

/-- A worker that goes on with its claims. -/
theorem WorkerFenced.proceed
    {pending completed : List SeatRefreshRequest}
    {reading : Reading}
    (fenced : world.WorkerFenced worker)
    (claims :
      ∀ {claimed},
        claimed ∈ pending ∨ claimed ∈ completed →
        claimed ∈ worker.pending ∨ claimed ∈ worker.completed)
    (read :
      ∀ {projection recorded},
        reading = .read projection recorded →
        worker.recorded ≤ recorded ∧
          ∃ row rest,
            pending = row :: rest ∧ projection.eventId = row.eventId)
    (done :
      ∀ {claimed},
        claimed ∈ completed →
        claimed ∈ worker.completed ∨
        ∃ put ∈ world.puts,
          put.eventId = claimed.eventId ∧
            worker.recorded ≤ put.recorded ∧
            ∀ seatId,
              Names claimed.seatIds seatId → Names put.seatIds seatId) :
    world.WorkerFenced
      { worker with
        pending := pending
        completed := completed
        reading := reading } := by
  refine ⟨fenced.recorded, ?_, read, ?_⟩
  · intro claimed listed
    have holds := fenced.holds (claims listed)
    exact ⟨holds.stored, holds.covered⟩
  · intro claimed listed
    exact (done listed).elim fenced.done id

/-- A read covers what the row of its worker names. -/
theorem names_seatIds
    {row : SeatRefreshRequest}
    {seatId : SeatId}
    (projection : Projection)
    (named : Names row.seatIds seatId) :
    Names (projection.seatIds row) seatId := by
  cases projection with
  | full => exact nofun
  | patch => exact named

/-- A worker that has put its first pending row. -/
theorem WorkerFenced.put
    {row : SeatRefreshRequest}
    {rest : List SeatRefreshRequest}
    {projection : Projection}
    {recorded : Nat}
    (fenced : world.WorkerFenced worker)
    (pending : worker.pending = row :: rest)
    (holding : worker.reading = .read projection recorded) :
    WorkerFenced
      { world with
        puts :=
          world.puts ++
            [{ eventId := projection.eventId
               seatIds := projection.seatIds row
               rows := projection.rows
               recorded := recorded }] }
      { worker with
        pending := rest
        completed := worker.completed ++ [row]
        reading := .idle } := by
  obtain ⟨later, first, others, isPending, sameEvent⟩ := fenced.read holding
  rw [pending] at isPending
  cases isPending
  have carried :
      WorkerFenced
        { world with
          puts :=
            world.puts ++
              [{ eventId := projection.eventId
                 seatIds := projection.seatIds row
                 rows := projection.rows
                 recorded := recorded }] }
        worker :=
    fenced.mono (keepsLease_refl _ _) rfl (List.subset_append_left _ _)
  refine carried.proceed ?_ nofun ?_
  · intro claimed listed
    simp only [List.mem_append, List.mem_singleton] at listed
    rw [pending]
    rcases listed with inRest | isCompleted | rfl
    · exact Or.inl (List.mem_cons_of_mem _ inRest)
    · exact Or.inr isCompleted
    · exact Or.inl List.mem_cons_self
  · intro claimed listed
    rcases List.mem_append.mp listed with isCompleted | isRow
    · exact Or.inl isCompleted
    · cases List.mem_singleton.mp isRow
      exact Or.inr ⟨_, List.mem_append_right _ List.mem_cons_self,
        sameEvent, later, fun _ => names_seatIds projection⟩

variable
  [DecidableEq Hash]
  {self : PostgresReservations Hash}
  {action : RefreshAction Hash}

theorem Fenced.step
    (fenced : world.Fenced)
    (step : Step self world action after) :
    after.Fenced := by
  have reflPuts := List.Subset.refl world.puts
  cases step with
  | @transact call ambient =>
      cases queues_of_transaction self call ambient world.db with
      | unchanged same records =>
          exact fenced.of_queue same.refresh (by simp [records]) reflPuts
            Or.inl
      | noted _ _ _ _ refresh records =>
          exact fenced.of_queue refresh (by simp [records]) reflPuts Or.inl
      | requested _ eventId seatIds _ _ _ refresh records =>
          exact fenced.requested refresh (by simp [records]) rfl rfl
  | claim _ isClaimed _ fresh => exact fenced.claim isClaimed fresh
  | @read slot worker row rest projection working pending readFor =>
      refine fenced.of_queue rfl rfl reflPuts ?_
      intro other next nextWorking
      refine (workers_setWorker nextWorking).symm.imp_right ?_
      intro isNext
      cases isNext
      have old := fenced.workers working
      have proceeds : world.WorkerFenced
          { worker with
            reading := .read projection world.requests.length } := by
        refine old.proceed id ?_ Or.inl
        intro other recorded isRead
        cases isRead
        exact ⟨old.recorded, row, rest, pending, readFor.sameEvent⟩
      exact proceeds.mono (keepsLease_refl _ _) rfl reflPuts
  | @put slot incarnation worker row rest projection recorded writes working
      pending holding accepted =>
      refine fenced.of_queue rfl rfl (List.subset_append_left _ _) ?_
      intro other next nextWorking
      refine (workers_setWorker nextWorking).symm.imp_right ?_
      intro isNext
      cases isNext
      have proceeds :=
        (fenced.workers working).put pending holding
      exact proceeds.mono (keepsLease_refl _ _) rfl (List.Subset.refl _)
  | @refuse slot incarnation worker projection recorded working holding =>
      refine fenced.of_queue rfl rfl reflPuts ?_
      intro other next nextWorking
      refine (workers_setWorker nextWorking).symm.imp_right ?_
      intro isNext
      cases isNext
      have proceeds :
          world.WorkerFenced { worker with reading := .refused } :=
        (fenced.workers working).proceed id nofun Or.inl
      exact proceeds.mono (keepsLease_refl _ _) rfl reflPuts
  | @fail slot worker row rest working pending =>
      refine fenced.of_queue rfl rfl reflPuts ?_
      intro other next nextWorking
      refine (workers_setWorker nextWorking).symm.imp_right ?_
      intro isNext
      cases isNext
      have proceeds :
          world.WorkerFenced
            { worker with pending := rest, reading := .idle } := by
        refine (fenced.workers working).proceed ?_ nofun Or.inl
        intro claimed listed
        rw [pending]
        exact listed.imp_left (List.mem_cons_of_mem _)
      exact proceeds.mono (keepsLease_refl _ _) rfl reflPuts
  | @acknowledge slot cooldownMs now worker working pending =>
      refine (fenced.allCompleted working (List.Subset.refl _)).of_queue rfl
        rfl reflPuts ?_
      intro other next nextWorking
      exact (workers_setWorker nextWorking).elim nofun Or.inl
  | crash =>
      refine fenced.of_queue rfl rfl reflPuts ?_
      intro other next nextWorking
      exact (workers_setWorker nextWorking).elim nofun Or.inl
  | attempt | project | putProjection | attemptProjection | abandon
  | loseMap =>
      exact fenced.of_queue rfl rfl reflPuts Or.inl

/-! ### Completed generations -/

/-- Completed generations do not decrease. -/
def CompletionKept (requests after : Table SeatRefreshRequest) : Prop :=
  ∀ eventId row,
    requests.find? eventId = some row →
    ∃ next,
      after.find? eventId = some next ∧
        row.completedGeneration ≤ next.completedGeneration

theorem CompletionKept.refl (requests : Table SeatRefreshRequest) :
    CompletionKept requests requests :=
  fun _ row found => ⟨row, found, Nat.le_refl _⟩

theorem CompletionKept.trans
    {first second third : Table SeatRefreshRequest}
    (early : CompletionKept first second)
    (late : CompletionKept second third) :
    CompletionKept first third := by
  intro eventId row found
  obtain ⟨next, nextFound, grows⟩ := early eventId row found
  obtain ⟨last, lastFound, growsLater⟩ := late eventId next nextFound
  exact ⟨last, lastFound, grows.trans growsLater⟩

omit [DecidableEq Hash] in
/-- A lease that is still held completes a later generation. -/
theorem Fenced.completionKept
    {slot cooldownMs : Nat}
    {now : Int}
    (fenced : world.Fenced)
    (working : world.workers slot = some worker)
    (listed : claimed ∈ worker.completed) :
    CompletionKept world.db.seatRefreshRequests
      (completeRow worker.token worker.claimedAt cooldownMs now
        world.db.seatRefreshRequests claimed) := by
  obtain ⟨stored, found, _, leased, _⟩ :=
    ((fenced.workers working).holds (Or.inr listed)).stored
  intro eventId row foundRow
  refine ⟨if row.eventId = claimed.eventId ∧
      row.leaseToken = some worker.token then
    row.complete claimed.generation worker.claimedAt cooldownMs now
  else row, ?_, ?_⟩
  · rw [completeRow, Table.find?_modify, foundRow]
    simp
  · split
    · rename_i matched
      have isKey : row.eventId = eventId := Table.key_of_find? foundRow
      rw [← isKey, matched.1, found] at foundRow
      cases foundRow
      exact leased matched.2
    · exact Nat.le_refl _

omit [DecidableEq Hash] in
theorem Fenced.allCompletionKept
    {slot cooldownMs : Nat}
    {now : Int}
    {rows : List SeatRefreshRequest}
    (fenced : world.Fenced)
    (working : world.workers slot = some worker)
    (listed : rows ⊆ worker.completed) :
    CompletionKept world.db.seatRefreshRequests
      (rows.foldl
        (completeRow worker.token worker.claimedAt cooldownMs now)
        world.db.seatRefreshRequests) := by
  induction rows generalizing world with
  | nil =>
      exact .refl _
  | cons row rest inductionHypothesis =>
      obtain ⟨rowListed, restListed⟩ := List.cons_subset.mp listed
      have first :
          (world.setRequests
            (completeRow worker.token worker.claimedAt cooldownMs now
              world.db.seatRefreshRequests row)).Fenced :=
        fenced.completed working rowListed
      exact (fenced.completionKept working rowListed).trans
        (inductionHypothesis first working restListed)

/-- No completed generation of the queue decreases. -/
def Completes (world after : RefreshWorld Hash) : Prop :=
  CompletionKept world.db.seatRefreshRequests after.db.seatRefreshRequests

theorem Step.completes
    (fenced : world.Fenced)
    (step : Step self world action after) :
    Completes world after := by
  unfold Completes
  cases step with
  | @transact call ambient =>
      cases queues_of_transaction self call ambient world.db with
      | unchanged same =>
          dsimp only
          rw [same.refresh]
          exact .refl _
      | noted _ _ _ _ refresh =>
          dsimp only
          rw [refresh]
          exact .refl _
      | requested _ eventId seatIds _ _ _ refresh =>
          dsimp only
          rw [refresh]
          intro id row found
          rw [find?_requested]
          split
          · rename_i same
            subst same
            rw [requestedRow, found]
            exact ⟨_, rfl, Nat.le_refl _⟩
          · exact ⟨row, found, Nat.le_refl _⟩
  | claim =>
      intro eventId row found
      obtain ⟨next, foundNext, _, sameCompleted, _⟩ :=
        find?_leaseRows found
      exact ⟨next, foundNext, Nat.le_of_eq sameCompleted.symm⟩
  | acknowledge working =>
      exact fenced.allCompletionKept working (List.Subset.refl _)
  | read | put | refuse | attempt | fail | crash | project | putProjection
  | attemptProjection | abandon | loseMap =>
      exact .refl _

/-! ### Reads -/

/-- A property of every read that a worker holds or has put. -/
structure AllReads
    (property : Uuid → Option (List SeatId) → List SeatState → Nat → Prop)
    (world : RefreshWorld Hash) : Prop where
  held :
    ∀ {slot worker row rest projection recorded},
      world.workers slot = some worker →
      worker.pending = row :: rest →
      worker.reading = .read projection recorded →
      property projection.eventId (projection.seatIds row) projection.rows
        recorded
  put :
    ∀ put ∈ world.puts,
      property put.eventId put.seatIds put.rows put.recorded

omit [DecidableEq Hash] in
theorem AllReads.mono
    {property later :
      Uuid → Option (List SeatId) → List SeatState → Nat → Prop}
    (all : AllReads property world)
    (implies :
      ∀ eventId seatIds rows recorded,
        property eventId seatIds rows recorded →
        later eventId seatIds rows recorded) :
    AllReads later world :=
  ⟨fun working pending holding =>
      implies _ _ _ _ (all.held working pending holding),
    fun put listed => implies _ _ _ _ (all.put put listed)⟩

/-- A property of all reads extends to the read of a step. -/
theorem AllReads.step
    {property :
      Uuid → Option (List SeatId) → List SeatState → Nat → Prop}
    (all : AllReads property world)
    (step : Step self world action after)
    (fresh :
      ∀ {row reading} {projection : Projection},
        projection.ReadFor world.db row reading →
        property projection.eventId (projection.seatIds row)
          projection.rows world.requests.length) :
    AllReads property after := by
  cases step with
  | @read slot worker row rest projection working pending readFor =>
      refine ⟨?_, all.put⟩
      intro other next first others held recorded nextWorking nextPending
        holding
      rcases workers_setWorker nextWorking with isNext | old
      · cases isNext
        cases holding
        dsimp only at nextPending
        rw [pending] at nextPending
        cases nextPending
        exact fresh readFor
      · exact all.held old nextPending holding
  | @put slot incarnation worker row rest projection recorded writes working
      pending holding accepted =>
      refine ⟨?_, ?_⟩
      · intro other next first others held recorded nextWorking nextPending
          isRead
        rcases workers_setWorker nextWorking with isNext | old
        · cases isNext
          cases isRead
        · exact all.held old nextPending isRead
      · intro put listed
        rcases List.mem_append.mp listed with old | isNew
        · exact all.put put old
        · cases List.mem_singleton.mp isNew
          exact all.held working pending holding
  | claim | refuse | fail | acknowledge | crash =>
      refine ⟨?_, all.put⟩
      intro other next first others held recorded nextWorking nextPending
        isRead
      rcases workers_setWorker nextWorking with isNext | old
      · cases isNext <;> cases isRead
      · exact all.held old nextPending isRead
  | transact | attempt | project | putProjection | attemptProjection
  | abandon | loseMap =>
      exact ⟨all.held, all.put⟩

/-- The rows of a read have every existing seat that it covers. -/
def Carries
    (db : Database Hash)
    (eventId : Uuid)
    (seatIds : Option (List SeatId))
    (rows : List SeatState)
    (_recorded : Nat) : Prop :=
  ∀ seatId,
    Names seatIds seatId →
    db.eventSeats.find? (eventId, seatId) ≠ none →
    ∃ seat ∈ rows, seat.seatId = seatId

/-- Seats neither appear nor disappear, and change with their version. -/
theorem Step.rowsAdvance
    (step : Step self world action after) :
    RowsAdvance world.db after.db := by
  cases step with
  | @transact call ambient =>
      exact .of_changes (self.changes_of_transaction call ambient world.db)
  | claim | read | put | refuse | attempt | fail | acknowledge | crash
  | project | putProjection | attemptProjection | abandon | loseMap =>
      exact ⟨fun found => ⟨_, found, Or.inl rfl⟩, id⟩

/-- The invariant behind the refresh of dirty seats. -/
structure Refreshes (world : RefreshWorld Hash) : Prop where
  fenced : world.Fenced
  carried : AllReads (Carries world.db) world

omit [DecidableEq Hash] in
theorem Initial.refreshes
    (initial : world.Initial) :
    world.Refreshes := by
  refine ⟨⟨?_, ?_, ?_⟩, ?_, ?_⟩
  · intro eventId row found
    rw [initial.db.fresh] at found
    cases found
  · intro slot worker working
    rw [initial.idle] at working
    cases working
  · intro index record seatId recordAt
    rw [initial.unrequested] at recordAt
    cases recordAt
  · intro slot worker row rest projection recorded working
    rw [initial.idle] at working
    cases working
  · intro put listed
    rw [initial.unput] at listed
    cases listed

theorem Refreshes.step
    (refreshes : world.Refreshes)
    (step : Step self world action after) :
    after.Refreshes := by
  refine ⟨refreshes.fenced.step step, ?_⟩
  have carried : AllReads (Carries world.db) after := by
    refine refreshes.carried.step step ?_
    intro row reading projection readFor seatId named present
    obtain ⟨seat, found⟩ := Option.ne_none_iff_exists'.mp present
    obtain ⟨listed, isSeat⟩ := readFor.current named found
    exact ⟨_, listed, isSeat⟩
  refine carried.mono ?_
  intro eventId seatIds rows recorded carries seatId named present
  exact carries seatId named (step.rowsAdvance.present_iff.mp present)

/--
In every run completed generations never decrease and never exceed the
generation, and every requested seat is still in the row of its event, with a
generation to complete, or a refresh worker has put it from a read that was made
after the request.
-/
theorem dirty_seats
    {start middle final : RefreshWorld Hash}
    {early late : List (RefreshAction Hash)}
    (initial : start.Initial)
    (earlyRun : Run (Step self) start early middle)
    (lateRun : Run (Step self) middle late final) :
    (∀ row ∈ final.db.seatRefreshRequests,
      row.completedGeneration ≤ row.generation) ∧
    (∀ row ∈ middle.db.seatRefreshRequests,
      ∃ next ∈ final.db.seatRefreshRequests,
        next.eventId = row.eventId ∧
          row.completedGeneration ≤ next.completedGeneration) ∧
    ∀ index record seatId,
      final.requests[index]? = some record →
      Names record.seatIds seatId →
      (∃ row ∈ final.db.seatRefreshRequests,
        row.eventId = record.eventId ∧
          row.completedGeneration < row.generation ∧
          Names row.seatIds seatId) ∨
      ∃ put ∈ final.puts,
        put.eventId = record.eventId ∧
          Names put.seatIds seatId ∧
          index < put.recorded ∧
          (final.db.eventSeats.find? (record.eventId, seatId) ≠ none →
            ∃ seat ∈ put.rows, seat.seatId = seatId) := by
  have atMiddle : middle.Refreshes :=
    earlyRun.invariant initial.refreshes fun holds step => holds.step step
  have atFinal : final.Refreshes :=
    lateRun.invariant atMiddle fun holds step => holds.step step
  have kept : Completes middle final :=
    lateRun.relates Refreshes atMiddle
      (fun holds step => holds.step step)
      (fun _ => CompletionKept.refl _)
      CompletionKept.trans
      (fun holds step => step.completes holds.fenced)
  refine ⟨?_, ?_, ?_⟩
  · intro row member
    exact atFinal.fenced.bounded (Table.find?_key member)
  · intro row member
    obtain ⟨next, found, grows⟩ := kept _ row (Table.find?_key member)
    exact ⟨next, Table.mem_of_find? found, Table.key_of_find? found, grows⟩
  · intro index record seatId recordAt named
    rcases atFinal.fenced.kept recordAt named with
      ⟨row, found, dirty, listed⟩ | ⟨put, member, sameEvent, listed, later⟩
    · exact Or.inl ⟨row, Table.mem_of_find? found,
        Table.key_of_find? found, dirty, listed⟩
    · refine Or.inr ⟨put, member, sameEvent, listed, later, ?_⟩
      rw [← sameEvent]
      exact atFinal.carried.put put member seatId listed

end RefreshWorld

/-! ## A small refresh -/

/-- The small sale without a map. -/
def smallRefresh : RefreshWorld Request where
  db := smallSale
  maps := fun _ => {}

theorem smallRefresh_initial : smallRefresh.Initial :=
  ⟨smallSale_initial, rfl, rfl, rfl, rfl, rfl⟩

/-- An announcement that one seat has changed. -/
def dirtyCall : Call Request :=
  .consumeEvent { eventId := 900, message := .seatsChanged 1 (some ["A1"]) }

/-- Its request, as the worker claims it. -/
def dirtyRow : SeatRefreshRequest where
  eventId := 1
  requestedAt := 1 * second
  nextAttemptAt := 1 * second
  seatIds := some ["A1"]

def dirtyWorker : RefreshWorker where
  token := 800
  claimedAt := 2 * second
  pending := [dirtyRow]
  recorded := 1

/-- The refused patch and the snapshot that follows it. -/
def dirtyPatch : Projection := .patch 1 (changedRows smallSale 1 ["A1"])

def dirtySnapshot : Projection :=
  .full 1 smallEvent (snapshotRows smallSale 1)

def dirtyRequested : RefreshWorld Request :=
  { smallRefresh with
    db := (smallStore.transaction dirtyCall (smallAmbient 1 600) smallSale).2
    requests := [⟨1, some ["A1"]⟩] }

def dirtyClaimed : RefreshWorld Request :=
  (dirtyRequested.setRequests
    (leaseRows 800 (2 * second) [dirtyRow]
      dirtyRequested.db.seatRefreshRequests)).setWorker 0
    (some dirtyWorker)

/-- The worker reads the seat, is refused, and reads the whole event. -/
def dirtyReader : RefreshWorker :=
  { dirtyWorker with reading := .read dirtyPatch 1 }

def dirtyRead : RefreshWorld Request :=
  dirtyClaimed.setWorker 0 (some dirtyReader)

def refusedReader : RefreshWorker :=
  { dirtyReader with reading := .refused }

def dirtyRefused : RefreshWorld Request :=
  dirtyRead.setWorker 0 (some refusedReader)

def snapshotReader : RefreshWorker :=
  { refusedReader with reading := .read dirtySnapshot 1 }

def dirtyReread : RefreshWorld Request :=
  dirtyRefused.setWorker 0 (some snapshotReader)

/-- The commands that publish the missing map. -/
def dirtyWrites : List HashWrite :=
  (dirtySnapshot.script 700 dirtyReread.maps).getD []

def doneReader : RefreshWorker :=
  { snapshotReader with
    pending := []
    completed := [dirtyRow]
    reading := .idle }

def dirtyPut : RefreshWorld Request :=
  { (dirtyReread.setMap 1 (({} : SeatMap).perform dirtyWrites)).setWorker 0
      (some doneReader) with
    puts :=
      [{ eventId := 1
         seatIds := none
         rows := snapshotRows smallSale 1
         recorded := 1 }] }

def dirtyDone : RefreshWorld Request :=
  (dirtyPut.setRequests
    ([dirtyRow].foldl (completeRow 800 (2 * second) 250 (3 * second))
      dirtyPut.db.seatRefreshRequests)).setWorker 0 none

theorem step_dirtyRequested :
    RefreshWorld.Step smallStore smallRefresh
      (.transact dirtyCall (smallAmbient 1 600)) dirtyRequested := by
  have recorded :
      smallRefresh.requests ++
          smallStore.recordedBy dirtyCall (smallAmbient 1 600)
            smallRefresh.db =
        [⟨1, some ["A1"]⟩] := by
    decide
  rw [dirtyRequested, ← recorded]
  exact .transact

/-- The steps of the worker. -/
def dirtyTrace : List (RefreshAction Request) :=
  [.claim 0 2 [1] 800 (2 * second), .read 0, .put 0 700, .read 0,
    .put 0 700, .acknowledge 0 250 (3 * second)]

theorem run_dirtyTrace :
    Run (RefreshWorld.Step smallStore) dirtyRequested dirtyTrace
      dirtyDone := by
  have claimed :
      RefreshWorld.Step smallStore dirtyRequested
        (.claim 0 2 [1] 800 (2 * second)) dirtyClaimed :=
    .claim rfl (by decide) (by decide) nofun
  have read :
      RefreshWorld.Step smallStore dirtyClaimed (.read 0) dirtyRead := by
    have working : dirtyClaimed.workers 0 = some dirtyWorker := rfl
    refine .read working rfl ?_
    exact .changed rfl
  have refused :
      RefreshWorld.Step smallStore dirtyRead (.put 0 700) dirtyRefused := by
    have working : dirtyRead.workers 0 = some dirtyReader := rfl
    have missing : dirtyPatch.script 700 dirtyRead.maps = none := by decide
    exact .refuse working rfl missing
  have reread :
      RefreshWorld.Step smallStore dirtyRefused (.read 0) dirtyReread := by
    have working : dirtyRefused.workers 0 = some refusedReader := rfl
    refine .read working rfl ?_
    exact .snapshot (Or.inr rfl) rfl
  have put :
      RefreshWorld.Step smallStore dirtyReread (.put 0 700) dirtyPut := by
    have working : dirtyReread.workers 0 = some snapshotReader := rfl
    have accepted :
        dirtySnapshot.script 700 dirtyReread.maps = some dirtyWrites := by
      decide
    exact .put working rfl rfl accepted
  have acknowledged :
      RefreshWorld.Step smallStore dirtyPut
        (.acknowledge 0 250 (3 * second)) dirtyDone := by
    have working : dirtyPut.workers 0 = some doneReader := rfl
    exact .acknowledge working rfl
  exact
    .cons claimed <|
    .cons read <|
    .cons refused <|
    .cons reread <|
    .cons put <|
    .single acknowledged

/-- The requested seat was put from a read after the request. -/
theorem dirty_seats_dirtyDone :
    ∃ put ∈ dirtyDone.puts,
      put.eventId = 1 ∧
        Names put.seatIds "A1" ∧
        0 < put.recorded ∧
        (dirtyDone.db.eventSeats.find? (1, "A1") ≠ none →
          ∃ seat ∈ put.rows, seat.seatId = "A1") := by
  have refreshed :=
    (RefreshWorld.dirty_seats smallRefresh_initial
      (.single step_dirtyRequested) run_dirtyTrace).2.2 0
      ⟨1, some ["A1"]⟩ "A1" rfl
      (by rintro listed ⟨⟩; exact List.mem_cons_self)
  have completed :
      ∀ row ∈ dirtyDone.db.seatRefreshRequests,
        ¬ row.completedGeneration < row.generation := by
    decide
  refine refreshed.resolve_left ?_
  rintro ⟨row, member, _, dirty, _⟩
  exact completed row member dirty

end FlashTicketing
