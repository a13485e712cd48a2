import FlashTicketing.PostgresConsumer
import FlashTicketing.SeatProjection
import FlashTicketing.Transition

namespace FlashTicketing

open Relational Checked Transition

/-!
# Refreshing seat maps

`consume_event` coalesces refresh requests into one row per event.  Refresh
workers lease such rows, read the seats, put them into the map and acknowledge
the generation that they leased.  Each transaction and each `PUT` is one step;
between any two of them a worker can stop, and a `PUT` can stop after any of its
commands.

The two histories of the state record what was requested and what refresh
workers put.  No step reads them.
-/

variable {Hash : Type}

/-! ## The transactions of `refresh_batch` -/

/-- The condition of the claiming query. -/
def SeatRefreshRequest.due (row : SeatRefreshRequest) (now : Int) : Bool :=
  decide (row.completedGeneration < row.generation ∧
    row.nextAttemptAt ≤ now ∧ ∀ lease ∈ row.leaseUntil, lease < now)

/-- The claimed requests, over the rows that were not skipped as locked. -/
def claimedRows
    (limit : Nat)
    (locked : List Uuid)
    (now : Int)
    (requests : Table SeatRefreshRequest) : List SeatRefreshRequest :=
  ((locked.dedup.filterMap requests.find?).filter (·.due now)).take limit

/-- `SET lease_token=...,lease_until=... WHERE event_id=ANY(...)`. -/
def leaseRows
    (token : Uuid)
    (now : Int)
    (claimed : List SeatRefreshRequest)
    (requests : Table SeatRefreshRequest) : Table SeatRefreshRequest :=
  requests.modify
    (fun row => decide (row.eventId ∈ claimed.map SeatRefreshRequest.eventId))
    (fun row =>
      { row with
        leaseToken := some token
        leaseUntil := some (addSeconds now 30) })

/-- What an acknowledgement makes of a request. -/
def SeatRefreshRequest.complete
    (row : SeatRefreshRequest)
    (generation : Nat)
    (claimedAt : Int)
    (cooldownMs : Nat)
    (now : Int) : SeatRefreshRequest :=
  { row with
    completedGeneration := generation
    seatIds := if row.generation = generation then none else row.seatIds
    leaseUntil := none
    leaseToken := none
    nextAttemptAt := now + 1000 * cooldownMs
    requestedAt :=
      if generation < row.generation then claimedAt else row.requestedAt }

theorem SeatRefreshRequest.key_complete
    (row : SeatRefreshRequest)
    (generation : Nat)
    (claimedAt : Int)
    (cooldownMs : Nat)
    (now : Int) :
    Keyed.key (row.complete generation claimedAt cooldownMs now) =
      Keyed.key row :=
  rfl

/-- `UPDATE ... WHERE event_id=... AND lease_token=...`. -/
def completeRow
    (token : Uuid)
    (claimedAt : Int)
    (cooldownMs : Nat)
    (now : Int)
    (requests : Table SeatRefreshRequest)
    (claimed : SeatRefreshRequest) : Table SeatRefreshRequest :=
  requests.modify
    (fun row =>
      decide (row.eventId = claimed.eventId ∧ row.leaseToken = some token))
    (fun row => row.complete claimed.generation claimedAt cooldownMs now)
    (fun row => row.key_complete claimed.generation claimedAt cooldownMs now)

/-! ## State -/

/-- Where a refresh worker stands with the first of its pending rows. -/
inductive Reading where
  | idle
  /-- The patch was refused; `snapshot` comes next. -/
  | refused
  /-- With the number of requests recorded before the read. -/
  | read (projection : Projection) (recorded : Nat)

/-- One run of `refresh_batch` after its claim. -/
structure RefreshWorker where
  token : Uuid
  claimedAt : Int
  pending : List SeatRefreshRequest
  completed : List SeatRefreshRequest := []
  reading : Reading := .idle
  /-- The number of requests recorded before the claim. -/
  recorded : Nat

/-- A recorded request; without a list it means every seat. -/
structure RefreshRecord where
  eventId : Uuid
  seatIds : Option (List SeatId)
  deriving Repr, DecidableEq

/-- A successful `PUT` of a refresh worker. -/
structure RefreshPut where
  eventId : Uuid
  seatIds : Option (List SeatId)
  rows : List SeatState
  /-- The number of requests recorded before the read. -/
  recorded : Nat
  deriving Repr, DecidableEq

structure RefreshWorld (Hash : Type) where
  db : Database Hash
  maps : Uuid → SeatMap
  workers : Nat → Option RefreshWorker := fun _ => none
  projectors : Nat → Option Projection := fun _ => none
  requests : List RefreshRecord := []
  puts : List RefreshPut := []

inductive RefreshAction (Hash : Type) where
  | transact (call : Call Hash) (ambient : Ambient)
  | claim
      (slot : Nat)
      (limit : Nat)
      (locked : List Uuid)
      (token : Uuid)
      (now : Int)
  | read (slot : Nat)
  | put (slot : Nat) (incarnation : Uuid)
  | attempt (slot : Nat) (incarnation : Uuid) (commands : Nat)
  | fail (slot : Nat)
  | acknowledge (slot : Nat) (cooldownMs : Nat) (now : Int)
  | crash (slot : Nat)
  | project (slot : Nat) (projection : Projection)
  | putProjection (slot : Nat) (incarnation : Uuid)
  | attemptProjection (slot : Nat) (incarnation : Uuid) (commands : Nat)
  | abandon (slot : Nat)
  | loseMap (eventId : Uuid)

namespace RefreshWorld

variable (world : RefreshWorld Hash)

def setWorker (slot : Nat) (worker : Option RefreshWorker) :
    RefreshWorld Hash :=
  { world with workers := Function.update world.workers slot worker }

def setProjector (slot : Nat) (projection : Option Projection) :
    RefreshWorld Hash :=
  { world with
    projectors := Function.update world.projectors slot projection }

def setMap (eventId : Uuid) (map : SeatMap) : RefreshWorld Hash :=
  { world with maps := Function.update world.maps eventId map }

def setRequests (requests : Table SeatRefreshRequest) : RefreshWorld Hash :=
  { world with db := { world.db with seatRefreshRequests := requests } }

end RefreshWorld

/-- The script of a read against the map of its event. -/
def Projection.script
    (projection : Projection)
    (incarnation : Uuid)
    (maps : Uuid → SeatMap) : Option (List HashWrite) :=
  (maps projection.eventId).put (projection.mode incarnation)
    projection.rows

/-- The seats that a read for a claimed row covers. -/
def Projection.seatIds
    (row : SeatRefreshRequest) : Projection → Option (List SeatId)
  | .full _ _ _ => none
  | .patch _ _ => row.seatIds

/-- The read of `snapshot` or `changed_snapshot` for a claimed row. -/
inductive Projection.ReadFor
    (db : Database Hash)
    (row : SeatRefreshRequest) : Reading → Projection → Prop where
  | changed
      {seatIds : List SeatId}
      (listed : row.seatIds = some seatIds) :
      ReadFor db row .idle
        (.patch row.eventId (changedRows db row.eventId seatIds))
  | snapshot
      {reading : Reading}
      {sale : Event}
      (due :
        (reading = .idle ∧ row.seatIds = none) ∨ reading = .refused)
      (found : db.events.find? row.eventId = some sale) :
      ReadFor db row reading
        (.full row.eventId sale (snapshotRows db row.eventId))

/-! ## Steps -/

section Steps

variable [DecidableEq Hash]

/-- The request that a call records. -/
def PostgresReservations.recordedBy
    (self : PostgresReservations Hash)
    (call : Call Hash)
    (ambient : Ambient)
    (db : Database Hash) : List RefreshRecord :=
  match call.envelope?, (self.transaction call ambient db).1 with
  | some envelope, .ok _ =>
      match envelope.message, db.consumerInbox.find? envelope.eventId with
      | .seatsChanged eventId seatIds, none => [⟨eventId, seatIds⟩]
      | _, _ => []
  | _, _ => []

/-- One step.  An exception while a row is refreshed leaves it uncompleted. -/
inductive RefreshWorld.Step
    (self : PostgresReservations Hash)
    (world : RefreshWorld Hash) :
    RefreshAction Hash → RefreshWorld Hash → Prop where
  | transact
      {call : Call Hash}
      {ambient : Ambient} :
      Step self world (.transact call ambient)
        { world with
          db := (self.transaction call ambient world.db).2
          requests :=
            world.requests ++ self.recordedBy call ambient world.db }
  | claim
      {slot limit : Nat}
      {locked : List Uuid}
      {token : Uuid}
      {now : Int}
      {claimed : List SeatRefreshRequest}
      (idle : world.workers slot = none)
      (isClaimed :
        claimed =
          claimedRows limit locked now world.db.seatRefreshRequests)
      (found : claimed ≠ [])
      (fresh :
        ∀ other worker,
          world.workers other = some worker → worker.token ≠ token) :
      Step self world (.claim slot limit locked token now)
        ((world.setRequests
            (leaseRows token now claimed
              world.db.seatRefreshRequests)).setWorker slot
          (some
            { token := token
              claimedAt := now
              pending := claimed
              recorded := world.requests.length }))
  | read
      {slot : Nat}
      {worker : RefreshWorker}
      {row : SeatRefreshRequest}
      {rest : List SeatRefreshRequest}
      {projection : Projection}
      (working : world.workers slot = some worker)
      (pending : worker.pending = row :: rest)
      (readFor : projection.ReadFor world.db row worker.reading) :
      Step self world (.read slot)
        (world.setWorker slot
          (some
            { worker with
              reading := .read projection world.requests.length }))
  | put
      {slot : Nat}
      {incarnation : Uuid}
      {worker : RefreshWorker}
      {row : SeatRefreshRequest}
      {rest : List SeatRefreshRequest}
      {projection : Projection}
      {recorded : Nat}
      {writes : List HashWrite}
      (working : world.workers slot = some worker)
      (pending : worker.pending = row :: rest)
      (holding : worker.reading = .read projection recorded)
      (accepted :
        projection.script incarnation world.maps = some writes) :
      Step self world (.put slot incarnation)
        { (world.setMap projection.eventId
            ((world.maps projection.eventId).perform writes)).setWorker slot
            (some
              { worker with
                pending := rest
                completed := worker.completed ++ [row]
                reading := .idle }) with
          puts :=
            world.puts ++
              [{ eventId := projection.eventId
                 seatIds := projection.seatIds row
                 rows := projection.rows
                 recorded := recorded }] }
  | refuse
      {slot : Nat}
      {incarnation : Uuid}
      {worker : RefreshWorker}
      {projection : Projection}
      {recorded : Nat}
      (working : world.workers slot = some worker)
      (holding : worker.reading = .read projection recorded)
      (refused : projection.script incarnation world.maps = none) :
      Step self world (.put slot incarnation)
        (world.setWorker slot (some { worker with reading := .refused }))
  | attempt
      {slot : Nat}
      {incarnation : Uuid}
      {commands : Nat}
      {worker : RefreshWorker}
      {projection : Projection}
      {recorded : Nat}
      {writes : List HashWrite}
      (working : world.workers slot = some worker)
      (holding : worker.reading = .read projection recorded)
      (accepted :
        projection.script incarnation world.maps = some writes) :
      Step self world (.attempt slot incarnation commands)
        (world.setMap projection.eventId
          ((world.maps projection.eventId).perform
            (writes.take commands)))
  | fail
      {slot : Nat}
      {worker : RefreshWorker}
      {row : SeatRefreshRequest}
      {rest : List SeatRefreshRequest}
      (working : world.workers slot = some worker)
      (pending : worker.pending = row :: rest) :
      Step self world (.fail slot)
        (world.setWorker slot
          (some { worker with pending := rest, reading := .idle }))
  | acknowledge
      {slot cooldownMs : Nat}
      {now : Int}
      {worker : RefreshWorker}
      (working : world.workers slot = some worker)
      (pending : worker.pending = []) :
      Step self world (.acknowledge slot cooldownMs now)
        ((world.setRequests
            (worker.completed.foldl
              (completeRow worker.token worker.claimedAt cooldownMs now)
              world.db.seatRefreshRequests)).setWorker slot none)
  | crash
      {slot : Nat} :
      Step self world (.crash slot) (world.setWorker slot none)
  | project
      {slot : Nat}
      {projection : Projection}
      (idle : world.projectors slot = none)
      (read : projection.ReadFrom world.db) :
      Step self world (.project slot projection)
        (world.setProjector slot (some projection))
  | putProjection
      {slot : Nat}
      {incarnation : Uuid}
      {projection : Projection}
      (holding : world.projectors slot = some projection) :
      Step self world (.putProjection slot incarnation)
        ((world.setMap projection.eventId
            ((world.maps projection.eventId).afterPut
              (projection.mode incarnation) projection.rows)).setProjector
          slot none)
  | attemptProjection
      {slot : Nat}
      {incarnation : Uuid}
      {commands : Nat}
      {projection : Projection}
      {writes : List HashWrite}
      (holding : world.projectors slot = some projection)
      (accepted :
        projection.script incarnation world.maps = some writes) :
      Step self world (.attemptProjection slot incarnation commands)
        (world.setMap projection.eventId
          ((world.maps projection.eventId).perform
            (writes.take commands)))
  | abandon
      {slot : Nat} :
      Step self world (.abandon slot) (world.setProjector slot none)
  | loseMap
      {eventId : Uuid} :
      Step self world (.loseMap eventId) (world.setMap eventId {})

end Steps

/-- Events with free seats, no refresh under way and no map. -/
structure RefreshWorld.Initial (world : RefreshWorld Hash) : Prop where
  db : world.db.Initial
  maps : world.maps = fun _ => {}
  idle : world.workers = fun _ => none
  unread : world.projectors = fun _ => none
  unrequested : world.requests = []
  unput : world.puts = []

end FlashTicketing
