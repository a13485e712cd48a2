import FlashTicketing.ReservationIntake
import FlashTicketing.SeatMerge
import FlashTicketing.Transition

namespace FlashTicketing

open Relational Checked Transition

/-!
# Availability tags

An availability tag is the incarnation of the map and its version.  `ENQUEUE`
and `MARK_FAILED` add one to the version for every seat that they rewrite,
without changing a source version; the patch mode of `PUT` adds what its rows
gain; the full mode counts the version anew from the source versions.  Tags
identify content as long as no full `PUT` sets the version back.
-/

variable {Hash : Type} [DecidableEq Hash]

/-! ## The system around one map -/

/--
The database and Redis, the reads that projectors have made, and the
incarnations that full `PUT`s have offered so far.
-/
structure MapWorld (Hash : Type) where
  db : Database Hash
  redis : Redis Hash
  snapshots : List (Event × List SeatState) := []
  patches : List (List SeatState) := []
  offered : List Uuid := []

inductive MapAction (Hash : Type) where
  | changeRows (after : Database Hash)
  | readSnapshot (sale : Event)
  | readChanged (seatIds : List SeatId)
  | putFull (sale : Event) (rows : List SeatState) (incarnation : Uuid)
  | putPatch (rows : List SeatState)
  | enqueue (command : NewCommand) (now : Int)
  | markFailed
      (otherEvent commandId : Uuid)
      (seatIds : List SeatId)
      (code : FailureCode)
  | loseMap

namespace MapWorld

variable (world : MapWorld Hash)

def setMap (eventId : Uuid) (map : SeatMap) : MapWorld Hash :=
  { world with redis := world.redis.setMap eventId map }

/-- The state after an action. -/
def next
    (intake : RedisReservationIntake Hash)
    (eventId : Uuid) : MapAction Hash → MapWorld Hash
  | .changeRows after => { world with db := after }
  | .readSnapshot sale =>
      { world with
        snapshots := (sale, snapshotRows world.db eventId) :: world.snapshots }
  | .readChanged seatIds =>
      { world with
        patches := changedRows world.db eventId seatIds :: world.patches }
  | .putFull sale rows incarnation =>
      { world.setMap eventId
          ((world.redis.maps eventId).afterPut
            (.full (publication sale rows incarnation)) rows) with
        offered := incarnation :: world.offered }
  | .putPatch rows =>
      world.setMap eventId ((world.redis.maps eventId).afterPut .patch rows)
  | .enqueue command now =>
      { world with redis := (intake.enqueue command now world.redis).2 }
  | .markFailed otherEvent commandId seatIds code =>
      { world with
        redis :=
          (world.redis.markFailed otherEvent commandId seatIds code).2 }
  | .loseMap => world.setMap eventId {}

/--
When an action is possible.  Rows change with their version, a `PUT` sends what
was read, and `uuid4()` has not returned the incarnation before.
-/
def Possible (eventId : Uuid) : MapAction Hash → Prop
  | .changeRows after => RowsAdvance world.db after
  | .readSnapshot sale => world.db.events.find? eventId = some sale
  | .putFull sale rows incarnation =>
      (sale, rows) ∈ world.snapshots ∧ incarnation ∉ world.offered
  | .putPatch rows => rows ∈ world.patches
  | _ => True

/-- One action on the map, on the intake or on the database. -/
def Step
    (intake : RedisReservationIntake Hash)
    (eventId : Uuid)
    (world : MapWorld Hash)
    (action : MapAction Hash)
    (after : MapWorld Hash) : Prop :=
  world.Possible eventId action ∧ after = world.next intake eventId action

/--
A full `PUT` that finds a version finds one that its payload does not set
back: the payload counts at least as much, and more if it has a newer row.
-/
def KeepsCount (eventId : Uuid) : MapAction Hash → Prop
  | .putFull _ rows _ =>
      ∀ stored,
        (world.redis.maps eventId).version = some stored →
        stored ≤ (rows.map fun seat =>
          max ((world.redis.maps eventId).sourceVersion seat.seatId)
            seat.sourceVersion).sum ∧
        ((∃ seat ∈ rows,
            (world.redis.maps eventId).isNewer seat = true) →
          stored < (rows.map fun seat =>
            max ((world.redis.maps eventId).sourceVersion seat.seatId)
              seat.sourceVersion).sum)
  | _ => True

/-- A step whose full `PUT` does not set the version back. -/
def CountedStep
    (intake : RedisReservationIntake Hash)
    (eventId : Uuid)
    (world : MapWorld Hash)
    (action : MapAction Hash)
    (after : MapWorld Hash) : Prop :=
  Step intake eventId world action after ∧ world.KeepsCount eventId action

/-- Before the first read and the first `PUT`. -/
structure Initial (eventId : Uuid) : Prop where
  missing : world.redis.maps eventId = {}
  unread : world.snapshots = [] ∧ world.patches = []

end MapWorld

/-! ## How a map develops -/

namespace SeatMap

/-- The version and the seats are the same, or the version is greater. -/
def Advances (first second : SeatMap) : Prop :=
  (second.version = first.version ∧ second.seats = first.seats) ∨
    ∃ early late,
      first.version = some early ∧ second.version = some late ∧ early < late

theorem Advances.refl (map : SeatMap) : map.Advances map :=
  Or.inl ⟨rfl, rfl⟩

theorem Advances.trans
    {first second third : SeatMap}
    (early : first.Advances second)
    (late : second.Advances third) :
    first.Advances third := by
  rcases early with ⟨sameVersion, sameSeats⟩ |
    ⟨older, middle, olderIs, middleIs, before⟩
  · rcases late with ⟨lastVersion, lastSeats⟩ |
      ⟨middle, newer, middleIs, newerIs, after⟩
    · exact Or.inl ⟨lastVersion.trans sameVersion,
        lastSeats.trans sameSeats⟩
    · exact Or.inr ⟨middle, newer, sameVersion ▸ middleIs, newerIs, after⟩
  · rcases late with ⟨lastVersion, _⟩ |
      ⟨again, newer, againIs, newerIs, after⟩
    · exact Or.inr ⟨older, middle, olderIs, lastVersion.trans middleIs,
        before⟩
    · rw [middleIs] at againIs
      cases againIs
      exact Or.inr ⟨older, newer, olderIs, newerIs, before.trans after⟩

/-- The map of one incarnation, later. -/
structure Follows (first second : SeatMap) : Prop where
  incarnation : second.incarnation = first.incarnation
  updating : second.updating = first.updating
  versioned : first.version ≠ none → second.version ≠ none
  covered :
    ∀ seatId,
      first.seats.find? seatId ≠ none →
      second.seats.find? seatId ≠ none
  advances : first.Advances second

theorem Follows.refl (map : SeatMap) : map.Follows map :=
  ⟨rfl, rfl, fun present => present, fun _ present => present, .refl map⟩

theorem Follows.trans
    {first second third : SeatMap}
    (early : first.Follows second)
    (late : second.Follows third) :
    first.Follows third :=
  ⟨late.incarnation.trans early.incarnation,
    late.updating.trans early.updating,
    fun present => late.versioned (early.versioned present),
    fun seatId present => late.covered seatId (early.covered seatId present),
    early.advances.trans late.advances⟩

/-- Either some payload row is newer than its entry, or none is. -/
theorem newer_cases (map : SeatMap) (rows : List SeatState) :
    (∃ seat ∈ rows, map.isNewer seat = true) ∨
      ∀ seat ∈ rows, map.isNewer seat = false := by
  by_cases newer : ∃ seat ∈ rows, map.isNewer seat = true
  · exact Or.inl newer
  · refine Or.inr ?_
    intro seat member
    by_contra isNewer
    exact newer ⟨seat, member, by simpa using isNewer⟩

/-- A full `PUT` that counts enough follows the map it found. -/
theorem follows_putFull
    {map : SeatMap}
    {published : Publication}
    {rows : List SeatState}
    {stored : Nat}
    (readable : map.updating = false)
    (incarnated : map.incarnation ≠ none)
    (versioned : map.version = some stored)
    (notLess :
      stored ≤ (rows.map fun seat =>
        max (map.sourceVersion seat.seatId) seat.sourceVersion).sum)
    (greater :
      (∃ seat ∈ rows, map.isNewer seat = true) →
      stored < (rows.map fun seat =>
        max (map.sourceVersion seat.seatId) seat.sourceVersion).sum) :
    map.Follows (map.afterPut (.full published) rows) := by
  obtain ⟨incarnation, isIncarnation⟩ :=
    Option.ne_none_iff_exists'.mp incarnated
  rw [afterPut_full, putVersion_full]
  refine ⟨by simp [isIncarnation], readable.symm, by simp,
    fun _ => Table.find?_upsertAll_ne_none, ?_⟩
  by_cases same :
      stored = (rows.map fun seat =>
        max (map.sourceVersion seat.seatId) seat.sourceVersion).sum
  · rcases map.newer_cases rows with newer | current
    · exact absurd same (greater newer).ne
    · refine Or.inl ⟨by rw [versioned, same], ?_⟩
      rw [writtenEntries_eq_nil readable current]
      rfl
  · exact Or.inr ⟨stored, _, versioned, rfl,
      Nat.lt_of_le_of_ne notLess same⟩

/-- A patch of seats that the map has follows the map. -/
theorem follows_putPatch
    {map : SeatMap}
    {rows : List SeatState}
    (covered : ∀ seat ∈ rows, map.seats.find? seat.seatId ≠ none) :
    map.Follows (map.afterPut .patch rows) := by
  cases accepted : map.put .patch rows with
  | none =>
      rw [afterPut_refused accepted]
      exact .refl map
  | some writes =>
      obtain ⟨present, readable⟩ := (put_eq_some accepted).2 rfl
      obtain ⟨stored, versioned⟩ := Option.ne_none_iff_exists'.mp present
      rw [afterPut_patch present readable, putVersion_patch, versioned]
      refine ⟨rfl, rfl, by simp, fun _ => Table.find?_upsertAll_ne_none, ?_⟩
      rcases map.newer_cases rows with
        ⟨seat, member, newer⟩ | current
      · refine Or.inr ⟨stored, _, versioned, rfl, ?_⟩
        obtain ⟨old, found⟩ :=
          Option.ne_none_iff_exists'.mp (covered seat member)
        have older := isNewer_iff.mp newer old found
        have gained :
            0 < max (map.sourceVersion seat.seatId) seat.sourceVersion -
              map.sourceVersion seat.seatId := by
          rw [sourceVersion, found]
          simp only [Option.map_some, Option.getD_some]
          omega
        have counted :
            0 < (rows.map fun other =>
              max (map.sourceVersion other.seatId) other.sourceVersion -
                map.sourceVersion other.seatId).sum :=
          List.sum_pos_iff_exists_pos_nat.mpr
            ⟨_, List.mem_map_of_mem member, gained⟩
        simp only [Option.getD_some]
        omega
      · have nothing :
            (rows.map fun seat =>
              max (map.sourceVersion seat.seatId) seat.sourceVersion -
                map.sourceVersion seat.seatId).sum = 0 := by
          refine List.sum_eq_zero_iff_forall_eq_nat.mpr ?_
          intro gain listed
          obtain ⟨seat, member, rfl⟩ := List.mem_map.mp listed
          rcases map.selected_cases 0 seat with
            ⟨newer, _⟩ | ⟨_, old, found, notLater, _⟩
          · rw [current seat member] at newer
            cases newer
          · rw [sourceVersion, found]
            simp only [Option.map_some, Option.getD_some]
            omega
        refine Or.inl ⟨by rw [nothing]; simp [versioned], ?_⟩
        rw [writtenEntries_eq_nil readable current]
        rfl

/-- Taking seats adds one to the version for each. -/
theorem follows_takeSeats
    {map : SeatMap}
    {response : CommandResponse}
    {version : Nat}
    {selected : List SeatEntry}
    (versioned : map.version = some version) :
    map.Follows (map.takeSeats response version selected) := by
  refine ⟨rfl, rfl, by simp [takeSeats],
    fun _ => Table.find?_upsertAll_ne_none, ?_⟩
  cases selected with
  | nil => exact Or.inl ⟨by simp [takeSeats, versioned], rfl⟩
  | cons entry rest =>
      exact Or.inr ⟨version, _, versioned, rfl, by simp⟩

/-- Freeing seats adds one to the version for each. -/
theorem follows_freeSeats
    {map : SeatMap}
    {holdId : Uuid}
    {seatIds : List SeatId}
    (versioned : map.version ≠ none) :
    map.Follows (seatIds.foldl (Redis.freeSeat holdId) map) := by
  induction seatIds generalizing map with
  | nil =>
      exact .refl map
  | cons seatId rest inductionHypothesis =>
      have first : map.Follows (Redis.freeSeat holdId map seatId) := by
        unfold Redis.freeSeat
        split
        · exact .refl map
        · split
          · obtain ⟨stored, isStored⟩ :=
              Option.ne_none_iff_exists'.mp versioned
            refine ⟨rfl, rfl, by simp, ?_, ?_⟩
            · intro other present
              rw [Table.find?_upsert]
              split
              · simp
              · exact present
            · exact Or.inr ⟨stored, _, isStored, rfl, by simp [isStored]⟩
          · exact .refl map
      exact first.trans (inductionHypothesis (first.versioned versioned))

/-- A missing map has no seat to free. -/
theorem freeSeats_missing
    (holdId : Uuid)
    (seatIds : List SeatId) :
    seatIds.foldl (Redis.freeSeat holdId) {} = {} := by
  induction seatIds with
  | nil =>
      rfl
  | cons seatId rest inductionHypothesis =>
      exact inductionHypothesis

end SeatMap

/-! ## The invariant of a run -/

/-- A readable map of an offered incarnation, with every seat of the event. -/
structure SeatMap.Published
    (map : SeatMap)
    (eventId : Uuid)
    (db : Database Hash)
    (offered : List Uuid) : Prop where
  versioned : map.version ≠ none
  readable : map.updating = false
  incarnated : ∃ incarnation ∈ offered, map.incarnation = some incarnation
  covered :
    ∀ seatId,
      db.eventSeats.find? (eventId, seatId) ≠ none →
      map.seats.find? seatId ≠ none

omit [DecidableEq Hash] in
/-- A map that follows a published one is published. -/
theorem SeatMap.Published.later
    {map next : SeatMap}
    {eventId : Uuid}
    {db after : Database Hash}
    {early late : List Uuid}
    (published : map.Published eventId db early)
    (follows : map.Follows next)
    (rows : RowsAdvance db after)
    (offered : early ⊆ late) :
    next.Published eventId after late := by
  obtain ⟨incarnation, isOffered, incarnated⟩ := published.incarnated
  refine ⟨follows.versioned published.versioned,
    follows.updating.trans published.readable,
    ⟨incarnation, offered isOffered,
      follows.incarnation.trans incarnated⟩, ?_⟩
  intro seatId present
  exact follows.covered seatId
    (published.covered seatId (rows.present_iff.mp present))

omit [DecidableEq Hash] in
/-- A full `PUT` of every seat publishes a missing map. -/
theorem SeatMap.published_putFull
    {eventId : Uuid}
    {db : Database Hash}
    {sale : Event}
    {rows : List SeatState}
    {incarnation : Uuid}
    {offered : List Uuid}
    (isOffered : incarnation ∈ offered)
    (complete :
      ∀ seatId,
        db.eventSeats.find? (eventId, seatId) ≠ none →
        ∃ seat ∈ rows, seat.seatId = seatId) :
    (SeatMap.afterPut {} (.full (publication sale rows incarnation))
      rows).Published eventId db offered := by
  rw [afterPut_full]
  refine ⟨by simp, rfl, ⟨incarnation, isOffered, rfl⟩, ?_⟩
  intro seatId present
  obtain ⟨seat, member, rfl⟩ := complete seatId present
  have written :
      SeatMap.selected {}
          (SeatMap.putVersion {}
            (.full (publication sale rows incarnation)) rows) seat ∈
        SeatMap.writtenEntries {}
          (.full (publication sale rows incarnation)) rows :=
    mem_writtenEntries.mpr ⟨seat, member, Or.inl rfl, rfl⟩
  rw [← SeatMap.seatId_selected {} _ seat]
  exact Table.find?_upsertAll_ne_none_of_mem written

namespace MapWorld

/-- The map is missing or published; reads have the seats of the event. -/
structure Tracked (eventId : Uuid) (world : MapWorld Hash) : Prop where
  snapshots :
    ∀ {sale rows},
      (sale, rows) ∈ world.snapshots →
      ∀ seatId,
        world.db.eventSeats.find? (eventId, seatId) ≠ none →
        ∃ seat ∈ rows, seat.seatId = seatId
  patches :
    ∀ {rows},
      rows ∈ world.patches →
      ∀ seat ∈ rows,
        world.db.eventSeats.find? (eventId, seat.seatId) ≠ none
  published :
    world.redis.maps eventId = {} ∨
      (world.redis.maps eventId).Published eventId world.db world.offered

/-- How one step treats the map. -/
inductive Outcome
    (eventId : Uuid)
    (world after : MapWorld Hash) : Prop where
  | unchanged (same : after.redis.maps eventId = world.redis.maps eventId)
  | followed
      (published :
        (world.redis.maps eventId).Published eventId world.db
          world.offered)
      (follows :
        (world.redis.maps eventId).Follows (after.redis.maps eventId))
  | lost (missing : after.redis.maps eventId = {})
  | created
      (incarnation : Uuid)
      (missing : world.redis.maps eventId = {})
      (fresh : incarnation ∉ world.offered)
      (isCreated :
        (after.redis.maps eventId).Published eventId after.db
          after.offered)
      (incarnated :
        (after.redis.maps eventId).incarnation = some incarnation)

variable
  {intake : RedisReservationIntake Hash}
  {eventId : Uuid}
  {world after : MapWorld Hash}
  {action : MapAction Hash}

omit [DecidableEq Hash] in
theorem maps_setMap_self
    (world : MapWorld Hash)
    (map : SeatMap) :
    (world.setMap eventId map).redis.maps eventId = map := by
  rw [setMap, Redis.maps_setMap, if_pos rfl]

/-- What one step does to the map. -/
theorem CountedStep.outcome
    (tracked : Tracked eventId world)
    (step : CountedStep intake eventId world action after) :
    Outcome eventId world after := by
  obtain ⟨⟨possible, rfl⟩, keepsCount⟩ := step
  cases action with
  | changeRows db => exact .unchanged rfl
  | readSnapshot sale => exact .unchanged rfl
  | readChanged seatIds => exact .unchanged rfl
  | putFull sale rows incarnation =>
      obtain ⟨wasRead, fresh⟩ := possible
      have isPut :
          (world.next intake eventId
              (.putFull sale rows incarnation)).redis.maps eventId =
            (world.redis.maps eventId).afterPut
              (.full (publication sale rows incarnation)) rows :=
        maps_setMap_self world _
      rcases tracked.published with missing | published
      · rw [missing] at isPut
        refine .created incarnation missing fresh ?_ ?_
        · rw [isPut]
          exact SeatMap.published_putFull List.mem_cons_self
            (tracked.snapshots wasRead)
        · rw [isPut, SeatMap.afterPut_full]
          rfl
      · obtain ⟨stored, versioned⟩ :=
          Option.ne_none_iff_exists'.mp published.versioned
        obtain ⟨notLess, greater⟩ := keepsCount stored versioned
        obtain ⟨_, _, incarnated⟩ := published.incarnated
        refine .followed published ?_
        rw [isPut]
        exact SeatMap.follows_putFull published.readable
          (by simp [incarnated]) versioned notLess greater
  | putPatch rows =>
      have isPut :
          (world.next intake eventId (.putPatch rows)).redis.maps eventId =
            (world.redis.maps eventId).afterPut .patch rows :=
        maps_setMap_self world _
      rcases tracked.published with missing | published
      · rw [missing] at isPut
        exact .unchanged (isPut.trans missing.symm)
      · refine .followed published ?_
        rw [isPut]
        refine SeatMap.follows_putPatch ?_
        intro seat member
        exact published.covered _ (tracked.patches possible seat member)
  | enqueue command now =>
      rcases intake.enqueue_cases command now world.redis with
        ⟨refused, _⟩ | ⟨sale, version, selected, accepts, accepted⟩
      · exact .unchanged (congrArg (fun redis => redis.maps eventId) refused)
      · have isTaken :
            (world.next intake eventId (.enqueue command now)).redis.maps
                eventId =
              (world.redis.setMap command.eventId
                ((world.redis.maps command.eventId).takeSeats
                  (intake.accept command now sale version selected
                    world.redis).1
                  version selected)).maps eventId :=
          congrArg (fun reply => reply.2.maps eventId) accepted
        rw [Redis.maps_setMap] at isTaken
        split at isTaken
        · rename_i sameEvent
          subst sameEvent
          rcases tracked.published with missing | published
          · have versioned := accepts.versioned
            rw [missing] at versioned
            cases versioned
          · refine .followed published ?_
            rw [isTaken]
            exact SeatMap.follows_takeSeats accepts.versioned
        · exact .unchanged isTaken
  | markFailed otherEvent commandId seatIds code =>
      rcases world.redis.markFailed_cases otherEvent commandId seatIds
          code with
        ⟨refused, _⟩ | ⟨command, _, _, marked⟩
      · exact .unchanged (congrArg (fun redis => redis.maps eventId) refused)
      · have isFreed :
            (world.next intake eventId
                (.markFailed otherEvent commandId seatIds
                  code)).redis.maps eventId =
              (world.redis.setMap otherEvent
                (seatIds.foldl (Redis.freeSeat command.response.holdId)
                  (world.redis.maps otherEvent))).maps eventId :=
          congrArg (fun redis => redis.maps eventId) marked
        rw [Redis.maps_setMap] at isFreed
        split at isFreed
        · rename_i sameEvent
          subst sameEvent
          rcases tracked.published with missing | published
          · refine .unchanged (isFreed.trans ?_)
            rw [missing]
            exact SeatMap.freeSeats_missing _ _
          · refine .followed published ?_
            rw [isFreed]
            exact SeatMap.follows_freeSeats published.versioned
        · exact .unchanged isFreed
  | loseMap => exact .lost (maps_setMap_self world _)

/-- The database's seats stay, and no offered incarnation is forgotten. -/
theorem Step.frame
    (step : Step intake eventId world action after) :
    RowsAdvance world.db after.db ∧ world.offered ⊆ after.offered := by
  obtain ⟨possible, rfl⟩ := step
  cases action with
  | changeRows db => exact ⟨possible, fun _ member => member⟩
  | putFull sale rows incarnation =>
      exact ⟨.refl _, fun _ member => List.mem_cons_of_mem _ member⟩
  | readSnapshot | readChanged | putPatch | enqueue | markFailed
  | loseMap => exact ⟨.refl _, fun _ member => member⟩

theorem Tracked.step
    (tracked : Tracked eventId world)
    (step : CountedStep intake eventId world action after) :
    Tracked eventId after := by
  have outcome := step.outcome tracked
  obtain ⟨rows, offered⟩ := step.1.frame
  have published :
      after.redis.maps eventId = {} ∨
        (after.redis.maps eventId).Published eventId after.db
          after.offered := by
    cases outcome with
    | unchanged same =>
        rcases tracked.published with missing | published
        · exact Or.inl (same.trans missing)
        · rw [same]
          exact Or.inr (published.later (.refl _) rows offered)
    | followed published follows =>
        exact Or.inr (published.later follows rows offered)
    | lost missing => exact Or.inl missing
    | created _ _ _ isCreated _ => exact Or.inr isCreated
  obtain ⟨⟨possible, rfl⟩, _⟩ := step
  cases action with
  | changeRows db =>
      refine ⟨?_, ?_, published⟩
      · intro sale read wasRead seatId present
        exact tracked.snapshots wasRead seatId
          (rows.present_iff.mp present)
      · intro read wasRead seat member
        exact rows.present_iff.mpr (tracked.patches wasRead seat member)
  | readSnapshot sale =>
      refine ⟨?_, tracked.patches, published⟩
      intro otherSale read wasRead seatId present
      rcases List.mem_cons.mp wasRead with isNew | old
      · cases isNew
        obtain ⟨row, found⟩ := Option.ne_none_iff_exists'.mp present
        have place : row.place = (eventId, seatId) :=
          Table.key_of_find? found
        have sameSeat : row.seatId = seatId := congrArg Prod.snd place
        refine ⟨seatState row, mem_snapshotRows.mpr ⟨row, ?_, rfl⟩,
          sameSeat⟩
        change world.db.eventSeats.find? (eventId, row.seatId) = some row
        rw [sameSeat]
        exact found
      · exact tracked.snapshots old seatId present
  | readChanged seatIds =>
      refine ⟨tracked.snapshots, ?_, published⟩
      intro read wasRead seat member
      rcases List.mem_cons.mp wasRead with rfl | old
      · obtain ⟨⟨row, found, _⟩, _⟩ := mem_changedRows.mp member
        simp [next, found]
      · exact tracked.patches old seat member
  | putFull | putPatch | enqueue | markFailed | loseMap =>
      exact ⟨tracked.snapshots, tracked.patches, published⟩

omit [DecidableEq Hash] in
theorem Initial.tracked
    (initial : world.Initial eventId) :
    Tracked eventId world := by
  refine ⟨?_, ?_, Or.inl initial.missing⟩
  · intro sale rows wasRead
    rw [initial.unread.1] at wasRead
    cases wasRead
  · intro rows wasRead
    rw [initial.unread.2] at wasRead
    cases wasRead

/--
Between two moments, an incarnation that was offered before the first is that
of the map at both or not that of the map at the second.
-/
structure Retains
    (eventId : Uuid)
    (world after : MapWorld Hash) : Prop where
  offered : world.offered ⊆ after.offered
  returned :
    ∀ incarnation ∈ world.offered,
      (after.redis.maps eventId).incarnation = some incarnation →
      (world.redis.maps eventId).incarnation = some incarnation ∧
        (world.redis.maps eventId).Advances (after.redis.maps eventId)

omit [DecidableEq Hash] in
theorem Retains.trans
    {first second third : MapWorld Hash}
    (early : Retains eventId first second)
    (late : Retains eventId second third) :
    Retains eventId first third := by
  refine ⟨fun _ member => late.offered (early.offered member), ?_⟩
  intro incarnation member incarnated
  obtain ⟨before, lateAdvance⟩ :=
    late.returned incarnation (early.offered member) incarnated
  obtain ⟨atFirst, earlyAdvance⟩ :=
    early.returned incarnation member before
  exact ⟨atFirst, earlyAdvance.trans lateAdvance⟩

theorem CountedStep.retains
    (tracked : Tracked eventId world)
    (step : CountedStep intake eventId world action after) :
    Retains eventId world after := by
  refine ⟨step.1.frame.2, ?_⟩
  intro incarnation member incarnated
  cases step.outcome tracked with
  | unchanged same =>
      rw [same] at incarnated ⊢
      exact ⟨incarnated, .refl _⟩
  | followed _ follows =>
      exact ⟨follows.incarnation.symm.trans incarnated, follows.advances⟩
  | lost missing =>
      rw [missing] at incarnated
      cases incarnated
  | created other _ fresh _ isOther =>
      rw [isOther] at incarnated
      cases incarnated
      exact absurd member fresh

end MapWorld

/-! ## Browsing -/

/--
In every run whose full `PUT`s do not set the version back, two moments with
the same availability tag have the same body, and a `304` is returned only for
the body that was served under its tag.
-/
theorem availability_tags
    {intake : RedisReservationIntake Hash}
    {eventId : Uuid}
    {start first second : MapWorld Hash}
    {early late : List (MapAction Hash)}
    {candidates : List Validator}
    {tag : ETag}
    {held : AvailabilityBody}
    (initial : start.Initial eventId)
    (earlyRun :
      Run (MapWorld.CountedStep intake eventId) start early first)
    (lateRun :
      Run (MapWorld.CountedStep intake eventId) first late second)
    (served :
      (first.redis.maps eventId).browse eventId .availability candidates =
        .availability tag held) :
    (∀ others body,
      (second.redis.maps eventId).browse eventId .availability others =
        .availability tag body →
      body = held) ∧
    ∀ others,
      (second.redis.maps eventId).browse eventId .availability others =
        .notModified tag →
      (second.redis.maps eventId).browse eventId .availability [] =
        .availability tag held := by
  have tracked : MapWorld.Tracked eventId first :=
    earlyRun.invariant initial.tracked fun holds step => holds.step step
  have retains : MapWorld.Retains eventId first second :=
    lateRun.relates (MapWorld.Tracked eventId) tracked
      (fun holds step => holds.step step)
      (fun world => ⟨fun _ member => member,
        fun _ _ incarnated => ⟨incarnated, .refl _⟩⟩)
      MapWorld.Retains.trans
      (fun holds step => step.retains holds)
  obtain ⟨incarnation, version, incarnated, versioned, _, rfl, rfl⟩ :=
    SeatMap.browse_eq_availability served
  have isOffered : incarnation ∈ first.offered := by
    rcases tracked.published with missing | published
    · rw [missing] at incarnated
      cases incarnated
    · obtain ⟨other, isOffered, isOther⟩ := published.incarnated
      rw [incarnated] at isOther
      cases isOther
      exact isOffered
  have sameBody :
      ∀ others body,
        (second.redis.maps eventId).browse eventId .availability others =
          .availability (.availability eventId incarnation version)
            body →
        body =
          (first.redis.maps eventId).availabilityBody eventId version := by
    intro others body answered
    obtain ⟨again, count, isAgain, isCount, _, sameTag, rfl⟩ :=
      SeatMap.browse_eq_availability answered
    cases sameTag
    rcases (retains.returned incarnation isOffered isAgain).2 with
      ⟨_, sameSeats⟩ | ⟨older, newer, olderIs, newerIs, later⟩
    · rw [SeatMap.availabilityBody, SeatMap.availabilityBody, sameSeats]
    · rw [versioned] at olderIs
      rw [isCount] at newerIs
      cases olderIs
      cases newerIs
      exact absurd later (lt_irrefl _)
  refine ⟨sameBody, ?_⟩
  intro others answered
  obtain ⟨body, shown⟩ := SeatMap.browse_eq_notModified answered
  rw [shown, sameBody [] body shown]

/-! ## Runs without reservations -/

omit [DecidableEq Hash] in
/-- Neither `ENQUEUE` nor `MARK_FAILED`. -/
def MapAction.Projects : MapAction Hash → Prop
  | .enqueue _ _ => False
  | .markFailed _ _ _ _ => False
  | _ => True

/-- A patch leaves a readable map readable. -/
theorem SeatMap.updating_afterPut_patch
    {map : SeatMap}
    {rows : List SeatState}
    (readable : map.updating = false) :
    (map.afterPut .patch rows).updating = false := by
  cases accepted : map.put .patch rows with
  | none =>
      rw [afterPut_refused accepted]
      exact readable
  | some writes =>
      exact (map.afterPut_accepted .patch rows
        fun _ => (put_eq_some accepted).2 rfl).2.2

/-- A map that counts its source versions is not set back by a snapshot. -/
theorem SeatMap.Stocks.notSetBack
    {inventory : Finset SeatId}
    {map : SeatMap}
    {published : Publication}
    {rows : List SeatState}
    {stored : Nat}
    (stocks : map.Stocks inventory)
    (readable : map.updating = false)
    (lists : Payload.Lists inventory ⟨.full published, rows⟩)
    (versioned : map.version = some stored) :
    stored ≤ (rows.map fun seat =>
        max (map.sourceVersion seat.seatId) seat.sourceVersion).sum ∧
      ((∃ seat ∈ rows, map.isNewer seat = true) →
        stored < (rows.map fun seat =>
          max (map.sourceVersion seat.seatId) seat.sourceVersion).sum) := by
  have cached :
      (rows.map fun seat => map.sourceVersion seat.seatId).sum = stored := by
    have sameSeats (seatId : SeatId) :
        seatId ∈ inventory.toList ↔ seatId ∈ rows.map SeatState.seatId := by
      rw [Finset.mem_toList]
      constructor
      · exact lists.whole nofun seatId
      · intro listed
        obtain ⟨row, member, rfl⟩ := List.mem_map.mp listed
        exact lists.within row member
    rw [stocks.counted versioned readable,
      sum_of_same_seats map.sourceVersion inventory.nodup_toList
        lists.distinct sameSeats,
      List.map_map]
    rfl
  rw [← cached]
  constructor
  · exact List.sum_le_sum fun seat _ => le_max_left _ _
  · rintro ⟨seat, member, newer⟩
    apply List.sum_lt_sum _ _ fun other _ => le_max_left _ _
    refine ⟨seat, member, ?_⟩
    have present :=
      stocks.covered (ne_of_eq_of_ne versioned nofun) readable seat.seatId
        (lists.within seat member)
    obtain ⟨old, found⟩ := Option.ne_none_iff_exists'.mp present
    apply lt_max_of_lt_right
    rw [SeatMap.sourceVersion, found]
    exact SeatMap.isNewer_iff.mp newer old found

namespace MapWorld

/-- The map counts its source versions, and reads are of its inventory. -/
structure Stocked
    (inventory : Finset SeatId)
    (eventId : Uuid)
    (world : MapWorld Hash) : Prop where
  seats :
    ∀ seatId,
      seatId ∈ inventory ↔
        world.db.eventSeats.find? (eventId, seatId) ≠ none
  snapshots :
    ∀ {sale rows},
      (sale, rows) ∈ world.snapshots →
      ∀ incarnation,
        Payload.Lists inventory
          ⟨.full (publication sale rows incarnation), rows⟩
  patches :
    ∀ {rows},
      rows ∈ world.patches →
      Payload.Lists inventory ⟨.patch, rows⟩
  readable : (world.redis.maps eventId).updating = false
  stocks : (world.redis.maps eventId).Stocks inventory

variable
  {intake : RedisReservationIntake Hash}
  {inventory : Finset SeatId}
  {eventId : Uuid}
  {world after : MapWorld Hash}
  {action : MapAction Hash}

omit [DecidableEq Hash] in
theorem Stocked.keepsCount
    (stocked : Stocked inventory eventId world)
    (possible : world.Possible eventId action) :
    world.KeepsCount eventId action := by
  cases action with
  | putFull sale rows incarnation =>
      intro stored versioned
      exact stocked.stocks.notSetBack stocked.readable
        (stocked.snapshots possible.1 incarnation) versioned
  | changeRows | readSnapshot | readChanged | putPatch | enqueue
  | markFailed | loseMap => exact trivial

theorem Stocked.step
    (stocked : Stocked inventory eventId world)
    (projects : action.Projects)
    (step : Step intake eventId world action after) :
    Stocked inventory eventId after := by
  obtain ⟨possible, rfl⟩ := step
  cases action with
  | changeRows db =>
      refine ⟨?_, stocked.snapshots, stocked.patches, stocked.readable,
        stocked.stocks⟩
      intro seatId
      exact (stocked.seats seatId).trans possible.present_iff.symm
  | readSnapshot sale =>
      refine ⟨stocked.seats, ?_, stocked.patches, stocked.readable,
        stocked.stocks⟩
      intro other rows wasRead incarnation
      rcases List.mem_cons.mp wasRead with isNew | old
      · cases isNew
        have readFrom :
            Projection.ReadFrom world.db
              (.full eventId sale (snapshotRows world.db eventId)) :=
          .full possible
        exact readFrom.lists stocked.seats incarnation
      · exact stocked.snapshots old incarnation
  | readChanged seatIds =>
      refine ⟨stocked.seats, stocked.snapshots, ?_, stocked.readable,
        stocked.stocks⟩
      intro rows wasRead
      rcases List.mem_cons.mp wasRead with rfl | old
      · have readFrom :
            Projection.ReadFrom world.db
              (.patch eventId (changedRows world.db eventId seatIds)) :=
          .patch
        exact readFrom.lists stocked.seats 0
      · exact stocked.patches old
  | putFull sale rows incarnation =>
      have lists := stocked.snapshots possible.1 incarnation
      refine ⟨stocked.seats, stocked.snapshots, stocked.patches, ?_, ?_⟩
      · rw [next, maps_setMap_self, SeatMap.afterPut_full]
      · rw [next, maps_setMap_self]
        exact stocked.stocks.afterPut lists
  | putPatch rows =>
      have lists := stocked.patches possible
      refine ⟨stocked.seats, stocked.snapshots, stocked.patches, ?_, ?_⟩
      · rw [next, maps_setMap_self]
        exact SeatMap.updating_afterPut_patch stocked.readable
      · rw [next, maps_setMap_self]
        exact stocked.stocks.afterPut lists
  | enqueue | markFailed => exact projects.elim
  | loseMap =>
      refine ⟨stocked.seats, stocked.snapshots, stocked.patches, ?_, ?_⟩
      · rw [next, maps_setMap_self]
      · rw [next, maps_setMap_self]
        exact SeatMap.stocks_missing

omit [DecidableEq Hash] in
theorem Initial.stocked
    (initial : world.Initial eventId) :
    ∃ inventory, Stocked inventory eventId world := by
  refine ⟨((snapshotRows world.db eventId).map SeatState.seatId).toFinset,
    ?_, ?_, ?_, ?_, ?_⟩
  · intro seatId
    rw [List.mem_toFinset, mem_seatIds_snapshotRows]
  · intro sale rows wasRead
    rw [initial.unread.1] at wasRead
    cases wasRead
  · intro rows wasRead
    rw [initial.unread.2] at wasRead
    cases wasRead
  · rw [initial.missing]
  · rw [initial.missing]
    exact SeatMap.stocks_missing

/-- Without `ENQUEUE` and `MARK_FAILED` no full `PUT` sets the version back. -/
theorem run_counted
    {trace : List (MapAction Hash)}
    (initial : world.Initial eventId)
    (run : Run (Step intake eventId) world trace after)
    (projects : ∀ action ∈ trace, action.Projects) :
    Run (CountedStep intake eventId) world trace after := by
  obtain ⟨inventory, stocked⟩ := initial.stocked
  clear initial
  induction run with
  | nil => exact .nil _
  | cons step rest inductionHypothesis =>
      have kept :=
        stocked.step (projects _ List.mem_cons_self) step
      have counted := inductionHypothesis
        (fun action member => projects action (List.mem_cons_of_mem _ member))
        kept
      exact .cons ⟨step, stocked.keepsCount step.1⟩ counted

end MapWorld

/-! ## A small map -/

/-- The small sale before its map is published. -/
def unmappedSale : MapWorld Request where
  db := smallSale
  redis := { maps := fun _ => {} }

/-- A snapshot is read and published. -/
def publishMap : List (MapAction Request) :=
  [.readSnapshot smallEvent,
    .putFull smallEvent (snapshotRows smallSale 1) 700]

/-- The same snapshot is published again. -/
def publishAgain : MapAction Request :=
  .putFull smallEvent (snapshotRows smallSale 1) 701

def mappedSale : MapWorld Request :=
  publishMap.foldl (MapWorld.next · smallIntake 1) unmappedSale

theorem run_publishMap :
    Run (MapWorld.CountedStep smallIntake 1) unmappedSale publishMap
      mappedSale :=
  .cons ⟨⟨rfl, rfl⟩, trivial⟩
    (.cons ⟨⟨⟨List.mem_cons_self, List.not_mem_nil⟩, rfl⟩, nofun⟩ (.nil _))

theorem unmappedSale_initial : unmappedSale.Initial 1 :=
  ⟨rfl, rfl, rfl⟩

/-- The availability of two free seats. -/
def freeSeatsBody : AvailabilityBody where
  eventId := 1
  version := 0
  seats :=
    [{ seatId := "A1", status := .available, reservedUntil := none },
      { seatId := "A2", status := .available, reservedUntil := none }]

/-- The availability once a command holds both seats. -/
def heldSeatsBody : AvailabilityBody where
  eventId := 1
  version := 2
  seats :=
    [{ seatId := "A1"
       status := .held
       reservedUntil := some (.iso (121 * second)) },
      { seatId := "A2"
        status := .held
        reservedUntil := some (.iso (121 * second)) }]

/-- The map is published again, and then a command takes both seats. -/
def takenSale : MapWorld Request :=
  (mappedSale.next smallIntake 1 publishAgain).next smallIntake 1
    (.enqueue smallCommand 1)

theorem run_takenSale :
    Run (MapWorld.CountedStep smallIntake 1) unmappedSale
      (publishMap ++ [publishAgain, .enqueue smallCommand 1]) takenSale := by
  have counted :
      MapWorld.CountedStep smallIntake 1 mappedSale publishAgain
        (mappedSale.next smallIntake 1 publishAgain) := by
    refine ⟨⟨⟨List.mem_cons_self, by decide⟩, rfl⟩, ?_⟩
    rintro stored ⟨⟩
    decide
  exact run_publishMap.append
    (.cons counted (.single ⟨⟨trivial, rfl⟩, trivial⟩))

/-- A second command, which finds the seats taken. -/
def refusedCommand : NewCommand :=
  { smallCommand with
    actor := "bob"
    commandId := 510
    holdId := 511
    orderId := 512 }

/-- A patch then brings a row that is no newer than its entry. -/
def patchHeld : List (MapAction Request) :=
  [.enqueue refusedCommand 2, .readChanged ["A1"],
    .putPatch (changedRows smallSale 1 ["A1"])]

def patchedSale : MapWorld Request :=
  patchHeld.foldl (MapWorld.next · smallIntake 1) takenSale

/-- The tag of the held seats still stands for them after the patch. -/
theorem availability_tags_patchHeld :
    (patchedSale.redis.maps 1).browse 1 .availability
        [.tag (.availability 1 700 2)] =
      .notModified (.availability 1 700 2) ∧
    (patchedSale.redis.maps 1).browse 1 .availability [] =
      .availability (.availability 1 700 2) heldSeatsBody := by
  have patched :
      Run (MapWorld.CountedStep smallIntake 1) takenSale patchHeld
        patchedSale :=
    .cons ⟨⟨trivial, rfl⟩, trivial⟩
      (.cons ⟨⟨trivial, rfl⟩, trivial⟩
        (.single ⟨⟨List.mem_cons_self, rfl⟩, trivial⟩))
  have answered :
      (patchedSale.redis.maps 1).browse 1 .availability
          [.tag (.availability 1 700 2)] =
        .notModified (.availability 1 700 2) := by
    decide
  have served :
      (takenSale.redis.maps 1).browse 1 .availability [] =
        .availability (.availability 1 700 2) heldSeatsBody := by
    decide
  exact ⟨answered,
    (availability_tags unmappedSale_initial run_takenSale patched served).2 _
      answered⟩

/--
A full `PUT` after a provisional reservation sets the version back: the tag of
the free map is confirmed for a map whose seats are held.
-/
theorem availability_tag_repeats :
    ∃ (taken : MapWorld Request) (current : AvailabilityBody),
      unmappedSale.Initial 1 ∧
      Run (MapWorld.Step smallIntake 1) unmappedSale publishMap
        mappedSale ∧
      Run (MapWorld.Step smallIntake 1) mappedSale
        [.enqueue smallCommand 1, publishAgain] taken ∧
      (mappedSale.redis.maps 1).browse 1 .availability [] =
        .availability (.availability 1 700 0) freeSeatsBody ∧
      (taken.redis.maps 1).browse 1 .availability
          [.tag (.availability 1 700 0)] =
        .notModified (.availability 1 700 0) ∧
      (taken.redis.maps 1).browse 1 .availability [] =
        .availability (.availability 1 700 0) current ∧
      current ≠ freeSeatsBody := by
  refine ⟨_, _, unmappedSale_initial,
    run_publishMap.mono fun step => step.1,
    .cons ⟨trivial, rfl⟩
      (.cons ⟨⟨List.mem_cons_self, by decide⟩, rfl⟩ (.nil _)),
    by decide, by decide, rfl, by decide⟩

end FlashTicketing
