import FlashTicketing.MapMirror
import FlashTicketing.PostgresRun

namespace FlashTicketing

open Relational Transition

/-!
# What readers of a seat map see

A projector reads in one transaction and puts what it has read later.  The
fence of `PUT` compares the payload with the entries of the map, and with the
map they are lost: a snapshot that was read before the loss can then create the
map anew, with versions that readers have seen replaced.  Without such late
creations neither a seat nor the map goes back.
-/

variable {Hash : Type}

/-! ## Projectors, changes and losses -/

/-- What a projector holds, with the losses of the map before its read. -/
structure Held where
  projection : Projection
  losses : Nat

/-- The losses of each map are counted; no step reads the count. -/
structure ReaderWorld (Hash : Type) where
  db : Database Hash
  maps : Uuid → SeatMap := fun _ => {}
  projectors : Nat → Option Held := fun _ => none
  losses : Uuid → Nat := fun _ => 0

inductive ReaderAction (Hash : Type) where
  | transact (call : Call Hash) (ambient : Ambient)
  | project (slot : Nat) (projection : Projection)
  | put (slot : Nat) (incarnation : Uuid)
  | abandon (slot : Nat)
  | loseMap (eventId : Uuid)

def ReaderWorld.setProjector
    (world : ReaderWorld Hash)
    (slot : Nat)
    (held : Option Held) : ReaderWorld Hash :=
  { world with projectors := Function.update world.projectors slot held }

def ReaderWorld.setMap
    (world : ReaderWorld Hash)
    (eventId : Uuid)
    (map : SeatMap) : ReaderWorld Hash :=
  { world with maps := Function.update world.maps eventId map }

inductive ReaderWorld.Step
    [DecidableEq Hash]
    (self : PostgresReservations Hash)
    (world : ReaderWorld Hash) :
    ReaderAction Hash → ReaderWorld Hash → Prop where
  | transact
      {call : Call Hash}
      {ambient : Ambient} :
      Step self world (.transact call ambient)
        { world with db := (self.transaction call ambient world.db).2 }
  | project
      {slot : Nat}
      {projection : Projection}
      (idle : world.projectors slot = none)
      (read : projection.ReadFrom world.db) :
      Step self world (.project slot projection)
        (world.setProjector slot
          (some
            { projection := projection
              losses := world.losses projection.eventId }))
  | put
      {slot : Nat}
      {incarnation : Uuid}
      {held : Held}
      (holding : world.projectors slot = some held) :
      Step self world (.put slot incarnation)
        ((world.setMap held.projection.eventId
            ((world.maps held.projection.eventId).afterPut
              (held.projection.mode incarnation)
              held.projection.rows)).setProjector slot none)
  | abandon
      {slot : Nat} :
      Step self world (.abandon slot) (world.setProjector slot none)
  | loseMap
      {eventId : Uuid}
      (present : (world.maps eventId).version ≠ none) :
      Step self world (.loseMap eventId)
        { world.setMap eventId {} with
          losses :=
            Function.update world.losses eventId
              (world.losses eventId + 1) }

/-- A store before its first sale, without maps and projectors. -/
structure ReaderWorld.Initial (world : ReaderWorld Hash) : Prop where
  db : world.db.Initial
  missing : world.maps = fun _ => {}
  idle : world.projectors = fun _ => none

/-! ## What a reader is shown -/

/-- A read shows the source version of the seat. -/
def SeatMap.ShowsSeat
    (map : SeatMap)
    (eventId : Uuid)
    (seatId : SeatId)
    (sourceVersion : Nat) : Prop :=
  ∃ body,
    map.read eventId = some body ∧
      ∃ entry ∈ body.seats,
        entry.seatId = seatId ∧ entry.sourceVersion = sourceVersion

/-- A read shows the version, or `browse` does, in its body or in its tag. -/
inductive SeatMap.ShowsVersion
    (map : SeatMap)
    (eventId : Uuid)
    (version : Nat) : Prop where
  | read
      {body : SeatMapBody}
      (read : map.read eventId = some body)
      (isVersion : body.version = version)
  | browse
      {candidates : List Validator}
      {tag : ETag}
      {body : AvailabilityBody}
      (browsed :
        map.browse eventId .availability candidates =
          .availability tag body)
      (isVersion : body.version = version)
  | notModified
      {candidates : List Validator}
      {incarnation : Uuid}
      (browsed :
        map.browse eventId .availability candidates =
          .notModified (.availability eventId incarnation version))

namespace SeatMap

variable
  {map : SeatMap}
  {eventId : Uuid}

theorem ShowsVersion.version
    {version : Nat}
    (shows : map.ShowsVersion eventId version) :
    map.version = some version ∧ map.updating = false := by
  cases shows with
  | read read isVersion =>
      obtain ⟨isBody, readable, _⟩ := read_eq_some read
      exact ⟨isVersion ▸ isBody, readable⟩
  | browse browsed isVersion =>
      obtain ⟨_, count, _, versioned, readable, _, rfl⟩ :=
        browse_eq_availability browsed
      exact ⟨isVersion ▸ versioned, readable⟩
  | notModified browsed =>
      obtain ⟨body, shown⟩ := browse_eq_notModified browsed
      obtain ⟨_, count, _, versioned, readable, sameTag, _⟩ :=
        browse_eq_availability shown
      cases sameTag
      exact ⟨versioned, readable⟩

theorem ShowsSeat.sourceVersion
    {seatId : SeatId}
    {sourceVersion : Nat}
    (shows : map.ShowsSeat eventId seatId sourceVersion) :
    map.version ≠ none ∧ map.sourceVersion seatId = sourceVersion := by
  obtain ⟨body, read, entry, listed, rfl, rfl⟩ := shows
  obtain ⟨isVersion, _, entries⟩ := read_eq_some read
  have found : map.seats.find? entry.seatId = some entry :=
    Table.find?_key ((entries entry).mp listed)
  exact ⟨by simp [isVersion], by simp [SeatMap.sourceVersion, found]⟩

end SeatMap

/-! ## The invariant -/

/-- An entry has a row that is not older. -/
theorem SeatMap.Mirrors.row
    {map : SeatMap}
    {db : Database Hash}
    {eventId : Uuid}
    {seatId : SeatId}
    {entry : SeatEntry}
    (mirrors : map.Mirrors db eventId)
    (found : map.seats.find? seatId = some entry) :
    ∃ row,
      db.eventSeats.find? (eventId, seatId) = some row ∧
        entry.sourceVersion ≤ row.version := by
  have isSeat : entry.seatId = seatId := Table.key_of_find? found
  obtain ⟨state, ⟨row, rowFound, older, _⟩, isEntry⟩ :=
    mirrors.entries found
  have sameSeat : state.seatId = seatId := by
    rw [← isSeat, isEntry]
    rfl
  refine ⟨row, sameSeat ▸ rowFound, ?_⟩
  rw [isEntry]
  exact older

/-- Maps mirror their rows, and so does what projectors hold. -/
structure ReaderSound (world : ReaderWorld Hash) : Prop where
  mirrors : ∀ eventId, (world.maps eventId).Mirrors world.db eventId
  missing :
    ∀ {eventId},
      (world.maps eventId).version = none → world.maps eventId = {}
  held :
    ∀ {slot held},
      world.projectors slot = some held →
      held.projection.Sound world.db ∧
        held.losses ≤ world.losses held.projection.eventId

theorem ReaderWorld.Initial.sound
    {world : ReaderWorld Hash}
    (initial : world.Initial) :
    ReaderSound world := by
  constructor
  · intro eventId
    rw [initial.missing]
    exact SeatMap.mirrors_missing _ _
  · intro eventId _
    rw [initial.missing]
  · intro slot held holding
    rw [initial.idle] at holding
    cases holding

/-- A `PUT` leaves a map with a version, or it was refused. -/
theorem SeatMap.afterPut_missing
    {map : SeatMap}
    {mode : PutMode}
    {rows : List SeatState}
    (missing : (map.afterPut mode rows).version = none) :
    map.afterPut mode rows = map := by
  cases mode with
  | full published =>
      rw [SeatMap.afterPut_full] at missing
      cases missing
  | patch =>
      cases accepted : map.put .patch rows with
      | none => exact afterPut_refused accepted
      | some writes =>
          obtain ⟨present, readable⟩ := (put_eq_some accepted).2 rfl
          rw [SeatMap.afterPut_patch present readable] at missing
          cases missing

theorem ReaderSound.setProjector
    {world : ReaderWorld Hash}
    {slot : Nat}
    {value : Option Held}
    (sound : ReaderSound world)
    (next :
      ∀ held,
        value = some held →
        held.projection.Sound world.db ∧
          held.losses ≤ world.losses held.projection.eventId) :
    ReaderSound (world.setProjector slot value) := by
  refine ⟨sound.mirrors, sound.missing, ?_⟩
  intro other held holding
  unfold ReaderWorld.setProjector at holding
  by_cases same : other = slot
  · subst same
    simp only [Function.update_self] at holding
    exact next held holding
  · simp only [Function.update_of_ne same] at holding
    exact sound.held holding

theorem ReaderSound.setMap
    {world : ReaderWorld Hash}
    {eventId : Uuid}
    {map : SeatMap}
    (sound : ReaderSound world)
    (mirrors : map.Mirrors world.db eventId)
    (missing : map.version = none → map = {}) :
    ReaderSound (world.setMap eventId map) := by
  refine ⟨?_, ?_, sound.held⟩ <;>
    intro other <;>
    unfold ReaderWorld.setMap <;>
    by_cases same : other = eventId
  · subst same
    simpa using mirrors
  · simpa [Function.update_of_ne same] using sound.mirrors other
  · subst same
    simpa using missing
  · simpa [Function.update_of_ne same] using sound.missing

/-- The rows of the store only advance. -/
def ReaderWorld.Advances (world after : ReaderWorld Hash) : Prop :=
  RowsAdvance world.db after.db

section Steps

variable
  [DecidableEq Hash]
  {self : PostgresReservations Hash}
  {world after : ReaderWorld Hash}
  {action : ReaderAction Hash}

theorem ReaderWorld.Step.rowsAdvance
    (step : world.Step self action after) :
    RowsAdvance world.db after.db := by
  cases step with
  | @transact call ambient =>
      exact .of_changes
        (PostgresReservations.changes_of_transaction self call ambient
          world.db)
  | project | put | abandon | loseMap => exact .refl _

theorem ReaderSound.step
    (sound : ReaderSound world)
    (step : world.Step self action after) :
    ReaderSound after := by
  have advance : RowsAdvance world.db after.db := step.rowsAdvance
  cases step with
  | transact =>
      refine ⟨fun eventId => (sound.mirrors eventId).advance advance,
        sound.missing, ?_⟩
      intro slot held holding
      obtain ⟨heldSound, older⟩ := sound.held holding
      exact ⟨heldSound.advance advance, older⟩
  | project _ read =>
      apply sound.setProjector
      rintro _ ⟨⟩
      exact ⟨read.sound, Nat.le_refl _⟩
  | @put slot incarnation held holding =>
      have mirrors :=
        (sound.mirrors held.projection.eventId).put (sound.held holding).1
          (.complete incarnation rfl)
      refine (sound.setMap mirrors ?_).setProjector nofun
      intro missing
      have unchanged := SeatMap.afterPut_missing missing
      rw [unchanged] at missing ⊢
      exact sound.missing missing
  | abandon => exact sound.setProjector nofun
  | @loseMap lost present =>
      have emptied :=
        sound.setMap (SeatMap.mirrors_missing world.db lost) fun _ => rfl
      refine ⟨emptied.mirrors, emptied.missing, ?_⟩
      intro slot held holding
      obtain ⟨heldSound, older⟩ := sound.held holding
      refine ⟨heldSound, older.trans ?_⟩
      by_cases same : held.projection.eventId = lost
      · subst same
        simp
      · simp [Function.update_of_ne same]

/-! ## No late creation -/

/-- A missing map is created from a snapshot that was read since its loss. -/
def ReaderWorld.Timely (world : ReaderWorld Hash) : ReaderAction Hash → Prop
  | .put slot _ =>
      ∀ held eventId sale rows,
        world.projectors slot = some held →
        held.projection = .full eventId sale rows →
        (world.maps eventId).version = none →
        held.losses = world.losses eventId
  | _ => True

def ReaderWorld.TimelyStep
    (self : PostgresReservations Hash)
    (world : ReaderWorld Hash)
    (action : ReaderAction Hash)
    (after : ReaderWorld Hash) : Prop :=
  world.Step self action after ∧ world.Timely action

/--
Since some versions of the seats were shown: the rows and the map are not
older, and neither is a snapshot that was read after a loss.
-/
structure Since
    (eventId : Uuid)
    (shown : SeatId → Nat)
    (losses : Nat)
    (world : ReaderWorld Hash) : Prop where
  sound : ReaderSound world
  atMost : losses ≤ world.losses eventId
  rows :
    ∀ {seatId row},
      world.db.eventSeats.find? (eventId, seatId) = some row →
      shown seatId ≤ row.version
  absent :
    ∀ {seatId},
      world.db.eventSeats.find? (eventId, seatId) = none →
      shown seatId = 0
  snapshots :
    ∀ {slot held sale rows},
      world.projectors slot = some held →
      held.projection = .full eventId sale rows →
      losses < held.losses →
      ∀ state ∈ rows, shown state.seatId ≤ state.sourceVersion
  map :
    (world.maps eventId).version ≠ none →
    ∀ seatId, shown seatId ≤ (world.maps eventId).sourceVersion seatId
  lost :
    (world.maps eventId).version = none → losses < world.losses eventId

omit [DecidableEq Hash] in
/-- A map that can be read is not older than what it shows. -/
theorem ReaderSound.since
    {eventId : Uuid}
    (sound : ReaderSound world)
    (present : (world.maps eventId).version ≠ none) :
    Since eventId (world.maps eventId).sourceVersion
      (world.losses eventId) world := by
  have mirrors := sound.mirrors eventId
  refine ⟨sound, Nat.le_refl _, ?_, ?_, ?_, fun _ _ => Nat.le_refl _,
    fun missing => absurd missing present⟩
  · intro seatId row found
    unfold SeatMap.sourceVersion
    cases stored : (world.maps eventId).seats.find? seatId with
    | none => exact Nat.zero_le _
    | some entry =>
        obtain ⟨other, otherFound, older⟩ := mirrors.row stored
        cases otherFound.symm.trans found
        exact older
  · intro seatId absent
    unfold SeatMap.sourceVersion
    cases stored : (world.maps eventId).seats.find? seatId with
    | none => rfl
    | some entry =>
        obtain ⟨other, otherFound, _⟩ := mirrors.row stored
        cases absent.symm.trans otherFound
  · intro slot held sale rows holding isFull later
    have older := (sound.held holding).2
    rw [isFull] at older
    exact absurd later (Nat.not_lt.mpr older)

omit [DecidableEq Hash] in
/-- What is put into the map is not older than what was shown. -/
theorem Since.put
    {eventId : Uuid}
    {shown : SeatId → Nat}
    {losses slot : Nat}
    {held : Held}
    (since : Since eventId shown losses world)
    (holding : world.projectors slot = some held)
    (timely :
      ∀ sale rows,
        held.projection = .full eventId sale rows →
        (world.maps eventId).version = none →
        held.losses = world.losses eventId)
    (sameEvent : held.projection.eventId = eventId)
    (incarnation : Uuid)
    (present :
      ((world.maps eventId).afterPut (held.projection.mode incarnation)
        held.projection.rows).version ≠ none)
    (seatId : SeatId) :
    shown seatId ≤
      ((world.maps eventId).afterPut (held.projection.mode incarnation)
        held.projection.rows).sourceVersion seatId := by
  by_cases missing : (world.maps eventId).version = none
  · cases isProjection : held.projection with
    | patch other rows =>
        have refused : (world.maps eventId).put .patch rows = none := by
          simp [SeatMap.put, missing]
        have unchanged := SeatMap.afterPut_refused refused
        rw [isProjection] at present
        change ((world.maps eventId).afterPut .patch rows).version ≠ none
          at present
        rw [unchanged] at present
        exact absurd missing present
    | full other sale rows =>
        rw [isProjection] at sameEvent
        change other = eventId at sameEvent
        subst sameEvent
        have later : losses < held.losses := by
          rw [timely sale rows isProjection missing]
          exact since.lost missing
        cases stored : world.db.eventSeats.find? (other, seatId) with
        | none =>
            rw [since.absent stored]
            exact Nat.zero_le _
        | some row =>
            have heldSound := (since.sound.held holding).1
            rw [isProjection] at heldSound
            obtain ⟨state, member, isSeat⟩ :=
              List.mem_map.mp
                (heldSound.whole rfl (by rw [stored]; exact nofun))
            subst isSeat
            have seats :=
              (world.maps other).seats_afterPut_full
                (publication sale rows incarnation) rows
            change _ ≤
              ((world.maps other).afterPut
                (.full (publication sale rows incarnation))
                rows).sourceVersion state.seatId
            rw [SeatMap.sourceVersion_written seats heldSound.nodup member]
            exact Nat.le_trans
              (since.snapshots holding isProjection later state member)
              (Nat.le_max_right _ _)
  · exact Nat.le_trans (since.map missing seatId)
      (SeatMap.PutBy.sourceVersion_le (.complete incarnation rfl) seatId)

omit [DecidableEq Hash] in
theorem Since.rows_after
    {eventId : Uuid}
    {shown : SeatId → Nat}
    {losses : Nat}
    {db : Database Hash}
    {seatId : SeatId}
    {row : EventSeat}
    (since : Since eventId shown losses world)
    (advance : RowsAdvance world.db db)
    (found : db.eventSeats.find? (eventId, seatId) = some row) :
    shown seatId ≤ row.version := by
  cases before : world.db.eventSeats.find? (eventId, seatId) with
  | none => cases (advance.absent before).symm.trans found
  | some old =>
      obtain ⟨next, nextFound, changed⟩ := advance.kept before
      cases nextFound.symm.trans found
      have shownOld := since.rows before
      rcases changed with rfl | later
      · exact shownOld
      · omega

omit [DecidableEq Hash] in
theorem Since.absent_after
    {eventId : Uuid}
    {shown : SeatId → Nat}
    {losses : Nat}
    {db : Database Hash}
    {seatId : SeatId}
    (since : Since eventId shown losses world)
    (advance : RowsAdvance world.db db)
    (absent : db.eventSeats.find? (eventId, seatId) = none) :
    shown seatId = 0 := by
  cases before : world.db.eventSeats.find? (eventId, seatId) with
  | none => exact since.absent before
  | some old =>
      obtain ⟨next, nextFound, _⟩ := advance.kept before
      cases absent.symm.trans nextFound

omit [DecidableEq Hash] in
/-- The snapshots of the other projectors are as before. -/
theorem Since.snapshots_setProjector
    {eventId : Uuid}
    {shown : SeatId → Nat}
    {losses slot other : Nat}
    {new : Option Held}
    {held : Held}
    {sale : Event}
    {rows : List SeatState}
    (since : Since eventId shown losses world)
    (fresh :
      ∀ held,
        new = some held →
        held.projection = .full eventId sale rows →
        ∀ state ∈ rows, shown state.seatId ≤ state.sourceVersion)
    (holding : (world.setProjector slot new).projectors other = some held)
    (isFull : held.projection = .full eventId sale rows)
    (later : losses < held.losses) :
    ∀ state ∈ rows, shown state.seatId ≤ state.sourceVersion := by
  unfold ReaderWorld.setProjector at holding
  by_cases same : other = slot
  · subst same
    simp only [Function.update_self] at holding
    exact fresh held holding isFull
  · simp only [Function.update_of_ne same] at holding
    exact since.snapshots holding isFull later

theorem Since.step
    {eventId : Uuid}
    {shown : SeatId → Nat}
    {losses : Nat}
    (since : Since eventId shown losses world)
    (step : world.TimelyStep self action after) :
    Since eventId shown losses after := by
  obtain ⟨taken, timely⟩ := step
  have sound : ReaderSound after := since.sound.step taken
  have advance : RowsAdvance world.db after.db := taken.rowsAdvance
  cases taken with
  | transact =>
      exact ⟨sound, since.atMost, since.rows_after advance,
        since.absent_after advance, since.snapshots, since.map, since.lost⟩
  | @project slot projection _ read =>
      refine ⟨sound, since.atMost, since.rows, since.absent, ?_, since.map,
        since.lost⟩
      intro other held sale rows
      apply since.snapshots_setProjector
      intro held isHeld isFull state member
      cases isHeld
      change projection = _ at isFull
      subst isFull
      cases read with
      | full found =>
          obtain ⟨row, rowFound, rfl⟩ := mem_snapshotRows.mp member
          exact since.rows rowFound
  | @put slot incarnation held holding =>
      refine ⟨sound, since.atMost, since.rows, since.absent,
        since.snapshots_setProjector nofun, ?_, ?_⟩
      · by_cases same : held.projection.eventId = eventId
        · intro present
          subst same
          simp only [ReaderWorld.setMap, ReaderWorld.setProjector,
            Function.update_self] at present ⊢
          exact since.put holding
            (fun sale rows => timely held _ sale rows holding) rfl
            incarnation present
        · simpa [ReaderWorld.setMap, ReaderWorld.setProjector,
            Function.update_of_ne (Ne.symm same)] using since.map
      · by_cases same : held.projection.eventId = eventId
        · intro missing
          subst same
          simp only [ReaderWorld.setMap, ReaderWorld.setProjector,
            Function.update_self] at missing
          have unchanged := SeatMap.afterPut_missing missing
          rw [unchanged] at missing
          exact since.lost missing
        · simpa [ReaderWorld.setMap, ReaderWorld.setProjector,
            Function.update_of_ne (Ne.symm same)] using since.lost
  | @abandon slot =>
      exact ⟨sound, since.atMost, since.rows, since.absent,
        since.snapshots_setProjector nofun, since.map, since.lost⟩
  | @loseMap lost present =>
      have atMost := since.atMost
      refine ⟨sound, ?_, since.rows, since.absent, since.snapshots, ?_, ?_⟩
      · by_cases same : eventId = lost
        · subst same
          simp only [Function.update_self]
          omega
        · simpa [Function.update_of_ne same] using atMost
      · by_cases same : eventId = lost
        · subst same
          simp [ReaderWorld.setMap]
        · simpa [ReaderWorld.setMap, Function.update_of_ne same] using
            since.map
      · by_cases same : eventId = lost
        · subst same
          intro _
          simp only [Function.update_self]
          omega
        · simpa [ReaderWorld.setMap, Function.update_of_ne same] using
            since.lost

/--
In every run in which no missing map is created from a snapshot that was read
before its loss, a later read shows no seat and no map with an older version.
-/
theorem readers_never_go_back
    {start shown final : ReaderWorld Hash}
    {early late : List (ReaderAction Hash)}
    (initial : start.Initial)
    (earlyRun : Run (ReaderWorld.TimelyStep self) start early shown)
    (lateRun : Run (ReaderWorld.TimelyStep self) shown late final)
    (eventId : Uuid) :
    (∀ seatId before after,
      (shown.maps eventId).ShowsSeat eventId seatId before →
      (final.maps eventId).ShowsSeat eventId seatId after →
      before ≤ after) ∧
    ∀ before after,
      (shown.maps eventId).ShowsVersion eventId before →
      (final.maps eventId).ShowsVersion eventId after →
      before ≤ after := by
  have sound : ReaderSound shown :=
    earlyRun.invariant initial.sound fun holds step => holds.step step.1
  have grown
      (present : (shown.maps eventId).version ≠ none)
      (presentFinal : (final.maps eventId).version ≠ none)
      (seatId : SeatId) :
      (shown.maps eventId).sourceVersion seatId ≤
        (final.maps eventId).sourceVersion seatId := by
    have since :
        Since eventId (shown.maps eventId).sourceVersion
          (shown.losses eventId) final :=
      lateRun.invariant (sound.since present) fun holds step =>
        holds.step step
    exact since.map presentFinal seatId
  constructor
  · intro seatId before after showsBefore showsAfter
    obtain ⟨present, rfl⟩ := showsBefore.sourceVersion
    obtain ⟨presentFinal, rfl⟩ := showsAfter.sourceVersion
    exact grown present presentFinal seatId
  · intro before after showsBefore showsAfter
    obtain ⟨versioned, readable⟩ := showsBefore.version
    obtain ⟨versionedFinal, readableFinal⟩ := showsAfter.version
    have soundFinal : ReaderSound final :=
      lateRun.invariant sound fun holds step => holds.step step.1
    have advance : ReaderWorld.Advances shown final :=
      lateRun.relates (fun _ => True) trivial (fun _ _ => trivial)
        (fun world => RowsAdvance.refl world.db) RowsAdvance.trans
        (fun _ step => step.1.rowsAdvance)
    have nodup := snapshotRows_nodup shown.db eventId
    have counted :=
      (sound.mirrors eventId).counted versioned readable nodup
        fun _ => mem_seatIds_snapshotRows
    have countedFinal :=
      (soundFinal.mirrors eventId).counted versionedFinal readableFinal
        nodup fun _ =>
          mem_seatIds_snapshotRows.trans
            (RowsAdvance.present_iff advance).symm
    rw [counted, countedFinal]
    apply List.sum_le_sum
    intro seatId _
    exact grown (by simp [versioned]) (by simp [versionedFinal]) seatId

end Steps

/-! ## A late snapshot -/

/-- The small sale before its map is published. -/
def readerStart : ReaderWorld Request where
  db := smallSale

theorem readerStart_initial : readerStart.Initial :=
  ⟨smallSale_initial, rfl, rfl⟩

/-- The store after one seat has been reserved. -/
def readerSale : Database Request :=
  smallStore.replay smallSale (smallPurchase.take 1)

def earlySnapshot : Projection :=
  .full 1 smallEvent (snapshotRows smallSale 1)

def laterSnapshot : Projection :=
  .full 1 smallEvent (snapshotRows readerSale 1)

/-- Both snapshots are held, and the seat was reserved between their reads. -/
def readerHolding : ReaderWorld Request where
  db := readerSale
  projectors :=
    Function.update
      (Function.update (fun _ => none) 0
        (some { projection := earlySnapshot, losses := 0 }))
      1 (some { projection := laterSnapshot, losses := 0 })

/-- The later snapshot has been put. -/
def readerShown : ReaderWorld Request :=
  (readerHolding.setMap 1
    ((readerHolding.maps 1).afterPut (laterSnapshot.mode 800)
      laterSnapshot.rows)).setProjector 1 none

/-- The map has been lost. -/
def readerLost : ReaderWorld Request :=
  { readerShown.setMap 1 {} with
    losses := Function.update readerShown.losses 1 1 }

/-- The early snapshot has created it again. -/
def readerFinal : ReaderWorld Request :=
  (readerLost.setMap 1
    ((readerLost.maps 1).afterPut (earlySnapshot.mode 801)
      earlySnapshot.rows)).setProjector 0 none

def reserveFirst : ReaderAction Request :=
  .transact (.reserve "alice" 1 ["A1"] "first") (smallAmbient 1 100)

theorem run_readerHolding :
    Run (ReaderWorld.TimelyStep smallStore) readerStart
      [.project 0 earlySnapshot, reserveFirst, .project 1 laterSnapshot]
      readerHolding := by
  have foundEarly : smallSale.events.find? 1 = some smallEvent := by decide
  have foundLater : readerSale.events.find? 1 = some smallEvent := by decide
  have reads : earlySnapshot.ReadFrom smallSale := .full foundEarly
  have rereads : laterSnapshot.ReadFrom readerSale := .full foundLater
  exact .cons ⟨.project rfl reads, trivial⟩
    (.cons ⟨.transact, trivial⟩
      (.single ⟨.project rfl rereads, trivial⟩))

theorem run_readerShown :
    Run (ReaderWorld.TimelyStep smallStore) readerHolding [.put 1 800]
      readerShown := by
  have holding :
      readerHolding.projectors 1 =
        some { projection := laterSnapshot, losses := 0 } :=
    rfl
  apply Run.single
  refine ⟨.put holding, ?_⟩
  intro held eventId sale rows isHeld _ _
  cases holding.symm.trans isHeld
  rfl

/-- The map is lost, and the early snapshot is put. -/
theorem run_readerFinal :
    Run (ReaderWorld.Step smallStore) readerShown [.loseMap 1, .put 0 801]
      readerFinal := by
  have present : (readerShown.maps 1).version ≠ none := by decide
  have holding :
      readerLost.projectors 0 =
        some { projection := earlySnapshot, losses := 0 } :=
    rfl
  exact .cons (.loseMap present) (.single (.put holding))

/-- Readers see the reserved seat and then the seat as it was before. -/
theorem readers_go_back_lateSnapshot :
    (readerStart.Initial ∧
      Run (ReaderWorld.Step smallStore) readerStart
        [.project 0 earlySnapshot, reserveFirst, .project 1 laterSnapshot,
          .put 1 800] readerShown ∧
      Run (ReaderWorld.Step smallStore) readerShown
        [.loseMap 1, .put 0 801] readerFinal) ∧
    ((readerShown.maps 1).ShowsSeat 1 "A1" 1 ∧
      (readerFinal.maps 1).ShowsSeat 1 "A1" 0) ∧
    (readerShown.maps 1).ShowsVersion 1 1 ∧
      (readerFinal.maps 1).ShowsVersion 1 0 := by
  have early :
      Run (ReaderWorld.Step smallStore) readerStart _ readerShown :=
    (run_readerHolding.append run_readerShown).mono fun step => step.1
  have bodyShown :
      ∃ body,
        (readerShown.maps 1).read 1 = some body ∧
          body.version = 1 ∧
          ∃ entry ∈ body.seats,
            entry.seatId = "A1" ∧ entry.sourceVersion = 1 := by
    refine ⟨_, rfl, rfl, _, List.mem_cons_self, rfl, rfl⟩
  have bodyFinal :
      ∃ body,
        (readerFinal.maps 1).read 1 = some body ∧
          body.version = 0 ∧
          ∃ entry ∈ body.seats,
            entry.seatId = "A1" ∧ entry.sourceVersion = 0 := by
    refine ⟨_, rfl, rfl, _, List.mem_cons_self, rfl, rfl⟩
  obtain ⟨first, readFirst, firstVersion, firstSeat⟩ := bodyShown
  obtain ⟨second, readSecond, secondVersion, secondSeat⟩ := bodyFinal
  exact ⟨⟨readerStart_initial, early, run_readerFinal⟩,
    ⟨⟨first, readFirst, firstSeat⟩, second, readSecond, secondSeat⟩,
    .read readFirst firstVersion, .read readSecond secondVersion⟩

/-- A projector has read the seats again since the loss. -/
def readerReread : ReaderWorld Request :=
  readerLost.setProjector 2
    (some
      { projection := laterSnapshot
        losses := readerLost.losses laterSnapshot.eventId })

/-- Its snapshot has created the map again. -/
def readerRestored : ReaderWorld Request :=
  (readerReread.setMap 1
    ((readerReread.maps 1).afterPut (laterSnapshot.mode 802)
      laterSnapshot.rows)).setProjector 2 none

/-- A map that is created from a new read shows the reserved seat again. -/
theorem readers_never_go_back_reread :
    (readerShown.maps 1).ShowsVersion 1 1 ∧
      ∀ after, (readerRestored.maps 1).ShowsVersion 1 after → 1 ≤ after := by
  have present : (readerShown.maps 1).version ≠ none := by decide
  have found : readerSale.events.find? 1 = some smallEvent := by decide
  have reads : laterSnapshot.ReadFrom readerSale := .full found
  have holding :
      readerReread.projectors 2 =
        some { projection := laterSnapshot, losses := 1 } :=
    rfl
  have puts :
      ReaderWorld.TimelyStep smallStore readerReread (.put 2 802)
        readerRestored := by
    refine ⟨.put holding, ?_⟩
    intro held eventId sale rows isHeld isFull _
    cases holding.symm.trans isHeld
    cases isFull
    rfl
  have late :
      Run (ReaderWorld.TimelyStep smallStore) readerShown
        [.loseMap 1, .project 2 laterSnapshot, .put 2 802]
        readerRestored :=
    .cons ⟨.loseMap present, trivial⟩
      (.cons ⟨.project rfl reads, trivial⟩ (.single puts))
  have shows : (readerShown.maps 1).ShowsVersion 1 1 := .read rfl rfl
  obtain ⟨_, versions⟩ :=
    readers_never_go_back readerStart_initial
      (run_readerHolding.append run_readerShown) late 1
  exact ⟨shows, fun after showsAfter => versions 1 after shows showsAfter⟩

end FlashTicketing
