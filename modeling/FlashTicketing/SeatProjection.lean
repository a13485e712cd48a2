import FlashTicketing.PostgresRun
import FlashTicketing.SeatMap

namespace FlashTicketing

open Relational

/-!
# Projecting seats into the map

The reads of `snapshot` and `changed_snapshot`, and what a complete or an
interrupted `PUT` of such a read does to the seat entries.  Source versions
fence the writes: an entry only gives way to a newer row.
-/

variable {Hash : Type}

/-! ## Reads -/

/-- The seats that `snapshot` reads. -/
def snapshotRows (db : Database Hash) (eventId : Uuid) : List SeatState :=
  (orderBySeat (db.eventSeats.select fun seat =>
    decide (seat.eventId = eventId))).map seatState

/-- The seats that `changed_snapshot` reads. -/
def changedRows
    (db : Database Hash)
    (eventId : Uuid)
    (seatIds : List SeatId) : List SeatState :=
  (seatRows db eventId seatIds).map seatState

/-- What `snapshot` hands to `put` besides the seats. -/
def publication
    (sale : Event)
    (rows : List SeatState)
    (incarnation : Uuid) : Publication where
  layout := {
    eventId := sale.id
    seats :=
      (rows.insertionSort fun first second =>
        first.seatId ≤ second.seatId).map fun seat =>
          (seat.seatId, seat.price) }
  incarnation := incarnation
  sale := some {
    startsEpoch := sale.saleStarts
    endsEpoch := sale.saleEnds
    currency := sale.currency }

/-- What a projector has read and not yet put. -/
inductive Projection where
  | full (eventId : Uuid) (sale : Event) (rows : List SeatState)
  | patch (eventId : Uuid) (rows : List SeatState)

/-- What a projector reads in one transaction. -/
inductive Projection.ReadFrom (db : Database Hash) : Projection → Prop where
  | full
      {eventId : Uuid}
      {sale : Event}
      (found : db.events.find? eventId = some sale) :
      ReadFrom db (.full eventId sale (snapshotRows db eventId))
  | patch
      {eventId : Uuid}
      {seatIds : List SeatId} :
      ReadFrom db (.patch eventId (changedRows db eventId seatIds))

/-- The mode, event and rows of the `PUT` of a read. -/
def Projection.eventId : Projection → Uuid
  | .full eventId _ _ => eventId
  | .patch eventId _ => eventId

def Projection.rows : Projection → List SeatState
  | .full _ _ rows => rows
  | .patch _ rows => rows

def Projection.mode (incarnation : Uuid) : Projection → PutMode
  | .full _ sale rows => .full (publication sale rows incarnation)
  | .patch _ _ => .patch

theorem mem_snapshotRows
    {db : Database Hash}
    {eventId : Uuid}
    {seat : SeatState} :
    seat ∈ snapshotRows db eventId ↔
      ∃ row,
        db.eventSeats.find? (eventId, seat.seatId) = some row ∧
          seatState row = seat := by
  simp only [snapshotRows, List.mem_map, mem_orderBySeat,
    Table.mem_select, decide_eq_true_eq]
  constructor
  · rintro ⟨row, ⟨member, rfl⟩, rfl⟩
    exact ⟨row, Table.find?_key member, rfl⟩
  · rintro ⟨row, found, rfl⟩
    have place : row.place = (eventId, row.seatId) :=
      Table.key_of_find? found
    exact ⟨row, ⟨Table.mem_of_find? found, congrArg Prod.fst place⟩, rfl⟩

theorem mem_changedRows
    {db : Database Hash}
    {eventId : Uuid}
    {seatIds : List SeatId}
    {seat : SeatState} :
    seat ∈ changedRows db eventId seatIds ↔
      (∃ row,
        db.eventSeats.find? (eventId, seat.seatId) = some row ∧
          seatState row = seat) ∧
      seat.seatId ∈ seatIds := by
  simp only [changedRows, List.mem_map, mem_seatRows]
  constructor
  · rintro ⟨row, ⟨found, rfl, named⟩, rfl⟩
    exact ⟨⟨row, found, rfl⟩, named⟩
  · rintro ⟨⟨row, found, rfl⟩, named⟩
    have place : row.place = (eventId, row.seatId) :=
      Table.key_of_find? found
    refine ⟨row, ⟨?_, congrArg Prod.fst place, named⟩, rfl⟩
    rw [place]
    exact found

/-- Rows of one event have distinct seats. -/
theorem seatIds_nodup_of_event
    {db : Database Hash}
    {eventId : Uuid}
    {condition : EventSeat → Bool}
    (sameEvent : ∀ seat, condition seat = true → seat.eventId = eventId) :
    (((orderBySeat (db.eventSeats.select condition)).map seatState).map
      SeatState.seatId).Nodup := by
  have places :
      ((orderBySeat (db.eventSeats.select condition)).map
        EventSeat.place).Nodup :=
    ((orderBySeat_perm _).map EventSeat.place).nodup_iff.mpr
      (Table.select_keysNodup _ _)
  rw [List.map_map]
  refine (List.nodup_map_iff_inj_on places.of_map).mpr ?_
  intro first firstMember second secondMember sameSeat
  rw [mem_orderBySeat, Table.mem_select] at firstMember secondMember
  refine List.inj_on_of_nodup_map places (mem_orderBySeat.mpr
    (Table.mem_select.mpr firstMember)) (mem_orderBySeat.mpr
    (Table.mem_select.mpr secondMember)) ?_
  refine Prod.ext ?_ sameSeat
  exact (sameEvent first firstMember.2).trans
    (sameEvent second secondMember.2).symm

theorem snapshotRows_nodup
    (db : Database Hash)
    (eventId : Uuid) :
    ((snapshotRows db eventId).map SeatState.seatId).Nodup :=
  seatIds_nodup_of_event fun _ sameEvent => of_decide_eq_true sameEvent

theorem changedRows_nodup
    (db : Database Hash)
    (eventId : Uuid)
    (seatIds : List SeatId) :
    ((changedRows db eventId seatIds).map SeatState.seatId).Nodup :=
  seatIds_nodup_of_event fun _ requested => (requested_iff.mp requested).1

/-- A snapshot has every seat of its event. -/
theorem mem_seatIds_snapshotRows
    {db : Database Hash}
    {eventId : Uuid}
    {seatId : SeatId} :
    seatId ∈ (snapshotRows db eventId).map SeatState.seatId ↔
      db.eventSeats.find? (eventId, seatId) ≠ none := by
  rw [List.mem_map]
  constructor
  · rintro ⟨state, member, rfl⟩
    obtain ⟨row, found, _⟩ := mem_snapshotRows.mp member
    simp [found]
  · intro present
    obtain ⟨row, found⟩ := Option.ne_none_iff_exists'.mp present
    have place : row.place = (eventId, seatId) := Table.key_of_find? found
    have isSeat : row.seatId = seatId := congrArg Prod.snd place
    subst isSeat
    exact ⟨_, mem_snapshotRows.mpr ⟨row, found, rfl⟩, rfl⟩

/-! ## Rows change with their version -/

/-- No seat row disappears or appears, and a changed row has a new version. -/
structure RowsAdvance (db after : Database Hash) : Prop where
  kept :
    ∀ {place row},
      db.eventSeats.find? place = some row →
      ∃ next,
        after.eventSeats.find? place = some next ∧
          (next = row ∨ row.version < next.version)
  absent :
    ∀ {place},
      db.eventSeats.find? place = none →
      after.eventSeats.find? place = none

namespace RowsAdvance

theorem refl (db : Database Hash) : RowsAdvance db db :=
  ⟨fun found => ⟨_, found, Or.inl rfl⟩, fun absent => absent⟩

theorem trans
    {first second third : Database Hash}
    (early : RowsAdvance first second)
    (late : RowsAdvance second third) :
    RowsAdvance first third := by
  refine ⟨?_, fun absent => late.absent (early.absent absent)⟩
  intro place row found
  obtain ⟨next, nextFound, nextIs⟩ := early.kept found
  obtain ⟨last, lastFound, lastIs⟩ := late.kept nextFound
  refine ⟨last, lastFound, ?_⟩
  rcases nextIs with rfl | nextLater
  · exact lastIs
  · rcases lastIs with rfl | lastLater
    · exact Or.inr nextLater
    · exact Or.inr (nextLater.trans lastLater)

/-- An update that keeps a row or raises its version. -/
theorem of_map
    {db after : Database Hash}
    {reseat : EventSeat → EventSeat}
    (seats :
      ∀ place,
        after.eventSeats.find? place =
          (db.eventSeats.find? place).map reseat)
    (raises :
      ∀ seat, reseat seat = seat ∨ seat.version < (reseat seat).version) :
    RowsAdvance db after := by
  constructor
  · intro place row found
    exact ⟨_, by rw [seats, found]; rfl, raises row⟩
  · intro place absent
    rw [seats, absent]
    rfl

theorem releasedSeat_version
    (order : Order)
    (seat : EventSeat) :
    order.releasedSeat seat = seat ∨
      seat.version < (order.releasedSeat seat).version := by
  unfold Order.releasedSeat
  split
  · exact Or.inr (Nat.lt_succ_self _)
  · exact Or.inl rfl

theorem of_change
    {now : Int}
    {db after : Database Hash}
    (change : Change now db after) :
    RowsAdvance db after := by
  cases change with
  | placed hold order rows seats _ placed =>
      refine of_map placed.seatsHeld ?_
      intro seat
      split
      · exact Or.inr (Nat.lt_succ_self _)
      · exact Or.inl rfl
  | booked _ order hold _ _ _ _ _ _ revised =>
      refine of_map revised.seats ?_
      intro seat
      split
      · exact Or.inr (Nat.lt_succ_self _)
      · exact Or.inl rfl
  | bookkeeping _ revised => exact of_map revised.seats fun _ => Or.inl rfl
  | paymentOpened _ _ _ _ _ _ _ revised =>
      exact of_map revised.seats fun _ => Or.inl rfl
  | noted _ _ _ _ _ _ _ revised =>
      exact of_map revised.seats fun _ => Or.inl rfl
  | fulfilled _ _ _ _ revised =>
      exact of_map revised.seats fun _ => Or.inl rfl
  | refundCompleted _ _ revised =>
      exact of_map revised.seats fun _ => Or.inl rfl
  | released order _ _ _ _ revised =>
      exact of_map revised.seats (releasedSeat_version order)
  | refunded _ order _ _ _ _ _ _ revised =>
      exact of_map revised.seats (releasedSeat_version order)
  | failed _ order _ _ _ _ _ revised =>
      exact of_map revised.seats (releasedSeat_version order)

/-- The seats of an event stay the same. -/
theorem present_iff
    {db after : Database Hash}
    (advance : RowsAdvance db after)
    {place : Place} :
    after.eventSeats.find? place ≠ none ↔
      db.eventSeats.find? place ≠ none := by
  cases found : db.eventSeats.find? place with
  | none => simp [advance.absent found]
  | some row =>
      obtain ⟨next, nextFound, _⟩ := advance.kept found
      simp [nextFound]

theorem of_changes
    {now : Int}
    {db after : Database Hash}
    (changes : Changes now db after) :
    RowsAdvance db after :=
  Changes.relates (fun _ => True) changes (fun _ _ => trivial) refl trans
    (fun _ => of_change) trivial

end RowsAdvance

/-! ## What a read shows -/

namespace SeatMap

theorem read_eq_some
    {map : SeatMap}
    {eventId : Uuid}
    {body : SeatMapBody}
    (read : map.read eventId = some body) :
    map.version = some body.version ∧
      map.updating = false ∧
      ∀ entry, entry ∈ body.seats ↔ entry ∈ map.seats := by
  unfold SeatMap.read at read
  split at read
  · rename_i version versioned readable
    cases read
    refine ⟨versioned, readable, ?_⟩
    intro entry
    exact List.mem_insertionSort _
  · cases read

/-- A `200` for availability shows the whole map under its tag. -/
theorem browse_eq_availability
    {map : SeatMap}
    {eventId : Uuid}
    {candidates : List Validator}
    {tag : ETag}
    {body : AvailabilityBody}
    (answered :
      map.browse eventId .availability candidates =
        .availability tag body) :
    ∃ incarnation version,
      map.incarnation = some incarnation ∧
        map.version = some version ∧
        map.updating = false ∧
        tag = .availability eventId incarnation version ∧
        body = map.availabilityBody eventId version := by
  unfold browse at answered
  split at answered
  · rename_i version incarnation _ _ versioned incarnated readable _
    dsimp only at answered
    split at answered
    · cases answered
    · cases answered
      exact ⟨incarnation, version, incarnated, versioned, readable, rfl, rfl⟩
  · cases answered

/-- A `304` names the tag under which the map would be shown. -/
theorem browse_eq_notModified
    {map : SeatMap}
    {eventId : Uuid}
    {candidates : List Validator}
    {tag : ETag}
    (answered :
      map.browse eventId .availability candidates = .notModified tag) :
    ∃ body,
      map.browse eventId .availability [] = .availability tag body := by
  unfold browse at answered ⊢
  split at answered
  · dsimp only at answered
    split at answered
    · cases answered
      simp
    · cases answered
  · cases answered

/-! ## What a `PUT` writes -/

theorem isNewer_iff
    {map : SeatMap}
    {seat : SeatState} :
    map.isNewer seat = true ↔
      ∀ old,
        map.seats.find? seat.seatId = some old →
        old.sourceVersion < seat.sourceVersion := by
  unfold isNewer
  split <;> simp_all

/-- The script writes the payload's seat if it is newer, else the old one. -/
theorem selected_cases
    (map : SeatMap)
    (version : Nat)
    (seat : SeatState) :
    (map.isNewer seat = true ∧
      map.selected version seat = seat.entry version) ∨
    (map.isNewer seat = false ∧
      ∃ old,
        map.seats.find? seat.seatId = some old ∧
          seat.sourceVersion ≤ old.sourceVersion ∧
          map.selected version seat = { old with version := version }) := by
  unfold isNewer selected
  cases found : map.seats.find? seat.seatId with
  | none => simp
  | some old =>
      by_cases newer : old.sourceVersion < seat.sourceVersion
      · simp [newer]
      · simp [newer, Nat.le_of_not_lt newer]

theorem seatId_selected
    (map : SeatMap)
    (version : Nat)
    (seat : SeatState) :
    (map.selected version seat).seatId = seat.seatId := by
  rcases map.selected_cases version seat with
    ⟨_, isSeat⟩ | ⟨_, old, found, _, isOld⟩
  · rw [isSeat]
    rfl
  · rw [isOld]
    exact Table.key_of_find? found

/-- The entries that a `PUT` writes, in order. -/
def writtenEntries
    (map : SeatMap)
    (mode : PutMode)
    (rows : List SeatState) : List SeatEntry :=
  (rows.filter fun seat => map.isNewer seat || map.updating).map
    (map.selected (map.putVersion mode rows))

theorem mem_writtenEntries
    {map : SeatMap}
    {mode : PutMode}
    {rows : List SeatState}
    {entry : SeatEntry} :
    entry ∈ map.writtenEntries mode rows ↔
      ∃ seat ∈ rows,
        (map.isNewer seat = true ∨ map.updating = true) ∧
          map.selected (map.putVersion mode rows) seat = entry := by
  simp only [writtenEntries, List.mem_map, List.mem_filter,
    Bool.or_eq_true, and_assoc]

/-- A `PUT` of rows that the map has writes no seat. -/
theorem writtenEntries_eq_nil
    {map : SeatMap}
    {mode : PutMode}
    {rows : List SeatState}
    (readable : map.updating = false)
    (current : ∀ seat ∈ rows, map.isNewer seat = false) :
    map.writtenEntries mode rows = [] := by
  rw [writtenEntries, List.filter_eq_nil_iff.mpr]
  · rfl
  · intro seat member
    simp [current seat member, readable]

theorem writtenEntries_nodup
    {map : SeatMap}
    {mode : PutMode}
    {rows : List SeatState}
    (nodup : (rows.map SeatState.seatId).Nodup) :
    ((map.writtenEntries mode rows).map Keyed.key).Nodup := by
  have sameSeats :
      (map.writtenEntries mode rows).map Keyed.key =
        (rows.filter fun seat => map.isNewer seat || map.updating).map
          SeatState.seatId := by
    rw [writtenEntries, List.map_map]
    refine List.map_congr_left ?_
    intro seat _
    exact map.seatId_selected _ seat
  rw [sameSeats]
  exact (List.filter_sublist.map SeatState.seatId).nodup nodup

theorem perform_setSeats
    (map : SeatMap)
    (entries : List SeatEntry) :
    map.perform (entries.map .setSeat) =
      { map with seats := map.seats.upsertAll entries } := by
  induction entries generalizing map with
  | nil =>
      rfl
  | cons entry rest inductionHypothesis =>
      exact inductionHypothesis _

theorem perform_append
    (map : SeatMap)
    (early late : List HashWrite) :
    map.perform (early ++ late) = (map.perform early).perform late :=
  List.foldl_append

/-- What the full mode writes besides the seats. -/
def putMetadata : PutMode → List HashWrite
  | .patch => []
  | .full published =>
      [.setLayout published.layout,
        .setIncarnation published.incarnation] ++
        (published.sale.map HashWrite.setSale).toList

/-- The commands between the two that mark the map as updating. -/
def putBody
    (map : SeatMap)
    (mode : PutMode)
    (rows : List SeatState) : List HashWrite :=
  (map.writtenEntries mode rows).map .setSeat ++
    .setVersion (map.putVersion mode rows) :: putMetadata mode

theorem put_eq_some
    {map : SeatMap}
    {mode : PutMode}
    {rows : List SeatState}
    {writes : List HashWrite}
    (accepted : map.put mode rows = some writes) :
    writes = .setUpdating :: (map.putBody mode rows ++ [.deleteUpdating]) ∧
      (mode = .patch → map.version ≠ none ∧ map.updating = false) := by
  unfold put at accepted
  split at accepted
  · cases accepted
  · rename_i accepts
    cases accepted
    constructor
    · cases mode with
      | patch =>
          simp [putBody, writtenEntries, putMetadata,
            Function.comp_def]
      | full published =>
          simp [putBody, writtenEntries, putMetadata,
            Function.comp_def]
    · intro isPatch
      simpa [isPatch] using accepts

/-- A patch needs a map with a version that is not being updated. -/
theorem put_isSome
    (map : SeatMap)
    (mode : PutMode)
    (rows : List SeatState)
    (accepts :
      mode = .patch → map.version ≠ none ∧ map.updating = false) :
    ∃ writes, map.put mode rows = some writes := by
  unfold put
  rw [if_neg]
  · exact ⟨_, rfl⟩
  · rintro ⟨isPatch, missing | updating⟩
    · exact (accepts isPatch).1 missing
    · rw [(accepts isPatch).2] at updating
      cases updating

/-- A refused patch changes nothing. -/
theorem afterPut_refused
    {map : SeatMap}
    {mode : PutMode}
    {rows : List SeatState}
    (refused : map.put mode rows = none) :
    map.afterPut mode rows = map := by
  rw [afterPut, refused]

/-- The hash after a complete `PUT` in the patch mode. -/
theorem afterPut_patch
    {map : SeatMap}
    {rows : List SeatState}
    (present : map.version ≠ none)
    (readable : map.updating = false) :
    map.afterPut .patch rows =
      { map with
        version := some (map.putVersion .patch rows)
        seats := map.seats.upsertAll (map.writtenEntries .patch rows) } := by
  obtain ⟨writes, accepted⟩ :=
    map.put_isSome .patch rows fun _ => ⟨present, readable⟩
  rw [afterPut, accepted, (put_eq_some accepted).1]
  change (map.write .setUpdating).perform (_ ++ _) = _
  rw [perform_append, putBody, perform_append, perform_setSeats]
  simp [perform, write, putMetadata, readable]

/-- The hash after a complete `PUT` in the full mode. -/
theorem afterPut_full
    (map : SeatMap)
    (published : Publication)
    (rows : List SeatState) :
    map.afterPut (.full published) rows =
      { version := some (map.putVersion (.full published) rows)
        updating := false
        incarnation := map.incarnation.or (some published.incarnation)
        layout := some (published.layout, ⟨published.layout⟩)
        sale := published.sale.or map.sale
        seats :=
          map.seats.upsertAll
            (map.writtenEntries (.full published) rows) } := by
  obtain ⟨writes, accepted⟩ :=
    map.put_isSome (.full published) rows nofun
  rw [afterPut, accepted, (put_eq_some accepted).1]
  change (map.write .setUpdating).perform (_ ++ _) = _
  rw [perform_append, putBody, perform_append, perform_setSeats]
  cases sale : published.sale <;>
    simp [perform, write, putMetadata, sale]

/-- The seats after a complete `PUT`, refused or not. -/
theorem seats_afterPut
    (map : SeatMap)
    (mode : PutMode)
    (rows : List SeatState) :
    (map.afterPut mode rows).seats = map.seats ∨
      (map.afterPut mode rows).seats =
        map.seats.upsertAll (map.writtenEntries mode rows) := by
  cases mode with
  | full published =>
      rw [afterPut_full]
      exact Or.inr rfl
  | patch =>
      cases accepted : map.put .patch rows with
      | none =>
          rw [afterPut_refused accepted]
          exact Or.inl rfl
      | some writes =>
          obtain ⟨present, readable⟩ := (put_eq_some accepted).2 rfl
          rw [afterPut_patch present readable]
          exact Or.inr rfl

/-- Commands that touch neither a seat nor the updating mark. -/
def isMetadata : HashWrite → Bool
  | .setVersion _ | .setLayout _ | .setIncarnation _ | .setSale _ => true
  | _ => false

theorem perform_metadata
    {map : SeatMap}
    {writes : List HashWrite}
    (metadata : ∀ write ∈ writes, isMetadata write = true) :
    (map.perform writes).seats = map.seats ∧
      (map.perform writes).updating = map.updating := by
  induction writes generalizing map with
  | nil =>
      exact ⟨rfl, rfl⟩
  | cons write rest inductionHypothesis =>
      have kept :
          (map.write write).seats = map.seats ∧
            (map.write write).updating = map.updating := by
        have isMeta := metadata write List.mem_cons_self
        cases write <;> simp_all [isMetadata, SeatMap.write]
      obtain ⟨sameSeats, sameMark⟩ :
          ((map.write write).perform rest).seats =
              (map.write write).seats ∧
            ((map.write write).perform rest).updating =
              (map.write write).updating :=
        inductionHypothesis fun other member =>
          metadata other (List.mem_cons_of_mem _ member)
      exact ⟨sameSeats.trans kept.1, sameMark.trans kept.2⟩

theorem putMetadata_isMetadata
    {mode : PutMode}
    {version : Nat}
    {write : HashWrite}
    (member : write ∈ HashWrite.setVersion version :: putMetadata mode) :
    isMetadata write = true := by
  cases mode with
  | patch => simp_all [putMetadata, isMetadata]
  | full published =>
      cases sale : published.sale <;>
        simp [putMetadata, sale] at member <;>
        rcases member with rfl | rfl | rfl | rfl <;> rfl

/--
A `PUT` that stops between two of its commands leaves the map marked as
updating, with a prefix of its entries written.
-/
theorem perform_stopped
    {map : SeatMap}
    {mode : PutMode}
    {rows : List SeatState}
    {writes : List HashWrite}
    {count : Nat}
    (accepted : map.put mode rows = some writes)
    (started : 0 < count)
    (stopped : count < writes.length) :
    (map.perform (writes.take count)).updating = true ∧
      ∃ kept,
        (map.perform (writes.take count)).seats =
          map.seats.upsertAll ((map.writtenEntries mode rows).take kept) := by
  obtain ⟨isPut, _⟩ := put_eq_some accepted
  obtain ⟨count, rfl⟩ := Nat.exists_eq_succ_of_ne_zero started.ne'
  have early :
      (map.putBody mode rows ++ [HashWrite.deleteUpdating]).take count =
        (map.putBody mode rows).take count := by
    rw [isPut] at stopped
    simp only [List.length_cons, List.length_append, List.length_nil]
      at stopped
    rw [List.take_append_of_le_length (by omega)]
  have performed :
      map.perform (writes.take (count + 1)) =
        ({ map.write .setUpdating with
          seats := map.seats.upsertAll
            ((map.writtenEntries mode rows).take count) } :
          SeatMap).perform
            ((HashWrite.setVersion (map.putVersion mode rows) ::
              putMetadata mode).take
                (count - (map.writtenEntries mode rows).length)) := by
    rw [isPut, List.take_succ_cons, early, putBody, List.take_append,
      List.length_map, ← List.map_take]
    change (map.write .setUpdating).perform (_ ++ _) = _
    rw [perform_append, perform_setSeats]
    rfl
  have metadata :
      ∀ write ∈
        (HashWrite.setVersion (map.putVersion mode rows) ::
          putMetadata mode).take
          (count - (map.writtenEntries mode rows).length),
        isMetadata write = true :=
    fun write member => putMetadata_isMetadata (List.mem_of_mem_take member)
  rw [performed]
  exact ⟨(perform_metadata metadata).2, count, (perform_metadata metadata).1⟩

/--
A `PUT` that stops after some of its commands did nothing, or did everything,
or left the map marked as updating with a prefix of its entries written.
-/
theorem perform_take
    {map : SeatMap}
    {mode : PutMode}
    {rows : List SeatState}
    {writes : List HashWrite}
    (accepted : map.put mode rows = some writes)
    (count : Nat) :
    map.perform (writes.take count) = map ∨
    map.perform (writes.take count) = map.afterPut mode rows ∨
    ((map.perform (writes.take count)).updating = true ∧
      ∃ entries,
        entries <+: map.writtenEntries mode rows ∧
          (map.perform (writes.take count)).seats =
            map.seats.upsertAll entries) := by
  rcases Nat.eq_zero_or_pos count with rfl | started
  · exact Or.inl rfl
  · by_cases stopped : count < writes.length
    · obtain ⟨updating, kept, seats⟩ :=
        perform_stopped accepted started stopped
      exact Or.inr (Or.inr
        ⟨updating, _, List.take_prefix kept _, seats⟩)
    · rw [List.take_of_length_le (Nat.le_of_not_lt stopped), afterPut,
        accepted]
      exact Or.inr (Or.inl rfl)

/-! ### Entries -/

/--
After some of the writes, an entry is as before, or it is a newer row of the
payload, or an old entry of a map that was marked as updating.
-/
theorem find?_written_cases
    {map : SeatMap}
    {mode : PutMode}
    {rows : List SeatState}
    {entries : List SeatEntry}
    (written : entries <+: map.writtenEntries mode rows)
    (seatId : SeatId) :
    (map.seats.upsertAll entries).find? seatId = map.seats.find? seatId ∨
    (∃ seat ∈ rows,
      seat.seatId = seatId ∧
        map.isNewer seat = true ∧
        (map.seats.upsertAll entries).find? seatId =
          some (seat.entry (map.putVersion mode rows))) ∨
    (map.updating = true ∧
      ∃ old,
        map.seats.find? seatId = some old ∧
          (map.seats.upsertAll entries).find? seatId =
            some { old with version := map.putVersion mode rows }) := by
  rcases map.seats.find?_upsertAll_cases entries seatId with
    kept | ⟨entry, member, isSeat, found⟩
  · exact Or.inl kept
  · obtain ⟨seat, seatMember, changed, rfl⟩ :=
      mem_writtenEntries.mp (written.subset member)
    have sameSeat : seat.seatId = seatId :=
      (map.seatId_selected _ seat).symm.trans isSeat
    subst sameSeat
    rcases map.selected_cases (map.putVersion mode rows) seat with
      ⟨newer, isNew⟩ | ⟨notNewer, old, oldFound, _, isOld⟩
    · exact Or.inr (Or.inl
        ⟨seat, seatMember, rfl, newer, by rw [found, isNew]⟩)
    · rw [notNewer] at changed
      refine Or.inr (Or.inr ⟨?_, old, oldFound, by rw [found, isOld]⟩)
      simpa using changed

/-- A complete `PUT` writes every payload seat that is newer than its entry. -/
theorem find?_written
    {map : SeatMap}
    {mode : PutMode}
    {rows : List SeatState}
    {seat : SeatState}
    (nodup : (rows.map SeatState.seatId).Nodup)
    (member : seat ∈ rows) :
    (map.seats.upsertAll (map.writtenEntries mode rows)).find?
        seat.seatId =
      if map.isNewer seat = true ∨ map.updating = true then
        some (map.selected (map.putVersion mode rows) seat)
      else
        map.seats.find? seat.seatId := by
  split
  · rename_i changed
    have written :
        map.selected (map.putVersion mode rows) seat ∈
          map.writtenEntries mode rows :=
      mem_writtenEntries.mpr ⟨seat, member, changed, rfl⟩
    have found :
        (map.seats.upsertAll (map.writtenEntries mode rows)).find?
            (map.selected (map.putVersion mode rows) seat).seatId =
          some (map.selected (map.putVersion mode rows) seat) :=
      Table.find?_upsertAll_of_mem (writtenEntries_nodup nodup) written
    exact (congrArg _ (map.seatId_selected _ seat)).symm.trans found
  · rename_i unchanged
    refine Table.find?_upsertAll_of_forall_ne ?_
    intro entry listed sameSeat
    obtain ⟨other, otherMember, changed, rfl⟩ :=
      mem_writtenEntries.mp listed
    have sameId : seat.seatId = other.seatId :=
      sameSeat.trans (map.seatId_selected _ other)
    have isOther : seat = other :=
      List.inj_on_of_nodup_map nodup member otherMember sameId
    exact unchanged (isOther ▸ changed)

/-! ### The aggregate version -/

theorem sourceVersion_selected
    (map : SeatMap)
    (version : Nat)
    (seat : SeatState) :
    (map.selected version seat).sourceVersion =
      max (map.sourceVersion seat.seatId) seat.sourceVersion := by
  unfold sourceVersion
  rcases map.selected_cases version seat with
    ⟨newer, isNew⟩ | ⟨_, old, found, notLater, isOld⟩
  · rw [isNew]
    cases found : map.seats.find? seat.seatId with
    | none => simp [SeatState.entry]
    | some old =>
        have older := isNewer_iff.mp newer old found
        simp only [Option.map_some, Option.getD_some, SeatState.entry]
        omega
  · rw [isOld, found]
    simp only [Option.map_some, Option.getD_some]
    omega

/-- The full mode counts every payload seat anew. -/
theorem putVersion_full
    (map : SeatMap)
    (published : Publication)
    (rows : List SeatState) :
    map.putVersion (.full published) rows =
      (rows.map fun seat =>
        max (map.sourceVersion seat.seatId) seat.sourceVersion).sum := by
  have counted :
      ∀ start,
        rows.foldl (map.countVersion true) start =
          start + (rows.map fun seat =>
            max (map.sourceVersion seat.seatId) seat.sourceVersion).sum := by
    induction rows with
    | nil => simp
    | cons seat rest inductionHypothesis =>
        intro start
        rw [List.foldl_cons, inductionHypothesis, List.map_cons,
          List.sum_cons, countVersion, if_pos rfl, sourceVersion_selected]
        omega
  simpa [putVersion, PutMode.isFull] using counted 0

/-- The patch mode adds what the newer seats gain. -/
theorem putVersion_patch
    (map : SeatMap)
    (rows : List SeatState) :
    map.putVersion .patch rows =
      map.version.getD 0 + (rows.map fun seat =>
        max (map.sourceVersion seat.seatId) seat.sourceVersion -
          map.sourceVersion seat.seatId).sum := by
  have step :
      ∀ start seat,
        map.countVersion false start seat =
          start +
            (max (map.sourceVersion seat.seatId) seat.sourceVersion -
              map.sourceVersion seat.seatId) := by
    intro start seat
    unfold countVersion isNewer sourceVersion
    cases found : map.seats.find? seat.seatId with
    | none => simp
    | some old =>
        simp only [Bool.false_eq_true, if_false, Option.map_some,
          Option.getD_some, decide_eq_true_eq]
        split <;> omega
  have counted :
      ∀ start,
        rows.foldl (map.countVersion false) start =
          start + (rows.map fun seat =>
            max (map.sourceVersion seat.seatId) seat.sourceVersion -
              map.sourceVersion seat.seatId).sum := by
    induction rows with
    | nil => simp
    | cons seat rest inductionHypothesis =>
        intro start
        rw [List.foldl_cons, inductionHypothesis, List.map_cons,
          List.sum_cons, step]
        omega
  simpa [putVersion, PutMode.isFull] using
    counted (map.version.getD 0)

end SeatMap

end FlashTicketing
