import FlashTicketing.SeatProjection

namespace FlashTicketing

open Relational

/-!
# Maps mirror the rows of their event

Whatever is read, delayed, repeated or interrupted: an entry of a map never runs
ahead of its row, it equals the row when the versions are equal, and the version
of a readable map is the sum of the source versions of its entries.
-/

variable {Hash : Type}

/-! ## Reads -/

/-- The state was read from the row or from an older version of it. -/
def SeatState.ReadOf
    (state : SeatState)
    (db : Database Hash)
    (eventId : Uuid) : Prop :=
  ∃ row,
    db.eventSeats.find? (eventId, state.seatId) = some row ∧
      state.sourceVersion ≤ row.version ∧
      (state.sourceVersion = row.version → state = seatState row)

/-- A read never becomes newer than its row. -/
theorem SeatState.ReadOf.advance
    {state : SeatState}
    {eventId : Uuid}
    {db after : Database Hash}
    (readOf : state.ReadOf db eventId)
    (advance : RowsAdvance db after) :
    state.ReadOf after eventId := by
  obtain ⟨row, found, older, same⟩ := readOf
  obtain ⟨next, nextFound, rfl | later⟩ := advance.kept found
  · exact ⟨next, nextFound, older, same⟩
  · refine ⟨next, nextFound, older.trans (Nat.le_of_lt later), ?_⟩
    intro equal
    omega

/-- The rows of a read, each seat once, and all seats if it is a snapshot. -/
structure Projection.Sound
    (projection : Projection)
    (db : Database Hash) : Prop where
  rows :
    ∀ state ∈ projection.rows, state.ReadOf db projection.eventId
  nodup : (projection.rows.map SeatState.seatId).Nodup
  whole :
    ∀ {eventId sale rows},
      projection = .full eventId sale rows →
      ∀ {seatId},
        db.eventSeats.find? (eventId, seatId) ≠ none →
        seatId ∈ rows.map SeatState.seatId

theorem readOf_seatState
    {db : Database Hash}
    {eventId : Uuid}
    {seatId : SeatId}
    {row : EventSeat}
    (found : db.eventSeats.find? (eventId, seatId) = some row)
    (isSeat : (seatState row).seatId = seatId) :
    (seatState row).ReadOf db eventId := by
  refine ⟨row, ?_, Nat.le_refl _, fun _ => rfl⟩
  rw [isSeat]
  exact found

theorem Projection.ReadFrom.sound
    {projection : Projection}
    {db : Database Hash}
    (read : projection.ReadFrom db) :
    projection.Sound db := by
  cases read with
  | @full eventId sale found =>
      refine ⟨?_, snapshotRows_nodup db eventId, ?_⟩
      · intro state member
        obtain ⟨row, foundRow, rfl⟩ := mem_snapshotRows.mp member
        exact readOf_seatState foundRow rfl
      · intro other otherSale rows isFull seatId present
        cases isFull
        exact mem_seatIds_snapshotRows.mpr present
  | @patch eventId seatIds =>
      refine ⟨?_, changedRows_nodup db eventId seatIds, nofun⟩
      intro state member
      obtain ⟨⟨row, foundRow, rfl⟩, _⟩ := mem_changedRows.mp member
      exact readOf_seatState foundRow rfl

/-- The versions of a snapshot are those of the rows. -/
theorem sum_snapshotRows
    (db : Database Hash)
    (eventId : Uuid) :
    ((snapshotRows db eventId).map SeatState.sourceVersion).sum =
      ((db.eventSeats.select fun row =>
        decide (row.eventId = eventId)).map EventSeat.version).sum := by
  rw [snapshotRows, List.map_map]
  exact ((orderBySeat_perm _).map EventSeat.version).sum_eq

theorem Projection.Sound.advance
    {projection : Projection}
    {db after : Database Hash}
    (sound : projection.Sound db)
    (advance : RowsAdvance db after) :
    projection.Sound after := by
  refine ⟨?_, sound.nodup, ?_⟩
  · intro state member
    exact (sound.rows state member).advance advance
  · intro eventId sale rows isFull seatId present
    exact sound.whole isFull (advance.present_iff.mp present)

/-- The seats of a read exist. -/
theorem Projection.Sound.present
    {projection : Projection}
    {db : Database Hash}
    {seatId : SeatId}
    (sound : projection.Sound db)
    (listed : seatId ∈ projection.rows.map SeatState.seatId) :
    db.eventSeats.find? (projection.eventId, seatId) ≠ none := by
  obtain ⟨state, member, rfl⟩ := List.mem_map.mp listed
  obtain ⟨row, found, _⟩ := sound.rows state member
  rw [found]
  exact nofun

/-! ## Entries -/

namespace SeatMap

/-- A complete `PUT` of a read, or one that stopped among its commands. -/
inductive PutBy
    (projection : Projection)
    (map after : SeatMap) : Prop where
  | complete
      (incarnation : Uuid)
      (isAfter :
        after = map.afterPut (projection.mode incarnation) projection.rows)
  | interrupted
      (mode : PutMode)
      (entries : List SeatEntry)
      (updating : after.updating = true)
      (written : entries <+: map.writtenEntries mode projection.rows)
      (seats : after.seats = map.seats.upsertAll entries)

/-- The entries after a `PUT` are old ones and rows of the read. -/
theorem PutBy.find?_cases
    {projection : Projection}
    {map after : SeatMap}
    (put : PutBy projection map after)
    (seatId : SeatId) :
    after.seats.find? seatId = map.seats.find? seatId ∨
    (∃ state ∈ projection.rows,
      ∃ version,
        state.seatId = seatId ∧
          map.isNewer state = true ∧
          after.seats.find? seatId = some (state.entry version)) ∨
    ∃ old version,
      map.seats.find? seatId = some old ∧
        after.seats.find? seatId = some { old with version := version } := by
  have cases :
      ∀ mode entries,
        entries <+: map.writtenEntries mode projection.rows →
        after.seats = map.seats.upsertAll entries →
        after.seats.find? seatId = map.seats.find? seatId ∨
        (∃ state ∈ projection.rows,
          ∃ version,
            state.seatId = seatId ∧
              map.isNewer state = true ∧
              after.seats.find? seatId = some (state.entry version)) ∨
        ∃ old version,
          map.seats.find? seatId = some old ∧
            after.seats.find? seatId =
              some { old with version := version } := by
    intro mode entries written seats
    rw [seats]
    rcases find?_written_cases written seatId with
      same | ⟨state, member, isSeat, newer, found⟩ |
      ⟨_, old, oldFound, found⟩
    · exact Or.inl same
    · exact Or.inr (Or.inl ⟨state, member, _, isSeat, newer, found⟩)
    · exact Or.inr (Or.inr ⟨old, _, oldFound, found⟩)
  cases put with
  | complete incarnation isAfter =>
      rcases map.seats_afterPut (projection.mode incarnation)
          projection.rows with same | written
      · rw [isAfter, same]
        exact Or.inl rfl
      · exact cases _ _ (List.prefix_refl _) (by rw [isAfter, written])
  | interrupted mode entries _ written seats =>
      exact cases mode entries written seats

/-- Source versions in the map only grow. -/
theorem PutBy.sourceVersion_le
    {projection : Projection}
    {map after : SeatMap}
    (put : PutBy projection map after)
    (seatId : SeatId) :
    map.sourceVersion seatId ≤ after.sourceVersion seatId := by
  unfold sourceVersion
  rcases put.find?_cases seatId with
    same | ⟨state, _, version, rfl, newer, found⟩ |
    ⟨old, version, oldFound, found⟩
  · rw [same]
  · rw [found]
    cases oldFound : map.seats.find? state.seatId with
    | none => exact Nat.zero_le _
    | some old => exact Nat.le_of_lt (isNewer_iff.mp newer old oldFound)
  · rw [found, oldFound]
    exact Nat.le_refl _

/-! ## Source versions after a complete `PUT` -/

theorem seats_afterPut_full
    (map : SeatMap)
    (published : Publication)
    (rows : List SeatState) :
    (map.afterPut (.full published) rows).seats =
      map.seats.upsertAll (map.writtenEntries (.full published) rows) := by
  rw [afterPut_full]

theorem seats_afterPut_patch
    {map : SeatMap}
    {rows : List SeatState}
    (present : map.version ≠ none)
    (readable : map.updating = false) :
    (map.afterPut .patch rows).seats =
      map.seats.upsertAll (map.writtenEntries .patch rows) := by
  rw [afterPut_patch present readable]

theorem sourceVersion_written
    {map after : SeatMap}
    {mode : PutMode}
    {rows : List SeatState}
    {state : SeatState}
    (seats : after.seats = map.seats.upsertAll (map.writtenEntries mode rows))
    (nodup : (rows.map SeatState.seatId).Nodup)
    (member : state ∈ rows) :
    after.sourceVersion state.seatId =
      max (map.sourceVersion state.seatId) state.sourceVersion := by
  have isVersion :
      after.sourceVersion state.seatId =
        ((after.seats.find? state.seatId).map
          SeatEntry.sourceVersion).getD 0 :=
    rfl
  rw [isVersion, seats, find?_written nodup member]
  split
  · exact sourceVersion_selected map _ state
  · rename_i unchanged
    rw [not_or] at unchanged
    rcases map.selected_cases (map.putVersion mode rows) state with
      ⟨newer, _⟩ | ⟨_, old, oldFound, notLater, _⟩
    · exact absurd newer unchanged.1
    · unfold sourceVersion
      rw [oldFound]
      simp only [Option.map_some, Option.getD_some]
      omega

theorem sourceVersion_unwritten
    {map after : SeatMap}
    {mode : PutMode}
    {rows : List SeatState}
    {seatId : SeatId}
    (seats : after.seats = map.seats.upsertAll (map.writtenEntries mode rows))
    (other : seatId ∉ rows.map SeatState.seatId) :
    after.sourceVersion seatId = map.sourceVersion seatId := by
  unfold sourceVersion
  rw [seats, Table.find?_upsertAll_of_forall_ne]
  intro entry listed sameSeat
  obtain ⟨state, member, _, rfl⟩ := mem_writtenEntries.mp listed
  refine other (List.mem_map.mpr ⟨state, member, ?_⟩)
  exact (map.seatId_selected _ state).symm.trans sameSeat.symm

/-- An accepted `PUT` leaves no seat of its rows behind. -/
theorem sourceVersion_le_perform
    {map : SeatMap}
    {mode : PutMode}
    {rows : List SeatState}
    {writes : List HashWrite}
    {state : SeatState}
    (accepted : map.put mode rows = some writes)
    (nodup : (rows.map SeatState.seatId).Nodup)
    (member : state ∈ rows) :
    state.sourceVersion ≤
      (map.perform writes).sourceVersion state.seatId := by
  have isAfter : map.afterPut mode rows = map.perform writes := by
    rw [afterPut, accepted]
  have seats :
      (map.perform writes).seats =
        map.seats.upsertAll (map.writtenEntries mode rows) := by
    rw [← isAfter]
    cases mode with
    | full published => exact map.seats_afterPut_full published rows
    | patch =>
        obtain ⟨present, readable⟩ := (put_eq_some accepted).2 rfl
        exact seats_afterPut_patch present readable
  rw [sourceVersion_written seats nodup member]
  exact Nat.le_max_right _ _

/-- Two enumerations of the same seats have the same sum. -/
theorem sum_of_same_seats
    {first second : List SeatId}
    (value : SeatId → Nat)
    (firstNodup : first.Nodup)
    (secondNodup : second.Nodup)
    (same : ∀ seatId, seatId ∈ first ↔ seatId ∈ second) :
    (first.map value).sum = (second.map value).sum :=
  (((List.perm_ext_iff_of_nodup firstNodup secondNodup).mpr same).map
    value).sum_eq

/-- The seats outside a part do not count if their value is zero. -/
theorem sum_of_part
    {part whole : List SeatId}
    (value : SeatId → Nat)
    (partNodup : part.Nodup)
    (wholeNodup : whole.Nodup)
    (included : part ⊆ whole)
    (zero : ∀ seatId ∈ whole, seatId ∉ part → value seatId = 0) :
    (part.map value).sum = (whole.map value).sum := by
  rw [← List.sum_toFinset value partNodup,
    ← List.sum_toFinset value wholeNodup]
  refine Finset.sum_subset ?_ ?_
  · intro seatId
    simpa using @included seatId
  · intro seatId
    simpa using zero seatId

/-- A complete full `PUT` counts every seat of its rows. -/
theorem sum_afterPut_full
    {map : SeatMap}
    {published : Publication}
    {rows : List SeatState}
    {seatIds : List SeatId}
    (nodup : (rows.map SeatState.seatId).Nodup)
    (seatsNodup : seatIds.Nodup)
    (same :
      ∀ seatId, seatId ∈ seatIds ↔ seatId ∈ rows.map SeatState.seatId) :
    map.putVersion (.full published) rows =
      (seatIds.map
        (map.afterPut (.full published) rows).sourceVersion).sum := by
  have seats := map.seats_afterPut_full published rows
  rw [sum_of_same_seats _ seatsNodup nodup same, putVersion_full,
    List.map_map]
  refine congrArg List.sum (List.map_congr_left ?_)
  intro state member
  exact (sourceVersion_written seats nodup member).symm

/-- A complete patch adds what the seats of its rows gain. -/
theorem sum_afterPut_patch
    {map : SeatMap}
    {rows : List SeatState}
    {seatIds : List SeatId}
    {version : Nat}
    (versioned : map.version = some version)
    (seats :
      (map.afterPut .patch rows).seats =
        map.seats.upsertAll (map.writtenEntries .patch rows))
    (nodup : (rows.map SeatState.seatId).Nodup)
    (seatsNodup : seatIds.Nodup)
    (included : rows.map SeatState.seatId ⊆ seatIds)
    (counted : version = (seatIds.map map.sourceVersion).sum) :
    map.putVersion .patch rows =
      (seatIds.map (map.afterPut .patch rows).sourceVersion).sum := by
  let gain : SeatId → Nat := fun seatId =>
    (map.afterPut .patch rows).sourceVersion seatId -
      map.sourceVersion seatId
  have gained :
      (rows.map fun state =>
          max (map.sourceVersion state.seatId) state.sourceVersion -
            map.sourceVersion state.seatId).sum =
        ((rows.map SeatState.seatId).map gain).sum := by
    rw [List.map_map]
    refine congrArg List.sum (List.map_congr_left ?_)
    intro state member
    simp only [Function.comp, gain]
    rw [sourceVersion_written seats nodup member]
  have spread :
      ((rows.map SeatState.seatId).map gain).sum =
        (seatIds.map gain).sum := by
    refine sum_of_part gain nodup seatsNodup included ?_
    intro seatId _ other
    simp only [gain]
    rw [sourceVersion_unwritten seats other]
    exact Nat.sub_self _
  have grows :
      ∀ seatId,
        map.sourceVersion seatId + gain seatId =
          (map.afterPut .patch rows).sourceVersion seatId := by
    intro seatId
    have growing :
        map.sourceVersion seatId ≤
          (map.afterPut .patch rows).sourceVersion seatId := by
      by_cases listed : seatId ∈ rows.map SeatState.seatId
      · obtain ⟨state, member, rfl⟩ := List.mem_map.mp listed
        rw [sourceVersion_written seats nodup member]
        exact Nat.le_max_left _ _
      · rw [sourceVersion_unwritten seats listed]
    simp only [gain]
    omega
  calc map.putVersion .patch rows
      = version + (seatIds.map gain).sum := by
        rw [putVersion_patch, versioned, gained, spread]
        rfl
    _ = (seatIds.map fun seatId =>
          map.sourceVersion seatId + gain seatId).sum := by
        rw [counted, List.sum_map_add]
    _ = (seatIds.map (map.afterPut .patch rows).sourceVersion).sum := by
        refine congrArg List.sum (List.map_congr_left ?_)
        intro seatId _
        exact grows seatId

/-! ## The invariant of a map -/

/-- The entries come from reads, and a readable map counts all seats. -/
structure Mirrors
    (map : SeatMap)
    (db : Database Hash)
    (eventId : Uuid) : Prop where
  entries :
    ∀ {seatId entry},
      map.seats.find? seatId = some entry →
      ∃ state : SeatState,
        state.ReadOf db eventId ∧ entry = state.entry entry.version
  present :
    map.version ≠ none →
    map.updating = false →
    ∀ {seatId},
      db.eventSeats.find? (eventId, seatId) ≠ none →
      map.seats.find? seatId ≠ none
  counted :
    ∀ {version},
      map.version = some version →
      map.updating = false →
      ∀ {seatIds : List SeatId},
        seatIds.Nodup →
        (∀ seatId,
          seatId ∈ seatIds ↔
            db.eventSeats.find? (eventId, seatId) ≠ none) →
        version = (seatIds.map map.sourceVersion).sum

/-- A missing map mirrors everything. -/
theorem mirrors_missing
    (db : Database Hash)
    (eventId : Uuid) :
    ({} : SeatMap).Mirrors db eventId :=
  ⟨nofun, fun present => absurd rfl present, nofun⟩

theorem Mirrors.advance
    {map : SeatMap}
    {eventId : Uuid}
    {db after : Database Hash}
    (mirrors : map.Mirrors db eventId)
    (advance : RowsAdvance db after) :
    map.Mirrors after eventId := by
  refine ⟨?_, ?_, ?_⟩
  · intro seatId entry found
    obtain ⟨state, readOf, isEntry⟩ := mirrors.entries found
    exact ⟨state, readOf.advance advance, isEntry⟩
  · intro versioned readable seatId present
    exact mirrors.present versioned readable
      (advance.present_iff.mp present)
  · intro version versioned readable seatIds nodup same
    refine mirrors.counted versioned readable nodup fun seatId => ?_
    rw [same]
    exact advance.present_iff

/-- The entries after a `PUT` come from reads. -/
theorem Mirrors.entries_put
    {map after : SeatMap}
    {db : Database Hash}
    {projection : Projection}
    {seatId : SeatId}
    {entry : SeatEntry}
    (mirrors : map.Mirrors db projection.eventId)
    (sound : projection.Sound db)
    (put : PutBy projection map after)
    (found : after.seats.find? seatId = some entry) :
    ∃ state : SeatState,
      state.ReadOf db projection.eventId ∧
        entry = state.entry entry.version := by
  rcases put.find?_cases seatId with
    same | ⟨state, member, version, rfl, _, isState⟩ |
    ⟨old, version, oldFound, isOld⟩
  · rw [same] at found
    exact mirrors.entries found
  · rw [isState] at found
    cases found
    exact ⟨state, sound.rows state member, rfl⟩
  · rw [isOld] at found
    cases found
    obtain ⟨state, readOf, isEntry⟩ := mirrors.entries oldFound
    refine ⟨state, readOf, ?_⟩
    rw [isEntry]
    rfl

/-- Entries of seats do not disappear, and those of the read are there. -/
theorem find?_afterPut_ne_none
    {map after : SeatMap}
    {mode : PutMode}
    {rows : List SeatState}
    {seatId : SeatId}
    (seats : after.seats = map.seats.upsertAll (map.writtenEntries mode rows))
    (nodup : (rows.map SeatState.seatId).Nodup)
    (listed :
      map.seats.find? seatId ≠ none ∨
        seatId ∈ rows.map SeatState.seatId) :
    after.seats.find? seatId ≠ none := by
  rw [seats]
  rcases listed with old | isRow
  · exact Table.find?_upsertAll_ne_none old
  · obtain ⟨state, member, rfl⟩ := List.mem_map.mp isRow
    rw [find?_written nodup member]
    split
    · exact nofun
    · rename_i unchanged
      intro absent
      refine unchanged (Or.inl (isNewer_iff.mpr ?_))
      intro old found
      rw [absent] at found
      cases found

theorem Mirrors.afterPut_full
    {map : SeatMap}
    {db : Database Hash}
    {eventId : Uuid}
    {sale : Event}
    {rows : List SeatState}
    (mirrors : map.Mirrors db eventId)
    (sound : (Projection.full eventId sale rows).Sound db)
    (incarnation : Uuid) :
    (map.afterPut (.full (publication sale rows incarnation))
      rows).Mirrors db eventId := by
  have seats :=
    map.seats_afterPut_full (publication sale rows incarnation) rows
  refine ⟨?_, ?_, ?_⟩
  · intro seatId entry found
    exact mirrors.entries_put sound (.complete incarnation rfl) found
  · intro _ _ seatId present
    exact find?_afterPut_ne_none seats sound.nodup
      (Or.inr (sound.whole rfl present))
  · intro version versioned _ seatIds nodup same
    rw [SeatMap.afterPut_full] at versioned
    cases versioned
    refine sum_afterPut_full sound.nodup nodup fun seatId => ?_
    rw [same]
    exact ⟨sound.whole rfl, sound.present⟩

theorem Mirrors.afterPut_patch
    {map : SeatMap}
    {db : Database Hash}
    {eventId : Uuid}
    {rows : List SeatState}
    (mirrors : map.Mirrors db eventId)
    (sound : (Projection.patch eventId rows).Sound db) :
    (map.afterPut .patch rows).Mirrors db eventId := by
  cases accepted : map.put .patch rows with
  | none =>
      rw [afterPut_refused accepted]
      exact mirrors
  | some writes =>
      obtain ⟨versionedBefore, readableBefore⟩ :=
        (put_eq_some accepted).2 rfl
      have seats :
          (map.afterPut .patch rows).seats =
            map.seats.upsertAll (map.writtenEntries .patch rows) :=
        seats_afterPut_patch versionedBefore readableBefore
      refine ⟨?_, ?_, ?_⟩
      · intro seatId entry found
        exact mirrors.entries_put sound (.complete 0 rfl) found
      · intro _ _ seatId present
        exact find?_afterPut_ne_none seats sound.nodup
          (Or.inl
            (mirrors.present versionedBefore readableBefore present))
      · intro version versioned _ seatIds nodup same
        rw [SeatMap.afterPut_patch versionedBefore readableBefore] at versioned
        cases versioned
        obtain ⟨old, isOld⟩ := Option.ne_none_iff_exists'.mp versionedBefore
        refine sum_afterPut_patch isOld seats sound.nodup nodup ?_
          (mirrors.counted isOld readableBefore nodup same)
        intro seatId listed
        exact (same seatId).mpr (sound.present listed)

theorem Mirrors.put
    {map after : SeatMap}
    {db : Database Hash}
    {projection : Projection}
    (mirrors : map.Mirrors db projection.eventId)
    (sound : projection.Sound db)
    (put : PutBy projection map after) :
    after.Mirrors db projection.eventId := by
  cases put with
  | complete incarnation isAfter =>
      rw [isAfter]
      cases projection with
      | full => exact mirrors.afterPut_full sound incarnation
      | patch => exact mirrors.afterPut_patch sound
  | interrupted mode entries updating written seats =>
      refine ⟨?_, ?_, ?_⟩
      · intro seatId entry found
        exact mirrors.entries_put sound
          (.interrupted mode entries updating written seats) found
      · intro _ readable
        rw [updating] at readable
        cases readable
      · intro version _ readable
        rw [updating] at readable
        cases readable

end SeatMap

end FlashTicketing
