import FlashTicketing.Latest
import FlashTicketing.MapMirror

namespace FlashTicketing

open Relational Latest

/-!
# Merging payloads into a map

The full mode of `PUT` counts the version anew and the patch mode adds to it.
Whatever mixture of payloads a map has received, its entries are the latest
rows among them and its version is the sum of their source versions.
-/

/-! ## Payloads -/

/-- The arguments of one `PUT`. -/
structure Payload where
  mode : PutMode
  rows : List SeatState
  deriving Repr, DecidableEq

/-- A payload over a static inventory. -/
structure Payload.Lists
    (inventory : Finset SeatId)
    (payload : Payload) : Prop where
  distinct : (payload.rows.map SeatState.seatId).Nodup
  within : ∀ row ∈ payload.rows, row.seatId ∈ inventory
  whole :
    payload.mode ≠ .patch →
    ∀ seatId ∈ inventory, seatId ∈ payload.rows.map SeatState.seatId

/-- What a projector reads lists the seats of its event. -/
theorem Projection.ReadFrom.lists
    {Hash : Type}
    {db : Database Hash}
    {projection : Projection}
    {inventory : Finset SeatId}
    (readFrom : projection.ReadFrom db)
    (isInventory :
      ∀ seatId,
        seatId ∈ inventory ↔
          db.eventSeats.find? (projection.eventId, seatId) ≠ none)
    (incarnation : Uuid) :
    Payload.Lists inventory ⟨projection.mode incarnation, projection.rows⟩ := by
  cases readFrom with
  | @full eventId sale _ =>
      refine ⟨snapshotRows_nodup db eventId, ?_, ?_⟩
      · intro row member
        rw [isInventory]
        exact mem_seatIds_snapshotRows.mp (List.mem_map_of_mem member)
      · intro _ seatId listed
        exact mem_seatIds_snapshotRows.mpr ((isInventory seatId).mp listed)
  | @patch eventId seatIds =>
      refine ⟨changedRows_nodup db eventId seatIds, ?_,
        fun isFull => absurd rfl isFull⟩
      intro row member
      obtain ⟨⟨stored, found, _⟩, _⟩ := mem_changedRows.mp member
      rw [isInventory]
      exact ne_of_eq_of_ne found nofun

/-- The rows that some payloads deliver. -/
def delivered (payloads : List Payload) : Set SeatState :=
  { row | ∃ payload ∈ payloads, row ∈ payload.rows }

theorem delivered_append
    (payloads : List Payload)
    (payload : Payload) :
    delivered (payloads ++ [payload]) =
      delivered payloads ∪ { row | row ∈ payload.rows } := by
  ext row
  simp [delivered, or_and_right, exists_or]

namespace SeatMap

/-- A `PUT` of each payload, in order. -/
def putAll (map : SeatMap) (payloads : List Payload) : SeatMap :=
  payloads.foldl (fun map payload => map.afterPut payload.mode payload.rows)
    map

/-- The sum of the cached source versions. -/
def cachedVersions (map : SeatMap) : Nat :=
  (map.seats.rows.map SeatEntry.sourceVersion).sum

end SeatMap

/-! ## Entries and rows -/

namespace SeatEntry

/-- The row that an entry was written from; its text is exact. -/
def state (entry : SeatEntry) : SeatState where
  seatId := entry.seatId
  price := entry.price
  status := entry.status
  reservedUntil := entry.reservedUntil.map TimeText.time
  sourceVersion := entry.sourceVersion

/-- The row is back. -/
@[simp] theorem state_entry
    (seat : SeatState)
    (version : Nat) :
    (seat.entry version).state = seat := by
  simp [state, SeatState.entry, Function.comp_def, TimeText.time]

/-- An entry without the map version of its last write. -/
def unstamped (entry : SeatEntry) : SeatEntry :=
  { entry with version := 0 }

end SeatEntry

namespace SeatMap

/-- The rows that the entries of a map were written from. -/
def view (map : SeatMap) (seatId : SeatId) : Option SeatState :=
  (map.seats.find? seatId).map SeatEntry.state

/-- Every entry is as `PUT` writes it. -/
def Plain (map : SeatMap) : Prop :=
  ∀ seatId entry,
    map.seats.find? seatId = some entry →
    entry = entry.state.entry entry.version

variable
  {map after : SeatMap}
  {mode : PutMode}
  {rows : List SeatState}
  {entries : List SeatEntry}

theorem plain_missing : Plain {} := by
  intro seatId entry found
  cases found

/-- The view shows everything of a plain map but its stamps. -/
theorem Plain.unstamped
    (plain : map.Plain)
    (seatId : SeatId) :
    (map.seats.find? seatId).map SeatEntry.unstamped =
      (map.view seatId).map fun row => row.entry 0 := by
  unfold view
  cases found : map.seats.find? seatId with
  | none => rfl
  | some entry =>
      change some entry.unstamped = some (entry.state.entry 0)
      rw [plain seatId entry found, SeatEntry.state_entry]
      rfl

theorem Plain.written
    (plain : map.Plain)
    (written : entries <+: map.writtenEntries mode rows)
    (seats : after.seats = map.seats.upsertAll entries) :
    after.Plain := by
  intro seatId entry found
  rw [seats] at found
  rcases find?_written_cases written seatId with
    same | ⟨seat, _, _, _, isSeat⟩ | ⟨_, old, oldFound, isOld⟩
  · rw [same] at found
    exact plain seatId entry found
  · cases isSeat.symm.trans found
    rw [SeatEntry.state_entry]
    rfl
  · cases isOld.symm.trans found
    rw [plain seatId old oldFound]
    -- A new stamp leaves the row that the entry was written from.
    change old.state.entry (map.putVersion mode rows) =
      (old.state.entry (map.putVersion mode rows)).state.entry
        (map.putVersion mode rows)
    rw [SeatEntry.state_entry]

theorem sourceVersion_eq_view
    (map : SeatMap)
    (seatId : SeatId) :
    map.sourceVersion seatId =
      ((map.view seatId).map SeatState.sourceVersion).getD 0 := by
  rw [sourceVersion, view, Option.map_map]
  rfl

theorem view_ne_none
    {seatId : SeatId} :
    map.view seatId ≠ none ↔ map.seats.find? seatId ≠ none :=
  not_congr Option.map_eq_none_iff

/-- Rows arrive at what a map shows. -/
def mergeRows
    (view : SeatId → Option SeatState)
    (rows : List SeatState) : SeatId → Option SeatState :=
  merge SeatState.seatId SeatState.sourceVersion view rows

/-- The script selects the row that the view would show. -/
theorem state_selected
    (map : SeatMap)
    (version : Nat)
    (seat : SeatState) :
    (map.selected version seat).state =
      newer SeatState.sourceVersion (map.view seat.seatId) seat := by
  unfold selected view
  cases map.seats.find? seat.seatId with
  | none => exact SeatEntry.state_entry seat version
  | some old =>
      change SeatEntry.state (if old.sourceVersion < seat.sourceVersion then
          seat.entry version else { old with version := version }) =
        if old.sourceVersion < seat.sourceVersion then seat else old.state
      split
      · exact SeatEntry.state_entry seat version
      · rfl

/-- The selected rows are written with the others left alone. -/
theorem view_upsertAll
    {version : Nat}
    (distinct : (rows.map SeatState.seatId).Nodup)
    (seats :
      after.seats =
        map.seats.upsertAll (rows.map (map.selected version))) :
    after.view = mergeRows map.view rows := by
  have keys :
      (rows.map (map.selected version)).map Keyed.key =
        rows.map SeatState.seatId := by
    rw [List.map_map]
    apply List.map_congr_left
    intro seat _
    exact map.seatId_selected version seat
  funext seatId
  by_cases listed : seatId ∈ rows.map SeatState.seatId
  · obtain ⟨seat, member, rfl⟩ := List.mem_map.mp listed
    have found :
        after.seats.find? (map.selected version seat).seatId =
          some (map.selected version seat) := by
      rw [seats]
      exact Table.find?_upsertAll_of_mem (keys ▸ distinct)
        (List.mem_map_of_mem member)
    rw [map.seatId_selected] at found
    rw [mergeRows, merge_of_mem distinct member,
      ← map.state_selected version seat]
    unfold view
    rw [found]
    rfl
  · rw [mergeRows, merge_of_not_mem listed]
    unfold view
    rw [seats, Table.find?_upsertAll_of_forall_ne]
    intro entry written sameSeat
    apply listed
    rw [← keys, sameSeat]
    exact List.mem_map_of_mem written

theorem isNewer_eq_false
    {seat : SeatState}
    (current : map.isNewer seat = false) :
    ∃ old,
      map.seats.find? seat.seatId = some old ∧
        seat.sourceVersion ≤ old.sourceVersion := by
  rcases map.selected_cases 0 seat with
    ⟨isNewer, _⟩ | ⟨_, old, found, notLater, _⟩
  · rw [current] at isNewer
    cases isNewer
  · exact ⟨old, found, notLater⟩

/-- Rows that are not newer arrive without effect. -/
theorem mergeRows_filter
    {condition : SeatState → Bool}
    (distinct : (rows.map SeatState.seatId).Nodup)
    (dropped :
      ∀ seat ∈ rows, condition seat = false → map.isNewer seat = false) :
    mergeRows map.view (rows.filter condition) = mergeRows map.view rows := by
  have distinctPart :
      ((rows.filter condition).map SeatState.seatId).Nodup :=
    (List.filter_sublist.map SeatState.seatId).nodup distinct
  funext seatId
  unfold mergeRows
  by_cases listed : seatId ∈ rows.map SeatState.seatId
  · obtain ⟨seat, member, rfl⟩ := List.mem_map.mp listed
    rw [merge_of_mem distinct member]
    cases kept : condition seat with
    | true =>
        exact merge_of_mem distinctPart (List.mem_filter.mpr ⟨member, kept⟩)
    | false =>
        rw [merge_of_not_mem]
        · obtain ⟨old, found, notLater⟩ :=
            isNewer_eq_false (dropped seat member kept)
          unfold view
          rw [found]
          change some old.state =
            some (if old.sourceVersion < seat.sourceVersion then seat
              else old.state)
          rw [if_neg (Nat.not_lt.mpr notLater)]
        · intro part
          obtain ⟨other, otherMember, sameSeat⟩ := List.mem_map.mp part
          obtain ⟨arrived, isKept⟩ := List.mem_filter.mp otherMember
          rw [List.inj_on_of_nodup_map distinct arrived member sameSeat,
            kept] at isKept
          cases isKept
  · rw [merge_of_not_mem listed, merge_of_not_mem]
    intro part
    exact listed ((List.filter_sublist.map SeatState.seatId).subset part)

/-- A complete `PUT` merges its payload into what the map shows. -/
theorem view_written
    (distinct : (rows.map SeatState.seatId).Nodup)
    (seats :
      after.seats = map.seats.upsertAll (map.writtenEntries mode rows)) :
    after.view = mergeRows map.view rows := by
  rw [view_upsertAll ((List.filter_sublist.map _).nodup distinct) seats]
  apply mergeRows_filter distinct
  intro seat _ unchanged
  simp at unchanged
  exact unchanged.1

/-! ## The version of a map -/

/--
The map holds seats of the inventory only; if it can be read it holds them all
and its version is the sum of their source versions.
-/
structure Stocks (inventory : Finset SeatId) (map : SeatMap) : Prop where
  within :
    ∀ {seatId}, map.seats.find? seatId ≠ none → seatId ∈ inventory
  covered :
    map.version ≠ none →
    map.updating = false →
    ∀ seatId ∈ inventory, map.seats.find? seatId ≠ none
  counted :
    ∀ {version},
      map.version = some version →
      map.updating = false →
      version = (inventory.toList.map map.sourceVersion).sum

variable {inventory : Finset SeatId}

theorem stocks_missing : Stocks inventory {} :=
  ⟨fun present => absurd rfl present, fun present => absurd rfl present,
    nofun⟩

/-- Merged rows of the inventory leave the map within the inventory. -/
theorem within_merged
    {seatId : SeatId}
    (within :
      ∀ {seatId}, map.seats.find? seatId ≠ none → seatId ∈ inventory)
    (listed : ∀ row ∈ rows, row.seatId ∈ inventory)
    (merged : after.view = mergeRows map.view rows)
    (present : after.seats.find? seatId ≠ none) :
    seatId ∈ inventory := by
  rw [← view_ne_none, merged] at present
  obtain ⟨row, shown⟩ := Option.ne_none_iff_exists'.mp present
  rcases merge_shown shown with old | ⟨member, rfl⟩
  · apply within
    rw [← view_ne_none, old]
    nofun
  · exact listed row member

theorem stocks_afterPut_full
    {published : Publication}
    (within :
      ∀ {seatId}, map.seats.find? seatId ≠ none → seatId ∈ inventory)
    (lists : Payload.Lists inventory ⟨.full published, rows⟩) :
    (map.afterPut (.full published) rows).Stocks inventory := by
  have seats := map.seats_afterPut_full published rows
  have whole := lists.whole nofun
  refine ⟨?_, ?_, ?_⟩
  · intro seatId present
    exact within_merged within lists.within
      (view_written lists.distinct seats) present
  · intro _ _ seatId listed
    exact find?_afterPut_ne_none seats lists.distinct
      (Or.inr (whole seatId listed))
  · intro version versioned _
    rw [SeatMap.afterPut_full] at versioned
    cases versioned
    apply sum_afterPut_full lists.distinct inventory.nodup_toList
    intro seatId
    rw [Finset.mem_toList]
    constructor
    · exact whole seatId
    · intro listed
      obtain ⟨row, member, rfl⟩ := List.mem_map.mp listed
      exact lists.within row member

theorem Stocks.afterPut_patch
    (stocks : map.Stocks inventory)
    (lists : Payload.Lists inventory ⟨.patch, rows⟩) :
    (map.afterPut .patch rows).Stocks inventory := by
  cases accepted : map.put .patch rows with
  | none =>
      rw [afterPut_refused accepted]
      exact stocks
  | some writes =>
      obtain ⟨present, readable⟩ := (put_eq_some accepted).2 rfl
      obtain ⟨old, isOld⟩ := Option.ne_none_iff_exists'.mp present
      have seats :
          (map.afterPut .patch rows).seats =
            map.seats.upsertAll (map.writtenEntries .patch rows) :=
        seats_afterPut_patch present readable
      refine ⟨?_, ?_, ?_⟩
      · intro seatId shown
        exact within_merged stocks.within lists.within
          (view_written lists.distinct seats) shown
      · intro _ _ seatId listed
        exact find?_afterPut_ne_none seats lists.distinct
          (Or.inl (stocks.covered present readable seatId listed))
      · intro version versioned _
        rw [SeatMap.afterPut_patch present readable] at versioned
        cases versioned
        apply sum_afterPut_patch isOld seats lists.distinct
          inventory.nodup_toList _ (stocks.counted isOld readable)
        intro seatId listed
        obtain ⟨row, member, rfl⟩ := List.mem_map.mp listed
        exact Finset.mem_toList.mpr (lists.within row member)

theorem Stocks.afterPut
    {payload : Payload}
    (stocks : map.Stocks inventory)
    (lists : payload.Lists inventory) :
    (map.afterPut payload.mode payload.rows).Stocks inventory := by
  obtain ⟨mode, rows⟩ := payload
  cases mode with
  | full published => exact stocks_afterPut_full stocks.within lists
  | patch => exact stocks.afterPut_patch lists

/-- A readable map counts exactly its cached source versions. -/
theorem Stocks.cachedVersions
    {version : Nat}
    (stocks : map.Stocks inventory)
    (versioned : map.version = some version)
    (readable : map.updating = false) :
    version = map.cachedVersions := by
  have cached :
      (map.seats.rows.map SeatEntry.seatId).map map.sourceVersion =
        map.seats.rows.map SeatEntry.sourceVersion := by
    rw [List.map_map]
    apply List.map_congr_left
    intro entry member
    have found : map.seats.find? entry.seatId = some entry :=
      Table.find?_key member
    simp [sourceVersion, found]
  rw [stocks.counted versioned readable, SeatMap.cachedVersions, ← cached]
  apply sum_of_same_seats _ inventory.nodup_toList map.seats.keysNodup
  intro seatId
  rw [Finset.mem_toList]
  constructor
  · intro listed
    have present :=
      stocks.covered (ne_of_eq_of_ne versioned nofun) readable seatId listed
    obtain ⟨entry, found⟩ := Option.ne_none_iff_exists'.mp present
    exact List.mem_map.mpr
      ⟨entry, Table.mem_of_find? found, Table.key_of_find? found⟩
  · intro listed
    obtain ⟨entry, member, rfl⟩ := List.mem_map.mp listed
    have found : map.seats.find? entry.seatId = some entry :=
      Table.find?_key member
    exact stocks.within (ne_of_eq_of_ne found nofun)

/-! ## Sequences of payloads -/

/-- What a map has merged since a full `PUT` created it. -/
structure Received
    (inventory : Finset SeatId)
    (payloads : List Payload)
    (map : SeatMap) : Prop where
  versioned : map.version ≠ none
  readable : map.updating = false
  stocks : map.Stocks inventory
  plain : map.Plain
  merges :
    Merges SeatState.seatId SeatState.sourceVersion (delivered payloads)
      map.view

/-- What an accepted `PUT` leaves. -/
theorem afterPut_accepted
    (map : SeatMap)
    (mode : PutMode)
    (rows : List SeatState)
    (accepts :
      mode = .patch → map.version ≠ none ∧ map.updating = false) :
    (map.afterPut mode rows).seats =
        map.seats.upsertAll (map.writtenEntries mode rows) ∧
      (map.afterPut mode rows).version = some (map.putVersion mode rows) ∧
      (map.afterPut mode rows).updating = false := by
  cases mode with
  | full published =>
      rw [SeatMap.afterPut_full]
      exact ⟨rfl, rfl, rfl⟩
  | patch =>
      obtain ⟨present, readable⟩ := accepts rfl
      rw [SeatMap.afterPut_patch present readable]
      exact ⟨rfl, rfl, readable⟩

theorem received_created
    {created : Payload}
    (isFull : created.mode ≠ .patch)
    (lists : created.Lists inventory) :
    (SeatMap.afterPut {} created.mode created.rows).Received inventory
      [created] := by
  obtain ⟨seats, versioned, readable⟩ :=
    SeatMap.afterPut_accepted {} created.mode created.rows
      fun isPatch => absurd isPatch isFull
  have nothing :
      Merges SeatState.seatId SeatState.sourceVersion (delivered [])
        (SeatMap.view {}) := by
    have isEmpty : delivered [] = ∅ := by
      simp [delivered]
    rw [isEmpty]
    exact Merges.empty
  refine ⟨ne_of_eq_of_ne versioned nofun, readable,
    stocks_missing.afterPut lists, ?_, ?_⟩
  · exact plain_missing.written (List.prefix_refl _) seats
  · rw [← List.nil_append [created], delivered_append,
      view_written lists.distinct seats]
    exact nothing.merge lists.distinct

theorem Received.put
    {payloads : List Payload}
    {payload : Payload}
    (received : map.Received inventory payloads)
    (lists : payload.Lists inventory) :
    (map.afterPut payload.mode payload.rows).Received inventory
      (payloads ++ [payload]) := by
  obtain ⟨seats, versioned, readable⟩ :=
    map.afterPut_accepted payload.mode payload.rows
      fun _ => ⟨received.versioned, received.readable⟩
  refine ⟨ne_of_eq_of_ne versioned nofun, readable,
    received.stocks.afterPut lists, ?_, ?_⟩
  · exact received.plain.written (List.prefix_refl _) seats
  · rw [delivered_append, view_written lists.distinct seats]
    exact received.merges.merge lists.distinct

theorem Received.putAll
    {early payloads : List Payload}
    (received : map.Received inventory early)
    (lists : ∀ payload ∈ payloads, payload.Lists inventory) :
    (map.putAll payloads).Received inventory (early ++ payloads) := by
  induction payloads generalizing map early with
  | nil =>
      rw [List.append_nil]
      exact received
  | cons payload rest inductionHypothesis =>
      have next := received.put (lists payload List.mem_cons_self)
      have last := inductionHypothesis next fun other member =>
        lists other (List.mem_cons_of_mem _ member)
      rw [List.append_assoc] at last
      exact last

/-- A map that full and patch payloads have built since its creation. -/
theorem received_putAll
    {created : Payload}
    {payloads : List Payload}
    (isFull : created.mode ≠ .patch)
    (lists : ∀ payload ∈ created :: payloads, payload.Lists inventory) :
    (SeatMap.putAll {} (created :: payloads)).Received inventory
      (created :: payloads) :=
  (received_created isFull (lists created List.mem_cons_self)).putAll
    fun payload member => lists payload (List.mem_cons_of_mem _ member)

/-- A payload with nothing newer changes neither seats nor version. -/
theorem Received.put_current
    {payloads : List Payload}
    {payload : Payload}
    (received : map.Received inventory payloads)
    (lists : payload.Lists inventory)
    (current :
      ∀ row ∈ payload.rows,
        row.sourceVersion ≤ map.sourceVersion row.seatId) :
    (map.afterPut payload.mode payload.rows).seats = map.seats ∧
      (map.afterPut payload.mode payload.rows).version = map.version := by
  obtain ⟨seats, _, readable⟩ :=
    map.afterPut_accepted payload.mode payload.rows
      fun _ => ⟨received.versioned, received.readable⟩
  have unchanged :
      (map.afterPut payload.mode payload.rows).seats = map.seats := by
    rw [seats, writtenEntries_eq_nil received.readable]
    · rfl
    · intro row member
      have present :=
        received.stocks.covered received.versioned received.readable
          row.seatId (lists.within row member)
      obtain ⟨old, found⟩ := Option.ne_none_iff_exists'.mp present
      have behind := current row member
      rw [sourceVersion, found] at behind
      simpa [isNewer, found] using behind
  refine ⟨unchanged, ?_⟩
  have next := received.put lists
  obtain ⟨version, versioned⟩ :=
    Option.ne_none_iff_exists'.mp received.versioned
  obtain ⟨later, isLater⟩ := Option.ne_none_iff_exists'.mp next.versioned
  rw [versioned, isLater, next.stocks.cachedVersions isLater readable,
    received.stocks.cachedVersions versioned received.readable,
    SeatMap.cachedVersions, SeatMap.cachedVersions, unchanged]

/-- Maps that received the same rows agree up to the stamps of their entries. -/
theorem Received.agree
    {first second : SeatMap}
    {payloads others : List Payload}
    (received : first.Received inventory payloads)
    (otherReceived : second.Received inventory others)
    (same : ∀ payload, payload ∈ others ↔ payload ∈ payloads)
    (determined :
      Determined SeatState.seatId SeatState.sourceVersion
        (delivered payloads)) :
    (∀ seatId,
      (second.seats.find? seatId).map SeatEntry.unstamped =
        (first.seats.find? seatId).map SeatEntry.unstamped) ∧
      second.version = first.version := by
  have sameRows : delivered others = delivered payloads := by
    ext row
    simp [delivered, same]
  have sameView : first.view = second.view :=
    received.merges.eq (sameRows ▸ otherReceived.merges) determined
  constructor
  · intro seatId
    rw [received.plain.unstamped, otherReceived.plain.unstamped, sameView]
  · obtain ⟨version, versioned⟩ :=
      Option.ne_none_iff_exists'.mp received.versioned
    obtain ⟨other, isOther⟩ :=
      Option.ne_none_iff_exists'.mp otherReceived.versioned
    have sameVersions : first.sourceVersion = second.sourceVersion := by
      funext seatId
      rw [sourceVersion_eq_view, sourceVersion_eq_view, sameView]
    rw [versioned, isOther,
      received.stocks.counted versioned received.readable,
      otherReceived.stocks.counted isOther otherReceived.readable,
      sameVersions]

end SeatMap

/--
Every seat has the latest row delivered, the version is the sum of the cached
source versions, payloads with nothing newer change nothing, and the order and
repetition of payloads do not matter, but for the stamps of the entries.
-/
theorem merge_is_maximum
    {inventory : Finset SeatId}
    {created : Payload}
    {payloads : List Payload}
    {map : SeatMap}
    (isFull : created.mode ≠ .patch)
    (lists : ∀ payload ∈ created :: payloads, payload.Lists inventory)
    (determined :
      Determined SeatState.seatId SeatState.sourceVersion
        (delivered (created :: payloads)))
    (isMap : map = SeatMap.putAll {} (created :: payloads)) :
    (∀ seatId ∈ inventory,
      ∃ row stamp,
        row.seatId = seatId ∧
          IsLatest SeatState.seatId SeatState.sourceVersion
            (delivered (created :: payloads)) row ∧
          map.seats.find? seatId = some (row.entry stamp)) ∧
    map.version = some map.cachedVersions ∧
    (∀ payload : Payload,
      payload.Lists inventory →
      (∀ row ∈ payload.rows,
        row.sourceVersion ≤ map.sourceVersion row.seatId) →
      (map.afterPut payload.mode payload.rows).seats = map.seats ∧
        (map.afterPut payload.mode payload.rows).version = map.version) ∧
    ∀ (other : Payload) (others : List Payload),
      other.mode ≠ .patch →
      (∀ payload,
        payload ∈ other :: others ↔ payload ∈ created :: payloads) →
      (∀ seatId,
        ((SeatMap.putAll {} (other :: others)).seats.find? seatId).map
            SeatEntry.unstamped =
          (map.seats.find? seatId).map SeatEntry.unstamped) ∧
        (SeatMap.putAll {} (other :: others)).version = map.version := by
  have received : map.Received inventory (created :: payloads) :=
    isMap ▸ SeatMap.received_putAll isFull lists
  refine ⟨?_, ?_, ?_, ?_⟩
  · intro seatId listed
    have present :=
      received.stocks.covered received.versioned received.readable seatId
        listed
    obtain ⟨entry, found⟩ := Option.ne_none_iff_exists'.mp present
    have shown : map.view seatId = some entry.state := by
      rw [SeatMap.view, found]
      rfl
    refine ⟨entry.state, entry.version, Table.key_of_find? found,
      received.merges.isLatest shown, ?_⟩
    rw [← received.plain seatId entry found]
    exact found
  · obtain ⟨version, versioned⟩ :=
      Option.ne_none_iff_exists'.mp received.versioned
    rw [versioned,
      received.stocks.cachedVersions versioned received.readable]
  · intro payload payloadLists current
    exact received.put_current payloadLists current
  · intro other others otherFull same
    have otherReceived :
        (SeatMap.putAll {} (other :: others)).Received inventory
          (other :: others) :=
      SeatMap.received_putAll otherFull fun payload member =>
        lists payload ((same payload).mp member)
    exact received.agree otherReceived same determined

/-! ## Two seats in two orders -/

def smallSeat (seatId : SeatId) (sourceVersion : Nat) : SeatState where
  seatId := seatId
  price := 100
  status := .available
  reservedUntil := none
  sourceVersion := sourceVersion

def smallPublication : Publication where
  layout := { eventId := 1, seats := [("A1", 100), ("A2", 100)] }
  incarnation := 700
  sale := none

/-- The payload that creates a map of two seats. -/
def createTwo : Payload :=
  ⟨.full smallPublication, [smallSeat "A1" 0, smallSeat "A2" 0]⟩

def patchFirst : Payload := ⟨.patch, [smallSeat "A1" 1]⟩

def patchSecond : Payload := ⟨.patch, [smallSeat "A2" 1]⟩

theorem createTwo_full : createTwo.mode ≠ .patch := by
  decide

theorem twoPatches_list :
    ∀ payload ∈ [createTwo, patchFirst, patchSecond],
      payload.Lists {"A1", "A2"} := by
  intro payload member
  simp only [List.mem_cons, List.not_mem_nil, or_false] at member
  rcases member with rfl | rfl | rfl
  · exact ⟨by decide, by decide, fun _ => by decide⟩
  · exact ⟨by decide, by decide, fun isFull => absurd rfl isFull⟩
  · exact ⟨by decide, by decide, fun isFull => absurd rfl isFull⟩

theorem twoPatches_determined :
    Determined SeatState.seatId SeatState.sourceVersion
      (delivered [createTwo, patchFirst, patchSecond]) := by
  rintro first ⟨_, early, isFirst⟩ second ⟨_, late, isSecond⟩ sameSeat
    sameVersion
  simp only [List.mem_cons, List.not_mem_nil, or_false] at early late
  rcases early with rfl | rfl | rfl <;>
    rcases late with rfl | rfl | rfl <;>
    simp [createTwo, patchFirst, patchSecond] at isFirst isSecond <;>
    grind [smallSeat]

/-- The stamps of the entries depend on the order of the payloads. -/
theorem merge_order_stamps :
    (∀ payload ∈ [createTwo, patchFirst, patchSecond],
      payload.Lists {"A1", "A2"}) ∧
    Determined SeatState.seatId SeatState.sourceVersion
      (delivered [createTwo, patchFirst, patchSecond]) ∧
    [createTwo, patchSecond, patchFirst].Perm
      [createTwo, patchFirst, patchSecond] ∧
    ((SeatMap.putAll {} [createTwo, patchSecond, patchFirst]).read 1).map
        SeatMapBody.seats ≠
      ((SeatMap.putAll {} [createTwo, patchFirst, patchSecond]).read 1).map
        SeatMapBody.seats :=
  ⟨twoPatches_list, twoPatches_determined, .cons _ (.swap _ _ _), by decide⟩

/-- Both orders lead to the version two. -/
theorem merge_is_maximum_twoPatches :
    (SeatMap.putAll {} [createTwo, patchFirst, patchSecond]).version =
        some 2 ∧
      (SeatMap.putAll {} [createTwo, patchSecond, patchFirst]).version =
        (SeatMap.putAll {} [createTwo, patchFirst, patchSecond]).version := by
  have merged :=
    merge_is_maximum createTwo_full twoPatches_list twoPatches_determined rfl
  have same :
      ∀ payload,
        payload ∈ [createTwo, patchSecond, patchFirst] ↔
          payload ∈ [createTwo, patchFirst, patchSecond] := by
    simp [or_comm]
  have agree :=
    merged.2.2.2 createTwo [patchSecond, patchFirst] createTwo_full same
  exact ⟨rfl, agree.2⟩

end FlashTicketing
