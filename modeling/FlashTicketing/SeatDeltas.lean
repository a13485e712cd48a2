import FlashTicketing.Checked
import FlashTicketing.InterruptedPut

namespace FlashTicketing

open Relational Checked Latest Transition

/-!
# Seat deltas

A client keeps a copy of the map and asks for the seats whose stamp is above the
version of its copy.  A seat that differs from the copy has such a stamp: stamps
are sums of source versions, none of which falls behind the copy, and that of
the seat is ahead of it.
-/

/-! ## The endpoint -/

/-- What `deltas` raises. -/
inductive DeltasFailure where
  | seatmapWarming
  | invalidVersion
  deriving Repr, DecidableEq

/-- `deltas(event_id, since)`. -/
def SeatMap.deltas
    (map : SeatMap)
    (eventId : Uuid)
    (since : Int) :
    Except DeltasFailure SeatMapBody := do
  let snapshot ← require (map.read eventId) .seatmapWarming
  ensure (¬ (since < 0 ∨ (snapshot.version : Int) < since)) .invalidVersion
  pure { snapshot with
    seats := snapshot.seats.filter fun seat =>
      decide (since < (seat.version : Int)) }

/-! ## Clients -/

/-- The fields of a seat that do not tell when it was written. -/
structure SeatFields where
  seatId : SeatId
  price : Nat
  status : SeatStatus
  reservedUntil : Option TimeText
  sourceVersion : Nat
  deriving Repr, DecidableEq

def SeatEntry.fields (entry : SeatEntry) : SeatFields where
  seatId := entry.seatId
  price := entry.price
  status := entry.status
  reservedUntil := entry.reservedUntil
  sourceVersion := entry.sourceVersion

/-- The seats of a map by their identifiers. -/
def SeatMap.fields (map : SeatMap) (seatId : SeatId) : Option SeatFields :=
  (map.seats.find? seatId).map SeatEntry.fields

/-- Replace the seats that a call returned. -/
def replaceSeats
    (copy : SeatId → Option SeatFields)
    (returned : List SeatEntry) : SeatId → Option SeatFields :=
  fun seatId =>
    match returned.find? fun seat => decide (seat.seatId = seatId) with
    | some seat => some seat.fields
    | none => copy seatId

/-- A copy of the map and the version that the client has for it. -/
structure DeltaClient where
  copy : SeatId → Option SeatFields
  since : Nat

structure DeltaWorld where
  map : SeatMap := {}
  client : Option DeltaClient := none

inductive DeltaAction where
  | put (action : PutAction)
  | read
  | deltas

/-- A `PUT`, or a call of the client. -/
inductive DeltaWorld.Step
    (inventory : Finset SeatId)
    (eventId : Uuid)
    (world : DeltaWorld) :
    DeltaAction → DeltaWorld → Prop where
  | put
      {action : PutAction}
      {after : SeatMap}
      (step : PutStep inventory world.map action after) :
      Step inventory eventId world (.put action) { world with map := after }
  | read
      {body : SeatMapBody}
      (shown : world.map.read eventId = some body) :
      Step inventory eventId world .read { world with
        client := some {
          copy := replaceSeats (fun _ => none) body.seats
          since := body.version } }
  | deltas
      {client : DeltaClient}
      {body : SeatMapBody}
      (isClient : world.client = some client)
      (answered : world.map.deltas eventId client.since = .ok body) :
      Step inventory eventId world .deltas { world with
        client := some {
          copy := replaceSeats client.copy body.seats
          since := body.version } }

/-! ## Versions of maps -/

namespace SeatMap

variable
  {inventory : Finset SeatId}
  {map after : SeatMap}

theorem Stocks.step
    {action : PutAction}
    (stocks : map.Stocks inventory)
    (regular : map.Regular inventory)
    (step : PutStep inventory map action after) :
    after.Stocks inventory := by
  have later := regular.step step
  cases step with
  | complete lists => exact stocks.afterPut lists
  | @stopped payload writes commands lists accepted short =>
      rcases Nat.eq_zero_or_pos commands with rfl | started
      · exact stocks
      · have marked := (perform_stopped accepted started short).1
        refine ⟨later.within, ?_, ?_⟩
        · intro _ readable
          rw [marked] at readable
          cases readable
        · intro version _ readable
          rw [marked] at readable
          cases readable

/-- A complete `PUT` leaves no source version behind. -/
theorem sourceVersion_le_afterPut
    {mode : PutMode}
    {rows : List SeatState}
    (distinct : (rows.map SeatState.seatId).Nodup)
    (seatId : SeatId) :
    map.sourceVersion seatId ≤
      (map.afterPut mode rows).sourceVersion seatId := by
  rcases map.seats_afterPut mode rows with same | written
  · rw [sourceVersion, sourceVersion, same]
  · by_cases listed : seatId ∈ rows.map SeatState.seatId
    · obtain ⟨row, member, rfl⟩ := List.mem_map.mp listed
      rw [sourceVersion_written written distinct member]
      exact Nat.le_max_left _ _
    · rw [sourceVersion_unwritten written listed]

end SeatMap

/-! ## Copies trail the map -/

/-- The source version of a seat in the copy, or zero. -/
def DeltaClient.sourceVersion
    (client : DeltaClient)
    (seatId : SeatId) : Nat :=
  ((client.copy seatId).map SeatFields.sourceVersion).getD 0

/--
Every seat is as in the copy, or ahead of it and stamped above its version; the
version is the sum of the source versions in the copy.
-/
structure Trails
    (inventory : Finset SeatId)
    (client : DeltaClient)
    (map : SeatMap) : Prop where
  seats :
    ∀ seatId ∈ inventory,
      ∃ known entry,
        client.copy seatId = some known ∧
          map.seats.find? seatId = some entry ∧
          (entry.fields = known ∨
            (known.sourceVersion < entry.sourceVersion ∧
              client.since < entry.version))
  outside : ∀ seatId, seatId ∉ inventory → client.copy seatId = none
  counted :
    client.since = (inventory.toList.map client.sourceVersion).sum

namespace Trails

variable
  {inventory : Finset SeatId}
  {client : DeltaClient}
  {map after : SeatMap}

theorem sourceVersion_le
    (trails : Trails inventory client map)
    {seatId : SeatId}
    (listed : seatId ∈ inventory) :
    client.sourceVersion seatId ≤ map.sourceVersion seatId := by
  obtain ⟨known, entry, isKnown, found, same | ⟨ahead, _⟩⟩ :=
    trails.seats seatId listed
  · rw [DeltaClient.sourceVersion, isKnown, SeatMap.sourceVersion, found,
      ← same]
    exact Nat.le_refl _
  · rw [DeltaClient.sourceVersion, isKnown, SeatMap.sourceVersion, found]
    exact Nat.le_of_lt ahead

/-- A `PUT` that brings a seat ahead of the copy counts above its version. -/
theorem since_lt
    {payload : Payload}
    {seatId : SeatId}
    (trails : Trails inventory client map)
    (stocks : map.Stocks inventory)
    (lists : payload.Lists inventory)
    (accepts :
      payload.mode = .patch → map.version ≠ none ∧ map.updating = false)
    (listed : seatId ∈ inventory)
    (ahead :
      client.sourceVersion seatId <
        (map.afterPut payload.mode payload.rows).sourceVersion seatId) :
    client.since < map.putVersion payload.mode payload.rows := by
  obtain ⟨_, versioned, readable⟩ :=
    map.afterPut_accepted payload.mode payload.rows accepts
  rw [trails.counted,
    (stocks.afterPut lists).counted versioned readable]
  apply List.sum_lt_sum
  · intro other member
    exact (trails.sourceVersion_le (Finset.mem_toList.mp member)).trans
      (SeatMap.sourceVersion_le_afterPut lists.distinct other)
  · exact ⟨seatId, Finset.mem_toList.mpr listed, ahead⟩

/-- Copies trail the map after some of the writes of a `PUT`. -/
theorem written
    {payload : Payload}
    {entries : List SeatEntry}
    (trails : Trails inventory client map)
    (stocks : map.Stocks inventory)
    (lists : payload.Lists inventory)
    (accepts :
      payload.mode = .patch → map.version ≠ none ∧ map.updating = false)
    (written :
      entries <+: map.writtenEntries payload.mode payload.rows)
    (seats : after.seats = map.seats.upsertAll entries) :
    Trails inventory client after := by
  refine ⟨?_, trails.outside, trails.counted⟩
  intro seatId listed
  obtain ⟨known, entry, isKnown, found, relation⟩ :=
    trails.seats seatId listed
  have notAhead : known.sourceVersion ≤ entry.sourceVersion := by
    rcases relation with same | ⟨ahead, _⟩
    · exact Nat.le_of_eq (congrArg SeatFields.sourceVersion same.symm)
    · exact Nat.le_of_lt ahead
  have isVersion : client.sourceVersion seatId = known.sourceVersion := by
    rw [DeltaClient.sourceVersion, isKnown]
    rfl
  have mapVersion : map.sourceVersion seatId = entry.sourceVersion := by
    rw [SeatMap.sourceVersion, found]
    rfl
  rw [seats]
  rcases SeatMap.find?_written_cases written seatId with
    same | ⟨seat, member, rfl, newer, isSeat⟩ | ⟨_, old, oldFound, isOld⟩
  · exact ⟨known, entry, isKnown, same.trans found, relation⟩
  · have later := SeatMap.isNewer_iff.mp newer entry found
    refine ⟨known, _, isKnown, isSeat, Or.inr ⟨?_, ?_⟩⟩
    · exact Nat.lt_of_le_of_lt notAhead later
    · obtain ⟨complete, _, _⟩ :=
        map.afterPut_accepted payload.mode payload.rows accepts
      apply trails.since_lt stocks lists accepts listed
      rw [isVersion,
        SeatMap.sourceVersion_written complete lists.distinct member]
      exact Nat.lt_of_lt_of_le (Nat.lt_of_le_of_lt notAhead later)
        (Nat.le_max_right _ _)
  · cases oldFound.symm.trans found
    refine ⟨known, _, isKnown, isOld, ?_⟩
    rcases relation with same | ⟨ahead, _⟩
    · exact Or.inl same
    · refine Or.inr ⟨ahead, ?_⟩
      apply trails.since_lt stocks lists accepts listed
      rw [isVersion]
      exact Nat.lt_of_lt_of_le (mapVersion ▸ ahead)
        (SeatMap.sourceVersion_le_afterPut lists.distinct seatId)

theorem step
    {action : PutAction}
    (trails : Trails inventory client map)
    (stocks : map.Stocks inventory)
    (step : PutStep inventory map action after) :
    Trails inventory client after := by
  cases step with
  | @complete payload lists =>
      cases accepted : map.put payload.mode payload.rows with
      | none =>
          rw [SeatMap.afterPut_refused accepted]
          exact trails
      | some writes =>
          have accepts := (SeatMap.put_eq_some accepted).2
          obtain ⟨seats, _, _⟩ :=
            map.afterPut_accepted payload.mode payload.rows accepts
          exact trails.written stocks lists accepts (List.prefix_refl _) seats
  | @stopped payload writes commands lists accepted short =>
      rcases Nat.eq_zero_or_pos commands with rfl | started
      · exact trails
      · obtain ⟨_, kept, seats⟩ :=
          SeatMap.perform_stopped accepted started short
        exact trails.written stocks lists (SeatMap.put_eq_some accepted).2
          (List.take_prefix kept _) seats

/-- A client whose copy is the map trails the map. -/
theorem of_fields
    {version : Nat}
    (stocks : map.Stocks inventory)
    (versioned : map.version = some version)
    (readable : map.updating = false)
    (isCopy : client.copy = map.fields)
    (isVersion : client.since = version) :
    Trails inventory client map := by
  refine ⟨?_, ?_, ?_⟩
  · intro seatId listed
    have present :=
      stocks.covered (ne_of_eq_of_ne versioned nofun) readable seatId listed
    obtain ⟨entry, found⟩ := Option.ne_none_iff_exists'.mp present
    refine ⟨entry.fields, entry, ?_, found, Or.inl rfl⟩
    rw [isCopy, SeatMap.fields, found]
    rfl
  · intro seatId unlisted
    rw [isCopy, SeatMap.fields, Option.map_eq_none_iff]
    by_contra present
    exact unlisted (stocks.within present)
  · rw [isVersion, stocks.counted versioned readable]
    refine congrArg List.sum (List.map_congr_left ?_)
    intro seatId _
    rw [DeltaClient.sourceVersion, isCopy, SeatMap.fields, Option.map_map]
    rfl

end Trails

/-! ## Answers -/

namespace SeatMap

variable {map : SeatMap}

theorem read_nodup
    {eventId : Uuid}
    {body : SeatMapBody}
    (shown : map.read eventId = some body) :
    (body.seats.map Keyed.key).Nodup := by
  unfold SeatMap.read at shown
  split at shown
  · cases shown
    exact ((List.perm_insertionSort _ _).map _).nodup_iff.mpr
      map.seats.keysNodup
  · cases shown

/-- Lookup among some of the seats of a read. -/
theorem find?_read
    {eventId : Uuid}
    {body : SeatMapBody}
    (condition : SeatEntry → Bool)
    (shown : map.read eventId = some body)
    (seatId : SeatId) :
    ((body.seats.filter condition).find? fun seat =>
        decide (seat.seatId = seatId)) =
      (map.seats.find? seatId).filter condition := by
  let returned : Table SeatEntry :=
    ⟨body.seats.filter condition,
      (List.filter_sublist.map _).nodup (read_nodup shown)⟩
  change returned.find? seatId = _
  apply Option.ext
  intro entry
  rw [Table.find?_eq_some_iff, Option.filter_eq_some_iff,
    Table.find?_eq_some_iff, ← (read_eq_some shown).2.2 entry]
  change entry ∈ body.seats.filter condition ∧ _ ↔ _
  rw [List.mem_filter, and_right_comm]

/-- A successful call returns the seats stamped above the given version. -/
theorem deltas_eq_ok
    {eventId : Uuid}
    {since : Int}
    {body : SeatMapBody}
    (answered : map.deltas eventId since = .ok body) :
    ∃ snapshot,
      map.read eventId = some snapshot ∧
        body.version = snapshot.version ∧
        body.seats =
          snapshot.seats.filter fun seat =>
            decide (since < (seat.version : Int)) := by
  simp only [deltas, bind_eq_ok, require_eq_ok, ensure_eq_ok,
    pure_eq_ok] at answered
  obtain ⟨snapshot, shown, _, _, rfl⟩ := answered
  exact ⟨snapshot, shown, rfl, rfl⟩

end SeatMap

/-- The whole map makes a copy of the map. -/
theorem replaceSeats_read
    {map : SeatMap}
    {eventId : Uuid}
    {body : SeatMapBody}
    (shown : map.read eventId = some body) :
    replaceSeats (fun _ => none) body.seats = map.fields := by
  funext seatId
  have found := SeatMap.find?_read (fun _ => true) shown seatId
  rw [List.filter_true] at found
  rw [replaceSeats, found, SeatMap.fields]
  cases map.seats.find? seatId with
  | none => rfl
  | some entry => rfl

/-- The returned seats turn the copy into the map. -/
theorem Trails.replaced
    {inventory : Finset SeatId}
    {client : DeltaClient}
    {map : SeatMap}
    {eventId : Uuid}
    {body : SeatMapBody}
    (trails : Trails inventory client map)
    (stocks : map.Stocks inventory)
    (answered : map.deltas eventId client.since = .ok body) :
    replaceSeats client.copy body.seats = map.fields := by
  obtain ⟨snapshot, shown, _, seats⟩ := SeatMap.deltas_eq_ok answered
  funext seatId
  have returned :=
    SeatMap.find?_read (fun seat => decide ((client.since : Int) < seat.version))
      shown seatId
  rw [replaceSeats, seats, returned, SeatMap.fields]
  by_cases listed : seatId ∈ inventory
  · obtain ⟨known, entry, isKnown, found, relation⟩ :=
      trails.seats seatId listed
    rw [found, isKnown]
    by_cases stamped : client.since < entry.version
    · simp [Option.filter, stamped]
    · rcases relation with same | ⟨_, above⟩
      · simp [Option.filter, stamped, same]
      · exact absurd above stamped
  · have absent : map.seats.find? seatId = none := by
      by_contra present
      exact listed (stocks.within present)
    rw [absent, trails.outside seatId listed]
    rfl

/-- The version of a copy is never above that of a map which can be read. -/
theorem Trails.since_le
    {inventory : Finset SeatId}
    {client : DeltaClient}
    {map : SeatMap}
    {version : Nat}
    (trails : Trails inventory client map)
    (stocks : map.Stocks inventory)
    (versioned : map.version = some version)
    (readable : map.updating = false) :
    client.since ≤ version := by
  rw [trails.counted, stocks.counted versioned readable]
  apply List.sum_le_sum
  intro seatId member
  exact trails.sourceVersion_le (Finset.mem_toList.mp member)

/-! ## Runs -/

structure DeltaSound
    (inventory : Finset SeatId)
    (world : DeltaWorld) : Prop where
  regular : world.map.Regular inventory
  stocks : world.map.Stocks inventory
  trails :
    ∀ client,
      world.client = some client → Trails inventory client world.map

theorem DeltaSound.step
    {inventory : Finset SeatId}
    {eventId : Uuid}
    {world after : DeltaWorld}
    {action : DeltaAction}
    (sound : DeltaSound inventory world)
    (step : world.Step inventory eventId action after) :
    DeltaSound inventory after := by
  cases step with
  | put step =>
      refine ⟨sound.regular.step step, sound.stocks.step sound.regular step,
        ?_⟩
      intro client isClient
      exact (sound.trails client isClient).step sound.stocks step
  | read shown =>
      refine ⟨sound.regular, sound.stocks, ?_⟩
      intro client isClient
      cases isClient
      obtain ⟨versioned, readable, _⟩ := SeatMap.read_eq_some shown
      exact .of_fields sound.stocks versioned readable
        (replaceSeats_read shown) rfl
  | @deltas client body isClient answered =>
      refine ⟨sound.regular, sound.stocks, ?_⟩
      intro later isLater
      cases isLater
      obtain ⟨snapshot, shown, isVersion, _⟩ :=
        SeatMap.deltas_eq_ok answered
      obtain ⟨versioned, readable, _⟩ := SeatMap.read_eq_some shown
      exact .of_fields sound.stocks versioned readable
        ((sound.trails client isClient).replaced sound.stocks answered)
        isVersion

/--
Whenever a client calls `deltas` with the version that it has, the returned
seats turn its copy into the map; the version is always a valid one.
-/
theorem deltas_reconstruct
    {inventory : Finset SeatId}
    {eventId : Uuid}
    {actions : List DeltaAction}
    {world : DeltaWorld}
    {client : DeltaClient}
    (run : Run (DeltaWorld.Step inventory eventId) {} actions world)
    (isClient : world.client = some client) :
    (∀ body,
      world.map.deltas eventId client.since = .ok body →
      replaceSeats client.copy body.seats = world.map.fields ∧
        world.map.version = some body.version) ∧
    world.map.deltas eventId client.since ≠ .error .invalidVersion := by
  have start : DeltaSound inventory {} :=
    ⟨SeatMap.regular_missing, SeatMap.stocks_missing, by simp⟩
  have sound : DeltaSound inventory world :=
    run.invariant start fun holds step => holds.step step
  have trails := sound.trails client isClient
  constructor
  · intro body answered
    obtain ⟨snapshot, shown, isVersion, _⟩ := SeatMap.deltas_eq_ok answered
    refine ⟨trails.replaced sound.stocks answered, ?_⟩
    rw [isVersion]
    exact (SeatMap.read_eq_some shown).1
  · cases shown : world.map.read eventId with
    | none => simp [SeatMap.deltas, shown, require, bind, Except.bind]
    | some snapshot =>
        obtain ⟨versioned, readable, _⟩ := SeatMap.read_eq_some shown
        have valid :=
          trails.since_le sound.stocks versioned readable
        have within :
            ¬ ((client.since : Int) < 0 ∨
              (snapshot.version : Int) < client.since) := by
          omega
        unfold SeatMap.deltas
        rw [shown, require_some]
        change (ensure _ _ >>= _) ≠ _
        rw [ensure_bind_of_true within]
        simp [pure, Except.pure]

/-! ## One patch after a read -/

/-- The two free seats as a client reads them. -/
def twoSeatsBody : SeatMapBody where
  eventId := 1
  version := 0
  seats := [(smallSeat "A1" 0).entry 0, (smallSeat "A2" 0).entry 0]

def twoSeatsClient : DeltaClient where
  copy := replaceSeats (fun _ => none) twoSeatsBody.seats
  since := 0

/-- The first seat has changed since the client read the map. -/
def changedSeats : DeltaWorld where
  map := twoSeats.afterPut patchFirst.mode patchFirst.rows
  client := some twoSeatsClient

theorem run_changedSeats :
    Run (DeltaWorld.Step {"A1", "A2"} 1) {}
      [.put (.complete createTwo), .read, .put (.complete patchFirst)]
      changedSeats := by
  have created : createTwo.Lists {"A1", "A2"} :=
    twoPatches_list createTwo List.mem_cons_self
  have patched : patchFirst.Lists {"A1", "A2"} :=
    twoPatches_list patchFirst (by simp)
  have shown : twoSeats.read 1 = some twoSeatsBody :=
    rfl
  apply Run.cons (.put (.complete created))
  apply Run.cons (.read shown)
  exact .cons (.put (.complete patched)) (.nil _)

/-- The call returns the first seat and brings the copy up to date. -/
theorem deltas_reconstruct_changedSeats :
    changedSeats.map.deltas 1 0 =
        .ok {
          eventId := 1
          version := 1
          seats := [(smallSeat "A1" 1).entry 1] } ∧
      replaceSeats twoSeatsClient.copy [(smallSeat "A1" 1).entry 1] =
        changedSeats.map.fields :=
  ⟨rfl, ((deltas_reconstruct run_changedSeats rfl).1 _ rfl).1⟩

end FlashTicketing
