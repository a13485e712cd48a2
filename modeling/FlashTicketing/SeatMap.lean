import FlashTicketing.PostgresSchema
import FlashTicketing.Significant

namespace FlashTicketing

open Relational

/-!
# The seat map in Redis

One hash per event holds the metadata of the map and one field per seat.  The
`PUT` script first computes what it will write and then issues the writes one
after another, so it is modelled as the list of its write commands: a script
that fails part-way has executed a prefix of them.

The expiry of the key is not part of the hash; losing the key is a step of the
systems that consider it.
-/

/-! ## Seats as the projector sends them -/

inductive SeatStatus where
  | available
  | held
  | sold
  deriving Repr, DecidableEq

/-- A seat in a `PUT` payload; its epoch is the timestamp of `reserved_until`. -/
structure SeatState where
  seatId : SeatId
  price : Nat
  status : SeatStatus
  reservedUntil : Option Int
  sourceVersion : Nat
  deriving Repr, DecidableEq

/-- `"SOLD" if booked_order_id else "HELD" if hold_id else "AVAILABLE"`. -/
def EventSeat.status (row : EventSeat) : SeatStatus :=
  if row.bookedOrderId.isSome then
    .sold
  else if row.holdId.isSome then
    .held
  else
    .available

/-- `seat_state(row)`. -/
def seatState (row : EventSeat) : SeatState where
  seatId := row.seatId
  price := row.price
  status := row.status
  reservedUntil := row.reservedUntil
  sourceVersion := row.version

/-! ## Seats as the hash stores them -/

/-- The two spellings of a deadline: `str(datetime)` and `isoformat()`. -/
inductive TimeText where
  | plain (time : Int)
  | iso (time : Int)
  deriving Repr, DecidableEq

/-- The moment that a text spells. -/
def TimeText.time : TimeText → Int
  | .plain time => time
  | .iso time => time

/--
`reserved_until_epoch` as `cjson.encode` writes it: the double of the timestamp
with fourteen digits, which at present leaves tenths of a millisecond.
-/
def storedEpoch (time : Int) : Int :=
  if |time| < 10 ^ 14 then
    -- So few microseconds have fourteen digits themselves.
    time
  else
    Significant.nearest
      (Significant.rounded 10 14
        (Significant.rounded 2 53 ((time : ℚ) / 10 ^ 6)) * 10 ^ 6)

/-- Until the year 2223 an epoch is stored to fifty microseconds. -/
theorem abs_storedEpoch_sub_le
    {time : Int}
    (recent : |time| < 8 * 10 ^ 15) :
    |storedEpoch time - time| ≤ 50 := by
  unfold storedEpoch
  split
  · simp
  · let timestamp : ℚ := (time : ℚ) / 10 ^ 6
    let double := Significant.rounded 2 53 timestamp
    let written := Significant.rounded 10 14 double
    have recentTimestamp : |timestamp| < 2 ^ 33 := by
      have recentTime : |(time : ℚ)| < 8 * 10 ^ 15 := by
        exact_mod_cast recent
      rw [abs_div, div_lt_iff₀ (by norm_num)]
      apply lt_trans recentTime
      norm_num
    have doubleNear : |double - timestamp| ≤ 2 ^ (-20 : ℤ) / 2 := by
      have unit :
          Significant.unit 2 53 timestamp ≤ (2 : ℚ) ^ ((33 : ℤ) - 53) :=
        @Significant.unit_le 2 timestamp (by norm_num) 33 53 (by norm_num)
          recentTimestamp
      exact (Significant.abs_rounded_sub_le (by norm_num) 53 _).trans
        (div_le_div_of_nonneg_right unit (by norm_num))
    have recentDouble : |double| < 10 ^ 10 := by
      have apart := abs_sub_abs_le_abs_sub double timestamp
      norm_num at doubleNear
      linarith
    have writtenNear : |written - double| ≤ 10 ^ (-4 : ℤ) / 2 := by
      have unit :
          Significant.unit 10 14 double ≤ (10 : ℚ) ^ ((10 : ℤ) - 14) :=
        @Significant.unit_le 10 double (by norm_num) 10 14 (by norm_num)
          recentDouble
      exact (Significant.abs_rounded_sub_le (by norm_num) 14 _).trans
        (div_le_div_of_nonneg_right unit (by norm_num))
    have storedNear := Significant.abs_nearest_sub_le (written * 10 ^ 6)
    have exact : timestamp * 10 ^ 6 = time :=
      div_mul_cancel₀ _ (by norm_num)
    change |Significant.nearest (written * 10 ^ 6) - time| ≤ 50
    generalize Significant.nearest (written * 10 ^ 6) = stored
      at storedNear ⊢
    -- Less than 51 microseconds in all, between two whole numbers of them.
    have near : |(stored : ℚ) - time| < 51 := by
      rw [abs_le] at doubleNear writtenNear storedNear
      norm_num at doubleNear writtenNear
      rw [abs_lt]
      constructor <;> linarith
    have whole : |stored - time| < 51 := by
      exact_mod_cast near
    exact Int.lt_add_one_iff.mp whole

/-- The value of a field `seat:<id>`.  The epoch counts microseconds. -/
structure SeatEntry where
  seatId : SeatId
  price : Nat
  status : SeatStatus
  holdId : Option Uuid := none
  reservedUntil : Option TimeText
  reservedUntilEpoch : Option Int
  version : Nat
  sourceVersion : Nat
  deriving Repr, DecidableEq

instance : Keyed SeatEntry SeatId := ⟨SeatEntry.seatId⟩

/-- The entry that `PUT` writes for a payload seat; it has no `hold_id`. -/
def SeatState.entry (seat : SeatState) (version : Nat) : SeatEntry where
  seatId := seat.seatId
  price := seat.price
  status := seat.status
  reservedUntil := seat.reservedUntil.map .plain
  reservedUntilEpoch := seat.reservedUntil.map storedEpoch
  version := version
  sourceVersion := seat.sourceVersion

/-- The layout document of an event, sorted by seat. -/
structure Layout where
  eventId : Uuid
  seats : List (SeatId × Nat)
  deriving Repr, DecidableEq

/-- The layout tag.  SHA-256 is taken as collision-free, so it names its layout. -/
structure LayoutTag where
  layout : Layout
  deriving Repr, DecidableEq

/-- The sale metadata, with epochs in microseconds. -/
structure SaleWindow where
  startsEpoch : Int
  endsEpoch : Int
  currency : Currency
  deriving Repr, DecidableEq

/-- The hash of one event.  The empty hash is a missing key. -/
structure SeatMap where
  version : Option Nat := none
  updating : Bool := false
  incarnation : Option Uuid := none
  layout : Option (Layout × LayoutTag) := none
  sale : Option SaleWindow := none
  seats : Table SeatEntry := .empty

/-! ## The `PUT` script -/

/-- One write command of the script. -/
inductive HashWrite where
  | setUpdating
  | setSeat (entry : SeatEntry)
  | setVersion (version : Nat)
  | setLayout (layout : Layout)
  | setIncarnation (incarnation : Uuid)
  | setSale (sale : SaleWindow)
  | deleteUpdating
  deriving Repr, DecidableEq

/-- What the full mode publishes besides the seats. -/
structure Publication where
  layout : Layout
  incarnation : Uuid
  sale : Option SaleWindow
  deriving Repr, DecidableEq

inductive PutMode where
  | full (publication : Publication)
  | patch
  deriving Repr, DecidableEq

def PutMode.isFull : PutMode → Bool
  | .full _ => true
  | .patch => false

namespace SeatMap

/-- Execute one write command. -/
def write (map : SeatMap) : HashWrite → SeatMap
  | .setUpdating => { map with updating := true }
  | .setSeat entry => { map with seats := map.seats.upsert entry }
  | .setVersion version => { map with version := some version }
  | .setLayout layout => { map with layout := some (layout, ⟨layout⟩) }
  | .setIncarnation incarnation =>
      -- `HSETNX`
      { map with incarnation := map.incarnation.or (some incarnation) }
  | .setSale sale => { map with sale := some sale }
  | .deleteUpdating => { map with updating := false }

/-- Execute write commands in order. -/
def perform (map : SeatMap) (writes : List HashWrite) : SeatMap :=
  writes.foldl write map

/-- The cached source version of a seat, or zero. -/
def sourceVersion (map : SeatMap) (seatId : SeatId) : Nat :=
  ((map.seats.find? seatId).map SeatEntry.sourceVersion).getD 0

/-- `not old or seat.source_version > old.source_version`. -/
def isNewer (map : SeatMap) (seat : SeatState) : Bool :=
  match map.seats.find? seat.seatId with
  | none => true
  | some old => decide (old.sourceVersion < seat.sourceVersion)

/-- `newer and seat or old`, with the version that the script then sets. -/
def selected (map : SeatMap) (version : Nat) (seat : SeatState) : SeatEntry :=
  match map.seats.find? seat.seatId with
  | none => seat.entry version
  | some old =>
      if old.sourceVersion < seat.sourceVersion then
        seat.entry version
      else
        { old with version := version }

/-- How one payload seat moves the aggregate version. -/
def countVersion
    (map : SeatMap)
    (full : Bool)
    (version : Nat)
    (seat : SeatState) : Nat :=
  if full then
    version + (map.selected version seat).sourceVersion
  else if map.isNewer seat then
    version + seat.sourceVersion - map.sourceVersion seat.seatId
  else
    version

/-- The aggregate version after the loop over the payload. -/
def putVersion
    (map : SeatMap)
    (mode : PutMode)
    (rows : List SeatState) : Nat :=
  rows.foldl (map.countVersion mode.isFull)
    (if mode.isFull then 0 else map.version.getD 0)

/-- The write commands of `PUT`, or `none` for a refused patch. -/
def put
    (map : SeatMap)
    (mode : PutMode)
    (rows : List SeatState) :
    Option (List HashWrite) :=
  if mode = .patch ∧ (map.version = none ∨ map.updating = true) then
    none
  else
    let version := map.putVersion mode rows
    let changed := rows.filter fun seat => map.isNewer seat || map.updating
    let publication :=
      match mode with
      | .patch => []
      | .full published =>
          [.setLayout published.layout,
            .setIncarnation published.incarnation] ++
            (published.sale.map HashWrite.setSale).toList
    some
      ([.setUpdating] ++
        changed.map (fun seat => .setSeat (map.selected version seat)) ++
        [.setVersion version] ++ publication ++ [.deleteUpdating])

/-- The hash after an uninterrupted `PUT`. -/
def afterPut
    (map : SeatMap)
    (mode : PutMode)
    (rows : List SeatState) : SeatMap :=
  match map.put mode rows with
  | some writes => map.perform writes
  | none => map

end SeatMap

/-! ## Reading the whole map -/

/-- What `read` returns. -/
structure SeatMapBody where
  eventId : Uuid
  version : Nat
  seats : List SeatEntry
  deriving Repr, DecidableEq

/-- `read(event)`, or `none` for `SEATMAP_WARMING`. -/
def SeatMap.read (map : SeatMap) (eventId : Uuid) : Option SeatMapBody :=
  match map.version, map.updating with
  | some version, false =>
      some {
        eventId := eventId
        version := version
        seats :=
          map.seats.rows.insertionSort fun first second =>
            first.seatId ≤ second.seatId }
  | _, _ => none

/-! ## The `BROWSE` script -/

inductive Representation where
  | layout
  | availability
  deriving Repr, DecidableEq

/-- The two kinds of entity tags. -/
inductive ETag where
  | layout (tag : LayoutTag)
  | availability (eventId : Uuid) (incarnation : Uuid) (version : Nat)
  deriving Repr, DecidableEq

/-- A candidate of `If-None-Match`. -/
inductive Validator where
  | any
  | tag (tag : ETag)
  | other (text : String)
  deriving Repr, DecidableEq

/-- `candidate == '*' or candidate == tag`. -/
def Validator.accepts (validator : Validator) (tag : ETag) : Bool :=
  decide (validator = .any ∨ validator = .tag tag)

/-- The seat fields of an availability body. -/
structure AvailabilitySeat where
  seatId : SeatId
  status : SeatStatus
  reservedUntil : Option TimeText
  deriving Repr, DecidableEq

structure AvailabilityBody where
  eventId : Uuid
  version : Nat
  seats : List AvailabilitySeat
  deriving Repr, DecidableEq

inductive BrowseResult where
  | warming
  | notModified (tag : ETag)
  | layout (tag : ETag) (layout : Layout)
  | availability (tag : ETag) (body : AvailabilityBody)
  deriving Repr, DecidableEq

def SeatEntry.availability (entry : SeatEntry) : AvailabilitySeat where
  seatId := entry.seatId
  status := entry.status
  reservedUntil := entry.reservedUntil

namespace SeatMap

/-- The availability body, sorted by seat. -/
def availabilityBody
    (map : SeatMap)
    (eventId : Uuid)
    (version : Nat) : AvailabilityBody where
  eventId := eventId
  version := version
  seats :=
    (map.seats.rows.map SeatEntry.availability).insertionSort
      fun first second => first.seatId ≤ second.seatId

/-- `browse(event, kind, if_none_match)`. -/
def browse
    (map : SeatMap)
    (eventId : Uuid)
    (kind : Representation)
    (candidates : List Validator) : BrowseResult :=
  match map.version, map.incarnation, map.updating, map.layout with
  | some version, some incarnation, false, some (layout, layoutTag) =>
      let tag : ETag :=
        match kind with
        | .layout => .layout layoutTag
        | .availability => .availability eventId incarnation version
      if candidates.any (·.accepts tag) then
        .notModified tag
      else
        match kind with
        | .layout => .layout tag layout
        | .availability =>
            .availability tag (map.availabilityBody eventId version)
  | _, _, _, _ => .warming

end SeatMap

end FlashTicketing
