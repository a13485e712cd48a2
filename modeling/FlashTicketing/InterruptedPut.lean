import FlashTicketing.ReservationIntake
import FlashTicketing.SeatMerge
import FlashTicketing.Transition

namespace FlashTicketing

open Relational Latest Transition

/-!
# Interrupted puts

A script that fails between two of its writes leaves the map marked as updating.
Readers and writers refuse such a map until a full `PUT` completes; the repair
recomputes the version from the entries and trusts nothing else.
-/

/-! ## Puts that complete and puts that stop -/

inductive PutAction where
  | complete (payload : Payload)
  | stopped (payload : Payload)

namespace PutAction

/-- Anything but a full `PUT` that completes. -/
def Unrepaired : PutAction → Prop
  | .complete payload => payload.mode = .patch
  | .stopped _ => True

/-- The payload of a `PUT` that stopped. -/
def interrupted : PutAction → Option Payload
  | .complete _ => none
  | .stopped payload => some payload

end PutAction

/-- One `PUT`; a refused patch completes without writing. -/
inductive PutStep
    (inventory : Finset SeatId)
    (map : SeatMap) :
    PutAction → SeatMap → Prop where
  | complete
      {payload : Payload}
      (lists : payload.Lists inventory) :
      PutStep inventory map (.complete payload)
        (map.afterPut payload.mode payload.rows)
  | stopped
      {payload : Payload}
      {writes : List HashWrite}
      {commands : Nat}
      (lists : payload.Lists inventory)
      (accepted : map.put payload.mode payload.rows = some writes)
      (short : commands < writes.length) :
      PutStep inventory map (.stopped payload)
        (map.perform (writes.take commands))

/-- For each seat of the payload the whole update or none of it. -/
structure Payload.PartOf (part payload : Payload) : Prop where
  mode : part.mode = payload.mode
  rows : part.rows.Sublist payload.rows

theorem Payload.PartOf.distinct
    {inventory : Finset SeatId}
    {part payload : Payload}
    (isPart : part.PartOf payload)
    (lists : payload.Lists inventory) :
    (part.rows.map SeatState.seatId).Nodup :=
  (isPart.rows.map SeatState.seatId).nodup lists.distinct

theorem Payload.PartOf.within
    {inventory : Finset SeatId}
    {part payload : Payload}
    (isPart : part.PartOf payload)
    (lists : payload.Lists inventory) :
    ∀ row ∈ part.rows, row.seatId ∈ inventory :=
  fun row member => lists.within row (isPart.rows.subset member)

/-- A full payload over some seats of the inventory. -/
structure Payload.Fragment
    (inventory : Finset SeatId)
    (part : Payload) : Prop where
  full : part.mode ≠ .patch
  distinct : (part.rows.map SeatState.seatId).Nodup
  within : ∀ row ∈ part.rows, row.seatId ∈ inventory

/-- What a map shows after some payloads. -/
def mergeParts
    (view : SeatId → Option SeatState)
    (parts : List Payload) : SeatId → Option SeatState :=
  parts.foldl (fun view part => SeatMap.mergeRows view part.rows) view

namespace SeatMap

variable
  {inventory : Finset SeatId}
  {map after : SeatMap}

/-- A map whose entries were written by `PUT`, for seats of the inventory. -/
structure Regular (inventory : Finset SeatId) (map : SeatMap) : Prop where
  plain : map.Plain
  within :
    ∀ {seatId}, map.seats.find? seatId ≠ none → seatId ∈ inventory

/-- A `PUT` that stops merges a part of its payload. -/
theorem stopped_part
    {payload : Payload}
    {writes : List HashWrite}
    {commands : Nat}
    (lists : payload.Lists inventory)
    (accepted : map.put payload.mode payload.rows = some writes)
    (short : commands < writes.length) :
    ∃ part,
      Payload.PartOf part payload ∧
        (map.perform (writes.take commands)).view =
          mergeRows map.view part.rows := by
  rcases Nat.eq_zero_or_pos commands with rfl | started
  · refine ⟨⟨payload.mode, []⟩, ⟨rfl, List.nil_sublist _⟩, ?_⟩
    funext seatId
    exact (merge_of_not_mem List.not_mem_nil).symm
  · obtain ⟨_, kept, seats⟩ := perform_stopped accepted started short
    rw [writtenEntries, ← List.map_take] at seats
    let rows :=
      (payload.rows.filter fun seat =>
        map.isNewer seat || map.updating).take kept
    have sublist : rows.Sublist payload.rows :=
      (List.take_sublist _ _).trans List.filter_sublist
    exact ⟨⟨payload.mode, rows⟩, ⟨rfl, sublist⟩,
      view_upsertAll ((sublist.map _).nodup lists.distinct) seats⟩

theorem Regular.afterPut
    {mode : PutMode}
    {rows : List SeatState}
    (regular : map.Regular inventory)
    (distinct : (rows.map SeatState.seatId).Nodup)
    (listed : ∀ row ∈ rows, row.seatId ∈ inventory) :
    (map.afterPut mode rows).Regular inventory := by
  rcases map.seats_afterPut mode rows with same | written
  · constructor
    · intro seatId entry found
      rw [same] at found
      exact regular.plain seatId entry found
    · intro seatId present
      rw [same] at present
      exact regular.within present
  · constructor
    · exact regular.plain.written (List.prefix_refl _) written
    · intro seatId present
      exact within_merged regular.within listed
        (view_written distinct written) present

theorem Regular.stopped
    {payload : Payload}
    {writes : List HashWrite}
    {commands : Nat}
    (regular : map.Regular inventory)
    (lists : payload.Lists inventory)
    (accepted : map.put payload.mode payload.rows = some writes)
    (short : commands < writes.length) :
    (map.perform (writes.take commands)).Regular inventory := by
  constructor
  · rcases Nat.eq_zero_or_pos commands with rfl | started
    · exact regular.plain
    · obtain ⟨_, kept, seats⟩ := perform_stopped accepted started short
      exact regular.plain.written (List.take_prefix kept _) seats
  · intro seatId present
    obtain ⟨part, isPart, merged⟩ := stopped_part lists accepted short
    exact within_merged regular.within (isPart.within lists) merged present

theorem Regular.step
    {action : PutAction}
    (regular : map.Regular inventory)
    (step : PutStep inventory map action after) :
    after.Regular inventory := by
  cases step with
  | complete lists => exact regular.afterPut lists.distinct lists.within
  | stopped lists accepted short =>
      exact regular.stopped lists accepted short

theorem regular_missing : Regular inventory {} :=
  ⟨plain_missing, fun present => absurd rfl present⟩

/-! ## While the mark is set -/

/-- Without a full `PUT` that completes the mark stays. -/
theorem marked_step
    {action : PutAction}
    (marked : map.updating = true)
    (step : PutStep inventory map action after)
    (unrepaired : action.Unrepaired) :
    after.updating = true ∧
      ∃ parts,
        List.Forall₂ Payload.PartOf parts action.interrupted.toList ∧
          (∀ part ∈ parts, part.Fragment inventory) ∧
          after.view = mergeParts map.view parts := by
  have refused : ∀ rows, map.put .patch rows = none := by
    intro rows
    rw [put, if_pos ⟨rfl, Or.inr marked⟩]
  cases step with
  | @complete payload lists =>
      rw [show payload.mode = .patch from unrepaired,
        afterPut_refused (refused _)]
      exact ⟨marked, [], .nil, nofun, rfl⟩
  | @stopped payload writes commands lists accepted short =>
      have isFull : payload.mode ≠ .patch := by
        intro isPatch
        rw [isPatch, refused] at accepted
        cases accepted
      obtain ⟨part, isPart, merged⟩ := stopped_part lists accepted short
      refine ⟨?_, [part], .cons isPart .nil, ?_, merged⟩
      · rcases Nat.eq_zero_or_pos commands with rfl | started
        · exact marked
        · exact (perform_stopped accepted started short).1
      · intro other member
        rw [List.mem_singleton.mp member]
        exact ⟨ne_of_eq_of_ne isPart.mode isFull, isPart.distinct lists,
          isPart.within lists⟩

theorem marked_run
    {actions : List PutAction}
    (marked : map.updating = true)
    (run : Run (PutStep inventory) map actions after)
    (unrepaired : ∀ action ∈ actions, action.Unrepaired) :
    after.updating = true ∧
      ∃ parts,
        List.Forall₂ Payload.PartOf parts
            (actions.filterMap PutAction.interrupted) ∧
          (∀ part ∈ parts, part.Fragment inventory) ∧
          after.view = mergeParts map.view parts := by
  induction run with
  | nil => exact ⟨marked, [], .nil, nofun, rfl⟩
  | @cons _ middle _ action actions step _ inductionHypothesis =>
      obtain ⟨stillMarked, early, areParts, fragments, merged⟩ :=
        marked_step marked step (unrepaired action List.mem_cons_self)
      obtain ⟨endMarked, late, lateParts, lateFragments, lateMerged⟩ :=
        inductionHypothesis stillMarked fun other member =>
          unrepaired other (List.mem_cons_of_mem _ member)
      refine ⟨endMarked, early ++ late, ?_, ?_, ?_⟩
      · have split :
            (action :: actions).filterMap PutAction.interrupted =
              action.interrupted.toList ++
                actions.filterMap PutAction.interrupted := by
          cases action <;> rfl
        rw [split]
        exact List.rel_append areParts lateParts
      · intro part member
        rcases List.mem_append.mp member with isEarly | isLate
        · exact fragments part isEarly
        · exact lateFragments part isLate
      · rw [lateMerged, merged, mergeParts, mergeParts, mergeParts,
          List.foldl_append]

/-- Complete full payloads merge one after another. -/
theorem view_putAll
    {parts : List Payload}
    (fragments : ∀ part ∈ parts, part.Fragment inventory) :
    (map.putAll parts).view = mergeParts map.view parts := by
  induction parts generalizing map with
  | nil => rfl
  | cons part rest inductionHypothesis =>
      have fragment := fragments part List.mem_cons_self
      obtain ⟨seats, _, _⟩ :=
        map.afterPut_accepted part.mode part.rows fun isPatch =>
          absurd isPatch fragment.full
      have later :
          ((map.afterPut part.mode part.rows).putAll rest).view =
            mergeParts (map.afterPut part.mode part.rows).view rest :=
        inductionHypothesis fun other member =>
          fragments other (List.mem_cons_of_mem _ member)
      rw [view_written fragment.distinct seats] at later
      exact later

theorem Regular.putAll
    {parts : List Payload}
    (regular : map.Regular inventory)
    (fragments : ∀ part ∈ parts, part.Fragment inventory) :
    (map.putAll parts).Regular inventory := by
  induction parts generalizing map with
  | nil => exact regular
  | cons part rest inductionHypothesis =>
      have fragment := fragments part List.mem_cons_self
      apply inductionHypothesis
      · exact regular.afterPut fragment.distinct fragment.within
      · exact fun other member =>
          fragments other (List.mem_cons_of_mem _ member)

/-! ## The repair -/

variable
  {first second : SeatMap}
  {published : Publication}
  {rows : List SeatState}

/-- A full `PUT` depends on what the map shows only. -/
theorem full_agree
    (regular : first.Regular inventory)
    (otherRegular : second.Regular inventory)
    (sameView : first.view = second.view)
    (lists : Payload.Lists inventory ⟨.full published, rows⟩) :
    (first.afterPut (.full published) rows).view =
        (second.afterPut (.full published) rows).view ∧
      (first.afterPut (.full published) rows).version =
        (second.afterPut (.full published) rows).version := by
  have agree :
      (first.afterPut (.full published) rows).view =
        (second.afterPut (.full published) rows).view := by
    rw [view_written lists.distinct (first.seats_afterPut_full published rows),
      view_written lists.distinct
        (second.seats_afterPut_full published rows), sameView]
  refine ⟨agree, ?_⟩
  have sameVersions :
      (first.afterPut (.full published) rows).sourceVersion =
        (second.afterPut (.full published) rows).sourceVersion := by
    funext seatId
    rw [sourceVersion_eq_view, sourceVersion_eq_view, agree]
  obtain ⟨_, versioned, readable⟩ :=
    first.afterPut_accepted (.full published) rows nofun
  obtain ⟨_, otherVersioned, otherReadable⟩ :=
    second.afterPut_accepted (.full published) rows nofun
  rw [versioned, otherVersioned,
    (stocks_afterPut_full regular.within lists).counted versioned readable,
    (stocks_afterPut_full otherRegular.within lists).counted otherVersioned
      otherReadable, sameVersions]

/-- The repair of a marked map stamps every entry with the new version. -/
theorem stamped_repair
    {seatId : SeatId}
    {entry : SeatEntry}
    (marked : map.updating = true)
    (regular : map.Regular inventory)
    (lists : Payload.Lists inventory ⟨.full published, rows⟩)
    (found :
      (map.afterPut (.full published) rows).seats.find? seatId =
        some entry) :
    (map.afterPut (.full published) rows).version = some entry.version := by
  have seats := map.seats_afterPut_full published rows
  have present :
      (map.afterPut (.full published) rows).seats.find? seatId ≠ none :=
    ne_of_eq_of_ne found nofun
  have listed : seatId ∈ inventory :=
    (stocks_afterPut_full regular.within lists).within present
  obtain ⟨row, member, rfl⟩ :=
    List.mem_map.mp (lists.whole nofun seatId listed)
  rw [seats, find?_written lists.distinct member, if_pos (Or.inr marked)]
    at found
  cases found
  obtain ⟨_, versioned, _⟩ :=
    map.afterPut_accepted (.full published) rows nofun
  rw [versioned]
  rcases map.selected_cases (map.putVersion (.full published) rows) row with
    ⟨_, isRow⟩ | ⟨_, _, _, _, isOld⟩
  · rw [isRow]
    rfl
  · rw [isOld]

theorem find?_repair
    (marked : map.updating = true)
    (regular : map.Regular inventory)
    (lists : Payload.Lists inventory ⟨.full published, rows⟩)
    (seatId : SeatId) :
    (map.afterPut (.full published) rows).seats.find? seatId =
      ((map.afterPut (.full published) rows).view seatId).map fun row =>
        row.entry ((map.afterPut (.full published) rows).version.getD 0) := by
  have repaired : (map.afterPut (.full published) rows).Regular inventory :=
    regular.afterPut lists.distinct lists.within
  unfold view
  cases found :
      (map.afterPut (.full published) rows).seats.find? seatId with
  | none => rfl
  | some entry =>
      rw [stamped_repair marked regular lists found]
      exact congrArg some (repaired.plain seatId entry found)

/-- A repair counts the entries that it leaves. -/
theorem version_repair
    (regular : map.Regular inventory)
    (lists : Payload.Lists inventory ⟨.full published, rows⟩) :
    (map.afterPut (.full published) rows).version =
      some (map.afterPut (.full published) rows).cachedVersions := by
  obtain ⟨_, versioned, readable⟩ :=
    map.afterPut_accepted (.full published) rows nofun
  rw [versioned, (stocks_afterPut_full regular.within lists).cachedVersions
    versioned readable]

/-- Maps that show the same are repaired alike. -/
theorem repair_agree
    (marked : first.updating = true)
    (otherMarked : second.updating = true)
    (regular : first.Regular inventory)
    (otherRegular : second.Regular inventory)
    (sameView : first.view = second.view)
    (lists : Payload.Lists inventory ⟨.full published, rows⟩)
    (seatId : SeatId) :
    (first.afterPut (.full published) rows).seats.find? seatId =
      (second.afterPut (.full published) rows).seats.find? seatId := by
  obtain ⟨agree, sameVersion⟩ :=
    full_agree regular otherRegular sameView lists
  rw [find?_repair marked regular lists,
    find?_repair otherMarked otherRegular lists, agree, sameVersion]

/-- Without the mark the stamps may differ. -/
theorem full_unstamped
    (regular : first.Regular inventory)
    (otherRegular : second.Regular inventory)
    (sameView : first.view = second.view)
    (lists : Payload.Lists inventory ⟨.full published, rows⟩)
    (seatId : SeatId) :
    ((first.afterPut (.full published) rows).seats.find? seatId).map
        SeatEntry.unstamped =
      ((second.afterPut (.full published) rows).seats.find? seatId).map
        SeatEntry.unstamped := by
  have put : (first.afterPut (.full published) rows).Regular inventory :=
    regular.afterPut lists.distinct lists.within
  have otherPut :
      (second.afterPut (.full published) rows).Regular inventory :=
    otherRegular.afterPut lists.distinct lists.within
  rw [put.plain.unstamped, otherPut.plain.unstamped,
    (full_agree regular otherRegular sameView lists).1]

/-! ## Who refuses a marked map -/

theorem read_marked
    (marked : map.updating = true)
    (eventId : Uuid) :
    map.read eventId = none := by
  unfold SeatMap.read
  split
  · rename_i readable
    rw [marked] at readable
    cases readable
  · rfl

theorem browse_marked
    (marked : map.updating = true)
    (eventId : Uuid)
    (kind : Representation)
    (candidates : List Validator) :
    map.browse eventId kind candidates = .warming := by
  unfold SeatMap.browse
  split
  · rename_i readable _
    rw [marked] at readable
    cases readable
  · rfl

/-- A map after a complete full `PUT` can be read and browsed. -/
theorem readable_repair
    (map : SeatMap)
    (published : Publication)
    (rows : List SeatState) :
    (∀ eventId,
      (map.afterPut (.full published) rows).read eventId ≠ none) ∧
    ∀ eventId kind candidates,
      (map.afterPut (.full published) rows).browse eventId kind
        candidates ≠ .warming := by
  obtain ⟨incarnation, isIncarnation⟩ :
      ∃ incarnation,
        map.incarnation.or (some published.incarnation) =
          some incarnation := by
    cases map.incarnation with
    | none => exact ⟨_, rfl⟩
    | some incarnation => exact ⟨incarnation, rfl⟩
  rw [SeatMap.afterPut_full, isIncarnation]
  constructor
  · intro eventId
    nofun
  · intro eventId kind candidates
    unfold SeatMap.browse
    cases kind with
    | layout =>
        dsimp only
        split
        · nofun
        · nofun
    | availability =>
        dsimp only
        split
        · nofun
        · nofun

end SeatMap

theorem RedisReservationIntake.enqueue_marked
    {Hash : Type}
    [DecidableEq Hash]
    (intake : RedisReservationIntake Hash)
    (command : NewCommand)
    (now : Int)
    (redis : Redis Hash)
    (marked : (redis.maps command.eventId).updating = true) :
    intake.enqueue command now redis =
      (.refused .seatmapWarming, redis) := by
  unfold enqueue
  dsimp only
  split
  · rename_i readable _
    rw [marked] at readable
    cases readable
  · rfl

/--
After a `PUT` that stopped between two of its commands the map is refused by
everyone until a full `PUT` completes.  That one leaves the seats and version
which it would leave had the interrupted payloads been applied in part, with
every seat updated wholly or not at all.
-/
theorem interrupted_put_repaired
    (Hash : Type)
    [DecidableEq Hash]
    {inventory : Finset SeatId}
    {map torn : SeatMap}
    {early later : List PutAction}
    {payload : Payload}
    {writes : List HashWrite}
    {commands : Nat}
    (reached : Run (PutStep inventory) {} early map)
    (lists : payload.Lists inventory)
    (accepted : map.put payload.mode payload.rows = some writes)
    (started : 0 < commands)
    (short : commands < writes.length)
    (run :
      Run (PutStep inventory) (map.perform (writes.take commands)) later
        torn)
    (unrepaired : ∀ action ∈ later, action.Unrepaired) :
    (∀ eventId, torn.read eventId = none) ∧
    (∀ eventId kind candidates,
      torn.browse eventId kind candidates = .warming) ∧
    (∀ rows, torn.put .patch rows = none) ∧
    (∀ (intake : RedisReservationIntake Hash) command now redis,
      redis.maps command.eventId = torn →
      intake.enqueue command now redis =
        (.refused .seatmapWarming, redis)) ∧
    ∀ published rows repaired,
      Payload.Lists inventory ⟨.full published, rows⟩ →
      repaired = torn.afterPut (.full published) rows →
      (∀ eventId, repaired.read eventId ≠ none) ∧
      (∀ eventId kind candidates,
        repaired.browse eventId kind candidates ≠ .warming) ∧
      repaired.version = some repaired.cachedVersions ∧
      ∃ part parts applied,
        Payload.PartOf part payload ∧
        List.Forall₂ Payload.PartOf parts
          (later.filterMap PutAction.interrupted) ∧
        applied = map.putAll (part :: parts) ∧
        -- The mark is still set when the repair begins.
        (∀ seatId,
          repaired.seats.find? seatId =
            (SeatMap.afterPut { applied with updating := true }
              (.full published) rows).seats.find? seatId) ∧
        repaired.version =
          (SeatMap.afterPut { applied with updating := true }
            (.full published) rows).version ∧
        -- Without the mark only the stamps differ.
        (∀ seatId,
          (repaired.seats.find? seatId).map SeatEntry.unstamped =
            ((applied.afterPut (.full published) rows).seats.find?
              seatId).map SeatEntry.unstamped) ∧
        repaired.version =
          (applied.afterPut (.full published) rows).version := by
  have regular : map.Regular inventory :=
    reached.invariant SeatMap.regular_missing fun holds step =>
      holds.step step
  have stopped :
      (map.perform (writes.take commands)).Regular inventory :=
    regular.stopped lists accepted short
  have tornRegular : torn.Regular inventory :=
    run.invariant stopped fun holds step => holds.step step
  obtain ⟨marked, parts, areParts, fragments, tornView⟩ :=
    SeatMap.marked_run
      (SeatMap.perform_stopped accepted started short).1 run unrepaired
  refine ⟨SeatMap.read_marked marked, SeatMap.browse_marked marked, ?_, ?_,
    ?_⟩
  · intro rows
    rw [SeatMap.put, if_pos ⟨rfl, Or.inr marked⟩]
  · intro intake command now redis isTorn
    exact intake.enqueue_marked command now redis (isTorn ▸ marked)
  · intro published rows repaired repairLists isRepaired
    obtain ⟨part, isPart, stoppedView⟩ :=
      SeatMap.stopped_part lists accepted short
    obtain ⟨partSeats, _, _⟩ :=
      map.afterPut_accepted part.mode part.rows fun isPatch =>
        (SeatMap.put_eq_some accepted).2 (isPart.mode.symm.trans isPatch)
    have applied : (map.putAll (part :: parts)).Regular inventory :=
      (regular.afterPut (isPart.distinct lists)
        (isPart.within lists)).putAll fragments
    have sameView : torn.view = (map.putAll (part :: parts)).view := by
      rw [tornView, stoppedView,
        ← SeatMap.view_written (isPart.distinct lists) partSeats]
      exact (SeatMap.view_putAll fragments).symm
    have marking :
        SeatMap.Regular inventory
          { map.putAll (part :: parts) with updating := true } :=
      ⟨applied.plain, applied.within⟩
    obtain ⟨readable, browsable⟩ := torn.readable_repair published rows
    subst isRepaired
    refine ⟨readable, browsable,
      SeatMap.version_repair tornRegular repairLists, part, parts, _, isPart,
      areParts, rfl, ?_, ?_, ?_, ?_⟩
    · exact SeatMap.repair_agree marked rfl tornRegular marking sameView
        repairLists
    · exact (SeatMap.full_agree tornRegular marking sameView repairLists).2
    · exact SeatMap.full_unstamped tornRegular applied sameView repairLists
    · exact (SeatMap.full_agree tornRegular applied sameView repairLists).2

/-! ## One seat of two -/

def patchBoth : Payload := ⟨.patch, [smallSeat "A1" 1, smallSeat "A2" 1]⟩

theorem patchBoth_lists : patchBoth.Lists {"A1", "A2"} :=
  ⟨by decide, by decide, fun isFull => absurd rfl isFull⟩

def twoSeats : SeatMap := SeatMap.putAll {} [createTwo]

/-- The writes of a patch of both seats. -/
def patchBothWrites : List HashWrite :=
  [.setUpdating, .setSeat ((smallSeat "A1" 1).entry 2),
    .setSeat ((smallSeat "A2" 1).entry 2), .setVersion 2, .deleteUpdating]

/-- The patch has written the first seat only. -/
def tornSeats : SeatMap := twoSeats.perform (patchBothWrites.take 2)

/-- A late full `PUT` of the old rows repairs the map and keeps the new row. -/
theorem interrupted_put_repaired_twoSeats :
    tornSeats.read 1 = none ∧
      (tornSeats.afterPut createTwo.mode createTwo.rows).version = some 1 ∧
      (tornSeats.afterPut createTwo.mode createTwo.rows).read 1 ≠ none := by
  have created : createTwo.Lists {"A1", "A2"} :=
    twoPatches_list createTwo List.mem_cons_self
  have reached :
      Run (PutStep {"A1", "A2"}) {} [.complete createTwo] twoSeats :=
    .cons (.complete created) (.nil _)
  have repaired :=
    interrupted_put_repaired Nat reached patchBoth_lists
      (show twoSeats.put patchBoth.mode patchBoth.rows =
        some patchBothWrites from rfl)
      (show 0 < 2 by decide) (by decide) (.nil tornSeats) nofun
  have readable :=
    repaired.2.2.2.2 smallPublication createTwo.rows _ created rfl
  exact ⟨repaired.1 1, rfl, readable.1 1⟩

end FlashTicketing
