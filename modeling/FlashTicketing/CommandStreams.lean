import FlashTicketing.ConsumerGroup
import FlashTicketing.Simulation
import FlashTicketing.RedisFirstEffects

namespace FlashTicketing

open Relational Checked Transition ConsumerGroup

/-!
# Streams of commands and their group

`messages` creates the group of every stream, claims deliveries that were
abandoned for thirty seconds, and reads new entries only when there are none.
The system with the group's own state refines the one in which a writer may
receive any entry that is not acknowledged, and no entry is ever out of reach.
-/

variable {Hash : Type}

/-- `reclaim_idle_ms`. -/
def reclaimIdleMs : Int := 30000

/-- The message identifiers in a stream. -/
def Stream.ids (stream : Stream Hash) : List Nat :=
  stream.entries.map StreamEntry.messageId

/-- The entries with the given identifiers. -/
def Stream.entriesOf
    (stream : Stream Hash)
    (ids : List Nat) : List (StreamEntry Hash) :=
  ids.filterMap fun id =>
    stream.entries.find? fun entry => decide (entry.messageId = id)

/-! ## State -/

/-- The Redis-first system with the groups of its streams. -/
structure GroupedWorld (Hash : Type) where
  world : World Hash
  groups : Uuid → Option Group := fun _ => none

inductive GroupedAction (Hash : Type) where
  | other (action : Action Hash)
  | ensureGroup (stream : Uuid)
  | claim
      (stream : Uuid)
      (count : Nat)
      (now : Int)
      (received : List (Nat × StreamEntry Hash))
  | read
      (stream : Uuid)
      (count : Nat)
      (now : Int)
      (received : List (Nat × StreamEntry Hash))

/-- The deliveries by which entries reach their writers. -/
def deliveries
    (stream : Uuid)
    (received : List (Nat × StreamEntry Hash)) : List (Action Hash) :=
  received.map fun delivery => .deliver delivery.1 stream delivery.2

/-- The steps of the system for which an action stands. -/
def GroupedAction.actions : GroupedAction Hash → List (Action Hash)
  | .other action => [action]
  | .ensureGroup _ => []
  | .claim stream _ _ received => deliveries stream received
  | .read stream _ _ received => deliveries stream received

/-- Writers take the entries that were received. -/
def World.receive
    (world : World Hash)
    (stream : Uuid) : List (Nat × StreamEntry Hash) → World Hash
  | [] => world
  | (slot, entry) :: rest =>
      (world.setWriter slot
        (some { stream := stream, entry := entry })).receive stream rest

namespace GroupedWorld

variable (world : GroupedWorld Hash)

/-- The group of a stream; one that is created starts before every entry. -/
def groupOf (stream : Uuid) : Group :=
  (world.groups stream).getD {}

def setGroup (stream : Uuid) (group : Group) : GroupedWorld Hash :=
  { world with
    groups := Function.update world.groups stream (some group) }

/-- `XACK` of the entry that the writer in the slot has. -/
def afterAcknowledge (slot : Nat) : Uuid → Option Group :=
  match world.world.writers slot with
  | some writer =>
      Function.update world.groups writer.stream
        ((world.groups writer.stream).map
          (·.acknowledge writer.entry.messageId))
  | none => world.groups

/-- The groups after a step of the system. -/
def groupsAfter : Action Hash → Uuid → Option Group
  | .acknowledge slot => world.afterAcknowledge slot
  | _ => world.groups

/-- Entries come to distinct writers that have nothing. -/
structure Receives
    (stream : Uuid)
    (ids : List Nat)
    (received : List (Nat × StreamEntry Hash)) : Prop where
  entries :
    received.map Prod.snd =
      (world.world.redis.streams stream).entriesOf ids
  distinct : (received.map Prod.fst).Nodup
  idle : ∀ delivery ∈ received, world.world.writers delivery.1 = none

end GroupedWorld

/-! ## Steps -/

/-- One command of `messages`, or a step of the rest of the system. -/
inductive GroupedWorld.Step
    [DecidableEq Hash]
    (self : PostgresReservations Hash)
    (intake : RedisReservationIntake Hash)
    (world : GroupedWorld Hash) :
    GroupedAction Hash → GroupedWorld Hash → Prop where
  | other
      {action : Action Hash}
      {after : World Hash}
      (step : world.world.Step self intake action after)
      (undelivered :
        ∀ slot stream entry, action ≠ .deliver slot stream entry) :
      Step self intake world (.other action)
        { world := after, groups := world.groupsAfter action }
  -- `XGROUP CREATE ... 0 MKSTREAM`; `BUSYGROUP` is ignored.
  | ensureGroup
      {stream : Uuid} :
      Step self intake world (.ensureGroup stream)
        (world.setGroup stream (world.groupOf stream))
  -- `XAUTOCLAIM ... 0-0`; a group that does not exist is an error.
  | claim
      {stream : Uuid}
      {count : Nat}
      {now : Int}
      {group : Group}
      {received : List (Nat × StreamEntry Hash)}
      (created : world.groups stream = some group)
      (receives :
        world.Receives stream
          (group.claim (world.world.redis.streams stream).ids count
            reclaimIdleMs now).1
          received) :
      Step self intake world (.claim stream count now received)
        ({ world with
          world := world.world.receive stream received }.setGroup stream
            (group.claim (world.world.redis.streams stream).ids count
              reclaimIdleMs now).2)
  -- `XREADGROUP ... >`
  | read
      {stream : Uuid}
      {count : Nat}
      {now : Int}
      {group : Group}
      {received : List (Nat × StreamEntry Hash)}
      (created : world.groups stream = some group)
      (receives :
        world.Receives stream
          (group.read (world.world.redis.streams stream).ids count now).1
          received) :
      Step self intake world (.read stream count now received)
        ({ world with
          world := world.world.receive stream received }.setGroup stream
            (group.read (world.world.redis.streams stream).ids count now).2)

/-! ## What a step does to streams and writers -/

/-- How a step of the system changes the streams. -/
inductive World.StreamMove
    (world : World Hash)
    (action : Action Hash)
    (after : World Hash) : Prop where
  | same
      (quiet : ∀ slot, action ≠ .acknowledge slot)
      (streams : after.redis.streams = world.redis.streams)
  | added
      (eventId : Uuid)
      (entry : Nat → StreamEntry Hash)
      (quiet : ∀ slot, action ≠ .acknowledge slot)
      (numbered : ∀ messageId, (entry messageId).messageId = messageId)
      (streams :
        after.redis.streams =
          Function.update world.redis.streams eventId
            ((world.redis.streams eventId).add entry))
  | acknowledged
      (slot : Nat)
      (writer : Writer Hash)
      (isAction : action = .acknowledge slot)
      (working : world.writers slot = some writer)
      (streams :
        after.redis.streams =
          Function.update world.redis.streams writer.stream
            ((world.redis.streams writer.stream).ack
              writer.entry.messageId))
  | deleted
      (slot : Nat)
      (writer : Writer Hash)
      (quiet : ∀ slot, action ≠ .acknowledge slot)
      (working : world.writers slot = some writer)
      (stage : writer.stage = .deleting)
      (streams :
        after.redis.streams =
          Function.update world.redis.streams writer.stream
            ((world.redis.streams writer.stream).delete
              writer.entry.messageId))

section Moves

variable
  [DecidableEq Hash]
  {self : PostgresReservations Hash}
  {intake : RedisReservationIntake Hash}
  {world after : World Hash}
  {action : Action Hash}

theorem World.Step.streamMove
    (step : world.Step self intake action after) :
    world.StreamMove action after := by
  cases step with
  | @enqueue command now unissued =>
      rcases intake.enqueue_cases command now world.redis with
        ⟨refused, _⟩ | ⟨sale, version, selected, _, isAccepted⟩
      · exact .same (by simp) (by rw [refused])
      · rw [isAccepted]
        exact .added command.eventId _ (by simp) (fun _ => rfl) rfl
  | markFailed =>
      exact .same (by simp) (Redis.streams_markFailed _ _ _ _ _)
  | markedDurable _ _ marked =>
      exact .same (by simp) (Redis.streams_markDurable marked)
  | notMarkedDurable _ _ _ marked =>
      exact .same (by simp) (Redis.streams_markDurable marked)
  | @acknowledge slot writer working stage =>
      exact .acknowledged slot writer rfl working rfl
  | @delete slot writer working stage =>
      exact .deleted slot writer (by simp) working stage rfl
  | transact | deliver | persisted | rejected | raised | readSnapshot
  | putSnapshot | crash | project | putProjection | abandon =>
      exact .same (by simp) rfl

/-- A writer that was not just given its entry had it before. -/
theorem World.Step.writer_before
    {slot : Nat}
    {next : Writer Hash}
    (step : world.Step self intake action after)
    (undelivered :
      ∀ slot stream entry, action ≠ .deliver slot stream entry)
    (working : after.writers slot = some next) :
    ∃ writer,
      world.writers slot = some writer ∧
        next.stream = writer.stream ∧
        next.entry = writer.entry ∧
        (next.stage = .deleting →
          writer.stage = .deleting ∨ action = .acknowledge slot) := by
  cases step with
  | deliver => exact absurd rfl (undelivered _ _ _)
  | persisted was | rejected was | markFailed was | readSnapshot was
  | putSnapshot was | markedDurable was =>
      rcases World.writers_advance working with ⟨isSlot, isNext⟩ | old
      · subst isSlot
        refine ⟨_, was, ?_⟩
        rw [← isNext]
        exact ⟨rfl, rfl, fun deleting => by cases deleting⟩
      · exact ⟨next, old, rfl, rfl, Or.inl⟩
  | acknowledge was =>
      rcases World.writers_advance working with ⟨isSlot, isNext⟩ | old
      · subst isSlot
        refine ⟨_, was, ?_⟩
        rw [← isNext]
        exact ⟨rfl, rfl, fun _ => Or.inr rfl⟩
      · exact ⟨next, old, rfl, rfl, Or.inl⟩
  | raised | notMarkedDurable | delete | crash =>
      rcases World.writers_setWriter working with ⟨_, gone⟩ | old
      · cases gone
      · exact ⟨next, old, rfl, rfl, Or.inl⟩
  | transact | enqueue | project | putProjection | abandon =>
      exact ⟨next, working, rfl, rfl, Or.inl⟩

end Moves

/-! ## Accounts of every stream -/

namespace Stream

variable {stream : Stream Hash}

theorem ids_add
    {entry : Nat → StreamEntry Hash}
    (numbered : ∀ messageId, (entry messageId).messageId = messageId) :
    (stream.add entry).ids = stream.ids ++ [stream.lastId + 1] := by
  simp [ids, add, numbered]

theorem ids_delete (messageId : Nat) :
    (stream.delete messageId).ids =
      stream.ids.filter fun id => decide (id ≠ messageId) := by
  simp only [ids, delete, List.filter_map, Function.comp_def]

theorem mem_entriesOf
    {ids : List Nat}
    {entry : StreamEntry Hash}
    (member : entry ∈ stream.entriesOf ids) :
    entry ∈ stream.entries ∧ entry.messageId ∈ ids := by
  obtain ⟨id, isId, found⟩ := List.mem_filterMap.mp member
  have sameId : entry.messageId = id := by
    simpa using List.find?_some found
  exact ⟨List.mem_of_find?_eq_some found, sameId ▸ isId⟩

/-- Every identifier in the stream has its entry. -/
theorem map_entriesOf
    {ids : List Nat}
    (listed : ∀ id ∈ ids, id ∈ stream.ids) :
    (stream.entriesOf ids).map StreamEntry.messageId = ids := by
  induction ids with
  | nil => rfl
  | cons id rest inductionHypothesis =>
      obtain ⟨entry, isEntry, isId⟩ :=
        List.mem_map.mp (listed id List.mem_cons_self)
      cases found : stream.entries.find? fun entry =>
          decide (entry.messageId = id) with
      | none =>
          have absent := List.find?_eq_none.mp found entry isEntry
          simp [isId] at absent
      | some first =>
          have isFirst : first.messageId = id := by
            simpa using List.find?_some found
          have restSame := inductionHypothesis fun other member =>
            listed other (List.mem_cons_of_mem _ member)
          simp only [entriesOf] at restSame ⊢
          rw [List.filterMap_cons, found]
          simp only [List.map_cons, isFirst, restSame]

end Stream

namespace GroupedWorld

variable {world : GroupedWorld Hash}

theorem groupOf_setGroup
    (stream other : Uuid)
    (group : Group) :
    (world.setGroup stream group).groupOf other =
      if other = stream then group else world.groupOf other := by
  simp only [setGroup, groupOf, Function.update_apply]
  split <;> rfl

theorem groupOf_setGroup_self (stream : Uuid) (group : Group) :
    (world.setGroup stream group).groupOf stream = group := by
  rw [groupOf_setGroup, if_pos rfl]

theorem groupOf_of_created
    {stream : Uuid}
    {group : Group}
    (created : world.groups stream = some group) :
    world.groupOf stream = group := by
  rw [groupOf, created, Option.getD_some]

/-- The stream and its group account for every entry. -/
def AccountsAt (world : GroupedWorld Hash) (stream : Uuid) : Prop :=
  Accounts (world.world.redis.streams stream).ids
    (world.world.redis.streams stream).lastId
    (world.world.redis.streams stream).acknowledged
    (world.groupOf stream)

/-- Writers have what was handed out, and delete what was acknowledged. -/
structure GroupSound (world : GroupedWorld Hash) : Prop where
  accounts : ∀ stream, world.AccountsAt stream
  taken :
    ∀ {slot writer},
      world.world.writers slot = some writer →
      writer.entry.messageId ≤ (world.groupOf writer.stream).lastDelivered
  deleting :
    ∀ {slot writer},
      world.world.writers slot = some writer →
      writer.stage = .deleting →
      writer.entry.messageId ∈
        (world.world.redis.streams writer.stream).acknowledged

/-- An initial system whose streams have no group. -/
structure Initial (world : GroupedWorld Hash) : Prop where
  system : world.world.Initial
  groups : world.groups = fun _ => none

theorem Initial.sound (initial : world.Initial) : world.GroupSound := by
  have writers (slot : Nat) : world.world.writers slot = none := by
    rw [initial.system.idle]
  refine ⟨fun stream => ?_, fun {slot _} working => ?_,
    fun {slot _} working => ?_⟩
  · rw [AccountsAt, groupOf, initial.groups, initial.system.redis]
    exact Accounts.empty
  · rw [writers slot] at working
    cases working
  · rw [writers slot] at working
    cases working

/-! ## Steps keep the accounts -/

section Steps

variable
  [DecidableEq Hash]
  {self : PostgresReservations Hash}
  {intake : RedisReservationIntake Hash}

/-- The system after one of its own steps. -/
def after
    (world : GroupedWorld Hash)
    (action : Action Hash)
    (next : World Hash) : GroupedWorld Hash where
  world := next
  groups := world.groupsAfter action

omit [DecidableEq Hash] in
theorem groupsAfter_quiet
    {action : Action Hash}
    (quiet : ∀ slot, action ≠ .acknowledge slot) :
    world.groupsAfter action = world.groups := by
  cases action with
  | acknowledge slot => exact absurd rfl (quiet slot)
  | _ => rfl

omit [DecidableEq Hash] in
theorem groupOf_acknowledged
    {slot : Nat}
    {writer : Writer Hash}
    {next : World Hash}
    (working : world.world.writers slot = some writer)
    (stream : Uuid) :
    (world.after (.acknowledge slot) next).groupOf stream =
      if stream = writer.stream
      then (world.groupOf stream).acknowledge writer.entry.messageId
      else world.groupOf stream := by
  simp only [after, groupOf, groupsAfter, afterAcknowledge, working,
    Function.update_apply]
  split
  · rename_i same
    subst same
    cases world.groups writer.stream <;> rfl
  · rfl

omit [DecidableEq Hash] in
theorem groupOf_quiet
    {action : Action Hash}
    {next : World Hash}
    (quiet : ∀ slot, action ≠ .acknowledge slot)
    (stream : Uuid) :
    (world.after action next).groupOf stream = world.groupOf stream := by
  rw [after, groupOf, groupOf, groupsAfter_quiet quiet]

omit [DecidableEq Hash] in
/-- The system's own steps hand nothing out. -/
theorem lastDelivered_after
    {action : Action Hash}
    {next : World Hash}
    (move : world.world.StreamMove action next)
    (stream : Uuid) :
    ((world.after action next).groupOf stream).lastDelivered =
      (world.groupOf stream).lastDelivered := by
  cases move with
  | same quiet | added _ _ quiet | deleted _ _ quiet =>
      rw [groupOf_quiet quiet]
  | acknowledged slot writer isAction working =>
      subst isAction
      rw [groupOf_acknowledged working]
      split <;> rfl

omit [DecidableEq Hash] in
theorem acknowledged_after
    {action : Action Hash}
    {next : World Hash}
    {stream : Uuid}
    {messageId : Nat}
    (move : world.world.StreamMove action next)
    (isAcknowledged :
      messageId ∈ (world.world.redis.streams stream).acknowledged) :
    messageId ∈ (next.redis.streams stream).acknowledged := by
  cases move with
  | same _ streams => rwa [streams]
  | added eventId _ _ _ streams =>
      rw [streams, Function.update_apply]
      split
      · rename_i same
        exact same ▸ isAcknowledged
      · exact isAcknowledged
  | acknowledged _ writer _ _ streams =>
      rw [streams, Function.update_apply]
      split
      · rename_i same
        exact List.mem_cons_of_mem _ (same ▸ isAcknowledged)
      · exact isAcknowledged
  | deleted _ writer _ _ _ streams =>
      rw [streams, Function.update_apply]
      split
      · rename_i same
        exact same ▸ isAcknowledged
      · exact isAcknowledged

omit [DecidableEq Hash] in
theorem GroupSound.accounts_after
    {action : Action Hash}
    {next : World Hash}
    (sound : world.GroupSound)
    (move : world.world.StreamMove action next)
    (stream : Uuid) :
    (world.after action next).AccountsAt stream := by
  have accounts := sound.accounts stream
  rw [AccountsAt] at accounts ⊢
  cases move with
  | same quiet streams =>
      rw [groupOf_quiet quiet, after, streams]
      exact accounts
  | added eventId entry quiet numbered streams =>
      rw [groupOf_quiet quiet, after, streams, Function.update_apply]
      split
      · rename_i same
        subst same
        rw [Stream.ids_add numbered]
        exact accounts.append
      · exact accounts
  | acknowledged slot writer isAction working streams =>
      subst isAction
      rw [groupOf_acknowledged working, after, streams,
        Function.update_apply]
      split
      · rename_i same
        subst same
        exact accounts.acknowledge (sound.taken working)
      · exact accounts
  | deleted slot writer quiet working stage streams =>
      rw [groupOf_quiet quiet, after, streams, Function.update_apply]
      split
      · rename_i same
        subst same
        rw [Stream.ids_delete]
        exact accounts.delete (sound.deleting working stage)
      · exact accounts

theorem GroupSound.other
    {action : Action Hash}
    {next : World Hash}
    (sound : world.GroupSound)
    (step : world.world.Step self intake action next)
    (undelivered :
      ∀ slot stream entry, action ≠ .deliver slot stream entry) :
    (world.after action next).GroupSound := by
  have move := step.streamMove
  refine ⟨sound.accounts_after move, fun {slot writer} working => ?_,
    fun {slot writer} working stage => ?_⟩
  · obtain ⟨earlier, was, sameStream, sameEntry, _⟩ :=
      step.writer_before undelivered working
    rw [lastDelivered_after move, sameStream, sameEntry]
    exact sound.taken was
  · obtain ⟨earlier, was, sameStream, sameEntry, deletes⟩ :=
      step.writer_before undelivered working
    rw [sameStream, sameEntry]
    rcases deletes stage with before | isAction
    · exact acknowledged_after move (sound.deleting was before)
    · subst isAction
      cases move with
      | same quiet | added _ _ quiet | deleted _ _ quiet =>
          exact absurd rfl (quiet slot)
      | acknowledged other acker sameAction acking streams =>
          cases sameAction
          cases was.symm.trans acking
          simp only [after, streams, Function.update_self]
          exact List.mem_cons_self

/-! ### What writers receive -/

omit [DecidableEq Hash] in
theorem redis_receive
    (system : World Hash)
    (stream : Uuid)
    (received : List (Nat × StreamEntry Hash)) :
    (system.receive stream received).redis = system.redis := by
  induction received generalizing system with
  | nil => rfl
  | cons delivery rest inductionHypothesis =>
      exact inductionHypothesis _

omit [DecidableEq Hash] in
/-- A writer has what it had, or what it received. -/
theorem writers_receive
    {system : World Hash}
    {stream : Uuid}
    {received : List (Nat × StreamEntry Hash)}
    {slot : Nat}
    {writer : Writer Hash}
    (working : (system.receive stream received).writers slot = some writer) :
    system.writers slot = some writer ∨
      ∃ entry ∈ received.map Prod.snd,
        writer = { stream := stream, entry := entry } := by
  induction received generalizing system with
  | nil => exact Or.inl working
  | cons delivery rest inductionHypothesis =>
      rcases inductionHypothesis working with before | ⟨entry, later, isNew⟩
      · rcases World.writers_setWriter before with ⟨_, isNew⟩ | old
        · cases isNew
          exact Or.inr ⟨delivery.2, List.mem_cons_self, rfl⟩
        · exact Or.inl old
      · exact Or.inr ⟨entry, List.mem_cons_of_mem _ later, isNew⟩

/-- Receiving entries is a run of deliveries. -/
theorem run_receive
    {system : World Hash}
    {stream : Uuid}
    {received : List (Nat × StreamEntry Hash)}
    (distinct : (received.map Prod.fst).Nodup)
    (idle : ∀ delivery ∈ received, system.writers delivery.1 = none)
    (outstanding :
      ∀ entry ∈ received.map Prod.snd,
        entry ∈ (system.redis.streams stream).entries ∧
          entry.messageId ∉ (system.redis.streams stream).acknowledged) :
    Run (World.Step self intake) system (deliveries stream received)
      (system.receive stream received) := by
  induction received generalizing system with
  | nil => exact .nil system
  | cons delivery rest inductionHypothesis =>
      obtain ⟨fresh, restDistinct⟩ := List.nodup_cons.mp distinct
      obtain ⟨listed, pending⟩ := outstanding delivery.2 List.mem_cons_self
      refine .cons
        (.deliver (idle delivery List.mem_cons_self) listed pending)
        (inductionHypothesis restDistinct ?_ ?_)
      · intro other member
        have otherSlot : other.1 ≠ delivery.1 := by
          intro same
          exact fresh (same ▸ List.mem_map_of_mem member)
        simp only [World.setWriter, Function.update_of_ne otherSlot]
        exact idle other (List.mem_cons_of_mem _ member)
      · intro entry member
        exact outstanding entry (List.mem_cons_of_mem _ member)

omit [DecidableEq Hash] in
/-- Where what is received is outstanding, every writer may have it. -/
theorem GroupSound.receive
    {stream : Uuid}
    {group : Group}
    {received : List (Nat × StreamEntry Hash)}
    (sound : world.GroupSound)
    (accounts :
      Accounts (world.world.redis.streams stream).ids
        (world.world.redis.streams stream).lastId
        (world.world.redis.streams stream).acknowledged group)
    (grows :
      (world.groupOf stream).lastDelivered ≤ group.lastDelivered)
    (handedOut :
      ∀ entry ∈ received.map Prod.snd,
        entry.messageId ≤ group.lastDelivered) :
    ({ world with
      world := world.world.receive stream received }.setGroup stream
        group).GroupSound := by
  have redis : (world.world.receive stream received).redis =
      world.world.redis := redis_receive _ _ _
  refine ⟨fun other => ?_, fun {slot writer} working => ?_,
    fun {slot writer} working stage => ?_⟩
  · rw [AccountsAt, groupOf_setGroup]
    simp only [setGroup, redis]
    split
    · rename_i same
      subst same
      exact accounts
    · exact sound.accounts other
  · rw [groupOf_setGroup]
    rcases writers_receive working with old | ⟨entry, member, isNew⟩
    · split
      · rename_i same
        exact Nat.le_trans (sound.taken old) (same ▸ grows)
      · exact sound.taken old
    · subst isNew
      rw [if_pos rfl]
      exact handedOut entry member
  · rcases writers_receive working with old | ⟨entry, _, isNew⟩
    · simp only [setGroup, redis]
      exact sound.deleting old stage
    · subst isNew
      cases stage

omit [DecidableEq Hash] in
/-- What a claim or a read returns is outstanding. -/
theorem Receives.outstanding
    {stream : Uuid}
    {ids : List Nat}
    {received : List (Nat × StreamEntry Hash)}
    (receives : world.Receives stream ids received)
    (pending :
      ∀ id ∈ ids,
        id ∉ (world.world.redis.streams stream).acknowledged) :
    ∀ entry ∈ received.map Prod.snd,
      entry ∈ (world.world.redis.streams stream).entries ∧
        entry.messageId ∉
          (world.world.redis.streams stream).acknowledged := by
  intro entry member
  rw [receives.entries] at member
  obtain ⟨listed, isId⟩ := Stream.mem_entriesOf member
  exact ⟨listed, pending _ isId⟩

/-- A step keeps the accounts, and is a run of the system below. -/
theorem Step.spec
    {next : GroupedWorld Hash}
    {label : GroupedAction Hash}
    (sound : world.GroupSound)
    (step : world.Step self intake label next) :
    next.GroupSound ∧
      Run (World.Step self intake) world.world label.actions next.world := by
  cases step with
  | other taken undelivered =>
      exact ⟨sound.other taken undelivered, .single taken⟩
  | @ensureGroup stream =>
      have nothing :
          ∀ entry ∈ ([] : List (Nat × StreamEntry Hash)).map Prod.snd,
            entry.messageId ≤ (world.groupOf stream).lastDelivered := by
        simp
      exact ⟨sound.receive (sound.accounts stream) (Nat.le_refl _) nothing,
        .nil world.world⟩
  | @claim stream count now group received created receives =>
      have accounts := sound.accounts stream
      rw [AccountsAt, groupOf_of_created created] at accounts
      refine ⟨sound.receive (accounts.claim count reclaimIdleMs now) ?_ ?_,
        run_receive receives.distinct receives.idle
          (receives.outstanding fun id member =>
            (accounts.mem_claim member).2.1)⟩
      · rw [groupOf_of_created created]
        exact Nat.le_refl _
      · intro entry member
        rw [receives.entries] at member
        exact (accounts.mem_claim (Stream.mem_entriesOf member).2).2.2
  | @read stream count now group received created receives =>
      have accounts := sound.accounts stream
      rw [AccountsAt, groupOf_of_created created] at accounts
      refine ⟨sound.receive (accounts.read count now) ?_ ?_,
        run_receive receives.distinct receives.idle
          (receives.outstanding fun id member isAcknowledged => ?_)⟩
      · rw [groupOf_of_created created]
        exact (accounts.lastDelivered_le_read count now).1
      · intro entry member
        rw [receives.entries] at member
        exact accounts.le_lastDelivered (Stream.mem_entriesOf member).2
      · exact absurd (Accounts.mem_next member).2 (Nat.not_lt.mpr
          (accounts.acknowledgedBefore id isAcknowledged))

/-- The groups only decide which deliveries happen. -/
theorem simulates :
    Simulates (GroupedWorld.Step self intake) (World.Step self intake)
      GroupSound GroupedWorld.world
      (fun label actions => actions = label.actions) where
  kept := fun sound step => (Step.spec sound step).1
  simulated := fun sound step => ⟨_, rfl, (Step.spec sound step).2⟩

theorem GroupSound.run
    {before next : GroupedWorld Hash}
    {labels : List (GroupedAction Hash)}
    (initial : before.Initial)
    (run : Run (GroupedWorld.Step self intake) before labels next) :
    next.GroupSound :=
  run.invariant initial.sound fun sound step => (Step.spec sound step).1

/--
Claims and reads only decide which deliveries happen, and in every stream the
entries that are not acknowledged are those that the group has pending and
those it has not handed out.
-/
theorem groups_refine_delivery
    {before next : GroupedWorld Hash}
    {labels : List (GroupedAction Hash)}
    (initial : before.Initial)
    (run : Run (GroupedWorld.Step self intake) before labels next) :
    Run (World.Step self intake) before.world
        (labels.flatMap GroupedAction.actions) next.world ∧
      ∀ stream id,
        (id ∈ (next.world.redis.streams stream).ids ∧
            id ∉ (next.world.redis.streams stream).acknowledged ↔
          id ∈ (next.groupOf stream).pending.map Pending.id ∨
            id ∈ (next.world.redis.streams stream).ids ∧
              (next.groupOf stream).lastDelivered < id) := by
  obtain ⟨groups, stands, refined⟩ := simulates.run run initial.sound
  refine ⟨?_, fun stream id => ?_⟩
  · have same : groups = labels.map GroupedAction.actions := by
      clear run refined
      induction stands with
      | nil => rfl
      | cons isActions _ inductionHypothesis =>
          rw [isActions, inductionHypothesis, List.map_cons]
    rw [List.flatMap_def, ← same]
    exact refined
  · exact ((GroupSound.run initial run).accounts stream).outstanding_iff

end Steps

end GroupedWorld

/-! ## An abandoned delivery -/

/-- A command, and its entry in the stream. -/
def leftRequest : NewCommand := smallRequest "alice" "A1" 500 1

def leftEntry : StreamEntry Request := smallEntry leftRequest 1 1

/-- The command is accepted, the group is created and a writer takes it. -/
def leftAccepted : GroupedWorld Request where
  world := mappedWorld.enqueued leftRequest 1

def leftReady : GroupedWorld Request := leftAccepted.setGroup 1 {}

def leftTaken : GroupedWorld Request :=
  { leftReady with
    world := leftReady.world.receive 1 [(0, leftEntry)] }.setGroup 1
      { lastDelivered := 1, pending := [⟨1, 0⟩] }

/-- The writer stops. -/
def leftBehind : GroupedWorld Request :=
  { leftTaken with world := leftTaken.world.setWriter 0 none }

def leftLabels : List (GroupedAction Request) :=
  [.other (.project 0 smallSnapshot), .other (.putProjection 0 700),
    .other (.enqueue leftRequest 1), .ensureGroup 1,
    .read 1 8 0 [(0, leftEntry)], .other (.crash 0)]

theorem run_leftBehind :
    Run (GroupedWorld.Step smallStore smallIntake) { world := smallWorld }
      leftLabels leftBehind := by
  have accepted :
      World.Step smallStore smallIntake mappedWorld
        (.enqueue leftRequest 1) leftAccepted.world :=
    .enqueue (by decide)
  have idle : leftReady.world.writers 0 = none := rfl
  have receives : leftReady.Receives 1 [1] [(0, leftEntry)] :=
    ⟨rfl, by simp, by simpa using idle⟩
  exact
    .cons (.other step_readWorld (by simp)) <|
    .cons (.other step_mappedWorld (by simp)) <|
    .cons (.other accepted (by simp)) <|
    .cons .ensureGroup <|
    .cons (.read rfl receives) <|
    .single (.other .crash (by simp))

/-- The entry was handed out once, and it is still pending. -/
theorem groups_refine_delivery_leftBehind :
    Run (World.Step smallStore smallIntake) smallWorld
        [.project 0 smallSnapshot, .putProjection 0 700,
          .enqueue leftRequest 1, .deliver 0 1 leftEntry, .crash 0]
        leftBehind.world ∧
      1 ∈ (leftBehind.world.redis.streams 1).ids ∧
      1 ∉ (leftBehind.world.redis.streams 1).acknowledged := by
  obtain ⟨refined, accounts⟩ :=
    GroupedWorld.groups_refine_delivery ⟨smallWorld_initial, rfl⟩
      run_leftBehind
  exact ⟨refined, (accounts 1 1).mpr (Or.inl (by decide))⟩

end FlashTicketing
